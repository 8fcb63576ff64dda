import LoggerTree.Json.Lines
import LoggerTree.Main
import LoggerTree.Proofs.Call.Guarded
import LoggerTree.Proofs.Call.Relayed
import LoggerTree.Proofs.Config.Thresholds
import LoggerTree.Proofs.Directives.Lookup
import LoggerTree.Proofs.Directives.Written
import LoggerTree.Proofs.Facade.Agreement
import LoggerTree.Proofs.Facade.Diagnostics
import LoggerTree.Proofs.Facade.Journal
import LoggerTree.Proofs.TypeText.Grammar
import LoggerTree.Session
import LoggerTree.Proofs.Name.Hierarchy
import LoggerTree.Proofs.CommandLine.Naming
import LoggerTree.Proofs.Directives.Reading
import LoggerTree.Proofs.Directives.Composition
import LoggerTree.Proofs.Directives.Representation
import LoggerTree.Proofs.Name.Canonical
import LoggerTree.Proofs.TypeText.Nesting
import LoggerTree.Proofs.Config.Fieldwise
import LoggerTree.Proofs.Subscriber.Installing

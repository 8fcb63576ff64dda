import LoggerTree.Inspect
import LoggerTree.Session.Step

/-! # Sessions

    A **session** works with the facade step by step. It has a backend of its own and makes
    factories over it. Each step reports its answer, the calls that the backend recorded, and the
    events that reached the subscriber.

    There are two kinds. A session of the first kind has a factory from the start and keeps its
    events to itself. The other has a process to itself: until it makes a factory it uses the
    global one, it can install a subscriber, and it has output streams and files.
-/

namespace LoggerTree

/-- What a session makes factories from. -/
inductive Session.Source where
  | capture (c : Capture)
  | relay (r : Relay)
  /-- Every factory has a backend of its own. -/
  | config (c : Config)

/-- Who takes the events. -/
inductive Session.Sink where
  | nobody
  /-- All events from a level on are kept. -/
  | record (least : Threshold)
  | subscriber (s : Subscriber)

/-- The state of a session. -/
structure Session where
  source : Session.Source
  facade : Facade := {}
  /-- The factory in use, where it is not the global one. -/
  own? : Option Nat := none
  /-- The global factory, once it has been set or used. -/
  global? : Option Nat := none
  /-- The numbers of backends and of factories that have been given away. The session's own
      backend has number 0. -/
  backendCount : Nat := 1
  factoryCount : Nat := 0
  /-- The loggers that were acquired once and for all, by their numbers. -/
  fixed : List (Acquisition × Nat) := []
  /-- How much of the journal has been reported. -/
  seen : Nat := 0
  /-- What it makes subscribers with. -/
  library : Subscriber.Library := .standard
  installation : Installation := {}
  stdout : String := ""
  stderr : String := ""
  /-- What stands for the time in lines of output. -/
  stamp : String := ""

namespace Session

/-! ### Backends and factories -/

/-- The backend that a source describes. -/
def Source.backend : Source → Backend
  | capture c => .capture c
  | relay r => .relay r
  | config c => c.backend

/-- A factory over a backend that the source describes. -/
def Source.factory (backend : Nat) : Source → Factory
  | config c => c.factory backend
  | capture _ | relay _ => { backend }

/-- The interest of those who take the events. -/
def Sink.interest : Sink → Target → Level → Bool
  | nobody, _, _ => false
  | record least, _, level => least.allows level
  | subscriber s, target, level => s.wants target level

/-- Adds a backend and gives its number. -/
def addBackend (s : Session) (b : Backend) : Nat × Session :=
  let number := s.backendCount
  (number, { s with
    facade := s.facade.alterBackend number fun _ => b, backendCount := number + 1 })

/-- Adds a factory and gives its number. -/
def addFactory (s : Session) (factory : Factory) : Nat × Session :=
  let number := s.factoryCount
  (number, { s with
    facade := s.facade.setFactory number factory, factoryCount := number + 1 })

/-- Makes a factory over the session's backend, or over a new one if the source is a
    configuration. -/
def makeFactory (s : Session) (strategy? : Option Strategy) : Nat × Session :=
  let (backend, s) := match s.source with
    | .config _ => s.addBackend s.source.backend
    | .capture _ | .relay _ => (0, s)
  let factory := s.source.factory backend
  s.addFactory { factory with strategy := strategy?.getD factory.strategy }

/-- The global factory. One that has not been set sends everything to the subscriber. -/
def global (s : Session) : Nat × Session :=
  match s.global? with
  | some k => (k, s)
  | none =>
    let (backend, s) := s.addBackend .plain
    let (k, s) := s.addFactory { backend }
    (k, { s with global? := some k })

/-- The factory in use. -/
def current (s : Session) : Nat × Session :=
  match s.own? with
  | some k => (k, s)
  | none => s.global

/-- A session that has a process to itself. -/
def alone (source : Source) (files : Files) (stamp : String) : Session :=
  { source, stamp, installation := { files },
    facade := { backends := fun b => if b = 0 then source.backend else .plain } }

/-- A session with a factory from the start. -/
def start (source : Source) (strategy? : Option Strategy) (sink : Sink) (stamp : String) :
    Session :=
  let s := alone source {} stamp
  let s := { s with facade := { s.facade with interest := sink.interest } }
  let (k, s) := s.makeFactory strategy?
  { s with own? := some k }

/-! ### Single steps -/

/-- The answer for the reply to a command. A logger that was acquired is the last one then. -/
def answerFor (f : Facade) : Reply → Answer
  | .logger l => .logger (f.loggers.length - 1) l.name
  | .name n => .name n
  | .enabled b => .enabled b
  | .built n => .built n
  | .done => .done
  | .panicked text => .panicked text
  | .noLogger number => .failed (.noLogger number)

/-- Carries out a command of the facade. -/
def command (s : Session) (c : Command) : Answer × Session :=
  let (reply, facade) := s.facade.step c
  (answerFor facade reply, { s with facade })

/-- Emits a message by a name. -/
def emit (s : Session) (name : Name) (level : Level) (message : String)
    (error : Option ErrorChain) : Answer × Session :=
  let (k, s) := s.current
  let (l, facade) := s.facade.handle (s.facade.factories k).backend name
  let (outcome, facade) := facade.emit l level message error
  let s := { s with facade }
  match outcome with
  | .ok () => (.name l.name, s)
  | .error text => (.panicked text, s)

/-- What the session's backend and the factory in use have come to. -/
def counts (s : Session) : Answer × Session :=
  let (k, s) := s.current
  let types := (s.facade.factories k).typeCount
  (.counts (match s.source, s.facade.backends 0 with
    | .config c, _ => .config c.directives types
    | _, .capture c => .capture c types
    | _, .relay r => .relay r types), s)

/-- Shows a part of the session. -/
def inspect (s : Session) : Inspected → Answer × Session
  | .logger number =>
    match s.facade.loggers[number]? with
    | some l => (.text (Inspect.logger l), s)
    | none => (.failed (.noLogger number), s)
  | .factory =>
    let (k, s) := s.current
    (.text (Inspect.factory (s.facade.factories k)), s)
  | .backend =>
    (.text (match s.source with
      | .config c => Inspect.config c
      | .capture _ | .relay _ => Inspect.backend (s.facade.backends 0)), s)

/-- Makes a new factory the global one, unless there is one. -/
def setGlobal (s : Session) (strategy? : Option Strategy) : Answer × Session :=
  match s.global? with
  | some _ => (.failed (.failure .factoryTaken), s)
  | none =>
    let (k, s) := s.makeFactory strategy?
    (.done, { s with global? := some k })

/-- Installs a subscriber, which then takes the events, first of all the one about itself. -/
def install (s : Session) (c : SubscriberConfig) : Answer × Session :=
  let (outcome, installation) := s.installation.install s.library c
  let s := { s with installation }
  match outcome, installation.installed with
  | .ok (), some (subscriber, _) =>
    let facade := { s.facade with interest := (Sink.subscriber subscriber).interest }
    (.done, { s with facade := facade.send (.subscriberInstalled c.level c.output) })
  | .ok (), none => (.done, s)
  | .error e, _ => (.failed (.failure (.subscriber e)), s)

/-- Acquires a logger from the global factory once and for all. -/
def acquireOnce (s : Session) (a : Acquisition) : Answer × Session :=
  match s.fixed.find? (·.1 = a) with
  | some (_, number) => s.command (.clone number)
  | none =>
    let (k, s) := s.global
    { s with fixed := (a, s.facade.loggers.length) :: s.fixed }.command (.acquire k a)

/-- Carries out a step. -/
def perform (s : Session) : Step → Answer × Session
  | .acquire a =>
    let (k, s) := s.current
    s.command (.acquire k a)
  | .acquireWith context strategy =>
    let (k, s) := s.current
    s.command (.acquireWith k context strategy)
  | .nameFor raw =>
    let (k, s) := s.current
    s.command (.nameFor k raw)
  | .clone number => s.command (.clone number)
  | .query number level => s.command (.query number level)
  | .call c => s.command (.call c)
  | .emit name level message error => s.emit (.ofChars name) level message error
  | .setDirectives d => s.command (.setDirectives 0 d)
  | .clear => { s with seen := 0 }.command (.clear 0)
  | .counts => s.counts
  | .naming =>
    let (k, s) := s.current
    (.strategy (s.facade.factories k).strategy, s)
  | .setStrategy strategy =>
    let (k, s) := s.current
    s.command (.setStrategy k strategy)
  | .newFactory strategy? =>
    let (k, s) := s.makeFactory strategy?
    (.done, { s with own? := some k })
  | .inspect what => s.inspect what
  | .setGlobal strategy? => s.setGlobal strategy?
  | .install c => s.install c
  | .acquireGlobal a =>
    let (k, s) := s.global
    s.command (.acquire k a)
  | .acquireOnce a => s.acquireOnce a
  | .rejected cause => (.failed cause, s)

/-! ### Reports -/

/-- What a step has come to. -/
structure Report where
  answer : Answer
  /-- The calls recorded during the step, where there is a journal. -/
  calls? : Option (List Entry)
  /-- The events that reached the subscriber during the step. -/
  events : List Event

/-- Writes events where the installed subscriber writes to. Without events nothing is touched. -/
def write (s : Session) (events : List Event) : Session :=
  match s.installation.installed, events with
  | none, _ | _, [] => s
  | some (subscriber, destination), events =>
    let text := subscriber.write s.stamp events
    match destination with
    | .stdout => { s with stdout := s.stdout ++ text }
    | .stderr => { s with stderr := s.stderr ++ text }
    | .file path =>
      let i := s.installation
      { s with installation := { i with files := i.files.append path text } }

/-- Carries out a step and reports what has come of it. -/
def step (s : Session) (step : Step) : Report × Session :=
  let delivered := s.facade.delivered.length
  let (answer, s) := s.perform step
  let events := s.facade.delivered.drop delivered
  let s := s.write events
  match s.facade.backends 0 with
  | .capture c =>
    (⟨answer, some (c.journal.drop s.seen), events⟩, { s with seen := c.journal.length })
  | .relay _ => (⟨answer, none, events⟩, s)

/-- Carries out steps one after the other. -/
def run (s : Session) : List Step → List Report × Session
  | [] => ([], s)
  | step :: steps =>
    let (report, s) := s.step step
    let (reports, s) := s.run steps
    (report :: reports, s)

end Session

end LoggerTree

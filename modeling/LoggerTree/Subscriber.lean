import LoggerTree.Files
import LoggerTree.Subscriber.Filter
import LoggerTree.Subscriber.Line

/-! # Subscribers

    A **subscriber** takes the events that its filter lets pass and writes each on a line. One
    subscriber can be installed for good, and then writes to an output stream or to a file.

    Subscribers are made with a **library** that reads filters and writes lines. Building and
    installing are the same with every library.
-/

namespace LoggerTree

/-! ### Subscribers -/

/-- What a subscriber takes, and how it writes an event at a time. -/
structure Subscriber where
  wants : Target → Level → Bool
  line : String → Event → String

/-- What subscribers are made with. -/
structure Subscriber.Library where
  /-- What the filter with a text lets pass, or what is wrong with the text, in words. -/
  readFilter : List Char → Except String (Target → Level → Bool)
  /-- An event at a time in writing, with its line end. -/
  writeLine : Layout → String → Event → String

/-- Why a subscriber cannot be built or installed. -/
inductive SubscriberError where
  | invalidFilter (cause : String)
  | openFailed (path : List Char) (cause : FileError)
  | alreadyInstalled
  deriving DecidableEq

/-- What is wrong, in words. -/
def SubscriberError.message : SubscriberError → String
  | invalidFilter cause => s!"invalid log filter: {cause}"
  | openFailed path cause =>
    s!"failed to open log file '{String.ofList path}': {cause.message}"
  | alreadyInstalled => "a global tracing subscriber is already installed"

/-- The text of the error behind this one. The filter's own text stands for it alone. -/
def SubscriberError.cause? : SubscriberError → Option String
  | openFailed _ cause => some cause.message
  | invalidFilter _ | alreadyInstalled => none

namespace Subscriber

/-- The subscriber that a configuration describes, made with a library. -/
def build (library : Library) (c : SubscriberConfig) : Except SubscriberError Subscriber :=
  let layout : Layout := { format := c.format, timestamps := c.timestamps, target := c.target }
  ((library.readFilter c.level).mapError .invalidFilter).map fun wants =>
    { wants, line := library.writeLine layout }

/-- The lines for events, each with the time `stamp`. -/
def write (s : Subscriber) (stamp : String) (events : List Event) : String :=
  String.join (events.map (s.line stamp))

/-- The library in use. It knows the filters that go by target and level. -/
def Library.standard : Library where
  readFilter := TargetFilter.read
  writeLine := Layout.line

/-- The subscriber that a configuration describes, made with the library in use. -/
def ofConfig (c : SubscriberConfig) : Except SubscriberError Subscriber :=
  build .standard c

end Subscriber

/-! ### Installing -/

/-- Where lines go. -/
inductive Destination where
  | stdout
  | stderr
  | file (path : FilePath)
  deriving DecidableEq

/-- Opens the output that a configuration names. A file that is missing is made. -/
def Destination.open (output : List Char) (files : Files) :
    Except SubscriberError (Destination × Files) :=
  if output = "stdout".toList then .ok (.stdout, files)
  else if output = "stderr".toList then .ok (.stderr, files)
  else
    ((files.openAppend output).mapError (.openFailed output)).map fun (path, files) =>
      (.file path, files)

/-- What has been installed, and the files that lines may go to. -/
structure Installation where
  installed : Option (Subscriber × Destination) := none
  files : Files := {}

namespace Installation

/-- Installs the subscriber of a configuration. The output is opened first, so that its file is
    there also when the filter is wrong or another subscriber has been installed. -/
def install (i : Installation) (library : Subscriber.Library) (c : SubscriberConfig) :
    Except SubscriberError Unit × Installation :=
  match Destination.open c.output i.files with
  | .error e => (.error e, i)
  | .ok (destination, files) =>
    let opened := { i with files }
    match Subscriber.build library c with
    | .error e => (.error e, opened)
    | .ok s =>
      if i.installed.isSome then (.error .alreadyInstalled, opened)
      else (.ok (), { opened with installed := some (s, destination) })

end Installation

end LoggerTree

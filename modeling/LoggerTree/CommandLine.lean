import LoggerTree.Config.Load
import LoggerTree.Text.Pad

/-! # The command line

    `name` prints the logger name for a type. `check` prints which levels a configuration file
    enables for a logger name.
-/

namespace LoggerTree.CommandLine

/-! ### Arguments -/

/-- What is asked for. -/
inductive Request where
  | name (typeText : List Char)
  | check (logger config : List Char)
  deriving DecidableEq

/-- What arguments come to. -/
inductive Arguments where
  | request (r : Request)
  | help
  | misuse
  deriving DecidableEq

/-- The file that is read if nothing else is said. -/
def defaultConfig : List Char := "lazylog.toml".toList

/-- An argument of a request. -/
inductive Argument where
  | value (s : List Char)
  | config (path : List Char)
  | help
  | misuse
  deriving DecidableEq

/-- A path of a configuration file, which may not be empty. -/
def Argument.ofPath (path : List Char) : Argument :=
  if path.isEmpty then .misuse else .config path

/-- Whether a text is taken for an option. A hyphen alone is a value. -/
def looksLikeOption (s : List Char) : Bool :=
  s.head? == some '-' && s ≠ ['-']

/-- Whether an argument asks for help. What follows the short option for it in the same argument is
    not looked at. -/
def asksForHelp (s : List Char) : Bool :=
  s = "--help".toList || (Text.after? "-h".toList s).isSome

/-- The path that follows the option for it within one argument. -/
def attachedPath? (s : List Char) : Option (List Char) :=
  ["--config=", "-c=", "-c"].findSome? fun option => Text.after? option.toList s

/-- The arguments behind the name of a request. Two hyphens make all that follows values. -/
def readArguments (takesConfig : Bool) : List (List Char) → List Argument
  | [] => []
  | s :: rest =>
    if s = "--".toList then rest.map .value
    else if !looksLikeOption s then .value s :: readArguments takesConfig rest
    else if asksForHelp s then .help :: readArguments takesConfig rest
    else if takesConfig ∧ (s = "-c".toList ∨ s = "--config".toList) then
      match rest with
      | [] => [.misuse]
      | path :: rest =>
        (if looksLikeOption path then .misuse else .ofPath path) ::
          readArguments takesConfig rest
    else
      match attachedPath? s with
      | some path =>
        (if takesConfig then .ofPath path else .misuse) :: readArguments takesConfig rest
      | none => .misuse :: readArguments takesConfig rest

/-- Takes arguments from left to right; at most one value and one path can be taken. -/
def collect : Option (List Char) → Option (List Char) → List Argument →
    Except Arguments (Option (List Char) × Option (List Char))
  | value?, config?, [] => .ok (value?, config?)
  | none, config?, .value s :: rest => collect (some s) config? rest
  | value?, none, .config path :: rest => collect value? (some path) rest
  | _, _, .help :: _ => .error .help
  | _, _, _ => .error .misuse

/-- The names that help can be asked for. -/
def commands : List (List Char) :=
  ["name".toList, "check".toList, "help".toList]

/-- The request that arguments make. `preset` is the path of the configuration file that the
    environment names. -/
def parse (preset : Option (List Char)) : List (List Char) → Arguments
  | [] => .misuse
  | command :: rest =>
    if asksForHelp command then .help
    else if command = "help".toList then
      match rest with
      | [] => .help
      | [topic] => if commands.contains topic then .help else .misuse
      | _ => .misuse
    else if command = "name".toList then
      match collect none none (readArguments false rest) with
      | .error e => e
      | .ok (some typeText, _) => .request (.name typeText)
      | .ok (none, _) => .misuse
    else if command = "check".toList then
      match collect none none (readArguments true rest) with
      | .error e => e
      | .ok (some logger, config?) =>
        let config := config?.getD (preset.getD defaultConfig)
        if config.isEmpty then .misuse else .request (.check logger config)
      | .ok (none, _) => .misuse
    else .misuse

/-! ### Answers -/

/-- What a run prints and exits with. -/
structure Output where
  exit : UInt8 := 0
  stdout : String := ""
  stderr : String := ""
  deriving DecidableEq

/-- The output for wrong arguments. -/
def misused : Output := { exit := 2 }

/-- The name for a type, and a note if it is not named after its own path alone. -/
def answerName (typeText : List Char) : Output :=
  match TypeText.erase typeText with
  | some ⟨path, higherKinded⟩ =>
    { stdout := s!"{(Name.ofChars path).toString}\n"
      stderr := if higherKinded then
          "note: generic arguments are generic; named by enclosing scopes\n"
        else "" }
  | none =>
    { stdout := s!"{(Name.ofChars typeText).toString}\n"
      stderr := "note: not a plain type path; named verbatim\n" }

/-- Whether a level passes, on a line. -/
def levelLine (d : Directives) (name : Name) (l : Level) : String :=
  let column : Text.Padding := { width := some 5 }
  let state := if d.enabled name l then "enabled" else "disabled"
  s!"  {String.ofList (column.apply l.display.toList)} {state}\n"

/-- The levels that a configuration enables for a name. -/
def answerCheck (c : Config) (name : Name) : String :=
  let d := c.directives
  s!"{name.toString} (threshold {(d.threshold name).display})\n" ++
  String.join (Level.all.map (levelLine d name))

/-- The report of an error that ends a run. -/
def failureReport (e : Config.LoadError) : String :=
  let causeLines := (Text.split '\n' (e.cause?.getD "").toList).map fun line =>
    "    " ++ String.ofList line ++ "\n"
  "Error: " ++ e.message?.getD "" ++ "\n\nCaused by:\n" ++ String.join causeLines

/-- The output for a request. `look` gives what can be read at the path of the configuration
    file, if there is anything. -/
def answer (look : List Char → Option (Except FileError String)) : Request → Output
  | .name typeText => answerName typeText
  | .check logger path =>
    let name := Name.ofChars logger
    match look path with
    | none =>
      { stdout := answerCheck {} name
        stderr := s!"{String.ofList path} not found, using defaults\n" }
    | some content =>
      match Config.ofRead path content with
      | .ok c => { stdout := answerCheck c name }
      | .error e => { exit := 1, stderr := failureReport e }

/-- The output for arguments. Asking for help is no mistake, and nothing is done then. -/
def run (look : List Char → Option (Except FileError String)) (preset : Option (List Char))
    (arguments : List (List Char)) : Output :=
  match parse preset arguments with
  | .request r => answer look r
  | .help => {}
  | .misuse => misused

/-- Arguments that make a request get the output for it. -/
theorem run_of_request {look : List Char → Option (Except FileError String)}
    {preset : Option (List Char)} {arguments : List (List Char)} {r : Request}
    (h : parse preset arguments = .request r) : run look preset arguments = answer look r := by
  rw [run, h]

end LoggerTree.CommandLine

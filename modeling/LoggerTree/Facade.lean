import LoggerTree.Backend

/-! # The facade

    The **facade** stands between code that logs and the backends. It holds the backends, the
    **factories** over them, the loggers that have been handed out, and the events that reached
    the subscriber.

    A factory turns contexts and types into names and asks its backend for the handle of a name.
    A **logger** is such a handle. Whether an event reaches the subscriber is up to the
    subscriber's interest in its target and level.
-/

namespace LoggerTree

/-! ### State -/

/-- A handle and the backend that made it. -/
structure Logger where
  backend : Nat
  handle : Handle
  deriving DecidableEq

namespace Logger

/-- The name of a logger. -/
def name (l : Logger) : Name :=
  l.handle.name

end Logger

/-- A factory over a backend. -/
structure Factory where
  backend : Nat := 0
  strategy : Strategy := .byType
  /-- The names of types that have been asked for, oldest first. -/
  typeNames : List (List Char × Name) := []
  deriving DecidableEq

namespace Factory

/-- The name kept for a type. -/
def typeName? (k : Factory) (raw : List Char) : Option Name :=
  (k.typeNames.find? (·.1 = raw)).map (·.2)

/-- The name that the factory would give to a type. -/
def resolveType (k : Factory) (raw : List Char) : Name :=
  (Context.ofType raw).resolve k.strategy

/-- The number of types whose names are kept. -/
def typeCount (k : Factory) : Nat :=
  k.typeNames.length

end Factory

/-- The state of the facade. Backends and factories are told apart by numbers. -/
structure Facade where
  /-- Whether the subscriber wants events of a target at a level. -/
  interest : Target → Level → Bool := fun _ _ => false
  backends : Nat → Backend := fun _ => .plain
  factories : Nat → Factory := fun _ => {}
  /-- The loggers that have been handed out, oldest first. -/
  loggers : List Logger := []
  /-- The events that reached the subscriber, oldest first. -/
  delivered : List Event := []

namespace Facade

/-! ### Changing the state -/

/-- Replaces a backend by what `change` makes of it. -/
def alterBackend (f : Facade) (b : Nat) (change : Backend → Backend) : Facade :=
  let backend := change (f.backends b)
  { f with backends := fun i => if i = b then backend else f.backends i }

/-- Puts a factory under a number. -/
def setFactory (f : Facade) (k : Nat) (factory : Factory) : Facade :=
  { f with factories := fun i => if i = k then factory else f.factories i }

/-- Sends an event to the subscriber, which takes it if it is interested. -/
def send (f : Facade) (e : Event) : Facade :=
  if f.interest e.target e.level then { f with delivered := f.delivered ++ [e] } else f

/-- Hands out a logger. -/
def hold (f : Facade) (l : Logger) : Facade :=
  { f with loggers := f.loggers ++ [l] }

@[simp] theorem backends_alterBackend_self (f : Facade) (b : Nat) (change : Backend → Backend) :
    (f.alterBackend b change).backends b = change (f.backends b) := by
  simp [alterBackend]

@[simp] theorem backends_alterBackend_ne {f : Facade} {b i : Nat} {change : Backend → Backend}
    (ne : i ≠ b) : (f.alterBackend b change).backends i = f.backends i := by
  simp [alterBackend, ne]

/-- A change that leaves the backend as it is leaves everything as it is. -/
theorem alterBackend_eq_self {f : Facade} {b : Nat} {change : Backend → Backend}
    (h : change (f.backends b) = f.backends b) : f.alterBackend b change = f := by
  have hbackends : (fun i => if i = b then change (f.backends b) else f.backends i) =
      f.backends := by
    funext i
    by_cases hi : i = b
    · rw [if_pos hi, h, hi]
    · rw [if_neg hi]
  simp only [alterBackend, hbackends]

@[simp] theorem factories_setFactory_self (f : Facade) (k : Nat) (factory : Factory) :
    (f.setFactory k factory).factories k = factory := by
  simp [setFactory]

@[simp] theorem backends_send (f : Facade) (e : Event) : (f.send e).backends = f.backends := by
  simp only [send]
  split <;> rfl

@[simp] theorem factories_send (f : Facade) (e : Event) :
    (f.send e).factories = f.factories := by
  simp only [send]
  split <;> rfl

@[simp] theorem loggers_send (f : Facade) (e : Event) : (f.send e).loggers = f.loggers := by
  simp only [send]
  split <;> rfl

@[simp] theorem interest_send (f : Facade) (e : Event) : (f.send e).interest = f.interest := by
  simp only [send]
  split <;> rfl

/-! ### Acquiring loggers -/

/-- The handle of a backend for a name, made on the first request. -/
def handle (f : Facade) (b : Nat) (name : Name) : Logger × Facade :=
  match (f.backends b).handles.find? name with
  | some h => (⟨b, h⟩, f)
  | none =>
    let h := (f.backends b).nextHandle name
    (⟨b, h⟩, (f.send (.handleCreated name)).alterBackend b (·.addHandle h))

/-- The logger of a factory for a name. -/
def named (f : Facade) (k : Nat) (name : Name) : Logger × Facade :=
  let (l, f) := f.handle (f.factories k).backend name
  (l, f.hold l)

/-- The logger of a factory for a context, named by a strategy of choice. -/
def loggerWith (f : Facade) (k : Nat) (context : Context) (strategy : Strategy) :
    Logger × Facade :=
  let name := context.resolve strategy
  (f.send (.nameResolved name strategy)).named k name

/-- The logger of a factory for a context. -/
def logger (f : Facade) (k : Nat) (context : Context) : Logger × Facade :=
  f.loggerWith k context (f.factories k).strategy

/-- The name of a type, kept from the first request on. -/
def nameFor (f : Facade) (k : Nat) (raw : List Char) : Name × Facade :=
  let factory := f.factories k
  match factory.typeName? raw with
  | some name => (name, f)
  | none =>
    let name := factory.resolveType raw
    (name, (f.send (.nameCached name raw)).setFactory k
      { factory with typeNames := factory.typeNames ++ [(raw, name)] })

/-- The logger of a factory for a type. -/
def loggerFor (f : Facade) (k : Nat) (raw : List Char) : Logger × Facade :=
  let (name, f) := f.nameFor k raw
  f.named k name

/-- Changes the strategy of a factory; the names it keeps stay. -/
def setStrategy (f : Facade) (k : Nat) (strategy : Strategy) : Facade :=
  f.setFactory k { f.factories k with strategy := strategy }

/-! ### Using loggers -/

/-- What an operation gives: a value, or the text of the panic it ends in. -/
abbrev Outcome (α : Type) := Except String α

/-- Whether a logger lets a level pass: the threshold of its handle and the subscriber both have
    a say, or else the thresholds of its backend alone. -/
def admits (f : Facade) (l : Logger) (level : Level) : Bool :=
  match l.handle.threshold? with
  | some t => t.allows level && f.interest .application level
  | none => (f.backends l.backend).directives.enabled l.name level

/-- Asks whether a level is enabled. -/
def query (f : Facade) (l : Logger) (level : Level) : Outcome Bool × Facade :=
  match (f.backends l.backend).queryFailure? with
  | some text => (.error text, f)
  | none =>
    let enabled := f.admits l level
    (.ok enabled, f.alterBackend l.backend (·.note (.queried l.name level enabled)))

/-- Emits a message without asking. -/
def emit (f : Facade) (l : Logger) (level : Level) (message : String)
    (error : Option ErrorChain) : Outcome Unit × Facade :=
  match f.backends l.backend with
  | .relay _ => (.ok (), f.send (.emitted l.name level message error))
  | b@(.capture _) =>
    let f := f.alterBackend l.backend
      (·.note (.emitted ⟨l.name, level, message, error.map (·.text)⟩))
    match b.emitFailure? with
    | some text => (.error text, f)
    | none => (.ok (), f)

end Facade

end LoggerTree

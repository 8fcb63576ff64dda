import LoggerTree.Name
import LoggerTree.TypeText

/-! # Contexts

    A **context** is the place a logger is asked for: the scopes around it, outermost first, and
    the type that owns the logger, if one is known. A naming strategy turns a context into a
    logger name, after the type or after the scopes.
-/

namespace LoggerTree

/-! ### Naming strategies -/

/-- What a singleton is named after. -/
inductive Strategy where
  /-- Its type. -/
  | byType
  /-- Its own symbol and the scopes around it. -/
  | bySymbol
  deriving DecidableEq

namespace Strategy

/-- The short word for a strategy. -/
def word : Strategy → String
  | byType => "type"
  | bySymbol => "symbol"

/-- The label of a strategy in events and in inspection texts. -/
def label : Strategy → String
  | byType => "ByType"
  | bySymbol => "BySymbol"

/-- The strategy for a word, with or without `by-` in front. -/
def ofWord? (s : String) : Option Strategy :=
  if s = "type" ∨ s = "by-type" then some .byType
  else if s = "symbol" ∨ s = "by-symbol" then some .bySymbol
  else none

end Strategy

/-- A word that is no strategy: trimmed, and in small ASCII letters. -/
structure StrategyError where
  word : List Char
  deriving DecidableEq

/-- What is wrong, in words. -/
def StrategyError.message (e : StrategyError) : String :=
  s!"unknown naming strategy '{String.ofList e.word}': expected type or symbol"

/-- Reads a strategy in any case of letters, blanks around it left aside. -/
def Strategy.parse (s : List Char) : Except StrategyError Strategy :=
  let word := (Text.trim s).map Char.toLower
  match Strategy.ofWord? (String.ofList word) with
  | some strategy => .ok strategy
  | none => .error ⟨word⟩

/-! ### Scopes -/

/-- What an enclosing item is. -/
inductive ScopeKind where
  /-- A module, reachable by its path alone. -/
  | module
  /-- Items of a module that stand for the module itself and add no segment. -/
  | companion
  /-- A type of its own. -/
  | type
  /-- A single value, reachable by its path alone. -/
  | singleton
  deriving DecidableEq

/-- The word for a kind of scope. -/
def ScopeKind.word : ScopeKind → String
  | module => "module"
  | companion => "companion"
  | type => "type"
  | singleton => "singleton"

/-- One enclosing item. -/
structure Scope where
  name : List Char
  kind : ScopeKind
  deriving DecidableEq

/-- The shape of the innermost scope. -/
inductive ContextKind where
  | topLevel
  | nested
  | singleton
  deriving DecidableEq

/-- The word for the shape of a context. -/
def ContextKind.word : ContextKind → String
  | topLevel => "top-level"
  | nested => "nested"
  | singleton => "singleton"

/-- Where a logger is asked for. -/
structure Context where
  /-- The enclosing items, outermost first. -/
  scopes : List Scope := []
  /-- The written form of the owning type. -/
  typeText : Option (List Char) := none
  deriving DecidableEq

namespace Context

/-! ### Making contexts -/

/-- No scope and no type. -/
def root : Context := {}

/-- The module at a path; empty parts of the path do not count. -/
def module (path : List Char) : Context :=
  { scopes := ((Text.splitPath path).filter (· ≠ [])).map (⟨·, .module⟩) }

/-- The scopes a type text gives: modules and then the type for a plain path, and otherwise one
    scope with the whole text. -/
def scopesOfType (raw : List Char) : List Scope :=
  match TypeText.erase raw with
  | some erased =>
    let parts := Text.splitPath erased.path
    parts.dropLast.map (⟨·, .module⟩) ++ [⟨parts.getLastD raw, .type⟩]
  | none => [⟨raw, .type⟩]

/-- The place a type itself owns. -/
def ofType (raw : List Char) : Context :=
  { scopes := scopesOfType raw, typeText := some raw }

/-- Attaches an owning type, in place of one attached before. -/
def typed (c : Context) (raw : List Char) : Context :=
  { c with typeText := some raw }

/-- Adds an innermost scope. -/
def push (c : Context) (s : Scope) : Context :=
  { c with scopes := c.scopes ++ [s] }

/-! ### Shape -/

/-- The shape of a list of scopes, innermost first. A type is nested only if the scope right
    around it is a type or a singleton. -/
def kindOf : List Scope → ContextKind
  | ⟨_, .singleton⟩ :: _ => .singleton
  | ⟨_, .type⟩ :: ⟨_, .type⟩ :: _ => .nested
  | ⟨_, .type⟩ :: ⟨_, .singleton⟩ :: _ => .nested
  | _ => .topLevel

/-- The shape of a context. -/
def kind (c : Context) : ContextKind :=
  kindOf c.scopes.reverse

/-! ### Names -/

/-- Whether a place is reachable by its path alone, being inside no type. -/
def isStatic (owners : List Scope) : Bool :=
  owners.all (·.kind ≠ .type)

/-- The names of the scopes that add a segment. -/
def segmentNames (scopes : List Scope) : List (List Char) :=
  (scopes.filter (·.kind ≠ .companion)).map (·.name)

/-- The names met on the way outward, innermost first. The walk passes over companions, and ends
    with the whole path of the first scope that is reachable by its path alone. -/
def outward : List Scope → List (List Char)
  | [] => []
  | s :: owners =>
    if s.kind = .companion then outward owners
    else if isStatic owners then segmentNames (s :: owners)
    else s.name :: outward owners

/-- The name after the scopes. -/
def symbolName (c : Context) : Name :=
  Name.ofChars (Text.joinDots (outward c.scopes.reverse).reverse)

/-- The name of all scopes that add a segment, outermost first. -/
def chainName (c : Context) : Name :=
  Name.ofChars (Text.joinDots (segmentNames c.scopes))

/-- The name after the type, where its text is a plain path without arguments of arguments. -/
def typeName? (c : Context) : Option Name :=
  match c.typeText.bind TypeText.erase with
  | some ⟨path, false⟩ => some (Name.ofChars path)
  | _ => none

/-- Whether the scopes alone give the name. -/
def isBySymbol (c : Context) (strategy : Strategy) : Bool :=
  match c.kind with
  | .nested => true
  | .singleton => strategy = .bySymbol
  | .topLevel => false

/-- The name a strategy gives a context: after the type, unless the scopes alone decide or the
    type gives none. -/
def resolve (c : Context) (strategy : Strategy) : Name :=
  if c.isBySymbol strategy then c.symbolName
  else c.typeName?.getD c.symbolName

end Context

/-- The name of the logger that a type owns. -/
def Name.ofType (raw : List Char) : Name :=
  (Context.ofType raw).resolve .byType

end LoggerTree

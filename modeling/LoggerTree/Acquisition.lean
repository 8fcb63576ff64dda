import LoggerTree.Facade

/-! # Ways to acquire a logger

    What code can write to get a logger from a factory: nothing at all for the module it stands
    in, a type, a name, a context, or a singleton of the module.
-/

namespace LoggerTree

/-- A way to acquire a logger. -/
inductive Acquisition where
  | module (path : List Char)
  | type (raw : List Char)
  | name (text : List Char)
  | context (c : Context)
  /-- A singleton of a module, with or without its type. -/
  | singleton (path symbol : List Char) (raw? : Option (List Char))
  deriving DecidableEq

/-- The context of a singleton of a module. -/
def Context.singleton (path symbol : List Char) (raw? : Option (List Char)) : Context :=
  let c := (Context.module path).push ⟨symbol, .singleton⟩
  match raw? with
  | some raw => c.typed raw
  | none => c

/-- Acquires a logger from a factory. -/
def Facade.acquire (f : Facade) (k : Nat) : Acquisition → Logger × Facade
  | .module path => f.logger k (.module path)
  | .type raw => f.loggerFor k raw
  | .name text => f.named k (.ofChars text)
  | .context c => f.logger k c
  | .singleton path symbol raw? => f.logger k (.singleton path symbol raw?)

end LoggerTree

import LoggerTree.Facade

/-! # Log calls

    A **call** logs a message that is built only when it is needed. Building a message may make
    calls itself, and may end in a panic, so that calls form trees.
-/

namespace LoggerTree

/-- How a call is written. -/
inductive Shape where
  /-- The operation of the level. -/
  | method
  /-- The operation that takes the level. -/
  | generic
  /-- The short form of the level. -/
  | brief
  /-- The short form that takes the level. -/
  | briefGeneric
  deriving DecidableEq

/-- A call on a logger, which goes by its place among the loggers that have been handed out. The
    inner calls are made, and the panic happens, while the message is built. -/
inductive Call where
  | mk (logger : Nat) (level : Level) (shape : Shape) (message : String)
      (error : Option ErrorChain) (inner : List Call) (panic : Option String)

namespace Call

/-! ### Parts of a call -/

/-- The number of the logger. -/
def logger : Call → Nat
  | mk number _ _ _ _ _ _ => number

/-- The level of the message. -/
def level : Call → Level
  | mk _ level _ _ _ _ _ => level

/-- How the call is written. -/
def shape : Call → Shape
  | mk _ _ shape _ _ _ _ => shape

/-- The message, once it is built. -/
def message : Call → String
  | mk _ _ _ message _ _ _ => message

/-- The attached error. -/
def error : Call → Option ErrorChain
  | mk _ _ _ _ error _ _ => error

/-- The calls made while the message is built. -/
def inner : Call → List Call
  | mk _ _ _ _ _ inner _ => inner

/-- The text of the panic that building the message ends in, after the inner calls. -/
def panic : Call → Option String
  | mk _ _ _ _ _ _ panic => panic

/-- What holds of no calls, and of a call in front of others if it holds of its inner calls and of
    the others, holds of all calls. -/
@[elab_as_elim]
theorem forest_induction {P : List Call → Prop} (nil : P [])
    (cons : ∀ (c : Call) (cs : List Call), P c.inner → P cs → P (c :: cs)) :
    ∀ cs : List Call, P cs
  | [] => nil
  | mk _ _ _ _ _ inner _ :: cs =>
    cons _ cs (forest_induction nil cons inner) (forest_induction nil cons cs)

end Call

end LoggerTree

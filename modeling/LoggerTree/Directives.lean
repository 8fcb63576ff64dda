import LoggerTree.Level
import LoggerTree.Name

/-! # Directives

    **Directives** give every logger name a threshold: a rule for some names, and a fallback for
    all others. The rule with the longest name that a logger lies within decides.

    The rules are kept in order of decreasing length in UTF-8, so that the first match is the
    longest one, and at most one rule stands for each name.
-/

namespace LoggerTree

/-- The threshold of one name and of the names below it that have no rule of their own. -/
structure Rule where
  name : Name
  threshold : Threshold
  deriving DecidableEq

/-- Thresholds by logger name. -/
structure Directives where
  /-- The threshold of names that no rule matches. -/
  fallback : Threshold := .atLeast .trace
  /-- The rules, longest name first. -/
  rules : List Rule := []
  deriving DecidableEq

/-- A name and the threshold to give it. -/
abbrev Assignment := Name × Threshold

namespace Directives

/-! ### Assigning -/

/-- Puts a rule before the first one with a shorter name. -/
def place (r : Rule) : List Rule → List Rule
  | [] => [r]
  | s :: rules =>
    if Text.byteLength s.name.chars < Text.byteLength r.name.chars then r :: s :: rules
    else s :: place r rules

/-- Gives a name a threshold, in place of the one it had. The root's threshold is the fallback. -/
def assign (d : Directives) (name : Name) (threshold : Threshold) : Directives :=
  if name.isRoot then { d with fallback := threshold }
  else { d with rules := place ⟨name, threshold⟩ (d.rules.filter (·.name ≠ name)) }

/-- Assigns from left to right. -/
def assignAll (d : Directives) (assignments : List Assignment) : Directives :=
  assignments.foldl (fun d (name, threshold) => d.assign name threshold) d

/-- The number of rules. -/
def size (d : Directives) : Nat :=
  d.rules.length

/-! ### Asking -/

/-- The threshold of a logger name. -/
def threshold (d : Directives) (name : Name) : Threshold :=
  match d.rules.find? fun r => name.isWithin r.name.chars with
  | some r => r.threshold
  | none => d.fallback

/-- Whether a logger name lets a level pass. -/
def enabled (d : Directives) (name : Name) (level : Level) : Bool :=
  (d.threshold name).allows level

/-! ### Small facts -/

@[simp] theorem assignAll_nil (d : Directives) : d.assignAll [] = d := rfl

@[simp] theorem assignAll_cons (d : Directives) (a : Assignment) (as : List Assignment) :
    d.assignAll (a :: as) = (d.assign a.1 a.2).assignAll as := rfl

theorem assignAll_append (d : Directives) (as bs : List Assignment) :
    d.assignAll (as ++ bs) = (d.assignAll as).assignAll bs :=
  List.foldl_append

@[simp] theorem assign_root (d : Directives) (t : Threshold) :
    d.assign .root t = { d with fallback := t } := by
  simp [assign]

/-- Placing a rule adds it and nothing else. -/
theorem mem_place {r s : Rule} {rules : List Rule} : s ∈ place r rules ↔ s = r ∨ s ∈ rules := by
  induction rules with
  | nil => simp [place]
  | cons t rules ih =>
    rw [place]
    split
    · simp
    · simp [ih, or_left_comm]

end Directives

end LoggerTree

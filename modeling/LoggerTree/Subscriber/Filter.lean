import LoggerTree.Event
import LoggerTree.Text.Alphanumeric
import LoggerTree.Text.Blank
import LoggerTree.Text.Split

/-! # Filters by target

    A subscriber takes the events that its **filter** lets pass. A filter is written as parts
    between commas, as in `warn,lazylog=debug`: a threshold for some targets, or one for all
    others. The part whose target is the longest start of an event's target decides.

    These are the filters that go by target and level. Parts that go by the spans around an event
    or by its fields have brackets, and are not known here.
-/

namespace LoggerTree

/-! ### Filters -/

/-- Thresholds by the start of a target. -/
structure TargetFilter where
  /-- At most one threshold for each start. -/
  starts : List (List Char × Threshold) := []
  /-- The threshold of targets that no start matches. -/
  others : Threshold := .off
  deriving DecidableEq

namespace TargetFilter

/-- Sets a threshold, in place of an earlier one for the same start or for all others. -/
def assign (f : TargetFilter) (start? : Option (List Char)) (t : Threshold) : TargetFilter :=
  match start? with
  | none => { f with others := t }
  | some start => { f with starts := f.starts.filter (·.1 ≠ start) ++ [(start, t)] }

/-- The one with the longer start; the first of two that are equally long. -/
def longer (a b : List Char × Threshold) : List Char × Threshold :=
  if a.1.length < b.1.length then b else a

/-- The threshold of a target. -/
def threshold (f : TargetFilter) (target : List Char) : Threshold :=
  match f.starts.filter fun s => s.1.isPrefixOf target with
  | [] => f.others
  | s :: rest => (rest.foldl longer s).2

/-- Whether the filter lets an event pass. -/
def enabled (f : TargetFilter) (target : Target) (level : Level) : Bool :=
  (f.threshold target.word.toList).allows level

end TargetFilter

/-! ### Reading -/

/-- What is wrong with a part. -/
inductive FilterError where
  | invalidPart
  | invalidThreshold
  deriving DecidableEq

/-- What is wrong, in words. -/
def FilterError.message : FilterError → String
  | invalidPart => "invalid filter directive"
  | invalidThreshold =>
    "error parsing level filter: expected one of \"off\", \"error\", \"warn\", \"info\", " ++
    "\"debug\", \"trace\", or a number 0-5"

namespace TargetFilter

/-- The threshold with a number, from the strictest on. -/
def numbered? (n : Nat) : Option Threshold :=
  Threshold.all.reverse[n]?

/-- A number in decimal digits, before which a plus sign may stand. -/
def numeral? (s : List Char) : Option Nat :=
  let digits := (Text.after? ['+'] s).getD s
  if digits.isEmpty || !digits.all Char.isDigit then none
  else some (digits.foldl (fun n c => n * 10 + (c.toNat - '0'.toNat)) 0)

/-- The threshold for a word in any case of ASCII letters, or for its number. -/
def threshold? (s : List Char) : Option Threshold :=
  match numeral? s with
  | some n => numbered? n
  | none => Threshold.all.find? (·.word = s.map Char.toLower)

/-- Whether a part may start with a character. -/
def isFirstChar (c : Char) : Bool :=
  c == '-' || c == ':' || c == '_' || Text.isAlphanumeric c

/-- Reads a part: a target and its threshold, or one of the two. A target alone is taken at every
    level. Blanks count as part of a target or of a threshold, and a target with an equals sign
    may have none in front. -/
def readPart (part : List Char) : Except FilterError (Option (List Char) × Threshold) :=
  if !(Text.trimStart part).head?.any isFirstChar then .error .invalidPart
  else
    match Text.cut? '=' part with
    | none =>
      if part.contains '[' then .error .invalidPart
      else
        match threshold? part with
        | some t => .ok (none, t)
        | none => .ok (some part, .atLeast .trace)
    | some (target, word) =>
      if target.contains '[' then .error .invalidPart
      else if target.head?.any Text.isBlank then .error .invalidThreshold
      else if word = [] then .ok (some target, .atLeast .trace)
      else
        match threshold? word with
        | some t => .ok (some target, t)
        | none => .error .invalidThreshold

/-- Reads a filter; empty parts are left out. -/
def parse (s : List Char) : Except FilterError TargetFilter :=
  ((Text.split ',' s).filter (· ≠ [])).foldlM (fun f part => do
    let (start?, t) ← readPart part
    return f.assign start? t) {}

/-- What the filter with a text lets pass, or what is wrong with the text, in words. -/
def read (s : List Char) : Except String (Target → Level → Bool) :=
  ((parse s).mapError (·.message)).map (·.enabled)

end TargetFilter

end LoggerTree

import LoggerTree.Proofs.Context.Resolution
import LoggerTree.Proofs.Name.Paths
import LoggerTree.Proofs.TypeText

/-! # Types as contexts

    The context that a type owns is never that of a singleton, so the strategy has no say in its
    name. Where its text has a path, the scopes are the parts of that path, and it does not matter
    whether the name is made of them or of the path itself.

    Main statements: `resolve_ofType`, all strategies name a type alike, and
    `Name.ofType_of_erase`, the name of a type is that of its path, whatever its arguments.
-/

namespace LoggerTree

namespace Context

/-! ### The shape of a type -/

/-- A type is inside modules only. -/
theorem exists_scopesOfType (raw : List Char) : ∃ (outer : List (List Char)) (last : List Char),
    scopesOfType raw = outer.map (⟨·, .module⟩) ++ [⟨last, .type⟩] := by
  unfold scopesOfType
  split
  · exact ⟨_, _, rfl⟩
  · exact ⟨[], raw, rfl⟩

theorem kind_ofType (raw : List Char) : (ofType raw).kind = .topLevel := by
  obtain ⟨outer, last, hscopes⟩ := exists_scopesOfType raw
  have hreverse : (ofType raw).scopes.reverse =
      ⟨last, .type⟩ :: outer.reverse.map (⟨·, .module⟩) := by
    show (scopesOfType raw).reverse = _
    rw [hscopes]
    simp
  rw [kind, hreverse]
  cases outer.reverse <;> rfl

/-- **All strategies name a type alike.** -/
theorem resolve_ofType (raw : List Char) (s : Strategy) :
    (ofType raw).resolve s = .ofType raw := by
  have hby (t : Strategy) : (ofType raw).isBySymbol t = false := by
    rw [isBySymbol, kind_ofType]
  rw [Name.ofType, resolve, resolve, hby, hby]

/-! ### Names of types -/

theorem segmentNames_append (outer inner : List Scope) :
    segmentNames (outer ++ inner) = segmentNames outer ++ segmentNames inner := by
  simp [segmentNames]

/-- Modules add one segment each. -/
theorem segmentNames_modules (parts : List (List Char)) :
    segmentNames (parts.map (⟨·, .module⟩)) = parts := by
  induction parts with
  | nil => rfl
  | cons w ws ih => exact congrArg (w :: ·) ih

/-- The scopes of a type with a path are the parts of the path. -/
theorem segmentNames_ofType {raw : List Char} {erased : TypeText.Erased}
    (h : TypeText.erase raw = some erased) :
    segmentNames (ofType raw).scopes = Text.splitPath erased.path := by
  have hne := Text.splitPath_ne_nil erased.path
  have hlast : (Text.splitPath erased.path).getLastD raw =
      (Text.splitPath erased.path).getLast hne := by
    rw [List.getLastD_eq_getLast?, List.getLast?_eq_some_getLast hne]
    rfl
  show segmentNames (scopesOfType raw) = _
  rw [scopesOfType, h]
  dsimp only
  rw [hlast, segmentNames_append, segmentNames_modules]
  -- The type is the last part again.
  exact List.dropLast_concat_getLast hne

end Context

namespace Name

/-- **The name of a type is that of its path.** Arguments do not matter, though those with
    arguments of their own take the way over the scopes. -/
theorem ofType_of_erase {raw : List Char} {erased : TypeText.Erased}
    (h : TypeText.erase raw = some erased) : ofType raw = ofChars erased.path := by
  have hchain : (Context.ofType raw).chainName = ofChars erased.path := by
    rw [Context.chainName, Context.segmentNames_ofType h, Text.joinDots_splitPath]
    exact ofChars_dotted (TypeText.isBlank_of_isPath (TypeText.isPath_of_erase h))
  have htype : (Context.ofType raw).typeName?.getD (Context.ofType raw).chainName =
      ofChars erased.path := by
    obtain ⟨path, higherKinded⟩ := erased
    cases higherKinded with
    | true =>
      have hnone : (Context.ofType raw).typeName? = none := by
        simp [Context.typeName?, Context.ofType, h]
      rw [hnone]
      exact hchain
    | false =>
      rw [Context.typeName?_of_hasPath ⟨raw, rfl, h⟩]
      rfl
  rw [ofType, Context.resolve_eq_ite, htype, hchain, ite_self]

/-- Without a path, the whole text is the one scope of the type and makes its name. -/
theorem ofType_of_erase_eq_none {raw : List Char} (h : TypeText.erase raw = none) :
    ofType raw = ofChars raw := by
  have htype : (Context.ofType raw).typeName? = none := by
    simp [Context.typeName?, Context.ofType, h]
  have hnames : Context.segmentNames (Context.ofType raw).scopes = [raw] := by
    show Context.segmentNames (Context.scopesOfType raw) = _
    rw [Context.scopesOfType, h]
    rfl
  have hchain : (Context.ofType raw).chainName = ofChars raw := by
    rw [Context.chainName, hnames, Text.joinDots, List.intercalate_singleton]
  rw [ofType, Context.resolve_eq_ite, htype, Option.getD_none, hchain, ite_self]

end Name

end LoggerTree

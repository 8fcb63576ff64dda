import LoggerTree.Proofs.Context.OfType

/-! # Places of a path

    A path of identifiers can be met as a module, as a type or a singleton in the module around
    it, with companions anywhere, or as the path of a type. All of these places have one name.

    Main statements: `Context.resolve_of_mem_places` and `Name.ofType_written`.
-/

namespace LoggerTree

open Text (joinDots joinPath IsIdentifier)

namespace Context

/-- The context without the scopes that add no segment. -/
def withoutCompanions (c : Context) : Context :=
  { c with scopes := c.scopes.filter (·.kind ≠ .companion) }

theorem withoutCompanions_push (c : Context) {s : Scope} (hs : s.kind ≠ .companion) :
    (c.push s).withoutCompanions = c.withoutCompanions.push s := by
  simp [withoutCompanions, push, hs]

/-- No module is a companion. -/
theorem withoutCompanions_module (path : List Char) :
    (module path).withoutCompanions = module path := by
  simp [withoutCompanions, module, List.filter_map, Function.comp_def]

/-- The places, without companions and types, that a path leads to: the module, and the type or
    the singleton in the module around it. -/
def places (outer : List (List Char)) (last : List Char) : List Context :=
  let around := module (joinPath outer)
  [module (joinPath (outer ++ [last])), around.push ⟨last, .type⟩, around.push ⟨last, .singleton⟩]

/-- The scopes of a module are the parts of its path. -/
theorem scopes_module {parts : List (List Char)} (h : ∀ w ∈ parts, IsIdentifier w) :
    (module (joinPath parts)).scopes = parts.map (⟨·, .module⟩) := by
  have hparts : (Text.splitPath (joinPath parts)).filter (· ≠ []) = parts := by
    by_cases hne : parts = []
    · subst hne
      rfl
    · rw [Text.splitPath_joinPath hne fun w hw => (h w hw).colon_not_mem]
      exact List.filter_eq_self.2 fun w hw => by simpa using (h w hw).ne_nil
  rw [module, hparts]

/-- **All places of a path have its name**, under every strategy and with companions anywhere. -/
theorem resolve_of_mem_places {outer : List (List Char)} {last : List Char}
    (h : ∀ w ∈ outer ++ [last], IsIdentifier w) {c : Context}
    (hc : c.withoutCompanions ∈ places outer last) (s : Strategy) :
    c.resolve s = ⟨joinDots (outer ++ [last])⟩ := by
  have houter : ∀ w ∈ outer, IsIdentifier w := fun w hw => h w (by simp [hw])
  have htype : c.typeText = none := by
    show c.withoutCompanions.typeText = none
    simp only [places, List.mem_cons, List.not_mem_nil, or_false] at hc
    rcases hc with hc | hc | hc <;> rw [hc] <;> rfl
  have hnames : c.withoutCompanions.scopes.map (·.name) = outer ++ [last] := by
    simp only [places, List.mem_cons, List.not_mem_nil, or_false] at hc
    rcases hc with hc | hc | hc
    · rw [hc, scopes_module h]
      simp [Function.comp_def]
    all_goals
      rw [hc, push, scopes_module houter]
      simp [Function.comp_def]
  -- The names of the scopes that are no companions make up the chain.
  have hchain : segmentNames c.scopes = outer ++ [last] := hnames
  rw [resolve_eq_chainName htype, chainName, hchain, Name.ofChars_joinDots h]

end Context

/-- **A type has the name of its path**, whatever marks and arguments it is written with. -/
theorem Name.ofType_written {outer : List (List Char)} {last : List Char}
    (h : ∀ w ∈ outer ++ [last], IsIdentifier w) (marks : List TypeText.Mark)
    (arguments? : Option (List Char)) :
    ofType (TypeText.written marks (joinPath (outer ++ [last])) arguments?) =
      ⟨joinDots (outer ++ [last])⟩ := by
  have hpath := TypeText.isPath_joinPath (by simp) h
  rw [ofType_of_erase (TypeText.erase_written hpath arguments? marks), ofChars_joinPath h,
    ofChars_joinDots h]

end LoggerTree

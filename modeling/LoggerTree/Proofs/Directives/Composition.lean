import LoggerTree.Proofs.Directives.Reading

/-! # Directives put together with commas

    A comma keeps what is before and behind it apart: nothing that is read in front has a say in
    what the pieces behind it ask for, or in what is wrong with them.

    Main statement: `reads_piecewise`. The fault that is reported is the leftmost one, and blanks
    make no difference where pieces begin and end.
-/

namespace LoggerTree.Directives

/-! ### One text behind another -/

section

variable {s t : List Char}

theorem parse_append_of_error {e : DirectiveError} (h : parse s = .error e) :
    parse (s ++ ',' :: t) = .error e := by
  obtain ⟨before, w, after, heq, hbefore, hw⟩ := parse_eq_error_iff.1 h
  apply parse_eq_error_iff.2
  refine ⟨before, w, after ++ filled t, ?_, hbefore, hw⟩
  rw [filled_append, heq]
  simp

theorem parse_append_of_ok_of_error {d : Directives} {e : DirectiveError} (hs : parse s = .ok d)
    (ht : parse t = .error e) : parse (s ++ ',' :: t) = .error e := by
  obtain ⟨as, has, -⟩ := parse_eq_ok_iff.1 hs
  obtain ⟨before, w, after, heq, hbefore, hw⟩ := parse_eq_error_iff.1 ht
  apply parse_eq_error_iff.2
  refine ⟨filled s ++ before, w, after, ?_, ?_, hw⟩
  · rw [filled_append, heq]
    simp
  · intro v hv
    rcases List.mem_append.1 hv with hv | hv
    · exact exists_asks_of_forall₂ has v hv
    · exact hbefore v hv

theorem parse_append_of_ok {d : Directives} {as : List Assignment} (hs : parse s = .ok d)
    (ht : List.Forall₂ Asks (filled t) as) : parse (s ++ ',' :: t) = .ok (d.assignAll as) := by
  obtain ⟨bs, hbs, rfl⟩ := parse_eq_ok_iff.1 hs
  apply parse_eq_ok_iff.2
  refine ⟨bs ++ as, ?_, (assignAll_append _ bs as).symm⟩
  rw [filled_append]
  exact List.rel_append hbs ht

end

/-! ### A single piece -/

section

variable {s : List Char} (h : ',' ∉ s)
include h

theorem exists_parse_eq_ok_iff_of_not_mem :
    (∃ d, parse s = .ok d) ↔ Text.Blank s ∨ ∃ a, Asks s a := by
  simp only [parse_eq_ok_iff, filled_of_not_mem h]
  by_cases hblank : Text.Blank s
  · rw [if_pos hblank]
    exact iff_of_true ⟨_, [], .nil, rfl⟩ (.inl hblank)
  · rw [if_neg hblank]
    constructor
    · rintro ⟨d, as, has, -⟩
      exact .inr (exists_asks_of_forall₂ has s (by simp))
    · intro hasks
      obtain ⟨a, ha⟩ := hasks.resolve_left hblank
      exact ⟨_, [a], .cons ha .nil, rfl⟩

theorem parse_eq_error_iff_of_not_mem {e : DirectiveError} :
    parse s = .error e ↔ ¬Text.Blank s ∧ Faulty s e := by
  rw [parse_eq_error_iff, filled_of_not_mem h]
  by_cases hblank : Text.Blank s
  · simp [hblank]
  · rw [if_neg hblank]
    constructor
    · rintro ⟨before, w, after, heq, -, hw⟩
      -- A list of one piece has nothing before the fault.
      obtain ⟨rfl, rfl⟩ : before = [] ∧ w = s := by
        cases before with
        | nil => exact ⟨rfl, (List.cons.inj heq).1.symm⟩
        | cons v before => simp at heq
      exact ⟨hblank, hw⟩
    · rintro ⟨-, hs⟩
      exact ⟨[], s, [], rfl, by simp, hs⟩

end

/-! ### Blanks -/

/-- The second list of pieces comes of the first by blank pieces put in between and by blanks put
    around pieces. -/
inductive Loosened : List (List Char) → List (List Char) → Prop where
  | nil : Loosened [] []
  | blank {b : List Char} {ws vs : List (List Char)} (hb : Text.Blank b) (rest : Loosened ws vs) :
      Loosened ws (b :: vs)
  | padded {b c w : List Char} {ws vs : List (List Char)} (hb : Text.Blank b)
      (hc : Text.Blank c) (rest : Loosened ws vs) : Loosened (w :: ws) ((b ++ w ++ c) :: vs)

/-- Texts that are put together with commas have their pieces one after another. -/
theorem pieces_intercalate (ws : List (List Char)) :
    pieces ([','].intercalate ws) = ws.flatMap pieces := by
  induction ws with
  | nil => rfl
  | cons w ws ih =>
    -- The last text has no comma behind it.
    cases ws with
    | nil => simp
    | cons v vs =>
      rw [List.intercalate_cons_of_ne_nil (by simp), List.append_assoc, List.singleton_append,
        pieces_eq_map_filled, filled_append, List.map_append, ← pieces_eq_map_filled,
        ← pieces_eq_map_filled, ih]
      rfl

theorem pieces_of_blank {s : List Char} (h : Text.Blank s) : pieces s = [] := by
  rw [pieces_eq_map_filled, filled_of_not_mem (h.not_mem (by decide)), if_pos h]
  rfl

/-- Blanks around a piece are not in the pieces that are read. -/
theorem pieces_pad {b c w : List Char} (hb : Text.Blank b) (hc : Text.Blank c) (h : ',' ∉ w) :
    pieces (b ++ w ++ c) = pieces w := by
  have hpadded : ',' ∉ b ++ w ++ c := by
    have hcomma : Text.isBlank ',' = false := by decide
    simp [hb.not_mem hcomma, hc.not_mem hcomma, h]
  rw [pieces, pieces, Text.split_of_not_mem hpadded, Text.split_of_not_mem h, List.map_singleton,
    List.map_singleton, Text.trim_pad hb hc]

theorem Loosened.flatMap_pieces {ws vs : List (List Char)} (h : Loosened ws vs)
    (hws : ∀ w ∈ ws, ',' ∉ w) : vs.flatMap pieces = ws.flatMap pieces := by
  induction h with
  | nil => rfl
  | blank hb _ ih => rw [List.flatMap_cons, pieces_of_blank hb, ih hws, List.nil_append]
  | padded hb hc _ ih =>
    obtain ⟨hw, hws⟩ := List.forall_mem_cons.1 hws
    rw [List.flatMap_cons, List.flatMap_cons, pieces_pad hb hc hw, ih hws]

/-- Blanks where pieces begin and end change nothing, and neither do blank pieces. -/
theorem parse_intercalate_of_loosened {s : List Char} {vs : List (List Char)}
    (h : Loosened (Text.split ',' s) vs) : parse ([','].intercalate vs) = parse s := by
  have hpieces := h.flatMap_pieces fun w hw => Text.not_mem_of_mem_split hw
  rw [← pieces_intercalate, ← pieces_intercalate, Text.intercalate_split] at hpieces
  rw [parse, parse, hpieces]

/-! ### The promise -/

/-- What is promised of reading a text, alone and with more behind it. -/
structure ReadsPiecewise (s : List Char) : Prop where
  /-- A fault in front is reported whatever follows, and one behind as if nothing stood in front. -/
  fault_in_front : ∀ t e, parse s = .error e → parse (s ++ ',' :: t) = .error e
  fault_behind : ∀ t d e, parse s = .ok d → parse t = .error e →
    parse (s ++ ',' :: t) = .error e
  /-- What the pieces behind ask for is assigned from left to right, on top of what was read in
      front. -/
  no_fault : ∀ t d d', parse s = .ok d → parse t = .ok d' →
    ∃ as, List.Forall₂ Asks (filled t) as ∧ parse (s ++ ',' :: t) = .ok (d.assignAll as)
  /-- A fault is the leftmost one. -/
  leftmost : ∀ e, parse s = .error e ↔ ∃ before w after, filled s = before ++ w :: after ∧
    (∀ v ∈ before, ∃ a, Asks v a) ∧ Faulty w e
  /-- A single piece is read exactly if it is blank or asks for something. -/
  accepted : ',' ∉ s → ((∃ d, parse s = .ok d) ↔ Text.Blank s ∨ ∃ a, Asks s a)
  refused : ',' ∉ s → ∀ e, parse s = .error e ↔ ¬Text.Blank s ∧ Faulty s e
  /-- Blank pieces and blanks around pieces do not matter. -/
  loosened : ∀ vs, Loosened (Text.split ',' s) vs → parse ([','].intercalate vs) = parse s

/-- **Directives are read piece by piece**, and the leftmost fault is reported. -/
theorem reads_piecewise (s : List Char) : ReadsPiecewise s where
  fault_in_front := fun _ _ => parse_append_of_error
  fault_behind := fun _ _ _ => parse_append_of_ok_of_error
  no_fault := by
    intro t d d' hs ht
    obtain ⟨as, has, -⟩ := parse_eq_ok_iff.1 ht
    exact ⟨as, has, parse_append_of_ok hs has⟩
  leftmost := fun _ => parse_eq_error_iff
  accepted := exists_parse_eq_ok_iff_of_not_mem
  refused := fun h _ => parse_eq_error_iff_of_not_mem h
  loosened := fun _ => parse_intercalate_of_loosened

/-- A piece without a name is at fault behind a text that is read, and in front of another fault;
    its threshold is not looked at. Blanks beyond ASCII do not count either. -/
theorem reads_piecewise_of_nameless :
    let front := "warn,a.b=off".toList
    let nameless := " :: = loud".toList
    let fault := DirectiveError.missingName ":: = loud".toList
    parse (front ++ ',' :: nameless) = .error fault ∧
      parse (nameless ++ ',' :: "loud".toList) = .error fault ∧
      parse "\u2003warn , ,a.b=off\t,".toList = parse front := by
  intro front nameless fault
  have hfront : parse front = .ok ⟨.atLeast .warn, [⟨Name.ofString "a.b", .off⟩]⟩ := rfl
  have hfaulty : Faulty (" :: ".toList ++ '=' :: " loud".toList) fault :=
    .unnamed (by decide) (by decide)
  have hnameless : parse nameless = .error fault :=
    ((reads_piecewise nameless).refused (by decide) fault).2 ⟨by decide, hfaulty⟩
  have hloosened : Loosened (Text.split ',' front)
      ["\u2003".toList ++ "warn".toList ++ " ".toList, " ".toList,
        [] ++ "a.b=off".toList ++ "\t".toList, []] :=
    .padded (by decide) (by decide) (.blank (by decide)
      (.padded (by decide) (by decide) (.blank (by decide) .nil)))
  refine ⟨?_, ?_, ?_⟩
  · exact (reads_piecewise front).fault_behind nameless _ _ hfront hnameless
  · exact (reads_piecewise nameless).fault_in_front _ _ hnameless
  · exact (reads_piecewise front).loosened _ hloosened

end LoggerTree.Directives

import LoggerTree.Proofs.Directives.Rules
import LoggerTree.Proofs.Name.Normal
import Mathlib.Data.Finset.Max

/-! # Directives and their written form

    Directives are written with a comma between any two pieces and an equals sign between a name
    and its threshold, and a name is made anew when a piece is read. So a name gets lost on the
    way if it holds one of the two signs, or if it is no normal name.

    Main statement: `parse_display_iff`. Reading the written form gives the same directives back
    exactly if no rule has such a name. For the hard direction, look at the longest of the names
    that get lost: every piece that comes of a name like that gives a shorter one, so no piece
    gives this name back.
-/

namespace LoggerTree

/-! ### Words -/

theorem Threshold.mem_word {t : Threshold} {c : Char} (h : c ∈ t.word) :
    c ≠ ',' ∧ c ≠ '=' ∧ Text.isBlank c = false := by
  have hword : t.word.all (fun c => c ≠ ',' ∧ c ≠ '=' ∧ Text.isBlank c = false) = true := by
    rcases t with l | _
    · cases l <;> decide
    · decide
  simpa using List.all_eq_true.1 hword c h

theorem Threshold.word_ne_nil (t : Threshold) : t.word ≠ [] := by
  rcases t with l | _
  · cases l <;> decide
  · decide

theorem Threshold.trim_word (t : Threshold) : Text.trim t.word = t.word := by
  apply Text.strip_eq_self
  · intro c hc
    exact (mem_word (List.mem_of_mem_head? hc)).2.2
  · intro c hc
    exact (mem_word (List.mem_of_mem_getLast? hc)).2.2

theorem Threshold.parse_word (t : Threshold) : Threshold.parse t.word = .ok t := by
  rw [Threshold.parse, trim_word, ofWord?_word]

namespace Directives

/-! ### Reading what rules are written as -/

/-- A rule whose name is read back as it was written. -/
def Readable (r : Rule) : Prop :=
  ',' ∉ r.name.chars ∧ '=' ∉ r.name.chars ∧ Name.ofChars r.name.chars = r.name

instance (r : Rule) : Decidable (Readable r) :=
  inferInstanceAs (Decidable (_ ∧ _ ∧ _))

theorem readPiece_word (t : Threshold) : readPiece t.word = .ok (.root, t) := by
  have hcut : Text.cut? '=' t.word = none :=
    Text.cut?_eq_none_iff.2 fun hmem => (Threshold.mem_word hmem).2.1 rfl
  simp [readPiece, hcut, Threshold.parse_word, Except.mapError, Except.map]

theorem comma_not_mem_displayRule {r : Rule} (h : ',' ∉ r.name.chars) :
    ',' ∉ displayRule r := by
  intro hmem
  rcases List.mem_append.1 hmem with hname | hrest
  · exact h hname
  · rcases List.mem_cons.1 hrest with heq | hword
    · exact absurd heq (by decide)
    · exact (Threshold.mem_word hword).1 rfl

theorem trim_displayRule {r : Rule} (hr : r.name ≠ .root) (h : Readable r) :
    Text.trim (displayRule r) = displayRule r := by
  apply Text.strip_eq_self
  · intro c hc
    have hhead : (displayRule r).head? = r.name.chars.head? := by
      rw [displayRule, List.head?_append_of_ne_nil _ (Name.chars_ne_nil hr)]
    rw [hhead] at hc
    exact Text.head?_of_strip_eq_self (Name.trim_of_ofChars_eq h.2.2) c hc
  · intro c hc
    have hlast : (displayRule r).getLast? = r.threshold.word.getLast? := by
      rw [displayRule, List.getLast?_append_cons, List.getLast?_cons]
      cases hw : r.threshold.word.getLast? with
      | none => exact absurd (List.getLast?_eq_none_iff.1 hw) r.threshold.word_ne_nil
      | some d => rfl
    rw [hlast] at hc
    exact (Threshold.mem_word (List.mem_of_mem_getLast? hc)).2.2

theorem readPiece_displayRule {r : Rule} (hr : r.name ≠ .root) (h : Readable r) :
    readPiece (displayRule r) = .ok (r.name, r.threshold) := by
  have hcut : Text.cut? '=' (displayRule r) = some (r.name.chars, r.threshold.word) :=
    Text.cut?_append h.2.1 _
  have hroot : r.name.isRoot = false := by
    rw [Bool.eq_false_iff]
    exact mt Name.isRoot_iff.1 hr
  simp [readPiece, hcut, h.2.2, hroot, Threshold.parse_word, Except.mapError, Except.map]

/-- The pieces of the written form, rule by rule. -/
theorem pieces_displayChars (d : Directives) :
    pieces d.displayChars =
      (((d.fallback.word :: d.rules.map displayRule).flatMap (Text.split ',')).map
        Text.trim).filter (· ≠ []) := by
  rw [pieces, displayChars, Text.split_intercalate]

/-- Where all names are read back, the pieces are the fallback and the rules. -/
theorem pieces_displayChars_of_readable {d : Directives} (hd : d.WellFormed)
    (h : ∀ r ∈ d.rules, Readable r) :
    pieces d.displayChars = d.fallback.word :: d.rules.map displayRule := by
  have hword : Text.split ',' d.fallback.word = [d.fallback.word] :=
    Text.split_of_not_mem fun hmem => (Threshold.mem_word hmem).1 rfl
  have hrules : (d.rules.map displayRule).flatMap (Text.split ',') = d.rules.map displayRule := by
    rw [List.flatMap_map, List.map_eq_flatMap]
    apply List.flatMap_congr
    intro r hr
    exact Text.split_of_not_mem (comma_not_mem_displayRule (h r hr).1)
  have htrim : (d.rules.map displayRule).map Text.trim = d.rules.map displayRule := by
    rw [List.map_map]
    apply List.map_congr_left
    intro r hr
    exact trim_displayRule (hd.not_root r hr) (h r hr)
  rw [pieces_displayChars, List.flatMap_cons, hword, hrules, List.singleton_append, List.map_cons,
    Threshold.trim_word, htrim, List.filter_eq_self]
  intro p hp
  rcases List.mem_cons.1 hp with rfl | hp
  · simpa using d.fallback.word_ne_nil
  · obtain ⟨r, -, rfl⟩ := List.mem_map.1 hp
    simp [displayRule]

theorem readPieces_map_displayRule {rules : List Rule}
    (h : ∀ r ∈ rules, r.name ≠ .root ∧ Readable r) :
    readPieces (rules.map displayRule) = .ok (rules.map fun r => (r.name, r.threshold)) := by
  induction rules with
  | nil => rfl
  | cons r rules ih =>
    obtain ⟨hroot, hread⟩ := h r (by simp)
    rw [List.map_cons, readPieces, readPiece_displayRule hroot hread,
      ih fun s hs => h s (by simp [hs])]
    rfl

/-! ### Assigning the rules once more -/

/-- Assigning rules in their order puts each one behind those before it. -/
theorem assignAll_rules {t : Threshold} (done : List Rule) {rest : List Rule}
    (h : WellFormed ⟨t, done ++ rest⟩) :
    assignAll ⟨t, done⟩ (rest.map fun r => (r.name, r.threshold)) = ⟨t, done ++ rest⟩ := by
  induction rest generalizing done with
  | nil => simp
  | cons r rest ih =>
    have hassign : assign ⟨t, done⟩ r.name r.threshold = ⟨t, done ++ [r]⟩ := by
      have hroot : ¬r.name.isRoot = true := mt Name.isRoot_iff.1 (h.not_root r (by simp))
      have hothers : done.filter (·.name ≠ r.name) = done := by
        rw [List.filter_eq_self]
        intro s hs
        simpa using (List.pairwise_append.1 h.distinct).2.2 s hs r (by simp)
      rw [assign, if_neg hroot, hothers, place_eq_append]
      intro s hs
      exact (List.pairwise_append.1 h.sorted).2.2 s hs r (by simp)
    rw [List.map_cons, assignAll_cons, hassign, ih]
    · simp
    · simpa using h

/-! ### Names that get lost -/

/-- Each assignment that is read comes of one of the pieces. -/
theorem exists_piece_of_readPieces {ps : List (List Char)} {as : List Assignment}
    (h : readPieces ps = .ok as) {a : Assignment} (ha : a ∈ as) :
    ∃ p ∈ ps, readPiece p = .ok a := by
  induction ps generalizing as with
  | nil =>
    cases h
    exact absurd ha (by simp)
  | cons p ps ih =>
    rw [readPieces] at h
    cases hp : readPiece p with
    | error e => simp [hp] at h
    | ok b =>
      simp only [hp] at h
      obtain ⟨bs, hps, rfl⟩ := exists_of_map_eq_ok h
      rcases List.mem_cons.1 ha with rfl | ha
      · exact ⟨p, by simp, hp⟩
      · obtain ⟨q, hq, hqa⟩ := ih hps ha
        exact ⟨q, by simp [hq], hqa⟩

/-- A piece gives the root, or the name of something in front of its first equals sign. -/
theorem name_of_readPiece_trim {x : List Char} {a : Assignment}
    (h : readPiece (Text.trim x) = .ok a) :
    a.1 = .root ∨
      ∃ left, left.Sublist (x.takeWhile (· ≠ '=')) ∧ a.1 = Name.ofChars left := by
  rw [readPiece] at h
  cases hcut : Text.cut? '=' (Text.trim x) with
  | none =>
    simp only [hcut] at h
    obtain ⟨t, -, rfl⟩ := exists_of_map_eq_ok h
    exact .inl rfl
  | some sides =>
    obtain ⟨left, right⟩ := sides
    simp only [hcut] at h
    split at h
    · exact absurd h (by simp)
    · obtain ⟨t, -, rfl⟩ := exists_of_map_eq_ok h
      refine .inr ⟨left, ?_, rfl⟩
      rw [Text.eq_takeWhile_of_cut? hcut]
      refine Text.takeWhile_strip_sublist ?_ x
      intro c hc
      have hne : c ≠ '=' := by
        rintro rfl
        exact absurd hc (by decide)
      simpa using hne

/-- What stands before an equals sign in a piece of `n=w` is no longer than `n`, and shorter
    where `n` holds a comma. -/
theorem length_takeWhile_of_mem_split {n w x : List Char} (hw : ',' ∉ w)
    (hx : x ∈ Text.split ',' (n ++ '=' :: w)) :
    (x.takeWhile (· ≠ '=')).length ≤ n.length ∧
      (',' ∈ n → (x.takeWhile (· ≠ '=')).length < n.length) := by
  induction n generalizing x with
  | nil =>
    have hmem : ',' ∉ '=' :: w := by simp [hw]
    rw [List.nil_append, Text.split_of_not_mem hmem] at hx
    obtain rfl := List.mem_singleton.1 hx
    simp
  | cons c n ih =>
    rw [List.cons_append, Text.split] at hx
    by_cases hc : c = ','
    · -- A comma ends the first piece, and the others come of a shorter name.
      rw [if_pos hc] at hx
      rcases List.mem_cons.1 hx with rfl | hx
      · simp
      · have hle := (ih hx).1
        simp only [List.length_cons]
        exact ⟨by omega, fun _ => by omega⟩
    · rw [if_neg hc] at hx
      obtain ⟨y, ys, hys⟩ := List.exists_cons_of_ne_nil (Text.split_ne_nil ',' (n ++ '=' :: w))
      rw [hys, List.modifyHead_cons] at hx
      rw [hys] at ih
      have hcomma : ',' ∈ c :: n → ',' ∈ n := by simp [Ne.symm hc]
      rcases List.mem_cons.1 hx with rfl | hx
      · obtain ⟨hle, hlt⟩ := ih (x := y) (by simp)
        have hcons : ((c :: y).takeWhile (· ≠ '=')).length ≤
            (y.takeWhile (· ≠ '=')).length + 1 := by
          rw [List.takeWhile_cons]
          split <;> simp
        simp only [List.length_cons]
        exact ⟨by omega, fun h => by have := hlt (hcomma h); omega⟩
      · have hle := (ih (x := x) (by simp [hx])).1
        simp only [List.length_cons]
        exact ⟨by omega, fun _ => by omega⟩

/-- **Names only shrink**: what comes of a rule that is not read back has a shorter name. -/
theorem length_lt_of_not_readable {r : Rule} (hroot : r.name ≠ .root) (hr : ¬Readable r)
    {x : List Char} (hx : x ∈ Text.split ',' (displayRule r)) {a : Assignment}
    (ha : readPiece (Text.trim x) = .ok a) : a.1.chars.length < r.name.chars.length := by
  have hpos : 0 < r.name.chars.length := List.length_pos_iff.2 (Name.chars_ne_nil hroot)
  rcases name_of_readPiece_trim ha with hname | ⟨left, hleft, hname⟩
  · rw [hname]
    exact hpos
  · rw [hname]
    have hofChars := Name.length_ofChars_le left
    have hsub := hleft.length_le
    obtain ⟨hle, hcomma⟩ := length_takeWhile_of_mem_split
      (fun hmem => (Threshold.mem_word hmem).1 rfl) hx
    by_cases hc : ',' ∈ r.name.chars
    · have := hcomma hc
      omega
    · -- Without a comma there is one piece, the whole rule.
      rw [Text.split_of_not_mem (comma_not_mem_displayRule hc)] at hx
      obtain rfl := List.mem_singleton.1 hx
      by_cases he : '=' ∈ r.name.chars
      · obtain ⟨l, m, heq, hl⟩ := List.eq_append_cons_of_mem he
        have htake : (displayRule r).takeWhile (· ≠ '=') = l := by
          rw [displayRule, heq, List.append_assoc]
          exact Text.takeWhile_append_cons hl _
        rw [htake] at hsub
        rw [heq, List.length_append, List.length_cons]
        omega
      · have htake : (displayRule r).takeWhile (· ≠ '=') = r.name.chars :=
          Text.takeWhile_append_cons he _
        rw [htake] at hleft hsub
        by_contra hnot
        -- Were the name as long as before, nothing would have been taken away from it.
        have hsame : left = r.name.chars := hleft.eq_of_length_le (by omega)
        have hnormal := Name.ofChars_eq_of_length_le (s := left) (by omega)
        rw [hsame] at hnormal
        exact hr ⟨hc, he, hnormal⟩

/-- A piece of the written form comes of the fallback or of a rule. -/
theorem mem_pieces_displayChars {d : Directives} {p : List Char}
    (h : p ∈ pieces d.displayChars) :
    p = d.fallback.word ∨
      ∃ r ∈ d.rules, ∃ x ∈ Text.split ',' (displayRule r), p = Text.trim x := by
  rw [pieces_displayChars] at h
  obtain ⟨x, hx, rfl⟩ := List.mem_map.1 (List.mem_filter.1 h).1
  rw [List.flatMap_cons] at hx
  rcases List.mem_append.1 hx with hx | hx
  · rw [Text.split_of_not_mem fun hmem => (Threshold.mem_word hmem).1 rfl] at hx
    obtain rfl := List.mem_singleton.1 hx
    exact .inl d.fallback.trim_word
  · obtain ⟨t, ht, hxt⟩ := List.mem_flatMap.1 hx
    obtain ⟨r, hr, rfl⟩ := List.mem_map.1 ht
    exact .inr ⟨r, hr, x, hxt, rfl⟩

/-- Directives that are read back have no names that get lost. -/
theorem readable_of_parse {d : Directives} (hd : d.WellFormed)
    (h : parse d.displayChars = .ok d) : ∀ r ∈ d.rules, Readable r := by
  by_contra hlost
  simp only [not_forall] at hlost
  obtain ⟨s, hs, hsr⟩ := hlost
  -- Take a rule with a name that gets lost, of greatest length.
  obtain ⟨r, hr, hlongest⟩ := Finset.exists_max_image
    (d.rules.filter (¬Readable ·)).toFinset (fun r => r.name.chars.length)
    ⟨s, by simpa using ⟨hs, hsr⟩⟩
  obtain ⟨hrd, hrr⟩ : r ∈ d.rules ∧ ¬Readable r := by simpa using hr
  -- The name of that rule has been read from some piece.
  obtain ⟨as, has, hassigned⟩ := exists_assignments_of_parse h
  have hname : r.name ∈ as.map (·.1) := by
    have hmem : r ∈ (({} : Directives).assignAll as).rules := by rw [hassigned]; exact hrd
    rcases name_mem_of_mem_assignAll hmem with hnil | hname
    · exact absurd hnil (by simp)
    · exact hname
  obtain ⟨a, ha, haname⟩ := List.mem_map.1 hname
  obtain ⟨p, hp, hpa⟩ := exists_piece_of_readPieces has ha
  have hroot := hd.not_root r hrd
  rcases mem_pieces_displayChars hp with rfl | ⟨t, ht, x, hx, rfl⟩
  · rw [readPiece_word] at hpa
    cases hpa
    exact hroot haname.symm
  · by_cases htr : Readable t
    · -- A rule that is read back gives its own name, which does not get lost.
      rw [Text.split_of_not_mem (comma_not_mem_displayRule htr.1)] at hx
      obtain rfl := List.mem_singleton.1 hx
      rw [trim_displayRule (hd.not_root t ht) htr,
        readPiece_displayRule (hd.not_root t ht) htr] at hpa
      cases hpa
      exact hrr (by unfold Readable at htr ⊢; rwa [← haname])
    · -- Another one gives a name shorter than its own, and that is no longer than the greatest.
      have hlt := length_lt_of_not_readable (hd.not_root t ht) htr hx hpa
      have hle := hlongest t (by simpa using ⟨ht, htr⟩)
      rw [haname] at hlt
      omega

/-- Directives without names that get lost are read back. -/
theorem parse_of_readable {d : Directives} (hd : d.WellFormed)
    (h : ∀ r ∈ d.rules, Readable r) : parse d.displayChars = .ok d := by
  have hread : readPieces (pieces d.displayChars) =
      .ok ((.root, d.fallback) :: d.rules.map fun r => (r.name, r.threshold)) := by
    rw [pieces_displayChars_of_readable hd h, readPieces, readPiece_word,
      readPieces_map_displayRule fun r hr => ⟨hd.not_root r hr, h r hr⟩]
    rfl
  have hassign : ({} : Directives).assign .root d.fallback = ⟨d.fallback, []⟩ := assign_root _ _
  -- The first piece replaces the fallback that reading starts from.
  have hall : ({} : Directives).assignAll
      ((.root, d.fallback) :: d.rules.map fun r => (r.name, r.threshold)) = d := by
    rw [assignAll_cons, hassign]
    exact assignAll_rules [] hd
  rw [parse, hread]
  exact congrArg Except.ok hall

/-! ### There and back -/

/-- Directives that come of a fallback alone, of a text, or of an assignment to such. -/
inductive Obtained : Directives → Prop where
  | plain (t : Threshold) : Obtained { fallback := t }
  | parse {s : List Char} {d : Directives} (h : Directives.parse s = .ok d) : Obtained d
  | assign {d : Directives} (h : Obtained d) (n : Name) (t : Threshold) : Obtained (d.assign n t)

theorem Obtained.wellFormed {d : Directives} (h : Obtained d) : d.WellFormed := by
  induction h with
  | plain t => exact wellFormed_plain t
  | parse h =>
    obtain ⟨as, -, rfl⟩ := exists_assignments_of_parse h
    exact (wellFormed_plain _).assignAll as
  | assign _ n t ih => exact ih.assign n t

/-- **Directives are read back from their written form exactly if every name in them is**: it
    holds neither sign, and it is the name that its own text stands for. -/
theorem parse_display_iff {d : Directives} (h : Obtained d) :
    parse d.display.toList = .ok d ↔
      ∀ r ∈ d.rules, ',' ∉ r.name.chars ∧ '=' ∉ r.name.chars ∧
        Name.ofChars r.name.chars = r.name := by
  rw [display, String.toList_ofList]
  exact ⟨readable_of_parse h.wellFormed, parse_of_readable h.wellFormed⟩

/-- A rule for `a.b` is read back. One for the parent of `a..b` is not: the dot at the end of
    that name gets lost. -/
theorem parse_display_iff_of_parent :
    let whole := ({ fallback := .atLeast .info } : Directives).assign (.ofString "a.b") .off
    let cut := whole.assign ((Name.ofString "a..b").parent?.getD .root) (.atLeast .warn)
    (Obtained whole ∧ parse whole.display.toList = .ok whole) ∧
      (Obtained cut ∧ parse cut.display.toList ≠ .ok cut) := by
  intro whole cut
  have hwhole : Obtained whole := (Obtained.plain _).assign _ _
  have hcut : Obtained cut := hwhole.assign _ _
  refine ⟨⟨hwhole, ?_⟩, ⟨hcut, ?_⟩⟩
  · exact (parse_display_iff hwhole).2 (by decide)
  · exact mt (parse_display_iff hcut).1 (by decide)

end Directives

end LoggerTree

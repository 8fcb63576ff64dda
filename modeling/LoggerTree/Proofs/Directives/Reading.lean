import LoggerTree.Proofs.Directives.Rules
import LoggerTree.Proofs.Text.Blanks
import Mathlib.Data.List.Forall2

/-! # Reading directives piece by piece

    What a piece asks for, or what is wrong with it, is said here for the piece as it stands, with
    the blanks around it, around its name and around its threshold. The reader trims all three.

    Main statement: `reads_piecewise`. A text is read as its pieces are, from left to right, and
    the first fault is what is reported, whatever is before and behind it.
-/

namespace LoggerTree.Directives

/-! ### Words for thresholds -/

/-- The words for a threshold, in small letters. -/
def wordsFor : Threshold → List (List Char)
  | .atLeast .warn => ["warn".toList, "warning".toList]
  | t => [t.word]

/-- A text says a threshold if it is one of the words for it, in any case of ASCII letters and with
    any blanks around it. -/
def Says (s : List Char) (t : Threshold) : Prop :=
  (Text.trim s).map Char.toLower ∈ wordsFor t

instance (s : List Char) (t : Threshold) : Decidable (Says s t) :=
  inferInstanceAs (Decidable (_ ∈ _))

theorem ofWord?_eq_some_iff {s : List Char} {t : Threshold} :
    Threshold.ofWord? s = some t ↔ s.map Char.toLower ∈ wordsFor t := by
  unfold Threshold.ofWord? Level.ofWord?
  generalize s.map Char.toLower = w
  dsimp only
  constructor
  · -- The reader tries `off`, then the second word for warnings, then the levels in turn.
    intro h
    split at h
    · next hoff =>
      cases h
      rw [hoff]
      decide
    · obtain ⟨l, hl, rfl⟩ := Option.map_eq_some_iff.1 h
      split at hl
      · next hwarning =>
        cases hl
        rw [hwarning]
        decide
      · have hword : l.word = w := by simpa using List.find?_some hl
        rw [← hword]
        cases l <;> decide
  · intro h
    rcases t with l | _
    · cases l with
      | warn =>
        simp only [wordsFor, List.mem_cons, List.not_mem_nil, or_false] at h
        rcases h with rfl | rfl <;> decide
      | trace | debug | info | error =>
        rw [List.mem_singleton.1 h]
        decide
    · rw [List.mem_singleton.1 h]
      decide

theorem parseThreshold_eq_ok_iff {s : List Char} {t : Threshold} :
    Threshold.parse s = .ok t ↔ Says s t := by
  rw [Says, ← ofWord?_eq_some_iff, Threshold.parse]
  cases Threshold.ofWord? (Text.trim s) <;> simp

/-- A text that says nothing is itself the fault. -/
theorem parseThreshold_eq_error {s : List Char} (h : ∀ t, ¬Says s t) :
    Threshold.parse s = .error ⟨s, true⟩ := by
  cases hword : Threshold.ofWord? (Text.trim s) with
  | none => rw [Threshold.parse, hword]
  | some t => exact absurd (ofWord?_eq_some_iff.1 hword) (h t)

/-- Blanks around a text do not change what it says. -/
theorem said_congr {r s : List Char} (h : Text.trim r = Text.trim s) (t : Threshold) :
    Says r t ↔ Says s t := by
  rw [Says, Says, h]

/-! ### Pieces -/

/-- What a piece asks for: with no equals sign a threshold for the root, and else a threshold,
    said behind the first equals sign, for the name that stands in front of it. -/
inductive Asks : List Char → Assignment → Prop where
  | fallback {s : List Char} {t : Threshold} (plain : '=' ∉ s) (said : Says s t) :
      Asks s (.root, t)
  | rule {l r : List Char} {t : Threshold} (first : '=' ∉ l) (named : Name.ofChars l ≠ .root)
      (said : Says r t) : Asks (l ++ '=' :: r) (Name.ofChars l, t)

/-- What is wrong with a piece: the name is that of the root, and then it does not matter what
    follows, or there is no threshold where one should be. -/
inductive Faulty : List Char → DirectiveError → Prop where
  | unnamed {l r : List Char} (first : '=' ∉ l) (root : Name.ofChars l = .root) :
      Faulty (l ++ '=' :: r) (.missingName (Text.trim (l ++ '=' :: r)))
  | fallback {s : List Char} (plain : '=' ∉ s) (said : ∀ t, ¬Says s t) :
      Faulty s (.level (Text.trim s) ⟨Text.trim s, true⟩)
  | rule {l r : List Char} (first : '=' ∉ l) (named : Name.ofChars l ≠ .root)
      (said : ∀ t, ¬Says r t) : Faulty (l ++ '=' :: r)
        (.level (Text.trim (l ++ '=' :: r)) ⟨Text.dropEndWhile Text.isBlank r, true⟩)

/-- A piece asks for something or is faulty. -/
theorem asks_or_faulty (s : List Char) : (∃ a, Asks s a) ∨ ∃ e, Faulty s e := by
  by_cases hmem : '=' ∈ s
  · obtain ⟨l, r, rfl, hl⟩ := List.eq_append_cons_of_mem hmem
    by_cases hroot : Name.ofChars l = .root
    · exact .inr ⟨_, .unnamed hl hroot⟩
    · by_cases hsaid : ∃ t, Says r t
      · obtain ⟨t, ht⟩ := hsaid
        exact .inl ⟨_, .rule hl hroot ht⟩
      · exact .inr ⟨_, .rule hl hroot (not_exists.1 hsaid)⟩
  · by_cases hsaid : ∃ t, Says s t
    · obtain ⟨t, ht⟩ := hsaid
      exact .inl ⟨_, .fallback hmem ht⟩
    · exact .inr ⟨_, .fallback hmem (not_exists.1 hsaid)⟩

/-- Reading a trimmed piece without an equals sign. -/
theorem readPiece_trim_of_not_mem {s : List Char} (h : '=' ∉ s) :
    readPiece (Text.trim s) =
      ((Threshold.parse (Text.trim s)).mapError (.level (Text.trim s))).map fun t =>
        (.root, t) := by
  have hcut : Text.cut? '=' (Text.trim s) = none :=
    Text.cut?_eq_none_iff.2 fun hmem => h ((Text.strip_sublist _ s).subset hmem)
  rw [readPiece, hcut]

/-- Reading a trimmed piece with one. The blanks around the two sides are gone on the outside
    only, which makes no difference to the name. -/
theorem readPiece_trim_of_cut {l : List Char} (h : '=' ∉ l) (r : List Char) :
    readPiece (Text.trim (l ++ '=' :: r)) =
      if Name.ofChars l = .root then .error (.missingName (Text.trim (l ++ '=' :: r)))
      else ((Threshold.parse (Text.dropEndWhile Text.isBlank r)).mapError
        (.level (Text.trim (l ++ '=' :: r)))).map fun t => (Name.ofChars l, t) := by
  have htrim : Text.trim (l ++ '=' :: r) =
      l.dropWhile Text.isBlank ++ '=' :: Text.dropEndWhile Text.isBlank r :=
    Text.strip_append_cons (by decide) l r
  have hcut : Text.cut? '=' (Text.trim (l ++ '=' :: r)) =
      some (l.dropWhile Text.isBlank, Text.dropEndWhile Text.isBlank r) := by
    rw [htrim]
    exact Text.cut?_append (fun hmem => h ((List.dropWhile_sublist _).subset hmem)) _
  have hname : Name.ofChars (l.dropWhile Text.isBlank) = Name.ofChars l := by
    rw [Name.ofChars, Name.ofChars, Text.trim, Text.trim, Text.strip_dropWhile]
  rw [readPiece, hcut]
  dsimp only
  rw [hname]
  simp only [Name.isRoot_iff]

/-- What a piece asks for is read. -/
theorem readPiece_of_asks {s : List Char} {a : Assignment} (h : Asks s a) :
    readPiece (Text.trim s) = .ok a := by
  cases h with
  | fallback plain said =>
    have hsaid := (said_congr (Text.trim_trim s) _).2 said
    rw [readPiece_trim_of_not_mem plain, parseThreshold_eq_ok_iff.2 hsaid]
    rfl
  | rule first named said =>
    have hsaid := (said_congr (Text.trim_dropEndWhile _) _).2 said
    rw [readPiece_trim_of_cut first, if_neg named, parseThreshold_eq_ok_iff.2 hsaid]
    rfl

/-- What is wrong with a piece is reported. -/
theorem readPiece_of_faulty {s : List Char} {e : DirectiveError} (h : Faulty s e) :
    readPiece (Text.trim s) = .error e := by
  cases h with
  | unnamed first root => rw [readPiece_trim_of_cut first, if_pos root]
  | fallback plain said =>
    rw [readPiece_trim_of_not_mem plain, parseThreshold_eq_error]
    · rfl
    · intro t ht
      exact said t ((said_congr (Text.trim_trim s) t).1 ht)
  | rule first named said =>
    rw [readPiece_trim_of_cut first, if_neg named, parseThreshold_eq_error]
    · rfl
    · intro t ht
      exact said t ((said_congr (Text.trim_dropEndWhile _) t).1 ht)

theorem readPiece_trim_eq_ok_iff {s : List Char} {a : Assignment} :
    readPiece (Text.trim s) = .ok a ↔ Asks s a := by
  refine ⟨?_, readPiece_of_asks⟩
  intro h
  rcases asks_or_faulty s with ⟨b, hb⟩ | ⟨e, he⟩
  · rw [readPiece_of_asks hb] at h
    cases h
    exact hb
  · rw [readPiece_of_faulty he] at h
    cases h

theorem readPiece_trim_eq_error_iff {s : List Char} {e : DirectiveError} :
    readPiece (Text.trim s) = .error e ↔ Faulty s e := by
  refine ⟨?_, readPiece_of_faulty⟩
  intro h
  rcases asks_or_faulty s with ⟨b, hb⟩ | ⟨f, hf⟩
  · rw [readPiece_of_asks hb] at h
    cases h
  · rw [readPiece_of_faulty hf] at h
    cases h
    exact hf

/-! ### Several pieces -/

/-- The pieces of a text that are not blank, as they stand. -/
def filled (s : List Char) : List (List Char) :=
  (Text.split ',' s).filter fun w => ¬Text.Blank w

theorem filled_append (s t : List Char) : filled (s ++ ',' :: t) = filled s ++ filled t := by
  rw [filled, Text.split_append_cons, List.filter_append]
  rfl

theorem filled_of_not_mem {s : List Char} (h : ',' ∉ s) :
    filled s = if Text.Blank s then [] else [s] := by
  rw [filled, Text.split_of_not_mem h, List.filter_singleton]
  by_cases hblank : Text.Blank s <;> simp [hblank]

theorem pieces_eq_map_filled (s : List Char) : pieces s = (filled s).map Text.trim := by
  rw [pieces, filled, List.filter_map]
  refine congrArg (List.map Text.trim) (List.filter_congr ?_)
  intro w _
  simp [Text.trim_eq_nil_iff]

/-- Pieces are read if each of them asks for something. -/
theorem readPieces_map_trim_eq_ok_iff {ws : List (List Char)} {as : List Assignment} :
    readPieces (ws.map Text.trim) = .ok as ↔ List.Forall₂ Asks ws as := by
  induction ws generalizing as with
  | nil =>
    rw [List.forall₂_nil_left_iff, List.map_nil, readPieces]
    simp [eq_comm]
  | cons w ws ih =>
    rw [List.map_cons, readPieces, List.forall₂_cons_left_iff]
    cases hread : readPiece (Text.trim w) with
    | error e =>
      apply iff_of_false (by simp)
      rintro ⟨b, bs, hb, -, -⟩
      rw [readPiece_of_asks hb] at hread
      cases hread
    | ok a =>
      have ha := readPiece_trim_eq_ok_iff.1 hread
      constructor
      · intro h
        obtain ⟨bs, hbs, rfl⟩ := exists_of_map_eq_ok h
        exact ⟨a, bs, ha, ih.1 hbs, rfl⟩
      · rintro ⟨b, bs, hb, hbs, rfl⟩
        rw [readPiece_of_asks hb] at hread
        cases hread
        simp only [ih.2 hbs]
        rfl

/-- Of several pieces the first that is faulty is reported. -/
theorem readPieces_map_trim_eq_error_iff {ws : List (List Char)} {e : DirectiveError} :
    readPieces (ws.map Text.trim) = .error e ↔ ∃ before w after, ws = before ++ w :: after ∧
      (∀ v ∈ before, ∃ a, Asks v a) ∧ Faulty w e := by
  induction ws with
  | nil => simp [readPieces]
  | cons w ws ih =>
    rw [List.map_cons, readPieces]
    cases hread : readPiece (Text.trim w) with
    | error f =>
      have hf := readPiece_trim_eq_error_iff.1 hread
      constructor
      · intro h
        cases h
        exact ⟨[], w, ws, rfl, by simp, hf⟩
      · rintro ⟨before, v, after, heq, hbefore, hv⟩
        cases before with
        | nil =>
          cases heq
          rw [readPiece_of_faulty hv] at hread
          cases hread
          rfl
        | cons u before =>
          cases heq
          obtain ⟨b, hb⟩ := hbefore w (by simp)
          rw [readPiece_of_asks hb] at hread
          cases hread
    | ok a =>
      have ha := readPiece_trim_eq_ok_iff.1 hread
      have hrest : (readPieces (ws.map Text.trim)).map (a :: ·) = .error e ↔
          readPieces (ws.map Text.trim) = .error e := by
        cases readPieces (ws.map Text.trim) <;> simp [Except.map]
      rw [hrest, ih]
      -- The first piece is read, so it goes in front of those before the fault.
      constructor
      · rintro ⟨before, v, after, rfl, hbefore, hv⟩
        refine ⟨w :: before, v, after, rfl, ?_, hv⟩
        rw [List.forall_mem_cons]
        exact ⟨⟨a, ha⟩, hbefore⟩
      · rintro ⟨before, v, after, heq, hbefore, hv⟩
        cases before with
        | nil =>
          cases heq
          rw [readPiece_of_faulty hv] at hread
          cases hread
        | cons u before =>
          cases heq
          exact ⟨before, v, after, rfl, (List.forall_mem_cons.1 hbefore).2, hv⟩

/-! ### Texts -/

/-- A text gives the assignments that its pieces ask for, from left to right. -/
theorem parse_eq_ok_iff {s : List Char} {d : Directives} :
    parse s = .ok d ↔
      ∃ as, List.Forall₂ Asks (filled s) as ∧ d = ({} : Directives).assignAll as := by
  rw [parse, pieces_eq_map_filled]
  constructor
  · intro h
    obtain ⟨as, has, rfl⟩ := exists_of_map_eq_ok h
    exact ⟨as, readPieces_map_trim_eq_ok_iff.1 has, rfl⟩
  · rintro ⟨as, has, rfl⟩
    rw [readPieces_map_trim_eq_ok_iff.2 has]
    rfl

/-- A text is refused for its leftmost fault. -/
theorem parse_eq_error_iff {s : List Char} {e : DirectiveError} :
    parse s = .error e ↔ ∃ before w after, filled s = before ++ w :: after ∧
      (∀ v ∈ before, ∃ a, Asks v a) ∧ Faulty w e := by
  rw [← readPieces_map_trim_eq_error_iff, parse, pieces_eq_map_filled]
  cases readPieces ((filled s).map Text.trim) <;> simp [Except.map]

theorem exists_asks_of_forall₂ {ws : List (List Char)} {as : List Assignment}
    (h : List.Forall₂ Asks ws as) : ∀ w ∈ ws, ∃ a, Asks w a := by
  induction h with
  | nil => simp
  | cons ha _ ih =>
    rw [List.forall_mem_cons]
    exact ⟨⟨_, ha⟩, ih⟩

end LoggerTree.Directives

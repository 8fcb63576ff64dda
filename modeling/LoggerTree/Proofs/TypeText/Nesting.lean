import LoggerTree.Proofs.Context.OfType
import LoggerTree.Proofs.Text.Ends
import LoggerTree.Proofs.TypeText

/-! # Brackets that belong together

    Erasure takes what is between the first `<` of a text and a `>` at its very end for the
    arguments. That they belong together is not looked at. In `app::Pool<u8>::get<u16>` they do
    not: the list that opens behind `app::Pool` is closed long before the end.

    Main statement: `erases_balanced`. It says which texts with balanced brackets have a path,
    that one argument list is dropped from them unless the text goes on behind that list, and that
    those which go on have a path just if they happen to end in a `>`.
-/

namespace LoggerTree.TypeText

open Text (Blank)

/-! ### Open brackets -/

/-- How many brackets are open at the end of a text, if so many are open in front of it. A bracket
    that closes none leaves no answer, and the `>` of an arrow is no bracket. -/
def openAfter : Nat → List Char → Option Nat
  | n, [] => some n
  | n, '-' :: '>' :: s => openAfter n s
  | n, '<' :: s => openAfter (n + 1) s
  | 0, '>' :: _ => none
  | n + 1, '>' :: s => openAfter n s
  | n, _ :: s => openAfter n s

/-- Each bracket has its partner. -/
def Balanced (s : List Char) : Prop :=
  openAfter 0 s = some 0

instance (s : List Char) : Decidable (Balanced s) :=
  inferInstanceAs (Decidable (openAfter 0 s = some 0))

/-- A text whose brackets have their partners in it, so that a `>` behind it closes what was
    opened before it. -/
structure Enclosed (s : List Char) : Prop where
  balanced : Balanced s
  no_arrow : s.getLast? ≠ some '-'

/-- A character that is no bracket and begins no arrow is passed over. -/
theorem openAfter_cons {c : Char} {s : List Char} (hopen : c ≠ '<') (hclose : c ≠ '>')
    (harrow : c = '-' → s.head? ≠ some '>') (n : Nat) : openAfter n (c :: s) = openAfter n s := by
  rw [openAfter]
  · intro rest hc hs
    exact harrow hc (by rw [hs]; rfl)
  · exact hopen
  · intro _ hc
    exact hclose hc
  · intro _ _ hc
    exact hclose hc

theorem getLast?_cons_of_eq_some {c d : Char} {s : List Char} (h : s.getLast? = some d) :
    (c :: s).getLast? = some d := by
  rw [List.getLast?_cons, h]
  rfl

/-- A text is read in two parts, as long as no arrow is cut in two. -/
theorem openAfter_append {s t : List Char} (h : s.getLast? = some '-' → t.head? ≠ some '>')
    (n : Nat) : openAfter n (s ++ t) = (openAfter n s).bind fun m => openAfter m t := by
  fun_induction openAfter n s with
  | case1 n => rfl
  | case2 n s ih =>
    rw [List.cons_append, List.cons_append, openAfter]
    exact ih fun hlast => h (getLast?_cons_of_eq_some (getLast?_cons_of_eq_some hlast))
  | case3 n s ih =>
    rw [List.cons_append, openAfter]
    exact ih fun hlast => h (getLast?_cons_of_eq_some hlast)
  | case4 s => rfl
  | case5 n s ih =>
    rw [List.cons_append, openAfter]
    exact ih fun hlast => h (getLast?_cons_of_eq_some hlast)
  | case6 n c s harrow hopen hclose hclose' ih =>
    have hgreater : c ≠ '>' := by
      rintro rfl
      cases n with
      | zero => exact hclose rfl rfl
      | succ n => exact hclose' n rfl rfl
    have hnext : c = '-' → (s ++ t).head? ≠ some '>' := by
      intro hc
      cases s with
      | nil => exact h (by rw [hc]; rfl)
      | cons d s =>
        intro hd
        exact harrow s hc (by rw [Option.some.inj hd])
    rw [List.cons_append, openAfter_cons hopen hgreater hnext]
    exact ih fun hlast => h (getLast?_cons_of_eq_some hlast)

/-- A text without brackets leaves open what was open. -/
theorem openAfter_of_forall {s : List Char} (h : ∀ c ∈ s, c ≠ '<' ∧ c ≠ '>') (n : Nat) :
    openAfter n s = some n := by
  induction s with
  | nil => rfl
  | cons c s ih =>
    obtain ⟨⟨hopen, hclose⟩, hs⟩ := List.forall_mem_cons.1 h
    have hnext : c = '-' → s.head? ≠ some '>' := by
      intro _ hhead
      exact (hs '>' (List.mem_of_mem_head? hhead)).2 rfl
    rw [openAfter_cons hopen hclose hnext, ih hs]

/-- In front of a text, what has no brackets and no half of an arrow makes no difference. -/
theorem openAfter_append_left {s : List Char} (h : ∀ c ∈ s, c ≠ '<' ∧ c ≠ '>')
    (hlast : s.getLast? ≠ some '-') (t : List Char) (n : Nat) :
    openAfter n (s ++ t) = openAfter n t := by
  rw [openAfter_append fun harrow => absurd harrow hlast, openAfter_of_forall h]
  rfl

/-- Behind a text, what has no brackets makes no difference. -/
theorem openAfter_append_right (s : List Char) {t : List Char} (h : ∀ c ∈ t, c ≠ '<' ∧ c ≠ '>')
    (n : Nat) : openAfter n (s ++ t) = openAfter n s := by
  have hhead : t.head? ≠ some '>' := fun hhead => (h '>' (List.mem_of_mem_head? hhead)).2 rfl
  rw [openAfter_append fun _ => hhead]
  cases openAfter n s with
  | none => rfl
  | some m => exact openAfter_of_forall h m

/-! ### Partners -/

/-- One `>` behind an enclosed text is one too many. -/
theorem Enclosed.openAfter_append_cons {inner : List Char} (h : Enclosed inner)
    (rest : List Char) : openAfter 0 (inner ++ '>' :: rest) = none := by
  have hbalanced : openAfter 0 inner = some 0 := h.balanced
  rw [openAfter_append fun harrow => absurd harrow h.no_arrow, hbalanced]
  rfl

theorem getLast?_cons_ne {c d : Char} {s : List Char} (hs : s.getLast? ≠ some d)
    (hc : s = [] → c ≠ d) : (c :: s).getLast? ≠ some d := by
  cases s with
  | nil => simpa using hc rfl
  | cons e s => rwa [List.getLast?_cons_cons]

/-- If all brackets are closed in the end, there is a `>` that closes the one which has been opened
    after `n` others. What stands before it closes the `m` that were opened later. -/
theorem exists_partner {s : List Char} {m n : Nat} (h : openAfter (m + n + 1) s = some 0) :
    ∃ inner rest, s = inner ++ '>' :: rest ∧ openAfter m inner = some 0 ∧
      inner.getLast? ≠ some '-' ∧ openAfter n rest = some 0 := by
  generalize hk : m + n + 1 = k at h
  fun_induction openAfter k s generalizing m with
  | case1 k =>
    cases h
    omega
  | case2 k s ih =>
    obtain ⟨inner, rest, rfl, hinner, hlast, hrest⟩ := ih hk h
    have hlast' : ('-' :: '>' :: inner).getLast? ≠ some '-' :=
      getLast?_cons_ne (getLast?_cons_ne hlast fun _ => by decide) nofun
    exact ⟨'-' :: '>' :: inner, rest, rfl, by rwa [openAfter], hlast', hrest⟩
  | case3 k s ih =>
    obtain ⟨inner, rest, rfl, hinner, hlast, hrest⟩ := ih (m := m + 1) (by omega) h
    have hlast' : ('<' :: inner).getLast? ≠ some '-' :=
      getLast?_cons_ne hlast fun _ => by decide
    exact ⟨'<' :: inner, rest, rfl, by rwa [openAfter], hlast', hrest⟩
  | case4 s => cases h
  | case5 k s ih =>
    cases m with
    | zero =>
      -- Nothing has been opened since, so this is the bracket that is looked for.
      obtain rfl : n = k := by omega
      exact ⟨[], s, rfl, rfl, by simp, h⟩
    | succ m =>
      obtain ⟨inner, rest, rfl, hinner, hlast, hrest⟩ := ih (m := m) (by omega) h
      have hlast' : ('>' :: inner).getLast? ≠ some '-' :=
        getLast?_cons_ne hlast fun _ => by decide
      exact ⟨'>' :: inner, rest, rfl, by rwa [openAfter], hlast', hrest⟩
  | case6 k c s harrow hopen hclose hclose' ih =>
    obtain ⟨inner, rest, rfl, hinner, hlast, hrest⟩ := ih hk h
    have hgreater : c ≠ '>' := by
      rintro rfl
      obtain ⟨k, rfl⟩ := Nat.exists_eq_add_one_of_ne_zero (by omega : k ≠ 0)
      exact hclose' k rfl rfl
    -- A `-` right before the `>` would have made an arrow with it.
    have hlast' : (c :: inner).getLast? ≠ some '-' := by
      apply getLast?_cons_ne hlast
      rintro rfl rfl
      exact harrow rest rfl rfl
    have hnext : c = '-' → inner.head? ≠ some '>' := by
      intro hc hhead
      obtain ⟨tail, rfl⟩ := List.head?_eq_some_iff.1 hhead
      exact harrow (tail ++ '>' :: rest) hc rfl
    exact ⟨c :: inner, rest, rfl, by rwa [openAfter_cons hopen hgreater hnext], hlast', hrest⟩

/-- The partner of a bracket is the only one it has. -/
theorem Enclosed.unique {s t u v : List Char} (hs : Enclosed s) (ht : Enclosed t)
    (h : s ++ '>' :: u = t ++ '>' :: v) : s = t ∧ u = v := by
  have hnot : ∀ {a b : List Char}, Enclosed a → Enclosed b → ∀ more, b ≠ a ++ '>' :: more := by
    rintro a b ha hb more rfl
    have hnone := ha.openAfter_append_cons more
    rw [show openAfter 0 (a ++ '>' :: more) = some 0 from hb.balanced] at hnone
    cases hnone
  rcases List.append_eq_append_iff.1 h with ⟨more, rfl, hmore⟩ | ⟨more, rfl, hmore⟩
  · cases more with
    | nil => exact ⟨by simp, by simpa using hmore⟩
    | cons c more =>
      obtain ⟨rfl, -⟩ := List.cons.inj hmore
      exact absurd rfl (hnot hs ht more)
  · cases more with
    | nil => exact ⟨by simp, by simpa using hmore.symm⟩
    | cons c more =>
      obtain ⟨rfl, -⟩ := List.cons.inj hmore
      exact absurd rfl (hnot ht hs more)

/-! ### Around a type -/

/-- Marks, with blanks before and behind each of them. -/
inductive Front : List Char → Prop where
  | blanks {b : List Char} (hb : Blank b) : Front b
  | mark {b front : List Char} (hb : Blank b) (mark : Mark) (hfront : Front front) :
    Front (b ++ (mark.chars ++ front))

theorem Front.append_blanks {b front : List Char} (hb : Blank b) (h : Front front) :
    Front (b ++ front) := by
  have happend : ∀ {c : List Char}, Blank c → Blank (b ++ c) := by
    intro c hc d hd
    exact (List.mem_append.1 hd).elim (hb d) (hc d)
  cases h with
  | blanks hc => exact .blanks (happend hc)
  | mark hc mark hfront =>
    rw [← List.append_assoc]
    exact .mark (happend hc) mark hfront

/-- Nothing around a type is a bracket or half of an arrow. -/
theorem Front.ne {front : List Char} (h : Front front) :
    ∀ c ∈ front, (c ≠ '<' ∧ c ≠ '>') ∧ c ≠ '-' := by
  have hblanks : ∀ {b : List Char}, Blank b → ∀ c ∈ b, (c ≠ '<' ∧ c ≠ '>') ∧ c ≠ '-' := by
    intro b hb c hc
    have hblank := hb c hc
    exact ⟨⟨Text.ne_of_isBlank hblank (by decide), Text.ne_of_isBlank hblank (by decide)⟩,
      Text.ne_of_isBlank hblank (by decide)⟩
  induction h with
  | blanks hb => exact hblanks hb
  | mark hb mark hfront ih =>
    intro c hc
    rcases List.mem_append.1 hc with hc | hc
    · exact hblanks hb c hc
    · rcases List.mem_append.1 hc with hc | hc
      · have hmark : ∀ d ∈ mark.chars, (d ≠ '<' ∧ d ≠ '>') ∧ d ≠ '-' := by
          cases mark <;> simp [Mark.chars]
        exact hmark c hc
      · exact ih c hc

theorem eq_of_afterMark? {s r : List Char} (h : afterMark? s = some r) :
    ∃ mark : Mark, s = mark.chars ++ r := by
  unfold afterMark? at h
  split at h
  · cases h
    exact ⟨.mutRef, rfl⟩
  · cases h
    exact ⟨.ref, rfl⟩
  · cases h
    exact ⟨.dyn, rfl⟩
  · cases h

/-- What is taken off in front of a type are marks and blanks. -/
theorem exists_front_unmarked (s : List Char) : ∃ front, Front front ∧ s = front ++ unmarked s := by
  fun_induction unmarked s with
  | case1 s hnone => exact ⟨[], .blanks (by simp [Blank]), rfl⟩
  | case2 s r hsome ih =>
    obtain ⟨front, hfront, heq⟩ := ih
    obtain ⟨mark, rfl⟩ := eq_of_afterMark? hsome
    have hblank : Blank (r.takeWhile Text.isBlank) := fun c hc => List.mem_takeWhile_imp hc
    refine ⟨[] ++ (mark.chars ++ (r.takeWhile Text.isBlank ++ front)),
      .mark (by simp [Blank]) mark (hfront.append_blanks hblank), ?_⟩
    have hrest : r = r.takeWhile Text.isBlank ++ (front ++ unmarked (Text.trimStart r)) := by
      rw [← heq]
      exact List.takeWhile_append_dropWhile.symm
    rw [List.nil_append, List.append_assoc, List.append_assoc, ← hrest]

/-- A type text without the marks in front of it and the blanks around it. -/
def body (raw : List Char) : List Char :=
  unmarked (Text.trim raw)

theorem exists_around (raw : List Char) :
    ∃ front back, raw = front ++ body raw ++ back ∧ Front front ∧ Blank back := by
  obtain ⟨before, back, hraw, hbefore, hback⟩ := Text.exists_of_strip Text.isBlank raw
  obtain ⟨front, hfront, htrim⟩ := exists_front_unmarked (Text.trim raw)
  refine ⟨before ++ front, back, ?_, hfront.append_blanks hbefore, hback⟩
  rw [List.append_assoc before, body, ← htrim]
  exact hraw

/-- Brackets are balanced in a type text if they are in what is left of it. -/
theorem balanced_body_iff {raw : List Char} : Balanced (body raw) ↔ Balanced raw := by
  obtain ⟨front, back, hraw, hfront, hback⟩ := exists_around raw
  have hback' : ∀ c ∈ back, c ≠ '<' ∧ c ≠ '>' := fun c hc =>
    ((Front.blanks hback).ne c hc).1
  have hlast : front.getLast? ≠ some '-' := fun hlast =>
    (hfront.ne '-' (List.mem_of_getLast? hlast)).2 rfl
  have hfront' : ∀ c ∈ front, c ≠ '<' ∧ c ≠ '>' := fun c hc => (hfront.ne c hc).1
  have hopen : openAfter 0 raw = openAfter 0 (body raw) := by
    conv_lhs => rw [hraw]
    rw [openAfter_append_right _ hback', openAfter_append_left hfront' hlast]
  rw [Balanced, Balanced, hopen]

/-! ### What erasure looks at -/

theorem isHigherKinded?_eq_some_iff {arguments : List Char} {higherKinded : Bool} :
    isHigherKinded? arguments = some higherKinded ↔ arguments = [] ∧ higherKinded = false ∨
      ∃ s, arguments = '<' :: s ∧ s.getLast? = some '>' ∧
        higherKinded = s.dropLast.contains '<' := by
  unfold isHigherKinded?
  split
  · simp [eq_comm]
  · next s =>
    split
    · next hlast => simp [hlast, eq_comm]
    · next hlast => simp [hlast]
  · next hnil hcons =>
    have hempty : arguments ≠ [] := hnil
    have hopen : ∀ s, arguments ≠ '<' :: s := hcons
    simp [hempty, hopen]

/-- A text is a path and what starts with the first bracket. -/
theorem erase_eq_some_iff {raw : List Char} {e : Erased} :
    erase raw = some e ↔ isPath e.path = true ∧ ∃ arguments, body raw = e.path ++ arguments ∧
      isHigherKinded? arguments = some e.higherKinded := by
  have herase : erase raw = if isPath ((body raw).takeWhile (· != '<')) then
      (isHigherKinded? ((body raw).dropWhile (· != '<'))).map
        (⟨(body raw).takeWhile (· != '<'), ·⟩)
      else none := rfl
  constructor
  · intro h
    refine ⟨isPath_of_erase h, (body raw).dropWhile (· != '<'), ?_⟩
    rw [herase] at h
    split at h
    · obtain ⟨higherKinded, hkind, rfl⟩ := Option.map_eq_some_iff.1 h
      exact ⟨List.takeWhile_append_dropWhile.symm, hkind⟩
    · cases h
  · rintro ⟨hpath, arguments, hbody, hkind⟩
    -- No bracket is in the path, and nothing else is in front of the arguments.
    have hfirst : arguments.takeWhile (· != '<') = [] ∧
        arguments.dropWhile (· != '<') = arguments := by
      rcases isHigherKinded?_eq_some_iff.1 hkind with ⟨rfl, -⟩ | ⟨s, rfl, -⟩
      · exact ⟨rfl, rfl⟩
      · exact ⟨rfl, rfl⟩
    have htake : (body raw).takeWhile (· != '<') = e.path := by
      rw [hbody, List.takeWhile_append_of_pos (ne_bracket_of_isPath hpath), hfirst.1,
        List.append_nil]
    have hdrop : (body raw).dropWhile (· != '<') = arguments := by
      rw [hbody, List.dropWhile_append_of_pos (ne_bracket_of_isPath hpath), hfirst.2]
    rw [herase, htake, hdrop, if_pos hpath, hkind]
    rfl

/-- Behind the list that closes, a text has to end in a `>` if it does not end there. -/
theorem getLast?_closed {inner rest : List Char} :
    (inner ++ '>' :: rest).getLast? = some '>' ↔ rest = [] ∨ rest.getLast? = some '>' := by
  cases rest with
  | nil => simp
  | cons c rest => simp [List.getLast?_append]

theorem contains_dropLast_closed {inner rest : List Char}
    (h : rest = [] ∨ rest.getLast? = some '>') :
    (inner ++ '>' :: rest).dropLast.contains '<' = (inner.contains '<' || rest.contains '<') := by
  rcases h with rfl | hlast
  · simp
  · -- The last character is no `<`, so it may stay.
    obtain ⟨init, rfl⟩ := List.getLast?_eq_some_iff.1 hlast
    have hdrop : (inner ++ '>' :: (init ++ ['>'])).dropLast = inner ++ '>' :: init := by
      rw [← List.cons_append, ← List.append_assoc, List.dropLast_concat]
    rw [hdrop]
    simp

/-! ### Texts with balanced brackets -/

/-- Nothing but an argument list has been dropped, if anything: the list opens right behind the
    path, and the very last character closes it. -/
def DropsOneList (raw : List Char) (e : Erased) : Prop :=
  body raw = e.path ∧ e.higherKinded = false ∨
    ∃ inner, Enclosed inner ∧ body raw = e.path ++ '<' :: (inner ++ ['>']) ∧
      e.higherKinded = inner.contains '<'

/-- Something stands behind the argument list of a path. -/
def GoesOn (raw path : List Char) : Prop :=
  ∃ inner rest, Enclosed inner ∧ rest ≠ [] ∧ body raw = path ++ '<' :: (inner ++ '>' :: rest)

/-- What follows a path in a text with balanced brackets. -/
theorem arguments_of_balanced {raw path s : List Char} (h : Balanced raw)
    (hpath : isPath path = true) (hbody : body raw = path ++ '<' :: s) :
    ∃ inner rest, Enclosed inner ∧ Balanced rest ∧ s = inner ++ '>' :: rest := by
  have hchars : ∀ c ∈ path, c ≠ '<' ∧ c ≠ '>' := by
    intro c hc
    constructor
    · rintro rfl
      exact not_mem_of_isPath hpath (by decide +kernel) hc
    · rintro rfl
      exact not_mem_of_isPath hpath (by decide +kernel) hc
  have hlast : path.getLast? ≠ some '-' := fun hlast =>
    not_mem_of_isPath hpath (by decide +kernel) (List.mem_of_getLast? hlast)
  have hopen : openAfter (0 + 0 + 1) s = some 0 := by
    have hbalanced : openAfter 0 (body raw) = some 0 := balanced_body_iff.2 h
    rwa [hbody, openAfter_append_left hchars hlast, openAfter] at hbalanced
  obtain ⟨inner, rest, rfl, hinner, harrow, hrest⟩ := exists_partner (m := 0) (n := 0) hopen
  exact ⟨inner, rest, ⟨hinner, harrow⟩, hrest, rfl⟩

/-- What is to be known about erasing a text. -/
structure ErasesNested (raw : List Char) : Prop where
  /-- Marks and blanks are around what is looked at. -/
  around : ∃ front back, raw = front ++ body raw ++ back ∧ Front front ∧ Blank back
  /-- A path is found if it stands alone, or if an argument list follows it that ends the text. If
      more follows, the path is found all the same where the text ends in a `>`. -/
  erased : ∀ e, erase raw = some e ↔ isPath e.path = true ∧
    (body raw = e.path ∧ e.higherKinded = false ∨
      ∃ inner rest, Enclosed inner ∧ Balanced rest ∧
        body raw = e.path ++ '<' :: (inner ++ '>' :: rest) ∧
        (rest = [] ∨ rest.getLast? = some '>') ∧
        e.higherKinded = (inner.contains '<' || rest.contains '<'))
  /-- So more than one argument list is dropped if the text goes on, and only then. -/
  one_list : ∀ e, erase raw = some e → (DropsOneList raw e ↔ ¬GoesOn raw e.path)
  /-- Whatever is dropped, the type is named after the path. -/
  name : ∀ e, erase raw = some e → Name.ofType raw = .ofChars e.path

theorem erased_of_balanced {raw : List Char} (h : Balanced raw) (e : Erased) :
    erase raw = some e ↔ isPath e.path = true ∧
      (body raw = e.path ∧ e.higherKinded = false ∨
        ∃ inner rest, Enclosed inner ∧ Balanced rest ∧
          body raw = e.path ++ '<' :: (inner ++ '>' :: rest) ∧
          (rest = [] ∨ rest.getLast? = some '>') ∧
          e.higherKinded = (inner.contains '<' || rest.contains '<')) := by
  rw [erase_eq_some_iff]
  refine and_congr_right fun hpath => ⟨?_, ?_⟩
  · rintro ⟨arguments, hbody, hkind⟩
    rcases isHigherKinded?_eq_some_iff.1 hkind with ⟨rfl, hflat⟩ | ⟨s, rfl, hlast, hkind⟩
    · exact .inl ⟨by rw [hbody, List.append_nil], hflat⟩
    · obtain ⟨inner, rest, hinner, hrest, rfl⟩ := arguments_of_balanced h hpath hbody
      have hend := getLast?_closed.1 hlast
      exact .inr ⟨inner, rest, hinner, hrest, hbody, hend,
        by rw [hkind, contains_dropLast_closed hend]⟩
  · rintro (⟨hbody, hflat⟩ | ⟨inner, rest, -, -, hbody, hend, hkind⟩)
    · exact ⟨[], by rw [hbody, List.append_nil],
        isHigherKinded?_eq_some_iff.2 (.inl ⟨rfl, hflat⟩)⟩
    · exact ⟨_, hbody, isHigherKinded?_eq_some_iff.2 (.inr ⟨_, rfl, getLast?_closed.2 hend,
        by rw [hkind, contains_dropLast_closed hend]⟩)⟩

theorem dropsOneList_iff {raw : List Char} (h : Balanced raw) {e : Erased}
    (herase : erase raw = some e) : DropsOneList raw e ↔ ¬GoesOn raw e.path := by
  obtain ⟨-, hcases⟩ := (erased_of_balanced h e).1 herase
  constructor
  · rintro (⟨halone, -⟩ | ⟨inner, hinner, hbody, -⟩) ⟨inner', rest, hinner', hne, hbody'⟩
    · rw [halone] at hbody'
      simp at hbody'
    · -- The bracket behind the path has one partner only, and that is the last character.
      rw [hbody] at hbody'
      have hsame := (List.cons.inj (List.append_cancel_left hbody')).2
      exact hne (hinner.unique hinner' hsame).2.symm
  · intro hnot
    rcases hcases with halone | ⟨inner, rest, hinner, -, hbody, -, hkind⟩
    · exact .inl halone
    · have hrest : rest = [] := by
        by_contra hne
        exact hnot ⟨inner, rest, hinner, hne, hbody⟩
      subst hrest
      exact .inr ⟨inner, hinner, hbody, by simpa using hkind⟩

/-- **Erasure drops one argument list unless the text goes on behind it.** -/
theorem erases_balanced {raw : List Char} (h : Balanced raw) : ErasesNested raw where
  around := exists_around raw
  erased := erased_of_balanced h
  one_list := fun _ => dropsOneList_iff h
  name := fun _ => Name.ofType_of_erase

/-- A reference to a method of a pool of callbacks. The text goes on behind the arguments of the
    pool, in which there is an arrow. -/
theorem erases_balanced_of_method :
    let raw := " &mut app::Pool<fn(u8) -> u8>::get<u16>".toList
    let e : Erased := ⟨"app::Pool".toList, true⟩
    Balanced raw ∧ erase raw = some e ∧ GoesOn raw e.path ∧ ¬DropsOneList raw e ∧
      Name.ofType raw = .ofString "app.Pool" := by
  intro raw e
  have hbalanced : Balanced raw := by decide +kernel
  obtain ⟨-, herased, hone, hname⟩ := erases_balanced hbalanced
  have hinner : Enclosed "fn(u8) -> u8".toList := ⟨by decide +kernel, by decide +kernel⟩
  have hbody : body raw =
      e.path ++ '<' :: ("fn(u8) -> u8".toList ++ '>' :: "::get<u16>".toList) := by
    decide +kernel
  have herase : erase raw = some e := (herased e).2 ⟨by decide +kernel, .inr
    ⟨_, _, hinner, by decide +kernel, hbody, by decide +kernel, by decide +kernel⟩⟩
  have hon : GoesOn raw e.path := ⟨_, _, hinner, by decide +kernel, hbody⟩
  refine ⟨hbalanced, herase, hon, fun hdrops => (hone e herase).1 hdrops hon, ?_⟩
  rw [hname e herase]
  decide +kernel

/-- In `app::Pool<u8>::get<u16>` each bracket has its partner, and the partner of the first one is
    not the last character. The path is found even so, and the method is named after the pool. -/
theorem not_dropsOneList_of_method :
    let raw := "app::Pool<u8>::get<u16>".toList
    Balanced raw ∧ ∃ e, erase raw = some e ∧ ¬DropsOneList raw e ∧
      Name.ofType raw = Name.ofType "app::Pool".toList := by
  intro raw
  refine ⟨by decide +kernel, ⟨"app::Pool".toList, true⟩, by decide +kernel, ?_, by decide +kernel⟩
  have hbody : body raw = "app::Pool".toList ++ '<' :: ("u8>::get<u16".toList ++ ['>']) := by
    decide +kernel
  rintro (⟨-, hflat⟩ | ⟨inner, hinner, hlisted, -⟩)
  · cases hflat
  · rw [hbody] at hlisted
    have hsame := (List.cons.inj (List.append_cancel_left hlisted)).2
    have hbalanced := hinner.balanced
    rw [← List.append_cancel_right hsame] at hbalanced
    exact absurd hbalanced (by decide +kernel)

end LoggerTree.TypeText

import LoggerTree.Proofs.Text.Paths
import LoggerTree.TypeText

/-! # Written types

    A type text can be put together from **marks** in front, a path, and an **argument list**
    behind it. Neither blanks nor brackets stand in a path, so the text comes apart again.

    Main statement: `erase_written`. Erasure finds the path that a type text was written with.
-/

namespace LoggerTree.TypeText

open Text (joinPath IsIdentifier)

/-! ### Paths -/

theorem isBlank_of_isPathChar {c : Char} (h : isPathChar c = true) : Text.isBlank c = false := by
  simp only [isPathChar, Bool.or_eq_true, beq_iff_eq] at h
  rcases h with (halnum | rfl) | rfl
  · exact Text.isBlank_of_isAlphanumeric halnum
  · decide
  · decide

/-- No blank stands in a path. -/
theorem isBlank_of_isPath {path : List Char} (h : isPath path = true) :
    ∀ c ∈ path, Text.isBlank c = false := by
  intro c hc
  simp only [isPath, Bool.and_eq_true, List.all_eq_true] at h
  exact isBlank_of_isPathChar (h.2 c hc)

theorem ne_nil_of_isPath {path : List Char} (h : isPath path = true) : path ≠ [] := by
  rintro rfl
  cases h

theorem not_mem_of_isPath {path : List Char} (h : isPath path = true) {c : Char}
    (hc : isPathChar c = false) : c ∉ path := by
  intro hmem
  simp only [isPath, Bool.and_eq_true, List.all_eq_true] at h
  have hchar := h.2 c hmem
  rw [hc] at hchar
  cases hchar

/-- A path of identifiers is one that erasure accepts. -/
theorem isPath_joinPath {parts : List (List Char)} (hne : parts ≠ [])
    (h : ∀ w ∈ parts, IsIdentifier w) : isPath (joinPath parts) = true := by
  have hparts : ∀ w ∈ parts, w ≠ [] := fun w hw => (h w hw).ne_nil
  have hpath : joinPath parts ≠ [] := Text.intercalate_ne_nil hne hparts
  have hcolon : ∀ c, (∃ w ∈ parts, c ∈ w) → c ≠ ':' := by
    rintro c ⟨w, hw, hcw⟩ rfl
    exact (h w hw).colon_not_mem hcw
  have hfirst : (joinPath parts).head? ≠ some ':' := fun hc =>
    hcolon ':' (Text.mem_of_head?_intercalate hparts ':' hc) rfl
  have hlast : (joinPath parts).getLast? ≠ some ':' := fun hc =>
    hcolon ':' (Text.mem_of_getLast?_intercalate hparts ':' hc) rfl
  have hchars : ∀ c ∈ joinPath parts, isPathChar c = true := by
    intro c hc
    rcases Text.mem_intercalate hc with hsep | ⟨w, hw, hcw⟩
    · obtain rfl : c = ':' := by simpa using hsep
      decide
    · rcases (h w hw).chars c hcw with halnum | rfl
      · simp [isPathChar, halnum]
      · decide
  simp only [isPath, Bool.and_eq_true, Bool.not_eq_true', List.isEmpty_eq_false_iff, bne_iff_ne,
    List.all_eq_true]
  exact ⟨⟨⟨hpath, hfirst⟩, hlast⟩, hchars⟩

/-! ### Marks -/

/-- A mark in front of a type. -/
inductive Mark where
  | ref
  | mutRef
  | dyn

/-- The text of a mark. -/
def Mark.chars : Mark → List Char
  | ref => ['&']
  | mutRef => ['&', 'm', 'u', 't', ' ']
  | dyn => ['d', 'y', 'n', ' ']

/-- A mark is found, unless what is behind it makes it another one. -/
theorem afterMark?_chars (mark : Mark) {s : List Char}
    (h : ∀ rest, s ≠ ['m', 'u', 't'] ++ ' ' :: rest) : afterMark? (mark.chars ++ s) = some s := by
  cases mark with
  | ref =>
    show afterMark? ('&' :: s) = _
    unfold afterMark?
    -- The longer mark is looked for first, and the hypothesis rules it out.
    split
    · next heq => exact absurd (List.cons.inj heq).2 (h _)
    · next heq => rw [(List.cons.inj heq).2]
    · next heq => exact absurd (List.cons.inj heq).1 (by decide)
    · next hnone _ => exact absurd rfl (hnone s)
  | mutRef => rfl
  | dyn => rfl

theorem unmarked_of_afterMark?_eq_none {s : List Char} (h : afterMark? s = none) :
    unmarked s = s := by
  rw [unmarked]
  split
  · rfl
  · next hsome =>
    rw [h] at hsome
    cases hsome

theorem unmarked_of_afterMark?_eq_some {s r : List Char} (h : afterMark? s = some r) :
    unmarked s = unmarked (Text.trimStart r) := by
  rw [unmarked]
  split
  · next hnone =>
    rw [h] at hnone
    cases hnone
  · next hsome =>
    rw [h] at hsome
    cases hsome
    rfl

/-! ### Putting type texts together -/

/-- The text of an argument list, or of none. -/
def argumentList : Option (List Char) → List Char
  | none => []
  | some inner => '<' :: (inner ++ ['>'])

/-- A type text: marks, a path and arguments. -/
def written (marks : List Mark) (path : List Char) (arguments? : Option (List Char)) :
    List Char :=
  marks.flatMap Mark.chars ++ (path ++ argumentList arguments?)

theorem written_cons (mark : Mark) (marks : List Mark) (path : List Char)
    (arguments? : Option (List Char)) :
    written (mark :: marks) path arguments? = mark.chars ++ written marks path arguments? := by
  simp [written]

/-- A path starts with no word that a blank follows, also with arguments or another part of a
    path behind it. -/
theorem append_ne_word {path tail word : List Char} (h : isPath path = true)
    (htail : ∀ c ∈ tail.head?, c = '<' ∨ c = ':') (hword : ∀ c ∈ word, c ≠ '<' ∧ c ≠ ':')
    (rest : List Char) : path ++ tail ≠ word ++ ' ' :: rest := by
  intro heq
  have hblank : ' ' ∉ path := not_mem_of_isPath h (by decide +kernel)
  rcases List.append_eq_append_iff.1 heq with ⟨more, rfl, htl⟩ | ⟨more, rfl, hmore⟩
  · -- The path is a start of the word, and what follows it is not what follows a path.
    have hhead : ∃ c ∈ tail.head?, c ∈ more ∨ c = ' ' := by
      rw [htl]
      cases more <;> simp
    obtain ⟨c, hc, hmem⟩ := hhead
    rcases hmem with hmem | rfl
    · have hne := hword c (List.mem_append_right path hmem)
      rcases htail c hc with rfl | rfl
      · exact hne.1 rfl
      · exact hne.2 rfl
    · rcases htail ' ' hc with heq | heq <;> exact absurd heq (by decide)
  · -- The word ends within the path, and so the blank is in the path or right behind it.
    cases more with
    | nil =>
      have hhead : ' ' ∈ tail.head? := by
        rw [← List.nil_append tail, ← hmore]
        rfl
      rcases htail ' ' hhead with heq | heq <;> exact absurd heq (by decide)
    | cons c more =>
      obtain ⟨rfl, -⟩ := List.cons.inj hmore
      exact hblank (by simp)

/-- No mark stands in front of a path, whatever is behind it. -/
theorem afterMark?_append {path tail : List Char} (h : isPath path = true)
    (htail : ∀ c ∈ tail.head?, c = '<' ∨ c = ':') : afterMark? (path ++ tail) = none := by
  have hfirst : (path ++ tail).head? ≠ some '&' := by
    rw [List.head?_append_of_ne_nil path (ne_nil_of_isPath h)]
    intro hhead
    exact not_mem_of_isPath h (by decide +kernel) (List.mem_of_mem_head? hhead)
  have hdyn : ∀ rest, path ++ tail ≠ ['d', 'y', 'n'] ++ ' ' :: rest :=
    append_ne_word h htail (by simp)
  unfold afterMark?
  split
  · next heq =>
    rw [heq] at hfirst
    exact absurd rfl hfirst
  · next heq =>
    rw [heq] at hfirst
    exact absurd rfl hfirst
  · next rest heq => exact absurd heq (hdyn rest)
  · rfl

section

variable {path : List Char} (h : isPath path = true) (arguments? : Option (List Char))
include h

theorem ne_bracket_of_isPath : ∀ c ∈ path, (c != '<') = true := by
  intro c hc
  rw [bne_iff_ne]
  rintro rfl
  exact not_mem_of_isPath h (by decide +kernel) hc

/-- The path is what comes before the first bracket. -/
theorem takeWhile_written :
    (path ++ argumentList arguments?).takeWhile (· != '<') = path := by
  have hnone : (argumentList arguments?).takeWhile (· != '<') = [] := by
    cases arguments? <;> rfl
  rw [List.takeWhile_append_of_pos (ne_bracket_of_isPath h), hnone, List.append_nil]

theorem dropWhile_written :
    (path ++ argumentList arguments?).dropWhile (· != '<') = argumentList arguments? := by
  have hall : (argumentList arguments?).dropWhile (· != '<') = argumentList arguments? := by
    cases arguments? <;> rfl
  rw [List.dropWhile_append_of_pos (ne_bracket_of_isPath h), hall]

theorem head?_written :
    (path ++ argumentList arguments?).head? = path.head? :=
  List.head?_append_of_ne_nil path (ne_nil_of_isPath h)

omit h in
/-- Arguments start with a bracket. -/
theorem head?_argumentList :
    ∀ c ∈ (argumentList arguments?).head?, c = '<' ∨ c = ':' := by
  intro c hc
  cases arguments? with
  | none => simp [argumentList] at hc
  | some inner =>
    left
    simpa [argumentList, eq_comm] using hc

/-- Neither a path nor one with arguments bears a mark. -/
theorem afterMark?_written : afterMark? (path ++ argumentList arguments?) = none :=
  afterMark?_append h (head?_argumentList arguments?)

/-- A type text starts with no blank, and with nothing that would make `&` another mark. -/
theorem front_written (marks : List Mark) :
    (∀ c ∈ (written marks path arguments?).head?, Text.isBlank c = false) ∧
      ∀ rest, written marks path arguments? ≠ ['m', 'u', 't'] ++ ' ' :: rest := by
  cases marks with
  | nil =>
    show (∀ c ∈ (path ++ argumentList arguments?).head?, Text.isBlank c = false) ∧
      ∀ rest, path ++ argumentList arguments? ≠ ['m', 'u', 't'] ++ ' ' :: rest
    rw [head?_written h]
    constructor
    · intro c hc
      exact isBlank_of_isPath h c (List.mem_of_mem_head? hc)
    · exact append_ne_word h (head?_argumentList arguments?) (by simp)
  | cons mark marks =>
    rw [written_cons]
    cases mark <;> simp [Mark.chars] <;> decide

/-- All marks are taken away, and nothing else. -/
theorem unmarked_written (marks : List Mark) :
    unmarked (written marks path arguments?) = path ++ argumentList arguments? := by
  induction marks with
  | nil => exact unmarked_of_afterMark?_eq_none (afterMark?_written h arguments?)
  | cons mark marks ih =>
    -- What is behind a mark is a type text again, and has no blanks in front to lose.
    obtain ⟨hfront, hmut⟩ := front_written h arguments? marks
    have hmark := afterMark?_chars mark hmut
    rw [written_cons, unmarked_of_afterMark?_eq_some hmark, Text.trimStart_of_head? hfront, ih]

/-- No blank stands at an end of a type text. -/
theorem trim_written (marks : List Mark) :
    Text.trim (written marks path arguments?) = written marks path arguments? := by
  have hne := ne_nil_of_isPath h
  refine Text.strip_eq_self (front_written h arguments? marks).1 ?_
  intro c hc
  rw [written, List.getLast?_append_of_ne_nil _ (by simp [hne])] at hc
  cases arguments? with
  | none =>
    rw [argumentList, List.append_nil] at hc
    exact isBlank_of_isPath h c (List.mem_of_mem_getLast? hc)
  | some inner =>
    have hlast : path ++ argumentList (some inner) = path ++ '<' :: inner ++ ['>'] := by
      simp [argumentList]
    rw [hlast, List.getLast?_concat] at hc
    cases hc
    decide

/-- **Erasure finds the path that a type text was written with.** -/
theorem erase_written (marks : List Mark) :
    erase (written marks path arguments?) =
      some ⟨path, arguments?.elim false (·.contains '<')⟩ := by
  have hkind : isHigherKinded? (argumentList arguments?) =
      some (arguments?.elim false (·.contains '<')) := by
    cases arguments? <;> simp [argumentList, isHigherKinded?]
  unfold erase
  dsimp only
  rw [trim_written h, unmarked_written h, takeWhile_written h, dropWhile_written h, if_pos h,
    hkind]
  rfl

end

end LoggerTree.TypeText

import LoggerTree.Proofs.TypeText

/-! # The syntax of type texts

    A type is a path, perhaps with arguments, or it is put together from other types. Its syntax
    tree has a text, and erasure works on that text alone: it looks for the first `<` and for a
    `>` at the very end, and never parses what is in between.

    Main statement: `erasure_follows_syntax`. Still it answers as if it had the tree. A path
    behind marks is found with the arguments left out, and any other type has no path.
-/

namespace LoggerTree.TypeText

open Text (joinPath IsIdentifier)

/-! ### Types -/

/-- One or more identifiers, outermost first. -/
structure Path where
  parts : List (List Char)
  ne_nil : parts ≠ []
  identifiers : ∀ w ∈ parts, IsIdentifier w

/-- The identifiers with `::` between each two. -/
def Path.chars (p : Path) : List Char :=
  joinPath p.parts

/-- The syntax tree of a type. A path without arguments has an empty list of them. -/
inductive Tree where
  /-- A path, and behind it its arguments if there are any. -/
  | plain (p : Path) (arguments : List Tree)
  | marked (mark : Mark) (t : Tree)
  | tuple (ts : List Tree)
  | slice (t : Tree)
  | array (t : Tree) (size : Nat)
  | pointer (mutable : Bool) (t : Tree)
  | function (parameters : List Tree) (result : Tree)
  /-- The closure of a function, which goes by a path. -/
  | closure (p : Path) (arguments : List Tree)
  /-- Two bounds or more, of which the first one may have arguments. -/
  | bounds (p : Path) (arguments : List Tree) (second : Path) (others : List Path)

/-- Pieces with a comma and a blank between each two. -/
def commaList (pieces : List (List Char)) : List Char :=
  [',', ' '].intercalate pieces

/-- The pieces of an argument list as one, if there are any. -/
def listed? (pieces : List (List Char)) : Option (List Char) :=
  if pieces.isEmpty then none else some (commaList pieces)

/-- The text of a tuple. A single item is followed by a comma. -/
def tupleChars : List (List Char) → List Char
  | [item] => ['('] ++ item ++ [',', ')']
  | items => ['('] ++ commaList items ++ [')']

/-- The name that all closures of a function have. -/
def closureChars : List Char :=
  [':', ':', '{', '{', 'c', 'l', 'o', 's', 'u', 'r', 'e', '}', '}']

/-- The bounds that follow the first one. -/
def boundChars (ps : List Path) : List Char :=
  ps.flatMap fun p => ' ' :: '+' :: ' ' :: p.chars

namespace Tree

mutual

/-- The text of a type. -/
def chars : Tree → List Char
  | plain p arguments => p.chars ++ argumentList (listed? (charsAll arguments))
  | marked mark t => mark.chars ++ chars t
  | tuple ts => tupleChars (charsAll ts)
  | slice t => ['['] ++ chars t ++ [']']
  | array t size => ['['] ++ chars t ++ [';', ' '] ++ Nat.toDigits 10 size ++ [']']
  | pointer mutable t =>
    ['*'] ++ (if mutable then ['m', 'u', 't', ' '] else ['c', 'o', 'n', 's', 't', ' ']) ++ chars t
  | function parameters result =>
    ['f', 'n', '('] ++ commaList (charsAll parameters) ++ [')', ' ', '-', '>', ' '] ++ chars result
  | closure p arguments =>
    p.chars ++ argumentList (listed? (charsAll arguments)) ++ closureChars
  | bounds p arguments second others =>
    Mark.dyn.chars ++ (p.chars ++ argumentList (listed? (charsAll arguments)) ++
      boundChars (second :: others))

/-- The texts of some types. -/
def charsAll : List Tree → List (List Char)
  | [] => []
  | t :: ts => chars t :: charsAll ts

end

mutual

/-- Whether arguments are given to a path anywhere in a type. -/
def applies : Tree → Bool
  | plain _ arguments | closure _ arguments | bounds _ arguments _ _ => !arguments.isEmpty
  | marked _ t | slice t | array t _ | pointer _ t => applies t
  | tuple ts => appliesAny ts
  | function parameters result => appliesAny parameters || applies result

/-- Whether arguments are given to a path anywhere in some types. -/
def appliesAny : List Tree → Bool
  | [] => false
  | t :: ts => applies t || appliesAny ts

end

/-- What is left of a type without its marks and arguments: the path, and whether one of the
    arguments has arguments in it. Only a path behind marks leaves anything. -/
def erased? : Tree → Option Erased
  | plain p arguments => some ⟨p.chars, appliesAny arguments⟩
  | marked _ t => erased? t
  | tuple _ | slice _ | array .. | pointer .. | function .. | closure .. | bounds .. => none

/-! ### Induction -/

/-- What holds of a type if it holds of all types in it holds of all types. -/
@[elab_as_elim]
theorem induction {P : Tree → Prop}
    (plain : ∀ p arguments, (∀ t ∈ arguments, P t) → P (plain p arguments))
    (marked : ∀ mark t, P t → P (marked mark t))
    (tuple : ∀ ts, (∀ t ∈ ts, P t) → P (tuple ts))
    (slice : ∀ t, P t → P (slice t))
    (array : ∀ t size, P t → P (array t size))
    (pointer : ∀ mutable t, P t → P (pointer mutable t))
    (function : ∀ parameters result, (∀ t ∈ parameters, P t) → P result →
      P (function parameters result))
    (closure : ∀ p arguments, (∀ t ∈ arguments, P t) → P (closure p arguments))
    (bounds : ∀ p arguments second others, (∀ t ∈ arguments, P t) →
      P (bounds p arguments second others)) (t : Tree) : P t :=
  @Tree.rec P (fun ts => ∀ t ∈ ts, P t)
    plain marked tuple slice array pointer function closure bounds
    (List.forall_mem_nil P) (fun _ _ hfirst hothers => List.forall_mem_cons.2 ⟨hfirst, hothers⟩) t

theorem charsAll_eq_map (ts : List Tree) : charsAll ts = ts.map chars := by
  induction ts with
  | nil => rfl
  | cons t ts ih => rw [charsAll, ih, List.map_cons]

theorem appliesAny_eq_any (ts : List Tree) : appliesAny ts = ts.any applies := by
  induction ts with
  | nil => rfl
  | cons t ts ih => rw [appliesAny, ih, List.any_cons]

end Tree

/-! ### Brackets -/

theorem Path.isPath_chars (p : Path) : isPath p.chars = true :=
  isPath_joinPath p.ne_nil p.identifiers

theorem Path.not_mem_chars (p : Path) {c : Char} (hc : isPathChar c = false) : c ∉ p.chars :=
  not_mem_of_isPath p.isPath_chars hc

theorem isPathChar_bracket : isPathChar '<' = false := by decide +kernel

theorem mem_commaList_iff {pieces : List (List Char)} {c : Char} (hc : c ≠ ',' ∧ c ≠ ' ') :
    c ∈ commaList pieces ↔ ∃ piece ∈ pieces, c ∈ piece :=
  Text.mem_intercalate_iff (by simp [hc])

theorem mem_tupleChars_iff {items : List (List Char)} {c : Char} (hc : c ≠ ',' ∧ c ≠ ' ')
    (hround : c ≠ '(' ∧ c ≠ ')') : c ∈ tupleChars items ↔ ∃ item ∈ items, c ∈ item := by
  unfold tupleChars
  split
  · simp [hc, hround]
  · simp [mem_commaList_iff hc, hround]

/-- An argument list has a bracket, and where there is none there is nothing. -/
theorem bracket_mem_argumentList {pieces : List (List Char)} :
    '<' ∈ argumentList (listed? pieces) ↔ pieces ≠ [] := by
  cases pieces <;> simp [listed?, argumentList]

theorem not_mem_boundChars {ps : List Path} {c : Char} (hc : isPathChar c = false)
    (hne : c ≠ ' ' ∧ c ≠ '+') : c ∉ boundChars ps := by
  intro hmem
  obtain ⟨p, -, hp⟩ := List.mem_flatMap.1 hmem
  simp only [List.mem_cons, hne, false_or] at hp
  exact p.not_mem_chars hc hp

/-- No bracket comes from the size of an array. -/
theorem bracket_not_mem_toDigits (n : Nat) : '<' ∉ Nat.toDigits 10 n := by
  intro hmem
  have hdigit := Nat.isDigit_of_mem_toDigits (by decide) (by decide) hmem
  exact absurd hdigit (by decide)

namespace Tree

/-- The texts of types hold a bracket if one of the types does. -/
theorem bracket_mem_charsAll {ts : List Tree}
    (h : ∀ t ∈ ts, '<' ∈ t.chars ↔ t.applies = true) :
    (∃ piece ∈ charsAll ts, '<' ∈ piece) ↔ appliesAny ts = true := by
  rw [charsAll_eq_map, appliesAny_eq_any, List.any_eq_true]
  simp only [List.mem_map, exists_exists_and_eq_and]
  exact exists_congr fun t => and_congr_right (h t)

theorem charsAll_ne_nil_iff {ts : List Tree} : charsAll ts ≠ [] ↔ (!ts.isEmpty) = true := by
  cases ts <;> simp [charsAll]

/-- **Brackets come from arguments.** The `>` of a function type has no partner, but it is the
    opening bracket that is looked for. -/
theorem bracket_mem_chars (t : Tree) : '<' ∈ t.chars ↔ t.applies = true := by
  induction t using Tree.induction with
  | plain p arguments ih =>
    have hpath := p.not_mem_chars isPathChar_bracket
    rw [chars, applies, List.mem_append, bracket_mem_argumentList, charsAll_ne_nil_iff]
    simp [hpath]
  | marked mark t ih =>
    rw [chars, applies, List.mem_append, ih]
    cases mark <;> simp [Mark.chars]
  | tuple ts ih =>
    rw [chars, applies, mem_tupleChars_iff (by decide) (by decide), bracket_mem_charsAll ih]
  | slice t ih =>
    rw [chars, applies]
    simp [ih]
  | array t size ih =>
    rw [chars, applies]
    simp [ih, bracket_not_mem_toDigits]
  | pointer mutable t ih =>
    rw [chars, applies]
    cases mutable <;> simp [ih]
  | function parameters result ihs ih =>
    have hparameters := bracket_mem_charsAll ihs
    rw [← mem_commaList_iff (by decide)] at hparameters
    rw [chars, applies]
    simp [ih, hparameters]
  | closure p arguments ih =>
    have hpath := p.not_mem_chars isPathChar_bracket
    have hclosure : '<' ∉ closureChars := by decide
    rw [chars, applies, List.mem_append, List.mem_append, bracket_mem_argumentList,
      charsAll_ne_nil_iff]
    simp [hpath, hclosure]
  | bounds p arguments second others ih =>
    have hpath := p.not_mem_chars isPathChar_bracket
    have hmark : '<' ∉ Mark.dyn.chars := by decide
    have hbounds : '<' ∉ boundChars (second :: others) :=
      not_mem_boundChars isPathChar_bracket (by decide)
    rw [chars, applies, List.mem_append, List.mem_append, List.mem_append,
      bracket_mem_argumentList, charsAll_ne_nil_iff]
    simp [hpath, hmark, hbounds]

end Tree

/-! ### Both ends -/

/-- Nothing is lost when a mark is put in front of the text and taken away again. -/
structure Bare (s : List Char) : Prop where
  ne_nil : s ≠ []
  first : ∀ c ∈ s.head?, Text.isBlank c = false
  last : ∀ c ∈ s.getLast?, Text.isBlank c = false
  /-- Behind `&` this would be read as part of the mark. -/
  not_mut : ∀ rest, s ≠ ['m', 'u', 't'] ++ ' ' :: rest

theorem Bare.trim {s : List Char} (h : Bare s) : Text.trim s = s :=
  Text.strip_eq_self h.first h.last

/-- A text with a sign of its own in front, and with an end that is no blank. -/
theorem bare_append {c : Char} (hc : c ≠ 'm' ∧ Text.isBlank c = false) (front : List Char)
    {back : List Char} (hback : back ≠ []) (hlast : ∀ d ∈ back.getLast?, Text.isBlank d = false) :
    Bare (c :: front ++ back) where
  ne_nil := by simp
  first d hd := by
    obtain rfl : c = d := by simpa using hd
    exact hc.2
  last d hd := by
    rw [List.getLast?_append_of_ne_nil _ hback] at hd
    exact hlast d hd
  not_mut rest heq := hc.1 (List.cons.inj heq).1

/-- A text between two signs of its own. -/
theorem bare_between {c e : Char} (hc : c ≠ 'm' ∧ Text.isBlank c = false)
    (he : Text.isBlank e = false) (inner : List Char) : Bare (c :: inner ++ [e]) := by
  refine bare_append hc inner (by simp) ?_
  intro d hd
  obtain rfl : e = d := Option.mem_some_iff.1 hd
  exact he

/-- A text that starts with a path. -/
theorem bare_path (p : Path) {tail : List Char} (htail : ∀ c ∈ tail.head?, c = '<' ∨ c = ':')
    (hlast : ∀ c ∈ tail.getLast?, Text.isBlank c = false) : Bare (p.chars ++ tail) where
  ne_nil := by simp [ne_nil_of_isPath p.isPath_chars]
  first c hc := by
    rw [List.head?_append_of_ne_nil _ (ne_nil_of_isPath p.isPath_chars)] at hc
    exact isBlank_of_isPath p.isPath_chars c (List.mem_of_mem_head? hc)
  last c hc := by
    rw [List.getLast?_append] at hc
    cases htl : tail.getLast? with
    | none =>
      rw [htl] at hc
      exact isBlank_of_isPath p.isPath_chars c (List.mem_of_mem_getLast? hc)
    | some d =>
      rw [htl] at hc
      exact hlast c (by rw [htl]; exact hc)
  not_mut := append_ne_word p.isPath_chars htail (by simp)

/-- A mark that is found is taken away, and no blanks go with it. -/
theorem unmarked_append (mark : Mark) {s : List Char} (hmark : afterMark? (mark.chars ++ s) = some s)
    (hfirst : ∀ c ∈ s.head?, Text.isBlank c = false) : unmarked (mark.chars ++ s) = unmarked s := by
  rw [unmarked_of_afterMark?_eq_some hmark, Text.trimStart_of_head? hfirst]

/-- A mark in front of a text is not seen. -/
theorem erase_marked (mark : Mark) {s : List Char} (h : Bare s) :
    erase (mark.chars ++ s) = erase s := by
  have htrim : Text.trim (mark.chars ++ s) = mark.chars ++ s := by
    refine Text.strip_eq_self ?_ ?_
    · intro c hc
      cases mark <;> obtain rfl := Option.mem_some_iff.1 hc <;> decide
    · intro c hc
      rw [List.getLast?_append_of_ne_nil _ h.ne_nil] at hc
      exact h.last c hc
  unfold erase
  rw [htrim, unmarked_append mark (afterMark?_chars mark h.not_mut) h.first, h.trim]

/-! ### Texts without a path -/

/-- A sign that stands in no path, with no bracket before it, leaves none. -/
theorem erase_eq_none_of_sign {raw before after : List Char} {c : Char}
    (hraw : unmarked (Text.trim raw) = before ++ c :: after) (hbefore : '<' ∉ before)
    (hc : c ≠ '<' ∧ isPathChar c = false) : erase raw = none := by
  have hmem : c ∈ (before ++ c :: after).takeWhile (· != '<') := by
    have hall : ∀ d ∈ before, (d != '<') = true := by
      intro d hd
      rw [bne_iff_ne]
      intro heq
      exact hbefore (heq ▸ hd)
    rw [List.takeWhile_append_of_pos hall, List.takeWhile_cons_of_pos (by simpa using hc.1)]
    simp
  have hpath : ¬isPath ((before ++ c :: after).takeWhile (· != '<')) = true := by
    intro hpath
    exact not_mem_of_isPath hpath hc.2 hmem
  unfold erase
  dsimp only
  rw [hraw, if_neg hpath]

/-- Arguments that the text goes on behind leave none, unless it happens to end as they do. -/
theorem erase_eq_none_of_more {raw path tail : List Char}
    (hraw : unmarked (Text.trim raw) = path ++ '<' :: tail) (h : isPath path = true)
    (htail : tail.getLast? ≠ some '>') : erase raw = none := by
  have htake : (path ++ '<' :: tail).takeWhile (· != '<') = path := by
    rw [List.takeWhile_append_of_pos (ne_bracket_of_isPath h)]
    simp
  have hdrop : (path ++ '<' :: tail).dropWhile (· != '<') = '<' :: tail := by
    rw [List.dropWhile_append_of_pos (ne_bracket_of_isPath h)]
    simp
  have hkind : isHigherKinded? ('<' :: tail) = none := by
    rw [isHigherKinded?, if_neg htail]
  unfold erase
  dsimp only
  rw [hraw, htake, hdrop, if_pos h, hkind]
  rfl

/-- What is left of a text that bears no mark is the text. -/
theorem Bare.unmarked_trim {s : List Char} (h : Bare s) (hmark : afterMark? s = none) :
    unmarked (Text.trim s) = s := by
  rw [h.trim, unmarked_of_afterMark?_eq_none hmark]

/-- A text that starts with such a sign leaves no path. -/
theorem erase_eq_none_of_first {c : Char} {s : List Char} (h : Bare (c :: s))
    (hmark : afterMark? (c :: s) = none) (hc : c ≠ '<' ∧ isPathChar c = false) :
    erase (c :: s) = none := by
  have hraw : unmarked (Text.trim (c :: s)) = [] ++ c :: s := h.unmarked_trim hmark
  exact erase_eq_none_of_sign hraw (by simp) hc

/-- A first bound that is called `dyn` is taken for a mark, which leaves the other bounds. -/
theorem unmarked_bound (p : Path) (rest : List Char) :
    unmarked (p.chars ++ ' ' :: '+' :: rest) = p.chars ++ ' ' :: '+' :: rest ∨
      unmarked (p.chars ++ ' ' :: '+' :: rest) = '+' :: rest := by
  cases hmark : afterMark? (p.chars ++ ' ' :: '+' :: rest) with
  | none => exact .inl (unmarked_of_afterMark?_eq_none hmark)
  | some after =>
    right
    have hblank : ' ' ∉ p.chars := p.not_mem_chars (by decide +kernel)
    have hamp : ∀ s, p.chars ++ ' ' :: '+' :: rest ≠ '&' :: s := by
      intro s heq
      have hhead : (p.chars ++ ' ' :: '+' :: rest).head? = p.chars.head? :=
        List.head?_append_of_ne_nil _ (ne_nil_of_isPath p.isPath_chars)
      rw [heq] at hhead
      exact p.not_mem_chars (by decide +kernel) (List.mem_of_mem_head? hhead.symm)
    have hdyn : p.chars ++ ' ' :: '+' :: rest = ['d', 'y', 'n'] ++ ' ' :: after := by
      unfold afterMark? at hmark
      split at hmark
      · next heq => exact absurd heq (hamp _)
      · next heq => exact absurd heq (hamp _)
      · next heq =>
        cases hmark
        exact heq
      · cases hmark
    -- Both sides come apart at their first blank.
    have hcut := Text.cut?_append hblank ('+' :: rest)
    rw [hdyn, Text.cut?_append (by decide)] at hcut
    obtain rfl : after = '+' :: rest := (Prod.mk.inj (Option.some.inj hcut)).2
    rw [unmarked_of_afterMark?_eq_some hmark, Text.trimStart_of_head? (by simp; decide),
      unmarked_of_afterMark?_eq_none rfl]

/-- The last bound ends in a character of a path. -/
theorem isPathChar_of_getLast?_boundChars {ps : List Path} :
    ∀ c ∈ (boundChars ps).getLast?, isPathChar c = true := by
  intro c hc
  rcases List.eq_nil_or_concat ps with rfl | ⟨init, p, rfl⟩
  · simp [boundChars] at hc
  · have hne := ne_nil_of_isPath p.isPath_chars
    have hlast : (boundChars (init.concat p)).getLast? = p.chars.getLast? := by
      rw [List.concat_eq_append, boundChars, List.flatMap_append, List.flatMap_singleton,
        List.getLast?_append_of_ne_nil _ (by simp)]
      exact List.getLast?_append_of_ne_nil [' ', '+', ' '] hne
    rw [hlast] at hc
    by_contra hchar
    exact p.not_mem_chars (Bool.eq_false_iff.2 hchar) (List.mem_of_mem_getLast? hc)

/-- The last character of an argument list closes it. -/
theorem getLast?_argumentList {arguments? : Option (List Char)} :
    ∀ c ∈ (argumentList arguments?).getLast?, c = '>' := by
  intro c hc
  cases arguments? with
  | none => simp [argumentList] at hc
  | some inner =>
    rw [argumentList, ← List.cons_append, List.getLast?_concat] at hc
    exact (Option.mem_some_iff.1 hc).symm

theorem exists_tupleChars (items : List (List Char)) :
    ∃ s, tupleChars items = '(' :: s ++ [')'] := by
  fun_cases tupleChars items with
  | case1 item => exact ⟨item ++ [','], by simp⟩
  | case2 => exact ⟨commaList items, by simp⟩

/-! ### Types -/

namespace Tree

/-- A mark can be put in front of every type. -/
theorem bare_chars (t : Tree) : Bare t.chars := by
  induction t using Tree.induction with
  | plain p arguments ih =>
    refine bare_path p (head?_argumentList _) ?_
    intro c hc
    obtain rfl := getLast?_argumentList c hc
    decide
  | marked mark t ih =>
    rw [chars]
    cases mark with
    | ref => exact bare_append (by decide) [] ih.ne_nil ih.last
    | mutRef => exact bare_append (by decide) ['m', 'u', 't', ' '] ih.ne_nil ih.last
    | dyn => exact bare_append (by decide) ['y', 'n', ' '] ih.ne_nil ih.last
  | tuple ts ih =>
    obtain ⟨s, hs⟩ := exists_tupleChars (charsAll ts)
    rw [chars, hs]
    exact bare_between (by decide) (by decide) s
  | slice t ih => exact bare_between (by decide) (by decide) t.chars
  | array t size ih => exact bare_between (by decide) (by decide) _
  | pointer mutable t ih => exact bare_append (by decide) _ ih.ne_nil ih.last
  | function parameters result ihs ih =>
    exact bare_append (by decide)
      (['n', '('] ++ commaList (charsAll parameters) ++ [')', ' ', '-', '>', ' ']) ih.ne_nil
      ih.last
  | closure p arguments ih =>
    rw [chars, List.append_assoc]
    refine bare_path p ?_ ?_
    · -- The braces follow the path or its arguments.
      intro c hc
      cases arguments with
      | nil => exact .inr (Option.mem_some_iff.1 hc).symm
      | cons t ts => exact .inl (Option.mem_some_iff.1 hc).symm
    · intro c hc
      rw [List.getLast?_append_of_ne_nil _ (by decide)] at hc
      obtain rfl : '}' = c := Option.mem_some_iff.1 hc
      decide
  | bounds p arguments second others ih =>
    have hback : boundChars (second :: others) ≠ [] := by simp [boundChars]
    rw [chars, ← List.append_assoc]
    refine bare_append (by decide) _ hback ?_
    intro c hc
    exact isBlank_of_isPathChar (isPathChar_of_getLast?_boundChars c hc)

/-- The flag of a type with a path says whether its arguments have arguments. -/
theorem contains_bracket_listed (arguments : List Tree) :
    (listed? (charsAll arguments)).elim false (·.contains '<') = appliesAny arguments := by
  cases arguments with
  | nil => rfl
  | cons t ts =>
    show (commaList (charsAll (t :: ts))).contains '<' = _
    rw [Bool.eq_iff_iff, List.contains_iff_mem, mem_commaList_iff (by decide),
      bracket_mem_charsAll fun t _ => bracket_mem_chars t]

/-- A closure without arguments has braces where a path has none, and one with arguments goes on
    behind them. -/
theorem erase_closure (p : Path) (arguments : List Tree) :
    erase (closure p arguments).chars = none := by
  have hbare := bare_chars (closure p arguments)
  rw [chars, List.append_assoc] at hbare ⊢
  cases arguments with
  | nil =>
    have htext : argumentList (listed? (charsAll [])) ++ closureChars = closureChars := rfl
    rw [htext] at hbare ⊢
    have hmark : afterMark? (p.chars ++ closureChars) = none :=
      afterMark?_append p.isPath_chars (by simp [closureChars])
    have hraw : unmarked (Text.trim (p.chars ++ closureChars)) =
        (p.chars ++ [':', ':']) ++ '{' :: closureChars.drop 3 := by
      rw [hbare.unmarked_trim hmark, List.append_assoc]
      rfl
    have hbefore : '<' ∉ p.chars ++ [':', ':'] := by
      simp [p.not_mem_chars isPathChar_bracket]
    exact erase_eq_none_of_sign hraw hbefore (by decide +kernel)
  | cons t ts =>
    have htext : argumentList (listed? (charsAll (t :: ts))) ++ closureChars =
        '<' :: (commaList (charsAll (t :: ts)) ++ ['>'] ++ closureChars) := rfl
    rw [htext] at hbare ⊢
    have hraw := hbare.unmarked_trim (afterMark?_append p.isPath_chars (by simp))
    refine erase_eq_none_of_more hraw p.isPath_chars ?_
    rw [List.getLast?_append_of_ne_nil _ (by decide)]
    decide

/-- Several bounds are kept apart by a `+`, and the last one of them has no arguments. -/
theorem erase_bounds (p : Path) (arguments : List Tree) (second : Path) (others : List Path) :
    erase (bounds p arguments second others).chars = none := by
  have hbare := bare_chars (bounds p arguments second others)
  have hne := ne_nil_of_isPath p.isPath_chars
  have hraw : unmarked (Text.trim (bounds p arguments second others).chars) =
      unmarked (p.chars ++ argumentList (listed? (charsAll arguments)) ++
        boundChars (second :: others)) := by
    have hfront : ∀ c ∈ (p.chars ++ argumentList (listed? (charsAll arguments)) ++
        boundChars (second :: others)).head?, Text.isBlank c = false := by
      intro c hc
      rw [List.append_assoc, List.head?_append_of_ne_nil _ hne] at hc
      exact isBlank_of_isPath p.isPath_chars c (List.mem_of_mem_head? hc)
    rw [hbare.trim]
    exact unmarked_append .dyn rfl hfront
  cases arguments with
  | nil =>
    have htext : p.chars ++ argumentList (listed? (charsAll [])) ++ boundChars (second :: others) =
        p.chars ++ ' ' :: '+' :: (' ' :: second.chars ++ boundChars others) := by
      simp [boundChars, charsAll, listed?, argumentList]
    rw [htext] at hraw
    have hplus : '+' ≠ '<' ∧ isPathChar '+' = false := by decide +kernel
    rcases unmarked_bound p (' ' :: second.chars ++ boundChars others) with hsame | hless
    · have hbefore : '<' ∉ p.chars ++ [' '] := by simp [p.not_mem_chars isPathChar_bracket]
      rw [hsame, List.append_cons] at hraw
      exact erase_eq_none_of_sign hraw hbefore hplus
    · rw [hless, ← List.nil_append ('+' :: _)] at hraw
      exact erase_eq_none_of_sign hraw (by simp) hplus
  | cons t ts =>
    have htext : p.chars ++ argumentList (listed? (charsAll (t :: ts))) ++
        boundChars (second :: others) =
        p.chars ++ '<' :: (commaList (charsAll (t :: ts)) ++ ['>'] ++
          boundChars (second :: others)) := by
      rw [List.append_assoc]
      rfl
    have hmark : afterMark? (p.chars ++ '<' :: (commaList (charsAll (t :: ts)) ++ ['>'] ++
        boundChars (second :: others))) = none := afterMark?_append p.isPath_chars (by simp)
    rw [htext, unmarked_of_afterMark?_eq_none hmark] at hraw
    refine erase_eq_none_of_more hraw p.isPath_chars ?_
    rw [List.getLast?_append_of_ne_nil _ (by simp [boundChars])]
    intro hlast
    have hchar := isPathChar_of_getLast?_boundChars '>' hlast
    rw [show isPathChar '>' = false by decide +kernel] at hchar
    cases hchar

/-- **Erasure follows the syntax.** -/
theorem erasure_follows_syntax (t : Tree) : erase t.chars = t.erased? := by
  induction t using Tree.induction with
  | plain p arguments ih =>
    have hwritten := erase_written p.isPath_chars (listed? (charsAll arguments)) []
    rw [contains_bracket_listed] at hwritten
    exact hwritten
  | marked mark t ih => rw [chars, erase_marked mark t.bare_chars, ih, erased?]
  | tuple ts ih =>
    have hbare := bare_chars (tuple ts)
    obtain ⟨s, hs⟩ := exists_tupleChars (charsAll ts)
    rw [chars, hs] at hbare ⊢
    exact erase_eq_none_of_first hbare rfl (by decide +kernel)
  | slice t ih =>
    exact erase_eq_none_of_first (bare_chars (slice t)) rfl (by decide +kernel)
  | array t size ih =>
    exact erase_eq_none_of_first (bare_chars (array t size)) rfl (by decide +kernel)
  | pointer mutable t ih =>
    exact erase_eq_none_of_first (bare_chars (pointer mutable t)) rfl (by decide +kernel)
  | function parameters result ihs ih =>
    -- The sign that stands in no path is the third one here.
    have hraw : unmarked (Text.trim (function parameters result).chars) = ['f', 'n'] ++ '(' :: _ :=
      (bare_chars (function parameters result)).unmarked_trim rfl
    exact erase_eq_none_of_sign hraw (by decide) (by decide +kernel)
  | closure p arguments ih => exact erase_closure p arguments
  | bounds p arguments second others ih => exact erase_bounds p arguments second others

/-- Neither the brackets of an inner type nor its arrow are taken for those of the outer one. -/
example :
    let named (word : String) (h : IsIdentifier word.toList) (arguments : List Tree) : Tree :=
      plain ⟨[word.toList], by simp, by simpa using h⟩ arguments
    let u8 := named "u8" (by decide +kernel) []
    let vec := named "Vec" (by decide +kernel) [slice u8]
    let t := marked .ref (named "Job" (by decide +kernel) [tuple [u8], function [u8] vec])
    t.chars = "&Job<(u8,), fn(u8) -> Vec<[u8]>>".toList ∧
      erase t.chars = some ⟨"Job".toList, true⟩ := by
  decide +kernel

end Tree

end LoggerTree.TypeText

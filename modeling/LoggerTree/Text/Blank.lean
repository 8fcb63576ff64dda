/-! # Blanks and trimming

    A **blank** is a character with the Unicode property White_Space. Texts are lists of
    characters; trimming drops what a test accepts from one end or from both.
-/

namespace LoggerTree.Text

/-- The Unicode property White_Space: neither the zero-width blank U+200B, nor the byte order
    mark U+FEFF, nor the separators U+001C to U+001F have it. -/
def isBlank (c : Char) : Bool :=
  (0x09 ≤ c.toNat && c.toNat ≤ 0x0D) || c.toNat == 0x20 || c.toNat == 0x85 || c.toNat == 0xA0 ||
  c.toNat == 0x1680 || (0x2000 ≤ c.toNat && c.toNat ≤ 0x200A) || c.toNat == 0x2028 ||
  c.toNat == 0x2029 || c.toNat == 0x202F || c.toNat == 0x205F || c.toNat == 0x3000

/-- Every blank of core's class is one here. -/
theorem isBlank_of_isWhitespace {c : Char} (h : c.isWhitespace = true) : isBlank c = true := by
  simp only [Char.isWhitespace, Bool.or_eq_true, decide_eq_true_eq] at h
  rcases h with ((rfl | rfl) | rfl) | rfl <;> decide

/-! ### Trimming -/

/-- Drops the longest end of a text that `p` accepts throughout. -/
def dropEndWhile (p : Char → Bool) (s : List Char) : List Char :=
  (s.reverse.dropWhile p).reverse

/-- Drops what `p` accepts from both ends. -/
def strip (p : Char → Bool) (s : List Char) : List Char :=
  dropEndWhile p (s.dropWhile p)

/-- Drops the blanks in front. -/
def trimStart (s : List Char) : List Char :=
  s.dropWhile isBlank

/-- Drops the blanks at both ends. -/
def trim (s : List Char) : List Char :=
  strip isBlank s

@[simp] theorem dropEndWhile_nil (p : Char → Bool) : dropEndWhile p [] = [] := rfl

@[simp] theorem strip_nil (p : Char → Bool) : strip p [] = [] := rfl

@[simp] theorem trim_nil : trim [] = [] := rfl

/-- The end of a trimmed text is refused by the test. -/
theorem dropEndWhile_concat (p : Char → Bool) (s : List Char) (c : Char) :
    dropEndWhile p (s ++ [c]) = if p c then dropEndWhile p s else s ++ [c] := by
  simp only [dropEndWhile, List.reverse_append, List.reverse_singleton, List.singleton_append,
    List.dropWhile_cons]
  split <;> simp

theorem trimStart_length_le (s : List Char) : (trimStart s).length ≤ s.length :=
  (List.dropWhile_sublist _).length_le

end LoggerTree.Text

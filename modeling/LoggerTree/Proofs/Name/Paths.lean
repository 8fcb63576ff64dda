import LoggerTree.Name
import LoggerTree.Proofs.Text.Paths

/-! # Names of paths

    A path of identifiers and the dotted text that it becomes stand for one name. The segments of
    the name are the identifiers, and its parent is the name of the path without the last one.
-/

namespace LoggerTree.Name

open Text (joinDots joinPath IsIdentifier)

/-- Where no blanks are in the way, dots may stand for the colons beforehand. -/
theorem ofChars_dotted {s : List Char} (h : ∀ c ∈ s, Text.isBlank c = false) :
    ofChars (Text.dotted s) = ofChars s := by
  have hdotted : ∀ c ∈ Text.dotted s, Text.isBlank c = false := by
    intro c hc
    rcases Text.mem_of_mem_dotted hc with rfl | hc
    · decide
    · exact h c hc
  rw [ofChars, ofChars, Text.trim_of_forall hdotted, Text.trim_of_forall h, Text.dotted_dotted]

section

variable {parts : List (List Char)} (h : ∀ w ∈ parts, IsIdentifier w)
include h

theorem dotted_joinPath : Text.dotted (joinPath parts) = joinDots parts :=
  Text.dotted_joinPath fun w hw => (h w hw).colon_not_mem

theorem isBlank_of_mem_joinPath : ∀ c ∈ joinPath parts, Text.isBlank c = false := by
  intro c hc
  rcases Text.mem_intercalate hc with hsep | ⟨w, hw, hcw⟩
  · obtain rfl : c = ':' := by simpa using hsep
    decide
  · exact (h w hw).isBlank_eq_false c hcw

/-- The path and the dotted text stand for the same name. -/
theorem ofChars_joinPath : ofChars (joinPath parts) = ofChars (joinDots parts) := by
  rw [← dotted_joinPath h, ofChars_dotted (isBlank_of_mem_joinPath h)]

/-- The dotted text is that name as it is. -/
theorem ofChars_joinDots : ofChars (joinDots parts) = ⟨joinDots parts⟩ := by
  have hblanks : ∀ c ∈ joinDots parts, Text.isBlank c = false := by
    intro c hc
    rcases Text.mem_intercalate hc with hsep | ⟨w, hw, hcw⟩
    · obtain rfl : c = '.' := by simpa using hsep
      decide
    · exact (h w hw).isBlank_eq_false c hcw
  have hdots : Text.dotted (joinDots parts) = joinDots parts := by
    rw [← dotted_joinPath h, Text.dotted_dotted]
  have hne : ∀ w ∈ parts, w ≠ [] := fun w hw => (h w hw).ne_nil
  -- Identifiers are at both ends, so there is nothing to strip.
  have hend : ∀ c, (∃ w ∈ parts, c ∈ w) → (c == '.') = false := by
    rintro c ⟨w, hw, hcw⟩
    rw [beq_eq_false_iff_ne]
    rintro rfl
    exact (h w hw).dot_not_mem hcw
  have hstrip : Text.strip (· == '.') (joinDots parts) = joinDots parts :=
    Text.strip_eq_self (fun c hc => hend c (Text.mem_of_head?_intercalate hne c hc))
      fun c hc => hend c (Text.mem_of_getLast?_intercalate hne c hc)
  rw [ofChars, Text.trim_of_forall hblanks, hdots, hstrip]

/-- The segments of the name are the identifiers. -/
theorem segments_joinDots : segments ⟨joinDots parts⟩ = parts := by
  by_cases hne : parts = []
  · subst hne
    rfl
  · have hsplit : Text.split '.' (joinDots parts) = parts :=
      Text.split_intercalate_of_not_mem hne fun w hw => (h w hw).dot_not_mem
    have hfilter : parts.filter (· ≠ []) = parts :=
      List.filter_eq_self.2 fun w hw => by simpa using (h w hw).ne_nil
    rw [segments, hsplit, hfilter]

end

/-- The parent of the name is the name without its last part. -/
theorem parent?_joinDots {outer : List (List Char)} {last : List Char}
    (h : ∀ w ∈ outer ++ [last], IsIdentifier w) :
    parent? ⟨joinDots (outer ++ [last])⟩ = some ⟨joinDots outer⟩ := by
  have hlast : IsIdentifier last := h last (by simp)
  have hne : joinDots (outer ++ [last]) ≠ [] :=
    Text.intercalate_ne_nil (by simp) fun w hw => (h w hw).ne_nil
  rw [parent?, if_neg (by simpa [isRoot] using hne)]
  by_cases houter : outer = []
  · subst houter
    -- A single part has no dot, so that its parent is the root.
    have hnone : Text.beforeLast? '.' last = none :=
      Text.beforeLast?_eq_none_iff.2 hlast.dot_not_mem
    simp [joinDots, hnone]
  · rw [Text.joinDots_concat houter, Text.beforeLast?_append _ hlast.dot_not_mem]
    rfl

end LoggerTree.Name

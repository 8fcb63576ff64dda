import LoggerTree.Call
import LoggerTree.Backend
import Mathlib.Data.List.Perm.Basic

/-! # How calls nest

    What calls on the loggers of one backend come to is fixed by a **setting**: the names of the
    loggers and the thresholds of the backend. It says which of the calls are **made**, which
    panic goes through them, and what they leave in the journal.

    A call that is enabled puts a bracket around the entries of its inner calls: its query opens,
    its message closes. A panic leaves open the brackets of all calls that it goes through.
-/

namespace LoggerTree

/-! ### All calls of a tree -/

namespace Call

mutual

/-- The call and all calls inside it, each one before those inside it. -/
def nodes : Call → List Call
  | mk number level shape message error inner panic =>
    mk number level shape message error inner panic :: nodesAll inner

/-- All calls of some trees, each one before those inside it. -/
def nodesAll : List Call → List Call
  | [] => []
  | c :: cs => nodes c ++ nodesAll cs

end

theorem nodes_eq (c : Call) : c.nodes = c :: nodesAll c.inner := by
  cases c
  rw [nodes, inner]

end Call

/-- What calls depend on. -/
structure Setting where
  /-- The names of the loggers, by their numbers. -/
  name : Nat → Name
  directives : Directives

namespace Setting

variable (s : Setting)

/-! ### Single calls -/

/-- Whether the level of a call is enabled for the name of its logger. -/
def enables (c : Call) : Bool :=
  s.directives.enabled (s.name c.logger) c.level

/-- The query of a call. -/
def query (c : Call) : Entry :=
  .queried (s.name c.logger) c.level (s.enables c)

/-- The message of a call. -/
def record (c : Call) : Record :=
  ⟨s.name c.logger, c.level, c.message, c.error.map (·.text)⟩

/-! ### Panics -/

mutual

/-- The panic that a call ends in: the first one of its inner calls, or else its own. A call that
    is not enabled has none. -/
def panic? : Call → Option String
  | .mk number level _ _ _ inner panic =>
    if s.directives.enabled (s.name number) level then (panicAll? inner).or panic else none

/-- The first panic of some calls. -/
def panicAll? : List Call → Option String
  | [] => none
  | c :: cs => (panic? c).or (panicAll? cs)

end

theorem panic?_eq (c : Call) :
    s.panic? c = if s.enables c then (s.panicAll? c.inner).or c.panic else none := by
  cases c
  rw [panic?, enables, Call.logger, Call.level, Call.inner, Call.panic]

variable {s} in
/-- A call ends well if it is not enabled, or if its inner calls and its builder do. -/
theorem panic?_eq_none_iff {c : Call} :
    s.panic? c = none ↔
      (s.enables c = true → s.panicAll? c.inner = none ∧ c.panic = none) := by
  rw [panic?_eq]
  by_cases henabled : s.enables c = true
  · simp [henabled, Option.or_eq_none_iff]
  · simp [henabled]

variable {s} in
theorem panicAll?_cons_eq_none_iff {c : Call} {cs : List Call} :
    s.panicAll? (c :: cs) = none ↔ s.panic? c = none ∧ s.panicAll? cs = none := by
  rw [panicAll?, Option.or_eq_none_iff]

/-- A call is enabled, and neither its builder nor a call inside it ends in a panic. -/
def completes (c : Call) : Bool :=
  s.enables c && (s.panicAll? c.inner).isNone && c.panic.isNone

/-- A call is enabled, and a panic goes through it. -/
def breaksOff (c : Call) : Bool :=
  s.enables c && !s.completes c

variable {s} in
theorem completes_iff_panic? {c : Call} :
    s.completes c = true ↔ s.enables c = true ∧ s.panic? c = none := by
  simp only [completes, Bool.and_eq_true, Option.isNone_iff_eq_none, and_assoc]
  constructor
  · rintro ⟨henabled, hends⟩
    exact ⟨henabled, panic?_eq_none_iff.2 fun _ => hends⟩
  · rintro ⟨henabled, hpanic⟩
    exact ⟨henabled, panic?_eq_none_iff.1 hpanic henabled⟩

variable {s} in
/-- A call that is enabled and breaks off is one that a panic goes through. -/
theorem breaksOff_iff {c : Call} :
    s.breaksOff c = true ↔ s.enables c = true ∧ s.panic? c ≠ none := by
  rw [breaksOff, Bool.and_eq_true, Bool.not_eq_true', ← Bool.not_eq_true, completes_iff_panic?]
  constructor
  · rintro ⟨henabled, hnot⟩
    exact ⟨henabled, fun hpanic => hnot ⟨henabled, hpanic⟩⟩
  · rintro ⟨henabled, hpanic⟩
    exact ⟨henabled, fun h => hpanic h.2⟩

variable {s} in
theorem enables_of_panic? {c : Call} (h : s.panic? c ≠ none) : s.enables c = true := by
  by_contra hoff
  exact h (panic?_eq_none_iff.2 fun hon => absurd hon hoff)

/-! ### The calls that are made -/

mutual

/-- The call and the calls that are made inside it. None are if the call is not enabled. -/
def made : Call → List Call
  | .mk number level shape message error inner panic =>
    .mk number level shape message error inner panic ::
      if s.directives.enabled (s.name number) level then madeAll inner else []

/-- The calls that are made up to the first panic, each one before those inside it. -/
def madeAll : List Call → List Call
  | [] => []
  | c :: cs => made c ++ if (s.panic? c).isNone then madeAll cs else []

end

theorem made_eq (c : Call) :
    s.made c = c :: if s.enables c then s.madeAll c.inner else [] := by
  cases c
  rw [made, enables, Call.logger, Call.level, Call.inner]

/-! ### The journal of calls -/

mutual

/-- What a call leaves in the journal: its query, what its inner calls leave, and its message if
    it gets that far. -/
def entries : Call → List Entry
  | .mk number level shape message error inner panic =>
    let c := .mk number level shape message error inner panic
    s.query c ::
      ((if s.directives.enabled (s.name number) level then entriesAll inner else []) ++
        if s.completes c then [.emitted (s.record c)] else [])

/-- What calls leave in the journal, up to the first panic. -/
def entriesAll : List Call → List Entry
  | [] => []
  | c :: cs => entries c ++ if (s.panic? c).isNone then entriesAll cs else []

end

/-- What stands between the query and the message of a call. -/
def innerEntries (c : Call) : List Entry :=
  if s.enables c then s.entriesAll c.inner else []

/-- The message of a call, if it gets that far. -/
def emission (c : Call) : List Entry :=
  if s.completes c then [.emitted (s.record c)] else []

theorem entries_eq (c : Call) :
    s.entries c = s.query c :: (s.innerEntries c ++ s.emission c) := by
  cases c
  rw [entries, innerEntries, emission, enables, Call.logger, Call.level, Call.inner]

/-! ### Which calls are made -/

theorem made_sublist {c : Call} (hinner : (s.madeAll c.inner).Sublist (Call.nodesAll c.inner)) :
    (s.made c).Sublist c.nodes := by
  rw [made_eq, Call.nodes_eq]
  split
  · exact hinner.cons_cons c
  · exact (List.nil_sublist _).cons_cons c

/-- No call is made twice, and they are made in the order in which they are written. -/
theorem madeAll_sublist (cs : List Call) : (s.madeAll cs).Sublist (Call.nodesAll cs) := by
  induction cs using Call.forest_induction with
  | nil => exact .slnil
  | cons c cs hinner hrest =>
    unfold madeAll Call.nodesAll
    refine (s.made_sublist hinner).append ?_
    split
    · exact hrest
    · exact List.nil_sublist _

variable {s} in
/-- A call that is made is a first one, or inside one that is enabled, or after one that ends
    well. -/
theorem mem_madeAll_cons {c d : Call} {cs : List Call} :
    d ∈ s.madeAll (c :: cs) ↔
      d = c ∨ (s.enables c = true ∧ d ∈ s.madeAll c.inner) ∨
        (s.panic? c = none ∧ d ∈ s.madeAll cs) := by
  rw [madeAll, made_eq, List.mem_append, List.mem_cons]
  by_cases henabled : s.enables c = true <;> by_cases hpanic : s.panic? c = none <;>
    simp [henabled, hpanic, or_assoc]

/-! ### Where panics come from -/

variable {s} in
/-- A panic comes from the builder of a call that is made and enabled, all of whose inner calls
    have ended well, and it is that builder's own. -/
theorem exists_of_panicAll? {cs : List Call} {text : String} (h : s.panicAll? cs = some text) :
    ∃ c ∈ s.madeAll cs, s.enables c = true ∧ s.panicAll? c.inner = none ∧
      c.panic = some text := by
  induction cs using Call.forest_induction with
  | nil => cases h
  | cons c cs hinner hrest =>
    simp only [mem_madeAll_cons]
    rw [panicAll?, Option.or_eq_some_iff] at h
    obtain h | ⟨hnone, h⟩ := h
    · rw [panic?_eq] at h
      split at h
      · next henabled =>
        rw [Option.or_eq_some_iff] at h
        obtain h | ⟨hwell, hown⟩ := h
        · obtain ⟨d, hd, hsource⟩ := hinner h
          exact ⟨d, .inr (.inl ⟨henabled, hd⟩), hsource⟩
        · exact ⟨c, .inl rfl, henabled, hwell, hown⟩
      · cases h
    · obtain ⟨d, hd, hsource⟩ := hrest h
      exact ⟨d, .inr (.inr ⟨hnone, hd⟩), hsource⟩

/-- Calls end well just if no builder that runs has a panic of its own. -/
theorem panicAll?_eq_none_iff (cs : List Call) :
    s.panicAll? cs = none ↔ ∀ c ∈ s.madeAll cs, s.enables c = true → c.panic = none := by
  induction cs using Call.forest_induction with
  | nil => simp [panicAll?, madeAll]
  | cons c cs hinner hrest =>
    rw [panicAll?_cons_eq_none_iff, hrest]
    simp only [mem_madeAll_cons]
    constructor
    · rintro ⟨hfirst, hall⟩ d (rfl | ⟨henabled, hd⟩ | ⟨-, hd⟩) hruns
      · exact (panic?_eq_none_iff.1 hfirst hruns).2
      · exact hinner.1 (panic?_eq_none_iff.1 hfirst henabled).1 d hd hruns
      · exact hall d hd hruns
    · intro hall
      have hfirst : s.panic? c = none := by
        rw [panic?_eq_none_iff]
        intro henabled
        exact ⟨hinner.2 fun d hd => hall d (.inr (.inl ⟨henabled, hd⟩)),
          hall c (.inl rfl) henabled⟩
      -- With that, the calls after the first one are made.
      exact ⟨hfirst, fun d hd => hall d (.inr (.inr ⟨hfirst, hd⟩))⟩

variable {s} in
/-- Calls that end well leave no call broken off. -/
theorem not_breaksOff {cs : List Call} (h : s.panicAll? cs = none) :
    ∀ c ∈ s.madeAll cs, ¬s.breaksOff c = true := by
  induction cs using Call.forest_induction with
  | nil => simp [madeAll]
  | cons c cs hinner hrest =>
    obtain ⟨hfirst, hothers⟩ := panicAll?_cons_eq_none_iff.1 h
    intro d hd hbreaks
    rcases mem_madeAll_cons.1 hd with rfl | ⟨henabled, hd⟩ | ⟨-, hd⟩
    · exact (breaksOff_iff.1 hbreaks).2 hfirst
    · exact hinner (panic?_eq_none_iff.1 hfirst henabled).1 d hd hbreaks
    · exact hrest hothers d hd hbreaks

variable {s} in
theorem filter_breaksOff_eq_nil {cs : List Call} (h : s.panicAll? cs = none) :
    (s.madeAll cs).filter s.breaksOff = [] := by
  rw [List.filter_eq_nil_iff]
  exact not_breaksOff h

/-! ### What the journal holds -/

/-- The entries of a call that is made stand together. -/
theorem entries_isInfix {cs : List Call} {c : Call} (hc : c ∈ s.madeAll cs) :
    s.entries c <:+: s.entriesAll cs := by
  induction cs using Call.forest_induction with
  | nil => cases hc
  | cons d ds hinner hrest =>
    unfold entriesAll
    rcases mem_madeAll_cons.1 hc with rfl | ⟨henabled, hc⟩ | ⟨hnone, hc⟩
    · exact List.infix_append [] _ _
    · obtain ⟨before, later, hentries⟩ := hinner hc
      rw [s.entries_eq d, innerEntries, if_pos henabled, ← hentries]
      exact ⟨s.query d :: before,
        later ++ s.emission d ++ if (s.panic? d).isNone then s.entriesAll ds else [], by simp⟩
    · rw [hnone]
      exact (hrest hc).trans (List.suffix_append _ _).isInfix

/-- The queries of a call are those of the calls made in it, if that holds of its inner calls. -/
theorem filter_isQuery_entries {c : Call}
    (hinner : (s.entriesAll c.inner).filter Entry.isQuery = (s.madeAll c.inner).map s.query) :
    (s.entries c).filter Entry.isQuery = (s.made c).map s.query := by
  have hemission : (s.emission c).filter Entry.isQuery = [] := by
    unfold emission
    split <;> rfl
  rw [entries_eq, made_eq, innerEntries, List.filter_cons_of_pos rfl, List.filter_append,
    hemission, List.append_nil, List.map_cons]
  split
  · rw [hinner]
  · rfl

/-- The queries in the journal are those of the calls that are made, in their order. -/
theorem filter_isQuery_entriesAll (cs : List Call) :
    (s.entriesAll cs).filter Entry.isQuery = (s.madeAll cs).map s.query := by
  induction cs using Call.forest_induction with
  | nil => rfl
  | cons c cs hinner hrest =>
    unfold entriesAll madeAll
    rw [List.filter_append, List.map_append, s.filter_isQuery_entries hinner]
    split
    · rw [hrest]
    · rfl

/-- The messages of a call are those of the calls that complete in it, if that holds of its inner
    calls. -/
theorem filterMap_record?_entries {c : Call}
    (hinner : ((s.entriesAll c.inner).filterMap Entry.record?).Perm
      (((s.madeAll c.inner).filter s.completes).map s.record)) :
    ((s.entries c).filterMap Entry.record?).Perm
      (((s.made c).filter s.completes).map s.record) := by
  have hemission : (s.emission c).filterMap Entry.record? =
      ([c].filter s.completes).map s.record := by
    unfold emission
    by_cases hcompletes : s.completes c = true <;> simp [hcompletes, Entry.record?]
  rw [entries_eq, made_eq, innerEntries, List.filterMap_cons_none rfl, List.filterMap_append,
    hemission]
  split
  · -- The message of the call comes last in the journal, while the call is made first.
    refine (hinner.append_right _).trans (List.perm_append_comm.trans ?_)
    rw [← List.map_append, ← List.filter_append, List.singleton_append]
  · exact .refl _

/-- The messages in the journal are those of the calls that complete, each one once. -/
theorem filterMap_record?_entriesAll (cs : List Call) :
    ((s.entriesAll cs).filterMap Entry.record?).Perm
      (((s.madeAll cs).filter s.completes).map s.record) := by
  induction cs using Call.forest_induction with
  | nil => exact .nil
  | cons c cs hinner hrest =>
    unfold entriesAll madeAll
    rw [List.filterMap_append, List.filter_append, List.map_append]
    refine (s.filterMap_record?_entries hinner).append ?_
    split
    · exact hrest
    · exact .nil

/-! ### Brackets -/

/-- What the query and the message of a call have in common. -/
abbrev Mark : Type :=
  Name × Level

/-- The mark of a call. -/
def mark (c : Call) : Mark :=
  (s.name c.logger, c.level)

end Setting

/-- Reads a journal as brackets: a query that is answered with yes opens one, and a message closes
    the one opened last, which has to be for its logger and level. Gives those left open, with
    the last one first, or nothing if a message closes none. -/
def unanswered : List Setting.Mark → List Entry → Option (List Setting.Mark)
  | stack, [] => some stack
  | stack, .queried n l enabled :: es => unanswered (if enabled then (n, l) :: stack else stack) es
  | [], .emitted _ :: _ => none
  | top :: stack, .emitted r :: es =>
    if top = (r.logger, r.level) then unanswered stack es else none

namespace Setting

variable (s : Setting)

theorem unanswered_query (stack : List Mark) (c : Call) (es : List Entry) :
    unanswered stack (s.query c :: es) =
      unanswered (if s.enables c then s.mark c :: stack else stack) es := by
  rw [query, unanswered, mark]

theorem unanswered_emitted (stack : List Mark) (c : Call) (es : List Entry) :
    unanswered (s.mark c :: stack) (.emitted (s.record c) :: es) = unanswered stack es := by
  rw [unanswered, if_pos]
  rfl

/-- The marks of the calls that a panic goes through, with the innermost one first. -/
def openMarks (cs : List Call) : List Mark :=
  (((s.madeAll cs).filter s.breaksOff).map s.mark).reverse

variable {s} in
theorem openMarks_eq_nil {cs : List Call} (h : s.panicAll? cs = none) : s.openMarks cs = [] := by
  rw [openMarks, filter_breaksOff_eq_nil h]
  rfl

variable {s} in
theorem openMarks_cons_of_none {c : Call} {cs : List Call} (hpanic : s.panic? c = none) :
    s.openMarks (c :: cs) = s.openMarks cs := by
  have halone : s.madeAll [c] = s.made c := by
    rw [madeAll, madeAll, ite_self, List.append_nil]
  have hwell : s.panicAll? [c] = none := by
    rw [panicAll?, panicAll?, hpanic]
    rfl
  have hclosed := filter_breaksOff_eq_nil hwell
  rw [halone] at hclosed
  unfold openMarks
  rw [madeAll, hpanic, List.filter_append, hclosed]
  rfl

variable {s} in
theorem openMarks_cons_of_panic {c : Call} {cs : List Call} (hpanic : s.panic? c ≠ none) :
    s.openMarks (c :: cs) = s.openMarks c.inner ++ [s.mark c] := by
  have henabled := enables_of_panic? hpanic
  have hbreaks : s.breaksOff c = true := breaksOff_iff.2 ⟨henabled, hpanic⟩
  have hsome : ¬(s.panic? c).isNone = true := mt Option.isNone_iff_eq_none.1 hpanic
  unfold openMarks
  rw [madeAll, made_eq, if_pos henabled, if_neg hsome, List.append_nil,
    List.filter_cons_of_pos hbreaks, List.map_cons, List.reverse_cons]

/-- A call closes its own bracket, or a panic leaves it open around those of its inner calls, if
    the brackets of these fit. -/
theorem unanswered_entries {c : Call}
    (hinner : ∀ stack es, unanswered stack (s.entriesAll c.inner ++ es) =
      unanswered (s.openMarks c.inner ++ stack) es) (stack : List Mark) (es : List Entry) :
    unanswered stack (s.entries c ++ es) =
      unanswered (if (s.panic? c).isNone then stack
        else s.openMarks c.inner ++ s.mark c :: stack) es := by
  rw [entries_eq, List.cons_append, unanswered_query, innerEntries, emission]
  by_cases henabled : s.enables c = true
  · rw [if_pos henabled, if_pos henabled, List.append_assoc, hinner]
    by_cases hpanic : s.panic? c = none
    · -- All inner brackets are closed by now, and the message closes the call's own.
      have hclosed := openMarks_eq_nil (panic?_eq_none_iff.1 hpanic henabled).1
      rw [hclosed, if_pos (completes_iff_panic?.2 ⟨henabled, hpanic⟩), hpanic]
      exact s.unanswered_emitted stack c es
    · have hcompletes : ¬s.completes c = true := fun h => hpanic (completes_iff_panic?.1 h).2
      have hsome : ¬(s.panic? c).isNone = true := mt Option.isNone_iff_eq_none.1 hpanic
      rw [if_neg hcompletes, if_neg hsome, List.nil_append]
  · -- The query opens nothing, and nothing comes after it.
    have hpanic : s.panic? c = none := panic?_eq_none_iff.2 fun hon => absurd hon henabled
    have hcompletes : ¬s.completes c = true := fun h => henabled (completes_iff_panic?.1 h).1
    rw [if_neg henabled, if_neg henabled, if_neg hcompletes, hpanic]
    rfl

/-- Only the brackets of the calls that a panic goes through stay open. -/
theorem unanswered_entriesAll (cs : List Call) (stack : List Mark) (es : List Entry) :
    unanswered stack (s.entriesAll cs ++ es) = unanswered (s.openMarks cs ++ stack) es := by
  induction cs using Call.forest_induction generalizing stack es with
  | nil => rfl
  | cons c cs hinner hrest =>
    rw [entriesAll, List.append_assoc, unanswered_entries s hinner]
    by_cases hpanic : s.panic? c = none
    · rw [openMarks_cons_of_none hpanic, hpanic]
      exact hrest stack es
    · have hsome : ¬(s.panic? c).isNone = true := mt Option.isNone_iff_eq_none.1 hpanic
      rw [if_neg hsome, if_neg hsome, openMarks_cons_of_panic hpanic, List.nil_append,
        List.append_assoc, List.singleton_append]

end Setting

end LoggerTree

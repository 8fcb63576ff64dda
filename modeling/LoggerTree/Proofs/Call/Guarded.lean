import LoggerTree.Proofs.Call.Running
import LoggerTree.Proofs.Facade.Captures

/-! # Guarded logging over call trees

    Calls on the loggers of a backend that keeps a journal come to what their setting says: the
    builders that run, the panic that gets through and the entries that are left are those of the
    calls that are made.

    Main statement: `guarded_logging`. It holds in every state that a history leads to, for calls
    nested to any depth, panics anywhere among them.
-/

namespace LoggerTree

/-! ### What calls come to -/

namespace Facade

/-- The setting of calls on the loggers of a backend. -/
def setting (f : Facade) (b : Nat) : Setting where
  name number := (f.loggers[number]?).elim .root Logger.name
  directives := (f.backends b).directives

/-- What calls on the loggers of a backend are to come to. -/
def comesTo (f : Facade) (b : Nat) (calls : List Call) : Ran Unit where
  built := ((f.setting b).madeAll calls).filter (f.setting b).enables
  outcome := .ofPanic () ((f.setting b).panicAll? calls)
  after := f.noteAll b ((f.setting b).entriesAll calls)

theorem directives_noteAll (f : Facade) (b : Nat) (es : List Entry) :
    ((f.noteAll b es).backends b).directives = (f.backends b).directives := by
  rw [backends_noteAll_self, Backend.directives_noteAll]

@[simp] theorem setting_noteAll (f : Facade) (b : Nat) (es : List Entry) :
    (f.noteAll b es).setting b = f.setting b := by
  unfold setting
  rw [directives_noteAll, loggers_noteAll]

theorem setting_name {f : Facade} {b number : Nat} {l : Logger}
    (hl : f.loggers[number]? = some l) : (f.setting b).name number = l.name := by
  show (f.loggers[number]?).elim .root Logger.name = l.name
  rw [hl]
  rfl

theorem Serves.noteAll {f : Facade} {b : Nat} {calls : List Call} (h : f.Serves b calls)
    (es : List Entry) : (f.noteAll b es).Serves b calls :=
  h

end Facade

/-! ### One call -/

namespace Facade.Captures

variable {f : Facade} {b : Nat}

theorem isEnabled_eq (h : f.Captures b) {c : Call} {l : Logger}
    (hl : f.loggers[c.logger]? = some l) (hb : l.backend = b) :
    l.isEnabled c.level f =
      ⟨[], .ok ((f.setting b).enables c), f.noteAll b [(f.setting b).query c]⟩ := by
  rw [Logger.isEnabled, Action.ofOperation, h.query_eq (List.mem_of_getElem? hl) hb,
    Setting.query, Setting.enables, setting_name hl, setting]

theorem emit_message (h : f.Captures b) {c : Call} {l : Logger}
    (hl : f.loggers[c.logger]? = some l) (hb : l.backend = b) :
    l.emit c.level c.message c.error f =
      ⟨[], .ok (), f.noteAll b [.emitted ((f.setting b).record c)]⟩ := by
  rw [Logger.emit, Action.ofOperation, h.emit_eq hb, Setting.record, setting_name hl]

/-- A call comes to what its setting says if its inner calls do. -/
theorem run_eq (h : f.Captures b) {c : Call} {l : Logger} (hl : f.loggers[c.logger]? = some l)
    (hb : l.backend = b)
    (hinner : ∀ es, Call.runAll c.inner (f.noteAll b es) = (f.noteAll b es).comesTo b c.inner) :
    c.run f = ⟨((f.setting b).made c).filter (f.setting b).enables,
      .ofPanic () ((f.setting b).panic? c), f.noteAll b ((f.setting b).entries c)⟩ := by
  have hquery := h.isEnabled_eq hl hb
  rw [Setting.made_eq, Setting.panic?_eq, Setting.entries_eq, Setting.innerEntries,
    Setting.emission]
  by_cases henabled : (f.setting b).enables c = true
  · have hran := hinner [(f.setting b).query c]
    unfold comesTo at hran
    rw [setting_noteAll, noteAll_noteAll, List.singleton_append] at hran
    rw [henabled] at hquery
    rw [if_pos henabled, if_pos henabled, if_pos henabled, List.filter_cons_of_pos henabled]
    cases hpanic : ((f.setting b).panicAll? c.inner).or c.panic with
    | some text =>
      have hcompletes : ¬(f.setting b).completes c = true := by
        intro hcompletes
        have hnone := (Setting.completes_iff_panic?.1 hcompletes).2
        rw [Setting.panic?_eq, if_pos henabled, hpanic] at hnone
        cases hnone
      rw [Call.run_of_panic hl hquery hran hpanic, if_neg hcompletes, List.append_nil]
      rfl
    | none =>
      -- The message goes to the journal as the builder has left it.
      have hcompletes : (f.setting b).completes c = true := by
        rw [Setting.completes_iff_panic?, Setting.panic?_eq, if_pos henabled]
        exact ⟨henabled, hpanic⟩
      have hemit := (h.noteAll ((f.setting b).query c ::
        (f.setting b).entriesAll c.inner)).emit_message hl hb
      rw [setting_noteAll, noteAll_noteAll, List.cons_append] at hemit
      rw [Call.run_of_message hl hquery hran hpanic hemit, if_pos hcompletes]
      rfl
  · have hcompletes : ¬(f.setting b).completes c = true := by simp [Setting.completes, henabled]
    rw [Bool.eq_false_iff.2 henabled] at hquery
    rw [Call.run_of_not_enabled hl hquery, if_neg henabled, if_neg henabled, if_neg henabled,
      if_neg hcompletes, List.filter_cons_of_neg henabled]
    rfl

/-- **Calls come to what their setting says.** -/
theorem runAll_eq (h : f.Captures b) {calls : List Call} (hserves : f.Serves b calls) :
    Call.runAll calls f = f.comesTo b calls := by
  induction calls using Call.forest_induction generalizing f with
  | nil =>
    unfold comesTo
    rw [Setting.entriesAll, noteAll_nil]
    rfl
  | cons c cs hinner hrest =>
    obtain ⟨⟨l, hl, hb⟩, hserveInner, hserveRest⟩ := serves_cons.1 hserves
    have hrun := h.run_eq hl hb fun es => hinner (h.noteAll es) (hserveInner.noteAll es)
    -- The first call leaves the setting as it was, so the others are made in it too.
    have hafter := hrest (h.noteAll ((f.setting b).entries c)) (hserveRest.noteAll _)
    unfold comesTo at hafter
    rw [setting_noteAll, noteAll_noteAll] at hafter
    rw [Call.runAll, comesTo, Setting.madeAll, Setting.panicAll?, Setting.entriesAll]
    cases hpanic : (f.setting b).panic? c with
    | some text =>
      rw [hpanic] at hrun
      rw [Action.bind_of_error hrun]
      simp [Facade.Outcome.ofPanic]
    | none =>
      rw [hpanic] at hrun
      rw [Action.bind_of_ok hrun, hafter]
      simp

/-- Calls come to the same after others, whatever has become of these. -/
theorem runAll_noteAll (h : f.Captures b) {calls : List Call} (hserves : f.Serves b calls)
    (es : List Entry) :
    Call.runAll calls (f.noteAll b es) =
      { Call.runAll calls f with
        after := f.noteAll b (es ++ (f.setting b).entriesAll calls) } := by
  rw [(h.noteAll es).runAll_eq (hserves.noteAll es), h.runAll_eq hserves, comesTo, comesTo,
    setting_noteAll, noteAll_noteAll]

end Facade.Captures

/-! ### The promise -/

/-- What guarded logging promises of calls on the loggers of a backend that keeps a journal, in a
    setting that says which of them are made: those up to the first panic, without those inside a
    call whose level is not enabled. -/
structure Guarded (s : Setting) (f : Facade) (b : Nat) (calls : List Call) (ran : Ran Unit) :
    Prop where
  /-- Calls are made in the order in which they are written, and none twice. -/
  made : (s.madeAll calls).Sublist (Call.nodesAll calls)
  /-- The builder of a call that is made runs once if the level is enabled, and else never. -/
  built : ran.built = (s.madeAll calls).filter s.enables
  /-- The journal grows by the entries of the calls; what it has held stays. -/
  journal : (ran.after.backends b).journal = (f.backends b).journal ++ s.entriesAll calls
  /-- Nothing but the journal changes. -/
  after : ran.after = f.noteAll b (s.entriesAll calls)
  /-- The query of a call comes first, then all entries of its inner calls, then its message. -/
  bracket : ∀ c ∈ s.madeAll calls,
    s.query c :: (s.innerEntries c ++ s.emission c) <:+: s.entriesAll calls
  /-- All entries together nest like brackets. Only those of the calls that a panic goes through
      stay open. -/
  nested : unanswered [] (s.entriesAll calls) =
    some (((s.madeAll calls).filter s.breaksOff).map s.mark).reverse
  /-- Each call that is made asks once. -/
  queries : (s.entriesAll calls).filter Entry.isQuery = (s.madeAll calls).map s.query
  /-- Each call that completes leaves its message once, and no other call does. -/
  records : ((s.entriesAll calls).filterMap Entry.record?).Perm
    (((s.madeAll calls).filter s.completes).map s.record)
  /-- A call completes if its level is enabled and no builder that runs in it panics. -/
  completes : ∀ c, s.completes c = true ↔
    s.enables c = true ∧ c.panic = none ∧
      ∀ d ∈ s.madeAll c.inner, s.enables d = true → d.panic = none
  /-- The first panic gets through to the outside. -/
  outcome : ran.outcome = .ofPanic () (s.panicAll? calls)
  /-- It is the panic of a builder that runs, as it is. -/
  source : ∀ text, s.panicAll? calls = some text →
    ∃ c ∈ s.madeAll calls, s.enables c = true ∧ s.panicAll? c.inner = none ∧
      c.panic = some text
  /-- There is none if no builder that runs has one. -/
  calm : s.panicAll? calls = none ↔ ∀ c ∈ s.madeAll calls, s.enables c = true → c.panic = none
  /-- Later calls come to what they would have come to without these. -/
  later : ∀ more, f.Serves b more →
    Call.runAll more ran.after =
      { Call.runAll more f with
        after := f.noteAll b (s.entriesAll calls ++ s.entriesAll more) }
  /-- Calls that are written in other ways come to the same. -/
  shapes : ∀ others, Call.plainAll others = Call.plainAll calls →
    (Call.runAll others f).plain = ran.plain

namespace Setting

variable (s : Setting)

theorem completes_iff (c : Call) :
    s.completes c = true ↔ s.enables c = true ∧ c.panic = none ∧
      ∀ d ∈ s.madeAll c.inner, s.enables d = true → d.panic = none := by
  rw [← panicAll?_eq_none_iff, completes, Bool.and_eq_true, Bool.and_eq_true,
    Option.isNone_iff_eq_none, Option.isNone_iff_eq_none, and_assoc, and_comm (a := _ = none)]

theorem unanswered_nil_entriesAll (calls : List Call) :
    unanswered [] (s.entriesAll calls) =
      some (((s.madeAll calls).filter s.breaksOff).map s.mark).reverse := by
  have hread := s.unanswered_entriesAll calls [] []
  rwa [List.append_nil, List.append_nil] at hread

end Setting

/-- **Guarded logging keeps its promise.** Whatever has been done with a backend that keeps a
    journal, calls on its loggers, nested to any depth and with panics anywhere, run the builders
    of just those calls that are enabled, leave entries that nest, and let the first panic
    through. -/
theorem guarded_logging {start : Facade} {b : Nat} {d : Directives}
    (hbackend : start.backends b = .capture { directives := d }) (hloggers : start.loggers = [])
    (history : List Command) {calls : List Call} (hserves : (start.run history).Serves b calls) :
    ∃ c, (start.run history).backends b = .capture c ∧
      ((start.run history).setting b).directives = c.directives ∧
      Guarded ((start.run history).setting b) (start.run history) b calls
        (Call.runAll calls (start.run history)) := by
  have hcaptures := (Facade.Captures.of_new hbackend hloggers).run history
  generalize start.run history = f at *
  obtain ⟨c, hc, -⟩ := hcaptures.backend.sound
  refine ⟨c, hc, ?_, ?_⟩
  · show (f.backends b).directives = c.directives
    rw [hc]
    rfl
  · have hran := hcaptures.runAll_eq hserves
    have hafter : (Call.runAll calls f).after = f.noteAll b ((f.setting b).entriesAll calls) := by
      rw [hran, Facade.comesTo]
    exact
      { made := (f.setting b).madeAll_sublist calls
        built := by rw [hran, Facade.comesTo]
        journal := by
          rw [hafter, Facade.backends_noteAll_self, hc]
          rfl
        after := hafter
        bracket := by
          intro d hd
          rw [← Setting.entries_eq]
          exact Setting.entries_isInfix _ hd
        nested := (f.setting b).unanswered_nil_entriesAll calls
        queries := (f.setting b).filter_isQuery_entriesAll calls
        records := (f.setting b).filterMap_record?_entriesAll calls
        completes := (f.setting b).completes_iff
        outcome := by rw [hran, Facade.comesTo]
        source := fun _ => Setting.exists_of_panicAll?
        calm := (f.setting b).panicAll?_eq_none_iff calls
        later := by
          intro more hmore
          rw [hafter]
          exact hcaptures.runAll_noteAll hmore _
        shapes := by
          intro others hothers
          have hplain := congrFun (Call.runAll_plainAll others) f
          rw [hothers, Call.runAll_plainAll calls] at hplain
          exact hplain.symm }

/-- A message for `db` is being built by a call on `app`, which panics after two calls of its own,
    one of them not enabled. -/
theorem guarded_logging_of_panic :
    let new : Backend := .capture { directives := { fallback := .atLeast .info } }
    let start : Facade := { backends := fun _ => new }
    let history : List Command :=
      [.acquireDirect 0 (.ofString "db"), .acquireDirect 0 (.ofString "app"), .query 1 .warn]
    let f := start.run history
    let hidden : Call := .mk 1 .error .method "hidden" none [] none
    let quiet : Call := .mk 0 .debug .brief "quiet" none [hidden] none
    let fine : Call := .mk 1 .info .generic "fine" (some ⟨"timeout", []⟩) [] none
    let broken : Call := .mk 1 .info .briefGeneric "lost" none [quiet, fine] (some "boom")
    let outer : Call := .mk 0 .warn .method "outer" none [broken, fine] none
    let ran := Call.runAll [outer, fine] f
    start.backends 0 = new ∧ start.loggers = [] ∧ f.Serves 0 [outer, fine] ∧
      ran.outcome = .error "boom" ∧ ran.built.map Call.message = ["outer", "lost", "fine"] ∧
      (ran.after.backends 0).journal =
        [.queried (.ofString "app") .warn true, .queried (.ofString "db") .warn true,
          .queried (.ofString "app") .info true, .queried (.ofString "db") .debug false,
          .queried (.ofString "app") .info true,
          .emitted ⟨.ofString "app", .info, "fine", some "timeout"⟩] := by
  intro new start history f hidden quiet fine broken outer ran
  have hserves : f.Serves 0 [outer, fine] := by
    intro c hc
    have hnumber : c.logger = 0 ∨ c.logger = 1 := by
      revert c
      decide
    rcases hnumber with h | h <;> rw [h] <;> exact ⟨_, rfl, rfl⟩
  obtain ⟨c, -, -, hguarded⟩ := @guarded_logging start 0 _ rfl rfl history _ hserves
  have hpanic : (f.setting 0).panicAll? [outer, fine] = some "boom" := by decide +kernel
  have hbuilt : (((f.setting 0).madeAll [outer, fine]).filter (f.setting 0).enables).map
      Call.message = ["outer", "lost", "fine"] := by decide +kernel
  refine ⟨rfl, rfl, hserves, ?_, ?_, ?_⟩
  · rw [hguarded.outcome, hpanic]
    rfl
  · rw [hguarded.built, hbuilt]
  · rw [hguarded.journal]
    decide +kernel

end LoggerTree

import LoggerTree.Proofs.Call.Uses
import LoggerTree.Proofs.Facade.Captures
import LoggerTree.Proofs.Facade.Handles
import Mathlib.Data.List.DropRight

/-! # What a journal tells

    A backend that keeps a journal can get other thresholds at any time. Its loggers answer by
    those that it has got last, however long ago they were acquired. The journal has an entry for
    each use of its loggers since it was last emptied, in the order of the uses, and nothing else.

    Main statement: `journal_tells_truth`. It holds after every history, with calls nested to any
    depth, and with any number of factories and of other backends.
-/

namespace LoggerTree

/-! ### What commands do -/

namespace Command

/-- The thresholds that a command gives a backend. -/
def directives? (b : Nat) : Command → Option Directives
  | setDirectives i d => if i = b then some d else none
  | _ => none

/-- Whether a command empties the journal of a backend. -/
def clears (b : Nat) : Command → Bool
  | clear i => i = b
  | _ => false

/-- The thresholds that a backend has been given last, or else those it was made with. -/
def latest (b : Nat) (d : Directives) (history : List Command) : Directives :=
  ((history.filterMap (directives? b)).getLast?).getD d

theorem latest_append (b : Nat) (d : Directives) (history : List Command) (c : Command) :
    latest b d (history ++ [c]) = (c.directives? b).getD (latest b d history) := by
  unfold latest
  rw [List.filterMap_append]
  cases h : c.directives? b with
  | none => simp [h]
  | some e => simp [h]

end Command

/-- The entry that a use leaves in the journal of a backend. A query that fails leaves none, and
    neither does a use of a logger of another backend. -/
def Use.record? (b : Nat) : Use → Option Entry
  | queried l level (.ok answer) =>
    if l.backend = b then some (.queried l.name level answer) else none
  | queried _ _ (.error _) => none
  | emitted l level message error =>
    if l.backend = b then some (.emitted ⟨l.name, level, message, error.map (·.text)⟩) else none

/-- The logger that is used. -/
def Use.logger : Use → Logger
  | queried l .. => l
  | emitted l .. => l

/-- A logger of the backend has been answered by the thresholds. -/
def Use.AnsweredBy (b : Nat) (d : Directives) : Use → Prop
  | queried l level answer => l.backend = b → answer = .ok (d.enabled l.name level)
  | emitted .. => True

/-! ### What uses leave -/

namespace Facade

theorem backends_query_ne {f : Facade} {l : Logger} {b : Nat} (ne : l.backend ≠ b)
    (level : Level) : (f.query l level).2.backends b = f.backends b := by
  unfold query
  split
  · rfl
  · exact backends_alterBackend_ne ne.symm

theorem backends_emit_ne {f : Facade} {l : Logger} {b : Nat} (ne : l.backend ≠ b) (level : Level)
    (message : String) (error : Option ErrorChain) :
    (f.emit l level message error).2.backends b = f.backends b := by
  unfold emit
  split
  · rw [backends_send]
  · dsimp only
    split <;> exact backends_alterBackend_ne ne.symm

theorem Captures.backends_query {f : Facade} {b : Nat} (h : f.Captures b) {l : Logger}
    (hl : l ∈ f.loggers) (level : Level) :
    (f.query l level).2.backends b = (f.backends b).noteAll
      ((Use.queried l level (f.query l level).1).record? b).toList := by
  by_cases hb : l.backend = b
  · rw [h.query_eq hl hb, backends_noteAll_self, Use.record?, if_pos hb]
    rfl
  · have hnone : (Use.queried l level (f.query l level).1).record? b = none := by
      cases (f.query l level).1 <;> simp [Use.record?, hb]
    rw [hnone, backends_query_ne hb]
    exact (Backend.noteAll_nil _).symm

theorem Captures.backends_emit {f : Facade} {b : Nat} (h : f.Captures b) (l : Logger)
    (level : Level) (message : String) (error : Option ErrorChain) :
    (f.emit l level message error).2.backends b = (f.backends b).noteAll
      ((Use.emitted l level message error).record? b).toList := by
  by_cases hb : l.backend = b
  · rw [h.emit_eq hb, backends_noteAll_self, Use.record?, if_pos hb]
    rfl
  · rw [Use.record?, if_neg hb, backends_emit_ne hb]
    exact (Backend.noteAll_nil _).symm

/-- A query of a logger of the backend is answered by the thresholds. -/
theorem Captures.answeredBy_query {f : Facade} {b : Nat} (h : f.Captures b) {l : Logger}
    (hl : l ∈ f.loggers) (level : Level) :
    (Use.queried l level (f.query l level).1).AnsweredBy b (f.backends b).directives := by
  intro hb
  rw [h.query_eq hl hb]

/-- What uses leave, and how they are answered, one use at a time. -/
theorem backend_eq_cons {f h g : Facade} {b : Nat} {u : Use} {uses : List Use}
    (hfirst : h.backends b = (f.backends b).noteAll (u.record? b).toList)
    (hanswer : u.AnsweredBy b (f.backends b).directives)
    (hrest : g.backends b = (h.backends b).noteAll (uses.filterMap (Use.record? b)) ∧
      ∀ v ∈ uses, v.AnsweredBy b (h.backends b).directives) :
    g.backends b = (f.backends b).noteAll ((u :: uses).filterMap (Use.record? b)) ∧
      ∀ v ∈ u :: uses, v.AnsweredBy b (f.backends b).directives := by
  have hentries : (u :: uses).filterMap (Use.record? b) =
      (u.record? b).toList ++ uses.filterMap (Use.record? b) := by
    simp only [List.filterMap_eq_flatMap_toList, List.flatMap_cons]
  obtain ⟨hbackend, hanswers⟩ := hrest
  rw [hfirst, Backend.noteAll_noteAll, ← hentries] at hbackend
  rw [hfirst, Backend.directives_noteAll] at hanswers
  exact ⟨hbackend, List.forall_mem_cons.2 ⟨hanswer, hanswers⟩⟩

/-- Uses leave their entries in the journal of a backend and change nothing else about it. Its
    thresholds are the same all the while, and its loggers answer by them. -/
theorem Performs.backend_eq {f g : Facade} {uses : List Use} {b : Nat} (h : f.Performs uses g)
    (hcaptures : f.Captures b) :
    g.backends b = (f.backends b).noteAll (uses.filterMap (Use.record? b)) ∧
      ∀ u ∈ uses, u.AnsweredBy b (f.backends b).directives := by
  -- The first use leaves its entry and the thresholds as they were, so that the other uses start
  -- from a backend that captures too.
  induction h with
  | nil f => exact ⟨(Backend.noteAll_nil _).symm, by simp⟩
  | @queried f g uses l level known rest ih =>
    have hafter := (changes_query f l level).keeps (fun _ _ => Captures.change) hcaptures
    exact backend_eq_cons (hcaptures.backends_query known level)
      (hcaptures.answeredBy_query known level) (ih hafter)
  | @emitted f g uses l level message error known rest ih =>
    have hafter := (changes_emit f l level message error).keeps (fun _ _ => Captures.change)
      hcaptures
    exact backend_eq_cons (hcaptures.backends_emit l level message error) trivial (ih hafter)

/-! ### What other commands leave -/

/-- Neither journals nor thresholds tell two states apart. -/
structure SameRecord (f g : Facade) : Prop where
  journal : ∀ b, (g.backends b).journal = (f.backends b).journal
  directives : ∀ b, (g.backends b).directives = (f.backends b).directives

theorem sameRecord_of_backends {f g : Facade} (h : g.backends = f.backends) :
    f.SameRecord g := by
  constructor <;> intro b <;> rw [h]

theorem SameRecord.trans {f g h : Facade} (first : f.SameRecord g) (second : g.SameRecord h) :
    f.SameRecord h where
  journal b := (second.journal b).trans (first.journal b)
  directives b := (second.directives b).trans (first.directives b)

theorem sameRecord_alterBackend (f : Facade) (b : Nat) {change : Backend → Backend}
    (hjournal : ∀ backend : Backend, (change backend).journal = backend.journal)
    (hdirectives : ∀ backend : Backend, (change backend).directives = backend.directives) :
    f.SameRecord (f.alterBackend b change) where
  journal := alterBackend_keeps Backend.journal f b hjournal
  directives := alterBackend_keeps Backend.directives f b hdirectives

theorem sameRecord_handle (f : Facade) (b : Nat) (name : Name) :
    f.SameRecord (f.handle b name).2 := by
  unfold handle
  split
  · exact sameRecord_of_backends rfl
  · -- A new handle is all that the backend gets.
    exact (sameRecord_of_backends (backends_send f _)).trans
      (sameRecord_alterBackend _ b (Backend.journal_addHandle _) (Backend.directives_addHandle _))

theorem sameRecord_fetch (f : Facade) (b : Nat) (name : Name) :
    f.SameRecord (f.fetch b name).2 :=
  ⟨(sameRecord_handle f b name).journal, (sameRecord_handle f b name).directives⟩

theorem sameRecord_loggerWith (f : Facade) (k : Nat) (context : Context) (strategy : Strategy) :
    f.SameRecord (f.loggerWith k context strategy).2 := by
  obtain ⟨g, hg, hfetch⟩ := loggerWith_eq_fetch f k context strategy
  rw [hfetch]
  exact (sameRecord_of_backends hg.backends).trans (sameRecord_fetch g _ _)

theorem sameRecord_acquire (f : Facade) (k : Nat) (a : Acquisition) :
    f.SameRecord (f.acquire k a).2 := by
  cases a with
  | type raw =>
    have hname := sameRecord_of_backends (prepares_nameFor f k raw).backends
    exact hname.trans (sameRecord_fetch _ _ _)
  | name text => exact sameRecord_fetch f _ _
  | module | context | singleton => exact sameRecord_loggerWith f k _ _

/-- Commands that neither use loggers nor change a backend leave no traces in it. -/
theorem sameRecord_step {f : Facade} {c : Command} (huse : c.isUse = false)
    (hdirectives : ∀ b d, c ≠ .setDirectives b d) (hclear : ∀ b, c ≠ .clear b) :
    f.SameRecord (f.step c).2 := by
  cases c with
  | acquire k a => exact sameRecord_acquire f k a
  | acquireWith k context strategy => exact sameRecord_loggerWith f k context strategy
  | acquireDirect b name => exact sameRecord_fetch f b name
  | nameFor k raw => exact sameRecord_of_backends (prepares_nameFor f k raw).backends
  | clone number =>
    apply sameRecord_of_backends
    simp only [step, withLogger]
    split <;> rfl
  | setStrategy k strategy => exact sameRecord_of_backends rfl
  | setDirectives b d => exact absurd rfl (hdirectives b d)
  | clear b => exact absurd rfl (hclear b)
  | query | call | emit => cases huse

/-! ### One command -/

namespace Captures

variable {f : Facade} {b : Nat}

theorem directives_step (h : f.Captures b) (c : Command) :
    ((f.step c).2.backends b).directives =
      (c.directives? b).getD (f.backends b).directives := by
  by_cases huse : c.isUse = true
  · have hnone : c.directives? b = none := by
      cases c <;> first | rfl | cases huse
    obtain ⟨hbackend, -⟩ := (performs_step huse).backend_eq h
    rw [hbackend, hnone, Backend.directives_noteAll]
    rfl
  · rw [Bool.not_eq_true] at huse
    cases c with
    | setDirectives i d =>
      show ((f.alterBackend i (·.setDirectives d)).backends b).directives = _
      by_cases hi : i = b
      · subst hi
        rw [backends_alterBackend_self, h.backend.directives_setDirectives, Command.directives?,
          if_pos rfl]
        rfl
      · rw [backends_alterBackend_ne (Ne.symm hi), Command.directives?, if_neg hi]
        rfl
    | clear i => exact alterBackend_keeps Backend.directives f i Backend.directives_clear b
    | acquire | acquireWith | acquireDirect | nameFor | clone | setStrategy =>
      exact (sameRecord_step huse nofun nofun).directives b
    | query | call | emit => cases huse

/-- A command empties the journal, or else it adds the entries of its uses. -/
theorem journal_step (h : f.Captures b) (c : Command) :
    ((f.step c).2.backends b).journal = if c.clears b then [] else
      (f.backends b).journal ++ (f.uses c).filterMap (Use.record? b) := by
  by_cases huse : c.isUse = true
  · have hkept : c.clears b = false := by
      cases c <;> first | rfl | cases huse
    obtain ⟨hbackend, -⟩ := (performs_step huse).backend_eq h
    rw [hbackend, hkept, h.backend.journal_noteAll]
    rfl
  · rw [Bool.not_eq_true] at huse
    rw [uses_of_not_isUse huse, List.filterMap_nil, List.append_nil]
    cases c with
    | setDirectives i d =>
      exact alterBackend_keeps Backend.journal f i (Backend.journal_setDirectives d) b
    | clear i =>
      show ((f.alterBackend i (·.clear)).backends b).journal = _
      by_cases hi : i = b
      · subst hi
        rw [backends_alterBackend_self, Backend.journal_clear]
        simp [Command.clears]
      · rw [backends_alterBackend_ne (Ne.symm hi)]
        simp [Command.clears, hi]
    | acquire | acquireWith | acquireDirect | nameFor | clone | setStrategy =>
      exact (sameRecord_step huse nofun nofun).journal b
    | query | call | emit => cases huse

/-! ### Histories -/

/-- The thresholds of a backend are those it has been given last. -/
theorem directives_run (h : f.Captures b) (history : List Command) :
    ((f.run history).backends b).directives =
      Command.latest b (f.backends b).directives history := by
  induction history using List.reverseRecOn with
  | nil => rfl
  | append_singleton history c ih =>
    rw [run_append, run_cons, run_nil, (h.run history).directives_step, ih,
      Command.latest_append]

/-- The journal holds the entries of what has been done since it was last emptied. -/
theorem journal_run (h : f.Captures b) (hempty : (f.backends b).journal = [])
    (history : List Command) :
    ((f.run history).backends b).journal =
      ((f.run (history.rdropWhile (!·.clears b))).usesAll
        (history.rtakeWhile (!·.clears b))).filterMap (Use.record? b) := by
  -- The last command either empties the journal, and nothing has been done since, or it is one
  -- more command since the journal was emptied.
  induction history using List.reverseRecOn with
  | nil => rw [run_nil, hempty]; rfl
  | append_singleton history c ih =>
    rw [run_append, run_cons, run_nil, (h.run history).journal_step]
    cases hclears : c.clears b with
    | true =>
      rw [List.rtakeWhile_concat_neg _ _ _ (by simp [hclears])]
      rfl
    | false =>
      rw [List.rdropWhile_concat_pos _ _ _ (by simp [hclears]),
        List.rtakeWhile_concat_pos _ _ _ (by simp [hclears]), usesAll_append,
        List.filterMap_append, ← ih, ← run_append, List.rdropWhile_append_rtakeWhile]
      simp [usesAll]

end Captures

end Facade

/-! ### The promise -/

/-- The uses of loggers since the journal of a backend was last emptied. -/
def Facade.usesSinceClear (start : Facade) (b : Nat) (history : List Command) : List Use :=
  (start.run (history.rdropWhile (!·.clears b))).usesAll (history.rtakeWhile (!·.clears b))

/-- What a backend that keeps a journal promises in a state, given the thresholds that it was given
    last and the uses since its journal was last emptied. -/
structure TellsTruth (f : Facade) (b : Nat) (latest : Directives) (since : List Use) : Prop where
  /-- A query is answered by the latest thresholds, whenever the logger was acquired. All it does
      is to add itself and its answer to the journal. -/
  query : ∀ number l level, f.loggers[number]? = some l → l.backend = b →
    f.step (.query number level) = (.enabled (latest.enabled l.name level),
      f.noteAll b [.queried l.name level (latest.enabled l.name level)])
  /-- All that a message does is to add itself to the journal. -/
  emit : ∀ number l level message error, f.loggers[number]? = some l → l.backend = b →
    f.step (.emit number level message error) = (.done,
      f.noteAll b [.emitted ⟨l.name, level, message, error.map (·.text)⟩])
  /-- A call, with all calls that are made in it, comes down to queries and messages. -/
  call : ∀ c : Call, f.Performs (c.uses f) (c.run f).after
  /-- All queries are answered by the latest thresholds. -/
  answered : ∀ c, ∀ u ∈ f.uses c, u.AnsweredBy b latest
  /-- A use of a logger of the backend has an entry, and no other use has one. -/
  entries : ∀ c, ∀ u ∈ f.uses c, ((u.record? b).isSome ↔ u.logger.backend = b)
  /-- A command adds an entry for each of its uses, in their order, and no other entries. -/
  grows : ∀ c : Command, c.clears b = false →
    ((f.step c).2.backends b).journal =
      (f.backends b).journal ++ (f.uses c).filterMap (Use.record? b)
  /-- Only queries, calls and messages are uses. -/
  silent : ∀ c : Command, c.isUse = false → f.uses c = []
  /-- The journal holds the entries since it was last emptied, oldest first. -/
  journal : (f.backends b).journal = since.filterMap (Use.record? b)
  /-- Other thresholds for a backend leave factories with the names they keep, loggers, handles
      and journals as they are. -/
  redirected : ∀ i d, f.SameSetup (f.step (.setDirectives i d)).2 ∧
    ∀ j, ((f.step (.setDirectives i d)).2.backends j).journal = (f.backends j).journal
  /-- To empty a journal leaves factories with the names they keep, loggers, handles and thresholds
      as they are. -/
  cleared : ∀ i, f.SameSetup (f.step (.clear i)).2 ∧
    ∀ j, ((f.step (.clear i)).2.backends j).directives = (f.backends j).directives

namespace Facade.Captures

variable {f : Facade} {b : Nat}

theorem answeredBy_uses (h : f.Captures b) (c : Command) :
    ∀ u ∈ f.uses c, u.AnsweredBy b (f.backends b).directives := by
  by_cases huse : c.isUse = true
  · exact ((performs_step huse).backend_eq h).2
  · rw [uses_of_not_isUse (Bool.not_eq_true _ ▸ huse)]
    simp

end Facade.Captures

theorem Use.isSome_record?_iff {b : Nat} {d : Directives} {u : Use} (h : u.AnsweredBy b d) :
    (u.record? b).isSome ↔ u.logger.backend = b := by
  cases u with
  | queried l level answer =>
    by_cases hb : l.backend = b
    · rw [h hb, record?, if_pos hb]
      simp [logger, hb]
    · cases answer <;> simp [record?, logger, hb]
  | emitted l level message error =>
    by_cases hb : l.backend = b <;> simp [record?, logger, hb]

/-- **A journal tells the truth.** Whatever has been done with the facade, the loggers of a backend
    that keeps a journal answer by the thresholds it was given last, and its journal holds what
    has been done with them since it was last emptied. -/
theorem journal_tells_truth {start : Facade} {b : Nat} {d : Directives}
    (hbackend : start.backends b = .capture { directives := d }) (hloggers : start.loggers = [])
    (history : List Command) :
    TellsTruth (start.run history) b (Command.latest b d history)
      (start.usesSinceClear b history) := by
  have hnew := Facade.Captures.of_new hbackend hloggers
  have hlatest := hnew.directives_run history
  rw [hbackend] at hlatest
  have hjournal := hnew.journal_run (by rw [hbackend]; rfl) history
  have hcaptures := hnew.run history
  change _ = Command.latest b d history at hlatest
  rw [← hlatest]
  generalize start.run history = f at *
  exact
    { query := by
        intro number l level hl hb
        rw [Facade.step_query hl, hcaptures.query_eq (List.mem_of_getElem? hl) hb]
        rfl
      emit := by
        intro number l level message error hl hb
        rw [Facade.step_emit hl, hcaptures.emit_eq hb]
        rfl
      call := fun c => Call.performs_run (Call.performs_runAll c.inner) f
      answered := hcaptures.answeredBy_uses
      entries := by
        intro c u hu
        exact Use.isSome_record?_iff (hcaptures.answeredBy_uses c u hu)
      grows := by
        intro c hclears
        rw [hcaptures.journal_step, hclears]
        rfl
      silent := fun c => Facade.uses_of_not_isUse
      journal := hjournal
      redirected := by
        intro i e
        refine ⟨f.sameSetup_alterBackend i (Backend.handles_setDirectives e), ?_⟩
        exact Facade.alterBackend_keeps Backend.journal f i (Backend.journal_setDirectives e)
      cleared := by
        intro i
        refine ⟨f.sameSetup_alterBackend i Backend.handles_clear, ?_⟩
        exact Facade.alterBackend_keeps Backend.directives f i Backend.directives_clear }

/-- A logger is acquired under thresholds that keep it quiet. It gets louder with the thresholds,
    and so does its clone. The journal has forgotten the time before. -/
theorem journal_tells_truth_of_reconfiguration :
    let new : Backend := .capture { directives := { fallback := .atLeast .warn } }
    let start : Facade := { backends := fun _ => new }
    let db : Name := .ofString "app.db"
    let inner : Call := .mk 1 .error .brief "lost" (some ⟨"refused", ["timeout"]⟩) [] none
    let outer : Call := .mk 0 .debug .method "query" none [inner] (some "boom")
    let history : List Command :=
      [.acquire 3 (.name "app::db".toList), .query 0 .debug, .emit 0 .info "bare" none,
        .setDirectives 0 { fallback := .atLeast .trace }, .clear 0, .clone 0, .query 1 .info,
        .setDirectives 0 { fallback := .atLeast .debug }, .call outer]
    let f := start.run history
    start.backends 0 = new ∧ start.loggers = [] ∧
      (f.backends 0).journal = [.queried db .info true, .queried db .debug true,
        .queried db .error true, .emitted ⟨db, .error, "lost", some "refused"⟩] ∧
      f.step (.query 0 .debug) = (.enabled true, f.noteAll 0 [.queried db .debug true]) ∧
      f.step (.query 1 .trace) = (.enabled false, f.noteAll 0 [.queried db .trace false]) := by
  intro new start db inner outer history f
  have htruth := @journal_tells_truth start 0 _ rfl rfl history
  have hloggers : f.loggers = [⟨0, 0, db, none⟩, ⟨0, 0, db, none⟩] := by decide +kernel
  have hloud : (Command.latest 0 { fallback := .atLeast .warn } history).enabled db .debug =
      true := by decide +kernel
  have hquiet : (Command.latest 0 { fallback := .atLeast .warn } history).enabled db .trace =
      false := by decide +kernel
  refine ⟨rfl, rfl, ?_, ?_, ?_⟩
  · rw [htruth.journal]
    decide +kernel
  · have hquery := htruth.query 0 ⟨0, 0, db, none⟩ .debug (by rw [hloggers]; rfl) rfl
    rwa [Logger.name, hloud] at hquery
  · have hquery := htruth.query 1 ⟨0, 0, db, none⟩ .trace (by rw [hloggers]; rfl) rfl
    rwa [Logger.name, hquiet] at hquery

end LoggerTree

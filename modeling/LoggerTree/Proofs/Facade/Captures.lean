import LoggerTree.Proofs.Facade.Changes

/-! # Backends that keep a journal

    A backend that keeps a journal goes on doing so, whatever happens to the facade. Its loggers
    ask it each time: they answer by the thresholds that it has at the time, note the query and
    the answer, and note every message.

    Main statements: `Captures.run`, that this holds after every history, and `Captures.query_eq`
    and `Captures.emit_eq`, what queries and messages then do.
-/

namespace LoggerTree

/-! ### Adding to a journal -/

/-- Adds entries to the journal, if there is one. -/
def Backend.noteAll (es : List Entry) : Backend → Backend
  | capture c => capture { c with journal := c.journal ++ es }
  | relay r => relay r

theorem Backend.noteAll_nil (backend : Backend) : backend.noteAll [] = backend := by
  cases backend <;> simp [noteAll]

theorem Backend.noteAll_noteAll (backend : Backend) (es later : List Entry) :
    (backend.noteAll es).noteAll later = backend.noteAll (es ++ later) := by
  cases backend <;> simp [noteAll]

@[simp] theorem Backend.directives_noteAll (es : List Entry) (backend : Backend) :
    (backend.noteAll es).directives = backend.directives := by
  cases backend <;> rfl

namespace Facade

/-- Adds entries to the journal of a backend. Nothing else changes. -/
def noteAll (f : Facade) (b : Nat) (es : List Entry) : Facade :=
  f.alterBackend b (·.noteAll es)

@[simp] theorem loggers_noteAll (f : Facade) (b : Nat) (es : List Entry) :
    (f.noteAll b es).loggers = f.loggers := rfl

@[simp] theorem backends_noteAll_self (f : Facade) (b : Nat) (es : List Entry) :
    (f.noteAll b es).backends b = (f.backends b).noteAll es :=
  backends_alterBackend_self f b _

theorem noteAll_nil (f : Facade) (b : Nat) : f.noteAll b [] = f := by
  apply alterBackend_eq_self
  exact Backend.noteAll_nil _

theorem alterBackend_alterBackend (f : Facade) (b : Nat) (first second : Backend → Backend) :
    (f.alterBackend b first).alterBackend b second =
      f.alterBackend b fun backend => second (first backend) := by
  simp only [alterBackend, if_true]
  congr
  funext i
  split <;> rfl

theorem noteAll_noteAll (f : Facade) (b : Nat) (es later : List Entry) :
    (f.noteAll b es).noteAll b later = f.noteAll b (es ++ later) := by
  unfold noteAll
  rw [alterBackend_alterBackend]
  congr
  funext backend
  exact backend.noteAll_noteAll es later

theorem alterBackend_note (f : Facade) (b : Nat) (e : Entry) :
    f.alterBackend b (·.note e) = f.noteAll b [e] :=
  rfl

end Facade

/-! ### Keeping a journal -/

/-- The backend keeps a journal, its handles ask it each time, and none of them fails. -/
structure Backend.KeepsJournal (backend : Backend) : Prop where
  sound : ∃ c, backend = .capture c ∧ c.defect = none
  asking : ∀ h ∈ backend.handles, h.threshold? = none

namespace Backend.KeepsJournal

variable {backend : Backend}

theorem journal_noteAll (h : backend.KeepsJournal) (es : List Entry) :
    (backend.noteAll es).journal = backend.journal ++ es := by
  obtain ⟨⟨c, rfl, -⟩, -⟩ := h
  rfl

theorem directives_setDirectives (h : backend.KeepsJournal) (d : Directives) :
    (backend.setDirectives d).directives = d := by
  obtain ⟨⟨c, rfl, -⟩, -⟩ := h
  rfl

theorem note (h : backend.KeepsJournal) (e : Entry) : (backend.note e).KeepsJournal := by
  obtain ⟨⟨c, rfl, hdefect⟩, hasking⟩ := h
  exact ⟨⟨_, rfl, hdefect⟩, hasking⟩

theorem noteAll (h : backend.KeepsJournal) (es : List Entry) :
    (backend.noteAll es).KeepsJournal := by
  obtain ⟨⟨c, rfl, hdefect⟩, hasking⟩ := h
  exact ⟨⟨_, rfl, hdefect⟩, hasking⟩

theorem clear (h : backend.KeepsJournal) : backend.clear.KeepsJournal := by
  obtain ⟨⟨c, rfl, hdefect⟩, hasking⟩ := h
  exact ⟨⟨_, rfl, hdefect⟩, hasking⟩

theorem setDirectives (h : backend.KeepsJournal) (d : Directives) :
    (backend.setDirectives d).KeepsJournal := by
  obtain ⟨⟨c, rfl, hdefect⟩, hasking⟩ := h
  exact ⟨⟨_, rfl, hdefect⟩, hasking⟩

/-- A new handle keeps no threshold of its own. -/
theorem threshold?_nextHandle (h : backend.KeepsJournal) (name : Name) :
    (backend.nextHandle name).threshold? = none := by
  obtain ⟨⟨c, rfl, -⟩, -⟩ := h
  rfl

theorem addHandle (h : backend.KeepsJournal) {handle : Handle}
    (hhandle : handle.threshold? = none) : (backend.addHandle handle).KeepsJournal := by
  obtain ⟨⟨c, rfl, hdefect⟩, hasking⟩ := h
  refine ⟨⟨_, rfl, hdefect⟩, ?_⟩
  intro g hg
  rcases List.mem_append.1 hg with hg | hg
  · exact hasking g hg
  · rw [List.mem_singleton.1 hg]
    exact hhandle

end Backend.KeepsJournal

/-- The backend of a number keeps a journal, and so do the loggers on it that have been handed
    out. -/
structure Facade.Captures (f : Facade) (b : Nat) : Prop where
  backend : (f.backends b).KeepsJournal
  asking : ∀ l ∈ f.loggers, l.backend = b → l.handle.threshold? = none

namespace Facade.Captures

variable {f : Facade} {b : Nat}

/-! ### What keeps it that way -/

/-- A change to a backend is fine if it does no harm to one that keeps a journal. -/
theorem alterBackend (h : f.Captures b) (i : Nat) {change : Backend → Backend}
    (hchange : ∀ backend : Backend, backend = f.backends i → backend.KeepsJournal →
      (change backend).KeepsJournal) :
    (f.alterBackend i change).Captures b := by
  refine ⟨?_, h.asking⟩
  by_cases hi : b = i
  · subst hi
    -- The change is to the backend at hand.
    rw [backends_alterBackend_self]
    exact hchange _ rfl h.backend
  · rw [backends_alterBackend_ne hi]
    exact h.backend

theorem hold (h : f.Captures b) {l : Logger} (hl : l.backend = b → l.handle.threshold? = none) :
    (f.hold l).Captures b := by
  refine ⟨h.backend, ?_⟩
  intro k hk
  rcases List.mem_append.1 hk with hk | hk
  · exact h.asking k hk
  · rw [List.mem_singleton.1 hk]
    exact hl

theorem change {g : Facade} (hchange : f.Change g) (h : f.Captures b) : g.Captures b := by
  cases hchange with
  | sent e =>
    refine ⟨?_, ?_⟩
    · rw [backends_send]
      exact h.backend
    · rw [loggers_send]
      exact h.asking
  | made i name fresh =>
    refine h.alterBackend i ?_
    rintro _ rfl hkeeps
    exact hkeeps.addHandle (hkeeps.threshold?_nextHandle name)
  | held l known =>
    -- A logger on the backend has one of its handles, all of which ask it.
    refine h.hold ?_
    rintro rfl
    exact h.backend.asking _ known
  | again l known => exact h.hold (h.asking l known)
  | cached k raw fresh => exact ⟨h.backend, h.asking⟩
  | renamed k strategy => exact ⟨h.backend, h.asking⟩
  | noted i e => exact h.alterBackend i fun _ _ hkeeps => hkeeps.note e
  | directed i d => exact h.alterBackend i fun _ _ hkeeps => hkeeps.setDirectives d
  | cleared i => exact h.alterBackend i fun _ _ hkeeps => hkeeps.clear

/-- **A backend that keeps a journal does so after every history.** -/
theorem run (h : f.Captures b) (history : List Command) : (f.run history).Captures b :=
  run_keeps (fun _ _ => change) h history

theorem noteAll (h : f.Captures b) (es : List Entry) : (f.noteAll b es).Captures b :=
  h.alterBackend b fun _ _ hkeeps => hkeeps.noteAll es

/-- A backend that is made to keep a journal does so before anything has happened. -/
theorem of_new {d : Directives} (hbackend : f.backends b = .capture { directives := d })
    (hloggers : f.loggers = []) : f.Captures b := by
  refine ⟨?_, ?_⟩
  · rw [hbackend]
    exact ⟨⟨_, rfl, rfl⟩, by simp [Backend.handles]⟩
  · rw [hloggers]
    simp

/-! ### What its loggers do -/

theorem query_eq (h : f.Captures b) {l : Logger} (hl : l ∈ f.loggers) (hb : l.backend = b)
    (level : Level) :
    f.query l level =
      (.ok ((f.backends b).directives.enabled l.name level),
        f.noteAll b [.queried l.name level ((f.backends b).directives.enabled l.name level)]) := by
  obtain ⟨c, hc, hdefect⟩ := h.backend.sound
  have hsound : (f.backends b).queryFailure? = none := by
    obtain ⟨directives, handles, journal, defect⟩ := c
    rw [hc]
    cases hdefect
    rfl
  -- Without a threshold of its own, the handle leaves the answer to the thresholds of the backend.
  have hadmits : f.admits l level = (f.backends b).directives.enabled l.name level := by
    rw [admits, h.asking l hl hb, hb]
  unfold query
  rw [hb, hsound]
  dsimp only
  rw [hadmits, alterBackend_note]

theorem emit_eq (h : f.Captures b) {l : Logger} (hb : l.backend = b) (level : Level)
    (message : String) (error : Option ErrorChain) :
    f.emit l level message error =
      (.ok (), f.noteAll b [.emitted ⟨l.name, level, message, error.map (·.text)⟩]) := by
  obtain ⟨c, hc, hdefect⟩ := h.backend.sound
  have hsound : (Backend.capture c).emitFailure? = none := by
    obtain ⟨directives, handles, journal, defect⟩ := c
    cases hdefect
    rfl
  unfold emit
  rw [hb, hc]
  dsimp only
  rw [hsound, alterBackend_note]

end Facade.Captures

end LoggerTree

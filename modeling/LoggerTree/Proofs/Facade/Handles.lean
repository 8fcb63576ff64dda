import LoggerTree.Proofs.Facade.TypeNames

/-! # Handles by name

    A backend **interns** its handles: it makes one for a name on the first request, and gives
    that one from then on. Requests come from any number of factories over the backend, from
    contexts, types and names, and past all factories. A clone of a backend, and whatever else
    only passes requests on to it, goes by the number of that backend.

    Main statement: `handles_by_name`. After every history two loggers share a handle just if
    their names are equal, a logger has the name it was asked for with, and there are as many
    handles as distinct names that have been asked for.
-/

namespace LoggerTree

/-- One handle is behind both loggers. -/
def Logger.SharesHandle (l m : Logger) : Prop :=
  l.backend = m.backend ∧ l.handle.slot = m.handle.slot

/-! ### One handle for each name -/

namespace Backend

@[simp] theorem thresholdFor?_note (e : Entry) (b : Backend) :
    (b.note e).thresholdFor? = b.thresholdFor? := by
  cases b <;> rfl

@[simp] theorem thresholdFor?_clear (b : Backend) : b.clear.thresholdFor? = b.thresholdFor? := by
  cases b <;> rfl

@[simp] theorem thresholdFor?_addHandle (h : Handle) (b : Backend) :
    (b.addHandle h).thresholdFor? = b.thresholdFor? := by
  cases b <;> rfl

/-- Other thresholds are no matter for handles: those of a backend that can get others keep
    none. -/
@[simp] theorem thresholdFor?_setDirectives (d : Directives) (b : Backend) :
    (b.setDirectives d).thresholdFor? = b.thresholdFor? := by
  cases b <;> rfl

/-- The handles go by their places, each name has at most one, and each keeps the threshold that
    a new one for its name would keep. -/
structure Interns (backend : Backend) : Prop where
  slots : backend.handles.map (·.slot) = List.range backend.handles.length
  names : (backend.handles.map (·.name)).Nodup
  thresholds : ∀ h ∈ backend.handles, h.threshold? = backend.thresholdFor? h.name

namespace Interns

variable {backend : Backend}

theorem eq_of_name (hi : backend.Interns) {g h : Handle} (hg : g ∈ backend.handles)
    (hh : h ∈ backend.handles) (heq : g.name = h.name) : g = h :=
  List.inj_on_of_nodup_map hi.names hg hh heq

theorem eq_of_slot (hi : backend.Interns) {g h : Handle} (hg : g ∈ backend.handles)
    (hh : h ∈ backend.handles) (heq : g.slot = h.slot) : g = h := by
  have hdistinct : (backend.handles.map (·.slot)).Nodup := by
    rw [hi.slots]
    exact List.nodup_range
  exact List.inj_on_of_nodup_map hdistinct hg hh heq

/-- Only handles and the thresholds that they keep matter. -/
theorem congr (hi : backend.Interns) {other : Backend} (hhandles : other.handles = backend.handles)
    (hthresholds : other.thresholdFor? = backend.thresholdFor?) : other.Interns := by
  obtain ⟨hslots, hnames, hkept⟩ := hi
  constructor
  · rwa [hhandles]
  · rwa [hhandles]
  · rwa [hhandles, hthresholds]

/-- A backend without a handle for a name may make one. -/
theorem addHandle (hi : backend.Interns) {name : Name}
    (fresh : name ∉ backend.handles.map (·.name)) :
    (backend.addHandle (backend.nextHandle name)).Interns where
  slots := by
    rw [handles_addHandle, List.map_append, hi.slots, List.length_append]
    exact List.range_succ.symm
  names := by
    rw [handles_addHandle, List.map_append, List.nodup_append_comm]
    exact List.nodup_cons.2 ⟨fresh, hi.names⟩
  thresholds h hh := by
    rw [handles_addHandle] at hh
    rw [thresholdFor?_addHandle]
    rcases List.mem_append.1 hh with hh | hh
    · exact hi.thresholds h hh
    · obtain rfl := List.mem_singleton.1 hh
      rfl

end Interns

theorem interns_of_new {backend : Backend} (h : backend.handles = []) : backend.Interns := by
  constructor <;> simp [h]

end Backend

namespace Facade

/-- The backend of a number interns its handles, and the loggers on it have handles of its own. -/
structure Interns (f : Facade) (b : Nat) : Prop where
  backend : (f.backends b).Interns
  known : ∀ l ∈ f.loggers, l.backend = b → l.handle ∈ (f.backends b).handles

namespace Interns

variable {f g : Facade} {b : Nat}

/-- A change to a backend does no harm if it leaves handles alone. -/
theorem alterBackend (h : f.Interns b) (i : Nat) {change : Backend → Backend}
    (hhandles : ∀ backend : Backend, (change backend).handles = backend.handles)
    (hthresholds : ∀ backend : Backend, (change backend).thresholdFor? = backend.thresholdFor?) :
    (f.alterBackend i change).Interns b where
  backend := by
    by_cases hi : b = i
    · subst hi
      rw [backends_alterBackend_self]
      exact h.backend.congr (hhandles _) (hthresholds _)
    · rw [backends_alterBackend_ne hi]
      exact h.backend
  known := by
    rw [f.handles_alterBackend i hhandles]
    exact h.known

theorem hold (h : f.Interns b) {l : Logger}
    (hl : l.backend = b → l.handle ∈ (f.backends b).handles) : (f.hold l).Interns b := by
  refine ⟨h.backend, ?_⟩
  intro m hm
  rcases List.mem_append.1 hm with hm | hm
  · exact h.known m hm
  · rw [List.mem_singleton.1 hm]
    exact hl

theorem change (hchange : f.Change g) (h : f.Interns b) : g.Interns b := by
  cases hchange with
  | sent e =>
    refine ⟨?_, ?_⟩
    · rw [backends_send]
      exact h.backend
    · rw [loggers_send, backends_send]
      exact h.known
  | made i name fresh =>
    refine ⟨?_, ?_⟩
    · by_cases hi : b = i
      · subst hi
        rw [backends_alterBackend_self]
        exact h.backend.addHandle (find?_eq_none_iff.1 fresh)
      · rw [backends_alterBackend_ne hi]
        exact h.backend
    · intro l hl hb
      have hold := h.known l hl hb
      by_cases hi : b = i
      · subst hi
        -- The handles from before are still there, in front of the new one.
        rw [backends_alterBackend_self, Backend.handles_addHandle]
        exact List.mem_append_left _ hold
      · rwa [backends_alterBackend_ne hi]
  | held l known =>
    refine h.hold ?_
    rintro rfl
    exact known
  | again l known => exact h.hold (h.known l known)
  | cached | renamed => exact ⟨h.backend, h.known⟩
  | noted i e => exact h.alterBackend i (Backend.handles_note e) (Backend.thresholdFor?_note e)
  | directed i d =>
    exact h.alterBackend i (Backend.handles_setDirectives d)
      (Backend.thresholdFor?_setDirectives d)
  | cleared i => exact h.alterBackend i Backend.handles_clear Backend.thresholdFor?_clear

/-- **A backend that interns its handles does so after every history.** -/
theorem run (h : f.Interns b) (history : List Command) : (f.run history).Interns b :=
  run_keeps (fun _ _ => change) h history

theorem of_new (hbackend : (f.backends b).handles = []) (hloggers : f.loggers = []) :
    f.Interns b := by
  refine ⟨Backend.interns_of_new hbackend, ?_⟩
  rw [hloggers]
  simp

/-- Two loggers of the same name are the same. -/
theorem eq_of_name (h : f.Interns b) {l m : Logger} (hl : l ∈ f.loggers) (hm : m ∈ f.loggers)
    (hlb : l.backend = b) (hmb : m.backend = b) (heq : l.name = m.name) : l = m := by
  have hhandle := h.backend.eq_of_name (h.known l hl hlb) (h.known m hm hmb) heq
  obtain ⟨_, _⟩ := l
  obtain ⟨_, _⟩ := m
  cases hlb
  cases hmb
  cases hhandle
  rfl

theorem sharesHandle_iff (h : f.Interns b) {l m : Logger} (hl : l ∈ f.loggers)
    (hm : m ∈ f.loggers) (hlb : l.backend = b) (hmb : m.backend = b) :
    l.SharesHandle m ↔ l.name = m.name := by
  constructor
  · rintro ⟨-, hslot⟩
    exact congrArg Handle.name
      (h.backend.eq_of_slot (h.known l hl hlb) (h.known m hm hmb) hslot)
  · intro heq
    rw [h.eq_of_name hl hm hlb hmb heq]
    exact ⟨rfl, rfl⟩

end Interns

/-! ### What requests lead to -/

/-- What comes before fetching a handle: the names of types at most. -/
structure Prepares (f g : Facade) : Prop where
  backends : g.backends = f.backends
  loggers : g.loggers = f.loggers

theorem backend_nameFor (f : Facade) (k : Nat) (raw : List Char) (i : Nat) :
    ((f.nameFor k raw).2.factories i).backend = (f.factories i).backend := by
  unfold nameFor
  dsimp only
  split
  · rfl
  · by_cases hi : i = k
    · subst hi
      rw [factories_setFactory_self]
    · rw [factories_setFactory_ne hi, factories_send]

/-- A factory is over one backend for good. -/
theorem backend_factories_change {f g : Facade} (hchange : f.Change g) (k : Nat) :
    (g.factories k).backend = (f.factories k).backend := by
  cases hchange with
  | sent e => rw [factories_send]
  | cached i raw fresh =>
    by_cases hk : k = i
    · subst hk
      rw [factories_setFactory_self]
    · rw [factories_setFactory_ne hk]
  | renamed i strategy =>
    by_cases hk : k = i
    · subst hk
      rw [setStrategy, factories_setFactory_self]
    · rw [setStrategy, factories_setFactory_ne hk]
  | made | held | again | noted | directed | cleared => rfl

theorem prepares_nameFor (f : Facade) (k : Nat) (raw : List Char) :
    f.Prepares (f.nameFor k raw).2 := by
  unfold nameFor
  dsimp only
  split
  · exact ⟨rfl, rfl⟩
  · exact ⟨backends_send f _, loggers_send f _⟩

/-- Once a context has its name, its logger is fetched. -/
theorem loggerWith_eq_fetch (f : Facade) (k : Nat) (context : Context) (strategy : Strategy) :
    ∃ g, f.Prepares g ∧ f.loggerWith k context strategy =
      g.fetch (f.factories k).backend (context.resolve strategy) := by
  refine ⟨f.send (.nameResolved (context.resolve strategy) strategy),
    ⟨backends_send f _, loggers_send f _⟩, ?_⟩
  rw [← factories_send f (.nameResolved (context.resolve strategy) strategy)]
  rfl

/-- Once a type has its name, its logger is fetched. -/
theorem loggerFor_eq_fetch {f : Facade} {k : Nat} (hkeeps : (f.factories k).KeepsNames)
    (raw : List Char) :
    f.loggerFor k raw = (f.nameFor k raw).2.fetch (f.factories k).backend (.ofType raw) := by
  rw [← backend_nameFor f k raw, ← name_nameFor hkeeps]
  rfl

/-- **A request ends in fetching a handle**, from the backend and with the name that it is for. -/
theorem step_eq_fetch {f : Facade} (hkeeps : ∀ k, (f.factories k).KeepsNames) {c : Command}
    {b : Nat} {name : Name} (h : f.request? c = some (b, name)) :
    ∃ g, f.Prepares g ∧ f.step c = (.logger (g.fetch b name).1, (g.fetch b name).2) := by
  cases c with
  | acquire k a =>
    cases h
    cases a with
    | type raw =>
      refine ⟨(f.nameFor k raw).2, prepares_nameFor f k raw, ?_⟩
      exact congrArg (fun r => (Reply.logger r.1, r.2)) (loggerFor_eq_fetch (hkeeps k) raw)
    | name text => exact ⟨f, ⟨rfl, rfl⟩, rfl⟩
    | module | context | singleton =>
      obtain ⟨g, hg, hfetch⟩ := loggerWith_eq_fetch f k _ (f.factories k).strategy
      exact ⟨g, hg, congrArg (fun r => (Reply.logger r.1, r.2)) hfetch⟩
  | acquireWith k context strategy =>
    cases h
    obtain ⟨g, hg, hfetch⟩ := loggerWith_eq_fetch f k context strategy
    exact ⟨g, hg, congrArg (fun r => (Reply.logger r.1, r.2)) hfetch⟩
  | acquireDirect b name =>
    cases h
    exact ⟨f, ⟨rfl, rfl⟩, rfl⟩
  | nameFor | clone | query | call | emit | setStrategy | setDirectives | clear => cases h

/-- A command that is no request leaves all handles as they are. -/
theorem handles_step {f : Facade} {c : Command} (h : f.request? c = none) (b : Nat) :
    ((f.step c).2.backends b).handles = (f.backends b).handles := by
  cases c with
  | acquire | acquireWith | acquireDirect => cases h
  | nameFor k raw =>
    show ((f.nameFor k raw).2.backends b).handles = _
    rw [(prepares_nameFor f k raw).backends]
  | clone i =>
    simp only [step, withLogger]
    split <;> rfl
  | query i level =>
    simp only [step, withLogger]
    split
    · next l _ => exact (closedUnderUse_sameSetup.query f l level).handles b
    · rfl
  | call c => exact (c.sameSetup_run f).handles b
  | emit i level message error =>
    simp only [step, withLogger]
    split
    · next l _ => exact (closedUnderUse_sameSetup.emit f l level message error).handles b
    · rfl
  | setStrategy k strategy => rfl
  | setDirectives i d => exact f.handles_alterBackend i (Backend.handles_setDirectives d) b
  | clear i => exact f.handles_alterBackend i Backend.handles_clear b

/-- A request for a name that has a handle already makes none. -/
theorem handles_step_of_mem {f : Facade} (hkeeps : ∀ k, (f.factories k).KeepsNames)
    {c : Command} {b : Nat} (h : ∀ n, f.request? c = some (b, n) → n ∈ f.names b) :
    ((f.step c).2.backends b).handles = (f.backends b).handles := by
  cases hrequest : f.request? c with
  | none => exact handles_step hrequest b
  | some request =>
    obtain ⟨i, name⟩ := request
    obtain ⟨g, hg, hstep⟩ := step_eq_fetch hkeeps hrequest
    rw [hstep, ← hg.backends]
    apply handles_fetch
    rintro rfl
    rw [names, hg.backends]
    exact h name hrequest

/-- After a command, a backend has a handle for the name it has been asked with besides those it
    had. -/
theorem mem_names_step {f : Facade} (hkeeps : ∀ k, (f.factories k).KeepsNames) {c : Command}
    {b : Nat} {n : Name} :
    n ∈ (f.step c).2.names b ↔ n ∈ f.names b ∨ f.request? c = some (b, n) := by
  cases hrequest : f.request? c with
  | none =>
    rw [names, handles_step hrequest]
    simp [names]
  | some request =>
    obtain ⟨i, name⟩ := request
    obtain ⟨g, hg, hstep⟩ := step_eq_fetch hkeeps hrequest
    rw [hstep, mem_names_fetch, names, hg.backends, ← names, Option.some.injEq, Prod.mk.injEq,
      eq_comm (a := i), eq_comm (a := name)]

/-- A backend has handles for the names that it has been asked with, and for no others. -/
theorem mem_names_run {f : Facade} (hkeeps : ∀ k, (f.factories k).KeepsNames)
    {history : List Command} {b : Nat} {n : Name} :
    n ∈ (f.run history).names b ↔ n ∈ f.names b ∨ n ∈ f.requests b history := by
  induction history generalizing f with
  | nil => simp [requests]
  | cons c history ih =>
    have hafter : ∀ k, ((f.step c).2.factories k).KeepsNames := fun k =>
      keepsNames_run (hkeeps k) [c]
    rw [run_cons, ih hafter, mem_names_step hkeeps, mem_requests_cons, or_assoc]

theorem loggers_change {f g : Facade} (hchange : f.Change g) : f.loggers <+: g.loggers := by
  cases hchange with
  | sent e => simp [loggers_send]
  | held l known => exact List.prefix_append _ _
  | again l known => exact List.prefix_append _ _
  | made | cached | renamed | noted | directed | cleared => exact List.prefix_rfl

/-- What has been handed out stays. -/
theorem loggers_run (f : Facade) (history : List Command) :
    f.loggers <+: (f.run history).loggers :=
  run_keeps (P := fun g => f.loggers <+: g.loggers)
    (fun _ _ hchange hg => hg.trans (loggers_change hchange)) List.prefix_rfl history

/-- **Handles go by names.** Whatever has been asked of a backend, through whichever factories and
    with whatever done in between, two loggers on it share a handle just if their names are equal,
    and a logger has the name that it is asked for with, from then on. The backend has made a
    handle for each name it has been asked with, and nothing but the first request for another
    name makes one more. -/
theorem handles_by_name {start : Facade} {b : Nat} (hbackend : (start.backends b).handles = [])
    (hloggers : start.loggers = []) (hfactories : ∀ k, (start.factories k).typeNames = [])
    (history : List Command) :
    (∀ l ∈ (start.run history).loggers, ∀ m ∈ (start.run history).loggers, l.backend = b →
        m.backend = b → (l.SharesHandle m ↔ l.name = m.name)) ∧
      (∀ c n, (start.run history).request? c = some (b, n) →
        ∃ l, ((start.run history).step c).1 = .logger l ∧ l.backend = b ∧ l.name = n ∧
          ∀ later, l ∈ (start.run (history ++ c :: later)).loggers) ∧
      ((start.run history).backends b).handles.length =
        (start.requests b history).dedup.length ∧
      ∀ c, (∀ n, (start.run history).request? c = some (b, n) → n ∈ start.requests b history) →
        (((start.run history).step c).2.backends b).handles =
          ((start.run history).backends b).handles := by
  have hinterns := (Interns.of_new hbackend hloggers).run history
  have hkeeps : ∀ k, ((start.run history).factories k).KeepsNames := fun k =>
    keepsNames_run (Factory.keepsNames_of_new (hfactories k)) history
  have hmem : ∀ n, n ∈ (start.run history).names b ↔ n ∈ start.requests b history := by
    intro n
    rw [mem_names_run fun k => Factory.keepsNames_of_new (hfactories k)]
    simp [names, hbackend]
  refine ⟨?_, ?_, ?_, ?_⟩
  · intro l hl m hm hlb hmb
    exact hinterns.sharesHandle_iff hl hm hlb hmb
  · intro c n hrequest
    obtain ⟨g, -, hstep⟩ := step_eq_fetch hkeeps hrequest
    refine ⟨(g.fetch b n).1, by rw [hstep], backend_handle g b n, name_handle g b n, ?_⟩
    intro later
    rw [run_append, run_cons]
    apply (loggers_run _ later).subset
    rw [hstep, loggers_fetch]
    simp
  · rw [← length_eq_length_dedup hinterns.backend.names hmem, List.length_map]
  · intro c hc
    exact handles_step_of_mem hkeeps fun n hn => (hmem n).2 (hc n hn)

/-- A logger for `app.db` is got by name from one factory, by type from another, and once more;
    one for `web` is got past both. -/
theorem handles_by_name_of_factories :
    let start : Facade := { backends := fun _ => .relay {} }
    let history : List Command := [.acquire 0 (.name "app.db".toList),
      .acquire 1 (.type "app::db<u8>".toList), .query 1 .info, .acquireDirect 0 (.ofString "web"),
      .clone 0]
    let f := start.run history
    let again : Command := .acquire 1 (.module "app::db".toList)
    (start.backends 0).handles = [] ∧ start.loggers = [] ∧
      (∀ k, (start.factories k).typeNames = []) ∧
      (f.loggers.filter (·.name = .ofString "app.db")).length = 3 ∧
      (∀ l ∈ f.loggers, ∀ m ∈ f.loggers, l.name = .ofString "app.db" → l.name = m.name →
        l.SharesHandle m) ∧
      (∃ l, (f.step again).1 = .logger l ∧ l.backend = 0 ∧ l.name = .ofString "app.db") ∧
      (f.backends 0).handles.length = 2 ∧
      ((f.step again).2.backends 0).handles = (f.backends 0).handles := by
  intro start history f again
  have hnew : ∀ k, (start.factories k).typeNames = [] := fun _ => rfl
  obtain ⟨hshares, hnamed, hcount, hsame⟩ := @handles_by_name start 0 rfl rfl hnew history
  have hbackend : ∀ l ∈ f.loggers, l.backend = 0 := by decide +kernel
  have hrequest : f.request? again = some (0, .ofString "app.db") := by decide +kernel
  have hasked : Name.ofString "app.db" ∈ start.requests 0 history := by decide +kernel
  have htwo : (start.requests 0 history).dedup.length = 2 := by decide +kernel
  refine ⟨rfl, rfl, hnew, by decide +kernel, ?_, ?_, ?_, ?_⟩
  · intro l hl m hm _ heq
    exact (hshares l hl m hm (hbackend l hl) (hbackend m hm)).2 heq
  · obtain ⟨l, hreply, hlb, hname, -⟩ := hnamed again _ hrequest
    exact ⟨l, hreply, hlb, hname⟩
  · rw [hcount, htwo]
  · apply hsame
    intro n hn
    rw [hrequest] at hn
    cases hn
    exact hasked

end Facade

end LoggerTree

import LoggerTree.Proofs.Call.Running
import LoggerTree.Proofs.Facade.Relays

/-! # Guarded logging that is sent on

    A message on a logger of a backend that sends messages on has to pass two gates: the
    thresholds of the backend and the interest of the subscriber. A message that is emitted
    without asking meets the second one only. The subscriber may be another one at any time.

    Main statements: `Facade.Relays.runUnder`, that a backend stays of this kind through every
    history, and `gated_logging`. After every history, all loggers of such a backend go by both
    gates, and calls on them, nested to any depth, deliver one event each if they pass and end
    well.
-/

namespace LoggerTree

/-! ### The two gates -/

/-- The thresholds and the subscriber both let messages for a name pass. -/
def Directives.passes (d : Directives) (allow : Target → Level → Bool) (n : Name)
    (level : Level) : Bool :=
  d.enabled n level && allow .application level

/-- The message of a call as an event, once it is built. -/
def Call.event (c : Call) (l : Logger) : Event :=
  .emitted l.name c.level c.message c.error

/-- What a logger does if thresholds and a subscriber stand between it and whoever reads the
    messages. -/
structure Gated (d : Directives) (allow : Target → Level → Bool) (f : Facade) (l : Logger) :
    Prop where
  /-- The handle keeps the threshold that the name of the logger has. -/
  threshold : l.handle.threshold? = some (d.threshold l.name)
  /-- A level is enabled if it passes both gates. To ask changes nothing. -/
  query : ∀ level, f.query l level = (.ok (d.passes allow l.name level), f)
  /-- Without asking, a message is delivered if the subscriber wants it, whatever the thresholds
      are. -/
  emit : ∀ level message error, f.emit l level message error =
    (.ok (), if allow .application level then
      f.deliver [.emitted l.name level message error] else f)
  /-- If the level of a call does not pass, its builder is not run and nothing is delivered. -/
  quiet : ∀ c : Call, f.loggers[c.logger]? = some l → d.passes allow l.name c.level = false →
    c.run f = ⟨[], .ok (), f⟩
  /-- If it passes, the message is delivered once, behind whatever the inner calls do. -/
  delivers : ∀ (c : Call) (built : List Call) (g : Facade), f.loggers[c.logger]? = some l →
    d.passes allow l.name c.level = true → Call.runAll c.inner f = ⟨built, .ok (), g⟩ →
    c.panic = none → c.run f = ⟨c :: built, .ok (), g.deliver [c.event l]⟩
  /-- A builder that panics has no message, so that only the inner calls are left. -/
  breaksOff : ∀ (c : Call) (built : List Call) (panic : Option String) (g : Facade)
    (text : String), f.loggers[c.logger]? = some l → d.passes allow l.name c.level = true →
    Call.runAll c.inner f = ⟨built, .ofPanic () panic, g⟩ → panic.or c.panic = some text →
    c.run f = ⟨c :: built, .error text, g⟩
  /-- What the event of a message says. -/
  event : ∀ c : Call, (c.event l).target.word = "lazylog" ∧ (c.event l).level = c.level ∧
    (c.event l).message = c.message ∧ (c.event l).fields =
      ("logger", .text l.name.toString) :: (c.error.map fun e => ("error", .error e)).toList

namespace Facade.Relays

variable {f : Facade} {b : Nat} {d : Directives} {l : Logger}

theorem isEnabled_eq (h : f.Relays b d) (hl : l ∈ f.loggers) (hb : l.backend = b)
    (level : Level) : l.isEnabled level f = ⟨[], .ok (d.passes f.interest l.name level), f⟩ := by
  rw [Logger.isEnabled, Action.ofOperation, h.query_eq hl hb]
  rfl

theorem emit_message (h : f.Relays b d) (hb : l.backend = b) {c : Call}
    (hinterest : f.interest .application c.level = true) :
    l.emit c.level c.message c.error f = ⟨[], .ok (), f.deliver [c.event l]⟩ := by
  rw [Logger.emit, Action.ofOperation, h.emit_eq hb, send_of_interest hinterest]
  rfl

/-- Inner calls, on whatever loggers they are, do not touch the gates. -/
theorem after_runAll (h : f.Relays b d) (calls : List Call) :
    (Call.runAll calls f).after.Relays b d ∧
      (Call.runAll calls f).after.interest = f.interest := by
  have hchanges := Call.within_runAll closedUnderUse_changes calls f
  have hsame := Call.within_runAll closedUnderUse_sameSetup calls f
  exact ⟨hchanges.keeps (fun _ _ => change) h, hsame.interest⟩

theorem run_of_passes (h : f.Relays b d) {c : Call} (hl : f.loggers[c.logger]? = some l)
    (hb : l.backend = b) (hpass : d.passes f.interest l.name c.level = true) {built : List Call}
    {g : Facade} (hinner : Call.runAll c.inner f = ⟨built, .ok (), g⟩) (hpanic : c.panic = none) :
    c.run f = ⟨c :: built, .ok (), g.deliver [c.event l]⟩ := by
  have hquery := h.isEnabled_eq (List.mem_of_getElem? hl) hb c.level
  rw [hpass] at hquery
  have hafter := h.after_runAll c.inner
  rw [hinner] at hafter
  obtain ⟨hrelays, hinterest⟩ := hafter
  -- The inner calls have not changed the subscriber, so it still wants the level.
  have hwanted : g.interest .application c.level = true := by
    rw [hinterest]
    exact (Bool.and_eq_true_iff.1 hpass).2
  have hbuilt : Call.runAll c.inner f = ⟨built, .ofPanic () none, g⟩ := hinner
  exact Call.run_of_message hl hquery hbuilt hpanic (hrelays.emit_message hb hwanted)

/-- **Loggers of a backend that sends messages on are gated.** -/
theorem gated (h : f.Relays b d) (hl : l ∈ f.loggers) (hb : l.backend = b) :
    Gated d f.interest f l where
  threshold := h.threshold?_eq hl hb
  query level := h.query_eq hl hb level
  emit level message error := by
    rw [h.emit_eq hb]
    split
    · next hwanted => rw [send_of_interest hwanted]
    · next hunwanted => rw [send_of_no_interest (Bool.eq_false_iff.2 hunwanted)]
  quiet c hc hblocked := by
    have hquery := h.isEnabled_eq hl hb c.level
    rw [hblocked] at hquery
    exact Call.run_of_not_enabled hc hquery
  delivers c built g hc hpass hinner hpanic := h.run_of_passes hc hb hpass hinner hpanic
  breaksOff c built panic g text hc hpass hinner hpanic := by
    have hquery := h.isEnabled_eq hl hb c.level
    rw [hpass] at hquery
    exact Call.run_of_panic hc hquery hinner hpanic
  event c := ⟨rfl, rfl, rfl, rfl⟩

end Facade.Relays

/-! ### Counting events -/

/-- Whether a call ends without a panic. -/
def Facade.endsWell (f : Facade) (c : Call) : Bool :=
  (c.run f).outcome.isOk

/-- The event of a call, if there is the logger that it is on. -/
def Facade.event? (f : Facade) (c : Call) : Option Event :=
  (f.loggers[c.logger]?).map c.event

/-- The events that calls deliver, counted: those whose builders run all pass, and each of them
    that ends well has one event. -/
structure Tally (d : Directives) (f : Facade) (calls built : List Call) (es : List Event) :
    Prop where
  /-- The builders run in the order in which the calls are written, and none twice. -/
  order : built.Sublist calls
  gates : ∀ c ∈ built, ∃ l, f.loggers[c.logger]? = some l ∧
    d.passes f.interest l.name c.level = true
  events : es.Perm ((built.filter f.endsWell).filterMap f.event?)

namespace Tally

variable {d : Directives} {f : Facade} {calls built : List Call} {es : List Event}

theorem silent (calls : List Call) : Tally d f calls [] [] :=
  ⟨List.nil_sublist _, by simp, .nil⟩

theorem append (first : Tally d f calls built es) {moreCalls moreBuilt : List Call}
    {more : List Event} (second : Tally d f moreCalls moreBuilt more) :
    Tally d f (calls ++ moreCalls) (built ++ moreBuilt) (es ++ more) where
  order := first.order.append second.order
  gates c hc := (List.mem_append.1 hc).elim (first.gates c) (second.gates c)
  events := by
    rw [List.filter_append, List.filterMap_append]
    exact first.events.append second.events

variable {c : Call} {l : Logger}

/-- A call that breaks off has no event, although its builder has been run. -/
theorem brokenOff (inner : Tally d f calls built es) (hl : f.loggers[c.logger]? = some l)
    (hpass : d.passes f.interest l.name c.level = true)
    (hends : f.endsWell c = false) : Tally d f (c :: calls) (c :: built) es where
  order := inner.order.cons_cons c
  gates := List.forall_mem_cons.2 ⟨⟨l, hl, hpass⟩, inner.gates⟩
  events := by
    rw [List.filter_cons_of_neg (by simp [hends])]
    exact inner.events

/-- The event of a call comes behind those of its inner calls. -/
theorem delivered (inner : Tally d f calls built es) (hl : f.loggers[c.logger]? = some l)
    (hpass : d.passes f.interest l.name c.level = true)
    (hends : f.endsWell c = true) :
    Tally d f (c :: calls) (c :: built) (es ++ [c.event l]) where
  order := inner.order.cons_cons c
  gates := List.forall_mem_cons.2 ⟨⟨l, hl, hpass⟩, inner.gates⟩
  events := by
    have hevent : f.event? c = some (c.event l) := by
      rw [Facade.event?, hl]
      rfl
    rw [List.filter_cons_of_pos hends, List.filterMap_cons_some hevent]
    exact List.perm_append_comm.trans (inner.events.cons _)

end Tally

/-- Whatever has been delivered before, an action builds the messages of the same calls, ends in
    the same way, and delivers the same events behind it. -/
def Action.Sends (act : Action Unit) (f : Facade) (built : List Call) (panic : Option String)
    (es : List Event) : Prop :=
  ∀ before, act (f.deliver before) = ⟨built, .ofPanic () panic, f.deliver (before ++ es)⟩

namespace Facade.Relays

variable {f : Facade} {b : Nat} {d : Directives}

/-- A call sends what is counted, if its inner calls do. -/
theorem run_sends (h : f.Relays b d) {c : Call} {l : Logger}
    (hl : f.loggers[c.logger]? = some l) (hb : l.backend = b) {built : List Call}
    {panic : Option String} {es : List Event}
    (hinner : (Call.runAll c.inner).Sends f built panic es)
    (htally : Tally d f (Call.nodesAll c.inner) built es) :
    ∃ built panic es, c.run.Sends f built panic es ∧ Tally d f c.nodes built es := by
  have hmem : l ∈ f.loggers := List.mem_of_getElem? hl
  have hgated (before : List Event) := (h.deliver before).gated (l := l) hmem hb
  rw [Call.nodes_eq]
  cases hpass : d.passes f.interest l.name c.level with
  | false =>
    refine ⟨[], none, [], fun before => ?_, .silent _⟩
    rw [List.append_nil]
    exact (hgated before).quiet c hl hpass
  | true =>
    cases hpanic : panic.or c.panic with
    | some text =>
      have hsends : c.run.Sends f (c :: built) (some text) es := fun before =>
        (hgated before).breaksOff c built panic _ text hl hpass (hinner before) hpanic
      -- With nothing delivered before, this is how the call ends in the state at hand.
      have hrun := hsends []
      rw [deliver_nil] at hrun
      refine ⟨_, _, _, hsends, htally.brokenOff hl hpass ?_⟩
      rw [endsWell, hrun]
      rfl
    | none =>
      obtain ⟨rfl, hown⟩ := Option.or_eq_none_iff.1 hpanic
      have hsends : c.run.Sends f (c :: built) none (es ++ [c.event l]) := by
        intro before
        rw [← List.append_assoc, ← deliver_deliver]
        exact (hgated before).delivers c built _ hl hpass (hinner before) hown
      have hrun := hsends []
      rw [deliver_nil] at hrun
      refine ⟨_, _, _, hsends, htally.delivered hl hpass ?_⟩
      rw [endsWell, hrun]
      rfl

/-- **Calls send what is counted.** -/
theorem runAll_sends (h : f.Relays b d) {calls : List Call} (hserves : f.Serves b calls) :
    ∃ built panic es, (Call.runAll calls).Sends f built panic es ∧
      Tally d f (Call.nodesAll calls) built es := by
  induction calls using Call.forest_induction with
  | nil =>
    refine ⟨[], none, [], fun before => ?_, .silent _⟩
    rw [List.append_nil]
    rfl
  | cons c cs hinner hrest =>
    obtain ⟨⟨l, hl, hb⟩, hserveInner, hserveRest⟩ := serves_cons.1 hserves
    obtain ⟨_, _, _, hinnerSends, hinnerTally⟩ := hinner hserveInner
    obtain ⟨built, panic, es, hsends, htally⟩ := h.run_sends hl hb hinnerSends hinnerTally
    rw [Call.nodesAll]
    cases panic with
    | some text =>
      -- The calls after this one are not made.
      have hnone := htally.append (.silent (Call.nodesAll cs))
      rw [List.append_nil, List.append_nil] at hnone
      exact ⟨built, some text, es, fun before => Action.bind_of_error (hsends before), hnone⟩
    | none =>
      -- The other calls start behind the events of this one, which is no matter to them.
      obtain ⟨more, panic, later, hmoreSends, hmoreTally⟩ := hrest hserveRest
      refine ⟨built ++ more, panic, es ++ later, fun before => ?_, htally.append hmoreTally⟩
      rw [Call.runAll, Action.bind_of_ok (hsends before), hmoreSends, List.append_assoc]

end Facade.Relays

/-! ### After every history -/

namespace Facade

/-- Carries out commands, each one under the subscriber that is there at the time. -/
def runUnder (f : Facade) (history : List ((Target → Level → Bool) × Command)) : Facade :=
  history.foldl (fun f (allow, c) => (f.under allow).run [c]) f

/-- What every change keeps, and another subscriber too, is kept by every history. -/
theorem runUnder_keeps {P : Facade → Prop} (hkeep : ∀ f g, Change f g → P f → P g)
    (hunder : ∀ f allow, P f → P (f.under allow)) {f : Facade} (hf : P f)
    (history : List ((Target → Level → Bool) × Command)) : P (f.runUnder history) := by
  induction history generalizing f with
  | nil => exact hf
  | cons entry history ih => exact ih (run_keeps hkeep (hunder f entry.1 hf) [entry.2])

theorem Relays.runUnder {f : Facade} {b : Nat} {d : Directives} (h : f.Relays b d)
    (history : List ((Target → Level → Bool) × Command)) : (f.runUnder history).Relays b d :=
  runUnder_keeps (fun _ _ => change) (fun _ allow hf => hf.under allow) h history

/-- A factory gives loggers that go by the thresholds of its backend and by the subscriber, from
    then on. -/
theorem Relays.named {f : Facade} {b k : Nat} {d : Directives} (h : f.Relays b d)
    (hk : (f.factories k).backend = b) (n : Name) :
    (f.named k n).1.name = n ∧ ∀ later allow level,
      (((f.named k n).2.runUnder later).under allow).query (f.named k n).1 level =
        (.ok (d.passes allow n level), ((f.named k n).2.runUnder later).under allow) := by
  have hfetch : f.named k n = f.fetch b n := by
    rw [← hk]
    rfl
  rw [hfetch]
  have hname : (f.fetch b n).1.name = n := name_handle f b n
  have hrelays : (f.fetch b n).2.Relays b d :=
    (changes_hold_handle f b n).keeps (fun _ _ => change) h
  refine ⟨hname, ?_⟩
  intro later allow level
  have hstays : (f.fetch b n).2.loggers <+: ((f.fetch b n).2.runUnder later).loggers :=
    runUnder_keeps (P := fun g => (f.fetch b n).2.loggers <+: g.loggers)
      (fun _ _ hchange hg => hg.trans (loggers_change hchange)) (fun _ _ hg => hg)
      List.prefix_rfl later
  have hheld : (f.fetch b n).1 ∈ ((f.fetch b n).2.runUnder later).loggers := by
    apply hstays.subset
    rw [loggers_fetch]
    simp
  have hquery := ((hrelays.runUnder later).under allow).query_eq hheld (backend_handle f b n) level
  rwa [hname] at hquery

end Facade

/-- **Thresholds and subscriber both gate every guarded call.** Whatever has been done with a
    backend that sends messages on, under whatever subscribers, each logger on it goes by the
    thresholds that its name has and by the subscriber that is there now. Calls on such loggers,
    nested to any depth, deliver the messages of those that pass and end well, one event each, and
    change nothing else. -/
theorem gated_logging {start : Facade} {b : Nat} {d : Directives}
    (hbackend : start.backends b = .relay { directives := d }) (hloggers : start.loggers = [])
    (history : List ((Target → Level → Bool) × Command)) (allow : Target → Level → Bool) :
    let f := (start.runUnder history).under allow
    (∀ l ∈ f.loggers, l.backend = b → Gated d allow f l) ∧
      ∀ calls, f.Serves b calls → ∃ es,
        Tally d f (Call.nodesAll calls) (Call.runAll calls f).built es ∧
          (Call.runAll calls f).after = f.deliver es := by
  intro f
  have hrelays : f.Relays b d :=
    ((Facade.Relays.of_new hbackend hloggers).runUnder history).under allow
  refine ⟨fun l hl hb => hrelays.gated hl hb, ?_⟩
  intro calls hserves
  obtain ⟨built, panic, es, hsends, htally⟩ := hrelays.runAll_sends hserves
  have hran := hsends []
  rw [Facade.deliver_nil, List.nil_append] at hran
  refine ⟨es, ?_, ?_⟩
  · rw [hran]
    exact htally
  · rw [hran]

/-- Two loggers are got while there is no subscriber. Then there is one that wants everything but
    `trace`, and a call on the second logger has three calls inside it, of which only the last one
    passes. -/
theorem gated_logging_of_nested :
    let d := ({ fallback := .atLeast .warn } : Directives).assign (.ofString "app.db")
      (.atLeast .trace)
    let start : Facade := { backends := fun _ => .relay { directives := d } }
    let nobody : Target → Level → Bool := fun _ _ => false
    let history : List ((Target → Level → Bool) × Command) :=
      [(nobody, .acquireDirect 0 (.ofString "app.http")),
        (nobody, .acquire 0 (.type "app::db::Pool".toList)), (nobody, .emit 1 .error "lost" none)]
    let f := (start.runUnder history).under fun _ level => decide (Level.debug ≤ level)
    let http : Logger := ⟨0, ⟨0, .ofString "app.http", some (.atLeast .warn)⟩⟩
    let pool : Logger := ⟨0, ⟨1, .ofString "app.db.Pool", some (.atLeast .trace)⟩⟩
    let quiet : Call := .mk 0 .info .method "quiet" none [] none
    let deep : Call := .mk 1 .trace .brief "deep" none [] none
    let fine : Call := .mk 0 .warn .generic "fine" (some ⟨"timeout", []⟩) [] none
    let outer : Call := .mk 1 .debug .method "outer" none [quiet, deep, fine] none
    start.backends 0 = .relay { directives := d } ∧ start.loggers = [] ∧
      f.loggers = [http, pool] ∧ f.Serves 0 [outer] ∧
      f.query http .info = (.ok false, f) ∧ f.query pool .debug = (.ok true, f) ∧
      f.emit http .info "bare" none = (.ok (), f.deliver [.emitted http.name .info "bare" none]) ∧
      Call.run quiet f = ⟨[], .ok (), f⟩ ∧
      (Call.runAll [outer] f).after = f.deliver [fine.event http, outer.event pool] := by
  intro d start nobody history f http pool quiet deep fine outer
  have hheld : f.loggers = [http, pool] := by decide +kernel
  have hserves : f.Serves 0 [outer] := by
    intro c hc
    have hnumber : c.logger = 0 ∨ c.logger = 1 := by
      revert c
      decide
    rcases hnumber with h | h <;> rw [h, hheld] <;> exact ⟨_, rfl, rfl⟩
  obtain ⟨hgated, hcalls⟩ := @gated_logging start 0 d rfl rfl history fun _ level =>
    decide (Level.debug ≤ level)
  have hhttp := hgated http (by rw [hheld]; simp) rfl
  have hpool := hgated pool (by rw [hheld]; simp) rfl
  obtain ⟨es, -, hafter⟩ := hcalls [outer] hserves
  have hes : es = [fine.event http, outer.event pool] := by
    have hdelivered : (Call.runAll [outer] f).after.delivered =
      [fine.event http, outer.event pool] := by decide +kernel
    have hbefore : f.delivered = [] := by decide +kernel
    rw [hafter] at hdelivered
    change f.delivered ++ es = _ at hdelivered
    rwa [hbefore] at hdelivered
  refine ⟨rfl, rfl, hheld, hserves, ?_, ?_, ?_, ?_, ?_⟩
  · exact hhttp.query .info
  · exact hpool.query .debug
  · exact hhttp.emit .info "bare" none
  · exact hhttp.quiet quiet (by rw [hheld]; rfl) (by decide +kernel)
  · rw [← hes]
    exact hafter

end LoggerTree

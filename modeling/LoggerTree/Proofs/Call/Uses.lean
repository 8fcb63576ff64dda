import LoggerTree.Proofs.Call.Running
import LoggerTree.Proofs.Facade.Requests

/-! # What calls do with loggers

    A call does two things to the facade, and to nothing but loggers: it asks whether a level is
    enabled, and it emits a message. What its inner calls do comes in between. So a tree of calls
    is a list of **uses** of loggers, one after the other, and whatever is true of queries and
    messages one by one is true of calls.

    Main statements: `Call.performs_runAll` and `Facade.performs_step`. Calls perform their uses
    and do nothing else, and the same goes for commands that query, call or emit.
-/

namespace LoggerTree

/-! ### Uses -/

/-- One thing that is done with a logger. -/
inductive Use where
  /-- Ask whether a level is enabled; this is what was answered. -/
  | queried (l : Logger) (level : Level) (answer : Facade.Outcome Bool)
  | emitted (l : Logger) (level : Level) (message : String) (error : Option ErrorChain)

namespace Facade

/-- Uses of loggers that have been handed out lead from one state to another, one by one. -/
inductive Performs : Facade → List Use → Facade → Prop where
  | nil (f : Facade) : Performs f [] f
  | queried {f g : Facade} {uses : List Use} {l : Logger} {level : Level} (known : l ∈ f.loggers)
    (rest : Performs (f.query l level).2 uses g) :
    Performs f (.queried l level (f.query l level).1 :: uses) g
  | emitted {f g : Facade} {uses : List Use} {l : Logger} {level : Level} {message : String}
    {error : Option ErrorChain} (known : l ∈ f.loggers)
    (rest : Performs (f.emit l level message error).2 uses g) :
    Performs f (.emitted l level message error :: uses) g

theorem Performs.append {f g h : Facade} {uses more : List Use} (first : f.Performs uses g)
    (second : g.Performs more h) : f.Performs (uses ++ more) h := by
  induction first with
  | nil => exact second
  | queried known _ ih => exact .queried known (ih second)
  | emitted known _ ih => exact .emitted known (ih second)

/-- Uses end where asking and emitting lead. -/
theorem Performs.within {R : Facade → Facade → Prop} (hR : ClosedUnderUse R) {f g : Facade}
    {uses : List Use} (h : f.Performs uses g) : R f g := by
  induction h with
  | nil f => exact hR.refl f
  | queried _ _ ih => exact hR.trans (hR.query _ _ _) ih
  | emitted _ _ ih => exact hR.trans (hR.emit _ _ _ _ _) ih

end Facade

namespace Call

mutual

/-- What a call does with loggers: it asks, and if the level is enabled it lets its inner calls do
    what they do, and then emits the message unless there was a panic. -/
def uses : Call → Facade → List Use
  | mk number level _ message error inner panic, f =>
    match f.loggers[number]? with
    | none => []
    | some l =>
      let asked := f.query l level
      .queried l level asked.1 ::
        match asked.1 with
        | .ok true =>
          usesAll inner asked.2 ++
            if (runAll inner asked.2).outcome.isOk ∧ panic = none then
              [.emitted l level message error]
            else []
        | _ => []

/-- What calls do with loggers, up to the first panic. -/
def usesAll : List Call → Facade → List Use
  | [], _ => []
  | c :: cs, f =>
    uses c f ++ if (run c f).outcome.isOk then usesAll cs (run c f).after else []

end

section

variable {c : Call} {l : Logger} {f g : Facade}

theorem uses_eq (c : Call) (f : Facade) : c.uses f =
    match f.loggers[c.logger]? with
    | none => []
    | some l =>
      .queried l c.level (f.query l c.level).1 ::
        match (f.query l c.level).1 with
        | .ok true =>
          usesAll c.inner (f.query l c.level).2 ++
            if (runAll c.inner (f.query l c.level).2).outcome.isOk ∧ c.panic = none then
              [.emitted l c.level c.message c.error]
            else []
        | _ => [] := by
  obtain ⟨number, level, shape, message, error, inner, panic⟩ := c
  rw [uses]
  rfl

theorem uses_of_no_logger (hl : f.loggers[c.logger]? = none) : c.uses f = [] := by
  rw [uses_eq, hl]

theorem uses_of_quiet {answer : Facade.Outcome Bool} (hl : f.loggers[c.logger]? = some l)
    (hquery : f.query l c.level = (answer, g)) (quiet : answer ≠ .ok true) :
    c.uses f = [.queried l c.level answer] := by
  rw [uses_eq, hl]
  dsimp only
  rw [hquery]
  split
  · next hloud => exact absurd hloud quiet
  · rfl

theorem uses_of_enabled (hl : f.loggers[c.logger]? = some l)
    (hquery : f.query l c.level = (.ok true, g)) :
    c.uses f = .queried l c.level (.ok true) :: (usesAll c.inner g ++
      if (runAll c.inner g).outcome.isOk ∧ c.panic = none then
        [.emitted l c.level c.message c.error]
      else []) := by
  rw [uses_eq, hl]
  dsimp only
  rw [hquery]

end

end Call

/-! ### Calls perform their uses -/

/-- A query that fails is all there is. -/
theorem Logger.guarded_of_failure {l : Logger} {level : Level} {f g : Facade} {text : String}
    (h : l.isEnabled level f = ⟨[], .error text, g⟩) (error : Option ErrorChain)
    (build : Action String) : l.guarded level error build f = ⟨[], .error text, g⟩ := by
  rw [guarded, Action.bind_of_error h]

/-- The outcome of an action without a value is a panic or nothing. -/
theorem Ran.exists_ofPanic (ran : Ran Unit) :
    ∃ panic, ran = ⟨ran.built, .ofPanic () panic, ran.after⟩ := by
  obtain ⟨built, outcome, after⟩ := ran
  cases outcome with
  | ok => exact ⟨none, rfl⟩
  | error text => exact ⟨some text, rfl⟩

namespace Call

theorem run_of_no_logger {c : Call} {f : Facade} (hl : f.loggers[c.logger]? = none) :
    c.run f = ⟨[], .ok (), f⟩ := by
  obtain ⟨number, level, shape, message, error, inner, panic⟩ := c
  rw [logger] at hl
  unfold run
  rw [hl]

/-- Once the level is enabled, the inner calls come first, and then the message if neither they
    nor the builder has panicked. -/
theorem performs_of_enabled {c : Call} {l : Logger} {g : Facade}
    (hinner : g.Performs (usesAll c.inner g) (runAll c.inner g).after)
    (hstill : l ∈ (runAll c.inner g).after.loggers) :
    g.Performs
      (usesAll c.inner g ++ if (runAll c.inner g).outcome.isOk ∧ c.panic = none then
        [.emitted l c.level c.message c.error] else [])
      ((c.build (runAll c.inner) >>= fun message => l.emit c.level message c.error) g).after := by
  apply hinner.append
  obtain ⟨panic, hran⟩ := (runAll c.inner g).exists_ofPanic
  have hbuild := c.build_eq hran
  rw [hran]
  cases panic with
  | some text =>
    rw [Action.bind_of_error hbuild]
    exact .nil _
  | none =>
    cases hpanic : c.panic with
    | some text =>
      rw [hpanic] at hbuild
      rw [Action.bind_of_error hbuild]
      exact .nil _
    | none =>
      rw [hpanic] at hbuild
      rw [Action.bind_of_ok hbuild]
      -- Whether emitting fails or not, this is where it leads.
      exact .emitted hstill (.nil _)

/-- A call performs its uses, if its inner calls do. -/
theorem performs_run {c : Call} (hinner : ∀ f : Facade,
    f.Performs (usesAll c.inner f) (runAll c.inner f).after) (f : Facade) :
    f.Performs (c.uses f) (c.run f).after := by
  cases hl : f.loggers[c.logger]? with
  | none =>
    rw [uses_of_no_logger hl, run_of_no_logger hl]
    exact .nil f
  | some l =>
    have hknown : l ∈ f.loggers := List.mem_of_getElem? hl
    obtain ⟨⟨answer, g⟩, hquery⟩ : ∃ asked, f.query l c.level = asked := ⟨_, rfl⟩
    have hasked : l.isEnabled c.level f = ⟨[], answer, g⟩ := by
      rw [Logger.isEnabled, Action.ofOperation, hquery]
    have hfirst {uses : List Use} {h : Facade} (rest : g.Performs uses h) :
        f.Performs (.queried l c.level answer :: uses) h := by
      have hstep := Facade.Performs.queried hknown (by rwa [hquery])
      rwa [hquery] at hstep
    rw [run_eq_guarded hl]
    match answer with
    | .error text =>
      rw [uses_of_quiet hl hquery (by simp), Logger.guarded_of_failure hasked]
      exact hfirst (.nil g)
    | .ok false =>
      rw [uses_of_quiet hl hquery (by simp), Logger.guarded_of_not_enabled hasked]
      exact hfirst (.nil g)
    | .ok true =>
      rw [uses_of_enabled hl hquery, Logger.guarded_of_enabled hasked]
      apply hfirst
      apply performs_of_enabled (hinner g)
      -- Neither the query nor the inner calls change who has been handed out.
      have hg := (Facade.closedUnderUse_sameSetup.query f l c.level).loggers
      rw [hquery] at hg
      rw [(within_runAll Facade.closedUnderUse_sameSetup c.inner g).loggers, hg]
      exact hknown

/-- **Calls perform their uses and do nothing else.** -/
theorem performs_runAll (cs : List Call) (f : Facade) :
    f.Performs (usesAll cs f) (runAll cs f).after := by
  induction cs using forest_induction generalizing f with
  | nil =>
    unfold usesAll
    exact .nil f
  | cons c cs hinner hrest =>
    have hfirst := performs_run hinner f
    unfold usesAll runAll
    obtain ⟨panic, hran⟩ := (run c f).exists_ofPanic
    apply hfirst.append
    rw [hran]
    cases panic with
    | some text =>
      rw [Action.bind_of_error hran]
      exact .nil _
    | none =>
      rw [Action.bind_of_ok hran]
      exact hrest (run c f).after

end Call

/-! ### Commands -/

/-- Whether a command uses a logger. -/
def Command.isUse : Command → Bool
  | .query .. | .call _ | .emit .. => true
  | _ => false

namespace Facade

/-- What a command does with loggers. -/
def uses (f : Facade) : Command → List Use
  | .query number level =>
    match f.loggers[number]? with
    | some l => [.queried l level (f.query l level).1]
    | none => []
  | .emit number level message error =>
    match f.loggers[number]? with
    | some l => [.emitted l level message error]
    | none => []
  | .call c => c.uses f
  | _ => []

/-- What the commands of a history do with loggers. -/
def usesAll (f : Facade) : List Command → List Use
  | [] => []
  | c :: history => f.uses c ++ (f.step c).2.usesAll history

theorem usesAll_append (f : Facade) (history later : List Command) :
    f.usesAll (history ++ later) = f.usesAll history ++ (f.run history).usesAll later := by
  induction history generalizing f with
  | nil => rfl
  | cons c history ih => simp only [List.cons_append, usesAll, run_cons, ih, List.append_assoc]

theorem step_query {f : Facade} {number : Nat} {l : Logger} (hl : f.loggers[number]? = some l)
    (level : Level) : f.step (.query number level) =
      (.ofOutcome .enabled (f.query l level).1, (f.query l level).2) := by
  simp only [step, withLogger, hl]

theorem step_emit {f : Facade} {number : Nat} {l : Logger} (hl : f.loggers[number]? = some l)
    (level : Level) (message : String) (error : Option ErrorChain) :
    f.step (.emit number level message error) =
      (.ofOutcome (fun _ => .done) (f.emit l level message error).1,
        (f.emit l level message error).2) := by
  simp only [step, withLogger, hl]

/-- A command that uses loggers performs its uses and does nothing else. -/
theorem performs_step {f : Facade} {c : Command} (h : c.isUse = true) :
    f.Performs (f.uses c) (f.step c).2 := by
  cases c with
  | query number level =>
    cases hl : f.loggers[number]? with
    | none =>
      simp only [uses, step, withLogger, hl]
      exact .nil f
    | some l =>
      rw [step_query hl]
      simp only [uses, hl]
      exact .queried (List.mem_of_getElem? hl) (.nil _)
  | call c => exact Call.performs_run (Call.performs_runAll c.inner) f
  | emit number level message error =>
    cases hl : f.loggers[number]? with
    | none =>
      simp only [uses, step, withLogger, hl]
      exact .nil f
    | some l =>
      rw [step_emit hl]
      simp only [uses, hl]
      exact .emitted (List.mem_of_getElem? hl) (.nil _)
  | acquire | acquireWith | acquireDirect | nameFor | clone | setStrategy | setDirectives |
    clear => cases h

theorem uses_of_not_isUse {f : Facade} {c : Command} (h : c.isUse = false) : f.uses c = [] := by
  cases c with
  | query | call | emit => cases h
  | acquire | acquireWith | acquireDirect | nameFor | clone | setStrategy | setDirectives |
    clear => rfl

end Facade

end LoggerTree

import CallWatch.Observation.Flight

/-! One observed call: what its steps have done to the observatory is told by its stage.
The guard is done exactly while the completion is in the hands of the returning call, so the
completion is begun once and neither half of it is done twice. A completion at work goes on with
its count and its record, or breaks off at the count.
-/

namespace CallWatch

variable {α : Type}

/-- The way in which a call has ended, once its completion has begun. -/
def Stage.ending? : Stage α → Option (Ending α)
  | .counting _ _ ending => some ending
  | .logging _ _ ending => some ending
  | .ended ending => some ending
  | .broken ending => some ending
  | _ => none

/-- The completion of a call is at work. -/
def Stage.completing : Stage α → Bool
  | .counting .. => true
  | .logging .. => true
  | _ => false

def Stage.isRunning : Stage α → Bool
  | .running _ => true
  | _ => false

/-- The way in which a step ends a running call: its handler returns or panics, or its future
is dropped.
-/
def CallStep.ending? (mode : ObservationMode) : CallStep α → Option (Ending α)
  | .finish value => some (.returned value)
  | .panic => some .panicked
  | .drop unwinding =>
    if mode = .future then some (if unwinding then .panicked else .dropped) else none
  | _ => none

/-- A call has ended in some way, and its guard, if it is still there, has nothing left to do. -/
def Stage.EndsIn (ending : Ending α) : Stage α → Prop
  | .counting _ guard e | .logging _ guard e => e = ending ∧ ∀ g ∈ guard, g.done = true
  | .ended e | .broken e => e = ending
  | _ => False

/-- The guard of a call, if it outlives the completion, has nothing left to do. -/
def Stage.Spent : Stage α → Prop
  | .counting _ guard _ | .logging _ guard _ => ∀ g ∈ guard, g.done = true
  | _ => True

/-- A call that has ended in some way has been counted. -/
def Stage.Counted (ending : Ending α) : Stage α → Prop
  | .logging _ guard e => e = ending ∧ ∀ g ∈ guard, g.done = true
  | .ended e => e = ending
  | _ => False

theorem Stage.EndsIn.spent {stage : Stage α} {ending : Ending α} (h : stage.EndsIn ending)
    : stage.Spent := by
  cases stage with
  | unpolled | running | discarded => exact h.elim
  | counting | logging => exact h.2
  | ended | broken => trivial

theorem Stage.Counted.endsIn {stage : Stage α} {ending : Ending α} (h : stage.Counted ending)
    : stage.EndsIn ending := by
  cases stage with
  | unpolled | running | discarded | counting | broken => exact h.elim
  | logging | ended => exact h

theorem Stage.spent_of_ending? {stage : Stage α} (running : stage.ending? = none)
    : stage.Spent := by
  cases stage with
  | unpolled | running | discarded => trivial
  | counting | logging | ended | broken => cases running

theorem Stage.spent_of_result? {stage : Stage α} {ending : Ending α}
    (final : stage.result? = some ending)
    : stage.Spent := by
  cases stage with
  | unpolled | running | counting | logging => cases final
  | ended | broken | discarded => trivial

theorem Stage.EndsIn.ending? {stage : Stage α} {ending : Ending α} (h : stage.EndsIn ending)
    : stage.ending? = some ending := by
  cases stage with
  | unpolled | running | discarded => exact h.elim
  | counting | logging => exact congrArg some h.1
  | ended | broken => exact congrArg some h

theorem Stage.endsIn_release (unwinding : Bool) (now : Duration) (ending : Ending α)
    (guard : Guard)
    : (Stage.release unwinding now ending guard).EndsIn ending := by
  simp only [Stage.release]
  split
  · exact ⟨rfl, nofun⟩
  · rfl

/-- A call whose guard is dropped has ended. -/
theorem Stage.ending?_release (unwinding : Bool) (now : Duration) (ending : Ending α)
    (guard : Guard)
    : (Stage.release unwinding now ending guard).ending? = some ending := by
  simp only [Stage.release]
  split <;> rfl

/-- A value that the caller of a call gets has ended the call. -/
theorem Stage.ending?_of_returned {stage : Stage α} {value : α}
    (result : stage.result? = some (.returned value))
    : stage.ending? = some (.returned value) := by
  cases stage with
  | ended => exact result
  | unpolled | running | counting | logging | broken | discarded => cases result

/-- Only a handler that returns a value ends its call with the value. -/
theorem CallStep.eq_finish {mode : ObservationMode} {step : CallStep α} {value : α}
    (ends : step.ending? mode = some (.returned value))
    : step = .finish value := by
  cases step with
  | finish => cases ends; rfl
  | poll | panic | count | log => cases ends
  | drop unwinding => cases mode <;> cases unwinding <;> cases ends

variable [Classified α] {takes : Call → Bool}

/-- A completion is that of a call with its ending. -/
structure Completion.Of (k : Completion) (call : Call) (ending : Ending α) : Prop where
  sameCall : k.call = call
  sameOutcome : k.outcome = Classified.outcome ending

/-- The effects that a call has had by its stage: none before its completion begins, and then
first the count and last the record of one completion, if the call is taken. The guard of a
running call is not done, and one that outlives the completion is.
-/
def ObservedCall.Traced (takes : Call → Bool) (c : ObservedCall α) (done : List Effect)
    : Prop :=
  match c.stage with
  | .unpolled => done = []
  | .running guard => done = [] ∧ guard.call = c.call ∧ guard.done = false
  | .counting k guard ending =>
    done = [] ∧ k.Of c.call ending ∧ ∀ g ∈ guard, g.done = true
  | .logging k guard ending =>
    takes c.call = true ∧ done = [.count k] ∧ k.Of c.call ending ∧ ∀ g ∈ guard, g.done = true
  | .ended ending =>
    takes c.call = true ∧ ∃ k now, done = [.count k, .log k now] ∧ k.Of c.call ending
  | .broken _ => takes c.call = false ∧ done = []
  | .discarded => done = []

namespace ObservedCall

/-- A call that is about to be observed has had no effect, with or without a future. -/
theorem start_traced (mode : ObservationMode) (call : Call) (now : Duration)
    : (start mode call now : ObservedCall α).Traced takes [] := by
  cases mode with
  | future => rfl
  | direct => exact ⟨rfl, rfl, rfl⟩

@[simp] theorem step_mode (wall : WallClock) (now : Duration) (c : ObservedCall α)
    (step : CallStep α)
    : (c.step takes wall now step).1.mode = c.mode := by
  cases step with
  | count =>
      simp only [ObservedCall.step]
      split
      · split <;> rfl
      · rfl
  | poll | finish | panic | drop | log =>
      simp only [ObservedCall.step]
      split <;> rfl

/-- Dropping the guard of a running call begins its completion. -/
theorem release_traced {mode : ObservationMode} {call : Call} {guard : Guard}
    (own : guard.call = call) (pending : guard.done = false) (unwinding : Bool) (now : Duration)
    {ending : Ending α}
    (fits : outcome ending = if unwinding then Outcome.internal else Outcome.canceled)
    : (⟨mode, call, .release unwinding now ending guard⟩ : ObservedCall α).Traced takes [] := by
  simp only [Stage.release, Guard.release, pending, Bool.false_eq_true, if_false]
  exact ⟨rfl, ⟨own, fits.symm⟩, nofun⟩

/-- A call that is taken is counted and has its record still to come. -/
theorem step_count_of_takes {mode : ObservationMode} {call : Call} {k : Completion}
    {guard : Option Guard} {ending : Ending α} (taken : takes k.call = true) (wall : WallClock)
    (now : Duration)
    : (⟨mode, call, .counting k guard ending⟩ : ObservedCall α).step takes wall now .count
      = (⟨mode, call, .logging k guard ending⟩, some (.count k)) := by
  simp only [ObservedCall.step, taken, if_true]

/-- A call whose count breaks off is broken: if its guard is still there, it has nothing left to
do.
-/
theorem step_count_of_refused {mode : ObservationMode} {call : Call} {k : Completion}
    {guard : Option Guard} {ending : Ending α} (refused : takes k.call = false)
    (spent : ∀ g ∈ guard, g.done = true) (wall : WallClock) (now : Duration)
    : (⟨mode, call, .counting k guard ending⟩ : ObservedCall α).step takes wall now .count
      = (⟨mode, call, .broken ending⟩, none) := by
  cases guard with
  | none => simp [ObservedCall.step, refused]
  | some g => simp [ObservedCall.step, refused, Guard.release, spent g rfl]

/-- A call that is logged has ended, since its guard has nothing left to do. -/
theorem step_log {mode : ObservationMode} {call : Call} {k : Completion} {guard : Option Guard}
    {ending : Ending α} (spent : ∀ g ∈ guard, g.done = true) (wall : WallClock) (now : Duration)
    : (⟨mode, call, .logging k guard ending⟩ : ObservedCall α).step takes wall now .log
      = (⟨mode, call, .ended ending⟩, some (.log k (wall now))) := by
  cases guard with
  | none => rfl
  | some g => simp [ObservedCall.step, Stage.release, Guard.release, spent g rfl]

/-- What a step does to a call, with its effect:
- it does nothing where the stage of the call does not allow it;
- the first poll starts the handler, whose return, panic or drop begins the completion;
- a future that has not been polled is dropped without one;
- a count tells the collector of the call or breaks it off, and a record is the end of it.
-/
inductive Turns (takes : Call → Bool) (wall : WallClock) (now : Duration) (mode : ObservationMode)
    (call : Call) : Stage α → CallStep α → Stage α → Option Effect → Prop where
  | still {stage : Stage α} {step : CallStep α}
      : Turns takes wall now mode call stage step stage none
  | polls : Turns takes wall now mode call .unpolled .poll (.running (.start call now)) none
  | finishes (guard : Guard) (value : α)
      : Turns takes wall now mode call (.running guard) (.finish value)
          (.counting (guard.completion (outcome value) now) (some { guard with done := true })
            (.returned value))
          none
  | panics (guard : Guard)
      : Turns takes wall now mode call (.running guard) .panic (.release true now .panicked guard)
          none
  | discards {unwinding : Bool} (future : mode = .future)
      : Turns takes wall now mode call .unpolled (.drop unwinding) .discarded none
  | drops (future : mode = .future) (guard : Guard) (unwinding : Bool)
      : Turns takes wall now mode call (.running guard) (.drop unwinding)
          (.release unwinding now (if unwinding then .panicked else .dropped) guard) none
  | counts {k : Completion} {guard : Option Guard} {ending : Ending α}
      (taken : takes k.call = true)
      : Turns takes wall now mode call (.counting k guard ending) .count
          (.logging k guard ending) (some (.count k))
  | breaks {k : Completion} {guard : Option Guard} {ending : Ending α}
      (refused : takes k.call = false)
      : Turns takes wall now mode call (.counting k guard ending) .count (.broken ending) none
  | logs {k : Completion} {guard : Option Guard} {ending : Ending α}
      : Turns takes wall now mode call (.logging k guard ending) .log (.ended ending)
          (some (.log k (wall now)))

/-- Every step does one of these things, by cases on the step and the stage that allows it. -/
theorem step_turns {c : ObservedCall α} (spent : c.stage.Spent) (takes : Call → Bool)
    (wall : WallClock) (now : Duration) (step : CallStep α)
    : ∃ next effect?,
        c.step takes wall now step = ({ c with stage := next }, effect?)
        ∧ Turns takes wall now c.mode c.call c.stage step next effect? := by
  obtain ⟨mode, call, stage⟩ := c
  cases step with
  | poll =>
      cases stage with
      | unpolled => exact ⟨_, _, rfl, .polls⟩
      | running | counting | logging | ended | broken | discarded => exact ⟨_, _, rfl, .still⟩
  | finish value =>
      cases stage with
      | running guard => exact ⟨_, _, rfl, .finishes guard value⟩
      | unpolled | counting | logging | ended | broken | discarded => exact ⟨_, _, rfl, .still⟩
  | panic =>
      cases stage with
      | running guard => exact ⟨_, _, rfl, .panics guard⟩
      | unpolled | counting | logging | ended | broken | discarded => exact ⟨_, _, rfl, .still⟩
  | drop unwinding =>
      cases mode with
      | direct => exact ⟨_, _, rfl, .still⟩
      | future =>
          cases stage with
          | unpolled => exact ⟨_, _, rfl, .discards rfl⟩
          | running guard => exact ⟨_, _, rfl, .drops rfl guard unwinding⟩
          | counting | logging | ended | broken | discarded => exact ⟨_, _, rfl, .still⟩
  | count =>
      cases stage with
      | counting k guard ending =>
          cases taken : takes k.call with
          | true => exact ⟨_, _, step_count_of_takes taken wall now, .counts taken⟩
          | false => exact ⟨_, _, step_count_of_refused taken spent wall now, .breaks taken⟩
      | unpolled | running | logging | ended | broken | discarded => exact ⟨_, _, rfl, .still⟩
  | log =>
      cases stage with
      | logging k guard ending => exact ⟨_, _, step_log spent wall now, .logs⟩
      | unpolled | running | counting | ended | broken | discarded => exact ⟨_, _, rfl, .still⟩

/-- The trace of a call tells that its guard has nothing left to do when it has ended. -/
theorem Traced.endsIn {c : ObservedCall α} {done : List Effect} {ending : Ending α}
    (h : c.Traced takes done) (ended : c.stage.ending? = some ending)
    : c.stage.EndsIn ending := by
  obtain ⟨mode, call, stage⟩ := c
  cases stage with
  | unpolled | running | discarded => cases ended
  | counting => exact ⟨Option.some.inj ended, h.2.2⟩
  | logging => exact ⟨Option.some.inj ended, h.2.2.2⟩
  | ended | broken => exact Option.some.inj ended

theorem Traced.spent {c : ObservedCall α} {done : List Effect} (h : c.Traced takes done)
    : c.stage.Spent := by
  cases ended : c.stage.ending? with
  | none => exact Stage.spent_of_ending? ended
  | some ending => exact (h.endsIn ended).spent

/-- Where no call is taken a call has had no effect, and its caller gets no value. -/
theorem Traced.untaken {c : ObservedCall α} {done : List Effect} (h : c.Traced takes done)
    (none : ∀ call, takes call = false)
    : done = [] ∧ ∀ value, c.stage.result? ≠ some (.returned value) := by
  obtain ⟨mode, call, stage⟩ := c
  cases stage with
  | unpolled | discarded => exact ⟨h, fun value result => by cases result⟩
  | running | counting => exact ⟨h.1, fun value result => by cases result⟩
  | broken => exact ⟨h.2, fun value result => by cases result⟩
  | logging | ended => cases (none call).symm.trans h.1

/-- A step keeps a call and its effects together, by cases on what it does. -/
theorem step_traced {c : ObservedCall α} {done : List Effect} (h : c.Traced takes done)
    (wall : WallClock) (now : Duration) (step : CallStep α)
    : (c.step takes wall now step).1.Traced takes
        (done ++ (c.step takes wall now step).2.toList) := by
  obtain ⟨next, effect?, stepped, turns⟩ := step_turns h.spent takes wall now step
  rw [stepped]
  obtain ⟨mode, call, stage⟩ := c
  cases turns with
  | still => simpa using h
  | polls =>
      have none : done = [] := h
      exact ⟨by simp [none], rfl, rfl⟩
  | finishes guard value =>
      obtain ⟨rfl, own, -⟩ := h
      refine ⟨rfl, ⟨own, rfl⟩, ?_⟩
      rintro _ ⟨rfl⟩
      rfl
  | panics guard =>
      obtain ⟨rfl, own, pending⟩ := h
      exact release_traced own pending true now rfl
  | discards => simpa [Traced] using h
  | drops _ guard unwinding =>
      obtain ⟨rfl, own, pending⟩ := h
      refine release_traced own pending unwinding now ?_
      cases unwinding <;> rfl
  | counts taken =>
      obtain ⟨rfl, own, spent⟩ := h
      exact ⟨own.sameCall ▸ taken, rfl, own, spent⟩
  | breaks refused =>
      obtain ⟨rfl, own, -⟩ := h
      exact ⟨own.sameCall ▸ refused, rfl⟩
  | logs =>
      obtain ⟨taken, rfl, own, -⟩ := h
      exact ⟨taken, _, wall now, rfl, own⟩

-----------------------------------------------------------------------------------------
-- How a call goes on
-----------------------------------------------------------------------------------------

/-- The ending of a call is final. -/
theorem step_endsIn {c : ObservedCall α} {ending : Ending α} (h : c.stage.EndsIn ending)
    (wall : WallClock) (now : Duration) (step : CallStep α)
    : (c.step takes wall now step).1.stage.EndsIn ending := by
  obtain ⟨next, effect?, stepped, turns⟩ := step_turns h.spent takes wall now step
  rw [stepped]
  obtain ⟨mode, call, stage⟩ := c
  cases turns with
  | polls | finishes | panics | discards | drops => exact h.elim
  | still | counts => exact h
  | breaks | logs => exact h.1

/-- A running call ends with the first step that ends it, in the way of that step. -/
theorem step_ends {c : ObservedCall α} {step : CallStep α} {ending : Ending α}
    (running : c.stage.isRunning = true) (ends : step.ending? c.mode = some ending)
    (wall : WallClock) (now : Duration)
    : (c.step takes wall now step).1.stage.EndsIn ending := by
  obtain ⟨mode, call, stage⟩ := c
  cases stage with
  | unpolled | counting | logging | ended | broken | discarded => cases running
  | running guard =>
      cases step with
      | poll | count | log => cases ends
      | finish value =>
          refine ⟨Option.some.inj ends, ?_⟩
          rintro _ ⟨rfl⟩
          rfl
      | panic =>
          cases ends
          exact Stage.endsIn_release true now .panicked guard
      | drop unwinding =>
          cases mode with
          | direct => cases ends
          | future =>
              cases ends
              exact Stage.endsIn_release unwinding now _ guard

/-- A call that has ended and is taken is counted by its next count. -/
theorem step_count_of_taken {c : ObservedCall α} {ending : Ending α}
    (all : ∀ call, takes call = true) (ends : c.stage.EndsIn ending)
    (whole : ∀ e, c.stage ≠ .broken e) (wall : WallClock) (now : Duration)
    : (c.step takes wall now .count).1.stage.Counted ending := by
  obtain ⟨mode, call, stage⟩ := c
  cases stage with
  | unpolled | running | discarded => exact ends.elim
  | broken e => exact absurd rfl (whole e)
  | logging | ended => exact ends
  | counting k guard =>
      rw [step_count_of_takes (all k.call)]
      exact ends

/-- A call that has ended where none is taken is broken by its next count. -/
theorem step_count_of_none {c : ObservedCall α} {done : List Effect} {ending : Ending α}
    (none : ∀ call, takes call = false) (traced : c.Traced takes done)
    (ended : c.stage.ending? = some ending) (wall : WallClock) (now : Duration)
    : (c.step takes wall now .count).1.stage = .broken ending := by
  have ends := traced.endsIn ended
  obtain ⟨mode, call, stage⟩ := c
  cases stage with
  | unpolled | running | discarded => exact ends.elim
  | logging | ended =>
      have taken := traced.1
      rw [none] at taken
      cases taken
  | broken => exact congrArg Stage.broken ends
  | counting k guard =>
      rw [step_count_of_refused (none k.call) ends.2]
      exact congrArg Stage.broken ends.1

/-- A call that has been counted stays so. -/
theorem step_counted {c : ObservedCall α} {ending : Ending α} (h : c.stage.Counted ending)
    (wall : WallClock) (now : Duration) (step : CallStep α)
    : (c.step takes wall now step).1.stage.Counted ending := by
  obtain ⟨next, effect?, stepped, turns⟩ := step_turns h.endsIn.spent takes wall now step
  rw [stepped]
  obtain ⟨mode, call, stage⟩ := c
  cases turns with
  | polls | finishes | panics | discards | drops | counts | breaks => exact h.elim
  | still => exact h
  | logs => exact h.1

/-- The next record of a call that has been counted is the end of it. -/
theorem step_log_of_counted {c : ObservedCall α} {ending : Ending α} (h : c.stage.Counted ending)
    (wall : WallClock) (now : Duration)
    : (c.step takes wall now .log).1.stage = .ended ending := by
  obtain ⟨mode, call, stage⟩ := c
  cases stage with
  | unpolled | running | discarded | counting | broken => exact h.elim
  | ended e => exact congrArg Stage.ended h
  | logging k guard =>
      rw [step_log h.2]
      exact congrArg Stage.ended h.1

/-- A call that is over stays as it is. -/
theorem step_over {c : ObservedCall α} {ending : Ending α} (h : c.stage.result? = some ending)
    (wall : WallClock) (now : Duration) (step : CallStep α)
    : (c.step takes wall now step).1.stage = c.stage := by
  obtain ⟨next, effect?, stepped, turns⟩ :=
    step_turns (Stage.spent_of_result? h) takes wall now step
  rw [stepped]
  obtain ⟨mode, call, stage⟩ := c
  cases turns with
  | polls | finishes | panics | discards | drops | counts | breaks | logs => cases h
  | still => rfl

/-- A call ends by a step of its own that ends it. -/
theorem ends_of_step {c : ObservedCall α} {step : CallStep α} {ending : Ending α}
    {wall : WallClock} {now : Duration} (before : c.stage.ending? = none)
    (after : (c.step takes wall now step).1.stage.ending? = some ending)
    : step.ending? c.mode = some ending := by
  obtain ⟨next, effect?, stepped, turns⟩ :=
    step_turns (Stage.spent_of_ending? before) takes wall now step
  rw [stepped] at after
  obtain ⟨mode, call, stage⟩ := c
  cases turns with
  | still => cases before.symm.trans after
  | polls | discards => cases after
  | counts | breaks | logs => cases before
  | finishes guard value => exact after
  | panics guard => exact (Stage.ending?_release true now .panicked guard).symm.trans after
  | drops future guard unwinding =>
      rw [CallStep.ending?, if_pos future]
      exact (Stage.ending?_release unwinding now _ guard).symm.trans after

end ObservedCall

end CallWatch

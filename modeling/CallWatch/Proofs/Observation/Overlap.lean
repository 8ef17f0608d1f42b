import CallWatch.Proofs.Lists
import CallWatch.Proofs.Observation.Completion
import CallWatch.Proofs.Observation.Taking

/-! Observed calls side by side.
Whatever the order of their steps, every call has the effects that its own stage tells, all
effects together make the observatory, and what has been counted and not logged is what the
calls at work still owe.
-/

namespace CallWatch

-----------------------------------------------------------------------------------------
-- Effects
-----------------------------------------------------------------------------------------

def Effect.counts (kind : Completion → Bool) : Effect → Bool
  | .count k => kind k
  | .log .. => false

def Effect.logs (kind : Completion → Bool) : Effect → Bool
  | .count _ => false
  | .log k _ => kind k

/-- A completion of some kind has been counted and is about to be logged. -/
def Stage.owes {α : Type} (kind : Completion → Bool) : Stage α → Bool
  | .logging k _ _ => kind k
  | _ => false

/-- A call whose guard is dropped owes no record. -/
theorem Stage.owes_release {α : Type} (kind : Completion → Bool) (unwinding : Bool)
    (now : Duration) (ending : Ending α) (guard : Guard)
    : (Stage.release unwinding now ending guard).owes kind = false := by
  simp only [Stage.release]
  split <;> rfl

/-- The effects of one call among those of all. -/
def effectsOf (id : Nat) (done : List (Nat × Effect)) : List Effect :=
  done.filterMap fun (other, effect) => if other = id then some effect else none

/-- An effect joins those of its own call and of no other. -/
theorem effectsOf_append (id own : Nat) (done : List (Nat × Effect)) (effect? : Option Effect)
    : effectsOf id (done ++ (effect?.map (own, ·)).toList)
      = if own = id then effectsOf id done ++ effect?.toList else effectsOf id done := by
  cases effect? with
  | none => simp [effectsOf]
  | some effect =>
      by_cases same : own = id
      · simp [effectsOf, same]
      · simp [effectsOf, same]

namespace ObservedCall

variable {α : Type} [Classified α]

/-- A step counts what the call then owes, or logs what it owed, by cases on what it does. -/
theorem step_owes {c : ObservedCall α} (spent : c.stage.Spent) (takes : Call → Bool)
    (wall : WallClock) (now : Duration) (step : CallStep α) (kind : Completion → Bool)
    : (c.step takes wall now step).2.toList.countP (Effect.counts kind) + (c.stage.owes kind).toNat
      = (c.step takes wall now step).2.toList.countP (Effect.logs kind)
        + ((c.step takes wall now step).1.stage.owes kind).toNat := by
  obtain ⟨next, effect?, stepped, turns⟩ := step_turns spent takes wall now step
  rw [stepped]
  obtain ⟨mode, call, stage⟩ := c
  cases turns with
  | still | polls | finishes | discards | breaks => rfl
  | panics | drops =>
      simp only [Stage.owes_release]
      rfl
  | @counts k => cases owed : kind k <;> simp [Effect.counts, Effect.logs, Stage.owes, owed]
  | @logs k => cases due : kind k <;> simp [Effect.counts, Effect.logs, Stage.owes, due]

end ObservedCall

-----------------------------------------------------------------------------------------
-- One event
-----------------------------------------------------------------------------------------

namespace Airspace

variable {α : Type} [Classified α]

section
variable {s : Airspace α} {id : Nat} {c : ObservedCall α}

theorem turn_of_halted (halted : s.halted = true) (wall : WallClock) (now : Duration)
    (event : CallEvent α)
    : s.turn wall now event = (s.calls, none) := by
  simp only [turn, halted, if_true]

theorem turn_start (live : s.halted = false) (wall : WallClock) (now : Duration)
    (mode : ObservationMode) (call : Call)
    : s.turn wall now (.start mode call) = (s.calls ++ [.start mode call now], none) := by
  simp only [turn, live, Bool.false_eq_true, if_false]

theorem turn_step (live : s.halted = false) (found : s.calls[id]? = some c) (wall : WallClock)
    (now : Duration) (step : CallStep α)
    : s.turn wall now (.step id step)
      = (s.calls.set id (c.step s.observatory.takes wall now step).1,
          (c.step s.observatory.takes wall now step).2.map (id, ·)) := by
  simp only [turn, live, found, Bool.false_eq_true, if_false]

theorem turn_absent (live : s.halted = false) (absent : s.calls[id]? = none) (wall : WallClock)
    (now : Duration) (step : CallStep α)
    : s.turn wall now (.step id step) = (s.calls, none) := by
  simp only [turn, live, absent, Bool.false_eq_true, if_false]

end

/-- What holds of observed calls after a history with its effects.

- `applied`: the observatory is the one of the beginning after all effects;
- `taking`: it takes what it took then;
- `traced`: every call has had the effects that its stage tells;
- `unborn`: no effect is due to a call that has not been made;
- `caused`: a call that has ended did so by a step of the history;
- `balanced`: the counts of some kind are as many as the records of that kind and the calls
  that owe one.
-/
structure Keeps (o : Observatory) (past : List (Duration × CallEvent α))
    (done : List (Nat × Effect)) (s : Airspace α) : Prop where
  applied : s.observatory = done.foldl (fun o entry => entry.2.apply o) o
  taking : s.observatory.takes = o.takes
  traced :
    ∀ (id : Nat) (c : ObservedCall α),
      s.calls[id]? = some c → c.Traced o.takes (effectsOf id done)
  unborn : ∀ id, s.calls.length ≤ id → effectsOf id done = []
  caused :
    ∀ (id : Nat) (c : ObservedCall α) (ending : Ending α),
      s.calls[id]? = some c → c.stage.ending? = some ending
      → ∃ now step, (now, .step id step) ∈ past ∧ step.ending? c.mode = some ending
  balanced :
    ∀ kind : Completion → Bool,
      done.countP (fun entry => entry.2.counts kind)
        = done.countP (fun entry => entry.2.logs kind)
          + s.calls.countP (fun c => c.stage.owes kind)

theorem quiet_keeps (o : Observatory)
    : (quiet o : Airspace α).Keeps o [] [] :=
  ⟨rfl, rfl, fun _ _ found => (by simp [quiet] at found), fun _ _ => rfl,
    fun _ _ _ found => (by simp [quiet] at found), fun _ => rfl⟩

/-- A call that is about to be observed joins the others and has no effect. -/
theorem Keeps.start {o : Observatory} {past : List (Duration × CallEvent α)}
    {done : List (Nat × Effect)} {s : Airspace α} (h : s.Keeps o past done) (now : Duration)
    (mode : ObservationMode) (call : Call)
    : (⟨s.observatory, s.calls ++ [.start mode call now]⟩ : Airspace α).Keeps o
        (past ++ [(now, .start mode call)]) done := by
  constructor
  · exact h.applied
  · exact h.taking
  · intro id c found
    rcases cases_of_getElem?_concat found with old | ⟨rfl, rfl⟩
    · exact h.traced id c old
    · rw [h.unborn _ (Nat.le_refl _)]
      exact ObservedCall.start_traced mode call now
  · intro id beyond
    exact h.unborn id (by simp at beyond; omega)
  · intro id c ending found ended
    rcases cases_of_getElem?_concat found with old | ⟨rfl, rfl⟩
    · obtain ⟨instant, step, known, ends⟩ := h.caused id c ending old ended
      exact ⟨instant, step, List.mem_append_left _ known, ends⟩
    · cases mode <;> cases ended
  · intro kind
    have idle : (ObservedCall.start mode call now : ObservedCall α).stage.owes kind = false := by
      cases mode <;> rfl
    rw [List.countP_append, List.countP_singleton, idle]
    simpa using h.balanced kind

omit [Classified α] in
/-- No effect changes what is taken. -/
theorem takes_apply (o : Observatory) (effect : Effect)
    : (effect.apply o).takes = o.takes := by
  cases effect with
  | count k => exact Observatory.takes_count
  | log k now => exact Observatory.takes_log

/-- A step of one call leaves all others alone. -/
theorem Keeps.step {o : Observatory} {past : List (Duration × CallEvent α)}
    {done : List (Nat × Effect)} {s : Airspace α} (h : s.Keeps o past done) {wall : WallClock}
    {now : Duration} {own : Nat} {c next : ObservedCall α} (found : s.calls[own]? = some c)
    {step : CallStep α} {effect? : Option Effect}
    (stepped : c.step o.takes wall now step = (next, effect?))
    : (⟨effect?.elim s.observatory fun effect => effect.apply s.observatory,
          s.calls.set own next⟩ : Airspace α).Keeps o
        (past ++ [(now, .step own step)]) (done ++ (effect?.map (own, ·)).toList) := by
  obtain rfl : (c.step o.takes wall now step).1 = next := by rw [stepped]
  obtain rfl : (c.step o.takes wall now step).2 = effect? := by rw [stepped]
  constructor
  · rw [List.foldl_append, ← h.applied]
    generalize (c.step o.takes wall now step).2 = effect?
    cases effect? <;> rfl
  · generalize (c.step o.takes wall now step).2 = effect?
    cases effect? with
    | none => exact h.taking
    | some effect => exact (takes_apply s.observatory effect).trans h.taking
  · intro id d known
    rw [effectsOf_append]
    rcases cases_of_getElem?_set known with ⟨rfl, rfl⟩ | ⟨other, old⟩
    · rw [if_pos rfl]
      exact ObservedCall.step_traced (h.traced id c found) wall now step
    · rw [if_neg (Ne.symm other)]
      exact h.traced id d old
  · intro id beyond
    have inside := (List.getElem?_eq_some_iff.mp found).1
    rw [List.length_set] at beyond
    rw [effectsOf_append, if_neg (by omega)]
    exact h.unborn id beyond
  · intro id d ending known ended
    rcases cases_of_getElem?_set known with ⟨rfl, rfl⟩ | ⟨-, old⟩
    · rw [ObservedCall.step_mode]
      cases before : c.stage.ending? with
      | none => exact ⟨now, step, by simp, ObservedCall.ends_of_step before ended⟩
      | some earlier =>
          have final : (c.step o.takes wall now step).1.stage.EndsIn earlier :=
            ObservedCall.step_endsIn ((h.traced id c found).endsIn before) wall now step
          cases final.ending?.symm.trans ended
          obtain ⟨instant, cause, known, ends⟩ := h.caused id c ending found before
          exact ⟨instant, cause, List.mem_append_left _ known, ends⟩
    · obtain ⟨instant, cause, known, ends⟩ := h.caused id d ending old ended
      exact ⟨instant, cause, List.mem_append_left _ known, ends⟩
  · intro kind
    have one := ObservedCall.step_owes (h.traced own c found).spent o.takes wall now step kind
    have others :=
      countP_set_add (fun c => c.stage.owes kind) found (c.step o.takes wall now step).1
    have before := h.balanced kind
    rw [List.countP_append, List.countP_append]
    generalize (c.step o.takes wall now step).2 = effect? at one ⊢
    cases effect? with
    | none =>
        simp only [Option.toList_none, List.countP_nil, Option.map_none] at one ⊢
        omega
    | some effect =>
        simp only [Option.toList_some, Option.map_some, List.countP_singleton] at one ⊢
        omega

/-- An event keeps what holds of observed calls; none happens once the process has ended. -/
theorem Keeps.event {o : Observatory} {past : List (Duration × CallEvent α)}
    {done : List (Nat × Effect)} {s : Airspace α} (h : s.Keeps o past done) (wall : WallClock)
    (now : Duration) (event : CallEvent α)
    : (s.step wall now event).Keeps o (past ++ [(now, event)])
        (done ++ (s.turn wall now event).2.toList) := by
  have idle (still : s.turn wall now event = (s.calls, none))
      : (s.step wall now event).Keeps o (past ++ [(now, event)])
          (done ++ (s.turn wall now event).2.toList) := by
    rw [Airspace.step, still, Option.toList_none, List.append_nil]
    exact ⟨h.applied, h.taking, h.traced, h.unborn, fun id c ending known ended => by
      obtain ⟨instant, cause, known, ends⟩ := h.caused id c ending known ended
      exact ⟨instant, cause, List.mem_append_left _ known, ends⟩, h.balanced⟩
  cases halted : s.halted with
  | true => exact idle (turn_of_halted halted wall now event)
  | false =>
      cases event with
      | start mode call =>
          have kept := h.start now mode call
          rw [← List.append_nil done] at kept
          rw [Airspace.step, turn_start halted]
          exact kept
      | step id step =>
          cases found : s.calls[id]? with
          | none => exact idle (turn_absent halted found wall now step)
          | some c =>
              rcases stepped : c.step o.takes wall now step with ⟨next, effect?⟩
              have kept := h.step found stepped
              rw [Airspace.step, turn_step halted found, h.taking, stepped]
              cases effect? <;> exact kept

/-- The effects of a history, each with the number of its call. -/
def effects (wall : WallClock)
    : Airspace α → List (Duration × CallEvent α) → List (Nat × Effect)
  | _, [] => []
  | s, (now, event) :: rest =>
    (s.turn wall now event).2.toList ++ effects wall (s.step wall now event) rest

/-- A history keeps what holds of observed calls, by induction on its events. -/
theorem Keeps.run {o : Observatory} {past : List (Duration × CallEvent α)}
    {done : List (Nat × Effect)} {s : Airspace α} (h : s.Keeps o past done) (wall : WallClock)
    (history : List (Duration × CallEvent α))
    : (s.run wall history).Keeps o (past ++ history) (done ++ effects wall s history) := by
  induction history generalizing s past done with
  | nil => simpa [effects, Airspace.run] using h
  | cons entry rest ih =>
      obtain ⟨now, event⟩ := entry
      have later := ih (h.event wall now event)
      rw [List.append_assoc, List.append_assoc] at later
      exact later

/-- The calls after a step of one of them, while the process goes on. -/
theorem step_calls {s : Airspace α} (live : s.halted = false) {id : Nat} {c : ObservedCall α}
    (found : s.calls[id]? = some c) (wall : WallClock) (now : Duration) (step : CallStep α)
    : (s.step wall now (.step id step)).calls
      = s.calls.set id (c.step s.observatory.takes wall now step).1 := by
  rw [Airspace.step, turn_step live found]

/-- Once the process has ended nothing changes, by induction on the events. -/
theorem run_of_halted {s : Airspace α} {wall : WallClock} (halted : s.halted = true)
    (history : List (Duration × CallEvent α))
    : s.run wall history = s := by
  induction history with
  | nil => rfl
  | cons entry rest ih =>
      obtain ⟨now, event⟩ := entry
      change (s.step wall now event).run wall rest = s
      rw [Airspace.step, turn_of_halted halted]
      exact ih

/-- What every step of a call keeps, every event keeps. -/
theorem step_preserves {p : ObservedCall α → Prop} {wall : WallClock}
    (closed : ∀ takes c now step, p c → p (c.step takes wall now step).1) {s : Airspace α}
    {id : Nat} {c : ObservedCall α} (found : s.calls[id]? = some c) (holds : p c)
    (now : Duration) (event : CallEvent α)
    : ∃ d, (s.step wall now event).calls[id]? = some d ∧ p d := by
  have inside := (List.getElem?_eq_some_iff.mp found).1
  cases halted : s.halted with
  | true =>
      rw [Airspace.step, turn_of_halted halted]
      exact ⟨c, found, holds⟩
  | false =>
      cases event with
      | start mode call =>
          rw [Airspace.step, turn_start halted]
          exact ⟨c, (List.getElem?_append_left inside).trans found, holds⟩
      | step other step =>
          cases moving : s.calls[other]? with
          | none =>
              rw [Airspace.step, turn_absent halted moving]
              exact ⟨c, found, holds⟩
          | some d =>
              rw [step_calls halted moving]
              by_cases same : other = id
              · subst same
                cases found.symm.trans moving
                exact ⟨_, List.getElem?_set_self inside, closed _ c now step holds⟩
              · exact ⟨c, (List.getElem?_set_ne same).trans found, holds⟩

/-- What every step of a call keeps, every history keeps, by induction on the events. -/
theorem run_preserves {p : ObservedCall α → Prop} {wall : WallClock}
    (closed : ∀ takes c now step, p c → p (c.step takes wall now step).1) {s : Airspace α}
    {id : Nat} {c : ObservedCall α} (found : s.calls[id]? = some c) (holds : p c)
    (history : List (Duration × CallEvent α))
    : ∃ d, (s.run wall history).calls[id]? = some d ∧ p d := by
  induction history generalizing s c with
  | nil => exact ⟨c, found, holds⟩
  | cons entry rest ih =>
      obtain ⟨now, event⟩ := entry
      obtain ⟨d, known, later⟩ := step_preserves closed found holds now event
      exact ih known later

/-- What a step of a call brings about and every later one keeps holds in the end. -/
theorem run_establishes {p : ObservedCall α → Prop} {wall : WallClock}
    (closed : ∀ takes c now step, p c → p (c.step takes wall now step).1) {s : Airspace α}
    (live : s.halted = false) {id : Nat} {c : ObservedCall α} (found : s.calls[id]? = some c)
    {now : Duration} {step : CallStep α} (begun : p (c.step s.observatory.takes wall now step).1)
    (after : List (Duration × CallEvent α))
    : ∃ d, (s.run wall ((now, .step id step) :: after)).calls[id]? = some d ∧ p d := by
  have inside := (List.getElem?_eq_some_iff.mp found).1
  have known : (s.step wall now (.step id step)).calls[id]?
      = some (c.step s.observatory.takes wall now step).1 := by
    rw [step_calls live found]
    exact List.getElem?_set_self inside
  exact run_preserves closed known begun after

end Airspace

end CallWatch

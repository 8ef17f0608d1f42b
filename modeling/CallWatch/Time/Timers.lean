import CallWatch.Time.Duration

/-! Running a system of timers under a clock that moves only when everything waits.
A timer fires at the first whole millisecond that is not before its deadline, and all that
is due at an instant runs before the clock moves on.
-/

namespace CallWatch.Time

/-- A system driven by timers: its earliest deadline, and what happens at an instant until
nothing more is due.
-/
structure Timers (σ : Type) where
  deadline? : σ → Option Duration
  settle : Duration → σ → σ

namespace Timers

variable {σ : Type}

/-- Moves the clock through all deadlines up to an instant, one after the other, and then to
that instant.
-/
def runTo (timers : Timers σ) (target now : Duration) (s : σ) : σ :=
  match timers.deadline? s with
  | none => timers.settle target s
  | some deadline =>
    if _between : now < deadline.wake ∧ deadline.wake ≤ target then
      timers.runTo target deadline.wake (timers.settle deadline.wake s)
    else timers.settle target s
termination_by target.nanos - now.nanos
decreasing_by
  exact Nat.sub_lt_sub_left (Nat.lt_of_lt_of_le _between.1 _between.2) _between.1

/-- What holds when the clock has got to an instant, if it is kept through every deadline on the
way, by the recursion along the deadlines. At the end no deadline is left up to that instant
but such as had passed before.
-/
theorem runTo_induction {timers : Timers σ} {target : Duration}
    (before : Duration → σ → Prop) (after : σ → Prop)
    (through
      : ∀ now s deadline,
          before now s
          → timers.deadline? s = some deadline
          → now < deadline.wake
          → deadline.wake ≤ target
          → before deadline.wake (timers.settle deadline.wake s))
    (last
      : ∀ now s,
          before now s
          → now ≤ target
          → (∀ deadline,
              timers.deadline? s = some deadline
              → ¬ (now < deadline.wake ∧ deadline.wake ≤ target))
          → after (timers.settle target s))
    {now : Duration} {s : σ} (early : now ≤ target) (holds : before now s)
    : after (timers.runTo target now s) := by
  induction now, s using runTo.induct timers target with
  | case1 now s none =>
      rw [runTo.eq_def]
      simp only [none]
      exact last now s holds early fun deadline due => by cases none.symm.trans due
  | case2 now s deadline due between ih =>
      rw [runTo.eq_def]
      simp only [due, dif_pos between]
      exact ih between.2 (through now s deadline holds due between.1 between.2)
  | case3 now s deadline due outside =>
      rw [runTo.eq_def]
      simp only [due, dif_neg outside]
      refine last now s holds early fun other also => ?_
      cases due.symm.trans also
      exact outside

/-- Moves the clock through the deadlines until a condition holds or nothing is left to wait
for; gives the instant then. A limit bounds the wait.
-/
def runUntil (timers : Timers σ) (holds : σ → Bool) (limit now : Duration) (s : σ)
    : Duration × σ :=
  if holds s then (now, s)
  else
    match timers.deadline? s with
    | none => (now, s)
    | some deadline =>
      if _between : now < deadline.wake ∧ deadline.wake ≤ limit then
        timers.runUntil holds limit deadline.wake (timers.settle deadline.wake s)
      else (now, s)
termination_by limit.nanos - now.nanos
decreasing_by
  exact Nat.sub_lt_sub_left (Nat.lt_of_lt_of_le _between.1 _between.2) _between.1

end Timers

end CallWatch.Time

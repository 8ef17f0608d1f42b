import CallWatch.Proofs.Load.Profiles
import CallWatch.Proofs.Service.Closings

/-! What a service does to load control.
A request moves its order as far as it goes, or drops it, and what it leaves in the observatory
is of no concern to load control. What is due moves the bench alone.
-/

namespace CallWatch

open Http (Request)
open Service (Exchange Pending Order)

namespace Service

section Control
variable {wall : WallClock} {now : Duration} {s : Service} {p later : Pending}

theorem control_completeCall (wall : WallClock) (now startedAt : Duration) (r : Request)
    (outcome : Outcome) (s : Service)
    : (s.completeCall wall now startedAt r outcome).bench.control = s.bench.control := by
  unfold completeCall
  split <;> rfl

/-- A request that is answered without an order leaves load control alone. -/
theorem control_conclude (wall : WallClock) (now startedAt : Duration) (r : Request)
    (response : Http.Response) (s : Service)
    : (s.conclude wall now startedAt r response).2.bench.control = s.bench.control :=
  control_completeCall wall now startedAt r (outcome response) s

/-- An order does to load control what its task does, as far as that goes. -/
theorem control_proceed (wall : WallClock) (now : Duration) (p : Pending) (s : Service)
    : (s.proceed wall now p).2.bench.control
      = (Load.Task.run p.number 4 p.task s.bench.control).2 := by
  have goes := proceeds wall now p s
  generalize s.proceed wall now p = result at goes ⊢
  cases goes with
  | answer moved => rw [control_conclude, moved, withControl]
  | wait moved => rw [moved, withControl]

/-- An order that waits again waits with the stage that its task has come to. -/
theorem stage_of_proceed (waits : (s.proceed wall now p).1 = .waiting later)
    : (Load.Task.run p.number 4 p.task s.bench.control).1 = .stage later.task
      ∧ later.number = p.number := by
  have goes := proceeds wall now p s
  generalize s.proceed wall now p = result at goes waits
  cases goes with
  | answer => exact absurd waits conclude_ne_waiting
  | wait moved =>
      cases waits
      rw [moved]
      exact ⟨rfl, rfl⟩

/-- A request that is given up does to load control what dropping its task does. -/
theorem control_abandon (wall : WallClock) (now : Duration) (p : Pending) (s : Service)
    : (s.abandon wall now p).bench.control = p.task.drop s.bench.control :=
  control_completeCall wall now p.startedAt p.request _ (s.withControl _)

/-- What is due moves the bench by its own steps, and the observatory changes under it. What
these keep is kept.
-/
theorem settle_keeps (holds : Load.Bench → Prop) (surroundings : Load.Surroundings)
    (now : Duration)
    (advances : ∀ b due, holds b → holds (b.advance surroundings now due))
    (settles : ∀ b, holds b → holds (b.settle surroundings now))
    (reports : ∀ b o, holds b → holds { b with observatory := o })
    (held : holds s.bench)
    : holds (s.settle surroundings now).bench := by
  unfold settle
  split
  · exact settles _ held
  · exact settles _ (reports _ _ (advances _ _ held))

end Control

end Service

end CallWatch

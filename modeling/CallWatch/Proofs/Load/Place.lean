import CallWatch.Proofs.Load.Underway

/-! What a run does at an instant is done by moves.
A place holds one run among the others. Moves find the run by its number, so they reach the
run in the place and leave the others alone.
-/

namespace CallWatch.Load

open Control

def Run.staffed (terms : Terms) (workers : List Worker) (r : Run) : Run :=
  { r with launched := some (terms, workers) }

@[simp] theorem Run.worker?_staffed (terms : Terms) (ahead behind : List Worker) (w : Worker)
    (r : Run)
    : (r.staffed terms (ahead ++ w :: behind)).worker? ahead.length = some (terms, w) := by
  simp [worker?, staffed]

@[simp] theorem Run.setWorker_staffed (terms : Terms) (ahead behind : List Worker)
    (w next : Worker) (r : Run)
    : (r.staffed terms (ahead ++ w :: behind)).setWorker ahead.length next
      = r.staffed terms (ahead ++ next :: behind) := by
  simp [setWorker, staffed]

/-- A call that is not over does not complete. -/
theorem Worker.land_early {w : Worker} {now : Duration}
    (early : ∀ wake, w.wake? = some wake → ¬ wake ≤ now) (surroundings : Surroundings)
    (o : Observatory)
    : w.land surroundings now o = (w, o) := by
  simp only [land]
  split
  · next calling => exact if_neg (early _ (by simp only [wake?, calling]))
  · rfl

/-- A worker that is not about to look does not. -/
theorem Worker.look_elsewhere {w : Worker} (elsewhere : w.activity ≠ .looking) (terms : Terms)
    (flag : Bool) (now : Duration)
    : w.look terms flag now = w := by
  cases activity : w.activity with
  | looking => exact absurd activity elsewhere
  | calling | done => simp only [look, activity]

namespace Floor

def OfRuns (_ : Floor) (move : Move) : Prop :=
  move.run?.isSome = true

/-- The floors that can be reached by moves of runs at one instant. -/
inductive MovesAt (surroundings : Surroundings) (now : Duration) (f : Floor) : Floor → Prop
  | refl : MovesAt surroundings now f f
  | tail {g h : Floor} {move : Move} (before : MovesAt surroundings now f g)
    (own : move.run?.isSome = true) (moved : g.step? surroundings now move = some h)
    : MovesAt surroundings now f h

namespace MovesAt
variable {surroundings : Surroundings} {now : Duration} {f g h : Floor}

/-- A move of a run is one step of such moves. -/
theorem of_moved {move : Move} (moved : f.step? surroundings now move = some g)
    (own : move.run?.isSome = true)
    : MovesAt surroundings now f g :=
  refl.tail own moved

/-- Moves go on from where others have got, by induction on them. -/
theorem trans (first : MovesAt surroundings now f g) (second : MovesAt surroundings now g h)
    : MovesAt surroundings now f h := by
  induction second with
  | refl => exact first
  | tail _ own moved ih => exact ih.tail own moved

/-- Moves of runs are a history of such moves, by induction on them. -/
theorem reaches (moves : MovesAt surroundings now f g)
    : Reaches surroundings OfRuns f g := by
  induction moves with
  | refl => exact .refl
  | tail _ own moved ih => exact ih.tail own moved

end MovesAt

/-- The place of a run on a floor, with the others around it, none of which has its number. -/
structure Place where
  floor : Floor
  before : List Run
  after : List Run
  number : Nat
  alone : ∀ r ∈ before ++ after, r.number ≠ number

namespace Place

/-- The floor with a run in the place. -/
def holding (p : Place) (r : Run) (o : Observatory) : Floor :=
  ⟨⟨{ p.floor.control with runs := p.before ++ r :: p.after }, o⟩, p.floor.requests⟩

variable {p : Place} {r : Run} (named : r.number = p.number) (o : Observatory)
include named

/-- A look-up by number finds the run in the place. -/
theorem run?_holding
    : (p.holding r o).control.run? p.number = some r := by
  have elsewhere : p.before.find? (fun s => s.number = p.number) = none := by
    rw [List.find?_eq_none]
    intro s member
    simpa using p.alone s (List.mem_append_left _ member)
  simp [holding, control, Control.run?, List.find?_append, elsewhere, named]

/-- A change to the run of the number changes the run in the place only. -/
theorem onRun_holding (f : Run → Run)
    : (p.holding r o).withControl ((p.holding r o).control.onRun p.number f)
      = p.holding (f r) o := by
  have same : ∀ s ∈ p.before ++ p.after, (if s.number = p.number then f s else s) = s := by
    intro s member
    exact if_neg (p.alone s member)
  have before := List.map_congr_left fun s member => same s (List.mem_append_left _ member)
  have after := List.map_congr_left fun s member => same s (List.mem_append_right _ member)
  simp [holding, control, withControl, onRun, named, before, after]

variable (surroundings : Surroundings) (now : Duration)

/-- Launching the run in the place, if it waits for it, is a move. -/
theorem moves_launch
    : MovesAt surroundings now (p.holding r o) (p.holding (r.launch now) o) := by
  cases waiting : r.waiting with
  | false =>
      rw [Run.launch_eq_self waiting]
      exact .refl
  | true =>
      have moved :
          (p.holding r o).step? surroundings now (.launch p.number)
            = some (p.holding (r.launch now) o) := by
        simp [step?, run?_holding named, waiting, onRun_holding named]
      exact MovesAt.of_moved moved rfl

section Workers
variable (terms : Terms) (ahead behind : List Worker) (w : Worker)

omit surroundings now in
/-- A look-up of a worker of the run in the place finds it. -/
theorem worker?_holding
    : (p.holding (r.staffed terms (ahead ++ w :: behind)) o).worker? p.number ahead.length
      = some (terms, w) := by
  rw [worker?, run?_holding (r := r.staffed terms (ahead ++ w :: behind)) named]
  exact Run.worker?_staffed terms ahead behind w r

omit surroundings now in
/-- A change to a worker of the run in the place changes that worker only. -/
theorem withWorker_holding (next : Worker)
    : (p.holding (r.staffed terms (ahead ++ w :: behind)) o).withWorker p.number ahead.length
          next
      = p.holding (r.staffed terms (ahead ++ next :: behind)) o := by
  rw [withWorker, onRun_holding (r := r.staffed terms (ahead ++ w :: behind)) named,
    Run.setWorker_staffed]

/-- A call of a worker completes by a move, if it is over. -/
theorem moves_land
    : MovesAt surroundings now (p.holding (r.staffed terms (ahead ++ w :: behind)) o)
        (p.holding (r.staffed terms (ahead ++ (w.land surroundings now o).1 :: behind))
          (w.land surroundings now o).2) := by
  by_cases due : ∃ wake, w.wake? = some wake ∧ wake ≤ now
  · obtain ⟨wake, calling, passed⟩ := due
    have moved :
        (p.holding (r.staffed terms (ahead ++ w :: behind)) o).step? surroundings now
            (.land p.number ahead.length)
          = some (p.holding
              (r.staffed terms (ahead ++ (w.land surroundings now o).1 :: behind))
              (w.land surroundings now o).2) := by
      simp only [step?, worker?_holding named, Option.bind_some, calling, passed, if_true,
        withWorker_holding named]
      rfl
    exact MovesAt.of_moved moved rfl
  · rw [Worker.land_early (by simpa using due)]
    exact .refl

/-- A worker looks by a move, if it is about to. -/
theorem moves_look
    : MovesAt surroundings now (p.holding (r.staffed terms (ahead ++ w :: behind)) o)
        (p.holding
          (r.staffed terms (ahead ++ w.look terms p.floor.control.flag now :: behind)) o) := by
  by_cases looking : w.activity = .looking
  · have moved :
        (p.holding (r.staffed terms (ahead ++ w :: behind)) o).step? surroundings now
            (.look p.number ahead.length)
          = some (p.holding
              (r.staffed terms (ahead ++ w.look terms p.floor.control.flag now :: behind))
              o) := by
      simp only [step?, worker?_holding named, Option.bind_some, looking, if_true,
        withWorker_holding named]
      rfl
    exact MovesAt.of_moved moved rfl
  · rw [Worker.look_elsewhere looking]
    exact .refl

/-- What a worker does at an instant is at most two moves. -/
theorem moves_advanceWorker
    : MovesAt surroundings now (p.holding (r.staffed terms (ahead ++ w :: behind)) o)
        (p.holding
          (r.staffed terms
            (ahead ++ (w.advance surroundings terms p.floor.control.flag now o).1 :: behind))
          (w.advance surroundings terms p.floor.control.flag now o).2) := by
  have landed := moves_land named o surroundings now terms ahead behind w
  simp only [Worker.advance]
  exact landed.trans (moves_look named _ surroundings now terms ahead behind _)

end Workers

/-- What the workers of a run do at an instant is done by moves, by induction on the
workers; those ahead have moved already.
-/
theorem moves_advanceWorkers (terms : Terms) (due : Worker → Bool)
    (ahead behind : List Worker)
    : let advanced :=
        Run.advanceWorkers surroundings terms p.floor.control.flag now due behind o
      MovesAt surroundings now (p.holding (r.staffed terms (ahead ++ behind)) o)
        (p.holding (r.staffed terms (ahead ++ advanced.1)) advanced.2) := by
  induction behind generalizing ahead o with
  | nil => exact .refl
  | cons w rest ih =>
      let moved :=
        if due w then w.advance surroundings terms p.floor.control.flag now o else (w, o)
      have first :
          MovesAt surroundings now (p.holding (r.staffed terms (ahead ++ w :: rest)) o)
            (p.holding (r.staffed terms (ahead ++ moved.1 :: rest)) moved.2) := by
        by_cases its : due w = true
        · simpa only [moved, if_pos its] using
            moves_advanceWorker named o surroundings now terms ahead rest w
        · simpa only [moved, if_neg its] using MovesAt.refl
      have others := ih moved.2 (ahead ++ [moved.1])
      simp only [List.append_assoc, List.singleton_append] at others
      exact first.trans others

/-- What a run does at an instant is done by moves. -/
theorem moves_advance (due : Worker → Bool)
    : let advanced := r.advance surroundings p.floor.control.flag now due o
      MovesAt surroundings now (p.holding r o) (p.holding advanced.1 advanced.2) := by
  obtain ⟨number, profile, launched, lowered, brokenOff⟩ := r
  cases launched with
  | none => exact .refl
  | some launched =>
      obtain ⟨terms, workers⟩ := launched
      exact moves_advanceWorkers named o surroundings now terms due [] workers

end Place

end Floor

end CallWatch.Load

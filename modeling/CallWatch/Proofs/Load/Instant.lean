import CallWatch.Proofs.Load.Place
import CallWatch.Proofs.Load.Standing

/-! All that happens to the bench at an instant is a history of moves: the runs are launched,
their workers move on, and those whose workers are all done end.
-/

namespace CallWatch.Load

open Control

-----------------------------------------------------------------------------------------
-- Runs in order
-----------------------------------------------------------------------------------------

/-- What tells a run from the others, and whether it has lowered the flag. -/
def Run.mark (r : Run) : Nat × Bool :=
  (r.number, r.lowered)

/-- Whatever all runs do at an instant, their marks stay. -/
theorem Bench.mark_advanceRuns (surroundings : Surroundings) (flag : Bool) (now : Duration)
    (due : Worker → Bool) (runs : List Run) (o : Observatory)
    : (advanceRuns surroundings flag now due runs o).1.map Run.mark = runs.map Run.mark := by
  induction runs generalizing o with
  | nil => rfl
  | cons r rest ih => simp [advanceRuns, Run.mark, ih]

namespace Control

/-- What holds of the runs between two instants: they are numbered, no two alike, and one that
has lowered the flag is gone.
-/
structure Orderly (c : Control) : Prop where
  numbered : ∀ r ∈ c.runs, r.number < c.nextRun
  distinct : (c.runs.map Run.number).Nodup
  up : ∀ r ∈ c.runs, r.lowered = false

theorem idle_orderly
    : idle.Orderly := by
  constructor <;> simp [idle]

/-- Runs with the same marks are in order too. -/
theorem Orderly.of_marks {c d : Control} (h : c.Orderly)
    (marks : d.runs.map Run.mark = c.runs.map Run.mark) (nextRun : d.nextRun = c.nextRun)
    : d.Orderly := by
  have known : ∀ r ∈ d.runs, ∃ s ∈ c.runs, s.mark = r.mark := by
    intro r member
    exact List.mem_map.mp (marks ▸ List.mem_map_of_mem member)
  have numbers : d.runs.map Run.number = c.runs.map Run.number := by
    simpa [Run.mark, Function.comp_def] using congrArg (List.map Prod.fst) marks
  constructor
  · intro r member
    obtain ⟨s, inRuns, same⟩ := known r member
    obtain ⟨named, -⟩ := Prod.mk.inj same
    exact nextRun ▸ named ▸ h.numbered s inRuns
  · exact numbers ▸ h.distinct
  · intro r member
    obtain ⟨s, inRuns, same⟩ := known r member
    obtain ⟨-, lowered⟩ := Prod.mk.inj same
    exact lowered ▸ h.up s inRuns

/-- Some of the runs are in order if all are. -/
theorem Orderly.of_sublist {c d : Control} (h : c.Orderly) (fewer : d.runs.Sublist c.runs)
    (nextRun : d.nextRun = c.nextRun)
    : d.Orderly :=
  ⟨fun r member => nextRun ▸ h.numbered r (fewer.subset member),
    h.distinct.sublist (fewer.map _), fun r member => h.up r (fewer.subset member)⟩

/-- A step of a task leaves the runs in order: one that begins has a new number. -/
theorem Orderly.step? {id : Nat} {c next : Control} (h : c.Orderly) {task : Task}
    {progress : Progress} (moved : task.step? id c = some (progress, next))
    : next.Orderly := by
  rcases Task.step?_runs moved with ⟨fewer, nextRun, -⟩ | ⟨profile, runs, nextRun⟩
  · exact h.of_sublist fewer nextRun
  · constructor
    · rw [runs, nextRun]
      exact numbered_spawn h.numbered profile
    · rw [runs]
      exact distinct_spawn h.numbered h.distinct profile
    · intro r member
      rcases List.mem_append.mp (runs ▸ member) with old | new
      · exact h.up r old
      · rw [List.mem_singleton.mp new]
        rfl

/-- A look-up by number finds what a change has made of the run. -/
theorem run?_onRun (c : Control) (number : Nat) {f : Run → Run}
    (sameNumber : ∀ r, (f r).number = r.number)
    : (c.onRun number f).run? number = (c.run? number).map f := by
  have kept : ∀ r, ((if r.number = number then f r else r).number = number)
      ↔ r.number = number := by
    intro r
    split <;> simp [sameNumber]
  simp only [run?, onRun, List.find?_map, Function.comp_def, kept]
  cases found : c.runs.find? fun r => r.number = number with
  | none => rfl
  | some r =>
      have named : r.number = number := by simpa using List.find?_some found
      simp [named]

/-- A run that ends is gone, and all others are as before. -/
theorem runs_finish (number : Nat) (c : Control)
    : (c.finish number).runs = c.runs.filter fun r => r.number ≠ number := by
  have kept : ∀ r : Run,
      (if r.number = number then { r with lowered := true } else r).number = r.number := by
    intro r
    split <;> rfl
  simp only [finish, retire, lower, onRun, List.filter_map, Function.comp_def, kept]
  refine (List.map_congr_left fun r member => ?_).trans (List.map_id _)
  exact if_neg (by simpa using (List.mem_filter.mp member).2)

end Control

namespace Floor

-----------------------------------------------------------------------------------------
-- All runs at an instant
-----------------------------------------------------------------------------------------

def withRuns (runs : List Run) (o : Observatory) (f : Floor) : Floor :=
  ⟨⟨{ f.control with runs }, o⟩, f.requests⟩

/-- The place of a run among runs of other numbers. -/
def place (f : Floor) {before after : List Run} {r : Run}
    (distinct : ((before ++ r :: after).map Run.number).Nodup) : Place where
  floor := f
  before := before
  after := after
  number := r.number
  alone := by
    intro s member same
    rw [List.map_append, List.map_cons, List.nodup_middle, List.nodup_cons] at distinct
    exact distinct.1 (by rw [← List.map_append, ← same]; exact List.mem_map_of_mem member)

variable (surroundings : Surroundings) (now : Duration) (f : Floor)

/-- Launching all runs is a history of moves, by induction on the runs; those before have
been launched already.
-/
theorem moves_launchRuns (o : Observatory) (before after : List Run)
    (distinct : ((before ++ after).map Run.number).Nodup)
    : MovesAt surroundings now (f.withRuns (before ++ after) o)
        (f.withRuns (before ++ after.map (Run.launch now)) o) := by
  induction after generalizing before with
  | nil => exact .refl
  | cons r rest ih =>
      have first :=
        Place.moves_launch (p := f.place distinct) rfl o surroundings now
      have others := ih (before ++ [r.launch now]) (by simpa using distinct)
      simp only [List.append_assoc, List.singleton_append] at others
      exact first.trans others

/-- What all runs do at an instant is a history of moves, by induction on the runs; those
before have moved already.
-/
theorem moves_advanceRuns (due : Worker → Bool) (o : Observatory) (before after : List Run)
    (distinct : ((before ++ after).map Run.number).Nodup)
    : let advanced := Bench.advanceRuns surroundings f.control.flag now due after o
      MovesAt surroundings now (f.withRuns (before ++ after) o)
        (f.withRuns (before ++ advanced.1) advanced.2) := by
  induction after generalizing before o with
  | nil => exact .refl
  | cons r rest ih =>
      have first :=
        Place.moves_advance (p := f.place distinct) rfl o surroundings now due
      have others :=
        ih (r.advance surroundings f.control.flag now due o).2
          (before ++ [(r.advance surroundings f.control.flag now due o).1])
          (by simpa using distinct)
      simp only [List.append_assoc, List.singleton_append] at others
      exact first.trans others

-----------------------------------------------------------------------------------------
-- The end of an instant
-----------------------------------------------------------------------------------------

/-- An exhausted run ends by two moves: it lowers the flag and retires. -/
theorem moves_finish (orderly : f.control.Orderly) {r : Run} (member : r ∈ f.control.runs)
    (exhausted : r.exhausted = true)
    : MovesAt surroundings now f (f.withControl (f.control.finish r.number)) := by
  have found : f.control.run? r.number = some r := run?_of_mem orderly.distinct member
  have lowering :
      f.step? surroundings now (.lower r.number)
        = some (f.withControl (f.control.lower r.number)) := by
    simp [step?, found, exhausted, orderly.up r member]
  have last :
      (f.control.onRun r.number fun r => { r with lowered := true }).run? r.number
        = some { r with lowered := true } := by
    rw [run?_onRun _ _ (f := fun r => { r with lowered := true }) fun _ => rfl, found,
      Option.map_some]
  have retiring :
      (f.withControl (f.control.lower r.number)).step? surroundings now (.retire r.number)
        = some (f.withControl (f.control.finish r.number)) := by
    show Option.bind
        ((f.control.onRun r.number fun r => { r with lowered := true }).run? r.number) _ = _
    rw [last]
    rfl
  exact (MovesAt.of_moved lowering rfl).trans (MovesAt.of_moved retiring rfl)

/-- Exhausted runs end by moves, and the others stay in order; by induction on the runs that
end.
-/
theorem moves_finishAll (gone : List Run) (orderly : f.control.Orderly)
    (members : ∀ r ∈ gone, r ∈ f.control.runs ∧ r.exhausted = true)
    (apart : (gone.map Run.number).Nodup)
    : let c := gone.foldl (fun c r => c.finish r.number) f.control
      MovesAt surroundings now f (f.withControl c) ∧ c.Orderly := by
  induction gone generalizing f with
  | nil => exact ⟨.refl, orderly⟩
  | cons r rest ih =>
      obtain ⟨member, exhausted⟩ := members r (.head _)
      obtain ⟨alone, apart⟩ := List.nodup_cons.mp apart
      have kept := runs_finish r.number f.control
      have after : (f.control.finish r.number).Orderly :=
        orderly.of_sublist (kept ▸ List.filter_sublist) rfl
      have left : ∀ s ∈ rest, s ∈ (f.control.finish r.number).runs ∧ s.exhausted = true := by
        intro s later
        obtain ⟨inRuns, spent⟩ := members s (.tail _ later)
        rw [kept]
        refine ⟨List.mem_filter.mpr ⟨inRuns, decide_eq_true fun same => ?_⟩, spent⟩
        exact alone (same ▸ List.mem_map_of_mem later)
      obtain ⟨others, last⟩ :=
        ih (f.withControl (f.control.finish r.number)) after left apart
      exact ⟨(moves_finish surroundings now f orderly member exhausted).trans others, last⟩

/-- What the due workers do at an instant is a history of moves, and leaves the runs in
order.
-/
theorem moves_advance (orderly : f.control.Orderly) (due : Worker → Bool)
    : let bench := f.bench.advance surroundings now due
      MovesAt surroundings now f { f with bench } ∧ bench.control.Orderly :=
  ⟨moves_advanceRuns surroundings now f due f.bench.observatory [] f.control.runs
      orderly.distinct,
    orderly.of_marks (Bench.mark_advanceRuns surroundings f.control.flag now due _ _) rfl⟩

/-- All that happens at an instant is a history of moves of the runs, and leaves them in
order.
-/
theorem moves_settle (orderly : f.control.Orderly)
    : let bench := f.bench.settle surroundings now
      MovesAt surroundings now f { f with bench } ∧ bench.control.Orderly := by
  let launched := f.withControl (f.control.launch now)
  have launches : MovesAt surroundings now f launched :=
    moves_launchRuns surroundings now f f.bench.observatory [] f.control.runs orderly.distinct
  have launchedOrderly : launched.control.Orderly :=
    orderly.of_marks (by simp [launched, withControl, control, Run.mark]) rfl
  obtain ⟨advances, advancedOrderly⟩ :=
    moves_advance surroundings now launched launchedOrderly fun _ => true
  let advanced : Floor :=
    { launched with bench := launched.bench.advance surroundings now fun _ => true }
  obtain ⟨ends, settled⟩ :=
    moves_finishAll surroundings now advanced (advanced.control.runs.filter Run.exhausted)
      advancedOrderly
      (fun r member => List.mem_filter.mp member)
      (advancedOrderly.distinct.sublist (List.filter_sublist.map _))
  exact ⟨(launches.trans advances).trans ends, settled⟩

/-- What the due workers do at an instant is a history of moves of the runs. -/
theorem reaches_advance (orderly : f.control.Orderly) (due : Worker → Bool)
    : let bench := f.bench.advance surroundings now due
      Reaches surroundings OfRuns f { f with bench } ∧ bench.control.Orderly := by
  obtain ⟨moves, after⟩ := moves_advance surroundings now f orderly due
  exact ⟨moves.reaches, after⟩

/-- All that happens at an instant is a history of moves of the runs. -/
theorem reaches_settle (orderly : f.control.Orderly)
    : let bench := f.bench.settle surroundings now
      Reaches surroundings OfRuns f { f with bench } ∧ bench.control.Orderly := by
  obtain ⟨moves, after⟩ := moves_settle surroundings now f orderly
  exact ⟨moves.reaches, after⟩

end Floor

end CallWatch.Load

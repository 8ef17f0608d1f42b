import CallWatch.Proofs.Observation.Entries
import CallWatch.Reporter.Loop

/-! A reporter on its shift.
Others move the clock, count calls and set the signal while the loop makes its moves. A poll
takes no time: once woken, the loop moves until nothing is left to do at that instant, and the
clock moves on only while the loop rests or after it has returned. How late a poll comes, what
others do between its moves, and which of two possible moves is made are open.
-/

namespace CallWatch.Reporter

-----------------------------------------------------------------------------------------
-- Moves of the loop
-----------------------------------------------------------------------------------------

namespace Loop

/-- The moves of a loop, with all that each of them needs and does. -/
inductive Moves (now : Duration) (l : Loop) : Branch → Bool → Loop → Prop
  /-- At its top the loop looks at the signal. -/
  | look (branch : Branch) (top : l.place = .top)
    : Moves now l branch false
        ⟨if l.signal.value then .stopped else .waiting, { l.signal with fresh := false },
          l.schedule⟩
  /-- The signal has been set since the loop last looked. -/
  | hear (waiting : l.place = .waiting) (fresh : l.signal.fresh = true)
    : Moves now l .signal false ⟨.top, { l.signal with fresh := false }, l.schedule⟩
  /-- Nobody is left who could set the signal. -/
  | quit (waiting : l.place = .waiting) (old : l.signal.fresh = false)
    (unheld : l.signal.held = false)
    : Moves now l .signal false ⟨.stopped, l.signal, l.schedule⟩
  /-- The next tick is due. -/
  | tick (waiting : l.place = .waiting) (due : l.schedule.due ≤ now)
    : Moves now l .tick true ⟨.top, l.signal, l.schedule.fire now⟩

/-- A step of a loop is one of its moves, by cases on where the loop stands. -/
theorem step?_eq_some_iff {now : Duration} {branch : Branch} {l next : Loop} {fired : Bool}
    : l.step? now branch = some (fired, next) ↔ l.Moves now branch fired next := by
  constructor
  · intro moved
    obtain ⟨place, signal, schedule⟩ := l
    cases place with
    | stopped => cases moved
    | top =>
        cases moved
        exact .look branch rfl
    | waiting =>
        cases branch with
        | signal =>
            simp only [step?] at moved
            split at moved
            · next fresh =>
              cases moved
              exact .hear rfl fresh
            · next old =>
              split at moved
              · cases moved
              · next unheld =>
                cases moved
                exact .quit rfl (by simpa using old) (by simpa using unheld)
        | tick =>
            simp only [step?] at moved
            split at moved
            · next due =>
              cases moved
              exact .tick rfl due
            · cases moved
  · intro moves
    cases moves with
    | look branch top => simp [step?, top]
    | hear waiting fresh => simp [step?, waiting, fresh]
    | quit waiting old unheld => simp [step?, waiting, old, unheld]
    | tick waiting due => simp [step?, waiting, due]

/-- A loop is idle if it has not returned and no move is possible. -/
def idle (now : Duration) (l : Loop) : Bool :=
  l.running && (l.step? now .signal).isNone && (l.step? now .tick).isNone

/-- An idle loop waits for a signal that may still be set and for a tick that is not due. -/
theorem idle_iff {now : Duration} {l : Loop}
    : l.idle now = true
      ↔ l.place = .waiting ∧ l.signal.fresh = false ∧ l.signal.held = true
        ∧ now < l.schedule.due := by
  obtain ⟨place, ⟨value, fresh, held⟩, schedule⟩ := l
  have notDue : ¬ schedule.due ≤ now ↔ now < schedule.due := Nat.not_le
  cases place <;> cases fresh <;> cases held <;> simp [idle, running, step?, ← notDue]

@[simp] theorem place_send (value : Bool) (l : Loop)
    : (l.send value).2.place = l.place := by
  unfold send
  split <;> rfl

@[simp] theorem schedule_send (value : Bool) (l : Loop)
    : (l.send value).2.schedule = l.schedule := by
  unfold send
  split <;> rfl

@[simp] theorem held_send (value : Bool) (l : Loop)
    : (l.send value).2.signal.held = l.signal.held := by
  unfold send
  split <;> rfl

@[simp] theorem running_send (value : Bool) (l : Loop)
    : (l.send value).2.running = l.running := by
  simp [running]

end Loop

-----------------------------------------------------------------------------------------
-- Events of a shift
-----------------------------------------------------------------------------------------

/-- What can happen on a shift. -/
inductive ShiftEvent where
  /-- The clock moves on, by a step or past any number of deadlines. -/
  | clock (now : Duration)
  /-- A finished call is counted. -/
  | record (call : FinishedCall)
  /-- The signal is set. -/
  | send (value : Bool)
  /-- The other end of the signal is let go of. -/
  | release
  /-- The loop makes a move. -/
  | move (branch : Branch)
  /-- The loop finds nothing to do and rests until it is woken. -/
  | rest
  /-- The loop has returned, and whoever has waited for that goes on. Shutting down a reporter
  is to set the signal and then to wait for this.
  -/
  | joined

namespace ShiftEvent

def isClock : ShiftEvent → Bool
  | .clock _ => true
  | _ => false

def isSend : ShiftEvent → Bool
  | .send _ => true
  | _ => false

def isMove : ShiftEvent → Bool
  | .move _ => true
  | _ => false

def call? : ShiftEvent → Option FinishedCall
  | .record call => some call
  | _ => none

end ShiftEvent

/-- The calls that are counted in a history. -/
def countedOn (history : List ShiftEvent) : List FinishedCall :=
  history.filterMap ShiftEvent.call?

/-- A tick that has fired, with the collector at that instant. -/
structure Tick where
  instant : Duration
  collector : Option Collector

/-- The lines that a tick has to add: the record of a snapshot, if it has any method. -/
def Tick.lines (wall : WallClock) (t : Tick) : List String :=
  match t.collector with
  | some c =>
    if c.rows = [] then [] else [(Record.snapshot ⟨(wall t.instant).fullText, c.rows⟩).line]
  | none => []

/-- A reporter on its shift: the clock, and whether the loop rests. -/
structure Shift where
  now : Duration
  resting : Bool
  reporting : Reporting

namespace Shift

/-- The shift of a reporter that is polled for the first time. If that breaks off at once, the loop
has returned.
-/
def start (now period : Duration) (value : Bool) (o : Observatory) : Shift :=
  ⟨now, false, .start now period value o⟩

def loop (s : Shift) : Loop :=
  s.reporting.loop

def observatory (s : Shift) : Observatory :=
  s.reporting.observatory

def withLoop (l : Loop) (s : Shift) : Shift :=
  { s with reporting := { s.reporting with loop := l } }

def count (call : FinishedCall) (s : Shift) : Shift :=
  let o := s.observatory
  let collector := o.collector.map fun c => c.recordCall call
  { s with reporting := ⟨s.loop, { o with collector }⟩ }

/-- The shift after a move of the loop, which reports if a tick fired. -/
def moved (wall : WallClock) (fired : Bool) (l : Loop) (s : Shift) : Shift :=
  let o := if fired then (report wall s.now s.observatory).2 else s.observatory
  ⟨s.now, false, ⟨l, o⟩⟩

/-- One event, if it is possible, and the tick that fires with it. -/
def step? (wall : WallClock) (s : Shift) : ShiftEvent → Option (Option Tick × Shift)
  | .clock now =>
    if (s.resting || !s.loop.running) && s.now ≤ now then some (none, { s with now })
    else none
  | .record call => some (none, s.count call)
  | .send value =>
    if s.loop.signal.held then some (none, s.withLoop (s.loop.send value).2) else none
  | .release => some (none, s.withLoop s.loop.release)
  | .move branch =>
    (s.loop.step? s.now branch).map fun (fired, l) =>
      (if fired then some ⟨s.now, s.observatory.collector⟩ else none, s.moved wall fired l)
  | .rest => if s.loop.idle s.now then some (none, { s with resting := true }) else none
  | .joined => if s.loop.running then none else some (none, s)

/-- The events of a history one after another, if they are possible: the ticks that fire, and
the shift at the end.
-/
def run? (wall : WallClock) : List ShiftEvent → Shift → Option (List Tick × Shift)
  | [], s => some ([], s)
  | event :: rest, s =>
    (s.step? wall event).bind fun (tick?, next) =>
      (run? wall rest next).map fun (ticks, last) => (tick?.toList ++ ticks, last)

-----------------------------------------------------------------------------------------
-- What an event leaves alone
-----------------------------------------------------------------------------------------

section Fields
variable (s : Shift) (l : Loop) (call : FinishedCall) (wall : WallClock) (fired : Bool)

@[simp] theorem withLoop_loop : (s.withLoop l).loop = l := rfl

theorem count_observatory
    : (s.count call).observatory
      = ⟨s.observatory.collector.map fun c => c.recordCall call, s.observatory.journal⟩ := rfl

@[simp] theorem count_collector
    : (s.count call).observatory.collector
      = s.observatory.collector.map fun c => c.recordCall call := rfl

@[simp] theorem moved_loop : (s.moved wall fired l).loop = l := rfl

@[simp] theorem moved_resting : (s.moved wall fired l).resting = false := rfl

@[simp] theorem moved_observatory_of_not_fired
    : (s.moved wall false l).observatory = s.observatory := rfl

end Fields

/-- A report adds the lines of its tick. -/
theorem lines_report (wall : WallClock) (now : Duration) (o : Observatory)
    : (report wall now o).2.lines = o.lines ++ Tick.lines wall ⟨now, o.collector⟩ := by
  obtain ⟨collector, journal⟩ := o
  cases collector with
  | none => simp [report, Tick.lines]
  | some c =>
      by_cases none : c.rows = [] <;>
        simp [report, Tick.lines, Observatory.emit, Record.ofSnapshot?, Snapshot.isEmpty,
          Collector.snapshot, Observatory.lines, none]

/-- A report leaves the collector alone. -/
theorem collector_report (wall : WallClock) (now : Duration) (o : Observatory)
    : (report wall now o).2.collector = o.collector := by
  obtain ⟨collector, journal⟩ := o
  cases collector with
  | none => rfl
  | some c =>
      by_cases none : c.rows = [] <;>
        simp [report, Observatory.emit, Record.ofSnapshot?, Snapshot.isEmpty,
          Collector.snapshot, none]

/-- It is all that a report takes down. -/
theorem enters_report {kind : String → Prop} (wall : WallClock) (now : Duration) (o : Observatory)
    : o.Enters kind (report wall now o).2 := by
  unfold report
  split
  · next c _ => exact Observatory.enters_emit _
  · exact .refl

@[simp] theorem moved_lines_of_fired (s : Shift) (l : Loop) (wall : WallClock)
    : (s.moved wall true l).observatory.lines
      = s.observatory.lines ++ Tick.lines wall ⟨s.now, s.observatory.collector⟩ :=
  lines_report wall s.now s.observatory

@[simp] theorem moved_collector (s : Shift) (l : Loop) (wall : WallClock) (fired : Bool)
    : (s.moved wall fired l).observatory.collector = s.observatory.collector := by
  cases fired with
  | false => rfl
  | true => exact collector_report wall s.now s.observatory

-----------------------------------------------------------------------------------------
-- Steps
-----------------------------------------------------------------------------------------

/-- The steps of a shift, with all that each of them needs and does. -/
inductive Steps (wall : WallClock) (s : Shift) : ShiftEvent → Option Tick → Shift → Prop
  | clock (now : Duration) (free : s.resting = true ∨ s.loop.running = false)
    (later : s.now ≤ now)
    : Steps wall s (.clock now) none { s with now }
  | record (call : FinishedCall) : Steps wall s (.record call) none (s.count call)
  | send (value : Bool) (held : s.loop.signal.held = true)
    : Steps wall s (.send value) none (s.withLoop (s.loop.send value).2)
  | release : Steps wall s .release none (s.withLoop s.loop.release)
  | move (branch : Branch) (fired : Bool) (l : Loop) (moves : s.loop.Moves s.now branch fired l)
    : Steps wall s (.move branch)
        (if fired then some ⟨s.now, s.observatory.collector⟩ else none) (s.moved wall fired l)
  | rest (idle : s.loop.idle s.now = true) : Steps wall s .rest none { s with resting := true }
  | joined (returned : s.loop.running = false) : Steps wall s .joined none s

/-- An event that is possible is one of the steps, by cases on the event. -/
theorem step?_eq_some_iff {wall : WallClock} {s next : Shift} {event : ShiftEvent}
    {tick? : Option Tick}
    : s.step? wall event = some (tick?, next) ↔ Steps wall s event tick? next := by
  constructor
  · intro moved
    cases event with
    | record call =>
        cases moved
        exact .record call
    | release =>
        cases moved
        exact .release
    | clock now =>
        simp only [step?] at moved
        split at moved
        · next free =>
          cases moved
          simp only [Bool.and_eq_true, Bool.or_eq_true, Bool.not_eq_true',
            decide_eq_true_eq] at free
          exact .clock now free.1 free.2
        · cases moved
    | send value =>
        simp only [step?] at moved
        split at moved
        · next held =>
          cases moved
          exact .send value held
        · cases moved
    | move branch =>
        obtain ⟨⟨fired, l⟩, moves, same⟩ := Option.map_eq_some_iff.mp moved
        cases same
        exact .move branch fired l (Loop.step?_eq_some_iff.mp moves)
    | rest =>
        simp only [step?] at moved
        split at moved
        · next idle =>
          cases moved
          exact .rest idle
        · cases moved
    | joined =>
        simp only [step?] at moved
        split at moved
        · cases moved
        · next returned =>
          cases moved
          exact .joined (by simpa using returned)
  · intro steps
    cases steps with
    | clock now free later =>
        rcases free with resting | returned
        · simp [step?, resting, later]
        · simp [step?, returned, later]
    | record call => rfl
    | send value held => simp [step?, held]
    | release => rfl
    | move branch fired l moves =>
        simp [step?, Loop.step?_eq_some_iff.mpr moves]
    | rest idle => simp [step?, idle]
    | joined returned => simp [step?, returned]

-----------------------------------------------------------------------------------------
-- Histories
-----------------------------------------------------------------------------------------

section Histories
variable {wall : WallClock} {s last : Shift} {ticks : List Tick}

theorem run?_cons_eq_some_iff {event : ShiftEvent} {rest : List ShiftEvent}
    : s.run? wall (event :: rest) = some (ticks, last)
      ↔ ∃ tick? next later,
          Steps wall s event tick? next ∧ next.run? wall rest = some (later, last)
          ∧ ticks = tick?.toList ++ later := by
  simp only [run?, Option.bind_eq_some_iff, Option.map_eq_some_iff, Prod.exists, Prod.mk.injEq,
    step?_eq_some_iff]
  constructor
  · rintro ⟨tick?, next, steps, later, _, ran, rfl, rfl⟩
    exact ⟨tick?, next, later, steps, ran, rfl⟩
  · rintro ⟨tick?, next, later, steps, ran, rfl⟩
    exact ⟨tick?, next, steps, later, last, ran, rfl, rfl⟩

/-- A history of two parts goes on from where the first has got, by induction on the first. -/
theorem run?_append_eq_some_iff {before after : List ShiftEvent}
    : s.run? wall (before ++ after) = some (ticks, last)
      ↔ ∃ earlier middle later,
          s.run? wall before = some (earlier, middle)
          ∧ middle.run? wall after = some (later, last) ∧ ticks = earlier ++ later := by
  induction before generalizing s ticks with
  | nil => simp [run?]
  | cons event rest ih =>
      simp only [List.cons_append, run?_cons_eq_some_iff, ih]
      constructor
      · rintro ⟨tick?, next, _, steps, ⟨earlier, middle, later, first, second, rfl⟩, rfl⟩
        exact ⟨_, middle, later, ⟨tick?, next, earlier, steps, first, rfl⟩, second,
          (List.append_assoc ..).symm⟩
      · rintro ⟨_, middle, later, ⟨tick?, next, earlier, steps, first, rfl⟩, second, rfl⟩
        exact ⟨tick?, next, _, steps, ⟨earlier, middle, later, first, second, rfl⟩,
          List.append_assoc ..⟩

/-- What every event of some kind keeps is kept by a history of such events, by induction on
the history.
-/
theorem run?_preserves (keeps : Shift → Prop) (kind : ShiftEvent → Prop)
    (step : ∀ s event tick? next,
      kind event → Steps wall s event tick? next → keeps s → keeps next)
    {history : List ShiftEvent} (allowed : ∀ event ∈ history, kind event)
    (ran : s.run? wall history = some (ticks, last)) (holds : keeps s)
    : keeps last := by
  induction history generalizing s ticks with
  | nil =>
      cases ran
      exact holds
  | cons event rest ih =>
      obtain ⟨tick?, next, later, steps, others, -⟩ := run?_cons_eq_some_iff.mp ran
      rw [List.forall_mem_cons] at allowed
      exact ih allowed.2 others (step s event tick? next allowed.1 steps holds)

-----------------------------------------------------------------------------------------
-- Waking
-----------------------------------------------------------------------------------------

theorem settle_signal {now : Duration} {l next : Loop} {fired : Bool} (o : Observatory)
    (moved : l.step? now .signal = some (fired, next))
    : settle wall now l o = settle wall now next o := by
  rw [settle.eq_def]
  split
  · next found =>
    cases moved.symm.trans found
    rfl
  · next none => cases moved.symm.trans none

theorem settle_tick {now : Duration} {l next : Loop} {fired : Bool} (o : Observatory)
    (silent : l.step? now .signal = none) (moved : l.step? now .tick = some (fired, next))
    : settle wall now l o = settle wall now next (report wall now o).2 := by
  rw [settle.eq_def]
  split
  · next found => cases silent.symm.trans found
  · split
    · next found =>
      cases moved.symm.trans found
      rfl
    · next none => cases moved.symm.trans none

theorem settle_stuck {now : Duration} {l : Loop} (o : Observatory)
    (silent : l.step? now .signal = none) (early : l.step? now .tick = none)
    : settle wall now l o = (l, o) := by
  rw [settle.eq_def]
  split
  · next found => cases silent.symm.trans found
  · split
    · next found => cases early.symm.trans found
    · rfl

/-- A reporter that is woken takes down reports alone, by induction along its moves. -/
theorem enters_settle {kind : String → Prop} (wall : WallClock) (now : Duration) (l : Loop)
    (o : Observatory)
    : o.Enters kind (settle wall now l o).2 := by
  induction l, o using settle.induct wall now with
  | case1 l o fired next moved ih =>
      rw [settle_signal o moved]
      exact ih
  | case2 l o silent fired next moved ih =>
      rw [settle_tick o silent moved]
      exact (enters_report wall now o).trans ih
  | case3 l o silent early =>
      rw [settle_stuck o silent early]
      exact .refl

/-- A reporter that is woken makes moves of the loop, at the end of which it rests or has
returned; by induction along them.
-/
theorem settle_run (wall : WallClock) (now : Duration) (l : Loop) (o : Observatory)
    (resting : Bool)
    : ∃ (branches : List Branch) (ticks : List Tick) (last : Shift),
        run? wall (branches.map ShiftEvent.move) ⟨now, resting, ⟨l, o⟩⟩ = some (ticks, last)
        ∧ last.now = now
        ∧ (last.loop, last.observatory) = settle wall now l o
        ∧ (last.loop.running = true → last.loop.idle now = true) := by
  induction l, o using settle.induct wall now generalizing resting with
  | case1 l o fired next moved ih =>
      obtain ⟨branches, ticks, last, ran, same, settled, idle⟩ := ih false
      have moves := Loop.step?_eq_some_iff.mp moved
      have unfired : fired = false := by cases moves <;> rfl
      subst unfired
      refine ⟨.signal :: branches, ticks, last, ?_, same, ?_, idle⟩
      · exact run?_cons_eq_some_iff.mpr ⟨none, _, ticks, .move .signal false next moves, ran, rfl⟩
      · rw [settled, settle_signal o moved]
  | case2 l o silent fired next moved ih =>
      obtain ⟨branches, ticks, last, ran, same, settled, idle⟩ := ih false
      have moves := Loop.step?_eq_some_iff.mp moved
      cases moves with
      | look branch top => simp [Loop.step?, top] at silent
      | tick waiting due =>
          have steps : Steps wall ⟨now, resting, ⟨l, o⟩⟩ (.move .tick) _ _ :=
            .move .tick true _ (.tick waiting due)
          refine ⟨.tick :: branches, ⟨now, o.collector⟩ :: ticks, last, ?_, same, ?_, idle⟩
          · exact run?_cons_eq_some_iff.mpr ⟨_, _, ticks, steps, ran, rfl⟩
          · rw [settled, settle_tick o silent moved]
  | case3 l o silent early =>
      refine ⟨[], [], _, rfl, rfl, (settle_stuck o silent early).symm, fun running => ?_⟩
      have running : l.running = true := running
      change l.idle now = true
      simp [Loop.idle, running, silent, early]

end Histories

end Shift

end CallWatch.Reporter

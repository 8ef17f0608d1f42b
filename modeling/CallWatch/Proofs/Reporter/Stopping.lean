import CallWatch.Proofs.Reporter.Rhythm

/-! How a reporter is stopped.
Once the signal is up for good, or nobody is left who could set it, the loop has a few moves left
and at most one tick among them, whichever of two possible moves it takes. Nothing else stops a
loop, and one that has returned adds nothing.
-/

namespace CallWatch.Reporter

namespace Schedule

/-- With a period beyond the tolerance no two ticks fire at one instant. -/
theorem lt_fire {s : Schedule} {now : Duration} (long : tolerance < s.period)
    (due : s.due ≤ now)
    : now < (s.fire now).due := by
  have long := Duration.lt_iff.mp long
  have due := Duration.le_iff.mp due
  rw [Duration.lt_iff]
  unfold fire
  split
  · simp only [Duration.nanos_add]
    omega
  · next kept =>
    have kept : ¬ s.due.nanos + tolerance.nanos < now.nanos := kept
    simp only [Duration.nanos_add]
    omega

/-- The number of ticks that are due, if no two fire at one instant. -/
def ticksDue (now : Duration) (s : Schedule) : Nat :=
  if s.due ≤ now then 1 else 0

theorem ticksDue_le (now : Duration) (s : Schedule)
    : s.ticksDue now ≤ 1 := by
  unfold ticksDue
  split <;> simp

theorem ticksDue_of_due {now : Duration} {s : Schedule} (due : s.due ≤ now)
    : s.ticksDue now = 1 := if_pos due

theorem due_of_ticksDue {now : Duration} {s : Schedule} (left : 0 < s.ticksDue now)
    : s.due ≤ now := by
  by_contra early
  rw [ticksDue, if_neg early] at left
  cases left

theorem ticksDue_fire {now : Duration} {s : Schedule} (long : tolerance < s.period)
    (due : s.due ≤ now)
    : (s.fire now).ticksDue now = 0 :=
  if_neg (Nat.not_le.mpr (lt_fire long due))

end Schedule

/-- A loop has returned if it has come to its end. -/
theorem Loop.running_eq_false_iff {l : Loop}
    : l.running = false ↔ l.place = .stopped := by
  simp [running]

/-- A loop that has not returned and is not idle can make a move. -/
theorem Loop.exists_move {now : Duration} {l : Loop} (running : l.running = true)
    (busy : l.idle now = false)
    : ∃ branch moved, l.step? now branch = some moved := by
  simp only [idle, running, Bool.true_and, Bool.and_eq_false_iff, Option.isNone_eq_false_iff,
    Option.isSome_iff_exists] at busy
  rcases busy with signal | tick
  · exact ⟨.signal, signal⟩
  · exact ⟨.tick, tick⟩

/-- A tick adds one line at most. -/
theorem Tick.length_lines (wall : WallClock) (t : Tick)
    : (t.lines wall).length ≤ 1 := by
  unfold Tick.lines
  split
  · split <;> simp
  · simp

namespace Shift

-----------------------------------------------------------------------------------------
-- Before the first move and after the return
-----------------------------------------------------------------------------------------

section Histories
variable {wall : WallClock} {s last : Shift} {history : List ShiftEvent} {ticks : List Tick}

/-- A tick is a move of a loop that waits. -/
theorem Steps.waiting {event : ShiftEvent} {tick : Tick} {next : Shift}
    (fires : Steps wall s event (some tick) next)
    : s.loop.place = .waiting := by
  generalize shown : some tick = tick? at fires
  cases fires with
  | clock | record | send | release | rest | joined => cases shown
  | move branch fired l moves =>
      cases moves with
      | tick waiting due => exact waiting
      | look | hear | quit => cases shown

/-- Without a move of the loop it stays where it is, and no tick fires. -/
theorem unmoved_run (ran : s.run? wall history = some (ticks, last))
    (unmoved : ∀ event ∈ history, event.isMove = false)
    : last.loop.place = s.loop.place ∧ ticks = [] := by
  constructor
  · refine run?_preserves (fun other => other.loop.place = s.loop.place) _ ?_ unmoved ran rfl
    intro other event tick? next kind steps same
    cases steps with
    | move => cases kind
    | clock | record | release | rest | joined => exact same
    | send => simpa using same
  · cases ticks with
    | nil => rfl
    | cons tick more =>
        obtain ⟨before, branch, after, -, -, rfl, -⟩ := exists_tick (k := 0) ran rfl
        cases unmoved (.move branch) (by simp)

/-- A loop that has returned does not come back, and no tick fires. -/
theorem returned_run (ran : s.run? wall history = some (ticks, last))
    (returned : s.loop.running = false)
    : last.loop.running = false ∧ ticks = [] := by
  have still {history : List ShiftEvent} {ticks : List Tick} {last : Shift}
      (ran : s.run? wall history = some (ticks, last)) : last.loop.running = false := by
    refine run?_preserves (fun other => other.loop.running = false) (fun _ => True) ?_
      (fun _ _ => trivial) ran returned
    intro other event tick? next _ steps stopped
    cases steps with
    | clock | record | release | rest | joined => exact stopped
    | send => simpa using stopped
    | move branch fired l moves =>
        cases moves with
        | look _ place | hear place | quit place | tick place =>
            simp [Loop.running, place] at stopped
  refine ⟨still ran, ?_⟩
  cases ticks with
  | nil => rfl
  | cons tick more =>
      obtain ⟨_, _, _, _, _, -, before, fires, -⟩ := exists_tick (k := 0) ran rfl
      have stopped := still before
      simp [Loop.running, fires.waiting] at stopped

/-- A loop that has neither seen the signal up nor lost its other end goes on, by induction on
the history.
-/
theorem cause_of_returned (ran : s.run? wall history = some (ticks, last))
    (going : s.loop.running = true) (held : s.loop.signal.held = true)
    (returned : last.loop.running = false)
    : ShiftEvent.release ∈ history
      ∨ ∃ before branch after earlier seen,
          history = before ++ .move branch :: after
          ∧ s.run? wall before = some (earlier, seen)
          ∧ seen.loop.place = .top
          ∧ seen.loop.signal.value = true := by
  induction history generalizing s ticks with
  | nil =>
      cases ran
      cases going.symm.trans returned
  | cons event rest ih =>
      obtain ⟨tick?, next, later, steps, others, rfl⟩ := run?_cons_eq_some_iff.mp ran
      have onwards (going : next.loop.running = true) (held : next.loop.signal.held = true) :
          ShiftEvent.release ∈ event :: rest
            ∨ ∃ before branch after earlier seen,
                event :: rest = before ++ .move branch :: after
                ∧ s.run? wall before = some (earlier, seen)
                ∧ seen.loop.place = .top
                ∧ seen.loop.signal.value = true := by
        rcases ih others going held with
          released | ⟨before, branch, after, earlier, seen, rfl, ran, up⟩
        · exact .inl (.tail _ released)
        · refine .inr ⟨event :: before, branch, after, tick?.toList ++ earlier, seen, rfl, ?_, up⟩
          exact run?_cons_eq_some_iff.mpr ⟨tick?, next, earlier, steps, ran, rfl⟩
      cases steps with
      | release => exact .inl (.head _)
      | joined stopped => cases going.symm.trans stopped
      | clock | record | rest => exact onwards going held
      | send value => exact onwards (by simpa using going) (by simpa using held)
      | move branch fired l moves =>
          cases moves with
          | hear | tick => exact onwards rfl held
          | quit _ _ unheld => cases held.symm.trans unheld
          | look _ top =>
              cases value : s.loop.signal.value with
              | true => exact .inr ⟨[], branch, rest, [], s, rfl, rfl, top, value⟩
              | false =>
                  refine onwards ?_ held
                  simp [Loop.running, value]

end Histories

-----------------------------------------------------------------------------------------
-- The last moves
-----------------------------------------------------------------------------------------

/-- The end of a shift, from an event on that makes the loop return.
- `once` and `due`: one tick fires at most, and only if it is already due when the loop makes
  its first move thereafter, at that instant;
- `line`: so one line is added at most, and none without a tick;
- `prompt`: after so many moves the loop has returned;
- `going`: until then a move is possible;
- `returns`: a loop that is woken and moves as far as it goes has returned.
-/
structure Closes (wall : WallClock) (s : Shift) (limit : Nat) (history : List ShiftEvent)
    (ticks : List Tick) (last : Shift) : Prop where
  once : ticks.length ≤ 1
  due :
    ∀ tick ∈ ticks, ∃ quiet branch after waking,
      history = quiet ++ .move branch :: after
      ∧ (∀ event ∈ quiet, event.isMove = false)
      ∧ s.run? wall quiet = some ([], waking)
      ∧ waking.due ≤ waking.now
      ∧ tick.instant = waking.now
  line :
    ∃ lines, last.observatory.lines = s.observatory.lines ++ lines
      ∧ lines.length ≤ 1
      ∧ (ticks = [] → lines = [])
  prompt : limit ≤ history.countP ShiftEvent.isMove → last.loop.running = false
  going : last.loop.running = true → ∃ branch moved, last.loop.step? last.now branch = some moved
  returns : (last.reporting.settle wall last.now).loop.running = false

/-- A shift on which the loop has been woken: the clock stands still until it returns. -/
def Awake (s : Shift) : Prop :=
  s.loop.running = true → s.resting = false

section LastMoves
variable {wall : WallClock}

/-- The clock is free beside an awake loop only once that has returned. -/
theorem Awake.stopped {s : Shift} (awake : s.Awake)
    (free : s.resting = true ∨ s.loop.running = false)
    : s.loop.running = false := by
  rcases free with resting | returned
  · by_contra running
    cases (awake (by simpa using running)).symm.trans resting
  · exact returned

/-- While a loop has something to do it stays awake, and the clock stands still. -/
theorem Steps.awake {s next : Shift} {event : ShiftEvent} {tick? : Option Tick}
    (steps : Steps wall s event tick? next) (busy : s.loop.idle s.now = false)
    (awake : s.Awake)
    : next.Awake ∧ (next.loop.running = true → next.now = s.now) := by
  cases steps with
  | record | release | joined => exact ⟨awake, fun _ => rfl⟩
  | move => exact ⟨fun _ => rfl, fun _ => rfl⟩
  | rest idle => cases busy.symm.trans idle
  | send value => exact ⟨fun running => awake (by simpa using running), fun _ => rfl⟩
  | clock now free => exact ⟨awake, fun running => by cases (awake.stopped free).symm.trans running⟩

/-- A way for a loop to have a few moves left and at most one tick among them: `alert` loops are
not idle, the `allowed` events keep them alert, and while the clock stands still every move takes
one of the `moves` that are left, and every tick one of the `ticks`.
-/
structure Closing (alert : Loop → Prop) (allowed : ShiftEvent → Prop)
    (moves ticks : Duration → Loop → Nat) (limit : Nat) : Prop where
  unbarred : ∀ branch, allowed (.move branch)
  busy : ∀ now l, alert l → l.idle now = false
  moved : ∀ now l branch fired next, alert l → l.Moves now branch fired next
    → alert next ∧ moves now next < moves now l ∧ ticks now next + fired.toNat ≤ ticks now l
  sent : ∀ now l value, alert l → l.signal.held = true → allowed (.send value)
    → alert (l.send value).2 ∧ moves now (l.send value).2 = moves now l
      ∧ ticks now (l.send value).2 = ticks now l
  released : ∀ now l, alert l
    → alert l.release ∧ moves now l.release = moves now l ∧ ticks now l.release = ticks now l
  ended : ∀ now l, l.running = false ↔ moves now l = 0
  few : ∀ now l, moves now l ≤ limit
  single : ∀ now l, ticks now l ≤ 1
  ready : ∀ now l, 0 < ticks now l → l.running = true ∧ l.schedule.due ≤ now

namespace Closing
variable {alert : Loop → Prop} {allowed : ShiftEvent → Prop}
  {moves ticksLeft : Duration → Loop → Nat} {limit : Nat} {s last : Shift}
  {history : List ShiftEvent} {ticks : List Tick}

theorem kept (closing : Closing alert allowed moves ticksLeft limit) {event : ShiftEvent}
    {tick? : Option Tick} {next : Shift} (steps : Steps wall s event tick? next)
    (within : allowed event) (alerted : alert s.loop)
    : alert next.loop := by
  cases steps with
  | clock | record | rest | joined => exact alerted
  | send value held => exact (closing.sent s.now _ value alerted held within).1
  | release => exact (closing.released s.now _ alerted).1
  | move branch fired l moves => exact (closing.moved _ _ _ _ _ alerted moves).1

theorem kept_run (closing : Closing alert allowed moves ticksLeft limit)
    (ran : s.run? wall history = some (ticks, last)) (within : ∀ event ∈ history, allowed event)
    (alerted : alert s.loop)
    : alert last.loop :=
  run?_preserves (fun other => alert other.loop) allowed
    (fun _ _ _ _ within steps alerted => closing.kept steps within alerted) within ran alerted

/-- A loop that has returned has nothing left. -/
theorem none_left (closing : Closing alert allowed moves ticksLeft limit) {l : Loop}
    (now : Duration) (stopped : l.running = false)
    : moves now l = 0 ∧ ticksLeft now l = 0 := by
  refine ⟨(closing.ended now l).mp stopped, Nat.eq_zero_of_not_pos fun left => ?_⟩
  cases stopped.symm.trans (closing.ready now l left).1

theorem spent (closing : Closing alert allowed moves ticksLeft limit) {event : ShiftEvent}
    {tick? : Option Tick} {next : Shift} (steps : Steps wall s event tick? next)
    (within : allowed event) (alerted : alert s.loop) (awake : event.isMove = false → s.Awake)
    : moves next.now next.loop + event.isMove.toNat ≤ moves s.now s.loop
      ∧ ticksLeft next.now next.loop + tick?.toList.length ≤ ticksLeft s.now s.loop := by
  cases steps with
  | record | rest | joined => exact ⟨Nat.le_refl _, Nat.le_refl _⟩
  | send value held =>
      obtain ⟨-, sameMoves, sameTicks⟩ := closing.sent s.now s.loop value alerted held within
      exact ⟨Nat.le_of_eq sameMoves, Nat.le_of_eq sameTicks⟩
  | release =>
      obtain ⟨-, sameMoves, sameTicks⟩ := closing.released s.now s.loop alerted
      exact ⟨Nat.le_of_eq sameMoves, Nat.le_of_eq sameTicks⟩
  | clock now free =>
      obtain ⟨noMove, noTick⟩ := closing.none_left now ((awake rfl).stopped free)
      exact ⟨noMove.trans_le (Nat.zero_le _), noTick.trans_le (Nat.zero_le _)⟩
  | move branch fired l made =>
      obtain ⟨-, lessMoves, lessTicks⟩ := closing.moved _ _ _ _ _ alerted made
      refine ⟨lessMoves, ?_⟩
      cases fired <;> exact lessTicks

/-- From when the loop is awake its moves and ticks are bounded by those that are left, by
induction on the history.
-/
theorem awake_run (closing : Closing alert allowed moves ticksLeft limit)
    (ran : s.run? wall history = some (ticks, last)) (within : ∀ event ∈ history, allowed event)
    (alerted : alert s.loop) (awake : s.Awake)
    : (last.loop.running = true → last.now = s.now)
      ∧ moves last.now last.loop + history.countP ShiftEvent.isMove ≤ moves s.now s.loop
      ∧ ticksLeft last.now last.loop + ticks.length ≤ ticksLeft s.now s.loop := by
  induction history generalizing s ticks with
  | nil =>
      cases ran
      exact ⟨fun _ => rfl, Nat.le_refl _, Nat.le_refl _⟩
  | cons event rest ih =>
      obtain ⟨tick?, next, later, steps, others, rfl⟩ := run?_cons_eq_some_iff.mp ran
      rw [List.forall_mem_cons] at within
      obtain ⟨awakeNext, stands⟩ := steps.awake (closing.busy s.now s.loop alerted) awake
      obtain ⟨movesLess, ticksLess⟩ := closing.spent steps within.1 alerted fun _ => awake
      have alertNext := closing.kept steps within.1 alerted
      obtain ⟨same, movesRest, ticksRest⟩ := ih others within.2 alertNext awakeNext
      refine ⟨fun running => ?_, ?_, ?_⟩
      · have runs : next.loop.running = true := by
          by_contra returned
          have stopped := (returned_run others (by simpa using returned)).1
          cases running.symm.trans stopped
        exact (same running).trans (stands runs)
      · rw [List.countP_cons]
        cases made : event.isMove <;> simp [made] at movesLess ⊢ <;> omega
      · simp only [List.length_append]
        omega

/-- The ticks that an awake loop has left fire at the instant at which it was woken. -/
theorem instant_of_awake (closing : Closing alert allowed moves ticksLeft limit)
    (ran : s.run? wall history = some (ticks, last)) (within : ∀ event ∈ history, allowed event)
    (alerted : alert s.loop) (awake : s.Awake) {tick : Tick} (member : tick ∈ ticks)
    : tick.instant = s.now := by
  obtain ⟨k, found⟩ := List.mem_iff_getElem?.mp member
  obtain ⟨before, branch, after, pending, next, rfl, first, fires, -⟩ := exists_tick ran found
  have part : ∀ event ∈ before, allowed event :=
    fun event member => within event (List.mem_append_left _ member)
  have stands := (closing.awake_run first part alerted awake).1
  have running : pending.loop.running = true := by simp [Loop.running, fires.waiting]
  cases fires.ticks with
  | fires => exact stands running

/-- From when a move wakes it, an alert shift has the moves and ticks that are left, and the ticks
fire at that instant.
-/
theorem woken_run (closing : Closing alert allowed moves ticksLeft limit) {branch : Branch}
    {tick? : Option Tick} {next : Shift} (steps : Steps wall s (.move branch) tick? next)
    (ran : next.run? wall history = some (ticks, last))
    (free : allowed (.move branch)) (within : ∀ event ∈ history, allowed event)
    (alerted : alert s.loop)
    : moves last.now last.loop + 1 + history.countP ShiftEvent.isMove ≤ moves s.now s.loop
      ∧ (tick?.toList ++ ticks).length ≤ ticksLeft s.now s.loop
      ∧ ∀ tick ∈ tick?.toList ++ ticks, tick.instant = s.now := by
  have alertNext := closing.kept steps free alerted
  obtain ⟨movesLess, ticksLess⟩ := closing.spent steps free alerted nofun
  cases steps with
  | move _ fired l made =>
      obtain ⟨-, movesRest, ticksRest⟩ := closing.awake_run ran within alertNext fun _ => rfl
      refine ⟨?_, ?_, fun tick member => ?_⟩
      · simp only [ShiftEvent.isMove, Bool.toNat_true] at movesLess
        omega
      · simp only [List.length_append]
        omega
      · rcases List.mem_append.mp member with first | second
        · cases fired with
          | false => cases first
          | true =>
              cases List.mem_singleton.mp first
              rfl
        · exact closing.instant_of_awake ran within alertNext (fun _ => rfl) second

/-- What an alert shift has left, by induction on the history up to the first move. -/
theorem bounds_run (closing : Closing alert allowed moves ticksLeft limit)
    (ran : s.run? wall history = some (ticks, last)) (within : ∀ event ∈ history, allowed event)
    (alerted : alert s.loop)
    : ticks.length ≤ 1
      ∧ (∀ tick ∈ ticks, ∃ quiet branch after waking,
          history = quiet ++ .move branch :: after
          ∧ (∀ event ∈ quiet, event.isMove = false)
          ∧ s.run? wall quiet = some ([], waking)
          ∧ waking.due ≤ waking.now
          ∧ tick.instant = waking.now)
      ∧ (limit ≤ history.countP ShiftEvent.isMove → last.loop.running = false) := by
  induction history generalizing s ticks with
  | nil =>
      cases ran
      refine ⟨Nat.zero_le _, by simp, fun none => (closing.ended last.now _).mpr ?_⟩
      have := closing.few last.now last.loop
      simp only [List.countP_nil] at none
      omega
  | cons event rest ih =>
      obtain ⟨tick?, next, later, steps, others, rfl⟩ := run?_cons_eq_some_iff.mp ran
      rw [List.forall_mem_cons] at within
      have alertNext := closing.kept steps within.1 alerted
      cases made : event.isMove with
      | false =>
          have none : tick? = none := by
            cases steps with
            | move => cases made
            | clock | record | send | release | rest | joined => rfl
          subst none
          obtain ⟨once, due, prompt⟩ := ih others within.2 alertNext
          refine ⟨once, fun tick member => ?_, fun enough => prompt ?_⟩
          · obtain ⟨quiet, branch, after, waking, rfl, unmoved, ran, ready⟩ := due tick member
            refine ⟨event :: quiet, branch, after, waking, rfl, ?_, ?_, ready⟩
            · exact List.forall_mem_cons.mpr ⟨made, unmoved⟩
            · exact run?_cons_eq_some_iff.mpr ⟨none, next, [], steps, ran, rfl⟩
          · simpa [List.countP_cons, made] using enough
      | true =>
          cases steps with
          | clock | record | send | release | rest | joined => cases made
          | move branch fired l taken =>
              have steps : Steps wall s (.move branch) _ _ := .move branch fired l taken
              obtain ⟨movesAll, ticksAll, instants⟩ :=
                closing.woken_run steps others within.1 within.2 alerted
              refine ⟨Nat.le_trans ticksAll (closing.single s.now s.loop), fun tick member => ?_,
                fun enough => (closing.ended last.now _).mpr ?_⟩
              · have left := Nat.lt_of_lt_of_le (List.length_pos_of_mem member) ticksAll
                have ready : s.due ≤ s.now := (closing.ready s.now s.loop left).2
                exact ⟨[], branch, rest, s, rfl, by simp, rfl, ready, instants tick member⟩
              · have few := closing.few s.now s.loop
                simp only [List.countP_cons, made, if_true] at enough
                omega

/-- A shift that is woken while it is alert returns. -/
theorem returns (closing : Closing alert allowed moves ticksLeft limit) (alerted : alert s.loop)
    : (s.reporting.settle wall s.now).loop.running = false := by
  obtain ⟨branches, ticks, last, ran, same, settled, idle⟩ :=
    settle_run wall s.now s.loop s.observatory s.resting
  have moves : ∀ event ∈ branches.map ShiftEvent.move, allowed event := by
    simpa using fun branch _ => closing.unbarred branch
  have busy := closing.busy last.now last.loop (closing.kept_run ran moves alerted)
  have returned : last.loop.running = false := by
    by_contra running
    rw [same, idle (by simpa using running)] at busy
    cases busy
  have same : last.loop = (settle wall s.now s.loop s.observatory).1 := congrArg Prod.fst settled
  rwa [same] at returned

/-- An alert shift closes. -/
theorem closes (closing : Closing alert allowed moves ticksLeft limit)
    (ran : s.run? wall history = some (ticks, last)) (within : ∀ event ∈ history, allowed event)
    (alerted : alert s.loop)
    : Closes wall s limit history ticks last := by
  obtain ⟨once, due, prompt⟩ := closing.bounds_run ran within alerted
  have alertLast := closing.kept_run ran within alerted
  refine
    { once
      due
      line := ⟨_, lines_run ran, ?_, ?_⟩
      prompt
      going := fun running => Loop.exists_move running (closing.busy last.now last.loop alertLast)
      returns := closing.returns alertLast }
  · match ticks, once with
    | [], _ => simp
    | [tick], _ => simpa using tick.length_lines wall
  · rintro rfl
    rfl

end Closing

end LastMoves

-----------------------------------------------------------------------------------------
-- A raised signal
-----------------------------------------------------------------------------------------

/-- The signal is up, and a loop that waits has not heard of it yet. -/
structure Raised (l : Loop) : Prop where
  up : l.signal.value = true
  unheard : l.place = .waiting → l.signal.fresh = true

theorem send_raised {l : Loop} (running : l.running = true)
    : Raised (l.send true).2 := by
  rw [Loop.send, if_pos running]
  exact ⟨rfl, fun _ => rfl⟩

theorem Raised.send {l : Loop} (raised : Raised l)
    : Raised (l.send true).2 := by
  cases running : l.running with
  | true => exact send_raised running
  | false => simpa [Loop.send, running] using raised

theorem Raised.moves {now : Duration} {l next : Loop} {branch : Branch} {fired : Bool}
    (raised : Raised l) (moves : l.Moves now branch fired next)
    : Raised next := by
  cases moves with
  | look => exact ⟨raised.up, by simp [raised.up]⟩
  | hear | tick => exact ⟨raised.up, by simp⟩
  | quit => exact ⟨raised.up, by simp⟩

/-- A loop that waits has to hear of the signal, or to tick, and then to look at it. -/
def movesToLook (_ : Duration) (l : Loop) : Nat :=
  match l.place with
  | .waiting => 2
  | .top => 1
  | .stopped => 0

def ticksToLook (now : Duration) (l : Loop) : Nat :=
  match l.place with
  | .waiting => l.schedule.ticksDue now
  | _ => 0

theorem raised_closing
    : Closing Raised (fun event => event ≠ .send false) movesToLook ticksToLook 2 where
  unbarred := by simp
  busy now l raised := by
    by_contra idle
    obtain ⟨waiting, old, -⟩ := Loop.idle_iff.mp (by simpa using idle)
    cases old.symm.trans (raised.unheard waiting)
  moved now l branch fired next raised moves := by
    refine ⟨raised.moves moves, ?_⟩
    cases moves with
    | look _ top => simp [movesToLook, ticksToLook, top, raised.up]
    | hear waiting fresh => simp [movesToLook, ticksToLook, waiting]
    | quit waiting old => cases old.symm.trans (raised.unheard waiting)
    | tick waiting due =>
        simp [movesToLook, ticksToLook, waiting, Schedule.ticksDue_of_due due]
  sent now l value raised held within := by
    have high : value = true := by simpa using within
    subst high
    refine ⟨raised.send, ?_, ?_⟩
    · rw [movesToLook, Loop.place_send, movesToLook]
    · rw [ticksToLook, Loop.place_send, Loop.schedule_send, ticksToLook]
  released now l raised := ⟨⟨raised.up, raised.unheard⟩, rfl, rfl⟩
  ended now l := by
    rw [movesToLook]
    cases place : l.place <;> simp [Loop.running, place]
  few now l := by
    unfold movesToLook
    split <;> simp
  single now l := by
    unfold ticksToLook
    split
    · exact l.schedule.ticksDue_le now
    · exact Nat.zero_le _
  ready now l left := by
    unfold ticksToLook at left
    split at left
    · next waiting => exact ⟨by simp [Loop.running, waiting], Schedule.due_of_ticksDue left⟩
    · cases left

-----------------------------------------------------------------------------------------
-- A signal that nobody holds
-----------------------------------------------------------------------------------------

/-- Nobody is left who could set the signal, and no two ticks fire at one instant. -/
structure Forsaken (l : Loop) : Prop where
  unheld : l.signal.held = false
  long : tolerance < l.schedule.period

theorem Forsaken.moves {now : Duration} {l next : Loop} {branch : Branch} {fired : Bool}
    (forsaken : Forsaken l) (moves : l.Moves now branch fired next)
    : Forsaken next := by
  cases moves with
  | look | hear | quit => exact ⟨forsaken.unheld, forsaken.long⟩
  | tick waiting due =>
      refine ⟨forsaken.unheld, ?_⟩
      rw [Schedule.fire_period]
      exact forsaken.long

/-- A loop that waits has to hear of what was last sent, if it has not yet, and to tick if that
is due; after either it looks at the signal.
-/
def movesToQuit (now : Duration) (l : Loop) : Nat :=
  match l.place with
  | .waiting => 1 + 2 * l.schedule.ticksDue now + if l.signal.fresh then 2 else 0
  | .top => 2 + 2 * l.schedule.ticksDue now
  | .stopped => 0

def ticksToQuit (now : Duration) (l : Loop) : Nat :=
  match l.place with
  | .stopped => 0
  | _ => l.schedule.ticksDue now

theorem forsaken_closing
    : Closing Forsaken (fun _ => True) movesToQuit ticksToQuit 5 where
  unbarred _ := trivial
  busy now l forsaken := by
    by_contra idle
    obtain ⟨-, -, held, -⟩ := Loop.idle_iff.mp (by simpa using idle)
    cases held.symm.trans forsaken.unheld
  moved now l branch fired next forsaken moves := by
    refine ⟨forsaken.moves moves, ?_⟩
    cases moves with
    | look _ top =>
        cases value : l.signal.value with
        | false => simp [movesToQuit, ticksToQuit, top]
        | true =>
            simp only [movesToQuit, ticksToQuit, top, if_true, Bool.toNat_false]
            omega
    | hear waiting fresh =>
        simp only [movesToQuit, ticksToQuit, waiting, fresh, if_true, Bool.toNat_false]
        omega
    | quit waiting old =>
        simp only [movesToQuit, ticksToQuit, waiting, old, Bool.false_eq_true, if_false,
          Bool.toNat_false]
        omega
    | tick waiting due =>
        have after := Schedule.ticksDue_fire forsaken.long due
        have before := Schedule.ticksDue_of_due due
        simp only [movesToQuit, ticksToQuit, waiting, Bool.toNat_true]
        omega
  sent now l value forsaken held := by
    cases held.symm.trans forsaken.unheld
  released now l forsaken := ⟨⟨rfl, forsaken.long⟩, rfl, rfl⟩
  ended now l := by
    rw [movesToQuit]
    cases place : l.place <;> simp [Loop.running, place]
  few now l := by
    have := l.schedule.ticksDue_le now
    unfold movesToQuit
    split
    · split <;> omega
    · omega
    · omega
  single now l := by
    unfold ticksToQuit
    split
    · exact Nat.zero_le _
    · exact l.schedule.ticksDue_le now
  ready now l left := by
    unfold ticksToQuit at left
    split at left
    · cases left
    · next going =>
      refine ⟨?_, Schedule.due_of_ticksDue left⟩
      by_contra stopped
      exact going (Loop.running_eq_false_iff.mp (by simpa using stopped))

-----------------------------------------------------------------------------------------
-- The start and the end of a history
-----------------------------------------------------------------------------------------

section Ends
variable {wall : WallClock} {s last : Shift} {before after : List ShiftEvent}
  {ticks earlier : List Tick}

/-- A loop that makes its first move while the signal is up has returned. -/
theorem unseen_run {branch : Branch} {first : Shift}
    (ran : s.run? wall (before ++ .move branch :: after) = some (ticks, last))
    (fresh : s.loop.place ≠ .waiting) (unmoved : ∀ event ∈ before, event.isMove = false)
    (reached : s.run? wall before = some (earlier, first))
    (up : first.loop.signal.value = true)
    : ticks = [] ∧ last.loop.running = false := by
  obtain ⟨same, rfl⟩ := unmoved_run reached unmoved
  obtain ⟨_, _, later, first', second, rfl⟩ := run?_append_eq_some_iff.mp ran
  cases reached.symm.trans first'
  obtain ⟨_, next, more, steps, rest, rfl⟩ := run?_cons_eq_some_iff.mp second
  rw [← same] at fresh
  cases steps with
  | move _ fired l moves =>
      cases moves with
      | hear waiting | quit waiting | tick waiting => exact absurd waiting fresh
      | look _ top =>
          obtain ⟨returned, rfl⟩ := returned_run rest (by simp [Loop.running, up])
          exact ⟨rfl, returned⟩

/-- What comes after the return adds nothing. -/
theorem over_run {returned : Shift}
    (ran : s.run? wall (before ++ after) = some (ticks, last))
    (reached : s.run? wall before = some (earlier, returned))
    (stopped : returned.loop.running = false)
    : ticks = earlier
      ∧ last.observatory.lines = returned.observatory.lines
      ∧ last.loop.running = false := by
  obtain ⟨_, _, later, first, second, rfl⟩ := run?_append_eq_some_iff.mp ran
  cases reached.symm.trans first
  obtain ⟨finished, rfl⟩ := returned_run second stopped
  exact ⟨List.append_nil _, (lines_run second).trans (List.append_nil _), finished⟩

end Ends

-----------------------------------------------------------------------------------------
-- The law
-----------------------------------------------------------------------------------------

/-- How a reporter that starts as `s` is stopped, whatever happens and whichever of two possible
moves the loop takes:
- `unseen`: if the signal is up at the first move, no tick fires, no line is added, and the loop
  has returned;
- `raised`: once it is set for good, the loop makes two more moves at most and returns;
- `dropped`: once its other end is let go of, with a period beyond the tolerance, the loop makes
  five more moves at most and returns;
- `caused`: a loop that starts with a collector, and with a first tick that the clock can tell,
  returns for no other reason: it has found the signal up, or its other end has been let go of;
- `brokenOff`: with a first tick that the clock cannot tell no tick fires, no line is added, and the
  loop has returned;
- `finished`: once the loop has returned, no tick fires, no line is added, and it does not come
  back;
- `joined`: so it is once whoever waits for the loop to return goes on.
-/
structure StoppingLaw (wall : WallClock) (s : Shift) (history : List ShiftEvent)
    (ticks : List Tick) (last : Shift) : Prop where
  unseen :
    ∀ (before after : List ShiftEvent) (branch : Branch) (earlier : List Tick) (first : Shift),
      history = before ++ .move branch :: after
      → (∀ event ∈ before, event.isMove = false)
      → s.run? wall before = some (earlier, first)
      → first.loop.signal.value = true
      → ticks = [] ∧ last.observatory.lines = s.observatory.lines ∧ last.loop.running = false
  raised :
    ∀ (before after : List ShiftEvent) (earlier : List Tick) (pending : Shift),
      history = before ++ .send true :: after
      → .send false ∉ after
      → s.run? wall before = some (earlier, pending)
      → pending.loop.running = true
      → ∃ set later,
          pending.step? wall (.send true) = some (none, set)
          ∧ ticks = earlier ++ later
          ∧ Closes wall set 2 after later last
  dropped :
    ∀ (before after : List ShiftEvent) (earlier : List Tick) (pending : Shift),
      history = before ++ .release :: after
      → tolerance < s.period
      → s.run? wall before = some (earlier, pending)
      → pending.loop.running = true
      → ∃ unheld later,
          pending.step? wall .release = some (none, unheld)
          ∧ ticks = earlier ++ later
          ∧ Closes wall unheld 5 after later last
  caused :
    s.observatory.collector.isSome = true → s.due.IsInstant → last.loop.running = false
    → ShiftEvent.release ∈ history
      ∨ ∃ before branch after earlier seen,
          history = before ++ .move branch :: after
          ∧ s.run? wall before = some (earlier, seen)
          ∧ seen.loop.place = .top
          ∧ seen.loop.signal.value = true
  brokenOff :
    ¬ s.due.IsInstant
      → ticks = [] ∧ last.observatory.lines = s.observatory.lines ∧ last.loop.running = false
  finished :
    ∀ (before after : List ShiftEvent) (earlier : List Tick) (returned : Shift),
      history = before ++ after
      → s.run? wall before = some (earlier, returned)
      → returned.loop.running = false
      → ticks = earlier
        ∧ last.observatory.lines = returned.observatory.lines
        ∧ last.loop.running = false
  joined :
    ∀ before after : List ShiftEvent, history = before ++ .joined :: after
      → ∃ returned, s.run? wall before = some (ticks, returned)
          ∧ last.observatory.lines = returned.observatory.lines
          ∧ last.loop.running = false

/-- Every reporter keeps the law, whatever its period, its start and the state of the signal. -/
theorem stoppingLaw (wall : WallClock) (begun period : Duration) (value : Bool)
    (o : Observatory) (history : List ShiftEvent) (ticks : List Tick) (last : Shift)
    (ran : (start begun period value o).run? wall history = some (ticks, last))
    : StoppingLaw wall (start begun period value o) history ticks last := by
  have place := start_place begun period value o
  refine
    { unseen := ?_
      raised := ?_
      dropped := ?_
      caused := ?_
      brokenOff := ?_
      finished := ?_
      joined := ?_ }
  · rintro before after branch earlier first rfl unmoved reached up
    have fresh : (start begun period value o).loop.place ≠ .waiting := by
      rw [place]
      split <;> simp
    obtain ⟨rfl, returned⟩ := unseen_run ran fresh unmoved reached up
    exact ⟨rfl, by simpa using lines_run ran, returned⟩
  · rintro before after earlier pending rfl unlowered reached running
    obtain ⟨_, _, _, first, second, rfl⟩ := run?_append_eq_some_iff.mp ran
    cases reached.symm.trans first
    obtain ⟨_, set, later, steps, rest, rfl⟩ := run?_cons_eq_some_iff.mp second
    cases steps with
    | send _ held =>
        refine ⟨_, later, step?_eq_some_iff.mpr (.send true held), rfl, ?_⟩
        refine raised_closing.closes rest (fun event member lowered => ?_) (send_raised running)
        exact unlowered (lowered ▸ member)
  · rintro before after earlier pending rfl long reached running
    obtain ⟨_, _, _, first, second, rfl⟩ := run?_append_eq_some_iff.mp ran
    cases reached.symm.trans first
    obtain ⟨_, unheld, later, steps, rest, rfl⟩ := run?_cons_eq_some_iff.mp second
    cases steps with
    | release =>
        refine ⟨_, later, step?_eq_some_iff.mpr .release, rfl, ?_⟩
        refine forsaken_closing.closes rest (fun _ _ => trivial) ⟨rfl, ?_⟩
        rw [← period_run first] at long
        exact long
  · intro given told returned
    have held : (start begun period value o).loop.signal.held = true := by rw [start_signal]
    refine cause_of_returned ran ?_ held returned
    rw [Loop.running, place, if_pos ⟨given, told⟩]
    rfl
  · intro untold
    have stopped : (start begun period value o).loop.running = false := by
      rw [Loop.running, place, if_neg (fun starts => untold starts.2)]
      rfl
    obtain ⟨returned, rfl⟩ := returned_run ran stopped
    exact ⟨rfl, by simpa using lines_run ran, returned⟩
  · rintro before after earlier returned rfl reached stopped
    exact over_run ran reached stopped
  · rintro before after rfl
    obtain ⟨earlier, returned, later, first, second, rfl⟩ := run?_append_eq_some_iff.mp ran
    obtain ⟨_, _, _, steps, -, -⟩ := run?_cons_eq_some_iff.mp second
    cases steps with
    | joined stopped =>
        obtain ⟨same, lines, finished⟩ := over_run ran first stopped
        rw [same]
        exact ⟨returned, first, lines, finished⟩

/-- A shift with a period of ten seconds that is shut down when its first tick is due and a call
has been counted; the loop takes up the tick before it looks at the signal.
-/
def lastTick : List ShiftEvent :=
  [ .move .signal, .rest, .record ⟨"m", .ok, .ofMillis 1⟩, .clock (.ofSeconds 10), .send true,
    .move .tick, .move .signal, .joined, .clock (.ofSeconds 30) ]

/-- The shutdown leaves one tick, the one that is due, and no more. -/
theorem stoppingLaw_lastTick
    : ∃ tick last,
        (start .zero (.ofSeconds 10) false ⟨some (.new 0), #[]⟩).run? default lastTick
          = some ([tick], last)
        ∧ tick.instant = .ofSeconds 10
        ∧ last.loop.running = false
        ∧ StoppingLaw default (start .zero (.ofSeconds 10) false ⟨some (.new 0), #[]⟩) lastTick
            [tick] last :=
  ⟨_, _, rfl, rfl, rfl,
    stoppingLaw default .zero (.ofSeconds 10) false ⟨some (.new 0), #[]⟩ lastTick _ _ rfl⟩

end Shift

end CallWatch.Reporter

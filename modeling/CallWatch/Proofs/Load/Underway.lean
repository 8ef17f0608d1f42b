import CallWatch.Load.Floor
import CallWatch.Proofs.Lists
import Mathlib.Data.List.Nodup
import Mathlib.Tactic.ByContra

/-! Runs that are under way, and what the operations of load control do to them.
A run is under way from the step that begins it until it lowers the flag, which one that has
broken off never does; a run that has not broken off is at work meanwhile. Only the last run
that was begun can be under way, and a run that has lowered the flag has no worker left.
-/

namespace CallWatch.Load

namespace Control

/-- The run of a number has begun and has not lowered the flag. -/
def Underway (c : Control) (number : Nat) : Prop :=
  ∃ r ∈ c.runs, r.number = number ∧ r.lowered = false

/-- The run of a number is under way and has not broken off. -/
def AtWork (c : Control) (number : Nat) : Prop :=
  ∃ r ∈ c.runs, r.number = number ∧ r.lowered = false ∧ r.brokenOff = false

/-- The run of a number has begun and has ended. -/
structure Past (c : Control) (number : Nat) : Prop where
  begun : number < c.nextRun
  gone : ∀ r ∈ c.runs, r.number ≠ number

/-- What holds of the runs whoever has the lock: they are numbered in the order of their
beginnings, no two alike; only the last one can be under way; and one that has lowered the
flag has no live worker.
-/
structure Sound (c : Control) : Prop where
  numbered : ∀ r ∈ c.runs, r.number < c.nextRun
  distinct : (c.runs.map Run.number).Nodup
  last : ∀ number, c.Underway number → number + 1 = c.nextRun
  slotted : ∀ number, c.slot = some number → number < c.nextRun
  exhausted : ∀ r ∈ c.runs, r.lowered = true → r.exhausted = true

/-- The flag tells whether a run is under way. -/
def FlagTells (c : Control) : Prop :=
  c.flag = true ↔ ∃ number, c.Underway number

/-- The flag tells whether a run is under way, and the slot has the handle of that run. -/
structure Settled (c : Control) : Prop where
  flagTells : c.FlagTells
  owned : ∀ number, c.Underway number → c.slot = some number

-----------------------------------------------------------------------------------------
-- Runs by number
-----------------------------------------------------------------------------------------

theorem idle_sound
    : idle.Sound := by
  constructor <;> simp [idle, Underway]

theorem idle_settled
    : idle.Settled := by
  constructor <;> simp [FlagTells, idle, Underway]

theorem Sound.eq_of_number {c : Control} (h : c.Sound) {r s : Run} (hr : r ∈ c.runs)
    (hs : s ∈ c.runs) (same : r.number = s.number)
    : r = s :=
  List.inj_on_of_nodup_map h.distinct hr hs same

/-- No run has the number of one that has ended, once its handle is let go of. -/
theorem gone_of_ended {c : Control} {number : Nat} (h : c.ended number = true)
    : ∀ r ∈ (c.reap number).runs, r.number ≠ number := by
  intro r member named
  obtain ⟨inRuns, kept⟩ := List.mem_filter.mp member
  have cleared := List.all_eq_true.mp h r inRuns
  simp [named] at kept cleared
  cases kept.symm.trans cleared

/-- Letting go of a handle begins no run. -/
theorem mem_of_mem_reap {c : Control} {number : Nat} {r : Run}
    (member : r ∈ (c.reap number).runs)
    : r ∈ c.runs :=
  List.mem_of_mem_filter member

/-- A look-up by number gives a run of that number. -/
theorem run?_eq_some {c : Control} {number : Nat} {r : Run} (h : c.run? number = some r)
    : r ∈ c.runs ∧ r.number = number :=
  ⟨List.mem_of_find?_eq_some h, by simpa using List.find?_some h⟩

/-- A look-up by number finds the run of that number, as no two are alike. -/
theorem run?_of_mem {c : Control} (distinct : (c.runs.map Run.number).Nodup) {r : Run}
    (member : r ∈ c.runs)
    : c.run? r.number = some r := by
  cases found : c.run? r.number with
  | none =>
      have absent := List.find?_eq_none.mp found r member
      simp at absent
  | some s =>
      obtain ⟨inRuns, same⟩ := run?_eq_some found
      rw [List.inj_on_of_nodup_map distinct inRuns member same]

/-- The last run that was begun is the only one that can be under way. -/
theorem Sound.underway_unique {c : Control} (h : c.Sound) {n m : Nat} (hn : c.Underway n)
    (hm : c.Underway m)
    : n = m := by
  have := h.last n hn
  have := h.last m hm
  omega

theorem live_of_exhausted {r : Run} (h : r.exhausted = true)
    : r.live = false := by
  simp only [Run.exhausted, Bool.and_eq_true, List.all_eq_true, Bool.not_eq_true'] at h
  simpa [Run.live] using h.2

/-- A run with a live worker is under way. -/
theorem Sound.underway_of_live {c : Control} (h : c.Sound) {r : Run} (member : r ∈ c.runs)
    (live : r.live = true)
    : c.Underway r.number := by
  refine ⟨r, member, rfl, ?_⟩
  by_contra lowered
  have dead := live_of_exhausted (h.exhausted r member (by simpa using lowered))
  rw [dead] at live
  cases live

/-- A run that waits for its launch is under way. -/
theorem Sound.underway_of_waiting {c : Control} (h : c.Sound) {r : Run} (member : r ∈ c.runs)
    (waiting : r.waiting = true)
    : c.Underway r.number := by
  refine ⟨r, member, rfl, ?_⟩
  by_contra lowered
  have spent := h.exhausted r member (by simpa using lowered)
  simp only [Run.exhausted, Bool.and_eq_true] at spent
  simp only [Run.waiting, Bool.and_eq_true] at waiting
  cases launched : r.launched with
  | none => simp [launched] at spent
  | some => simp [launched] at waiting

-----------------------------------------------------------------------------------------
-- Operations
-----------------------------------------------------------------------------------------

/-- A change to the inside of a run leaves it under way or not, as it was. -/
theorem underway_onRun {c : Control} {number : Nat} {f : Run → Run}
    (sameNumber : ∀ r, (f r).number = r.number)
    (sameLowered : ∀ r, (f r).lowered = r.lowered) (n : Nat)
    : (c.onRun number f).Underway n ↔ c.Underway n := by
  simp only [Underway, onRun, List.mem_map]
  constructor
  · rintro ⟨_, ⟨r, member, rfl⟩, named, lowered⟩
    refine ⟨r, member, ?_⟩
    split at named <;> simp_all
  · rintro ⟨r, member, named, lowered⟩
    refine ⟨_, ⟨r, member, rfl⟩, ?_⟩
    split <;> simp_all

/-- After a run has lowered the flag it is not under way, and all others are as before. -/
theorem underway_lower {c : Control} {number n : Nat}
    : (c.lower number).Underway n ↔ c.Underway n ∧ n ≠ number := by
  simp only [Underway, lower, onRun, List.mem_map]
  constructor
  · rintro ⟨_, ⟨r, member, rfl⟩, named, lowered⟩
    split at lowered
    · simp at lowered
    · next other =>
      rw [if_neg other] at named
      exact ⟨⟨r, member, named, lowered⟩, named ▸ other⟩
  · rintro ⟨⟨r, member, named, lowered⟩, other⟩
    refine ⟨_, ⟨r, member, rfl⟩, ?_⟩
    rw [if_neg (named ▸ other)]
    exact ⟨named, lowered⟩

theorem underway_retire {c : Control} {number n : Nat}
    : (c.retire number).Underway n ↔ c.Underway n ∧ n ≠ number := by
  simp only [Underway, retire, List.mem_filter, decide_eq_true_eq]
  constructor
  · rintro ⟨r, ⟨member, other⟩, named, lowered⟩
    exact ⟨⟨r, member, named, lowered⟩, named ▸ other⟩
  · rintro ⟨⟨r, member, named, lowered⟩, other⟩
    exact ⟨r, ⟨member, named ▸ other⟩, named, lowered⟩

/-- What is under way without a handle that was let go of was so before. -/
theorem underway_of_reap {c : Control} {number n : Nat} (h : (c.reap number).Underway n)
    : c.Underway n := by
  obtain ⟨r, member, named, lowered⟩ := h
  exact ⟨r, mem_of_mem_reap member, named, lowered⟩

/-- Without the handle of a run that is not at work, that run is not under way. -/
theorem not_underway_reap {c : Control} {number : Nat} (idle : ¬ c.AtWork number)
    : ¬ (c.reap number).Underway number := by
  rintro ⟨r, member, named, lowered⟩
  obtain ⟨inRuns, kept⟩ := List.mem_filter.mp member
  exact idle ⟨r, inRuns, named, lowered, by simpa [named] using kept⟩

/-- A run that begins is under way, and all others are as before. -/
theorem underway_spawn {c : Control} {profile : LoadProfile} {next n : Nat}
    : ({ c with
          runs := c.runs ++ [Run.new c.nextRun profile], nextRun := next } : Control).Underway n
      ↔ c.Underway n ∨ n = c.nextRun := by
  simp only [Underway, List.mem_append, List.mem_singleton]
  constructor
  · rintro ⟨r, member | rfl, named, lowered⟩
    · exact Or.inl ⟨r, member, named, lowered⟩
    · exact Or.inr named.symm
  · rintro (⟨r, member, named, lowered⟩ | rfl)
    · exact ⟨r, Or.inl member, named, lowered⟩
    · exact ⟨_, Or.inr rfl, rfl, rfl⟩

-----------------------------------------------------------------------------------------
-- What the operations keep
-----------------------------------------------------------------------------------------

/-- A change to a run keeps the runs sound if it revives none and leaves no live worker
behind the last act of the run.
-/
theorem Sound.onRun {c : Control} (h : c.Sound) {number : Nat} {f : Run → Run}
    (sameNumber : ∀ r, (f r).number = r.number)
    (revivesNone : ∀ r, (f r).lowered = false → r.lowered = false)
    (spent
      : ∀ r ∈ c.runs, r.number = number → (f r).lowered = true → (f r).exhausted = true)
    : (c.onRun number f).Sound := by
  have numbers : (c.onRun number f).runs.map Run.number = c.runs.map Run.number := by
    simp only [Control.onRun, List.map_map]
    refine List.map_congr_left fun r _ => ?_
    simp only [Function.comp]
    split <;> simp [sameNumber]
  constructor
  · intro r member
    have known : r.number ∈ c.runs.map Run.number := numbers ▸ List.mem_map_of_mem member
    obtain ⟨s, member, same⟩ := List.mem_map.mp known
    exact same ▸ h.numbered s member
  · exact numbers ▸ h.distinct
  · rintro n ⟨_, member, named, lowered⟩
    obtain ⟨r, inRuns, rfl⟩ := List.mem_map.mp member
    apply h.last n
    split at named
    · next same =>
      rw [if_pos same] at lowered
      exact ⟨r, inRuns, sameNumber r ▸ named, revivesNone r lowered⟩
    · next other =>
      rw [if_neg other] at lowered
      exact ⟨r, inRuns, named, lowered⟩
  · exact h.slotted
  · intro _ member lowered
    obtain ⟨r, inRuns, rfl⟩ := List.mem_map.mp member
    split at lowered
    · next same =>
      rw [if_pos same]
      exact spent r inRuns same lowered
    · next other =>
      rw [if_neg other]
      exact h.exhausted r inRuns lowered

/-- The last act of an exhausted run keeps the runs sound. -/
theorem Sound.lower {c : Control} (h : c.Sound) {r : Run} (member : r ∈ c.runs)
    (exhausted : r.exhausted = true)
    : (c.lower r.number).Sound := by
  have sound : (c.onRun r.number fun r => { r with lowered := true }).Sound := by
    refine h.onRun (fun _ => rfl) (fun _ raised => nomatch raised) ?_
    intro s inRuns same _
    rw [h.eq_of_number inRuns member same]
    exact exhausted
  exact ⟨sound.numbered, sound.distinct, sound.last, sound.slotted, sound.exhausted⟩

/-- Some of the runs are sound if all are. -/
theorem Sound.of_sublist {c : Control} (h : c.Sound) {runs : List Run}
    (fewer : runs.Sublist c.runs)
    : ({ c with runs } : Control).Sound := by
  constructor
  · intro r member
    exact h.numbered r (fewer.subset member)
  · exact h.distinct.sublist (fewer.map _)
  · rintro n ⟨r, member, named, lowered⟩
    exact h.last n ⟨r, fewer.subset member, named, lowered⟩
  · exact h.slotted
  · intro r member
    exact h.exhausted r (fewer.subset member)

theorem Sound.retire {c : Control} (h : c.Sound) (number : Nat)
    : (c.retire number).Sound :=
  h.of_sublist List.filter_sublist

theorem Sound.reap {c : Control} (h : c.Sound) (number : Nat)
    : (c.reap number).Sound :=
  h.of_sublist List.filter_sublist

/-- A run that begins has a number below the next one, as all others have. -/
theorem numbered_spawn {c : Control} (numbered : ∀ r ∈ c.runs, r.number < c.nextRun)
    (profile : LoadProfile)
    : ∀ r ∈ c.runs ++ [Run.new c.nextRun profile], r.number < c.nextRun + 1 := by
  intro r member
  rcases List.mem_append.mp member with old | new
  · exact Nat.lt_succ_of_lt (numbered r old)
  · rw [List.mem_singleton.mp new]
    exact Nat.lt_succ_self _

/-- A run that begins has a number of its own. -/
theorem distinct_spawn {c : Control} (numbered : ∀ r ∈ c.runs, r.number < c.nextRun)
    (distinct : (c.runs.map Run.number).Nodup) (profile : LoadProfile)
    : ((c.runs ++ [Run.new c.nextRun profile]).map Run.number).Nodup := by
  rw [List.map_append]
  refine distinct.append (List.nodup_singleton _) ?_
  intro n old new
  obtain ⟨r, member, rfl⟩ := List.mem_map.mp old
  exact absurd (List.mem_singleton.mp new) (Nat.ne_of_lt (numbered r member))

/-- A run that begins while none is under way keeps the runs sound. -/
theorem Sound.spawn {c : Control} (h : c.Sound) (none : ∀ n, ¬ c.Underway n)
    (profile : LoadProfile)
    : ({ c with
          runs := c.runs ++ [Run.new c.nextRun profile],
          nextRun := c.nextRun + 1 } : Control).Sound := by
  constructor
  · exact numbered_spawn h.numbered profile
  · exact distinct_spawn h.numbered h.distinct profile
  · intro n underway
    rcases underway_spawn.mp underway with old | rfl
    · exact absurd old (none n)
    · rfl
  · intro n filled
    exact Nat.lt_succ_of_lt (h.slotted n filled)
  · intro r member lowered
    rcases List.mem_append.mp member with member | new
    · exact h.exhausted r member lowered
    · rw [List.mem_singleton.mp new] at lowered
      cases lowered

-----------------------------------------------------------------------------------------
-- The lock, the slot and the flag
-----------------------------------------------------------------------------------------

theorem sound_lock {c : Control} (h : c.Sound) (lock : Option Nat)
    : ({ c with lock } : Control).Sound :=
  ⟨h.numbered, h.distinct, h.last, h.slotted, h.exhausted⟩

theorem settled_lock {c : Control} (h : c.Settled) (lock : Option Nat)
    : ({ c with lock } : Control).Settled :=
  ⟨h.flagTells, h.owned⟩

theorem sound_slot {c : Control} (h : c.Sound) {slot : Option Nat}
    (begun : ∀ run, slot = some run → run < c.nextRun)
    : ({ c with slot } : Control).Sound :=
  ⟨h.numbered, h.distinct, h.last, begun, h.exhausted⟩

theorem sound_flag {c : Control} (h : c.Sound) (flag : Bool)
    : ({ c with flag } : Control).Sound :=
  ⟨h.numbered, h.distinct, h.last, h.slotted, h.exhausted⟩

/-- With the flag down and no run under way the flag tells the truth. -/
theorem flagTells_of_quiet {c : Control} (down : c.flag = false)
    (none : ∀ n, ¬ c.Underway n)
    : c.FlagTells := by
  constructor
  · intro up
    cases down.symm.trans up
  · rintro ⟨n, underway⟩
    exact absurd underway (none n)

/-- With the flag down and no run under way there is nothing to settle. -/
theorem settled_of_quiet {c : Control} (down : c.flag = false) (none : ∀ n, ¬ c.Underway n)
    : c.Settled :=
  ⟨flagTells_of_quiet down none, fun n underway => absurd underway (none n)⟩

/-- A run that has ended is not under way, once its handle is let go of. -/
theorem not_underway_of_ended {c : Control} {run : Nat} (h : c.ended run = true)
    : ¬ (c.reap run).Underway run := by
  rintro ⟨r, member, named, -⟩
  exact gone_of_ended h r member named

end Control

end CallWatch.Load

import CallWatch.Load.Bench
import CallWatch.Proofs.Load.Scripted

/-! What a synthetic worker draws, whatever its stream is.
Every draw lies in its range, so a call takes some time, though not more than the longest call,
and fails by one of the failures of the script or not at all.
-/

namespace CallWatch.Load

theorem belowSmall_lt {n : Nat} (positive : 0 < n) (s : Random.Stream)
    : (Random.belowSmall n s).1 < n :=
  Random.drawWithin_lt positive _ s

/-- The least time that a call takes. -/
def shortestCall : Duration := Duration.ofMicros 500

theorem drawBetween_bounds (least most : Nat) (nonempty : least ≤ most) (s : Random.Stream)
    : least ≤ (drawBetween least most s).1 ∧ (drawBetween least most s).1 ≤ most := by
  have range : (Random.below .long (most - least + 1) s).1 < most - least + 1 :=
    Random.below_lt (Nat.succ_pos _) s
  simp only [drawBetween]
  omega

/-- A latency lies between the shortest and the longest call, as its two ranges do. -/
theorem drawLatency_bounds (s : Random.Stream)
    : shortestCall ≤ (drawLatency s).1 ∧ (drawLatency s).1 ≤ longestCall := by
  have slow := drawBetween_bounds 100000 300000 (by decide) (Random.chance slowThreshold s).2
  have fast := drawBetween_bounds 500 25000 (by decide) (Random.chance slowThreshold s).2
  simp only [shortestCall, longestCall, drawLatency, Duration.ofMicros, Duration.ofMillis,
    Duration.le_iff]
  split <;> omega

/-- A call that fails does so by one of the failures: the index of it lies inside. -/
theorem drawOutcome_of_lt {errorPct : Nat} {s : Random.Stream}
    (fails : (Random.belowSmall 100 s).1 < errorPct)
    : (drawOutcome errorPct s).1 ∈ failures := by
  have inside :
      (Random.below .long failures.length (Random.belowSmall 100 s).2).1 < failures.length :=
    Random.below_lt (by decide) _
  simp only [drawOutcome, if_pos fails]
  rw [List.getD_eq_getElem _ _ inside]
  exact List.getElem_mem inside

theorem drawOutcome_of_not_lt {errorPct : Nat} {s : Random.Stream}
    (fine : ¬ (Random.belowSmall 100 s).1 < errorPct)
    : (drawOutcome errorPct s).1 = .ok := by
  simp only [drawOutcome, if_neg fine]

-----------------------------------------------------------------------------------------
-- Calls
-----------------------------------------------------------------------------------------

/-- What holds of every call of a script:
- its method is one of the script;
- it takes some time, though not more than the longest call;
- it is fine or fails by one of the failures, so it is never canceled;
- with a percentage of nought it is fine, and with a hundred or more it fails.
-/
structure SyntheticCall.Drawn (errorPct : Nat) (call : SyntheticCall) : Prop where
  method : call.method ∈ methods
  shortest : shortestCall ≤ call.latency
  longest : call.latency ≤ longestCall
  outcome : call.outcome = .ok ∨ call.outcome ∈ failures
  fine : errorPct = 0 → call.outcome = .ok
  failing : 100 ≤ errorPct → call.outcome ∈ failures

/-- The parts of a call, one drawn after the other. -/
theorem exists_draw_eq (errorPct : Nat) (s : Random.Stream)
    : ∃ (index : Nat × Random.Stream) (latency : Duration × Random.Stream)
        (outcome : Outcome × Random.Stream) (user : String) (rest : Random.Stream),
        index = Random.below .long methods.length s
        ∧ latency = drawLatency index.2
        ∧ outcome = drawOutcome errorPct latency.2
        ∧ draw errorPct s = (⟨methods.getD index.1 "", latency.1, outcome.1, user⟩, rest) :=
  ⟨_, _, _, _, _, rfl, rfl, rfl, rfl⟩

/-- Every call is drawn like that, whatever the stream is. -/
theorem draw_drawn (errorPct : Nat) (s : Random.Stream)
    : (draw errorPct s).1.Drawn errorPct := by
  have method := draw_method_mem errorPct s
  obtain ⟨index, latency, outcome, user, rest, -, timed, ended, drawn⟩ :=
    exists_draw_eq errorPct s
  have bounds := drawLatency_bounds index.2
  have range := belowSmall_lt (n := 100) (by decide) latency.2
  rw [← timed] at bounds
  rw [drawn] at method ⊢
  constructor
  · exact method
  · exact bounds.1
  · exact bounds.2
  · rw [ended]
    by_cases fails : (Random.belowSmall 100 latency.2).1 < errorPct
    · exact .inr (drawOutcome_of_lt fails)
    · exact .inl (drawOutcome_of_not_lt fails)
  · rintro rfl
    rw [ended]
    exact drawOutcome_of_not_lt (Nat.not_lt_zero _)
  · intro all
    rw [ended]
    exact drawOutcome_of_lt (Nat.lt_of_lt_of_le range all)

/-- A failure of the script is an error, and is not that of a call that was given up. -/
theorem isError_of_mem_failures
    : ∀ outcome ∈ failures, outcome.isError = true ∧ outcome ≠ .canceled := by
  decide

theorem SyntheticCall.Drawn.not_canceled {errorPct : Nat} {call : SyntheticCall}
    (drawn : call.Drawn errorPct)
    : call.outcome ≠ .canceled := by
  rcases drawn.outcome with fine | failure
  · rw [fine]
    decide
  · exact (isError_of_mem_failures _ failure).2

-----------------------------------------------------------------------------------------
-- Scripts
-----------------------------------------------------------------------------------------

/-- The first calls that are drawn from a stream, and the stream after them. -/
def script (errorPct : Nat) (s : Random.Stream) : Nat → List SyntheticCall × Random.Stream
  | 0 => ([], s)
  | n + 1 =>
    let earlier := script errorPct s n
    let drawn := draw errorPct earlier.2
    (earlier.1 ++ [drawn.1], drawn.2)

/-- A script goes on with the call that is drawn next. -/
theorem script_succ {errorPct n : Nat} {s next : Random.Stream} {calls : List SyntheticCall}
    {drawn : SyntheticCall × Random.Stream} (earlier : script errorPct s n = (calls, next))
    (drew : draw errorPct next = drawn)
    : script errorPct s (n + 1) = (calls ++ [drawn.1], drawn.2) := by
  subst drew
  rw [script, earlier]

/-- Every call of a script is drawn from some stream, by induction on their number. -/
theorem drawn_of_mem_script {errorPct : Nat} {s : Random.Stream} {n : Nat}
    : ∀ call ∈ (script errorPct s n).1, call.Drawn errorPct := by
  induction n with
  | zero => exact fun call member => nomatch member
  | succ n ih =>
      intro call member
      rcases List.mem_append.mp member with earlier | last
      · exact ih call earlier
      · rw [List.mem_singleton.mp last]
        exact draw_drawn errorPct _

end CallWatch.Load

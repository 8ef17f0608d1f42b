import CallWatch.Config.Environment
import CallWatch.Proofs.Text.Numeral
import Mathlib.Data.List.Nodup

/-! What the environment makes of a configuration.
Every variable decides about its own setting and no other. A value that can be used takes the
place of the setting; any other value leaves it as it is and is warned about, unless it is
silent. Of the rules only the bound on the workers can be broken this way.
-/

namespace CallWatch.Config

/-- A value stands for a number within bounds: blanks around it do not count. -/
def StandsFor (least greatest : Nat) (value : String) (n : Nat) : Prop :=
  Text.Numeral n (Text.trimBlank value.toList) ∧ least ≤ n ∧ n ≤ greatest

/-- The numbers that the capacity and the interval can take. -/
abbrev StandsForPositive : String → Nat → Prop :=
  StandsFor 1 (greatestWord 63)

/-- The numbers that the workers can take. -/
abbrev StandsForWorkers : String → Nat → Prop :=
  StandsFor 0 (greatestWord 32)

/-- A value names an address to listen on: it is taken as it is, unless it is blank. -/
def NamesListen (value listen : String) : Prop :=
  listen = value ∧ ∃ c ∈ value.toList, Text.isBlank c = false

/-- What a variable makes of a setting: a value that can be used takes its place, and without
one it stays.
-/
structure Decides {α : Type} (usable : String → α → Prop) (value? : Option String)
    (before after : α) : Prop where
  applied : ∀ value x, value? = some value → usable value x → after = x
  kept : (∀ value x, value? = some value → ¬ usable value x) → after = before

/-- A value is not used and there is a warning about it. An empty one is silent where a positive
number is expected.
-/
def Unused : Variable → String → Prop
  | .maxLatencySamples, value | .reportIntervalSecs, value =>
    value ≠ "" ∧ ∀ n, ¬ StandsForPositive value n
  | .loadWorkers, value => ∀ n, ¬ StandsForWorkers value n
  | .configPath, _ | .listen, _ => False

/-- The law of the environment.

- `listen`, `samples`, `interval`, `workers`: each of these settings is decided by its variable;
- `duration`, `errorPct`: the others stay;
- `independent`: what one variable decides does not depend on the others;
- `warned`: there is a warning about exactly the values that are not used and not silent;
- `warnedOnce`: no variable is warned about twice;
- `again`: a second override changes nothing more;
- `broken`: a configuration that kept the rules breaks one exactly if the variable of the workers
  was applied with more than the most workers, and then it is that rule.
-/
structure OverrideLaw (c : Config) (env : Environment) : Prop where
  listen : Decides NamesListen (env .listen) c.listen (c.override env).1.listen
  samples :
    Decides StandsForPositive (env .maxLatencySamples) c.maxLatencySamples
      (c.override env).1.maxLatencySamples
  interval :
    Decides StandsForPositive (env .reportIntervalSecs) c.reportIntervalSecs
      (c.override env).1.reportIntervalSecs
  workers :
    Decides StandsForWorkers (env .loadWorkers) c.loadWorkers (c.override env).1.loadWorkers
  duration : (c.override env).1.loadDurationSecs = c.loadDurationSecs
  errorPct : (c.override env).1.loadErrorPct = c.loadErrorPct
  independent :
    ∀ other : Environment,
      (other .listen = env .listen → (c.override other).1.listen = (c.override env).1.listen)
      ∧ (other .maxLatencySamples = env .maxLatencySamples
        → (c.override other).1.maxLatencySamples = (c.override env).1.maxLatencySamples)
      ∧ (other .reportIntervalSecs = env .reportIntervalSecs
        → (c.override other).1.reportIntervalSecs = (c.override env).1.reportIntervalSecs)
      ∧ (other .loadWorkers = env .loadWorkers
        → (c.override other).1.loadWorkers = (c.override env).1.loadWorkers)
  warned :
    ∀ about value,
      (∃ w ∈ (c.override env).2, w.about = about ∧ w.value = value)
      ↔ env about = some value ∧ Unused about value
  warnedOnce : ((c.override env).2.map Warning.about).Nodup
  again : (c.override env).1.override env = c.override env
  broken :
    c.validate = .ok ()
    → ∀ rule,
        (c.override env).1.validate = .error rule
        ↔ rule = .workers
          ∧ ∃ value n, env .loadWorkers = some value ∧ StandsForWorkers value n ∧ 500 < n

-----------------------------------------------------------------------------------------
-- Values
-----------------------------------------------------------------------------------------

theorem StandsFor.unique {least greatest n m : Nat} {value : String}
    (hn : StandsFor least greatest value n) (hm : StandsFor least greatest value m)
    : n = m :=
  hn.1.unique hm.1

/-- The empty value stands for no number. -/
theorem not_standsFor_empty (least greatest n : Nat)
    : ¬ StandsFor least greatest "" n :=
  fun h => Text.not_numeral_nil n h.1

/-- A positive integer is read from the values that stand for one. -/
theorem positive?_eq_some_iff {value : String} {n : Nat}
    : positive? value = some n ↔ StandsForPositive value n := by
  have read := @Text.readInteger_eq_ok_iff (twoPow 63) (greatestWord 63) n
    (Text.trimBlank value.toList)
  unfold positive? StandsForPositive StandsFor
  constructor
  · intro h
    split at h
    · next i integer =>
      split at h
      · next above =>
        obtain ⟨m, rfl⟩ := Int.eq_ofNat_of_zero_le (Int.le_of_lt above)
        cases h
        have positive : 0 < m := Int.natCast_pos.mp above
        obtain ⟨numeral, fits⟩ := (read positive).mp integer
        exact ⟨numeral, positive, fits⟩
      · cases h
    · cases h
  · rintro ⟨numeral, positive, fits⟩
    have above : (0 : Int) < n := Int.natCast_pos.mpr positive
    simp only [(read positive).mpr ⟨numeral, fits⟩, if_pos above, Int.toNat_natCast]

/-- A number of workers is read from the values that stand for one. -/
theorem readWorkers_eq_ok_iff {value : String} {n : Nat}
    : Text.readNatural (greatestWord 32) (Text.trimBlank value.toList) = .ok n
      ↔ StandsForWorkers value n := by
  rw [Text.readNatural_eq_ok_iff, StandsForWorkers, StandsFor]
  simp only [Nat.zero_le, true_and]

-----------------------------------------------------------------------------------------
-- Overrides
-----------------------------------------------------------------------------------------

/-- The override of a positive setting is the number that its value stands for. -/
theorem positiveOverride_eq_some_iff {about : Variable} {value? : Option String} {n : Nat}
    : (positiveOverride about value?).1 = some n
      ↔ ∃ value, value? = some value ∧ StandsForPositive value n := by
  cases value? with
  | none => simp [positiveOverride]
  | some value =>
      simp only [positiveOverride, Option.some.injEq, exists_eq_left']
      split
      · next empty =>
        subst empty
        exact ⟨fun h => (nomatch h), fun h => absurd h (not_standsFor_empty _ _ _)⟩
      · rw [← positive?_eq_some_iff]
        cases positive? value <;> rfl

/-- The override of the workers is the number that its value stands for. -/
theorem workersOverride_eq_some_iff {value? : Option String} {n : Nat}
    : (workersOverride value?).1 = some n
      ↔ ∃ value, value? = some value ∧ StandsForWorkers value n := by
  cases value? with
  | none => simp [workersOverride]
  | some value =>
      simp only [workersOverride, Option.some.injEq, exists_eq_left', ← readWorkers_eq_ok_iff]
      cases Text.readNatural (greatestWord 32) (Text.trimBlank value.toList) with
      | error => exact ⟨fun h => (nomatch h), fun h => (nomatch h)⟩
      | ok m => simp

theorem listenOverride_eq_some_iff {value? : Option String} {listen : String}
    : listenOverride value? = some listen
      ↔ ∃ value, value? = some value ∧ NamesListen value listen := by
  cases value? with
  | none => simp [listenOverride]
  | some value =>
      have blank : Text.isAllBlank value = false ↔ ∃ c ∈ value.toList, Text.isBlank c = false := by
        simp [Text.isAllBlank]
      simp only [listenOverride, Option.some.injEq, exists_eq_left', NamesListen, ← blank]
      cases Text.isAllBlank value <;> simp [eq_comm]

/-- What is chosen from the usable values of a variable, or the setting itself, is what the
variable decides.
-/
theorem decides_getD {α : Type} {usable : String → α → Prop} {value? : Option String}
    {chosen : Option α}
    (choice : ∀ x, chosen = some x ↔ ∃ value, value? = some value ∧ usable value x) (before : α)
    : Decides usable value? before (chosen.getD before) := by
  constructor
  · intro value x set used
    rw [(choice x).mpr ⟨value, set, used⟩]
    rfl
  · intro none
    cases taken : chosen with
    | none => rfl
    | some x =>
        obtain ⟨value, set, used⟩ := (choice x).mp taken
        exact absurd used (none value x set)

-----------------------------------------------------------------------------------------
-- Warnings
-----------------------------------------------------------------------------------------

/-- The warning about a positive setting, if there is one. -/
theorem mem_positiveOverride_iff {about : Variable} {value? : Option String} {w : Warning}
    : w ∈ (positiveOverride about value?).2
      ↔ ∃ value,
          value? = some value
          ∧ value ≠ ""
          ∧ (∀ n, ¬ StandsForPositive value n)
          ∧ w = .notPositive about value := by
  cases value? with
  | none => simp [positiveOverride]
  | some value =>
      simp only [positiveOverride, Option.some.injEq, exists_eq_left', ← positive?_eq_some_iff]
      split
      · next empty => simp [empty]
      · next some => cases positive? value <;> simp [some]

/-- The warning about the workers, if there is one. -/
theorem mem_workersOverride_iff {value? : Option String} {w : Warning}
    : w ∈ (workersOverride value?).2
      ↔ ∃ value fault,
          value? = some value
          ∧ Text.readNatural (greatestWord 32) (Text.trimBlank value.toList) = .error fault
          ∧ w = .notNatural .loadWorkers value fault := by
  cases value? with
  | none => simp [workersOverride]
  | some value =>
      simp only [workersOverride, Option.some.injEq]
      cases read : Text.readNatural (greatestWord 32) (Text.trimBlank value.toList) with
      | error fault =>
          rw [List.mem_singleton]
          constructor
          · rintro rfl
            exact ⟨value, fault, rfl, read, rfl⟩
          · rintro ⟨_, other, rfl, again, rfl⟩
            cases read.symm.trans again
            rfl
      | ok n =>
          refine ⟨fun h => (nomatch h), ?_⟩
          rintro ⟨_, fault, rfl, again, -⟩
          cases read.symm.trans again

/-- A value stands for no number of workers exactly if reading it fails. -/
theorem not_standsForWorkers_iff {value : String}
    : (∀ n, ¬ StandsForWorkers value n)
      ↔ ∃ fault,
          Text.readNatural (greatestWord 32) (Text.trimBlank value.toList) = .error fault := by
  simp only [← readWorkers_eq_ok_iff]
  cases Text.readNatural (greatestWord 32) (Text.trimBlank value.toList) with
  | error fault => simp
  | ok n => simp

/-- There is a warning about exactly the values that are not used and not silent, by cases on
the variable.
-/
theorem warned_override (c : Config) (env : Environment) (about : Variable) (value : String)
    : (∃ w ∈ (c.override env).2, w.about = about ∧ w.value = value)
      ↔ env about = some value ∧ Unused about value := by
  have warnings (w : Warning) :
      w ∈ (c.override env).2
        ↔ (w ∈ (positiveOverride .maxLatencySamples (env .maxLatencySamples)).2
            ∨ w ∈ (positiveOverride .reportIntervalSecs (env .reportIntervalSecs)).2)
          ∨ w ∈ (workersOverride (env .loadWorkers)).2 := by
    simp only [override, List.mem_append]
  simp only [warnings, mem_positiveOverride_iff, mem_workersOverride_iff]
  constructor
  · rintro ⟨w, (⟨set, held, some, unusable, rfl⟩ | ⟨set, held, some, unusable, rfl⟩)
      | ⟨set, fault, held, read, rfl⟩, rfl, rfl⟩
    · exact ⟨held, some, unusable⟩
    · exact ⟨held, some, unusable⟩
    · exact ⟨held, not_standsForWorkers_iff.mpr ⟨fault, read⟩⟩
  · rintro ⟨held, unused⟩
    cases about with
    | configPath | listen => exact unused.elim
    | maxLatencySamples =>
        exact ⟨_, .inl (.inl ⟨value, held, unused.1, unused.2, rfl⟩), rfl, rfl⟩
    | reportIntervalSecs =>
        exact ⟨_, .inl (.inr ⟨value, held, unused.1, unused.2, rfl⟩), rfl, rfl⟩
    | loadWorkers =>
        obtain ⟨fault, read⟩ := not_standsForWorkers_iff.mp unused
        exact ⟨_, .inr ⟨value, fault, held, read, rfl⟩, rfl, rfl⟩

/-- A positive setting is warned about once at most, and under its own name. -/
theorem abouts_positiveOverride (about : Variable) (value? : Option String)
    : ((positiveOverride about value?).2.map Warning.about).Sublist [about] := by
  unfold positiveOverride
  repeat' split
  all_goals simp [Warning.about]

theorem abouts_workersOverride (value? : Option String)
    : ((workersOverride value?).2.map Warning.about).Sublist [.loadWorkers] := by
  unfold workersOverride
  repeat' split
  all_goals simp [Warning.about]

/-- The variables that are warned about are among the three numeric ones, in their order. -/
theorem abouts_override (c : Config) (env : Environment)
    : ((c.override env).2.map Warning.about).Sublist
        [.maxLatencySamples, .reportIntervalSecs, .loadWorkers] := by
  simp only [override, List.map_append]
  exact ((abouts_positiveOverride _ _).append (abouts_positiveOverride _ _)).append
    (abouts_workersOverride _)

-----------------------------------------------------------------------------------------
-- Rules
-----------------------------------------------------------------------------------------

/-- Where the bound on the workers is the only rule in question, it is the one that is broken. -/
theorem validate_eq_error_iff {c : Config} (errorPct : c.loadErrorPct ≤ 100)
    (duration : 1 ≤ c.loadDurationSecs ∧ c.loadDurationSecs ≤ 300)
    (listen : Text.isAllBlank c.listen = false) (rule : ConfigRule)
    : c.validate = .error rule ↔ rule = .workers ∧ 500 < c.loadWorkers := by
  have percent : ¬ 100 < c.loadErrorPct := Nat.not_lt.mpr errorPct
  have length : ¬ (c.loadDurationSecs = 0 ∨ 300 < c.loadDurationSecs) := by omega
  unfold validate LoadProfile.mostErrorPct LoadProfile.mostWorkers LoadProfile.mostSeconds
  rw [if_neg percent, if_neg length, listen]
  split
  · next above => simp [above, eq_comm]
  · next below => simp [below]

/-- A listen address that was not blank is not blank after an override. -/
theorem isAllBlank_override {c : Config} (env : Environment)
    (listen : Text.isAllBlank c.listen = false)
    : Text.isAllBlank (c.override env).1.listen = false := by
  change Text.isAllBlank ((listenOverride (env .listen)).getD c.listen) = false
  cases taken : listenOverride (env .listen) with
  | none => exact listen
  | some address =>
      obtain ⟨value, -, rfl, visible⟩ := listenOverride_eq_some_iff.mp taken
      simpa [Text.isAllBlank] using visible

/-- More than the most workers have come from the variable if they were not there before. -/
theorem exists_applied_of_above {c : Config} {env : Environment} (workers : c.loadWorkers ≤ 500)
    (above : 500 < (c.override env).1.loadWorkers)
    : ∃ value n, env .loadWorkers = some value ∧ StandsForWorkers value n ∧ 500 < n := by
  change 500 < (workersOverride (env .loadWorkers)).1.getD c.loadWorkers at above
  cases taken : (workersOverride (env .loadWorkers)).1 with
  | none =>
      rw [taken] at above
      exact absurd above (Nat.not_lt.mpr workers)
  | some n =>
      rw [taken] at above
      obtain ⟨value, set, stands⟩ := workersOverride_eq_some_iff.mp taken
      exact ⟨value, n, set, stands, above⟩

/-- The law of the environment holds of every configuration and every environment. -/
theorem overrideLaw (c : Config) (env : Environment)
    : OverrideLaw c env where
  listen := decides_getD (fun _ => listenOverride_eq_some_iff) c.listen
  samples := decides_getD (fun _ => positiveOverride_eq_some_iff) c.maxLatencySamples
  interval := decides_getD (fun _ => positiveOverride_eq_some_iff) c.reportIntervalSecs
  workers := decides_getD (fun _ => workersOverride_eq_some_iff) c.loadWorkers
  duration := rfl
  errorPct := rfl
  independent := by
    intro other
    simp only [override]
    refine ⟨fun same => ?_, fun same => ?_, fun same => ?_, fun same => ?_⟩ <;> rw [same]
  warned := warned_override c env
  warnedOnce := (abouts_override c env).nodup (by decide)
  again := by
    have twice {α : Type} (x : Option α) (before : α) :
        x.getD (x.getD before) = x.getD before := by
      cases x <;> rfl
    simp only [override, twice]
  broken := by
    intro valid rule
    obtain ⟨errorPct, workers, duration, listen⟩ := validate_eq_ok_iff.mp valid
    have decided : Decides StandsForWorkers (env .loadWorkers) c.loadWorkers
        (c.override env).1.loadWorkers :=
      decides_getD (fun _ => workersOverride_eq_some_iff) c.loadWorkers
    rw [validate_eq_error_iff (c := (c.override env).1) errorPct duration
      (isAllBlank_override env listen)]
    refine and_congr_right fun _ => ⟨exists_applied_of_above workers, ?_⟩
    rintro ⟨value, n, set, stands, above⟩
    rw [decided.applied value n set stands]
    exact above

end CallWatch.Config

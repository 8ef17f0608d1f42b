import CallWatch.Proofs.Config.Decoding
import CallWatch.Proofs.Startup.Preparation

/-! Which configurations can be loaded.
A file, an environment and the defaults bring no number beyond the range of its type, and what
breaks a rule is refused. Nothing else is: every other configuration has a file that it is loaded
from.
-/

namespace CallWatch

/-- The value of a member as it is written. -/
def Json.Scalar.json : Json.Scalar → Json
  | .text value => .text value
  | .natural value => .natural value

namespace Config

open Json (form?)

/-- There is an environment with files that a configuration is loaded from. -/
def Loadable (c : Config) : Prop :=
  ∃ env files, (load env files).1 = .ok c

-----------------------------------------------------------------------------------------
-- What is loaded
-----------------------------------------------------------------------------------------

section Loaded
variable {c : Config} {env : Environment} {files : Files}

theorem inRange_ofBytes {bytes : List UInt8} (accepted : ofBytes bytes = .ok c)
    : c.InRange := by
  unfold ofBytes at accepted
  split at accepted
  · next m read =>
    obtain ⟨rfl, -⟩ := checked_eq_ok_iff.mp accepted
    exact inRange_of_admitted (Json.admitted_of_readDocument read)
  · cases accepted

theorem inRange_default
    : InRange {} := by
  constructor <;> decide

/-- Before the override the numbers are those of a file, or the defaults. -/
theorem inRange_base (read : base env files = .ok c)
    : c.InRange := by
  unfold base at read
  split at read
  · cases read
    exact inRange_default
  · split at read
    · cases read
      exact inRange_default
    · unfold ofFile at read
      split at read
      · cases read
      · split at read
        · cases read
        · exact inRange_ofBytes read

/-- A setting that a variable decides stays within a bound if the values that can be used do. -/
theorem Decides.le {usable : String → Nat → Prop} {value? : Option String}
    {before after greatest : Nat} (decides : Decides usable value? before after)
    (bounded : ∀ value n, usable value n → n ≤ greatest) (within : before ≤ greatest)
    : after ≤ greatest := by
  by_cases applies : ∃ value n, value? = some value ∧ usable value n
  · obtain ⟨value, n, set, stands⟩ := applies
    rw [decides.applied value n set stands]
    exact bounded value n stands
  · rw [decides.kept fun value n set stands => applies ⟨value, n, set, stands⟩]
    exact within

/-- The environment brings no number beyond its range. -/
theorem InRange.override (range : c.InRange) (env : Environment)
    : (c.override env).1.InRange := by
  have signed : greatestWord 63 ≤ greatestWord 64 := by decide
  have positive (about : Variable) (before : Nat) (within : before ≤ greatestWord 64)
      : (positiveOverride about (env about)).1.getD before ≤ greatestWord 64 :=
    (decides_getD (fun _ => positiveOverride_eq_some_iff) before).le
      (fun _ _ stands => Nat.le_trans stands.2.2 signed) within
  exact
    { samples := positive .maxLatencySamples _ range.samples
      interval := positive .reportIntervalSecs _ range.interval
      workers :=
        (decides_getD (fun _ => workersOverride_eq_some_iff) c.loadWorkers).le
          (fun _ _ stands => stands.2.2) range.workers
      duration := range.duration
      errorPct := range.errorPct }

/-- What is loaded is in range and keeps the rules. -/
theorem inRange_load (loaded : (load env files).1 = .ok c)
    : c.InRange ∧ c.validate = .ok () := by
  unfold load at loaded
  split at loaded
  · cases loaded
  · next before read =>
    obtain ⟨rfl, valid⟩ := checked_eq_ok_iff.mp loaded
    exact ⟨(inRange_base read).override env, valid⟩

end Loaded

-----------------------------------------------------------------------------------------
-- What can be loaded
-----------------------------------------------------------------------------------------

section Loading
variable {c : Config}

/-- A text that gives every setting of a configuration. -/
def text (c : Config) : String :=
  Json.line (.object (c.fields.map fun (name, v) => (name, v.json)))

theorem form?_text (c : Config)
    : form? c.text = some (.object (c.fields.map fun (name, v) => (name, v.form))) :=
  Json.form?_line _

/-- Such a text lists the configuration. -/
theorem lists_text (c : Config)
    : c.Lists (c.fields.map fun (name, v) => (name, v.form)) where
  once := by
    rw [List.map_map]
    exact nodup_fields c
  own := by
    intro name form member
    obtain ⟨⟨_, v⟩, setting, same⟩ := List.mem_map.mp member
    cases same
    exact ⟨v, setting, rfl⟩
  defaults := by
    intro name v setting left
    rw [List.map_map] at left
    exact absurd (List.mem_map.mpr ⟨_, setting, rfl⟩) left

/-- From such a text the configuration is read if it can be read at all. -/
theorem ofText_text (range : c.InRange) (valid : c.validate = .ok ())
    : ofText c.text = .ok c := by
  rw [ofText_of_lists (form?_text c) range (lists_text c)]
  exact checked_eq_ok_iff.mpr ⟨rfl, valid⟩

/-- An environment that names a file and nothing else. -/
def naming (path : String) : Environment
  | .configPath => some path
  | _ => none

theorem load_text (range : c.InRange) (valid : c.validate = .ok ())
    : (load (naming "f") fun _ => .ok (Text.Utf8.ofText c.text)).1 = .ok c := by
  have read : base (naming "f") (fun _ => .ok (Text.Utf8.ofText c.text)) = .ok c :=
    (base_file rfl (by decide) rfl).trans (ofText_text range valid)
  -- without a variable that is set the override leaves the configuration as it is
  exact congrArg Prod.fst (load_eq_ok read valid)

/-- A configuration can be loaded if and only if it is in range and keeps the rules. -/
theorem loadable_iff
    : c.Loadable ↔ c.InRange ∧ c.validate = .ok () := by
  constructor
  · rintro ⟨env, files, loaded⟩
    exact inRange_load loaded
  · rintro ⟨range, valid⟩
    exact ⟨_, _, load_text range valid⟩

end Loading

end Config

end CallWatch

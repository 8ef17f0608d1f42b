import CallWatch.Proofs.Config.Override
import CallWatch.Proofs.Text.Decoding
import CallWatch.Startup.Launch

/-! How far a process gets that is started with a file that is in order.
Values of the environment that cannot be used leave the settings of the file in force, and the
configuration is loaded. The process can start as well, unless the environment names an address
to listen on that is none: such a value takes the place of the address of the file.
-/

namespace CallWatch

-----------------------------------------------------------------------------------------
-- Loading
-----------------------------------------------------------------------------------------

namespace Config

/-- A text that is accepted gives a configuration that keeps the rules. -/
theorem validate_of_ofText {text : String} {c : Config} (accepted : ofText text = .ok c)
    : c.validate = .ok () := by
  unfold ofText ofBytes at accepted
  split at accepted
  · obtain ⟨rfl, valid⟩ := checked_eq_ok_iff.mp accepted
    exact valid
  · cases accepted

/-- The configuration before the override is the one of the file that the environment names. -/
theorem base_file {env : Environment} {files : Files} {path text : String}
    (named : env .configPath = some path) (nonempty : path ≠ "")
    (held : files path = .ok (Text.Utf8.ofText text))
    : base env files = ofText text := by
  simp only [base, named, if_neg nonempty, ofFile, held, Text.Utf8.ofText,
    Text.Utf8.decode?_encode, ofText]

/-- With no more than the most workers in the environment the rules still hold after the
override.
-/
theorem validate_override {c : Config} {env : Environment} (valid : c.validate = .ok ())
    (bounded : ∀ value n, env .loadWorkers = some value → StandsForWorkers value n → n ≤ 500)
    : (c.override env).1.validate = .ok () := by
  obtain ⟨errorPct, workers, duration, listen⟩ := validate_eq_ok_iff.mp valid
  refine validate_eq_ok_iff.mpr ⟨errorPct, ?_, duration, isAllBlank_override env listen⟩
  by_contra above
  obtain ⟨value, n, set, stands, more⟩ :=
    exists_applied_of_above workers (Nat.lt_of_not_le above)
  exact absurd (bounded value n set stands) (Nat.not_le.mpr more)

/-- What the override gives is loaded if it keeps the rules. -/
theorem load_eq_ok {c : Config} {env : Environment} {files : Files}
    (read : base env files = .ok c) (valid : (c.override env).1.validate = .ok ())
    : load env files = (.ok (c.override env).1, (c.override env).2) := by
  simp only [load, read, checked_eq_ok_iff.mpr ⟨rfl, valid⟩]

end Config

-----------------------------------------------------------------------------------------
-- Preparation
-----------------------------------------------------------------------------------------

namespace Startup

open Config (StandsForPositive StandsForWorkers NamesListen Decides)

/-- The environment names an address to listen on, and the value is no address. -/
def Misleads (env : Environment) (value : String) : Prop :=
  env .listen = some value ∧ NamesListen value value ∧ Net.Endpoint.ofText? value = none

/-- The law of preparation, for the configuration of a file.

- `loaded`: the configuration is loaded, with the warnings of the override;
- `samples`, `interval`, `workers`, `listen`: a value that cannot be used leaves the setting of
  the file in force;
- `starts`: the process can start with that configuration if the environment does not mislead it;
- `stopped`: if it does, the process ends, and the misleading value is the reason that it gives.
-/
structure PreparationLaw (c : Config) (env : Environment) (files : Config.Files) : Prop where
  loaded : Config.load env files = (.ok (c.override env).1, (c.override env).2)
  samples :
    Decides StandsForPositive (env .maxLatencySamples) c.maxLatencySamples
      (c.override env).1.maxLatencySamples
  interval :
    Decides StandsForPositive (env .reportIntervalSecs) c.reportIntervalSecs
      (c.override env).1.reportIntervalSecs
  workers :
    Decides StandsForWorkers (env .loadWorkers) c.loadWorkers (c.override env).1.loadWorkers
  listen : Decides NamesListen (env .listen) c.listen (c.override env).1.listen
  starts :
    (∀ value, ¬ Misleads env value)
    → ∃ endpoint,
        Net.Endpoint.ofText? (c.override env).1.listen = some endpoint
        ∧ prepare env files
          = (some ⟨(c.override env).1, endpoint⟩, (c.override env).2.map warningEvent)
  stopped :
    ∀ value,
      Misleads env value
      → prepare env files
        = (none, (c.override env).2.map warningEvent ++ [addressEvent value])

/-- After an override the address is the value of the environment that names one, or the one
from before.
-/
theorem listen_override (c : Config) (env : Environment)
    : (∃ value, env .listen = some value ∧ NamesListen value value
        ∧ (c.override env).1.listen = value)
      ∨ (c.override env).1.listen = c.listen := by
  have decided : Decides NamesListen (env .listen) c.listen (c.override env).1.listen :=
    Config.decides_getD (fun _ => Config.listenOverride_eq_some_iff) c.listen
  by_cases names : ∃ value, env .listen = some value ∧ NamesListen value value
  · obtain ⟨value, set, named⟩ := names
    exact .inl ⟨value, set, named, decided.applied value value set named⟩
  · exact .inr (decided.kept fun value x set named => names ⟨value, set, rfl, named.2⟩)

/-- An environment that does not mislead leaves an address to listen on where there was one. -/
theorem exists_endpoint_override {c : Config} {env : Environment}
    (address : (Net.Endpoint.ofText? c.listen).isSome = true)
    (straight : ∀ value, ¬ Misleads env value)
    : ∃ endpoint, Net.Endpoint.ofText? (c.override env).1.listen = some endpoint := by
  rw [← Option.isSome_iff_exists]
  rcases listen_override c env with ⟨value, set, named, taken⟩ | kept
  · rw [taken, ← Option.ne_none_iff_isSome]
    exact fun none => straight value ⟨set, named, none⟩
  · rw [kept]
    exact address

/-- The law of preparation holds of every file that is accepted and has an address, in every
environment that has no more than the most workers.
-/
theorem preparationLaw {env : Environment} {files : Config.Files} {path text : String}
    {c : Config} (named : env .configPath = some path) (nonempty : path ≠ "")
    (held : files path = .ok (Text.Utf8.ofText text)) (accepted : Config.ofText text = .ok c)
    (address : (Net.Endpoint.ofText? c.listen).isSome = true)
    (bounded : ∀ value n, env .loadWorkers = some value → StandsForWorkers value n → n ≤ 500)
    : PreparationLaw c env files := by
  have read : Config.base env files = .ok c :=
    (Config.base_file named nonempty held).trans accepted
  have loaded : Config.load env files = (.ok (c.override env).1, (c.override env).2) :=
    Config.load_eq_ok read
      (Config.validate_override (Config.validate_of_ofText accepted) bounded)
  have listen : Decides NamesListen (env .listen) c.listen (c.override env).1.listen :=
    Config.decides_getD (fun _ => Config.listenOverride_eq_some_iff) c.listen
  refine
    { loaded, listen
      samples := Config.decides_getD (fun _ => Config.positiveOverride_eq_some_iff) _
      interval := Config.decides_getD (fun _ => Config.positiveOverride_eq_some_iff) _
      workers := Config.decides_getD (fun _ => Config.workersOverride_eq_some_iff) _
      starts := ?_
      stopped := ?_ }
  · intro straight
    obtain ⟨endpoint, parsed⟩ := exists_endpoint_override address straight
    exact ⟨endpoint, parsed, by simp only [prepare, loaded, parsed]⟩
  · rintro value ⟨set, names, none⟩
    have taken : (c.override env).1.listen = value := listen.applied value value set names
    simp only [prepare, loaded, taken, none]

/-- The environment of a process that is told to listen on something that is no address. -/
def misledEnvironment : Environment
  | .configPath => some "f"
  | .listen => some "nonsense"
  | .maxLatencySamples => some "many"
  | _ => none

def listenText : String :=
  "\x7b\"listen\":\"127.0.0.1:0\"\x7d"

/-- Told to listen on something that is no address, a process with a file in order ends, while a
capacity that is no number leaves the one of the file in force.
-/
theorem preparationLaw_nonsense
    : let files : Config.Files := fun _ => .ok (Text.Utf8.ofText listenText)
      let c : Config := { listen := "127.0.0.1:0" }
      PreparationLaw c misledEnvironment files
      ∧ Misleads misledEnvironment "nonsense"
      ∧ (c.override misledEnvironment).1.maxLatencySamples = c.maxLatencySamples
      ∧ prepare misledEnvironment files
        = (none,
            [ warningEvent (.notPositive .maxLatencySamples "many"),
              addressEvent "nonsense" ]) := by
  intro files c
  have accepted : Config.ofText listenText = .ok c := by rfl
  have law : PreparationLaw c misledEnvironment files :=
    preparationLaw rfl (by decide) rfl accepted (by decide) nofun
  have misled : Misleads misledEnvironment "nonsense" :=
    ⟨rfl, ⟨rfl, 'n', by decide, by decide⟩, by decide⟩
  exact ⟨law, misled, by decide, law.stopped "nonsense" misled⟩

end Startup

end CallWatch

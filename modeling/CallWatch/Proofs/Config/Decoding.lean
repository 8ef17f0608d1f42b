import CallWatch.Config.Decode
import CallWatch.Proofs.Json.Ranges

/-! A configuration is decoded from every text that describes it.
An object describes a configuration by listing its settings, each once at most and in any order,
where a setting that is left out has its default; a list describes one by its first settings.
Blanks and escapes do not matter. A text that describes no configuration is refused, and so is
one whose configuration breaks a rule.
-/

namespace CallWatch.Config

open Json (Form form?)

/-- The settings with their names, in the order of declaration. -/
def fields (c : Config) : Json.Members :=
  [ ("listen", .text c.listen),
    ("max_latency_samples", .natural c.maxLatencySamples),
    ("report_interval_secs", .natural c.reportIntervalSecs),
    ("load_workers", .natural c.loadWorkers),
    ("load_duration_secs", .natural c.loadDurationSecs),
    ("load_error_pct", .natural c.loadErrorPct) ]

/-- The greatest number of each setting that is one. -/
def ranges : List (String × Nat) :=
  [ ("max_latency_samples", greatestWord 64),
    ("report_interval_secs", greatestWord 64),
    ("load_workers", greatestWord 32),
    ("load_duration_secs", greatestWord 64),
    ("load_error_pct", greatestWord 8) ]

/-- The settings that are numbers lie in the ranges of their types. -/
structure InRange (c : Config) : Prop where
  samples : c.maxLatencySamples ≤ greatestWord 64
  interval : c.reportIntervalSecs ≤ greatestWord 64
  workers : c.loadWorkers ≤ greatestWord 32
  duration : c.loadDurationSecs ≤ greatestWord 64
  errorPct : c.loadErrorPct ≤ greatestWord 8

/-- The members of an object list the settings of a configuration.

- `once`: no name comes twice;
- `own`: every member is a setting with its value;
- `defaults`: a setting that is left out has its default.
-/
structure Lists (c : Config) (members : List (String × Form)) : Prop where
  once : (members.map (·.1)).Nodup
  own : ∀ name form, (name, form) ∈ members → ∃ v, (name, v) ∈ c.fields ∧ v.form = form
  defaults :
    ∀ name v, (name, v) ∈ c.fields → name ∉ members.map (·.1) → (name, v) ∈ fields {}

/-- The items of a list are the first settings of a configuration, and the others have their
defaults.
-/
def BeginsWith (c : Config) (items : List Form) : Prop :=
  ∃ k, items = (c.fields.take k).map (·.2.form) ∧ c.fields.drop k = (fields {}).drop k

/-- The law of decoding, for one text.

- `object`, `list`: a configuration that the text describes and that keeps the rules is read;
- `broken`: if it breaks a rule, that is reported;
- `repeated`, `unknown`, `misfit`: an object is refused if a name comes twice, if a name is none
  of the settings, and if a setting that is a number has a value that is none in its range;
- `only`: from an object nothing is read but the configuration that it lists.
-/
structure DecodingLaw (s : String) : Prop where
  object :
    ∀ members (c : Config),
      form? s = some (.object members) → c.InRange → c.Lists members → c.validate = .ok ()
      → ofText s = .ok c
  list :
    ∀ items (c : Config),
      form? s = some (.list items) → c.InRange → c.BeginsWith items → c.validate = .ok ()
      → ofText s = .ok c
  broken :
    ∀ members (c : Config) rule,
      form? s = some (.object members) → c.InRange → c.Lists members
      → c.validate = .error rule
      → ofText s = .error (.rule rule)
  repeated :
    ∀ members,
      form? s = some (.object members) → ¬ (members.map (·.1)).Nodup
      → ∃ e, ofText s = .error (.syntactic e)
  unknown :
    ∀ members name,
      form? s = some (.object members) → name ∈ members.map (·.1)
      → name ∉ (fields {}).map (·.1)
      → ∃ e, ofText s = .error (.syntactic e)
  misfit :
    ∀ members name greatest form,
      form? s = some (.object members) → (name, form) ∈ members → (name, greatest) ∈ ranges
      → (∀ n ≤ greatest, form ≠ .number (Nat.toDigits 10 n))
      → ∃ e, ofText s = .error (.syntactic e)
  only :
    ∀ members (c : Config),
      form? s = some (.object members) → ofText s = .ok c
      → c.InRange ∧ c.Lists members ∧ c.validate = .ok ()

-----------------------------------------------------------------------------------------
-- The record
-----------------------------------------------------------------------------------------

/-- The numbers of the record fit a word. -/
theorem fitsWord_of_mem {name : String} {kind : Json.Kind} (h : (name, kind) ∈ shape.members)
    : kind.FitsWord := by
  simp only [shape, List.mem_cons, Prod.mk.injEq, List.not_mem_nil, or_false] at h
  rcases h with ⟨-, rfl⟩ | ⟨-, rfl⟩ | ⟨-, rfl⟩ | ⟨-, rfl⟩ | ⟨-, rfl⟩ | ⟨-, rfl⟩
  · trivial
  all_goals
    change _ ≤ greatestWord 64
    decide

/-- The names of the settings are distinct. -/
theorem nodup_fields (c : Config)
    : (c.fields.map (·.1)).Nodup :=
  (by decide : (["listen", "max_latency_samples", "report_interval_secs", "load_workers",
    "load_duration_secs", "load_error_pct"] : List String).Nodup)

theorem mem_fields_unique {c : Config} {name : String} {v w : Json.Scalar}
    (hv : (name, v) ∈ c.fields) (hw : (name, w) ∈ c.fields)
    : v = w :=
  Option.some.inj
    ((lookup_of_mem (nodup_fields c) hv).symm.trans (lookup_of_mem (nodup_fields c) hw))

/-- A setting in its range has the kind of its member in the record. -/
theorem exists_kind_of_mem_fields {c : Config} (range : c.InRange) {name : String}
    {v : Json.Scalar} (h : (name, v) ∈ c.fields)
    : ∃ kind, shape.members.lookup name = some kind ∧ kind.Admits v := by
  simp only [fields, List.mem_cons, Prod.mk.injEq, List.not_mem_nil, or_false] at h
  rcases h with ⟨rfl, rfl⟩ | ⟨rfl, rfl⟩ | ⟨rfl, rfl⟩ | ⟨rfl, rfl⟩ | ⟨rfl, rfl⟩ | ⟨rfl, rfl⟩
  · exact ⟨.text, rfl, trivial⟩
  · exact ⟨_, rfl, range.samples⟩
  · exact ⟨_, rfl, range.interval⟩
  · exact ⟨_, rfl, range.workers⟩
  · exact ⟨_, rfl, range.duration⟩
  · exact ⟨_, rfl, range.errorPct⟩

/-- A setting that is a number has that range in the record. -/
theorem exists_natural_of_mem_ranges {name : String} {greatest : Nat}
    (h : (name, greatest) ∈ ranges)
    : ∃ typeName, shape.members.lookup name = some (.natural typeName greatest) := by
  simp only [ranges, List.mem_cons, Prod.mk.injEq, List.not_mem_nil, or_false] at h
  rcases h with ⟨rfl, rfl⟩ | ⟨rfl, rfl⟩ | ⟨rfl, rfl⟩ | ⟨rfl, rfl⟩ | ⟨rfl, rfl⟩
  all_goals exact ⟨_, rfl⟩

-----------------------------------------------------------------------------------------
-- The configuration of some members
-----------------------------------------------------------------------------------------

section Members
variable {m : Json.Members} {c : Config}
  (own : ∀ name v, (name, v) ∈ m → (name, v) ∈ c.fields)
  (defaults : ∀ name v, (name, v) ∈ c.fields → name ∉ m.map (·.1) → (name, v) ∈ fields {})
include own defaults

/-- A text is the one of the configuration, whether it is given or left out. -/
theorem text_eq {name s d : String} (set : (name, .text s) ∈ c.fields)
    (default : (name, .text d) ∈ fields {})
    : m.text name d = s := by
  unfold Json.Members.text
  cases found : m.lookup name with
  | none =>
      have left := defaults name _ set (by simp [← isSome_lookup_iff, found])
      exact Json.Scalar.text.inj (mem_fields_unique default left)
  | some v =>
      cases mem_fields_unique (own name v (mem_of_lookup found)) set
      rfl

theorem natural_eq {name : String} {n d : Nat} (set : (name, .natural n) ∈ c.fields)
    (default : (name, .natural d) ∈ fields {})
    : m.natural name d = n := by
  unfold Json.Members.natural
  cases found : m.lookup name with
  | none =>
      have left := defaults name _ set (by simp [← isSome_lookup_iff, found])
      exact Json.Scalar.natural.inj (mem_fields_unique default left)
  | some v =>
      cases mem_fields_unique (own name v (mem_of_lookup found)) set
      rfl

/-- Members that are settings of a configuration, with the defaults for the others, make it. -/
theorem ofMembers_eq
    : ofMembers m = c := by
  have listen : m.text "listen" _ = c.listen := text_eq own defaults (.head _) (.head _)
  have samples : m.natural "max_latency_samples" _ = c.maxLatencySamples :=
    natural_eq own defaults (by simp [fields]) (by simp [fields]; rfl)
  have interval : m.natural "report_interval_secs" _ = c.reportIntervalSecs :=
    natural_eq own defaults (by simp [fields]) (by simp [fields]; rfl)
  have workers : m.natural "load_workers" _ = c.loadWorkers :=
    natural_eq own defaults (by simp [fields]) (by simp [fields]; rfl)
  have duration : m.natural "load_duration_secs" _ = c.loadDurationSecs :=
    natural_eq own defaults (by simp [fields]) (by simp [fields]; rfl)
  have errorPct : m.natural "load_error_pct" _ = c.loadErrorPct :=
    natural_eq own defaults (by simp [fields]) (by simp [fields]; rfl)
  simp only [ofMembers, listen, samples, interval, workers, duration, errorPct]

end Members

-----------------------------------------------------------------------------------------
-- Objects and lists
-----------------------------------------------------------------------------------------

section Objects
variable {members : List (String × Form)} {m : Json.Members} {c : Config}

/-- Members that list a configuration fit the record. -/
theorem exists_fits_of_lists (range : c.InRange) (lists : c.Lists members)
    : ∃ m, Json.Fits shape [] members m := by
  have written : ∀ entry ∈ members,
      ∃ v : String × Json.Scalar, v ∈ c.fields ∧ (v.1, v.2.form) = entry := by
    rintro ⟨name, form⟩ member
    obtain ⟨v, setting, rfl⟩ := lists.own name form member
    exact ⟨(name, v), setting, rfl⟩
  obtain ⟨m, rfl, settings⟩ := exists_map_eq written
  refine ⟨m, Json.fits_iff.mpr ⟨rfl, ?_, fun _ _ => nofun, fun name v member => ?_⟩⟩
  · simpa [List.map_map, Function.comp_def] using lists.once
  · exact exists_kind_of_mem_fields range (settings _ member)

/-- What is read of members that list a configuration is that configuration. -/
theorem ofMembers_of_fits (fits : Json.Fits shape [] members m) (lists : c.Lists members)
    : ofMembers m = c := by
  obtain ⟨rfl, -, -, -⟩ := Json.fits_iff.mp fits
  refine ofMembers_eq (fun name v member => ?_) (fun name v setting left => ?_)
  · obtain ⟨w, setting, same⟩ := lists.own name v.form (List.mem_map.mpr ⟨_, member, rfl⟩)
    rw [← Json.Scalar.form_inj.mp same]
    exact setting
  · refine lists.defaults name v setting ?_
    simpa [List.map_map, Function.comp_def] using left

/-- A number that is admitted lies in the range of its member. -/
theorem natural_le (admitted : Json.Admitted shape.members m) (name : String)
    {typeName : String} {greatest d : Nat}
    (known : shape.members.lookup name = some (.natural typeName greatest))
    (default : d ≤ greatest)
    : m.natural name d ≤ greatest := by
  have once : (shape.members.map (·.1)).Nodup := by decide
  unfold Json.Members.natural
  split
  · next n found =>
    obtain ⟨kind, declared, admits⟩ := admitted name _ (mem_of_lookup found)
    cases known.symm.trans (lookup_of_mem once declared)
    exact admits
  · exact default

/-- What is read of members that are admitted has its numbers in their ranges. -/
theorem inRange_of_admitted (admitted : Json.Admitted shape.members m)
    : (ofMembers m).InRange where
  samples := natural_le admitted "max_latency_samples" rfl (by decide)
  interval := natural_le admitted "report_interval_secs" rfl (by decide)
  workers := natural_le admitted "load_workers" rfl (by decide)
  duration := natural_le admitted "load_duration_secs" rfl (by decide)
  errorPct := natural_le admitted "load_error_pct" rfl (by decide)

theorem inRange_ofMembers (fits : Json.Fits shape [] members m)
    : (ofMembers m).InRange :=
  inRange_of_admitted fits.admitted

/-- A member that fits is a setting of what is read. -/
theorem mem_fields_ofMembers (fits : Json.Fits shape [] members m) {name : String}
    {v : Json.Scalar} (member : (name, v) ∈ m)
    : (name, v) ∈ (ofMembers m).fields := by
  obtain ⟨-, once, -, own⟩ := Json.fits_iff.mp fits
  obtain ⟨kind, known, admits⟩ := own name v member
  have found := lookup_of_mem once member
  have declared := mem_of_lookup known
  simp only [shape, List.mem_cons, Prod.mk.injEq, List.not_mem_nil, or_false] at declared
  rcases declared with ⟨rfl, rfl⟩ | ⟨rfl, rfl⟩ | ⟨rfl, rfl⟩ | ⟨rfl, rfl⟩ | ⟨rfl, rfl⟩ | ⟨rfl, rfl⟩
  all_goals
    cases v
    all_goals first
      | exact admits.elim
      | simp [fields, ofMembers, Json.Members.text, Json.Members.natural, found]

/-- What is read of members is what they list. -/
theorem lists_ofMembers (fits : Json.Fits shape [] members m)
    : (ofMembers m).Lists members := by
  obtain ⟨rfl, once, -, -⟩ := Json.fits_iff.mp fits
  constructor
  · simpa [List.map_map, Function.comp_def] using once
  · intro name form member
    obtain ⟨⟨_, v⟩, read, same⟩ := List.mem_map.mp member
    cases same
    exact ⟨v, mem_fields_ofMembers fits read, rfl⟩
  · intro name v setting left
    have missing : m.lookup name = none := by
      rw [← Option.not_isSome_iff_eq_none, isSome_lookup_iff]
      simpa [List.map_map, Function.comp_def] using left
    simp only [fields, List.mem_cons, Prod.mk.injEq, List.not_mem_nil, or_false] at setting
    rcases setting with
      ⟨rfl, rfl⟩ | ⟨rfl, rfl⟩ | ⟨rfl, rfl⟩ | ⟨rfl, rfl⟩ | ⟨rfl, rfl⟩ | ⟨rfl, rfl⟩
    all_goals simp [fields, ofMembers, Json.Members.text, Json.Members.natural, missing]

/-- An object is read as what its members come to, or refused if they fit nothing. -/
theorem ofText_object {s : String} (told : form? s = some (.object members))
    : (∃ m, Json.Fits shape [] members m ∧ ofText s = (ofMembers m).checked)
      ∨ (∀ m, ¬ Json.Fits shape [] members m) ∧ ∃ e, ofText s = .error (.syntactic e) := by
  have word : ∀ name kind, shape.members.lookup name = some kind → kind.FitsWord :=
    fun _ _ known => fitsWord_of_mem (mem_of_lookup known)
  rcases Json.readDocument_object rfl word told with ⟨m, fits, read⟩ | ⟨none, e, read⟩
  · exact .inl ⟨m, fits, by simp only [ofText, ofBytes, read]⟩
  · exact .inr ⟨none, e, by simp only [ofText, ofBytes, read]⟩

/-- An object whose members fit nothing is refused. -/
theorem refused_of_not_fits {s : String} (told : form? s = some (.object members))
    (none : ∀ m, ¬ Json.Fits shape [] members m)
    : ∃ e, ofText s = .error (.syntactic e) := by
  rcases ofText_object told with ⟨m, fits, -⟩ | ⟨-, refused⟩
  · exact absurd fits (none m)
  · exact refused

/-- An object that lists a configuration is read as it, up to the rules. -/
theorem ofText_of_lists {s : String} (told : form? s = some (.object members))
    (range : c.InRange) (lists : c.Lists members)
    : ofText s = c.checked := by
  rcases ofText_object told with ⟨m, fits, read⟩ | ⟨none, -⟩
  · rw [read, ofMembers_of_fits fits lists]
  · obtain ⟨m, fits⟩ := exists_fits_of_lists range lists
    exact absurd fits (none m)

end Objects

section Items
variable {items : List Form} {c : Config}

/-- All settings fit the members of the record, in the order of declaration. -/
theorem fitsItems_fields (range : c.InRange)
    : Json.FitsItems shape.members (c.fields.map (·.2.form)) c.fields :=
  .cons trivial (.cons range.samples (.cons range.interval (.cons range.workers
    (.cons range.duration (.cons range.errorPct .nil)))))

/-- The first settings of a configuration make it if the others have their defaults. -/
theorem ofMembers_take {k : Nat} (others : c.fields.drop k = (fields {}).drop k)
    : ofMembers (c.fields.take k) = c := by
  refine ofMembers_eq (fun _ _ => List.mem_of_mem_take) fun name v setting left => ?_
  rw [← List.take_append_drop k c.fields, List.mem_append] at setting
  rcases setting with first | last
  · exact absurd (List.mem_map.mpr ⟨_, first, rfl⟩) left
  · rw [others] at last
    exact List.mem_of_mem_drop last

/-- A list that begins with the settings of a configuration is read as it, up to the rules. -/
theorem ofText_of_beginsWith {s : String} (told : form? s = some (.list items))
    (range : c.InRange) (begins : c.BeginsWith items)
    : ofText s = c.checked := by
  obtain ⟨k, rfl, others⟩ := begins
  have fits := (fitsItems_fields range).take k
  rw [← List.map_take] at fits
  rcases Json.readDocument_list (fun _ _ => fitsWord_of_mem) told with
    ⟨m, read, done⟩ | ⟨none, -⟩
  · have same : m = c.fields.take k := read.unique fits
    simp only [ofText, ofBytes, done, same, ofMembers_take others]
  · exact absurd fits (none _)

end Items

-----------------------------------------------------------------------------------------
-- The law
-----------------------------------------------------------------------------------------

/-- The law of decoding holds of every text. -/
theorem decodingLaw (s : String)
    : DecodingLaw s where
  object := by
    intro members c told range lists valid
    rw [ofText_of_lists told range lists]
    exact checked_eq_ok_iff.mpr ⟨rfl, valid⟩
  list := by
    intro items c told range begins valid
    rw [ofText_of_beginsWith told range begins]
    exact checked_eq_ok_iff.mpr ⟨rfl, valid⟩
  broken := by
    intro members c rule told range lists broken
    rw [ofText_of_lists told range lists, checked, broken]
  repeated := by
    intro members told again
    refine refused_of_not_fits told fun m fits => again ?_
    obtain ⟨rfl, once, -, -⟩ := Json.fits_iff.mp fits
    simpa [List.map_map, Function.comp_def] using once
  unknown := by
    intro members name told member other
    refine refused_of_not_fits told fun m fits => other ?_
    obtain ⟨rfl, -, -, own⟩ := Json.fits_iff.mp fits
    rw [List.map_map] at member
    obtain ⟨⟨_, v⟩, read, rfl⟩ := List.mem_map.mp member
    obtain ⟨kind, known, -⟩ := own _ v read
    exact (List.mem_map.mpr ⟨_, mem_of_lookup known, rfl⟩ : _ ∈ shape.members.map (·.1))
  misfit := by
    intro members name greatest form told member range other
    refine refused_of_not_fits told fun m fits => ?_
    obtain ⟨rfl, -, -, own⟩ := Json.fits_iff.mp fits
    obtain ⟨⟨_, v⟩, read, same⟩ := List.mem_map.mp member
    cases same
    obtain ⟨typeName, declared⟩ := exists_natural_of_mem_ranges range
    obtain ⟨kind, known, admits⟩ := own _ v read
    obtain rfl := Option.some.inj (declared.symm.trans known)
    cases v with
    | text => exact admits
    | natural n => exact other n admits rfl
  only := by
    intro members c told read
    rcases ofText_object told with ⟨m, fits, done⟩ | ⟨-, e, refused⟩
    · obtain ⟨rfl, valid⟩ := checked_eq_ok_iff.mp (done.symm.trans read)
      exact ⟨inRange_ofMembers fits, lists_ofMembers fits, valid⟩
    · cases refused.symm.trans read

example : ofText "[ \"a\\u00e9\" , 7 ]" = .ok { listen := "aé", maxLatencySamples := 7 } := rfl

example
    : ofText " \x7b\"load_workers\" : 7,\n\"li\\u0073ten\":\"a\\u00e9\"\x7d "
      = .ok { listen := "aé", loadWorkers := 7 } :=
  rfl

end CallWatch.Config

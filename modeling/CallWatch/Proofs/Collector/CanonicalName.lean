import CallWatch.Collector.Basic
import CallWatch.Proofs.Collector.Name

/-! The normalized name of a method stands for all spellings of it.
A text has one core, which is what is left of it without the blanks at its ends. Names with one
core are counted as one, and so are all that say nothing: the blank ones and the name of the
nameless itself.
-/

namespace CallWatch

-----------------------------------------------------------------------------------------
-- Cores
-----------------------------------------------------------------------------------------

namespace Text

def AllBlank (cs : List Char) : Prop :=
  ∀ c ∈ cs, isBlank c = true

/-- Neither the first character is blank nor the last; there may be none at all. -/
structure Bare (cs : List Char) : Prop where
  first : ∀ c, cs.head? = some c → isBlank c = false
  last : ∀ c, cs.getLast? = some c → isBlank c = false

/-- A list is what another comes to without the blanks at its ends. -/
def CoreOf (cs core : List Char) : Prop :=
  Bare core ∧ ∃ front back, cs = front ++ core ++ back ∧ AllBlank front ∧ AllBlank back

variable {front cs core back : List Char}

theorem dropWhile_allBlank (blank : AllBlank front) (cs : List Char)
    : (front ++ cs).dropWhile isBlank = cs.dropWhile isBlank :=
  List.dropWhile_append_of_pos blank

theorem dropBlankEnd_allBlank (blank : AllBlank back) (cs : List Char)
    : dropBlankEnd (cs ++ back) = dropBlankEnd cs := by
  have reversed : AllBlank back.reverse := fun c member => blank c (List.mem_reverse.mp member)
  rw [dropBlankEnd, List.reverse_append, dropWhile_allBlank reversed, dropBlankEnd]

/-- Nothing is left of a blank list. -/
theorem trimBlank_eq_nil_iff
    : trimBlank cs = [] ↔ AllBlank cs := by
  constructor
  · intro none c member
    have ending : AllBlank (cs.dropWhile isBlank) :=
      (List.rdropWhile_eq_nil_iff (p := isBlank)).mp none
    rw [← List.takeWhile_append_dropWhile (p := isBlank) (l := cs), List.mem_append] at member
    rcases member with before | after
    · exact List.mem_takeWhile_imp before
    · exact ending c after
  · intro blank
    rw [trimBlank, List.dropWhile_eq_nil_iff.mpr blank]
    rfl

/-- Blanks around a list do not change what is left of it. -/
theorem trimBlank_around (before : AllBlank front) (after : AllBlank back) (cs : List Char)
    : trimBlank (front ++ cs ++ back) = trimBlank cs := by
  rw [trimBlank, List.append_assoc, dropWhile_allBlank before, List.dropWhile_append]
  split
  · next blank =>
    rw [trimBlank, List.isEmpty_iff.mp blank, List.dropWhile_eq_nil_iff.mpr after]
  · exact dropBlankEnd_allBlank after _

theorem Bare.trimBlank_eq (bare : Bare cs)
    : trimBlank cs = cs := by
  have opened : cs.dropWhile isBlank = cs := by
    cases cs with
    | nil => rfl
    | cons c rest => exact List.dropWhile_cons_of_neg (by simp [bare.first c rfl])
  rw [trimBlank, opened]
  refine (List.rdropWhile_eq_self_iff (p := isBlank)).mpr fun nonempty => ?_
  simp [bare.last _ (List.getLast?_eq_some_getLast nonempty)]

theorem bare_trimBlank (cs : List Char)
    : Bare (trimBlank cs) := by
  constructor
  · intro c first
    have visible := List.head?_dropWhile_not isBlank (trimBlank cs)
    rw [dropWhile_trimBlank, first] at visible
    simpa using visible
  · intro c last
    have nonempty : trimBlank cs ≠ [] := by
      rintro none
      rw [none] at last
      cases last
    have visible : ¬ isBlank ((trimBlank cs).getLast nonempty) = true :=
      List.rdropWhile_last_not isBlank _ nonempty
    rw [List.getLast?_eq_some_getLast nonempty] at last
    cases last
    exact Bool.eq_false_iff.mpr visible

/-- A list is its core with blanks around it. -/
theorem coreOf_trimBlank (cs : List Char)
    : CoreOf cs (trimBlank cs) := by
  refine ⟨bare_trimBlank cs, cs.takeWhile isBlank, (cs.dropWhile isBlank).rtakeWhile isBlank,
    ?_, fun c => List.mem_takeWhile_imp, fun c => List.mem_rtakeWhile_imp⟩
  have ending := List.rdropWhile_append_rtakeWhile (p := isBlank) (l := cs.dropWhile isBlank)
  rw [List.append_assoc]
  exact ((congrArg _ ending).trans List.takeWhile_append_dropWhile).symm

/-- No list has two cores, and trimming finds it. -/
theorem coreOf_iff
    : CoreOf cs core ↔ core = trimBlank cs := by
  constructor
  · rintro ⟨bare, front, back, rfl, before, after⟩
    rw [trimBlank_around before after, bare.trimBlank_eq]
  · rintro rfl
    exact coreOf_trimBlank cs

end Text

open Text (AllBlank Bare CoreOf)

-----------------------------------------------------------------------------------------
-- Names
-----------------------------------------------------------------------------------------

/-- A name that says nothing: it is blank, or it is the name of the nameless. -/
def Nameless (method : String) : Prop :=
  AllBlank method.toList ∨ CoreOf method.toList unknownMethod.toList

theorem trim_eq_empty_iff {method : String}
    : Text.trim method = "" ↔ AllBlank method.toList := by
  rw [← Text.trimBlank_eq_nil_iff, Text.trim, ← String.toList_inj, String.toList_ofList]
  rfl

/-- The two cases of a normalized name: that of the nameless, or the core. -/
theorem normalizeMethod_cases (method : String)
    : AllBlank method.toList ∧ normalizeMethod method = unknownMethod
      ∨ ¬ AllBlank method.toList ∧ CoreOf method.toList (normalizeMethod method).toList := by
  by_cases blank : AllBlank method.toList
  · exact .inl ⟨blank, if_pos (trim_eq_empty_iff.mpr blank)⟩
  · have trimmed : normalizeMethod method = Text.trim method :=
      if_neg fun empty => blank (trim_eq_empty_iff.mp empty)
    refine .inr ⟨blank, ?_⟩
    rw [trimmed, Text.trim, String.toList_ofList]
    exact Text.coreOf_trimBlank _

theorem bare_unknownMethod
    : Bare unknownMethod.toList where
  first := by
    rintro c ⟨⟩
    rfl
  last := by
    rintro c ⟨⟩
    rfl

theorem bare_normalizeMethod (method : String)
    : Bare (normalizeMethod method).toList := by
  rcases normalizeMethod_cases method with ⟨-, unknown⟩ | ⟨-, core⟩
  · rw [unknown]
    exact bare_unknownMethod
  · exact core.1

theorem normalizeMethod_ne_empty (method : String)
    : normalizeMethod method ≠ "" := by
  rcases normalizeMethod_cases method with ⟨-, unknown⟩ | ⟨visible, core⟩
  · rw [unknown]
    decide
  · intro empty
    rw [empty, Text.coreOf_iff] at core
    exact visible (Text.trimBlank_eq_nil_iff.mp core.symm)

/-- What is normalized to the name of the nameless says nothing. -/
theorem normalizeMethod_eq_unknown_iff {method : String}
    : normalizeMethod method = unknownMethod ↔ Nameless method := by
  rcases normalizeMethod_cases method with ⟨blank, unknown⟩ | ⟨visible, core⟩
  · exact ⟨fun _ => .inl blank, fun _ => unknown⟩
  · rw [Nameless, Text.coreOf_iff, ← String.toList_inj, Text.coreOf_iff.mp core]
    simp only [visible, false_or]
    exact eq_comm

/-- Names with one core are normalized alike. -/
theorem normalizeMethod_of_coreOf {a b : String} {core : List Char} (left : CoreOf a.toList core)
    (right : CoreOf b.toList core)
    : normalizeMethod a = normalizeMethod b := by
  have same : Text.trim a = Text.trim b := by
    rw [Text.trim, ← Text.coreOf_iff.mp left, Text.coreOf_iff.mp right, Text.trim]
  rw [normalizeMethod, same, normalizeMethod]

/-- The law of normalized names.

- `nonempty`, `bare`: a normalized name has characters, and no blank ones at its ends;
- `again`: it is its own normal form;
- `counted`: a collector that is told the normalized name counts as it does with the name itself;
- `around`: blanks around a name do not change its normal form;
- `alike_iff`: two names are normalized alike if and only if they have one core or both say
  nothing.
-/
structure CanonicalLaw : Prop where
  nonempty : ∀ method, normalizeMethod method ≠ ""
  bare : ∀ method, Bare (normalizeMethod method).toList
  again : ∀ method, normalizeMethod (normalizeMethod method) = normalizeMethod method
  counted :
    ∀ (c : Collector) method outcome latency,
      c.record (normalizeMethod method) outcome latency = c.record method outcome latency
  around :
    ∀ front method back : String,
      AllBlank front.toList → AllBlank back.toList
      → normalizeMethod (front ++ method ++ back) = normalizeMethod method
  alike_iff :
    ∀ a b : String,
      normalizeMethod a = normalizeMethod b
      ↔ (∃ core, CoreOf a.toList core ∧ CoreOf b.toList core) ∨ Nameless a ∧ Nameless b

/-- Names are normalized like this. -/
theorem canonicalLaw
    : CanonicalLaw where
  nonempty := normalizeMethod_ne_empty
  bare := bare_normalizeMethod
  again := normalizeMethod_idem
  counted := by
    intro c method outcome latency
    simp only [Collector.record, Collector.record?, normalizeMethod_idem]
  around := by
    intro front method back before after
    refine normalizeMethod_of_coreOf ?_ (Text.coreOf_trimBlank method.toList)
    rw [Text.coreOf_iff, String.toList_append, String.toList_append,
      Text.trimBlank_around before after]
  alike_iff := by
    intro a b
    constructor
    · intro same
      by_cases nameless : Nameless a
      · have unknown := normalizeMethod_eq_unknown_iff.mpr nameless
        exact .inr ⟨nameless, normalizeMethod_eq_unknown_iff.mp (same ▸ unknown)⟩
      · have other : ¬ Nameless b := by
          rwa [← normalizeMethod_eq_unknown_iff, ← same, normalizeMethod_eq_unknown_iff]
        rcases normalizeMethod_cases a with ⟨blank, -⟩ | ⟨-, left⟩
        · exact absurd (.inl blank) nameless
        · rcases normalizeMethod_cases b with ⟨blank, -⟩ | ⟨-, right⟩
          · exact absurd (.inl blank) other
          · exact .inl ⟨_, left, same ▸ right⟩
    · rintro (⟨core, left, right⟩ | ⟨left, right⟩)
      · exact normalizeMethod_of_coreOf left right
      · rw [normalizeMethod_eq_unknown_iff.mpr left, normalizeMethod_eq_unknown_iff.mpr right]

example : normalizeMethod "\u3000 a b\t" = "a b" := by decide

end CallWatch

import CallWatch.Collector.Name
import Mathlib.Data.List.DropRight

/-! Normalized names stay as they are: a name that has been trimmed has no blank ends left, and
the name of the nameless is one of them.
-/

namespace CallWatch

namespace Text

/-- Dropping the blank end keeps a first character that is not blank. -/
theorem dropBlankEnd_cons {c : Char} (visible : isBlank c = false) (cs : List Char)
    : dropBlankEnd (c :: cs) = c :: dropBlankEnd cs := by
  simp only [dropBlankEnd, List.reverse_cons, List.dropWhile_append]
  split
  · next blank =>
    rw [List.isEmpty_iff.mp blank]
    simp [visible]
  · simp

/-- It keeps all that stands before it and has no blank, by induction on that. -/
theorem dropBlankEnd_append {front : List Char} (visible : ∀ c ∈ front, isBlank c = false)
    (back : List Char)
    : dropBlankEnd (front ++ back) = front ++ dropBlankEnd back := by
  induction front with
  | nil => rfl
  | cons c rest ih =>
      rw [List.forall_mem_cons] at visible
      rw [List.cons_append, dropBlankEnd_cons visible.1, ih visible.2, List.cons_append]

/-- A list whose blank ends are dropped has none. -/
theorem dropWhile_trimBlank (cs : List Char)
    : (trimBlank cs).dropWhile isBlank = trimBlank cs := by
  simp only [trimBlank]
  cases opened : cs.dropWhile isBlank with
  | nil => rfl
  | cons c rest =>
      have visible : isBlank c = false := by
        have nonempty : cs.dropWhile isBlank ≠ [] := by simp [opened]
        have first := List.head_dropWhile_not isBlank nonempty
        simpa [opened] using first
      rw [dropBlankEnd_cons visible, List.dropWhile_cons_of_neg (by simp [visible])]

/-- Trimming a list keeps an ending of it that has no blank ends, whatever stands before. -/
theorem suffix_trimBlank {back : List Char} (nonempty : back ≠ [])
    (opened : back.dropWhile isBlank = back) (closed : dropBlankEnd back = back)
    (front : List Char)
    : back <:+ trimBlank (front ++ back) := by
  have ending : back.reverse.dropWhile isBlank = back.reverse := by
    rw [← List.reverse_inj, List.reverse_reverse]
    exact closed
  have kept (before : List Char) : dropBlankEnd (before ++ back) = before ++ back := by
    rw [dropBlankEnd, List.reverse_append, List.dropWhile_append, ending,
      if_neg (by simpa using nonempty), ← List.reverse_append, List.reverse_reverse]
  rw [trimBlank, List.dropWhile_append]
  split
  · have whole : dropBlankEnd (back.dropWhile isBlank) = back := by
      rw [opened, closed]
    exact whole.symm ▸ List.suffix_refl back
  · rw [kept]
    exact List.suffix_append _ _

theorem dropBlankEnd_dropBlankEnd (cs : List Char)
    : dropBlankEnd (dropBlankEnd cs) = dropBlankEnd cs :=
  List.rdropWhile_idempotent isBlank cs

/-- Trimming twice is trimming once. -/
theorem trim_trim (s : String)
    : trim (trim s) = trim s := by
  have both : trimBlank (trimBlank s.toList) = trimBlank s.toList := by
    rw [trimBlank, dropWhile_trimBlank]
    exact dropBlankEnd_dropBlankEnd _
  simp only [trim, String.toList_ofList, both]

end Text

/-- A normalized name is its own normal form. -/
theorem normalizeMethod_idem (method : String)
    : normalizeMethod (normalizeMethod method) = normalizeMethod method := by
  by_cases blank : Text.trim method = ""
  · simp only [normalizeMethod, if_pos blank]
    decide
  · simp only [normalizeMethod, if_neg blank, Text.trim_trim]

end CallWatch

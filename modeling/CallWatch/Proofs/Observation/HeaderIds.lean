import CallWatch.Observation.Context
import CallWatch.Text.Utf8
import Mathlib.Data.List.Basic

/-! The ids that the headers of a request show.
The first field of a name decides, whatever follows it: it shows an id if its value has bytes,
all of them tabs or printable, and the bytes of the id are then those of the value.
-/

namespace CallWatch

open Http (Field Headers lowerName isVisible)

/-- A value that shows an id: it is not empty, and its bytes are tabs or printable. -/
structure ShownValue (value : List UInt8) : Prop where
  nonempty : value ≠ []
  visible : ∀ b ∈ value, b = 9 ∨ (0x20 ≤ b ∧ b ≤ 0x7E)

/-- The headers show an id under a name, or the empty text for none. -/
inductive ShowsId (headers : Headers) (name id : String) : Prop
  /-- The value of the first field of the name shows the id. -/
  | shown {before after : Headers} {field : Field}
    (split : headers = before ++ field :: after)
    (first : ∀ other ∈ before, lowerName other.name ≠ name)
    (named : lowerName field.name = name)
    (value : ShownValue field.value)
    (bytes : Text.Utf8.ofText id = field.value)
  /-- The value of the first field of the name shows nothing. -/
  | hidden {before after : Headers} {field : Field}
    (split : headers = before ++ field :: after)
    (first : ∀ other ∈ before, lowerName other.name ≠ name)
    (named : lowerName field.name = name)
    (value : ¬ ShownValue field.value)
    (empty : id = "")
  /-- There is no field of the name. -/
  | absent (none : ∀ other ∈ headers, lowerName other.name ≠ name)
    (empty : id = "")

-----------------------------------------------------------------------------------------
-- Values
-----------------------------------------------------------------------------------------

theorem isVisible_iff {b : UInt8}
    : isVisible b = true ↔ b = 9 ∨ (0x20 ≤ b ∧ b ≤ 0x7E) := by
  simp [isVisible]

/-- A visible byte is the encoding of its character, since it is below 128. -/
theorem encodeChar_of_visible {b : UInt8} (visible : isVisible b = true)
    : Text.Utf8.encodeChar (Char.ofNat b.toNat) = [b] := by
  have small : b.toNat < 0x80 := by
    rcases isVisible_iff.mp visible with rfl | ⟨-, high⟩
    · decide
    · have := UInt8.le_iff_toNat_le.mp high
      simp only [UInt8.reduceToNat] at this
      omega
  have code : (Char.ofNat b.toNat).toNat = b.toNat := by
    rw [Char.ofNat, dif_pos (.inl (by omega))]
    rfl
  simp [Text.Utf8.encodeChar, code, small]

/-- A value of visible bytes is the encoding of its text, byte by byte. -/
theorem exists_visibleText? {value : List UInt8} (visible : ∀ b ∈ value, isVisible b = true)
    : ∃ text, Http.visibleText? value = some text ∧ Text.Utf8.ofText text = value := by
  refine ⟨_, if_pos (List.all_eq_true.mpr visible), ?_⟩
  rw [Text.Utf8.ofText, Text.Utf8.encode, String.toList_ofList, List.flatMap_map]
  calc
    value.flatMap (fun b => Text.Utf8.encodeChar (Char.ofNat b.toNat))
      = value.flatMap fun b => [b] :=
        List.flatMap_congr fun b member => encodeChar_of_visible (visible b member)
    _ = value := List.flatMap_singleton' value

/-- The text of a value that shows an id has the bytes of the value. -/
theorem bytes_of_shown {value : List UInt8} (shown : ShownValue value)
    : ∃ text, (Http.visibleText? value).bind CallContext.nonEmpty = some text
        ∧ Text.Utf8.ofText text = value := by
  obtain ⟨text, found, bytes⟩ :=
    exists_visibleText? fun b member => isVisible_iff.mpr (shown.visible b member)
  have nonempty : text ≠ "" := by
    rintro rfl
    exact shown.nonempty bytes.symm
  exact ⟨text, by simp [found, CallContext.nonEmpty, nonempty], bytes⟩

/-- A value that shows no id has no such text. -/
theorem none_of_not_shown {value : List UInt8} (hidden : ¬ ShownValue value)
    : (Http.visibleText? value).bind CallContext.nonEmpty = none := by
  by_cases visible : value.all isVisible = true
  · cases value with
    | nil => rfl
    | cons b rest =>
        refine absurd ⟨List.cons_ne_nil b rest, fun c member => ?_⟩ hidden
        exact isVisible_iff.mp (List.all_eq_true.mp visible c member)
  · rw [Http.visibleText?, if_neg visible, Option.bind_none]

-----------------------------------------------------------------------------------------
-- Headers
-----------------------------------------------------------------------------------------

/-- The ids in the headers of a request are those that its headers show. -/
theorem showsId_headerId (headers : Headers) (name : String)
    : ShowsId headers name ((CallContext.headerId headers name).getD "") := by
  cases found : headers.find? fun field => lowerName field.name = name with
  | none =>
      have id : CallContext.headerId headers name = none := by
        simp [CallContext.headerId, Headers.first?, found]
      refine .absent (fun other member => ?_) (by rw [id]; rfl)
      simpa using List.find?_eq_none.mp found other member
  | some field =>
      obtain ⟨named, before, after, split, first⟩ := List.find?_eq_some_iff_append.mp found
      have named : lowerName field.name = name := of_decide_eq_true named
      have first : ∀ other ∈ before, lowerName other.name ≠ name := by simpa using first
      have id : CallContext.headerId headers name
          = (Http.visibleText? field.value).bind CallContext.nonEmpty := by
        simp [CallContext.headerId, Headers.first?, found]
      rw [id]
      by_cases shown : ShownValue field.value
      · obtain ⟨text, readable, bytes⟩ := bytes_of_shown shown
        exact .shown split first named shown (by rw [readable]; exact bytes)
      · exact .hidden split first named shown (by rw [none_of_not_shown shown]; rfl)

end CallWatch

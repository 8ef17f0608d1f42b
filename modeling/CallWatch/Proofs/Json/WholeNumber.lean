import CallWatch.Json.ValueReader
import CallWatch.Proofs.Json.Bytes
import CallWatch.Proofs.Json.Roundtrip
import CallWatch.Proofs.Text.Numeral
import Mathlib.Data.List.Induction

/-! Whole numbers of JSON are read exactly.
A whole number in the range of a word is written in one way, its digits without a zero in front,
and these are read as it. Nothing else is read as one: not a number with a sign, a fraction or an
exponent, and none that is too large.
-/

namespace CallWatch.Json

open Text.Utf8 (encode)

-----------------------------------------------------------------------------------------
-- One way to write a number
-----------------------------------------------------------------------------------------

/-- A digit is the one of its value. -/
theorem digitChar_of_isDigit {c : Char} (digit : c.isDigit = true)
    : c.toNat - '0'.toNat < 10 ∧ Nat.digitChar (c.toNat - '0'.toNat) = c := by
  have shown : ∀ k < 10, Nat.digitChar k = Char.ofNat (48 + k) := by decide
  simp only [Char.isDigit, Bool.and_eq_true, decide_eq_true_eq, ge_iff_le, UInt32.le_iff_toNat_le]
    at digit
  have low : 48 ≤ c.toNat := digit.1
  have high : c.toNat ≤ 57 := digit.2
  have zero : '0'.toNat = 48 := rfl
  rw [zero]
  refine ⟨by omega, ?_⟩
  rw [shown _ (by omega), show 48 + (c.toNat - 48) = c.toNat by omega, Char.ofNat_toNat]

/-- A digit in front that is no zero makes the value positive. -/
theorem ofDigitChars_pos {cs : List Char} (digits : isDigits cs = true)
    (lead : cs.head? ≠ some '0')
    : 0 < Nat.ofDigitChars 10 cs 0 := by
  obtain ⟨nonempty, all⟩ := isDigits_iff.mp digits
  obtain ⟨c, rest, rfl⟩ := List.exists_cons_of_ne_nil nonempty
  obtain ⟨-, shown⟩ := digitChar_of_isDigit (all c (.head _))
  have positive : c.toNat - '0'.toNat ≠ 0 := by
    intro zero
    rw [zero] at shown
    exact lead (congrArg some shown.symm)
  rw [Nat.ofDigitChars_cons]
  have := Text.le_ofDigitChars rest (10 * 0 + (c.toNat - '0'.toNat))
  omega

/-- Digits without a zero in front are the ones of their value, by induction on them from the
last one.
-/
theorem toDigits_ofDigitChars {cs : List Char} (whole : isWhole cs = true)
    : Nat.toDigits 10 (Nat.ofDigitChars 10 cs 0) = cs := by
  induction cs using List.reverseRecOn with
  | nil => cases whole
  | append_singleton front c ih =>
      simp only [isWhole, Bool.and_eq_true, isDigits_iff, Bool.or_eq_true, decide_eq_true_eq]
        at whole
      obtain ⟨⟨-, all⟩, alone⟩ := whole
      obtain ⟨small, shown⟩ := digitChar_of_isDigit (all c (by simp))
      rw [Nat.ofDigitChars_append, Nat.ofDigitChars_cons, Nat.ofDigitChars_nil]
      have last : Nat.toDigits 10 (c.toNat - '0'.toNat) = [c] := by
        rw [Nat.toDigits_of_lt_base small, shown]
      rcases List.eq_nil_or_concat front with rfl | ⟨_, _, form⟩
      · rw [Nat.ofDigitChars_nil, Nat.mul_zero, Nat.zero_add, last]
        rfl
      · have nonempty : front ≠ [] := by
          rw [form]
          simp
        have digits : isDigits front = true :=
          isDigits_iff.mpr ⟨nonempty, fun d member => all d (by simp [member])⟩
        have lead : front.head? ≠ some '0' := by
          obtain ⟨d, more, rfl⟩ := List.exists_cons_of_ne_nil nonempty
          simpa using alone
        rw [← Nat.toDigits_append_toDigits (by decide) (ofDigitChars_pos digits lead) small,
          ih (isWhole_of_head digits lead), last]

theorem toDigits_inj {n m : Nat}
    : Nat.toDigits 10 n = Nat.toDigits 10 m ↔ n = m := by
  refine ⟨fun same => ?_, congrArg _⟩
  rw [← Nat.ofDigitChars_ten_toDigits (n := n), same, Nat.ofDigitChars_ten_toDigits]

-----------------------------------------------------------------------------------------
-- Digits
-----------------------------------------------------------------------------------------

theorem short_of_isDigit {c : Char} (digit : c.isDigit = true)
    : c.toNat < 0x80 := by
  simp only [Char.isDigit, Bool.and_eq_true, decide_eq_true_eq, ge_iff_le, UInt32.le_iff_toNat_le]
    at digit
  have high : c.toNat ≤ 57 := digit.2
  omega

/-- A byte is a digit if and only if it begins one. -/
theorem isDigit_eq {ch : Char} {b : UInt8}
    (same : ∀ d : Char, d.toNat < 0x80 → (b = UInt8.ofNat d.toNat ↔ ch = d))
    : isDigit b = ch.isDigit := by
  have byte (d : Char) (short : d.toNat < 0x80) :
      isDigit (UInt8.ofNat d.toNat) = d.isDigit := by
    simp only [isDigit, Char.isDigit, UInt8.le_iff_toNat_le,
      Text.Utf8.toNat_ofNat (n := d.toNat) (by omega), ge_iff_le, UInt32.le_iff_toNat_le]
    rfl
  cases digit : isDigit b with
  | true =>
      have bound : b.toNat ≤ 57 := by
        simp only [isDigit, Bool.and_eq_true, decide_eq_true_eq, UInt8.le_iff_toNat_le] at digit
        exact digit.2
      have valid : b.toNat.isValidChar := .inl (by omega)
      have value : (Char.ofNat b.toNat).toNat = b.toNat := by
        rw [Char.ofNat, dif_pos valid]
        rfl
      have form : b = UInt8.ofNat (Char.ofNat b.toNat).toNat := by
        rw [value, UInt8.ofNat_toNat]
      have short : (Char.ofNat b.toNat).toNat < 0x80 := by omega
      rw [(same _ short).mp form, ← byte _ short, ← form, digit]
  | false =>
      cases other : ch.isDigit with
      | false => rfl
      | true =>
          have short := short_of_isDigit other
          rw [(same ch short).mpr rfl, byte ch short, other] at digit
          exact digit.symm

section Digits
variable {c : Cursor} {ds rest : List Char}

theorem Cursor.At.atDigit {cs : List Char} (h : c.At cs)
    : c.atDigit = cs.head?.any Char.isDigit := by
  cases cs with
  | nil =>
      rw [Cursor.atDigit, h]
      rfl
  | cons ch rest =>
      obtain ⟨b, bytes, form, same⟩ := exists_encode_cons ch rest
      rw [Cursor.atDigit, h, form]
      exact isDigit_eq same

theorem atDigit_of_stop (h : c.At rest) (stop : ∀ c ∈ rest.head?, c.isDigit = false)
    : c.atDigit = false := by
  rw [h.atDigit]
  cases first : rest.head? with
  | none => rfl
  | some ch => exact stop ch first

/-- Digits are taken to the end of them if their value fits; if it does not, some are left over.
By induction on the digits: a value that no longer fits stays too large.
-/
theorem takeDigits_encode {limit value : Nat} (count : Nat) (pos : Position)
    (digits : ∀ d ∈ ds, d.isDigit = true) (stop : ∀ c ∈ rest.head?, c.isDigit = false)
    (fits : value ≤ limit)
    : let taken := takeDigits limit value count pos (encode (ds ++ rest))
      if Nat.ofDigitChars 10 ds value ≤ limit then
        taken.value = Nat.ofDigitChars 10 ds value ∧ taken.after.At rest
      else taken.after.atDigit = true := by
  induction ds generalizing value count pos with
  | nil =>
      simp only [List.nil_append, Nat.ofDigitChars_nil, if_pos fits]
      cases rest with
      | nil => exact ⟨rfl, rfl⟩
      | cons ch rest =>
          obtain ⟨b, bytes, form, same⟩ := exists_encode_cons ch rest
          have other : isDigit b = false := (isDigit_eq same).trans (stop ch rfl)
          rw [form, takeDigits, other]
          exact ⟨rfl, form.symm⟩
  | cons d ds ih =>
      have digit := digits d (.head _)
      have short := short_of_isDigit digit
      have byte : isDigit (UInt8.ofNat d.toNat) = true :=
        (isDigit_eq fun _ => ofNat_toNat_inj short).trans digit
      have worth : digitOf (UInt8.ofNat d.toNat) = d.toNat - '0'.toNat := by
        rw [digitOf, Text.Utf8.toNat_ofNat (by omega)]
        rfl
      have grows := Text.le_ofDigitChars ds (10 * value + (d.toNat - '0'.toNat))
      rw [List.cons_append, encode_cons_short short, takeDigits, byte, worth, Bool.true_and,
        Nat.ofDigitChars_cons, Nat.mul_comm value 10]
      by_cases next : 10 * value + (d.toNat - '0'.toNat) ≤ limit
      · rw [if_pos (decide_eq_true next)]
        exact ih _ _ (fun d member => digits d (.tail _ member)) next
      · have above : ¬ Nat.ofDigitChars 10 ds (10 * value + (d.toNat - '0'.toNat)) ≤ limit := by
          omega
        rw [if_neg (mt of_decide_eq_true next), if_neg above]
        exact byte

end Digits

-----------------------------------------------------------------------------------------
-- Other numbers
-----------------------------------------------------------------------------------------

/-- What is read is no natural number. -/
def NotNatural (read : Except ReadError (ReadNumber × Cursor)) : Prop :=
  ∀ n c, read ≠ .ok (.natural n, c)

section NotNatural
variable (negative : Bool) (significand : Nat) (exponent : Int) (c : Cursor)

theorem notNatural_error (e : ReadError)
    : NotNatural (.error e) :=
  fun _ _ => nofun

theorem notNatural_float (x : Binary64)
    : NotNatural (.ok (.float x, c)) :=
  fun _ _ => nofun

theorem notNatural_finishFloat
    : NotNatural (finishFloat negative significand exponent c) := by
  unfold finishFloat
  split
  · exact notNatural_float _ _
  · exact notNatural_error _

theorem notNatural_readExponent
    : NotNatural (readExponent negative significand exponent c) := by
  unfold readExponent
  simp only
  repeat' split
  all_goals first
    | exact notNatural_error _
    | exact notNatural_float _ _
    | exact notNatural_finishFloat _ _ _ _

theorem notNatural_readScale
    : NotNatural (readScale negative significand exponent c) := by
  unfold readScale
  split
  · exact notNatural_readExponent _ _ _ _
  · exact notNatural_finishFloat _ _ _ _

theorem notNatural_readFraction
    : NotNatural (readFraction negative significand exponent c) := by
  unfold readFraction
  simp only
  repeat' split
  all_goals first
    | exact notNatural_error _
    | exact notNatural_readScale _ _ _ _

/-- A number with a minus sign is read as no natural number, by cases on its form. -/
theorem notNatural_readNumber_negative
    : NotNatural (readNumber true c) := by
  have whole (value : Nat) (d : Cursor) : NotNatural (readAfterWhole true value d) := by
    unfold readAfterWhole Json.whole
    simp only [Bool.not_true, Bool.false_eq_true, if_false]
    repeat' split
    all_goals first
      | exact notNatural_readFraction _ _ _ _
      | exact notNatural_readExponent _ _ _ _
      | exact fun _ _ => nofun
  unfold readNumber
  simp only
  repeat' split
  all_goals first
    | exact notNatural_error _
    | exact whole _ _
    | exact notNatural_readFraction _ _ _ _
    | exact notNatural_readScale _ _ _ _

end NotNatural

-----------------------------------------------------------------------------------------
-- Reading
-----------------------------------------------------------------------------------------

section Reading
variable {c : Cursor} {cs ds more rest : List Char}

theorem digits_of_isWhole (whole : isWhole ds = true)
    : ∀ d ∈ ds, d.isDigit = true := by
  simp only [isWhole, Bool.and_eq_true, isDigits_iff] at whole
  exact whole.1.2

/-- The digits of a number are read first: in the range of a word they lead to what follows
them, and above it no natural number is read.
-/
theorem readNumber_digits (h : c.At (ds ++ rest)) (whole : isWhole ds = true)
    (stop : ∀ c ∈ rest.head?, c.isDigit = false)
    : (∃ d : Cursor,
        Nat.ofDigitChars 10 ds 0 ≤ greatestWord 64
        ∧ readNumber false c = readAfterWhole false (Nat.ofDigitChars 10 ds 0) d
        ∧ d.At rest)
      ∨ greatestWord 64 < Nat.ofDigitChars 10 ds 0 ∧ NotNatural (readNumber false c) := by
  have digits := digits_of_isWhole whole
  simp only [isWhole, Bool.and_eq_true, isDigits_iff, Bool.or_eq_true, decide_eq_true_eq]
    at whole
  obtain ⟨⟨nonempty, -⟩, alone⟩ := whole
  have taken := takeDigits_encode 0 c.pos digits stop (Nat.zero_le (greatestWord 64))
  obtain ⟨first, others, rfl⟩ := List.exists_cons_of_ne_nil nonempty
  have digit := digits first (.head _)
  have short := short_of_isDigit digit
  have byte : isDigit (UInt8.ofNat first.toNat) = true :=
    (isDigit_eq fun _ => ofNat_toNat_inj short).trans digit
  have bytes : c.rest = UInt8.ofNat first.toNat :: encode (others ++ rest) := by
    rw [h, List.cons_append, encode_cons_short short]
  have zero : UInt8.ofNat first.toNat = 0x30 ↔ first = '0' :=
    ofNat_toNat_inj (d := '0') short (by decide)
  rw [readNumber, bytes]
  simp only [zero, byte, if_true]
  split
  · next lead =>
    -- a zero stands alone
    subst lead
    obtain rfl : others = [] := by simpa using alone
    have after : c.next.At rest := h.next short
    left
    refine ⟨c.next, Nat.zero_le _, ?_, after⟩
    rw [atDigit_of_stop after stop]
    rfl
  · rw [← bytes, h]
    split at taken
    · next fits =>
      obtain ⟨value, after⟩ := taken
      left
      refine ⟨_, fits, ?_, after⟩
      rw [atDigit_of_stop after stop, value]
      rfl
    · next above =>
      right
      refine ⟨Nat.lt_of_not_le above, ?_⟩
      rw [if_pos taken]
      split
      · exact notNatural_readFraction _ _ _ _
      · exact notNatural_readScale _ _ _ _

/-- After its digits a natural number ends, unless a point or an exponent follows. -/
theorem readAfterWhole_end {n : Nat} (h : c.At rest) (ended : StopsNumber rest)
    : readAfterWhole false n c = .ok (.natural n, c) := by
  cases rest with
  | nil =>
      have nothing : c.rest = [] := h
      simp [readAfterWhole, h.peek?_nil, Cursor.atExponent, nothing, whole]
  | cons ch rest =>
      obtain ⟨b, bytes, form, same⟩ := exists_encode_cons ch rest
      have other := ended ch rfl
      have point : b ≠ 0x2E := fun byte => by
        rw [(same '.' (by decide)).mp byte] at other
        cases other
      have lower : b ≠ 0x65 := fun byte => by
        rw [(same 'e' (by decide)).mp byte] at other
        cases other
      have upper : b ≠ 0x45 := fun byte => by
        rw [(same 'E' (by decide)).mp byte] at other
        cases other
      have bytes : c.rest = b :: bytes := Eq.trans h form
      simp [readAfterWhole, Cursor.peek?, Cursor.atExponent, bytes, point, lower, upper, whole]

/-- With a point or an exponent after its digits a number is read as no natural one. -/
theorem notNatural_readAfterWhole {ch : Char} (n : Nat) (h : c.At (ch :: rest))
    (follows : ch = '.' ∨ ch = 'e' ∨ ch = 'E')
    : NotNatural (readAfterWhole false n c) := by
  unfold readAfterWhole
  split
  · exact notNatural_readFraction _ _ _ _
  · next noPoint =>
    have exponent : c.atExponent = true := by
      rcases follows with rfl | rfl | rfl
      · exact absurd (h.peek?_short (by decide)) noPoint
      · rw [Cursor.atExponent, h, encode_cons_short (by decide)]
        rfl
      · rw [Cursor.atExponent, h, encode_cons_short (by decide)]
        rfl
    rw [if_pos exponent]
    exact notNatural_readExponent _ _ _ _

/-- What follows the digits of a number begins with a point or an exponent. -/
theorem exists_cons_of_followsWhole (follows : followsWhole more = true) (some : more ≠ [])
    : ∃ ch tail, more = ch :: tail ∧ (ch = '.' ∨ ch = 'e' ∨ ch = 'E') := by
  obtain ⟨ch, tail, rfl⟩ := List.exists_cons_of_ne_nil some
  refine ⟨ch, tail, rfl, ?_⟩
  simp only [followsWhole, endsNumber] at follows
  split at follows
  · next point => exact .inl point
  · simp only [Bool.and_eq_true, Bool.or_eq_true, decide_eq_true_eq] at follows
    exact .inr follows.1

/-- A number without a sign is its digits and what follows them. -/
theorem exists_parts_of_isUnsigned {token : List Char} (number : isUnsigned token = true)
    : ∃ ds more,
        token = ds ++ more
        ∧ isWhole ds = true
        ∧ followsWhole more = true
        ∧ ∀ c ∈ more.head?, c.isDigit = false := by
  simp only [isUnsigned, Bool.and_eq_true] at number
  refine ⟨_, _, List.takeWhile_append_dropWhile.symm, number.1, number.2, fun ch first => ?_⟩
  have boundary := List.head?_dropWhile_not Char.isDigit token
  rw [Option.mem_def.mp first] at boundary
  exact boundary

/-- A number without a sign is read as a natural number if and only if it is the digits of one
in the range of a word.
-/
theorem readNumber_token {token : List Char} (h : c.At (token ++ rest))
    (number : isUnsigned token = true) (ended : StopsNumber rest)
    : (∃ n d,
        n ≤ greatestWord 64
        ∧ token = Nat.toDigits 10 n
        ∧ readNumber false c = .ok (.natural n, d)
        ∧ d.At rest)
      ∨ (∀ n ≤ greatestWord 64, token ≠ Nat.toDigits 10 n)
        ∧ NotNatural (readNumber false c) := by
  obtain ⟨ds, more, rfl, whole, follows, boundary⟩ := exists_parts_of_isUnsigned number
  rw [List.append_assoc] at h
  rcases eq_or_ne more [] with rfl | nonempty
  · have stop : ∀ c ∈ rest.head?, c.isDigit = false := by
      intro ch first
      have other := ended ch first
      simp only [isNumberChar, Bool.or_eq_false_iff] at other
      exact other.1.1.1.1.1
    rw [List.append_nil]
    rcases readNumber_digits h whole stop with ⟨d, fits, read, after⟩ | ⟨above, other⟩
    · refine .inl ⟨_, d, fits, (toDigits_ofDigitChars whole).symm, ?_, after⟩
      rw [read, readAfterWhole_end after ended]
    · refine .inr ⟨fun n fits same => ?_, other⟩
      rw [same, Nat.ofDigitChars_ten_toDigits] at above
      omega
  · obtain ⟨ch, tail, rfl, mark⟩ := exists_cons_of_followsWhole follows nonempty
    refine .inr ⟨fun n _ same => ?_, ?_⟩
    · -- the mark is no digit
      have member : ch ∈ Nat.toDigits 10 n := by
        rw [← same]
        simp
      have digit := (isDigits_iff.mp (isDigits_toDigits n)).2 ch member
      rw [boundary ch rfl] at digit
      cases digit
    · rcases readNumber_digits h whole boundary with ⟨d, -, read, after⟩ | ⟨-, other⟩
      · rw [read]
        exact notNatural_readAfterWhole _ after mark
      · exact other

end Reading

end CallWatch.Json

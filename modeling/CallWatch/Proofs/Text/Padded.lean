import CallWatch.Proofs.Text.Numeral
import Mathlib.Algebra.Group.Nat.Defs

/-! Numbers that are padded with zeros to one width.
Such a text has the width of its place and the value of the number, and texts of one width come
in the order of their values: the first digit in which two differ decides both.
-/

namespace CallWatch.Text

-----------------------------------------------------------------------------------------
-- Digits
-----------------------------------------------------------------------------------------

/-- Digits have a value, by induction on them. -/
theorem digitsValue?_of_isDigit {cs : List Char} (digits : ∀ c ∈ cs, c.isDigit = true)
    (value : Nat)
    : digitsValue? value cs = some (Nat.ofDigitChars 10 cs value) := by
  induction cs generalizing value with
  | nil => rfl
  | cons c rest ih =>
      obtain ⟨first, others⟩ := List.forall_mem_cons.mp digits
      rw [digitsValue?, digitValue?_of_isDigit first, Nat.ofDigitChars_cons, Nat.mul_comm 10]
      exact ih others _

/-- Each digit is one place of the value, by induction on the digits. -/
theorem ofDigitChars_bounds {cs : List Char} (digits : ∀ c ∈ cs, c.isDigit = true) (value : Nat)
    : 10 ^ cs.length * value ≤ Nat.ofDigitChars 10 cs value
      ∧ Nat.ofDigitChars 10 cs value < 10 ^ cs.length * (value + 1) := by
  induction cs generalizing value with
  | nil => simp
  | cons c rest ih =>
      obtain ⟨first, others⟩ := List.forall_mem_cons.mp digits
      have digit : c.toNat - '0'.toNat ≤ 9 := by
        have most : c.toNat ≤ 57 := by
          simp only [Char.isDigit, Bool.and_eq_true, decide_eq_true_eq] at first
          exact first.2
        have zero : '0'.toNat = 48 := rfl
        omega
      obtain ⟨least, most⟩ := ih others (10 * value + (c.toNat - '0'.toNat))
      rw [Nat.ofDigitChars_cons, List.length_cons, Nat.pow_succ, Nat.mul_assoc, Nat.mul_assoc]
      constructor
      · exact Nat.le_trans (Nat.mul_le_mul_left _ (by omega)) least
      · exact Nat.lt_of_lt_of_le most (Nat.mul_le_mul_left _ (by omega))

/-- Of two lists of digits of one length the one with the smaller value comes first, by
induction on the digits.
-/
theorem lt_of_ofDigitChars_lt {cs ds : List Char} (same : cs.length = ds.length)
    (left : ∀ c ∈ cs, c.isDigit = true) (right : ∀ d ∈ ds, d.isDigit = true) {value : Nat}
    (h : Nat.ofDigitChars 10 cs value < Nat.ofDigitChars 10 ds value)
    : cs < ds := by
  induction cs generalizing ds value with
  | nil =>
      rw [List.length_eq_zero_iff.mp same.symm] at h
      exact absurd h (Nat.lt_irrefl _)
  | cons c cs ih =>
      cases ds with
      | nil => cases same
      | cons d ds =>
          obtain ⟨first, others⟩ := List.forall_mem_cons.mp left
          obtain ⟨first', others'⟩ := List.forall_mem_cons.mp right
          have lengths : cs.length = ds.length := Nat.succ.inj same
          rw [Nat.ofDigitChars_cons, Nat.ofDigitChars_cons] at h
          rw [List.cons_lt_cons_iff]
          rcases Nat.lt_trichotomy c.toNat d.toNat with less | equal | more
          · exact .inl less
          · obtain rfl : c = d := Char.toNat_inj.mp equal
            exact .inr ⟨rfl, ih lengths others others' h⟩
          · have digit : '0'.toNat ≤ d.toNat := by
              simp only [Char.isDigit, Bool.and_eq_true, decide_eq_true_eq] at first'
              exact first'.1
            have least := (ofDigitChars_bounds others (10 * value + (c.toNat - '0'.toNat))).1
            have most := (ofDigitChars_bounds others' (10 * value + (d.toNat - '0'.toNat))).2
            have places : 10 ^ ds.length * (10 * value + (d.toNat - '0'.toNat) + 1)
                ≤ 10 ^ cs.length * (10 * value + (c.toNat - '0'.toNat)) := by
              rw [lengths]
              exact Nat.mul_le_mul_left _ (by omega)
            omega

/-- Where two texts of one length differ, what follows them does not matter. -/
theorem append_lt_append {a b : List Char} (same : a.length = b.length) (h : a < b)
    (x y : List Char)
    : a ++ x < b ++ y := by
  induction h with
  | nil => cases same
  | rel less => exact .rel less
  | cons _ ih => exact .cons (ih (Nat.succ.inj same))

-----------------------------------------------------------------------------------------
-- Padded numbers
-----------------------------------------------------------------------------------------

section Padded
variable {width n : Nat}

theorem isDigit_of_mem_padded {c : Char} (member : c ∈ padded width n)
    : c.isDigit = true := by
  rcases List.mem_append.mp member with zero | digit
  · rw [List.eq_of_mem_replicate zero]
    rfl
  · exact Nat.isDigit_of_mem_toDigits (by decide) (by decide) digit

theorem ne_of_mem_padded {c mark : Char} (other : mark.isDigit = false)
    (member : c ∈ padded width n)
    : c ≠ mark := by
  rintro rfl
  cases other.symm.trans (isDigit_of_mem_padded member)

theorem length_padded (some : 0 < width) (fits : n < 10 ^ width)
    : (padded width n).length = width := by
  have short := (Nat.length_toDigits_le_iff (b := 10) (by decide) some).mpr fits
  simp only [padded, List.length_append, List.length_replicate]
  omega

/-- A padded number can be cut off from what follows it. -/
theorem take_padded (some : 0 < width) (fits : n < 10 ^ width) (rest : List Char)
    : (padded width n ++ rest).take width = padded width n :=
  List.take_left' (length_padded some fits)

theorem drop_padded (some : 0 < width) (fits : n < 10 ^ width) (rest : List Char)
    : (padded width n ++ rest).drop width = rest :=
  List.drop_left' (length_padded some fits)

/-- Zeros in front do not change a value. -/
theorem ofDigitChars_padded (width n : Nat)
    : Nat.ofDigitChars 10 (padded width n) 0 = n := by
  have zeros (k : Nat) : Nat.ofDigitChars 10 (List.replicate k '0') 0 = 0 := by
    induction k with
    | zero => rfl
    | succ k ih =>
        rw [List.replicate_succ, Nat.ofDigitChars_cons]
        exact ih
  rw [padded, Nat.ofDigitChars_append, zeros, Nat.ofDigitChars_ten_toDigits]

/-- A padded number reads back. -/
theorem digitsValue?_padded (width n : Nat)
    : digitsValue? 0 (padded width n) = some n := by
  rw [digitsValue?_of_isDigit fun _ => isDigit_of_mem_padded, ofDigitChars_padded]

/-- Padded to one width, numbers come in their order. -/
theorem padded_lt_padded {m : Nat} (some : 0 < width) (fits : m < 10 ^ width) (h : n < m)
    : padded width n < padded width m := by
  have lengths : (padded width n).length = (padded width m).length := by
    rw [length_padded some (Nat.lt_trans h fits), length_padded some fits]
  have values : Nat.ofDigitChars 10 (padded width n) 0
      < Nat.ofDigitChars 10 (padded width m) 0 := by
    rwa [ofDigitChars_padded, ofDigitChars_padded]
  exact lt_of_ofDigitChars_lt lengths (fun _ => isDigit_of_mem_padded)
    (fun _ => isDigit_of_mem_padded) values

end Padded

end CallWatch.Text

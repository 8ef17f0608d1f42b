import CallWatch.Text.Integer
import Mathlib.Data.Nat.Notation

/-! Decimal numerals, and the readers that take them.
A numeral is at least one digit, with a plus sign before them or without. A reader of natural
numbers takes the numerals of its range and no other text; so does a reader of integers where
the value is positive.
-/

namespace CallWatch.Text

/-- A text is a numeral of a number: at least one digit, and a plus sign before them or not. -/
def Numeral (n : Nat) (cs : List Char) : Prop :=
  ∃ digits,
    digits ≠ []
    ∧ (∀ d ∈ digits, d.isDigit = true)
    ∧ n = Nat.ofDigitChars 10 digits 0
    ∧ (cs = digits ∨ cs = '+' :: digits)

-----------------------------------------------------------------------------------------
-- Digits
-----------------------------------------------------------------------------------------

theorem digitValue?_of_isDigit {c : Char} (digit : c.isDigit = true)
    : digitValue? c = some (c.toNat - '0'.toNat) := by
  simp only [Char.isDigit, Bool.and_eq_true, decide_eq_true_eq] at digit
  exact if_pos digit

theorem isDigit_of_digitValue? {c : Char} {n : Nat} (h : digitValue? c = some n)
    : c.isDigit = true := by
  unfold digitValue? at h
  split at h
  · next digit =>
    simp only [Char.isDigit, Bool.and_eq_true, decide_eq_true_eq]
    exact digit
  · cases h

/-- Further digits never make a value smaller, by induction on them. -/
theorem le_ofDigitChars (cs : List Char) (value : Nat)
    : value ≤ Nat.ofDigitChars 10 cs value := by
  induction cs generalizing value with
  | nil => exact Nat.le_refl _
  | cons c rest ih =>
      rw [Nat.ofDigitChars_cons]
      have := ih (10 * value + (c.toNat - '0'.toNat))
      omega

/-- A reader of digits takes digits whose value lies in the range, by induction on them: once
the value has left the range it does not come back.
-/
theorem readDigits_eq_ok_iff {greatest value n : Nat} {overflow : IntegerFault} {cs : List Char}
    (fits : value ≤ greatest)
    : readDigits greatest overflow value cs = .ok n
      ↔ (∀ d ∈ cs, d.isDigit = true) ∧ n = Nat.ofDigitChars 10 cs value ∧ n ≤ greatest := by
  induction cs generalizing value with
  | nil =>
      simp only [readDigits, Except.ok.injEq, List.not_mem_nil, false_implies, implies_true,
        Nat.ofDigitChars_nil, true_and]
      constructor
      · rintro rfl
        exact ⟨rfl, fits⟩
      · exact fun h => h.1.symm
  | cons c rest ih =>
      rw [List.forall_mem_cons, Nat.ofDigitChars_cons, readDigits]
      cases read : digitValue? c with
      | none =>
          refine ⟨fun h => (nomatch h), fun h => ?_⟩
          cases read.symm.trans (digitValue?_of_isDigit h.1.1)
      | some digit =>
          have isDigit := isDigit_of_digitValue? read
          cases read.symm.trans (digitValue?_of_isDigit isDigit)
          rw [Nat.mul_comm value 10]
          have grows := le_ofDigitChars rest (10 * value + (c.toNat - '0'.toNat))
          simp only
          split
          · next above =>
            refine ⟨fun h => (nomatch h), fun h => ?_⟩
            omega
          · next below =>
            rw [ih (Nat.le_of_not_lt below)]
            simp only [isDigit, true_and]

-----------------------------------------------------------------------------------------
-- Numerals
-----------------------------------------------------------------------------------------

theorem not_numeral_nil (n : Nat)
    : ¬ Numeral n [] := by
  rintro ⟨digits, some, -, -, h | h⟩
  · exact some h.symm
  · cases h

/-- After a plus sign a numeral goes on with its digits. -/
theorem numeral_plus {n : Nat} {rest : List Char}
    : Numeral n ('+' :: rest)
      ↔ rest ≠ [] ∧ (∀ d ∈ rest, d.isDigit = true) ∧ n = Nat.ofDigitChars 10 rest 0 := by
  constructor
  · rintro ⟨digits, some, all, value, rfl | h⟩
    · cases all '+' (.head _)
    · cases h
      exact ⟨some, all, value⟩
  · rintro ⟨some, all, value⟩
    exact ⟨rest, some, all, value, .inr rfl⟩

/-- Without a plus sign a numeral is its digits. -/
theorem numeral_digits {n : Nat} {c : Char} {rest : List Char} (unsigned : c ≠ '+')
    : Numeral n (c :: rest)
      ↔ (∀ d ∈ c :: rest, d.isDigit = true) ∧ n = Nat.ofDigitChars 10 (c :: rest) 0 := by
  constructor
  · rintro ⟨digits, some, all, value, rfl | h⟩
    · exact ⟨all, value⟩
    · cases h
      exact absurd rfl unsigned
  · rintro ⟨all, value⟩
    exact ⟨c :: rest, List.cons_ne_nil _ _, all, value, .inl rfl⟩

/-- A text is a numeral of one number at most. -/
theorem Numeral.unique {n m : Nat} {cs : List Char} (hn : Numeral n cs) (hm : Numeral m cs)
    : n = m := by
  cases cs with
  | nil => exact absurd hn (not_numeral_nil n)
  | cons c rest =>
      by_cases sign : c = '+'
      · subst sign
        rw [(numeral_plus.mp hn).2.2, (numeral_plus.mp hm).2.2]
      · rw [((numeral_digits sign).mp hn).2, ((numeral_digits sign).mp hm).2]

-----------------------------------------------------------------------------------------
-- Readers
-----------------------------------------------------------------------------------------

/-- A reader of natural numbers takes the numerals of its range and nothing else, by cases on
the sign.
-/
theorem readNatural_eq_ok_iff {greatest n : Nat} {cs : List Char}
    : readNatural greatest cs = .ok n ↔ Numeral n cs ∧ n ≤ greatest := by
  have read (digits : List Char) :
      readDigits greatest .tooLarge 0 digits = .ok n
        ↔ (∀ d ∈ digits, d.isDigit = true) ∧ n = Nat.ofDigitChars 10 digits 0
          ∧ n ≤ greatest :=
    readDigits_eq_ok_iff (Nat.zero_le _)
  unfold readNatural
  split
  · exact ⟨fun h => (nomatch h), fun h => absurd h.1 (not_numeral_nil n)⟩
  · exact ⟨fun h => (nomatch h), fun h => absurd rfl (numeral_plus.mp h.1).1⟩
  · next digits more =>
    rw [read, numeral_plus]
    have some : digits ≠ [] := by
      rintro rfl
      exact more rfl
    simp only [ne_eq, some, not_false_eq_true, true_and, and_assoc]
  · next nonempty _ unsigned =>
    cases cs with
    | nil => exact absurd rfl nonempty
    | cons c rest =>
        have other : c ≠ '+' := by
          rintro rfl
          exact unsigned rest rfl
        rw [read, numeral_digits other, and_assoc]

/-- Behind a minus sign there is no numeral. -/
theorem not_numeral_minus (n : Nat) (rest : List Char)
    : ¬ Numeral n ('-' :: rest) := by
  intro h
  cases ((numeral_digits (by decide)).mp h).1 '-' (.head _)

/-- A reader of integers takes the numerals of its range where the value is positive; behind a
minus sign no value is.
-/
theorem readInteger_eq_ok_iff {least greatest n : Nat} {cs : List Char} (positive : 0 < n)
    : readInteger least greatest cs = .ok (n : Int) ↔ Numeral n cs ∧ n ≤ greatest := by
  have ofNat (read : Except IntegerFault Nat) :
      read.map Int.ofNat = .ok (n : Int) ↔ read = .ok n := by
    cases read with
    | error => exact ⟨fun h => (nomatch h), fun h => (nomatch h)⟩
    | ok m => simp only [Except.map, Except.ok.injEq, Int.ofNat_eq_natCast, Int.natCast_inj]
  unfold readInteger
  split
  · exact ⟨fun h => (nomatch h), fun h => absurd h.1 (not_numeral_nil n)⟩
  · exact ⟨fun h => (nomatch h), fun h => absurd rfl (numeral_plus.mp h.1).1⟩
  · exact ⟨fun h => (nomatch h), fun h => absurd h.1 (not_numeral_minus n [])⟩
  · next more =>
    rw [ofNat, ← readNatural_eq_ok_iff, readNatural]
    exact more
  · next digits _ =>
    refine ⟨fun h => ?_, fun h => absurd h.1 (not_numeral_minus n digits)⟩
    cases read : readDigits least .tooSmall 0 digits with
    | error fault =>
        rw [read] at h
        cases h
    | ok m =>
        rw [read] at h
        have same : -(m : Int) = n := Except.ok.inj h
        omega
  · next nonempty plus minus signed unsigned =>
    rw [ofNat, ← readNatural_eq_ok_iff, readNatural]
    · exact nonempty
    · exact plus
    · exact signed

end CallWatch.Text

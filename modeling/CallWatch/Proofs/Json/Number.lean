import CallWatch.Json.Form
import CallWatch.Proofs.Binary64.Rounding

/-! Written numbers are numbers of the grammar: natural numbers, and binary64 numbers in
every layout.
-/

namespace CallWatch.Json

-----------------------------------------------------------------------------------------
-- Putting numbers together
-----------------------------------------------------------------------------------------

theorem isDigits_iff {cs : List Char}
    : isDigits cs = true ↔ cs ≠ [] ∧ ∀ c ∈ cs, c.isDigit = true := by
  simp [isDigits]

/-- Digits with a stop after them are what a reader of digits takes. -/
theorem takeWhile_isDigit {cs rest : List Char} (digits : ∀ c ∈ cs, c.isDigit = true)
    (stop : ∀ c ∈ rest.head?, c.isDigit = false)
    : (cs ++ rest).takeWhile Char.isDigit = cs
      ∧ (cs ++ rest).dropWhile Char.isDigit = rest := by
  rw [List.takeWhile_append_of_pos digits, List.dropWhile_append_of_pos digits]
  cases rest with
  | nil => simp
  | cons c rest =>
      have blocked : c.isDigit = false := stop c rfl
      simp [blocked]

/-- A whole part and what may follow it make a number. -/
theorem isUnsigned_append {whole rest : List Char} (isWhole : isWhole whole = true)
    (follows : followsWhole rest = true) (stop : ∀ c ∈ rest.head?, c.isDigit = false)
    : isUnsigned (whole ++ rest) = true := by
  have digits : ∀ c ∈ whole, c.isDigit = true := by
    simp only [Json.isWhole, Bool.and_eq_true] at isWhole
    exact (isDigits_iff.mp isWhole.1).2
  obtain ⟨taken, left⟩ := takeWhile_isDigit digits stop
  simp [isUnsigned, taken, left, isWhole, follows]

/-- A point and digits may follow a whole part, and then an exponent. -/
theorem followsWhole_point {fraction rest : List Char} (digits : isDigits fraction = true)
    (ends : endsNumber rest = true)
    : followsWhole ('.' :: (fraction ++ rest)) = true := by
  have stop : ∀ c ∈ rest.head?, c.isDigit = false := by
    intro c first
    cases rest with
    | nil => cases first
    | cons mark _ =>
        cases first
        simp only [endsNumber, Bool.and_eq_true, Bool.or_eq_true, decide_eq_true_eq] at ends
        rcases ends.1 with rfl | rfl <;> rfl
  obtain ⟨taken, left⟩ := takeWhile_isDigit (isDigits_iff.mp digits).2 stop
  simp [followsWhole, taken, left, digits, ends]

/-- A number without a sign begins with a digit, so it is a number. -/
theorem isNumber_of_isUnsigned {cs : List Char} (h : isUnsigned cs = true)
    : isNumber cs = true := by
  cases cs with
  | nil => cases h
  | cons c rest =>
      have first : c ≠ '-' := by
        rintro rfl
        cases h
      simp only [isNumber, if_neg first]
      exact h

-----------------------------------------------------------------------------------------
-- The characters of numbers
-----------------------------------------------------------------------------------------

/-- Numbers and their parts consist of number characters. -/
def AllNumberChars (cs : List Char) : Prop :=
  ∀ c ∈ cs, isNumberChar c = true

theorem AllNumberChars.cons {c : Char} {rest : List Char} (first : isNumberChar c = true)
    (others : AllNumberChars rest)
    : AllNumberChars (c :: rest) := by
  intro d member
  rcases List.mem_cons.mp member with rfl | member
  · exact first
  · exact others d member

theorem allNumberChars_of_isDigits {cs : List Char} (h : isDigits cs = true)
    : AllNumberChars cs := by
  intro c member
  simp [isNumberChar, (isDigits_iff.mp h).2 c member]

theorem allNumberChars_of_isExponent {cs : List Char} (h : isExponent cs = true)
    : AllNumberChars cs := by
  cases cs with
  | nil => cases h
  | cons sign rest =>
      simp only [isExponent] at h
      split at h
      · next signed =>
        refine .cons ?_ (allNumberChars_of_isDigits h)
        simp only [Bool.or_eq_true, decide_eq_true_eq] at signed
        rcases signed with rfl | rfl <;> rfl
      · exact allNumberChars_of_isDigits h

theorem allNumberChars_of_endsNumber {cs : List Char} (h : endsNumber cs = true)
    : AllNumberChars cs := by
  cases cs with
  | nil => exact fun _ member => nomatch member
  | cons mark rest =>
      simp only [endsNumber, Bool.and_eq_true, Bool.or_eq_true, decide_eq_true_eq] at h
      refine .cons ?_ (allNumberChars_of_isExponent h.2)
      rcases h.1 with rfl | rfl <;> rfl

theorem allNumberChars_of_parts {cs : List Char}
    (digits : isDigits (cs.takeWhile Char.isDigit) = true)
    (others : AllNumberChars (cs.dropWhile Char.isDigit))
    : AllNumberChars cs := by
  intro c member
  rw [← List.takeWhile_append_dropWhile (p := Char.isDigit) (l := cs)] at member
  rcases List.mem_append.mp member with member | member
  · exact allNumberChars_of_isDigits digits c member
  · exact others c member

theorem allNumberChars_of_followsWhole {cs : List Char} (h : followsWhole cs = true)
    : AllNumberChars cs := by
  cases cs with
  | nil => exact fun _ member => nomatch member
  | cons point rest =>
      simp only [followsWhole] at h
      split at h
      · next same =>
        subst same
        simp only [Bool.and_eq_true] at h
        exact .cons rfl (allNumberChars_of_parts h.1 (allNumberChars_of_endsNumber h.2))
      · exact allNumberChars_of_endsNumber h

theorem allNumberChars_of_isUnsigned {cs : List Char} (h : isUnsigned cs = true)
    : AllNumberChars cs := by
  simp only [isUnsigned, isWhole, Bool.and_eq_true] at h
  exact allNumberChars_of_parts h.1.1 (allNumberChars_of_followsWhole h.2)

theorem allNumberChars_of_isNumber {cs : List Char} (h : isNumber cs = true)
    : AllNumberChars cs := by
  cases cs with
  | nil => cases h
  | cons c rest =>
      simp only [isNumber] at h
      split at h
      · next minus =>
        subst minus
        exact .cons rfl (allNumberChars_of_isUnsigned h)
      · exact allNumberChars_of_isUnsigned h

-----------------------------------------------------------------------------------------
-- Digits
-----------------------------------------------------------------------------------------

theorem isDigits_toDigits (n : Nat)
    : isDigits (Nat.toDigits 10 n) = true :=
  isDigits_iff.mpr
    ⟨Nat.toDigits_ne_nil, fun _ => Nat.isDigit_of_mem_toDigits (by decide) (by decide)⟩

/-- The digits of a number other than zero do not begin with a zero, by induction on the
number.
-/
theorem head?_toDigits {n : Nat} (positive : 0 < n)
    : (Nat.toDigits 10 n).head? ≠ some '0' := by
  induction n using Nat.strongRecOn with
  | ind n ih =>
      rw [Nat.toDigits_eq_if (by decide)]
      split
      · next small =>
        have single : ∀ k : Nat, k < 10 → 0 < k → k.digitChar ≠ '0' := by decide
        simpa using single n small positive
      · next large =>
        have before := ih (n / 10) (by omega) (by omega)
        obtain ⟨c, rest, digits⟩ := List.exists_cons_of_ne_nil (Nat.toDigits_ne_nil (n := n / 10))
        rw [digits] at before ⊢
        exact before

/-- Digits that do not begin with a zero are a whole part. -/
theorem isWhole_of_head {cs : List Char} (digits : isDigits cs = true)
    (lead : cs.head? ≠ some '0')
    : isWhole cs = true := by
  simp [isWhole, digits, lead]

theorem isWhole_singleton {c : Char} (digit : c.isDigit = true)
    : isWhole [c] = true := by
  simp [isWhole, isDigits, digit]

theorem isWhole_toDigits (n : Nat)
    : isWhole (Nat.toDigits 10 n) = true := by
  rcases Nat.eq_zero_or_pos n with rfl | positive
  · rfl
  · exact isWhole_of_head (isDigits_toDigits n) (head?_toDigits positive)

theorem isNumber_toDigits (n : Nat)
    : isNumber (Nat.toDigits 10 n) = true := by
  refine isNumber_of_isUnsigned ?_
  rw [← List.append_nil (Nat.toDigits 10 n)]
  exact isUnsigned_append (isWhole_toDigits n) rfl (by simp)

-----------------------------------------------------------------------------------------
-- Decimal numbers
-----------------------------------------------------------------------------------------

open Binary64 in
/-- An exponent as a layout writes it ends a number. -/
theorem endsNumber_exponentText (exponent : Int)
    : endsNumber ('e' :: Layout.exponentText exponent) = true := by
  have digits := isDigits_toDigits exponent.natAbs
  by_cases negative : exponent < 0 <;>
    simp [endsNumber, Layout.exponentText, isExponent, negative, digits]

theorem isDigits_append {cs ds : List Char} (first : ∀ c ∈ cs, c.isDigit = true)
    (last : isDigits ds = true)
    : isDigits (cs ++ ds) = true := by
  obtain ⟨nonempty, digits⟩ := isDigits_iff.mp last
  refine isDigits_iff.mpr ⟨by simp [nonempty], ?_⟩
  intro c member
  rcases List.mem_append.mp member with member | member
  · exact first c member
  · exact digits c member

theorem isDigit_of_mem_zeros {n : Nat}
    : ∀ c ∈ List.replicate n '0', c.isDigit = true := by
  intro c member
  rw [List.eq_of_mem_replicate member]
  rfl

section Layouts
variable {ds : List Char} (digits : isDigits ds = true)
include digits

/-- Digits with zeros after them, a point and a zero. -/
theorem isUnsigned_widened (lead : ds.head? ≠ some '0') (n : Nat)
    : isUnsigned (ds ++ List.replicate n '0' ++ ['.', '0']) = true := by
  obtain ⟨nonempty, all⟩ := isDigits_iff.mp digits
  refine isUnsigned_append (isWhole_of_head ?_ ?_) rfl (by simp)
  · refine isDigits_iff.mpr ⟨by simp [nonempty], ?_⟩
    intro c member
    rcases List.mem_append.mp member with member | member
    · exact all c member
    · exact isDigit_of_mem_zeros c member
  · obtain ⟨c, rest, rfl⟩ := List.exists_cons_of_ne_nil nonempty
    exact lead

theorem isUnsigned_divided (lead : ds.head? ≠ some '0') {n : Nat} (positive : 0 < n)
    (inside : n < ds.length)
    : isUnsigned (ds.take n ++ '.' :: ds.drop n) = true := by
  obtain ⟨nonempty, all⟩ := isDigits_iff.mp digits
  have before : isDigits (ds.take n) = true :=
    isDigits_iff.mpr
      ⟨by simp [nonempty]; omega, fun c member => all c (List.mem_of_mem_take member)⟩
  have after : isDigits (ds.drop n) = true :=
    isDigits_iff.mpr ⟨by simpa using inside, fun c member => all c (List.mem_of_mem_drop member)⟩
  have follows : followsWhole ('.' :: ds.drop n) = true := by
    simpa using followsWhole_point after (show endsNumber [] = true from rfl)
  refine isUnsigned_append (isWhole_of_head before ?_) follows (by simp)
  rwa [List.head?_take, if_neg (by omega)]

theorem isUnsigned_below (n : Nat)
    : isUnsigned ('0' :: '.' :: (List.replicate n '0' ++ ds)) = true := by
  have fraction := isDigits_append (isDigit_of_mem_zeros (n := n)) digits
  have follows : followsWhole ('.' :: (List.replicate n '0' ++ ds)) = true := by
    simpa using followsWhole_point fraction (show endsNumber [] = true from rfl)
  exact isUnsigned_append (isWhole_singleton rfl) follows (by simp)

theorem isUnsigned_scientific {ending : List Char} (ends : endsNumber ('e' :: ending) = true)
    : ∀ first rest, ds = first :: rest
      → isUnsigned
          (match rest with
            | [] => first :: 'e' :: ending
            | _ :: _ => first :: '.' :: (rest ++ 'e' :: ending)) = true := by
  rintro first rest rfl
  obtain ⟨-, all⟩ := isDigits_iff.mp digits
  have whole := isWhole_singleton (all first (.head _))
  cases rest with
  | nil => exact isUnsigned_append whole ends (by simp)
  | cons second rest =>
      have fraction : isDigits (second :: rest) = true :=
        isDigits_iff.mpr ⟨by simp, fun c member => all c (.tail _ member)⟩
      exact isUnsigned_append whole (followsWhole_point fraction ends) (by simp)

end Layouts

open Binary64 in
/-- A decimal number other than zero is written as a number, by cases on its layout. -/
theorem isUnsigned_write (layout : Layout) {d : Decimal} (positive : 0 < d.digits)
    : isUnsigned (layout.write d) = true := by
  have digits := isDigits_toDigits d.digits
  have lead := head?_toDigits positive
  simp only [Layout.write]
  generalize Nat.toDigits 10 d.digits = ds at digits lead
  split
  · split
    · exact isUnsigned_widened digits lead _
    · split
      · exact isUnsigned_divided digits lead (by omega) (by omega)
      · exact isUnsigned_below digits _
  · have ends := endsNumber_exponentText ((ds.length : Int) + d.exponent - 1)
    obtain ⟨first, rest, rfl⟩ := List.exists_cons_of_ne_nil (isDigits_iff.mp digits).1
    have scientific := isUnsigned_scientific digits ends first rest rfl
    cases rest with
    | nil => exact scientific
    | cons second rest => exact scientific

-----------------------------------------------------------------------------------------
-- Binary64 numbers
-----------------------------------------------------------------------------------------

section Shortest
open Binary64

/-- The point that is picked lies in the interval. -/
theorem holds_of_pick? {i : Interval} {g : Grid} {point : Nat} (h : i.pick? g = some point)
    : i.holds g point = true := by
  simp only [Interval.pick?] at h
  split at h
  · next low high =>
    cases h
    rcases roundHalfEven_cases (i.value * g.scale) g.unit with same | same
    · rw [same]
      exact low
    · rw [same]
      exact high
  · next low _ =>
    cases h
    exact low
  · next _ high =>
    cases h
    exact high
  · cases h

theorem pos_of_holds {i : Interval} {g : Grid} {point : Nat} (low : 0 < i.low)
    (scale : 0 < g.scale) (h : i.holds g point = true)
    : 0 < point := by
  have positive := Nat.mul_pos low scale
  rcases Nat.eq_zero_or_pos point with rfl | above
  · simp only [Interval.holds, Nat.zero_mul] at h
    split at h
    · simp at h
      omega
    · simp at h
  · exact above

/-- The search ends with digits other than zero, or with none at all. -/
theorem search_digits {i : Interval} (low : 0 < i.low) (exponent : Int) (fuel : Nat)
    : 0 < (i.search exponent fuel).digits ∨ i.search exponent fuel = ⟨0, 0⟩ := by
  induction fuel generalizing exponent with
  | zero => exact Or.inr rfl
  | succ fuel ih =>
      simp only [Interval.search]
      split
      · next point picked =>
        have scale : 0 < (Grid.of exponent).scale := Nat.pow_pos (by decide)
        exact Or.inl (pos_of_holds low scale (holds_of_pick? picked))
      · exact ih (exponent - 1)

theorem strip_digits (d : Decimal) (positive : 0 < d.digits)
    : 0 < d.strip.digits := by
  induction d using Decimal.strip.induct with
  | case1 d zero ih =>
      rw [Decimal.strip, if_pos zero]
      exact ih (by simp only; omega)
  | case2 d last =>
      rw [Decimal.strip, if_neg last]
      exact positive

theorem shortest_digits {magnitude : Nat} (positive : 0 < magnitude)
    : 0 < (shortest magnitude).digits ∨ shortest magnitude = ⟨0, 0⟩ := by
  have low : 0 < (Interval.of magnitude).low := by
    have : 0 < scaled magnitude := by
      simp only [scaled]
      split
      · exact positive
      · exact Nat.mul_pos (Nat.lt_of_lt_of_le (Nat.pow_pos (by decide)) (Nat.le_add_right _ _))
          (Nat.pow_pos (by decide))
    simp only [Interval.of]
    omega
  simp only [shortest]
  rcases search_digits low (Interval.of magnitude).leading 17 with digits | none
  · exact Or.inl (strip_digits _ digits)
  · refine Or.inr ?_
    rw [none, Decimal.strip]
    rfl

/-- What a layout writes of a binary64 number is a number of the grammar. -/
theorem isNumber_of_text? {layout : Layout} {x : Binary64} {token : List Char}
    (h : layout.text? x = some token)
    : isNumber token = true := by
  have zero : isUnsigned (layout.write ⟨0, 0⟩) = true := by
    simp only [Layout.write]
    split
    · rfl
    · exact isUnsigned_scientific rfl (endsNumber_exponentText _) '0' [] rfl
  simp only [Layout.text?] at h
  split at h
  · have body :
        isUnsigned
          (if x.isZero = true then ['0', '.', '0'] else layout.write (shortest x.magnitude))
            = true := by
      split
      · rfl
      · next nonzero =>
        have positive : 0 < x.magnitude := by
          simp only [isZero, decide_eq_true_eq] at nonzero
          omega
        rcases shortest_digits positive with digits | none
        · exact isUnsigned_write layout digits
        · exact none ▸ zero
    cases h
    split
    · simpa [isNumber] using body
    · exact isNumber_of_isUnsigned body
  · cases h

end Shortest

end CallWatch.Json

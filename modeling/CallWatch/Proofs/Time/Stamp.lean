import CallWatch.Proofs.Text.ByteOrder
import CallWatch.Proofs.Text.Padded
import CallWatch.Proofs.Time.Calendar
import Mathlib.Data.List.Forall2

/-! Written instants sort and read back.
A text is the year and then numbers of fixed widths, each after its mark, so two texts compare as
the lists of their numbers do. These numbers ascend with the instants: dates with the days, and
within a day the hours, minutes and seconds, where a leap second is the second 60 of its minute.
-/

namespace CallWatch.Time

-----------------------------------------------------------------------------------------
-- Marked numbers
-----------------------------------------------------------------------------------------

/-- Numbers of a fixed width, each after its mark. -/
def marked : List (Char × Nat) → List Nat → List Char
  | (mark, width) :: form, n :: ns => mark :: (Text.padded width n ++ marked form ns)
  | _, _ => []

/-- A number fits into the width after a mark. -/
def Fits (field : Char × Nat) (n : Nat) : Prop :=
  0 < field.2 ∧ n < 10 ^ field.2

section Marked
variable {form : List (Char × Nat)} {ns ms : List Nat}

/-- Marked numbers read back, by induction on the form. -/
theorem marked?_marked (fits : List.Forall₂ Fits form ns) (rest : List Char)
    : marked? form (marked form ns ++ rest) = some (ns, rest) := by
  induction fits with
  | nil => rfl
  | @cons field n form ns first _ ih =>
      obtain ⟨mark, width⟩ := field
      obtain ⟨some, small⟩ := first
      have room : ¬ (Text.padded width n ++ (marked form ns ++ rest)).length < width := by
        rw [List.length_append, Text.length_padded some small]
        omega
      simp only [marked, List.cons_append, List.append_assoc, marked?, ne_eq, not_true, room,
        or_self, if_false, Text.take_padded some small, Text.drop_padded some small,
        Text.digitsValue?_padded, ih, Option.bind_eq_bind, Option.bind_some]
      rfl

/-- Marked numbers come in the order of the lists of the numbers, by induction on the form. -/
theorem marked_lt_marked (left : List.Forall₂ Fits form ns) (right : List.Forall₂ Fits form ms)
    (h : ns < ms) (x y : List Char)
    : marked form ns ++ x < marked form ms ++ y := by
  induction left generalizing ms with
  | nil =>
      cases right
      exact absurd h (List.lt_irrefl _)
  | @cons field n form ns first _ ih =>
      cases right with
      | @cons _ m _ ms first' others =>
          obtain ⟨mark, width⟩ := field
          simp only [marked, List.cons_append, List.append_assoc]
          refine .cons ?_
          rcases List.cons_lt_cons_iff.mp h with less | ⟨rfl, less⟩
          · refine Text.append_lt_append ?_ (Text.padded_lt_padded first'.1 first'.2 less) _ _
            rw [Text.length_padded first.1 first.2, Text.length_padded first'.1 first'.2]
          · exact List.append_left_lt (ih others less)

/-- Each number has one place for its mark and those of its width. -/
theorem length_marked (fits : List.Forall₂ Fits form ns)
    : (marked form ns).length = form.foldr (fun field places => field.2 + 1 + places) 0 := by
  induction fits with
  | nil => rfl
  | @cons field n form ns first _ ih =>
      rw [marked, List.length_cons, List.length_append, Text.length_padded first.1 first.2, ih,
        List.foldr_cons]
      omega

/-- A form without a point writes none. -/
theorem ne_point_of_mem_marked (points : ∀ field ∈ form, field.1 ≠ '.') {c : Char}
    (member : c ∈ marked form ns)
    : c ≠ '.' := by
  induction form generalizing ns with
  | nil => cases member
  | cons field form ih =>
      obtain ⟨first, others⟩ := List.forall_mem_cons.mp points
      cases ns with
      | nil => cases member
      | cons n ns =>
          rcases List.mem_cons.mp member with rfl | member
          · exact first
          · rcases List.mem_append.mp member with digit | later
            · exact Text.ne_of_mem_padded (by decide) digit
            · exact ih others later

end Marked

-----------------------------------------------------------------------------------------
-- Instants
-----------------------------------------------------------------------------------------

namespace Instant

/-- The instant comes before another one. A leap second comes after the second that it follows
and before the next one.
-/
def Before (a b : Instant) : Prop :=
  a.seconds < b.seconds ∨ a.seconds = b.seconds ∧ a.nanos < b.nanos

/-- The instant has a year of four digits. -/
def HasYear (t : Instant) : Prop :=
  0 ≤ t.date.year ∧ t.date.year ≤ 9999

instance (t : Instant) : Decidable t.HasYear :=
  inferInstanceAs (Decidable (_ ∧ _))

/-- The instant is within its second, or within a leap second, which can only follow a second 59
and is the second 60 of its minute.
-/
def IsClock (t : Instant) : Prop :=
  t.nanos < 1000000000 ∨ t.nanos < 2000000000 ∧ t.seconds % 60 = 59

instance (t : Instant) : Decidable t.IsClock :=
  inferInstanceAs (Decidable (_ ∨ _))

/-- The instant that the text of an instant tells: what lasts beyond its second runs into the
next one, except for a leap second.
-/
def shown (t : Instant) : Instant :=
  if t.seconds % 60 = 59 then t
  else ⟨t.seconds + (t.nanos / 1000000000 : Nat), t.nanos % 1000000000⟩

def secondOfDay (t : Instant) : Nat :=
  (t.seconds.fmod 86400).toNat

/-- The numbers after the year, to the second. -/
def clock (t : Instant) : List Nat :=
  [ t.date.month, t.date.day, t.secondOfDay / 3600, t.secondOfDay / 60 % 60,
    t.secondOfDay % 60 + t.nanos / 1000000000 ]

variable {t : Instant}

namespace HasYear

theorem yearText_eq (year : t.HasYear)
    : yearText t.date.year = Text.padded 4 t.date.year.toNat :=
  if_pos year

theorem fits (year : t.HasYear)
    : t.date.year.toNat < 10 ^ 4 := by
  have most := year.2
  omega

end HasYear

theorem shown_of_isClock (clock : t.IsClock)
    : t.shown = t := by
  rw [shown]
  split
  · rfl
  · have within : t.nanos < 1000000000 := by
      rcases clock with within | ⟨-, last⟩
      · exact within
      · contradiction
    rw [Nat.div_eq_of_lt within, Nat.mod_eq_of_lt within]
    simp

theorem secondOfDay_eq (t : Instant)
    : (t.secondOfDay : Int) = t.seconds % 86400 := by
  rw [secondOfDay, Int.fmod_eq_emod_of_nonneg _ (by decide)]
  exact Int.toNat_of_nonneg (Int.emod_nonneg _ (by decide))

theorem date_eq (t : Instant)
    : t.date = Date.ofUnixDay (t.seconds / 86400) := by
  rw [date, Int.fdiv_eq_ediv_of_nonneg _ (by decide)]

theorem isValid_date (t : Instant)
    : t.date.IsValid := by
  rw [date_eq]
  exact Date.isValid_ofUnixDay _

theorem unixDay_date (t : Instant)
    : t.date.unixDay = t.seconds / 86400 := by
  rw [date_eq]
  exact Date.unixDay_ofUnixDay _

theorem secondsText_eq (t : Instant)
    : t.secondsText = yearText t.date.year ++ marked clockForm t.clock := by
  simp only [secondsText, marked, clockForm, clock, secondOfDay, List.append_assoc,
    List.cons_append, List.append_nil]

/-- Up to its leap second, an instant has its numbers in their places. -/
theorem fits_clock (t : Instant) (h : t.nanos < 2000000000)
    : List.Forall₂ Fits clockForm t.clock := by
  have month := t.isValid_date.month_le
  have day := t.isValid_date.day_le
  have whole := t.secondOfDay_eq
  have hour : t.secondOfDay < 86400 := by omega
  simp only [clockForm, clock, List.forall₂_cons, List.Forall₂.nil, and_true, Fits]
  omega

-----------------------------------------------------------------------------------------
-- Reading
-----------------------------------------------------------------------------------------

/-- The numbers of an instant tell it. -/
theorem ofClock?_clock (t : Instant) (h : t.nanos < 2000000000)
    : ofClock? t.date (t.secondOfDay / 3600) (t.secondOfDay / 60 % 60)
        (t.secondOfDay % 60 + t.nanos / 1000000000) t.fraction
      = some t.shown := by
  have whole := t.secondOfDay_eq
  have inside : t.date.IsValid ∧ t.secondOfDay / 3600 < 24 ∧ t.secondOfDay / 60 % 60 < 60
      ∧ t.secondOfDay % 60 + t.nanos / 1000000000 ≤ 60 :=
    ⟨t.isValid_date, by omega⟩
  simp only [ofClock?, if_pos inside, unixDay_date, shown, fraction]
  generalize t.secondOfDay = second at whole inside ⊢
  have hours : second / 60 / 60 = second / 3600 := Nat.div_div_eq_div_mul second 60 60
  obtain ⟨seconds, nanos⟩ := t
  dsimp only at h whole ⊢
  have ofMinute : ((second % 60 : Nat) : Int) = seconds % 60 := by omega
  have carry : nanos / 1000000000 ≤ 1 := by omega
  split <;> split <;> simp only [Option.some.injEq, mk.injEq, and_true] <;> omega

theorem fraction_lt (t : Instant)
    : t.fraction < 1000000000 :=
  Nat.mod_lt _ (by decide)

/-- The number of fraction digits of a text: those between the point, if there is one, and the
mark at its end.
-/
def fractionDigits (text : List Char) : Nat :=
  (text.dropWhile (· ≠ '.')).length - 2

/-- The end of a text tells a fraction in nanoseconds with so many digits. -/
structure EndsIn (fraction digits : Nat) (tail : List Char) : Prop where
  read : fraction? tail = some fraction
  digits : fractionDigits tail = digits

/-- Fraction digits read back as the nanoseconds that they stand for. -/
theorem endsIn_padded {width n : Nat} (least : 0 < width) (most : width ≤ 9)
    (fits : n < 10 ^ width)
    : EndsIn (n * tenPow (9 - width)) width ('.' :: (Text.padded width n ++ ['Z'])) where
  read := by
    have last : (Text.padded width n ++ ['Z']).getLast? = some 'Z' := List.getLast?_concat
    rw [fraction?]
    simp only [List.dropLast_concat, Text.length_padded least fits, last,
      Text.digitsValue?_padded, Option.map_some]
    exact if_pos ⟨trivial, least, most⟩
  digits := by
    simp [fractionDigits, Text.length_padded least fits]

theorem endsIn_full (t : Instant)
    : EndsIn t.fraction 9 ('.' :: (Text.padded 9 t.fraction ++ ['Z'])) := by
  have ends := endsIn_padded (by decide : 0 < 9) (Nat.le_refl 9) t.fraction_lt
  rwa [Nat.sub_self, show tenPow 0 = 1 from rfl, Nat.mul_one] at ends

/-- Digits that are all zero need not be written. -/
theorem endsIn_quotient {fraction width unit : Nat} (least : 0 < width) (most : width ≤ 9)
    (scale : tenPow (9 - width) = unit) (fits : fraction / unit < 10 ^ width)
    (zeros : fraction % unit = 0)
    : EndsIn fraction width ('.' :: (Text.padded width (fraction / unit) ++ ['Z'])) := by
  have ends := endsIn_padded least most fits
  rwa [scale, Nat.div_mul_cancel (Nat.dvd_of_mod_eq_zero zeros)] at ends

theorem endsIn_short (t : Instant)
    : ∃ tail digits, t.shortText = String.ofList (t.secondsText ++ tail)
      ∧ digits ∈ [0, 3, 6, 9] ∧ EndsIn t.fraction digits tail := by
  have small := t.fraction_lt
  simp only [shortText, List.append_assoc]
  split
  · next none => exact ⟨_, 0, rfl, by decide, by rw [none]; rfl, rfl⟩
  split
  · next millis =>
    exact ⟨_, 3, rfl, by decide, endsIn_quotient (by decide) (by decide) rfl (by omega) millis⟩
  split
  · next micros =>
    exact ⟨_, 6, rfl, by decide, endsIn_quotient (by decide) (by decide) rfl (by omega) micros⟩
  · exact ⟨_, 9, rfl, by decide, t.endsIn_full⟩

/-- A text with so many fraction digits tells an instant. -/
structure Tells (t : Instant) (digits : Nat) (text : String) : Prop where
  read : ofText? text = some t
  digits : fractionDigits text.toList = digits

/-- The year of four digits is read first, then the numbers after it, and the end tells the
fraction. There is no point before the end.
-/
theorem tells_of_endsIn {tail : List Char} {digits : Nat} (year : t.HasYear)
    (h : t.nanos < 2000000000) (ends : EndsIn t.fraction digits tail)
    : t.shown.Tells digits (String.ofList (t.secondsText ++ tail)) where
  read := by
    simp only [ofText?, String.toList_ofList, secondsText_eq, year.yearText_eq, List.append_assoc,
      Text.take_padded (by decide) year.fits, Text.drop_padded (by decide) year.fits,
      Text.digitsValue?_padded, marked?_marked (t.fits_clock h), ends.read, Option.bind_eq_bind,
      Option.bind_some]
    rw [clock, Int.toNat_of_nonneg year.1]
    exact t.ofClock?_clock h
  digits := by
    have before : ∀ c ∈ t.secondsText, decide (c ≠ '.') = true := by
      rw [secondsText_eq, year.yearText_eq, List.forall_mem_append]
      refine ⟨fun c digit => ?_, fun c member => ?_⟩
      · exact decide_eq_true (Text.ne_of_mem_padded (by decide) digit)
      · exact decide_eq_true (ne_point_of_mem_marked (by decide) member)
    rw [String.toList_ofList, fractionDigits, List.dropWhile_append_of_pos before]
    exact ends.digits

/-- The text with nine fraction digits tells the instant. -/
theorem tells_fullText (year : t.HasYear) (h : t.nanos < 2000000000)
    : t.shown.Tells 9 t.fullText := by
  rw [fullText, List.append_assoc]
  exact tells_of_endsIn year h t.endsIn_full

/-- So does the text with the fewest digits. -/
theorem tells_shortText (year : t.HasYear) (h : t.nanos < 2000000000)
    : ∃ digits ∈ [0, 3, 6, 9], t.shown.Tells digits t.shortText := by
  obtain ⟨tail, digits, text, few, ends⟩ := t.endsIn_short
  rw [text]
  exact ⟨digits, few, tells_of_endsIn year h ends⟩

-----------------------------------------------------------------------------------------
-- Order
-----------------------------------------------------------------------------------------

theorem before_trichotomy (a b : Instant)
    : a.Before b ∨ a = b ∨ b.Before a := by
  obtain ⟨aSeconds, aNanos⟩ := a
  obtain ⟨bSeconds, bNanos⟩ := b
  simp only [Before, mk.injEq]
  omega

/-- The numbers of instants ascend: a later day has a later date, and within a day, an hour and a
minute the next number decides.
-/
theorem numbers_lt {a b : Instant} (first : a.IsClock) (second : b.IsClock) (h : a.Before b)
    : a.date.year < b.date.year
      ∨ a.date.year = b.date.year ∧ a.clock ++ [a.fraction] < b.clock ++ [b.fraction] := by
  simp only [clock, List.cons_append, List.nil_append, List.cons_lt_cons_iff]
  by_cases day : a.seconds / 86400 < b.seconds / 86400
  · have dates := Date.before_ofUnixDay day
    rw [← date_eq, ← date_eq] at dates
    rcases dates with year | ⟨year, month | ⟨month, day⟩⟩
    · exact .inl year
    · exact .inr ⟨year, .inl month⟩
    · exact .inr ⟨year, .inr ⟨month, .inl day⟩⟩
  · have sameDay : a.seconds / 86400 = b.seconds / 86400 := by
      simp only [Before] at h
      omega
    have date : a.date = b.date := by
      rw [date_eq, date_eq, sameDay]
    refine .inr ⟨by rw [date], .inr ⟨by rw [date], .inr ⟨by rw [date], ?_⟩⟩⟩
    have aWhole := a.secondOfDay_eq
    have bWhole := b.secondOfDay_eq
    simp only [Before, IsClock, fraction] at h first second ⊢
    omega

/-- The text is the year and the numbers after it, to the nanosecond, with the mark of universal
time.
-/
theorem toList_fullText (year : t.HasYear)
    : t.fullText.toList
      = Text.padded 4 t.date.year.toNat
        ++ (marked (clockForm ++ [('.', 9)]) (t.clock ++ [t.fraction]) ++ ['Z']) := by
  rw [fullText, String.toList_ofList, secondsText_eq, year.yearText_eq]
  simp only [marked, clockForm, clock, List.append_assoc, List.cons_append, List.nil_append]

theorem fits_numbers (t : Instant) (h : t.nanos < 2000000000)
    : List.Forall₂ Fits (clockForm ++ [('.', 9)]) (t.clock ++ [t.fraction]) :=
  List.rel_append (t.fits_clock h) (.cons ⟨by decide, t.fraction_lt⟩ .nil)

theorem IsClock.nanos_lt (clock : t.IsClock)
    : t.nanos < 2000000000 := by
  rcases clock with within | ⟨leap, -⟩ <;> omega

/-- Earlier instants have earlier texts. -/
theorem fullText_lt {a b : Instant} (aYear : a.HasYear) (bYear : b.HasYear)
    (first : a.IsClock) (second : b.IsClock) (h : a.Before b)
    : a.fullText < b.fullText := by
  change a.fullText.toList < b.fullText.toList
  rw [toList_fullText aYear, toList_fullText bYear]
  rcases numbers_lt first second h with less | ⟨same, less⟩
  · have years : a.date.year.toNat < b.date.year.toNat := by
      have least := aYear.1
      omega
    refine Text.append_lt_append ?_ (Text.padded_lt_padded (by decide) bYear.fits years) _ _
    rw [Text.length_padded (by decide) aYear.fits, Text.length_padded (by decide) bYear.fits]
  · rw [same]
    exact List.append_left_lt
      (marked_lt_marked (a.fits_numbers first.nanos_lt) (b.fits_numbers second.nanos_lt) less _ _)

end Instant

-----------------------------------------------------------------------------------------
-- Law
-----------------------------------------------------------------------------------------

/-- A record timestamp tells its instant. -/
theorem Instant.ofText?_fullText {t : Instant} (year : t.HasYear) (clock : t.IsClock)
    : ofText? t.fullText = some t := by
  rw [(tells_fullText year clock.nanos_lt).read, shown_of_isClock clock]

/-- What the record timestamps of two instants are worth:
- `length` and `universal`: they have 30 characters and end in the mark of universal time;
- `order`: their bytes are in the order of the instants;
- `distinct`: different instants have different timestamps;
- `read`: a timestamp tells its instant to the nanosecond.
-/
structure StampLaw (a b : Instant) : Prop where
  length : a.fullText.length = 30
  universal : a.fullText.toList.getLast? = some 'Z'
  order : Text.Utf8.ofText a.fullText < Text.Utf8.ofText b.fullText ↔ a.Before b
  distinct : a.fullText = b.fullText ↔ a = b
  read : Instant.ofText? a.fullText = some a

/-- Of the instants of the years 0 to 9999, leap seconds included, the timestamps sort as the
instants do and tell them.
-/
theorem stampLaw {a b : Instant} (aYear : a.HasYear) (bYear : b.HasYear)
    (first : a.IsClock) (second : b.IsClock)
    : StampLaw a b where
  length := by
    rw [← String.length_toList, Instant.toList_fullText aYear, List.length_append,
      Text.length_padded (by decide) aYear.fits, List.length_append,
      length_marked (a.fits_numbers first.nanos_lt)]
    rfl
  universal := by
    rw [Instant.toList_fullText aYear, ← List.append_assoc, List.getLast?_concat]
  order := by
    refine ⟨fun less => ?_, fun before =>
      Text.Utf8.ofText_lt_ofText (Instant.fullText_lt aYear bYear first second before)⟩
    rcases Instant.before_trichotomy a b with before | rfl | after
    · exact before
    · exact absurd less (List.lt_irrefl _)
    · have back := Text.Utf8.ofText_lt_ofText (Instant.fullText_lt bYear aYear second first after)
      exact absurd less (List.lt_asymm back)
  distinct := by
    refine ⟨fun same => ?_, congrArg _⟩
    have told := congrArg Instant.ofText? same
    rw [Instant.ofText?_fullText aYear first, Instant.ofText?_fullText bYear second] at told
    exact Option.some.inj told
  read := Instant.ofText?_fullText aYear first

/-- The last leap second of 2016 comes before the next year, as its timestamp does. -/
theorem stampLaw_leapSecond
    : let leap : Instant := ⟨1483228799, 1500000000⟩
      let next : Instant := ⟨1483228800, 0⟩
      leap.HasYear ∧ next.HasYear ∧ leap.IsClock ∧ next.IsClock ∧ StampLaw leap next := by
  intro leap next
  have leapYear : leap.HasYear := by decide
  have nextYear : next.HasYear := by decide
  have leapClock : leap.IsClock := by decide
  have nextClock : next.IsClock := by decide
  exact ⟨leapYear, nextYear, leapClock, nextClock,
    stampLaw leapYear nextYear leapClock nextClock⟩

/-- The texts of the two, of which the first says second 60. -/
example
    : (⟨1483228799, 1500000000⟩ : Instant).fullText = "2016-12-31T23:59:60.500000000Z"
      ∧ (⟨1483228800, 0⟩ : Instant).fullText = "2017-01-01T00:00:00.000000000Z" := by
  decide

end CallWatch.Time

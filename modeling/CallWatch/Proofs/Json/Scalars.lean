import CallWatch.Json.RecordReader
import CallWatch.Proofs.Json.WholeNumber

/-! The value of a member is read from what its text says.
The reader looks for a value of the kind of the member, and the grammar says what value there is.
It is read if it is of that kind; otherwise reading stops with an error.
-/

namespace CallWatch.Json

open Text.Utf8 (encode)

/-- How the value of a member is written. -/
def Scalar.form : Scalar → Form
  | .text value => .text value
  | .natural value => .number (Nat.toDigits 10 value)

/-- A value is of a kind. -/
def Kind.Admits : Kind → Scalar → Prop
  | .text, .text _ => True
  | .natural _ greatest, .natural value => value ≤ greatest
  | _, _ => False

/-- The numbers of a kind fit a word. -/
def Kind.FitsWord : Kind → Prop
  | .text => True
  | .natural _ greatest => greatest ≤ greatestWord 64

/-- The written form of a value tells the value. -/
theorem Scalar.form_inj {v w : Scalar}
    : v.form = w.form ↔ v = w := by
  refine ⟨fun same => ?_, congrArg form⟩
  cases v <;> cases w <;> simp only [form, Form.text.injEq, Form.number.injEq, reduceCtorEq] at same
  · rw [same]
  · rw [toDigits_inj.mp same]

def Form.isTextOrNumber : Form → Bool
  | .text _ | .number _ => true
  | _ => false

theorem isTextOrNumber_form (v : Scalar)
    : v.form.isTextOrNumber = true := by
  cases v <;> rfl

-----------------------------------------------------------------------------------------
-- Errors
-----------------------------------------------------------------------------------------

/-- Reading stops with an error. -/
def Stops {α : Type} (read : Except ReadError α) : Prop :=
  ∃ e, read = .error e

section Stops
variable {α β : Type}

theorem Stops.bind {read : Except ReadError α} (h : Stops read) (next : α → Except ReadError β)
    : Stops (read >>= next) := by
  obtain ⟨e, rfl⟩ := h
  exact ⟨e, rfl⟩

/-- What ends in an error stops with one, wherever that comes from. -/
theorem stops_bind {next : α → Except ReadError β} (h : ∀ a, Stops (next a))
    (read : Except ReadError α)
    : Stops (read >>= next) := by
  cases read with
  | error e => exact ⟨e, rfl⟩
  | ok a => exact h a

theorem Stops.within {read : Except ReadError α} (h : Stops read) (place : Place)
    : Stops (within place read) := by
  obtain ⟨e, rfl⟩ := h
  exact ⟨e.within place, rfl⟩

theorem stops_failHere (cause : Cause) (c : Cursor)
    : Stops (failHere cause c : Except ReadError α) :=
  ⟨_, rfl⟩

theorem stops_failNext (cause : Cause) (c : Cursor)
    : Stops (failNext cause c : Except ReadError α) :=
  ⟨_, rfl⟩

theorem stops_failName (cause : Cause) (c : Cursor)
    : Stops (failName cause c : Except ReadError α) := by
  unfold failName
  simp only
  split <;> exact ⟨_, rfl⟩

/-- A value of the wrong type ends reading. -/
theorem stops_wrongType (expected : String) (c : Cursor)
    : Stops (wrongType expected c : Except ReadError α) := by
  unfold wrongType
  repeat' split
  all_goals first
    | exact stops_failHere _ _
    | exact stops_failNext _ _
    | exact stops_bind (fun _ => stops_failHere _ _) _

end Stops

-----------------------------------------------------------------------------------------
-- Lengths
-----------------------------------------------------------------------------------------

theorem length_fourDigits? {cs rest : List Char} {n : Nat} (h : fourDigits? cs = some (n, rest))
    : rest.length < cs.length := by
  unfold fourDigits? at h
  split at h
  · simp only [Option.bind_eq_bind, Option.bind_eq_some_iff, Option.pure_def,
      Option.some.injEq] at h
    obtain ⟨_, -, _, -, _, -, _, -, same⟩ := h
    cases same
    simp only [List.length_cons]
    omega
  · cases h

theorem length_character? {ch d : Char} {cs rest : List Char}
    (h : character? ch cs = some (d, rest))
    : rest.length ≤ cs.length := by
  unfold character? at h
  split at h
  · cases cs with
    | nil => cases h
    | cons mark more =>
        simp only [escaped?] at h
        split at h
        · rcases codeEscape?_cases h with
            ⟨_, digits, -⟩ | ⟨_, _, _, first, second, -⟩
          · have := length_fourDigits? digits
            simp only [List.length_cons]
            omega
          · have := length_fourDigits? first
            have := length_fourDigits? second
            simp only [List.length_cons] at *
            omega
        · obtain ⟨_, -, pair⟩ := Option.map_eq_some_iff.mp h
          cases pair
          simp
  · split at h
    · cases h
    · cases h
      exact Nat.le_refl _

/-- A quoted text takes characters, by induction on the fuel. -/
theorem length_characters? {fuel : Nat} {cs text rest : List Char}
    (h : characters? fuel cs = some (text, rest))
    : rest.length < cs.length := by
  induction fuel generalizing cs text with
  | zero => cases h
  | succ fuel ih =>
      cases cs with
      | nil => cases h
      | cons ch cs =>
          simp only [characters?] at h
          split at h
          · cases h
            simp
          · simp only [Option.bind_eq_some_iff, Option.map_eq_some_iff] at h
            obtain ⟨⟨d, middle⟩, first, ⟨more, left⟩, others, same⟩ := h
            cases same
            have first : middle.length ≤ cs.length := length_character? first
            have others : left.length < middle.length := ih others
            simp only [List.length_cons]
            omega

theorem length_quoted? {cs rest : List Char} {s : String} (h : quoted? cs = some (s, rest))
    : rest.length < cs.length := by
  simp only [quoted?, Option.map_eq_some_iff] at h
  obtain ⟨⟨text, left⟩, read, same⟩ := h
  cases same
  exact length_characters? read

/-- Every character of a text takes a byte, by induction on the text. -/
theorem length_le_encode (cs : List Char)
    : cs.length ≤ (encode cs).length := by
  induction cs with
  | nil => simp
  | cons c rest ih =>
      have := List.length_pos_iff.mpr (Text.Utf8.encodeChar_ne_nil c)
      rw [encode_cons, List.length_append, List.length_cons]
      omega

-----------------------------------------------------------------------------------------
-- Values
-----------------------------------------------------------------------------------------

/-- What the first visible character of a value tells about it.

- `text`: after a quote there is a text;
- `number`: a minus sign or a digit begins a number, which is taken to its end;
- `other`: anything else is neither.
-/
inductive Begins : List Char → Form → List Char → Prop where
  | text {more rest : List Char} {s : String} (quoted : quoted? more = some (s, rest))
    : Begins ('"' :: more) (.text s) rest
  | number {token rest : List Char} (number : isNumber token = true) (ended : StopsNumber rest)
    : Begins (token ++ rest) (.number token) rest
  | other {ch : Char} {more rest : List Char} {form : Form} (quote : ch ≠ '"')
    (minus : ch ≠ '-') (digit : ch.isDigit = false) (neither : form.isTextOrNumber = false)
    : Begins (ch :: more) form rest

/-- A number begins with a minus sign or a digit. -/
theorem exists_cons_of_number {token : List Char} (number : isNumber token = true)
    : ∃ ch more,
        token = ch :: more
        ∧ (ch = '-' ∧ isUnsigned more = true
          ∨ ch ≠ '-' ∧ ch.isDigit = true ∧ isUnsigned token = true) := by
  cases token with
  | nil => cases number
  | cons ch more =>
      refine ⟨ch, more, rfl, ?_⟩
      simp only [isNumber] at number
      split at number
      · next minus => exact .inl ⟨minus, number⟩
      · next unsigned =>
        refine .inr ⟨unsigned, ?_, number⟩
        simp only [isUnsigned, Bool.and_eq_true] at number
        by_contra other
        rw [List.takeWhile_cons_of_neg other] at number
        cases number.1

theorem stopsNumber_dropWhile (cs : List Char)
    : StopsNumber (cs.dropWhile isNumberChar) := by
  intro ch first
  have boundary := List.head?_dropWhile_not isNumberChar cs
  rw [Option.mem_def.mp first] at boundary
  exact boundary

/-- A scalar begins as its first character tells. -/
theorem begins_of_scalar? {cs rest : List Char} {form : Form}
    (h : scalar? cs = some (form, rest))
    : Begins cs form rest := by
  cases cs with
  | nil => cases h
  | cons ch more =>
      simp only [scalar?] at h
      split at h
      · next quote =>
        subst quote
        obtain ⟨⟨s, left⟩, quoted, pair⟩ := Option.map_eq_some_iff.mp h
        cases pair
        exact .text quoted
      · next noQuote =>
        split at h
        · next word =>
          subst word
          obtain ⟨left, -, pair⟩ := Option.map_eq_some_iff.mp h
          cases pair
          exact .other (by decide) (by decide) rfl rfl
        split at h
        · next word =>
          subst word
          obtain ⟨left, -, pair⟩ := Option.map_eq_some_iff.mp h
          cases pair
          exact .other (by decide) (by decide) rfl rfl
        split at h
        · next word =>
          subst word
          obtain ⟨left, -, pair⟩ := Option.map_eq_some_iff.mp h
          cases pair
          exact .other (by decide) (by decide) rfl rfl
        split at h
        · next number =>
          have begun := Begins.number number (stopsNumber_dropWhile (ch :: more))
          rw [List.takeWhile_append_dropWhile] at begun
          cases h
          exact begun
        · cases h

/-- A value is a list with its items, an object with its members, or a scalar. -/
theorem value?_cases {fuel : Nat} {cs rest : List Char} {form : Form}
    (h : value? fuel cs = some (form, rest))
    : (∃ items more,
        form = .list items
        ∧ cs.dropWhile isBlankChar = '[' :: more
        ∧ (items = [] ∧ more.dropWhile isBlankChar = ']' :: rest
          ∨ ∃ n, items? n more = some (items, rest)))
      ∨ (∃ members more,
          form = .object members
          ∧ cs.dropWhile isBlankChar = '\x7b' :: more
          ∧ (members = [] ∧ more.dropWhile isBlankChar = '\x7d' :: rest
            ∨ ∃ n, members? n more = some (members, rest)))
      ∨ scalar? (cs.dropWhile isBlankChar) = some (form, rest) := by
  cases fuel with
  | zero => cases h
  | succ fuel =>
      rw [value?] at h
      simp only at h
      split at h
      · cases h
      · next ch more visible =>
        rw [visible]
        split at h
        · next list =>
          subst list
          left
          split at h
          · next close =>
            cases h
            exact ⟨[], more, rfl, rfl, .inl ⟨rfl, afterWord?_eq_some_iff.mp close⟩⟩
          · obtain ⟨⟨items, left⟩, read, pair⟩ := Option.map_eq_some_iff.mp h
            cases pair
            exact ⟨items, more, rfl, rfl, .inr ⟨fuel, read⟩⟩
        split at h
        · next object =>
          subst object
          right
          left
          split at h
          · next close =>
            cases h
            exact ⟨[], more, rfl, rfl, .inl ⟨rfl, afterWord?_eq_some_iff.mp close⟩⟩
          · obtain ⟨⟨members, left⟩, read, pair⟩ := Option.map_eq_some_iff.mp h
            cases pair
            exact ⟨members, more, rfl, rfl, .inr ⟨fuel, read⟩⟩
        · exact .inr (.inr (visible ▸ h))

/-- A value begins as its first visible character tells. -/
theorem begins_of_value? {fuel : Nat} {cs rest : List Char} {form : Form}
    (h : value? fuel cs = some (form, rest))
    : Begins (cs.dropWhile isBlankChar) form rest := by
  rcases value?_cases h with ⟨items, more, rfl, visible, -⟩ | ⟨members, more, rfl, visible, -⟩
    | scalar
  · rw [visible]
    exact .other (by decide) (by decide) rfl rfl
  · rw [visible]
    exact .other (by decide) (by decide) rfl rfl
  · exact begins_of_scalar? scalar

section Scalars
variable {c : Cursor} {b : UInt8} {typeName : String} {greatest : Nat}

/-- Only after a quote a text is read. -/
theorem stops_readScalar_text (seen : c.skipBlank.peek? = some b) (quote : b ≠ 0x22)
    : Stops (readScalar .text c) := by
  simp only [readScalar, seen, if_neg quote]
  exact stops_wrongType _ _

/-- Only after a minus sign or a digit a number is read. -/
theorem stops_readScalar_natural (seen : c.skipBlank.peek? = some b) (minus : b ≠ 0x2D)
    (digit : isDigit b = false)
    : Stops (readScalar (.natural typeName greatest) c) := by
  simp only [readScalar, seen]
  rw [if_pos (by simp [minus, digit])]
  exact stops_wrongType _ _

/-- Where a natural number has to be, any other number stops the reader. -/
theorem NotNatural.stops {read : Except ReadError (ReadNumber × Cursor)} (other : NotNatural read)
    : Stops (read >>= fun (value, c) =>
        match value with
        | .natural n =>
          if n ≤ greatest then pure (Scalar.natural n, c)
          else failHere (.invalidValue n typeName) c
        | .negative n => failHere (.invalidValue n typeName) c
        | .float x => failHere (.invalidType (.float x) typeName) c) := by
  rcases read with e | ⟨value, d⟩
  · exact ⟨e, rfl⟩
  · cases value with
    | natural n => exact absurd rfl (other n d)
    | negative | float => exact stops_failHere _ _

theorem stops_readScalar_number (seen : c.skipBlank.peek? = some b)
    (first : b = 0x2D ∨ isDigit b = true)
    (other :
      NotNatural (if b = 0x2D then readNumber true c.skipBlank.next
        else readNumber false c.skipBlank))
    : Stops (readScalar (.natural typeName greatest) c) := by
  have number : ¬ (b ≠ 0x2D && !isDigit b) = true := by
    rcases first with rfl | digit <;> simp [*]
  simp only [readScalar, seen]
  rw [if_neg number]
  by_cases minus : b = 0x2D
  · rw [if_pos minus] at other ⊢
    exact other.stops
  · rw [if_neg minus] at other ⊢
    exact other.stops

/-- A natural number is taken if it is in the range of its place. -/
theorem readScalar_number (typeName : String) (greatest : Nat) {n : Nat} {d : Cursor}
    (seen : c.skipBlank.peek? = some b)
    (digit : isDigit b = true) (minus : b ≠ 0x2D)
    (read : readNumber false c.skipBlank = .ok (.natural n, d))
    : readScalar (.natural typeName greatest) c
      = if n ≤ greatest then .ok (.natural n, d) else failHere (.invalidValue n typeName) d := by
  simp only [readScalar, seen, digit, Bool.not_true, Bool.and_false, Bool.false_eq_true, if_false,
    if_neg minus, read]
  rfl

/-- The reader of a member's value does what its form asks for: a value of the kind of the member
is read, and at any other form reading stops.
-/
def ReadsAs (kind : Kind) (c : Cursor) (form : Form) (rest : List Char) : Prop :=
  (∃ v d, kind.Admits v ∧ form = v.form ∧ readScalar kind c = .ok (v, d) ∧ d.At rest)
  ∨ (∀ v, kind.Admits v → form ≠ v.form) ∧ Stops (readScalar kind c)

variable {kind : Kind} {rest : List Char}

theorem readsAs_text {more : List Char} {s : String} (before : c.skipBlank.At ('"' :: more))
    (quoted : quoted? more = some (s, rest))
    : ReadsAs kind c (.text s) rest := by
  have seen := before.peek?_short (by decide)
  cases kind with
  | text =>
      obtain ⟨d, taken, after⟩ := readText_quoted (before.next (by decide)) quoted
      refine .inl ⟨.text s, d, trivial, rfl, ?_, after⟩
      simp only [readScalar, seen]
      rw [if_pos (by decide), taken]
      rfl
  | natural =>
      refine .inr ⟨fun v admits same => ?_, stops_readScalar_natural seen (by decide) rfl⟩
      cases v with
      | text => exact admits
      | natural => cases same

/-- A number with a minus sign is no natural one. -/
theorem readsAs_negative {more after : List Char} (before : c.skipBlank.At ('-' :: after))
    : ReadsAs (.natural typeName greatest) c (.number ('-' :: more)) rest := by
  have seen := before.peek?_short (by decide)
  refine .inr ⟨fun v _ same => ?_, stops_readScalar_number seen (.inl rfl) ?_⟩
  · cases v with
    | text => cases same
    | natural n =>
        have digits := (isDigits_iff.mp (isDigits_toDigits n)).2 '-'
        rw [← Form.number.inj same] at digits
        cases digits (.head _)
  · exact notNatural_readNumber_negative _

/-- A number without a sign is read if it is a natural one in the range of its place. -/
theorem readsAs_unsigned {token : List Char} (word : greatest ≤ greatestWord 64)
    (before : c.skipBlank.At (token ++ rest)) (seen : c.skipBlank.peek? = some b)
    (digit : isDigit b = true) (minus : b ≠ 0x2D) (number : isUnsigned token = true)
    (ended : StopsNumber rest)
    : ReadsAs (.natural typeName greatest) c (.number token) rest := by
  rcases readNumber_token before number ended with ⟨n, d, -, rfl, taken, after⟩ | ⟨none, other⟩
  · have scalar := readScalar_number typeName greatest seen digit minus taken
    by_cases fits : n ≤ greatest
    · exact .inl ⟨.natural n, d, fits, rfl, by rw [scalar, if_pos fits], after⟩
    · rw [ReadsAs, scalar, if_neg fits]
      refine .inr ⟨fun v admits same => ?_, stops_failHere _ _⟩
      cases v with
      | text => exact admits
      | natural m =>
          cases toDigits_inj.mp (Form.number.inj same)
          exact fits admits
  · refine .inr ⟨fun v admits same => ?_, stops_readScalar_number seen (.inr digit) ?_⟩
    · cases v with
      | text => exact admits
      | natural m => exact none m (Nat.le_trans admits word) (Form.number.inj same)
    · rw [if_neg minus]
      exact other

/-- A number is read in the place of one, by cases on its sign. -/
theorem readsAs_number {token : List Char} (word : kind.FitsWord)
    (before : c.skipBlank.At (token ++ rest)) (number : isNumber token = true)
    (ended : StopsNumber rest)
    : ReadsAs kind c (.number token) rest := by
  obtain ⟨ch, more, rfl, signed⟩ := exists_cons_of_number number
  obtain ⟨b, seen⟩ := (show c.skipBlank.At (ch :: (more ++ rest)) from before).sees
  cases kind with
  | text =>
      have quote : ch ≠ '"' := by
        rintro rfl
        rcases signed with ⟨same, -⟩ | ⟨-, digit, -⟩
        · cases same
        · cases digit
      refine .inr ⟨fun v admits same => ?_, ?_⟩
      · cases v with
        | text => cases same
        | natural => exact admits
      · exact stops_readScalar_text seen.peek (mt (seen.eq_iff '"' (by decide)).mp quote)
  | natural =>
      rcases signed with ⟨rfl, -⟩ | ⟨unsigned, digit, whole⟩
      · exact readsAs_negative before
      · exact readsAs_unsigned word before seen.peek ((isDigit_eq seen.eq_iff).trans digit)
          (mt (seen.eq_iff '-' (by decide)).mp unsigned) whole ended

/-- The reader of a member's value does what the grammar says, by cases on how the value begins.
-/
theorem readsAs_value? {fuel : Nat} {cs : List Char} {form : Form} (word : kind.FitsWord)
    (h : c.At cs) (read : value? fuel cs = some (form, rest))
    : ReadsAs kind c form rest := by
  have before := h.skipBlank
  have begun := begins_of_value? read
  generalize cs.dropWhile isBlankChar = visible at before begun
  cases begun with
  | text quoted => exact readsAs_text before quoted
  | number number ended => exact readsAs_number word before number ended
  | other quote minus digit neither =>
      obtain ⟨b, seen⟩ := before.sees
      refine .inr ⟨fun v _ same => ?_, ?_⟩
      · rw [same, isTextOrNumber_form] at neither
        cases neither
      · cases kind with
        | text =>
            exact stops_readScalar_text seen.peek (mt (seen.eq_iff '"' (by decide)).mp quote)
        | natural =>
            exact stops_readScalar_natural seen.peek
              (mt (seen.eq_iff '-' (by decide)).mp minus) ((isDigit_eq seen.eq_iff).trans digit)

/-- The written form of a value takes characters. -/
theorem length_value?_form {fuel : Nat} {cs : List Char} {v : Scalar}
    (read : value? fuel cs = some (v.form, rest))
    : rest.length < cs.length := by
  have shorter := (List.dropWhile_suffix (l := cs) isBlankChar).length_le
  have begun := begins_of_value? read
  generalize cs.dropWhile isBlankChar = visible at shorter begun
  generalize written : v.form = form at begun
  cases begun with
  | text quoted =>
      have := length_quoted? quoted
      rw [List.length_cons] at shorter
      omega
  | number number =>
      obtain ⟨ch, more, rfl, -⟩ := exists_cons_of_number number
      rw [List.length_append, List.length_cons] at shorter
      omega
  | other _ _ _ neither =>
      rw [← written, isTextOrNumber_form] at neither
      cases neither

end Scalars

end CallWatch.Json

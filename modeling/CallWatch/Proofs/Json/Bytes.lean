import CallWatch.Json.Form
import CallWatch.Proofs.Text.Decoding

/-! Reading bytes that encode a text.
A cursor before an encoded text sees the first byte of its first character, and the bytes that
matter to a reader stand for themselves: no byte of a longer form is one of them. So blanks and
quoted texts are read from the bytes as the grammar reads them from the characters.
-/

namespace CallWatch.Json

open Text.Utf8 (encode encodeChar)

/-- What a cursor has not read yet is a text. -/
def Cursor.At (c : Cursor) (cs : List Char) : Prop :=
  c.rest = encode cs

-----------------------------------------------------------------------------------------
-- First bytes
-----------------------------------------------------------------------------------------

theorem encode_cons (c : Char) (rest : List Char)
    : encode (c :: rest) = encodeChar c ++ encode rest :=
  List.flatMap_cons

/-- A character of a single byte stands for itself. -/
theorem encodeChar_short {c : Char} (short : c.toNat < 0x80)
    : encodeChar c = [UInt8.ofNat c.toNat] :=
  if_pos short

theorem encode_cons_short {c : Char} (short : c.toNat < 0x80) (rest : List Char)
    : encode (c :: rest) = UInt8.ofNat c.toNat :: encode rest := by
  rw [encode_cons, encodeChar_short short]
  rfl

/-- All bytes of a longer form lie above the ones of single bytes, by cases on its length. -/
theorem le_of_mem_encodeChar {c : Char} (long : 0x80 ≤ c.toNat) {b : UInt8}
    (member : b ∈ encodeChar c)
    : 0x80 ≤ b.toNat := by
  have bound := Text.Utf8.toNat_lt_planes c
  simp only [encodeChar] at member
  repeat' split at member
  all_goals
    simp only [List.mem_cons, List.not_mem_nil, or_false] at member
  · omega
  all_goals
    rcases member with rfl | rfl | rfl | rfl <;> rw [Text.Utf8.toNat_ofNat (by omega)] <;> omega

/-- The byte that a cursor sees before a character. -/
structure Cursor.Sees (c : Cursor) (ch : Char) (b : UInt8) : Prop where
  peek : c.peek? = some b
  eq_iff : ∀ d : Char, d.toNat < 0x80 → (b = UInt8.ofNat d.toNat ↔ ch = d)

theorem ofNat_toNat_inj {c d : Char} (hc : c.toNat < 0x80) (hd : d.toNat < 0x80)
    : UInt8.ofNat c.toNat = UInt8.ofNat d.toNat ↔ c = d := by
  constructor
  · intro same
    have value := congrArg UInt8.toNat same
    rw [Text.Utf8.toNat_ofNat (by omega), Text.Utf8.toNat_ofNat (by omega)] at value
    exact Char.toNat_inj.mp value
  · rintro rfl
    rfl

/-- The first byte of a text is one of the single bytes if and only if its first character is
the one of that byte.
-/
theorem exists_encode_cons (ch : Char) (rest : List Char)
    : ∃ b bytes,
        encode (ch :: rest) = b :: bytes
        ∧ ∀ d : Char, d.toNat < 0x80 → (b = UInt8.ofNat d.toNat ↔ ch = d) := by
  rcases Nat.lt_or_ge ch.toNat 0x80 with short | long
  · exact ⟨_, _, encode_cons_short short rest, fun d => ofNat_toNat_inj short⟩
  · obtain ⟨b, more, form⟩ := List.exists_cons_of_ne_nil (Text.Utf8.encodeChar_ne_nil ch)
    refine ⟨b, more ++ encode rest, by rw [encode_cons, form]; rfl, fun d hd => ?_⟩
    have above := le_of_mem_encodeChar long (form ▸ List.mem_cons_self : b ∈ encodeChar ch)
    constructor
    · rintro rfl
      rw [Text.Utf8.toNat_ofNat (by omega)] at above
      omega
    · rintro rfl
      omega

section Cursors
variable {c : Cursor} {ch : Char} {cs rest : List Char}

theorem Cursor.At.sees (h : c.At (ch :: rest))
    : ∃ b, c.Sees ch b := by
  obtain ⟨b, bytes, form, same⟩ := exists_encode_cons ch rest
  refine ⟨b, ?_, same⟩
  rw [Cursor.peek?, h, form]
  rfl

theorem Cursor.At.peek?_nil (h : c.At [])
    : c.peek? = none := by
  rw [Cursor.peek?, h]
  rfl

/-- After a character of a single byte the cursor stands before the next one. -/
theorem Cursor.At.next (h : c.At (ch :: rest)) (short : ch.toNat < 0x80)
    : c.next.At rest := by
  rw [Cursor.At, encode_cons_short short] at h
  simp only [Cursor.next, h, Cursor.At]

/-- Before a character of a single byte the cursor sees that byte. -/
theorem Cursor.At.peek?_short (h : c.At (ch :: rest)) (short : ch.toNat < 0x80)
    : c.peek? = some (UInt8.ofNat ch.toNat) := by
  rw [Cursor.peek?, h, encode_cons_short short]
  rfl

-----------------------------------------------------------------------------------------
-- Blanks
-----------------------------------------------------------------------------------------

theorem short_of_isBlankChar (blank : isBlankChar ch = true)
    : ch.toNat < 0x80 := by
  simp only [isBlankChar, Bool.or_eq_true, decide_eq_true_eq] at blank
  rcases blank with ((rfl | rfl) | rfl) | rfl <;> decide

/-- A byte is blank if and only if it begins a blank character. -/
theorem isBlankByte_eq {b : UInt8}
    (same : ∀ d : Char, d.toNat < 0x80 → (b = UInt8.ofNat d.toNat ↔ ch = d))
    : isBlankByte b = isBlankChar ch := by
  have space : b = 0x20 ↔ ch = ' ' := same ' ' (by decide)
  have newline : b = 0x0A ↔ ch = '\n' := same '\n' (by decide)
  have tab : b = 0x09 ↔ ch = '\t' := same '\t' (by decide)
  have feed : b = 0x0D ↔ ch = '\r' := same '\r' (by decide)
  simp only [isBlankByte, isBlankChar, space, newline, tab, feed]

/-- Blanks are skipped up to the first character that is none, by induction on the text. -/
theorem skipBlankFrom_encode (pos : Position) (cs : List Char)
    : (skipBlankFrom pos (encode cs)).At (cs.dropWhile isBlankChar) := by
  induction cs generalizing pos with
  | nil => rfl
  | cons ch rest ih =>
      obtain ⟨b, bytes, form, same⟩ := exists_encode_cons ch rest
      have byte := isBlankByte_eq same
      rw [form, skipBlankFrom, byte]
      split
      · next blank =>
        rw [encode_cons_short (short_of_isBlankChar blank)] at form
        cases form
        rw [List.dropWhile_cons_of_pos blank]
        exact ih _
      · next visible =>
        rw [List.dropWhile_cons_of_neg visible]
        exact form.symm

theorem Cursor.At.skipBlank (h : c.At cs)
    : c.skipBlank.At (cs.dropWhile isBlankChar) := by
  rw [Cursor.skipBlank, h]
  exact skipBlankFrom_encode c.pos cs

end Cursors

/-- A word is found at the start of the texts that begin with it, by induction on the word. -/
theorem afterWord?_eq_some_iff {word cs rest : List Char}
    : afterWord? word cs = some rest ↔ cs = word ++ rest := by
  induction word generalizing cs with
  | nil => simp [afterWord?, eq_comm]
  | cons expected word ih =>
      cases cs with
      | nil => simp [afterWord?]
      | cons c cs =>
          rw [afterWord?, List.cons_append, List.cons.injEq, ← ih]
          split
          · next same => simp [same]
          · next other => simp [other]

-----------------------------------------------------------------------------------------
-- Texts
-----------------------------------------------------------------------------------------

/-- The reader of a text passes from characters to the rest of them, and has read what they
stand for.
-/
def PassesText (cs chars rest : List Char) : Prop :=
  ∀ done pos, ∃ after,
    readTextFrom true .plain done pos (encode cs)
      = readTextFrom true .plain ((encode chars).reverse ++ done) after (encode rest)

/-- Bytes that are no quote, no backslash and no control character are taken as they are, by
induction on them.
-/
theorem readTextFrom_append {bytes : List UInt8}
    (ordinary : ∀ b ∈ bytes, b ≠ 0x22 ∧ b ≠ 0x5C ∧ ¬ b < 0x20) (done more : List UInt8)
    (pos : Position)
    : ∃ after,
        readTextFrom true .plain done pos (bytes ++ more)
          = readTextFrom true .plain (bytes.reverse ++ done) after more := by
  induction bytes generalizing done pos with
  | nil => exact ⟨pos, rfl⟩
  | cons b rest ih =>
      obtain ⟨quote, slash, visible⟩ := ordinary b (.head _)
      obtain ⟨after, read⟩ := ih (fun b member => ordinary b (.tail _ member)) (b :: done)
        (pos.after b)
      refine ⟨after, ?_⟩
      rw [List.cons_append, readTextFrom]
      simp only [if_neg quote, if_neg slash, if_neg visible, read, List.reverse_cons,
        List.append_assoc, List.singleton_append]

/-- A character that needs no escape is read as it is. -/
theorem passesText_plain {ch : Char} (quote : ch ≠ '"') (slash : ch ≠ '\\')
    (visible : ¬ ch.toNat < 0x20) (rest : List Char)
    : PassesText (ch :: rest) [ch] rest := by
  intro done pos
  have ordinary : ∀ b ∈ encodeChar ch, b ≠ 0x22 ∧ b ≠ 0x5C ∧ ¬ b < 0x20 := by
    intro b member
    rcases Nat.lt_or_ge ch.toNat 0x80 with short | long
    · rw [encodeChar_short short, List.mem_singleton] at member
      subst member
      refine ⟨fun same => quote ?_, fun same => slash ?_, fun less => visible ?_⟩
      · exact (ofNat_toNat_inj short (by decide)).mp same
      · exact (ofNat_toNat_inj short (by decide)).mp same
      · rw [UInt8.lt_iff_toNat_lt, Text.Utf8.toNat_ofNat (by omega)] at less
        exact less
    · have above := le_of_mem_encodeChar long member
      refine ⟨?_, ?_, fun less => ?_⟩
      · rintro rfl
        exact absurd above (by decide)
      · rintro rfl
        exact absurd above (by decide)
      · rw [UInt8.lt_iff_toNat_lt] at less
        have : b.toNat < 32 := less
        omega
  obtain ⟨after, read⟩ := readTextFrom_append ordinary done (encode rest) pos
  exact ⟨after, by rw [encode_cons, read, encode_cons]; simp [encode]⟩

theorem short_of_shortForm? {ch d : Char} (h : shortForm? ch = some d)
    : ch.toNat < 0x80 ∧ d.toNat < 0x80 ∧ ch ≠ 'u'
      ∧ shortEscape? (UInt8.ofNat ch.toNat) = some (UInt8.ofNat d.toNat) := by
  unfold shortForm? at h
  repeat' split at h
  all_goals first
    | (next same => subst same; cases h; decide)
    | cases h

/-- A backslash leads to the state after it. -/
theorem readTextFrom_backslash (done : List UInt8) (pos : Position) (rest : List Char)
    : readTextFrom true .plain done pos (encode ('\\' :: rest))
      = readTextFrom true .escape done (pos.after 0x5C) (encode rest) := by
  rw [encode_cons_short (by decide)]
  rfl

/-- A short escape is read as the character that it stands for. -/
theorem passesText_short {ch d : Char} (h : shortForm? ch = some d) (rest : List Char)
    : PassesText ('\\' :: ch :: rest) [d] rest := by
  intro done pos
  obtain ⟨short, single, mark, byte⟩ := short_of_shortForm? h
  have unmarked : UInt8.ofNat ch.toNat ≠ 0x75 := fun same =>
    mark ((ofNat_toNat_inj short (by decide)).mp same)
  refine ⟨(pos.after 0x5C).after (UInt8.ofNat ch.toNat), ?_⟩
  rw [readTextFrom_backslash, encode_cons_short short, readTextFrom]
  simp only [if_neg unmarked, byte, encode_cons_short single]
  rfl

-----------------------------------------------------------------------------------------
-- Escapes by code
-----------------------------------------------------------------------------------------

theorem short_of_hexValue? {ch : Char} {n : Nat} (h : Text.hexValue? ch.toNat = some n)
    : ch.toNat < 0x80 := by
  unfold Text.hexValue? at h
  repeat' split at h
  all_goals first
    | omega
    | cases h

/-- Four hexadecimal digits are read as their value. -/
theorem readTextFrom_fourDigits {cs rest : List Char} {n : Nat}
    (h : fourDigits? cs = some (n, rest)) (leading : Option Nat) (done : List UInt8)
    (pos : Position)
    : ∃ after,
        readTextFrom true (.hex leading []) done pos (encode cs)
          = match escaped leading n with
            | .ok (bytes, state) =>
              readTextFrom true state (bytes.reverse ++ done) after (encode rest)
            | .error cause => failHere cause ⟨after, encode rest⟩ := by
  unfold fourDigits? at h
  split at h
  · next a b c d rest' =>
    simp only [Option.bind_eq_bind, Option.bind_eq_some_iff, Option.pure_def,
      Option.some.injEq] at h
    obtain ⟨x, hx, y, hy, z, hz, w, hw, same⟩ := h
    cases same
    have value {ch : Char} {n : Nat} (read : Text.hexValue? ch.toNat = some n) :
        Text.hexValue? (UInt8.ofNat ch.toNat).toNat = some n := by
      have := short_of_hexValue? read
      rw [Text.Utf8.toNat_ofNat (by omega)]
      exact read
    have digits :
        hexDigitsValue? [UInt8.ofNat a.toNat, UInt8.ofNat b.toNat, UInt8.ofNat c.toNat,
            UInt8.ofNat d.toNat]
          = some (((x * 16 + y) * 16 + z) * 16 + w) := by
      simp only [hexDigitsValue?, List.foldlM_cons, List.foldlM_nil, value hx, value hy,
        value hz, value hw, Option.map_some, Option.bind_eq_bind, Option.bind_some, Nat.zero_mul,
        Nat.zero_add, Option.pure_def]
    refine ⟨(((pos.after (UInt8.ofNat a.toNat)).after (UInt8.ofNat b.toNat)).after
      (UInt8.ofNat c.toNat)).after (UInt8.ofNat d.toNat), ?_⟩
    rw [encode_cons_short (short_of_hexValue? hx), encode_cons_short (short_of_hexValue? hy),
      encode_cons_short (short_of_hexValue? hz), encode_cons_short (short_of_hexValue? hw)]
    cases result : escaped leading (((x * 16 + y) * 16 + z) * 16 + w) <;>
      simp only [readTextFrom, List.nil_append, List.cons_append, List.length_cons,
        List.length_nil, Nat.reduceAdd, Nat.reduceLT, if_true, if_false, digits, result]
  · cases h

/-- An escape by code is one code point that is no surrogate, or two that make a pair. -/
theorem codeEscape?_cases {cs rest : List Char} {ch : Char}
    (h : codeEscape? cs = some (ch, rest))
    : (∃ n,
        fourDigits? cs = some (n, rest)
        ∧ isTrailing n = false
        ∧ isLeading n = false
        ∧ ch = Char.ofNat n)
      ∨ ∃ n low marked,
          fourDigits? cs = some (n, '\\' :: 'u' :: marked)
          ∧ fourDigits? marked = some (low, rest)
          ∧ isTrailing n = false
          ∧ isLeading n = true
          ∧ isTrailing low = true
          ∧ ch = Char.ofNat ((n - 0xD800) * 0x400 + (low - 0xDC00) + 0x10000) := by
  simp only [codeEscape?, Option.bind_eq_bind, Option.bind_eq_some_iff] at h
  obtain ⟨⟨n, middle⟩, first, h⟩ := h
  simp only at h
  split at h
  · cases h
  · next notTrailing =>
    rw [Bool.not_eq_true] at notTrailing
    split at h
    · next lead =>
      simp only [Option.bind_eq_some_iff] at h
      obtain ⟨marked, slash, ⟨low, left⟩, second, h⟩ := h
      obtain rfl : middle = '\\' :: 'u' :: marked := afterWord?_eq_some_iff.mp slash
      split at h
      · next trail =>
        obtain ⟨same, rfl⟩ := Prod.mk.inj (Option.some.inj h)
        exact .inr ⟨n, low, marked, first, second, notTrailing, lead, trail, same.symm⟩
      · cases h
    · next single =>
      obtain ⟨rfl, rfl⟩ := Prod.mk.inj (Option.some.inj h)
      exact .inl ⟨n, first, notTrailing, Bool.eq_false_iff.mpr single, rfl⟩

/-- An escape by code is read as its character. The first half of a pair gives nothing yet and
waits for the second one.
-/
theorem passesText_code {cs rest : List Char} {ch : Char}
    (h : codeEscape? cs = some (ch, rest))
    : PassesText ('\\' :: 'u' :: cs) [ch] rest := by
  intro done pos
  have opened : readTextFrom true .plain done pos (encode ('\\' :: 'u' :: cs))
      = readTextFrom true (.hex none []) done ((pos.after 0x5C).after 0x75) (encode cs) := by
    rw [readTextFrom_backslash, encode_cons_short (by decide)]
    rfl
  rw [opened]
  rcases codeEscape?_cases h with
    ⟨n, digits, notTrailing, single, rfl⟩
    | ⟨n, low, marked, first, second, notTrailing, lead, trail, point⟩
  · obtain ⟨after, read⟩ :=
      readTextFrom_fourDigits digits none done ((pos.after 0x5C).after 0x75)
    have direct : escaped none n = .ok (encodeChar (Char.ofNat n), .plain) := by
      simp [escaped, notTrailing, single]
    refine ⟨after, ?_⟩
    rw [read, direct]
    simp only [encode, List.flatMap_singleton]
  · obtain ⟨after, read⟩ :=
      readTextFrom_fourDigits first none done ((pos.after 0x5C).after 0x75)
    obtain ⟨last, again⟩ :=
      readTextFrom_fourDigits second (some n) done ((after.after 0x5C).after 0x75)
    have waits : escaped none n = .ok ([], .pairSlash n) := by
      simp [escaped, notTrailing, lead]
    have joined : escaped (some n) low = .ok (encodeChar _, .plain) := if_pos trail
    have reopened :
        readTextFrom true (.pairSlash n) done after (encode ('\\' :: 'u' :: marked))
          = readTextFrom true (.hex (some n) []) done ((after.after 0x5C).after 0x75)
              (encode marked) := by
      rw [encode_cons_short (by decide), encode_cons_short (by decide)]
      rfl
    refine ⟨last, ?_⟩
    rw [read, waits]
    refine reopened.trans (again.trans ?_)
    rw [joined, point]
    simp only [encode, List.flatMap_singleton]

-----------------------------------------------------------------------------------------
-- Quoted texts
-----------------------------------------------------------------------------------------

/-- A character of a text is read as what it stands for, by cases on how it is written. -/
theorem passesText_character {ch d : Char} {cs rest : List Char} (inside : ch ≠ '"')
    (h : character? ch cs = some (d, rest))
    : PassesText (ch :: cs) [d] rest := by
  unfold character? at h
  split at h
  · next slash =>
    subst slash
    cases cs with
    | nil => cases h
    | cons mark more =>
        simp only [escaped?] at h
        split at h
        · next code =>
          subst code
          exact passesText_code h
        · obtain ⟨same, short, pair⟩ := Option.map_eq_some_iff.mp h
          cases pair
          exact passesText_short short _
  · next plain =>
    split at h
    · cases h
    · next visible =>
      cases h
      exact passesText_plain inside plain visible cs

/-- The characters of a text are read to its closing quote, by induction on the fuel. -/
theorem readTextFrom_characters {fuel : Nat} {cs text rest : List Char}
    (h : characters? fuel cs = some (text, rest)) (done : List UInt8) (pos : Position)
    : ∃ after,
        readTextFrom true .plain done pos (encode cs)
          = .ok (done.reverse ++ encode text, ⟨after, encode rest⟩) := by
  induction fuel generalizing cs text done pos with
  | zero => cases h
  | succ fuel ih =>
      cases cs with
      | nil => cases h
      | cons ch cs =>
          simp only [characters?] at h
          split at h
          · next quote =>
            subst quote
            cases h
            refine ⟨pos.after 0x22, ?_⟩
            rw [encode_cons_short (by decide)]
            simp [readTextFrom, encode]
          · next inside =>
            simp only [Option.bind_eq_some_iff, Option.map_eq_some_iff] at h
            obtain ⟨⟨d, middle⟩, first, ⟨more, left⟩, others, same⟩ := h
            cases same
            obtain ⟨after, passed⟩ := passesText_character inside first done pos
            obtain ⟨last, read⟩ := ih others ((encode [d]).reverse ++ done) after
            refine ⟨last, ?_⟩
            rw [passed, read, encode_cons d more]
            simp [encode]

/-- A quoted text is read from its bytes as it is from its characters. -/
theorem readText_quoted {c : Cursor} {cs rest : List Char} {s : String} (h : c.At cs)
    (quoted : quoted? cs = some (s, rest))
    : ∃ d : Cursor, readText c = .ok (s, d) ∧ d.At rest := by
  simp only [quoted?, Option.map_eq_some_iff] at quoted
  obtain ⟨⟨text, left⟩, read, same⟩ := quoted
  cases same
  obtain ⟨after, done⟩ := readTextFrom_characters read [] c.pos
  refine ⟨⟨after, encode left⟩, ?_, rfl⟩
  have decoded : Text.Utf8.text? (encode text) = some (String.ofList text) := by
    rw [Text.Utf8.text?, Text.Utf8.decode?_encode, Option.map_some]
  rw [readText, h, done]
  simp only [List.reverse_nil, List.nil_append, bind, Except.bind, decoded]
  rfl

end CallWatch.Json

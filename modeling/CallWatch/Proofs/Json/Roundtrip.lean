import CallWatch.Proofs.Json.Number

/-! Written values read back: whatever value is written, its line is one text of the grammar
and says that value.
-/

namespace CallWatch.Json

-----------------------------------------------------------------------------------------
-- Texts
-----------------------------------------------------------------------------------------

/-- A hexadecimal digit has the value that it was written for. -/
theorem hexValue?_hexDigit
    : ∀ n < 16, Text.hexValue? (hexDigit n).toNat = some n := by
  decide

/-- A code below a space reads back from its four digits. -/
theorem codeEscape?_hexDigit {c : Char} (small : c.toNat < 0x20) (rest : List Char)
    : codeEscape? ('0' :: '0' :: hexDigit (c.toNat / 16) :: hexDigit (c.toNat % 16) :: rest)
      = some (c, rest) := by
  have high := hexValue?_hexDigit (c.toNat / 16) (by omega)
  have low := hexValue?_hexDigit (c.toNat % 16) (by omega)
  have zero : Text.hexValue? 48 = some 0 := rfl
  have whole : c.toNat / 16 * 16 + c.toNat % 16 = c.toNat := by omega
  have trailing : isTrailing c.toNat = false := by simp [isTrailing]; omega
  have leading : isLeading c.toNat = false := by simp [isLeading]; omega
  have digits :
      fourDigits?
          ('0' :: '0' :: hexDigit (c.toNat / 16) :: hexDigit (c.toNat % 16) :: rest)
        = some (c.toNat, rest) := by
    simp [fourDigits?, high, low, zero, whole]
  simp [codeEscape?, digits, trailing, leading, Char.ofNat_toNat]

/-- A character that reads back is one of the text. -/
theorem characters?_cons (fuel : Nat) {c d : Char} {cs rest : List Char} (inside : c ≠ '"')
    (h : character? c cs = some (d, rest))
    : characters? (fuel + 1) (c :: cs)
      = (characters? fuel rest).map fun (more, rest) => (d :: more, rest) := by
  simp only [characters?, if_neg inside, h]
  rfl

theorem characters?_backslash (fuel : Nat) {c : Char} {cs rest : List Char}
    (h : escaped? cs = some (c, rest))
    : characters? (fuel + 1) ('\\' :: cs)
      = (characters? fuel rest).map fun (more, rest) => (c :: more, rest) :=
  characters?_cons fuel (by decide) h

/-- A written character reads back, by cases on how it is escaped. -/
theorem characters?_escape (fuel : Nat) (c : Char) (rest : List Char)
    : characters? (fuel + 1) (escape c ++ rest)
      = (characters? fuel rest).map fun (more, rest) => (c :: more, rest) := by
  have byCode : ∀ d : Char, c.toNat = d.toNat → c = d := fun d same => Char.toNat_inj.mp same
  simp only [escape]
  split
  · next quote =>
    subst quote
    exact characters?_backslash fuel rfl
  split
  · next slash =>
    subst slash
    exact characters?_backslash fuel rfl
  split
  · next code =>
    rw [byCode '\x08' code]
    exact characters?_backslash fuel rfl
  split
  · next code =>
    rw [byCode '\t' code]
    exact characters?_backslash fuel rfl
  split
  · next code =>
    rw [byCode '\n' code]
    exact characters?_backslash fuel rfl
  split
  · next code =>
    rw [byCode '\x0c' code]
    exact characters?_backslash fuel rfl
  split
  · next code =>
    rw [byCode '\r' code]
    exact characters?_backslash fuel rfl
  split
  · next small =>
    exact characters?_backslash fuel (codeEscape?_hexDigit small rest)
  · next quote slash _ _ _ _ _ large =>
    refine characters?_cons fuel quote ?_
    simp only [character?, if_neg slash, if_neg large]
    rfl

/-- Written characters read back up to the closing quote, by induction on the text. -/
theorem characters?_flatMap_escape (text : List Char) (rest : List Char) {fuel : Nat}
    (enough : text.length < fuel)
    : characters? fuel (text.flatMap escape ++ '"' :: rest) = some (text, rest) := by
  induction text generalizing fuel with
  | nil =>
      obtain ⟨fuel, rfl⟩ := Nat.exists_eq_succ_of_ne_zero (Nat.ne_of_gt enough)
      rfl
  | cons c text ih =>
      obtain ⟨fuel, rfl⟩ := Nat.exists_eq_succ_of_ne_zero (Nat.ne_of_gt (Nat.zero_lt_of_lt enough))
      rw [List.flatMap_cons, List.append_assoc, characters?_escape, ih (by simpa using enough)]
      rfl

theorem escape_ne_nil (c : Char)
    : escape c ≠ [] := by
  simp only [escape]
  repeat' split
  all_goals simp

theorem length_le_flatMap_escape (text : List Char)
    : text.length ≤ (text.flatMap escape).length := by
  induction text with
  | nil => simp
  | cons c text ih =>
      have := List.length_pos_iff.mpr (escape_ne_nil c)
      rw [List.flatMap_cons, List.length_append, List.length_cons]
      omega

/-- A quoted text reads back after its opening quote. -/
theorem quoted?_quote (s : String) (rest : List Char)
    : quoted? (s.toList.flatMap escape ++ '"' :: rest) = some (s, rest) := by
  have shorter := length_le_flatMap_escape s.toList
  have enough : s.toList.length < (s.toList.flatMap escape ++ '"' :: rest).length + 1 := by
    rw [List.length_append]
    omega
  rw [quoted?, characters?_flatMap_escape s.toList rest enough]
  simp

-----------------------------------------------------------------------------------------
-- Scalars
-----------------------------------------------------------------------------------------

/-- What may follow a number. -/
def StopsNumber (rest : List Char) : Prop :=
  ∀ c ∈ rest.head?, isNumberChar c = false

theorem ne_of_isNumberChar {c d : Char} (number : isNumberChar c = true)
    (other : isNumberChar d = false)
    : c ≠ d := by
  rintro rfl
  cases number.symm.trans other

/-- A value that begins with no bracket and no brace is a scalar. -/
theorem value?_scalar (fuel : Nat) {c : Char} {cs : List Char}
    (visible : isBlankChar c = false) (list : c ≠ '[') (object : c ≠ '\x7b')
    : value? (fuel + 1) (c :: cs) = scalar? (c :: cs) := by
  rw [value?, List.dropWhile_cons_of_neg (by simp [visible])]
  simp only [if_neg list, if_neg object]

theorem scalar?_quote (s : String) (rest : List Char)
    : scalar? (quote s ++ rest) = some (.text s, rest) := by
  simp only [quote, List.cons_append, List.append_assoc, List.nil_append, scalar?, quoted?_quote]
  rfl

/-- A number reads back as it is written, unless more number characters follow. -/
theorem scalar?_number {token rest : List Char} (number : isNumber token = true)
    (stop : StopsNumber rest)
    : scalar? (token ++ rest) = some (.number token, rest) := by
  have chars := allNumberChars_of_isNumber number
  have taken : (token ++ rest).takeWhile isNumberChar = token := by
    rw [List.takeWhile_append_of_pos chars]
    cases rest with
    | nil => simp
    | cons c rest => simp [stop c rfl]
  have left : (token ++ rest).dropWhile isNumberChar = rest := by
    rw [List.dropWhile_append_of_pos chars]
    cases rest with
    | nil => simp
    | cons c rest => simp [stop c rfl]
  cases token with
  | nil => cases number
  | cons c token =>
      have first : isNumberChar c = true := chars c (.head _)
      have others : ∀ d, isNumberChar d = false → c ≠ d := fun _ => ne_of_isNumberChar first
      rw [List.cons_append] at taken left ⊢
      simp only [scalar?, if_neg (others '"' rfl), if_neg (others 'n' rfl),
        if_neg (others 't' rfl), if_neg (others 'f' rfl), taken, left, number, if_true]

theorem value?_number {fuel : Nat} (enough : 0 < fuel) {token rest : List Char}
    (number : isNumber token = true) (stop : StopsNumber rest)
    : value? fuel (token ++ rest) = some (.number token, rest) := by
  obtain ⟨fuel, rfl⟩ := Nat.exists_eq_succ_of_ne_zero (Nat.ne_of_gt enough)
  have read := scalar?_number number stop
  have chars := allNumberChars_of_isNumber number
  cases token with
  | nil => cases number
  | cons c token =>
      have first : isNumberChar c = true := chars c (.head _)
      have others : ∀ d, isNumberChar d = false → c ≠ d := fun _ => ne_of_isNumberChar first
      have visible : isBlankChar c = false := by
        simp [isBlankChar, others ' ' rfl, others '\n' rfl, others '\t' rfl, others '\r' rfl]
      exact (value?_scalar fuel visible (others '[' rfl) (others '\x7b' rfl)).trans read

-----------------------------------------------------------------------------------------
-- Values
-----------------------------------------------------------------------------------------

/-- The items of a list as they are written after its bracket, without the closing one if
there are none.
-/
def renderList : List Json → List Char
  | [] => []
  | item :: rest => render item ++ renderItems rest

/-- The members of an object as they are written after its brace, without the closing one if
there are none.
-/
def renderObject : List (String × Json) → List Char
  | [] => []
  | (name, value) :: rest => quote name ++ ':' :: (render value ++ renderMembers rest)

theorem name?_quote (name : String) (rest : List Char)
    : name? (quote name ++ ':' :: rest) = some (name, rest) := by
  simp only [name?, quote, List.cons_append, List.append_assoc, List.nil_append]
  rw [List.dropWhile_cons_of_neg (by decide)]
  simp [afterWord?, quoted?_quote, isBlankChar]

theorem exists_cons_of_isNumber {token : List Char} (h : isNumber token = true)
    : ∃ c cs, token = c :: cs ∧ isNumberChar c = true := by
  cases token with
  | nil => cases h
  | cons c cs => exact ⟨c, cs, rfl, allNumberChars_of_isNumber h c (.head _)⟩

/-- A written value begins with a visible character that closes no list. -/
theorem exists_cons_of_render (value : Json)
    : ∃ c cs, render value = c :: cs ∧ isBlankChar c = false ∧ c ≠ ']' := by
  have ofNumber : ∀ token, isNumber token = true
      → ∃ c cs, token = c :: cs ∧ isBlankChar c = false ∧ c ≠ ']' := by
    intro token number
    obtain ⟨c, cs, rfl, first⟩ := exists_cons_of_isNumber number
    have others : ∀ d, isNumberChar d = false → c ≠ d := fun _ => ne_of_isNumberChar first
    refine ⟨c, cs, rfl, ?_, others ']' rfl⟩
    simp [isBlankChar, others ' ' rfl, others '\n' rfl, others '\t' rfl, others '\r' rfl]
  cases value with
  | null | text s => exact ⟨_, _, rfl, rfl, by decide⟩
  | bool value => cases value <;> exact ⟨_, _, rfl, rfl, by decide⟩
  | natural n => exact ofNumber _ (isNumber_toDigits n)
  | number x =>
      simp only [render, renderNumber]
      cases written : numberLayout.text? x with
      | none => exact ⟨_, _, rfl, rfl, by decide⟩
      | some token => exact ofNumber token (isNumber_of_text? written)
  | list items => cases items <;> exact ⟨_, _, rfl, rfl, by decide⟩
  | object members => cases members <;> exact ⟨_, _, rfl, rfl, by decide⟩

/-- The items that follow a bracket do not close the list. -/
theorem afterWord?_renderList {items : List Json} (nonempty : items ≠ []) (rest : List Char)
    : afterWord? [']'] ((renderList items ++ rest).dropWhile isBlankChar) = none := by
  cases items with
  | nil => exact absurd rfl nonempty
  | cons item more =>
      obtain ⟨c, cs, written, visible, open_⟩ := exists_cons_of_render item
      simp only [renderList, written, List.cons_append]
      rw [List.dropWhile_cons_of_neg (by simp [visible])]
      simp [afterWord?, open_]

/-- The members that follow a brace do not close the object. -/
theorem afterWord?_renderObject {members : List (String × Json)} (nonempty : members ≠ [])
    (rest : List Char)
    : afterWord? ['\x7d'] ((renderObject members ++ rest).dropWhile isBlankChar) = none := by
  cases members with
  | nil => exact absurd rfl nonempty
  | cons member more => rfl

/-- What follows an item or a member is no number character. -/
theorem stopsNumber_renderItems (items : List Json) (rest : List Char)
    : StopsNumber (renderItems items ++ rest) := by
  cases items <;> (intro c first; cases first; rfl)

theorem stopsNumber_renderMembers (members : List (String × Json)) (rest : List Char)
    : StopsNumber (renderMembers members ++ rest) := by
  cases members <;> (intro c first; cases first; rfl)

/-- An item is followed by the end of the list or by further items. -/
theorem items?_succ {fuel : Nat} {cs rest : List Char} {item : Form}
    (read : value? fuel cs = some (item, ']' :: rest))
    : items? (fuel + 1) cs = some ([item], rest) := by
  simp [items?, read, isBlankChar]

theorem items?_succ_more {fuel : Nat} {cs middle rest : List Char} {item : Form}
    {more : List Form} (read : value? fuel cs = some (item, ',' :: middle))
    (others : items? fuel middle = some (more, rest))
    : items? (fuel + 1) cs = some (item :: more, rest) := by
  simp [items?, read, others, isBlankChar]

/-- A member is followed by the end of the object or by further members. -/
theorem members?_succ {fuel : Nat} {cs middle rest : List Char} {name : String} {value : Form}
    (named : name? cs = some (name, middle))
    (read : value? fuel middle = some (value, '\x7d' :: rest))
    : members? (fuel + 1) cs = some ([(name, value)], rest) := by
  simp [members?, named, read, isBlankChar]

theorem members?_succ_more {fuel : Nat} {cs middle last rest : List Char} {name : String}
    {value : Form} {more : List (String × Form)} (named : name? cs = some (name, middle))
    (read : value? fuel middle = some (value, ',' :: last))
    (others : members? fuel last = some (more, rest))
    : members? (fuel + 1) cs = some ((name, value) :: more, rest) := by
  simp [members?, named, read, others, isBlankChar]

theorem value?_items {fuel : Nat} {cs rest : List Char} {items : List Form}
    (more : afterWord? [']'] (cs.dropWhile isBlankChar) = none)
    (read : items? fuel cs = some (items, rest))
    : value? (fuel + 1) ('[' :: cs) = some (.list items, rest) := by
  rw [value?, List.dropWhile_cons_of_neg (by decide)]
  simp [more, read]

theorem value?_members {fuel : Nat} {cs rest : List Char} {members : List (String × Form)}
    (more : afterWord? ['\x7d'] (cs.dropWhile isBlankChar) = none)
    (read : members? fuel cs = some (members, rest))
    : value? (fuel + 1) ('\x7b' :: cs) = some (.object members, rest) := by
  rw [value?, List.dropWhile_cons_of_neg (by decide)]
  simp [more, read]

mutual

/-- A written value reads back, by recursion on the value. -/
theorem value?_render
    : ∀ (value : Json) (rest : List Char) (fuel : Nat),
        2 * (render value).length ≤ fuel → StopsNumber rest
        → value? fuel (render value ++ rest) = some (form value, rest)
  | value, _, 0, enough, _ => by
      obtain ⟨c, cs, written, -⟩ := exists_cons_of_render value
      simp [written] at enough
  | .null, rest, fuel + 1, _, _ => value?_scalar fuel rfl (by decide) (by decide)
  | .bool true, rest, fuel + 1, _, _ => value?_scalar fuel rfl (by decide) (by decide)
  | .bool false, rest, fuel + 1, _, _ => value?_scalar fuel rfl (by decide) (by decide)
  | .natural n, rest, fuel + 1, _, stop => value?_number (by omega) (isNumber_toDigits n) stop
  | .number x, rest, fuel + 1, _, stop => by
      simp only [render, renderNumber, form, numberForm]
      cases written : numberLayout.text? x with
      | none => exact value?_scalar fuel rfl (by decide) (by decide)
      | some token => exact value?_number (by omega) (isNumber_of_text? written) stop
  | .text s, rest, fuel + 1, _, _ =>
      (value?_scalar fuel rfl (by decide) (by decide)).trans (scalar?_quote s rest)
  | .list [], rest, fuel + 1, _, _ => by
      simp [render, form, itemForms, value?, isBlankChar, afterWord?]
  | .list (item :: more), rest, fuel + 1, enough, _ => by
      have read := items?_renderList (item :: more) rest fuel (by simp) (by
        simp only [render, renderList, List.length_cons] at enough ⊢
        omega)
      exact value?_items (afterWord?_renderList (List.cons_ne_nil item more) rest) read
  | .object [], rest, fuel + 1, _, _ => by
      simp [render, form, memberForms, value?, isBlankChar, afterWord?]
  | .object ((name, value) :: more), rest, fuel + 1, enough, _ => by
      have read := members?_renderObject ((name, value) :: more) rest fuel (by simp) (by
        simp only [render, renderObject, List.length_cons] at enough ⊢
        omega)
      exact value?_members (afterWord?_renderObject (List.cons_ne_nil (name, value) more) rest) read

/-- The written items of a list read back, by recursion on the items. -/
theorem items?_renderList
    : ∀ (items : List Json) (rest : List Char) (fuel : Nat),
        items ≠ [] → 2 * (renderList items).length < fuel
        → items? fuel (renderList items ++ rest) = some (itemForms items, rest)
  | [], _, _, nonempty, _ => absurd rfl nonempty
  | item :: more, rest, fuel + 1, _, enough => by
      simp only [renderList, List.length_append] at enough
      have read := value?_render item (renderItems more ++ rest) fuel (by omega)
        (stopsNumber_renderItems more rest)
      rw [renderList, List.append_assoc]
      cases more with
      | nil => exact items?_succ read
      | cons second more =>
          have others := items?_renderList (second :: more) rest fuel (by simp) (by
            simp only [renderItems, renderList, List.length_cons] at enough ⊢
            omega)
          exact items?_succ_more read others

/-- The written members of an object read back, by recursion on the members. -/
theorem members?_renderObject
    : ∀ (members : List (String × Json)) (rest : List Char) (fuel : Nat),
        members ≠ [] → 2 * (renderObject members).length < fuel
        → members? fuel (renderObject members ++ rest) = some (memberForms members, rest)
  | [], _, _, nonempty, _ => absurd rfl nonempty
  | (name, value) :: more, rest, fuel + 1, _, enough => by
      simp only [renderObject, List.length_append, List.length_cons] at enough
      have read := value?_render value (renderMembers more ++ rest) fuel (by omega)
        (stopsNumber_renderMembers more rest)
      have named := name?_quote name (render value ++ (renderMembers more ++ rest))
      simp only [renderObject, List.append_assoc, List.cons_append]
      cases more with
      | nil => exact members?_succ named read
      | cons second more =>
          have others := members?_renderObject (second :: more) rest fuel (by simp) (by
            simp only [renderMembers, renderObject, List.length_cons] at enough ⊢
            omega)
          exact members?_succ_more named read others

end

/-- The line of a value says that value. -/
theorem form?_line (value : Json)
    : form? value.line = some (form value) := by
  have read :=
    value?_render value [] (2 * (render value).length + 2) (by omega) (by simp [StopsNumber])
  rw [List.append_nil] at read
  simp only [form?, line, String.toList_ofList, read]
  rfl

end CallWatch.Json

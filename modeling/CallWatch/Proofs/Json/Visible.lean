import CallWatch.Proofs.Json.Number

/-! Written values are one line: no character of them is below a space.
What a text holds below a space is written by an escape, and nothing else that is written needs
such a character.
-/

namespace CallWatch.Json

/-- No character is below a space, so none is a control character that ends a line. -/
def Visible (cs : List Char) : Prop :=
  ∀ c ∈ cs, 0x20 ≤ c.toNat

instance (cs : List Char) : Decidable (Visible cs) :=
  List.decidableBAll (fun c : Char => 0x20 ≤ c.toNat) cs

namespace Visible

theorem nil : Visible [] := fun _ member => nomatch member

theorem cons {c : Char} {cs : List Char} (first : 0x20 ≤ c.toNat) (others : Visible cs)
    : Visible (c :: cs) :=
  List.forall_mem_cons.mpr ⟨first, others⟩

theorem append {cs ds : List Char} (first : Visible cs) (last : Visible ds)
    : Visible (cs ++ ds) :=
  List.forall_mem_append.mpr ⟨first, last⟩

end Visible

/-- A hexadecimal digit is visible. -/
theorem visible_hexDigit
    : ∀ n < 16, 0x20 ≤ (hexDigit n).toNat := by
  decide

/-- A written character is visible, by cases on how it is escaped. -/
theorem visible_escape (c : Char)
    : Visible (escape c) := by
  have short (d : Char) (large : 0x20 ≤ d.toNat) : Visible ['\\', d] :=
    .cons (by decide) (.cons large .nil)
  simp only [escape]
  split
  · exact short _ (by decide)
  split
  · exact short _ (by decide)
  split
  · exact short _ (by decide)
  split
  · exact short _ (by decide)
  split
  · exact short _ (by decide)
  split
  · exact short _ (by decide)
  split
  · exact short _ (by decide)
  split
  · next small =>
    have high := visible_hexDigit (c.toNat / 16) (by omega)
    have low := visible_hexDigit (c.toNat % 16) (by omega)
    exact (short 'u' (by decide)).append
      (.cons (by decide) (.cons (by decide) (.cons high (.cons low .nil))))
  · next large => exact .cons (Nat.le_of_not_lt large) .nil

theorem visible_quote (s : String)
    : Visible (quote s) := by
  refine .cons (by decide) (.append (fun d member => ?_) (.cons (by decide) .nil))
  obtain ⟨c, -, written⟩ := List.mem_flatMap.mp member
  exact visible_escape c d written

/-- A number is visible, since number characters are. -/
theorem visible_of_isNumber {token : List Char} (number : isNumber token = true)
    : Visible token := by
  intro c member
  have chars := allNumberChars_of_isNumber number c member
  simp only [isNumberChar, Bool.or_eq_true, decide_eq_true_eq, Char.isDigit, Bool.and_eq_true]
    at chars
  rcases chars with ((((digit | rfl) | rfl) | rfl) | rfl) | rfl
  · have := digit.1
    change 48 ≤ c.toNat at this
    omega
  all_goals decide

theorem visible_renderNumber (x : Binary64)
    : Visible (renderNumber x) := by
  unfold renderNumber
  cases written : numberLayout.text? x with
  | none => decide
  | some token => exact visible_of_isNumber (isNumber_of_text? written)

mutual

/-- A written value is visible, by recursion on the value. -/
theorem visible_render : ∀ value : Json, Visible (render value)
  | .null => by decide
  | .bool true => by decide
  | .bool false => by decide
  | .natural n => visible_of_isNumber (isNumber_toDigits n)
  | .number x => visible_renderNumber x
  | .text s => visible_quote s
  | .list [] => by decide
  | .list (item :: rest) =>
      .cons (by decide) (.append (visible_render item) (visible_renderItems rest))
  | .object [] => by decide
  | .object ((name, value) :: rest) =>
      .cons (by decide) (.append (visible_quote name)
        (.cons (by decide) (.append (visible_render value) (visible_renderMembers rest))))

theorem visible_renderItems : ∀ items : List Json, Visible (renderItems items)
  | [] => by decide
  | item :: rest =>
      .cons (by decide) (.append (visible_render item) (visible_renderItems rest))

theorem visible_renderMembers : ∀ members : List (String × Json), Visible (renderMembers members)
  | [] => by decide
  | (name, value) :: rest =>
      .cons (by decide) (.append (visible_quote name)
        (.cons (by decide) (.append (visible_render value) (visible_renderMembers rest))))

end

/-- The line of a value is one line. -/
theorem visible_line (value : Json)
    : Visible value.line.toList := by
  rw [line, String.toList_ofList]
  exact visible_render value

end CallWatch.Json

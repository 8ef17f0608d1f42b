import CallWatch.Text.Utf8

/-! The order of texts is the order of their UTF-8 bytes.
The first byte of a form tells its length and grows with it, and within one length the bytes
are the digits of the code point, the most significant first.
-/

namespace CallWatch.Text.Utf8

/-- No code point lies above the last one of the planes. -/
theorem toNat_lt_planes (c : Char)
    : c.toNat < 0x110000 := by
  have valid := c.valid
  simp only [UInt32.isValidChar, Nat.isValidChar] at valid
  change c.val.toNat < _
  omega

/-- Two lists of bytes are in order when their first bytes are, or when these agree and the
rests are.
-/
theorem ofNat_cons_lt {a b : Nat} {x y : List UInt8} (bound : b < 256)
    (order : a < b ∨ a = b ∧ x < y)
    : UInt8.ofNat a :: x < UInt8.ofNat b :: y := by
  rw [List.cons_lt_cons_iff]
  rcases order with less | ⟨same, rest⟩
  · left
    rw [UInt8.lt_iff_toNat_lt, UInt8.toNat_ofNat', UInt8.toNat_ofNat']
    omega
  · exact Or.inr ⟨congrArg UInt8.ofNat same, rest⟩

/-- The continuation byte of six bits of a code point, as `encodeChar` makes it. -/
private abbrev sixBits (n unit : Nat) : UInt8 := UInt8.ofNat (0x80 + n / unit % 64)

private theorem oneTail_lt {n m : Nat} {x y : List UInt8} (less : n % 64 < m % 64)
    : sixBits n 1 :: x < sixBits m 1 :: y :=
  ofNat_cons_lt (by omega) (Or.inl (by omega))

private theorem twoTails_lt {n m : Nat} {x y : List UInt8} (less : n % 4096 < m % 4096)
    : sixBits n 64 :: sixBits n 1 :: x < sixBits m 64 :: sixBits m 1 :: y := by
  apply ofNat_cons_lt (by omega)
  rcases Nat.lt_or_eq_of_le (by omega : n / 64 % 64 ≤ m / 64 % 64) with lower | same
  · exact Or.inl (by omega)
  · exact Or.inr ⟨by omega, oneTail_lt (by omega)⟩

private theorem threeTails_lt {n m : Nat} {x y : List UInt8} (less : n % 262144 < m % 262144)
    : sixBits n 4096 :: sixBits n 64 :: sixBits n 1 :: x
      < sixBits m 4096 :: sixBits m 64 :: sixBits m 1 :: y := by
  apply ofNat_cons_lt (by omega)
  rcases Nat.lt_or_eq_of_le (by omega : n / 4096 % 64 ≤ m / 4096 % 64) with lower | same
  · exact Or.inl (by omega)
  · exact Or.inr ⟨by omega, twoTails_lt (by omega)⟩

/-- The bytes of a smaller character come first, whatever follows: a shorter form has the
smaller first byte, and forms of one length are compared place by place.
-/
theorem encodeChar_append_lt {c d : Char} (h : c < d) (x y : List UInt8)
    : encodeChar c ++ x < encodeChar d ++ y := by
  have less : c.toNat < d.toNat := h
  have bound := toNat_lt_planes d
  simp only [encodeChar, twoPow, Nat.pow]
  generalize c.toNat = n at less ⊢
  generalize d.toNat = m at less bound ⊢
  split
  · repeat' split
    all_goals exact ofNat_cons_lt (by omega) (Or.inl (by omega))
  rw [if_neg (by omega : ¬ m < 0x80)]
  split
  · repeat' split
    · apply ofNat_cons_lt (by omega)
      rcases Nat.lt_or_eq_of_le (by omega : n / 64 ≤ m / 64) with lower | same
      · exact Or.inl (by omega)
      · exact Or.inr ⟨by omega, oneTail_lt (by omega)⟩
    all_goals exact ofNat_cons_lt (by omega) (Or.inl (by omega))
  rw [if_neg (by omega : ¬ m < 0x800)]
  split
  · split
    · apply ofNat_cons_lt (by omega)
      rcases Nat.lt_or_eq_of_le (by omega : n / 4096 ≤ m / 4096) with lower | same
      · exact Or.inl (by omega)
      · exact Or.inr ⟨by omega, twoTails_lt (by omega)⟩
    · exact ofNat_cons_lt (by omega) (Or.inl (by omega))
  rw [if_neg (by omega : ¬ m < 0x10000)]
  apply ofNat_cons_lt (by omega)
  rcases Nat.lt_or_eq_of_le (by omega : n / 262144 ≤ m / 262144) with lower | same
  · exact Or.inl (by omega)
  · exact Or.inr ⟨by omega, threeTails_lt (by omega)⟩

theorem encodeChar_ne_nil (c : Char)
    : encodeChar c ≠ [] := by
  simp only [encodeChar]
  repeat' split
  all_goals simp

/-- The bytes of a smaller text come first, by induction on the common start of the texts.
-/
theorem encode_lt_encode {cs ds : List Char} (h : cs < ds)
    : encode cs < encode ds := by
  induction h with
  | @nil d ds =>
      cases form : encodeChar d with
      | nil => exact absurd form (encodeChar_ne_nil d)
      | cons b bytes => simp [encode, form]
  | rel less => exact encodeChar_append_lt less _ _
  | cons _ ih => exact List.append_left_lt ih

/-- Texts in ascending order have their bytes in ascending order. -/
theorem ofText_lt_ofText {s t : String} (h : s < t)
    : ofText s < ofText t :=
  encode_lt_encode h

end CallWatch.Text.Utf8

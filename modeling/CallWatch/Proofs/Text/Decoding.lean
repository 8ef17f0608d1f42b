import CallWatch.Proofs.Text.ByteOrder

/-! Encoded texts decode to themselves.
-/

namespace CallWatch.Text.Utf8

/-- The code point of a character gives the character back, in a form that is long enough. -/
theorem char?_toNat {c : Char} {least : Nat} (long : least ≤ c.toNat)
    : char? least c.toNat = some c := by
  have valid : c.toNat.isValidChar := c.valid
  rw [char?, dif_pos valid, if_pos long]
  rfl

theorem toNat_ofNat {n : Nat} (small : n < 256)
    : (UInt8.ofNat n).toNat = n := by
  rw [UInt8.toNat_ofNat']
  omega

/-- A continuation byte gives its six bits. -/
theorem tail?_ofNat {bits : Nat} (six : bits < 64)
    : tail? (UInt8.ofNat (0x80 + bits)) = some bits := by
  have value : (UInt8.ofNat (0x80 + bits)).toNat = 0x80 + bits := toNat_ofNat (by omega)
  unfold tail?
  rw [value, if_pos ⟨by omega, by omega⟩, Nat.add_sub_cancel_left]

/-- A leading byte begins a longer form. -/
theorem decodeFrom?_lead {n : Nat} {u : Unfinished} (large : 0x80 ≤ n) (small : n < 256)
    (announced : lead? (UInt8.ofNat n) = some u) (rest : List UInt8)
    : decodeFrom? none (UInt8.ofNat n :: rest) = decodeFrom? (some u) rest := by
  rw [decodeFrom?, toNat_ofNat small, if_neg (Nat.not_lt.mpr large), announced]
  rfl

/-- A continuation byte that is not the last one adds its bits. -/
theorem decodeFrom?_more {owed value least bits : Nat} (more : 1 < owed) (six : bits < 64)
    (rest : List UInt8)
    : decodeFrom? (some ⟨owed, value, least⟩) (UInt8.ofNat (0x80 + bits) :: rest)
      = decodeFrom? (some ⟨owed - 1, value * 64 + bits, least⟩) rest := by
  rw [decodeFrom?, tail?_ofNat six]
  exact if_neg (Nat.not_le.mpr more)

/-- The last continuation byte completes the character. -/
theorem decodeFrom?_last (c : Char) {value least bits : Nat} (six : bits < 64)
    (point : value * 64 + bits = c.toNat) (long : least ≤ c.toNat) (rest : List UInt8)
    : decodeFrom? (some ⟨1, value, least⟩) (UInt8.ofNat (0x80 + bits) :: rest)
      = (decodeFrom? none rest).map (c :: ·) := by
  rw [decodeFrom?, tail?_ofNat six]
  simp only [Option.bind_some, Nat.le_refl, if_true, point, char?_toNat long]

/-- An encoded character decodes to itself, by cases on the length of its form. -/
theorem decodeFrom?_encodeChar (c : Char) (rest : List UInt8)
    : decodeFrom? none (encodeChar c ++ rest) = (decodeFrom? none rest).map (c :: ·) := by
  have bound := toNat_lt_planes c
  have last : c.toNat / twoPow 0 % 64 = c.toNat % 64 := by
    rw [show twoPow 0 = 1 from rfl, Nat.div_one]
  have middle : c.toNat / twoPow 6 % 64 = c.toNat / 64 % 64 := rfl
  have first : c.toNat / twoPow 12 % 64 = c.toNat / 4096 % 64 := rfl
  simp only [encodeChar, last, middle, first]
  split
  · next one =>
    rw [List.singleton_append, decodeFrom?, toNat_ofNat (by omega), if_pos one,
      Char.ofNat_toNat]
  split
  · next two =>
    have lead : lead? (UInt8.ofNat (0xC0 + c.toNat / 64)) = some ⟨1, c.toNat / 64, 0x80⟩ := by
      simp only [lead?, toNat_ofNat (n := 0xC0 + c.toNat / 64) (by omega)]
      rw [if_neg (by omega), if_pos (by omega), Nat.add_sub_cancel_left]
    simp only [List.cons_append, List.nil_append]
    rw [decodeFrom?_lead (by omega) (by omega) lead,
      decodeFrom?_last c (by omega) (by omega) (by omega)]
  split
  · next three =>
    have lead :
        lead? (UInt8.ofNat (0xE0 + c.toNat / 4096)) = some ⟨2, c.toNat / 4096, 0x800⟩ := by
      simp only [lead?, toNat_ofNat (n := 0xE0 + c.toNat / 4096) (by omega)]
      rw [if_neg (by omega), if_neg (by omega), if_pos (by omega), Nat.add_sub_cancel_left]
    simp only [List.cons_append, List.nil_append]
    rw [decodeFrom?_lead (by omega) (by omega) lead,
      decodeFrom?_more (by omega) (by omega),
      decodeFrom?_last c (by omega) (by omega) (by omega)]
  · next four =>
    have lead :
        lead? (UInt8.ofNat (0xF0 + c.toNat / 262144))
          = some ⟨3, c.toNat / 262144, 0x10000⟩ := by
      simp only [lead?, toNat_ofNat (n := 0xF0 + c.toNat / 262144) (by omega)]
      rw [if_neg (by omega), if_neg (by omega), if_neg (by omega), if_pos (by omega),
        Nat.add_sub_cancel_left]
    simp only [List.cons_append, List.nil_append]
    rw [decodeFrom?_lead (by omega) (by omega) lead,
      decodeFrom?_more (by omega) (by omega),
      decodeFrom?_more (by omega) (by omega),
      decodeFrom?_last c (by omega) (by omega) (by omega)]

/-- An encoded text decodes to itself, by induction on its characters. -/
theorem decode?_encode (cs : List Char)
    : decode? (encode cs) = some cs := by
  induction cs with
  | nil => rfl
  | cons c rest ih =>
      rw [decode?] at ih ⊢
      rw [encode, List.flatMap_cons, decodeFrom?_encodeChar]
      rw [encode] at ih
      rw [ih]
      rfl

end CallWatch.Text.Utf8

import CallWatch.Json.ReadError

/-! Reading a JSON number.
A whole number that fits a 64-bit word stays exact. Any other number becomes a binary64
number: its first digits, as far as they fit a word, are rounded to one and then multiplied
or divided by a rounded power of ten.
-/

namespace CallWatch.Json

/-- A number: whole numbers that fit a word, negative ones that fit a signed word, and the
rest.
-/
inductive ReadNumber where
  | natural (value : Nat)
  | negative (value : Int)
  | float (value : Binary64)

/-- What a number is found to be where something else is expected. -/
def ReadNumber.found : ReadNumber → Found
  | .natural value => .integer value
  | .negative value => .integer value
  | .float value => .float value

def isDigit (b : UInt8) : Bool := 0x30 ≤ b && b ≤ 0x39

def digitOf (b : UInt8) : Nat := b.toNat - 0x30

def Cursor.atDigit (c : Cursor) : Bool :=
  match c.rest with
  | [] => false
  | b :: _ => isDigit b

def Cursor.atExponent (c : Cursor) : Bool :=
  match c.rest with
  | [] => false
  | b :: _ => b = 0x65 || b = 0x45

/-- Digits that have been read: their value and count, and the cursor after them. -/
structure Digits where
  value : Nat
  count : Nat
  after : Cursor

/-- Reads digits as long as the value stays within `limit`. -/
def takeDigits (limit value count : Nat) (pos : Position) : List UInt8 → Digits
  | [] => ⟨value, count, ⟨pos, []⟩⟩
  | b :: rest =>
    if isDigit b && value * 10 + digitOf b ≤ limit then
      takeDigits limit (value * 10 + digitOf b) (count + 1) (pos.after b) rest
    else ⟨value, count, ⟨pos, b :: rest⟩⟩

def skipDigits (count : Nat) (pos : Position) : List UInt8 → Nat × Cursor
  | [] => (count, ⟨pos, []⟩)
  | b :: rest =>
    if isDigit b then skipDigits (count + 1) (pos.after b) rest else (count, ⟨pos, b :: rest⟩)

def powerOfTen (n : Nat) : Binary64 := .ofNat (tenPow n)

/-- Divides by powers of ten that are binary64 numbers, as many as it takes. -/
def divideByPower (x : Binary64) (exponent : Nat) : Binary64 :=
  if exponent ≤ 308 then x.div (powerOfTen exponent)
  else if x.isZero then x
  else divideByPower (x.div (powerOfTen 308)) (exponent - 308)
termination_by exponent

/-- The number of a significand and an exponent; none if it is out of range. -/
def scale? (significand : Nat) (exponent : Int) : Option Binary64 :=
  let x := Binary64.ofNat significand
  if exponent < 0 then some (divideByPower x exponent.natAbs)
  else if exponent ≤ 308 then
    let product := x.mul (powerOfTen exponent.toNat)
    if product.isInfinite then none else some product
  else if x.isZero then some x
  else none

/-- Ends a number that is not whole. -/
def finishFloat (negative : Bool) (significand : Nat) (exponent : Int) (c : Cursor)
    : Except ReadError (ReadNumber × Cursor) :=
  match scale? significand exponent with
  | some x => .ok (.float (if negative then x.neg else x), c)
  | none => failHere .numberOutOfRange c

/-- The greatest exponent that is read exactly. -/
def greatestExponent : Nat := greatestWord 31

/-- Reads the exponent; the cursor stands at its mark. An exponent too large to read makes
the number zero or puts it out of range.
-/
def readExponent (negative : Bool) (significand : Nat) (exponent : Int) (c : Cursor)
    : Except ReadError (ReadNumber × Cursor) :=
  let c := c.next
  let below := c.peek? = some 0x2D
  let c := if below || c.peek? = some 0x2B then c.next else c
  match c.rest with
  | [] => failHere .endInValue c
  | b :: _ =>
    if !isDigit b then failHere .invalidNumber c.next
    else
      let digits := takeDigits greatestExponent 0 0 c.pos c.rest
      if digits.after.atDigit then
        if significand ≠ 0 && !below then failHere .numberOutOfRange digits.after.next
        else
          let (_, c) := skipDigits 0 digits.after.pos digits.after.rest
          .ok (.float (.zero negative), c)
      else
        let shift := if below then -(digits.value : Int) else digits.value
        finishFloat negative significand (exponent + shift) digits.after

/-- Ends a number after its digits: with an exponent, or here. -/
def readScale (negative : Bool) (significand : Nat) (exponent : Int) (c : Cursor)
    : Except ReadError (ReadNumber × Cursor) :=
  if c.atExponent then readExponent negative significand exponent c
  else finishFloat negative significand exponent c

/-- Reads the fraction; the cursor stands at the point. Digits that no longer fit the
significand are passed over.
-/
def readFraction (negative : Bool) (significand : Nat) (exponent : Int) (c : Cursor)
    : Except ReadError (ReadNumber × Cursor) :=
  let c := c.next
  let digits := takeDigits (greatestWord 64) significand 0 c.pos c.rest
  if digits.after.atDigit then
    let (_, c) := skipDigits 0 digits.after.pos digits.after.rest
    readScale negative digits.value (exponent - digits.count) c
  else if digits.count = 0 then
    match c.rest with
    | [] => failNext .endInValue c
    | _ :: _ => failNext .invalidNumber c
  else readScale negative digits.value (exponent - digits.count) digits.after

/-- A whole number; a negative one that is zero or too small is not exact. -/
def whole (negative : Bool) (value : Nat) : ReadNumber :=
  if !negative then .natural value
  else if value = 0 ∨ twoPow 63 < value then .float (Binary64.ofNat value).neg
  else .negative (-(value : Int))

/-- Ends a number after its whole digits, which all fit the significand. -/
def readAfterWhole (negative : Bool) (value : Nat) (c : Cursor)
    : Except ReadError (ReadNumber × Cursor) :=
  if c.peek? = some 0x2E then readFraction negative value 0 c
  else if c.atExponent then readExponent negative value 0 c
  else .ok (whole negative value, c)

def readNumber (negative : Bool) (c : Cursor) : Except ReadError (ReadNumber × Cursor) :=
  match c.rest with
  | [] => failHere .endInValue c
  | b :: _ =>
    if b = 0x30 then
      if c.next.atDigit then failNext .invalidNumber c.next
      else readAfterWhole negative 0 c.next
    else if isDigit b then
      let digits := takeDigits (greatestWord 64) 0 0 c.pos c.rest
      if digits.after.atDigit then
        let (more, c) := skipDigits 0 digits.after.pos digits.after.rest
        if c.peek? = some 0x2E then readFraction negative digits.value more c
        else readScale negative digits.value more c
      else readAfterWhole negative digits.value digits.after
    else failHere .invalidNumber c.next

def skipExponent (c : Cursor) : Except ReadError Cursor :=
  let c := c.next
  let c := if c.peek? = some 0x2B || c.peek? = some 0x2D then c.next else c
  if c.atDigit then .ok (skipDigits 0 c.pos c.rest).2 else failHere .invalidNumber c.next

/-- Skips a number after its sign. Nothing is said about its range. -/
def skipNumber (c : Cursor) : Except ReadError Cursor :=
  let afterDigits (c : Cursor) : Except ReadError Cursor :=
    if c.peek? = some 0x2E then
      let (count, d) := skipDigits 0 c.next.pos c.next.rest
      if count = 0 then failNext .invalidNumber d
      else if d.atExponent then skipExponent d
      else .ok d
    else if c.atExponent then skipExponent c
    else .ok c
  if c.peek? = some 0x30 then
    if c.next.atDigit then failNext .invalidNumber c.next else afterDigits c.next
  else if c.atDigit then afterDigits (skipDigits 0 c.pos c.rest).2
  else failHere .invalidNumber c.next

end CallWatch.Json

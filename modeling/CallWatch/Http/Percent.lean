import CallWatch.Text.Hexadecimal
import CallWatch.Text.Utf8

/-! Percent-encoding of path segments.
An escape of a percent sign and two hexadecimal digits stands for a byte; whatever is no
such escape stands for itself.
-/

namespace CallWatch.Http

/-- The byte of an escape, if the three bytes are one. -/
def escapedByte? (mark high low : UInt8) : Option UInt8 :=
  if mark ≠ 0x25 then none
  else
    match Text.hexValue? high.toNat, Text.hexValue? low.toNat with
    | some h, some l => some (UInt8.ofNat (h * 16 + l))
    | _, _ => none

/-- The bytes that a percent-encoded list of bytes stands for. -/
def percentDecode : List UInt8 → List UInt8
  | a :: b :: c :: rest =>
    match escapedByte? a b c with
    | some byte => byte :: percentDecode rest
    | none => a :: percentDecode (b :: c :: rest)
  | short => short

/-- The text that a percent-encoded segment stands for, if it stands for one. -/
def segmentText? (segment : String) : Option String :=
  Text.Utf8.text? (percentDecode (Text.Utf8.ofText segment))

end CallWatch.Http

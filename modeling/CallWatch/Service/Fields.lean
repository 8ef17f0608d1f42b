import CallWatch.Binary64.Decimal
import CallWatch.Http.Response
import CallWatch.Http.Route
import CallWatch.Text.Utf8
import CallWatch.Time.Duration

/-! The fields that responses get on their way out: the length of the body, the time that
the request took, and the permission for pages of any origin to read them.
-/

namespace CallWatch.Service

open Http (Response)

/-- Tells the length of a whole body in bytes. -/
def withLength (r : Response) : Response :=
  match r.body with
  | .whole text => r.setField "content-length" (Text.decimal (Text.Utf8.ofText text).length)
  | .events => r

/-- Leaves out the body of the response to a verb that asks for the fields only. -/
def withoutBody (verb : String) (r : Response) : Response :=
  if verb = "HEAD" then { r with body := .whole "" } else r

/-- Milliseconds with three decimal places: the seconds are rounded to a binary64 number,
multiplied by a thousand, and the product is rounded once more to thousandths.
-/
def millisText (d : Duration) : String :=
  let fraction := (Binary64.ofNat (d.nanos % 1000000000)).div (Binary64.ofNat 1000000000)
  let seconds := (Binary64.ofNat d.seconds).add fraction
  let thousandths := (seconds.mul (Binary64.ofNat 1000)).roundTo 3
  let places := String.ofList (Text.padded 3 (thousandths % 1000))
  Text.decimal (thousandths / 1000) ++ "." ++ places

/-- Tells how long a request took. -/
def withTiming (elapsed : Duration) (r : Response) : Response :=
  (r.setField "x-response-time-us" (Text.decimal elapsed.micros)).setField "server-timing"
    ("total;dur=" ++ millisText elapsed)

/-- The parts of a request on which the response may depend. -/
def variesWith : String :=
  "origin, access-control-request-method, access-control-request-headers"

/-- Lets pages of any origin read a response. -/
def withOrigin (r : Response) : Response :=
  (r.setField "vary" variesWith).setField "access-control-allow-origin" "*"

/-- Lets pages of any origin read a response with all its fields. -/
def withExposure (r : Response) : Response :=
  (withOrigin r).setField "access-control-expose-headers" "*"

/-- The response to a question for permission: everything is allowed. -/
def permission (route : Option Http.Route) : Response :=
  let r := (Response.bare 200).setField "access-control-allow-methods" "*"
  let r := withLength (r.setField "access-control-allow-headers" "*")
  withOrigin
    (match route with
    | some route => r.setField "allow" route.allowed
    | none => r)

end CallWatch.Service

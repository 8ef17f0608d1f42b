import CallWatch.Outcome
import CallWatch.Random.Uniform
import CallWatch.Text.Integer
import CallWatch.Time.Duration

/-! The script of a synthetic worker: which calls it makes, how long they take and how they
end, all drawn from its own stream.
-/

namespace CallWatch.Load

def methods : List String :=
  [ "/catalog.v1.ProductService/GetProduct",
    "/catalog.v1.ProductService/ListProducts",
    "/orders.v1.OrderService/CreateOrder",
    "/users.v1.UserService/GetProfile" ]

def failures : List Outcome :=
  [.internal, .unavailable, .deadlineExceeded, .notFound]

/-- A synthetic call as it is drawn. -/
structure SyntheticCall where
  method : String
  latency : Duration
  outcome : Outcome
  userId : String
  deriving DecidableEq, Repr

/-- The chance of a slow call, two in a hundred rounded to a binary64 number, in `2 ^ 64`. -/
def slowThreshold : Nat := 368934881474191040

def userCount : Nat := 10000

/-- Draws a number between two, both of which can come. -/
def drawBetween (least most : Nat) (s : Random.Stream) : Nat × Random.Stream :=
  let drawn := Random.below .long (most - least + 1) s
  (least + drawn.1, drawn.2)

/-- Draws a latency: mostly from half a millisecond to 25 of them, and from 100 to 300 in the
slow tail. The draws here are taken apart by their components, so that what is drawn can be
told without drawing it.
-/
def drawLatency (s : Random.Stream) : Duration × Random.Stream :=
  let slow := Random.chance slowThreshold s
  let micros :=
    if slow.1 then drawBetween 100000 300000 slow.2 else drawBetween 500 25000 slow.2
  (Duration.ofMicros micros.1, micros.2)

/-- Draws how a call ends, with a percentage of failures. -/
def drawOutcome (errorPct : Nat) (s : Random.Stream) : Outcome × Random.Stream :=
  let roll := Random.belowSmall 100 s
  if roll.1 < errorPct then
    let index := Random.below .long failures.length roll.2
    (failures.getD index.1 .internal, index.2)
  else (.ok, roll.2)

/-- The id of a user: at least eight digits. -/
def userId (n : Nat) : String :=
  String.ofList (['u', 's', 'r', '_'] ++ Text.padded 8 n)

/-- Draws the next call: method, latency, outcome and user. -/
def draw (errorPct : Nat) (s : Random.Stream) : SyntheticCall × Random.Stream :=
  let index := Random.below .long methods.length s
  let latency := drawLatency index.2
  let outcome := drawOutcome errorPct latency.2
  let user := Random.below .short userCount outcome.2
  (⟨methods.getD index.1 "", latency.1, outcome.1, userId (user.1 + 1)⟩, user.2)

theorem draw_method (errorPct : Nat) (s : Random.Stream)
    : (draw errorPct s).1.method = methods.getD (Random.below .long methods.length s).1 "" :=
  rfl

end CallWatch.Load

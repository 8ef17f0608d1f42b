import CallWatch.Service.Basic

/-! Streams of snapshot events.
A stream gives an event when it is opened and one every second from then on. Events that
fell due while nobody was reading come one after the other as soon as somebody reads, each
with the figures at that time.
-/

namespace CallWatch.Service

/-- An open stream: the instant at which its next event is due. -/
structure EventStream where
  due : Duration
  deriving DecidableEq, Repr, Inhabited

namespace EventStream

def period : Duration := Duration.ofSeconds 1

def opened (now : Duration) : EventStream := ⟨now⟩

def eventText (snapshot : Snapshot) : String :=
  "data: " ++ snapshot.json.line ++ "\n\n"

def advance (e : EventStream) : EventStream := ⟨e.due + period⟩

/-- The last whole millisecond before an instant. -/
def justBefore (instant : Duration) : Duration :=
  Duration.ofMillis (instant.wake.millis - 1)

/-- Reads the next event, moving the clock to the instant at which it is due. An event shows
the figures before anything else happens at that instant.
-/
def read (surroundings : Load.Surroundings) (now : Duration) (s : Service) (e : EventStream)
    : Duration × String × EventStream × Service :=
  if e.due ≤ now then (now, eventText (s.snapshot (surroundings.wall now)), e.advance, s)
  else
    let s := (timers surroundings).runTo (justBefore e.due) now s
    let text := eventText (s.snapshot (surroundings.wall e.due))
    (e.due, text, e.advance, s.settle surroundings e.due)

end EventStream

end CallWatch.Service

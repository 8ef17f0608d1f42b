import CallWatch.Proofs.Observation.Decoding
import CallWatch.Proofs.Service.Relay
import CallWatch.Proofs.Time.Stamp

/-! A snapshot is told alike in the log and to clients.
Its record and the body of the response with it are written from the same rows, so the lists in
them hold the same items. Their timestamps tell one instant, with as many fraction digits as there
can be and as there have to be.
-/

namespace CallWatch

open Http (Request Response)
open Service (Exchange)

-----------------------------------------------------------------------------------------
-- The response
-----------------------------------------------------------------------------------------

/-- The body of the response with a snapshot. -/
def Snapshot.body (s : Snapshot) : String :=
  (Response.json 200 s.json).body.text

namespace Service
variable {r : Request}

/-- A question for the figures is answered with a snapshot and leaves the service as it is, since
it is not observed.
-/
theorem accept_metrics (reads : r.verb = "GET") (path : r.path = "/api/metrics")
    (wall : WallClock) (now : Duration) (s : Service)
    : s.accept wall now r
      = (.answered (untimed r (.json 200 (s.snapshot (wall now)).json)), s) := by
  have asksNot : r.verb ≠ permissionVerb := by
    rw [reads]
    decide
  have handled : s.handle (wall now) r = .answer (.json 200 (s.snapshot (wall now)).json) := by
    have route : Http.Route.ofPath? r.path = some .metrics := by
      rw [path]
      decide
    have taken : (!Http.Route.metrics.accepts r.verb) = false := by
      rw [reads]
      decide
    simp only [handle, route, taken, Bool.false_eq_true, if_false]
  have unobserved : observes r = false := by
    rw [observes, path]
    decide
  simp only [accept, if_neg asksNot, handled, conclude, completes, sent, completeCall, unobserved,
    Bool.not_false, Bool.true_or, if_true, Bool.false_eq_true, if_false, untimed]

theorem body_untimed (response : Response)
    : (untimed r response).body = if r.verb = "HEAD" then .whole "" else response.body := by
  simp only [untimed, withExposure, withOrigin, Response.body_setField, body_withoutBody,
    body_withLength]

theorem status_untimed (response : Response)
    : (untimed r response).status = response.status := by
  unfold untimed withoutBody withLength
  split <;> split <;> rfl

end Service

-----------------------------------------------------------------------------------------
-- The law
-----------------------------------------------------------------------------------------

/-- What a line of the log and a body tell of a snapshot:
- `figures`: the items of the list in the line are those of the list in the body, in the same
  order, and they show the rows;
- `instant`: the timestamps tell the instant of the snapshot, the one of the line with nine
  fraction digits and the other with none, three, six or nine.
-/
structure Snapshot.ToldAlike (s : Snapshot) (line body : String) : Prop where
  figures : ∃ record document items,
    Json.form? line = some record
    ∧ Json.form? body = some document
    ∧ record.member? "metrics" = some (.list items)
    ∧ document.member? "methods" = some (.list items)
    ∧ items.mapM ShownRow.ofForm? = some (s.rows.map Row.shown)
  instant : ∃ stamp collected, ∃ digits ∈ [0, 3, 6, 9],
    Json.textMember? "at" line = some stamp
    ∧ Json.textMember? "collectedAt" body = some collected
    ∧ s.collectedAt.shown.Tells 9 stamp
    ∧ s.collectedAt.shown.Tells digits collected

/-- The record and the body of a snapshot of a year from 0 to 9999 tell it alike. -/
theorem Snapshot.toldAlike {s : Snapshot} (year : s.collectedAt.HasYear)
    (h : s.collectedAt.nanos < 2000000000)
    : s.ToldAlike (Record.snapshot ⟨s.collectedAt.fullText, s.rows⟩).line s.body where
  figures := by
    refine ⟨_, _, _, Json.form?_line _, Json.form?_line _, rfl, rfl, ?_⟩
    exact ShownRow.listOfForm?_rows s.rows
  instant := by
    obtain ⟨digits, few, short⟩ := Time.Instant.tells_shortText year h
    refine ⟨_, _, digits, few, ?_, ?_, Time.Instant.tells_fullText year h, short⟩
    · rw [Json.textMember?, Record.line, Json.form?_line]
      rfl
    · rw [Json.textMember?, body, Response.json, Http.Body.text, Json.form?_line]
      rfl

/-- What becomes of a snapshot:
- `told`: it is reported as emitted if it has a row, and only then;
- `grows` and `stays`: then the log gains one line, and otherwise nothing changes; the line and
  the body of the response with the snapshot tell it alike;
- `served`: a service with this snapshot answers a question for the figures with that body.
-/
structure EmissionLaw (o : Observatory) (s : Snapshot) : Prop where
  told : (o.emit s).1 = true ↔ s.rows ≠ []
  grows : s.rows ≠ [] → ∃ line, (o.emit s).2.lines = o.lines ++ [line] ∧ s.ToldAlike line s.body
  stays : s.rows = [] → (o.emit s).2 = o
  served :
    ∀ (service : Service) (wall : WallClock) (now : Duration) (r : Request),
      service.snapshot (wall now) = s → r.verb = "GET" → r.path = "/api/metrics"
      → ∃ response, service.accept wall now r = (.answered response, service)
        ∧ response.status = 200 ∧ response.body = .whole s.body

/-- The log and the response agree on every snapshot of a year from 0 to 9999, whatever its rows
are.
-/
theorem emissionLaw (o : Observatory) {s : Snapshot} (year : s.collectedAt.HasYear)
    (h : s.collectedAt.nanos < 2000000000)
    : EmissionLaw o s where
  told := by
    cases rows : s.rows <;> simp [Observatory.emit, Record.ofSnapshot?, Snapshot.isEmpty, rows]
  grows := by
    intro some
    refine ⟨_, ?_, Snapshot.toldAlike year h⟩
    have methods : s.isEmpty = false := by simpa [Snapshot.isEmpty] using some
    simp [Observatory.emit, Record.ofSnapshot?, methods, Observatory.lines]
  stays := by
    intro none
    simp [Observatory.emit, Record.ofSnapshot?, Snapshot.isEmpty, none]
  served := by
    rintro service wall now r rfl reads path
    refine ⟨_, Service.accept_metrics reads path wall now service,
      Service.status_untimed _, ?_⟩
    rw [Service.body_untimed, if_neg (by rw [reads]; decide)]
    rfl

/-- A snapshot within a leap second, with a repeated name and figures that are not numbers. -/
theorem emissionLaw_repeated
    : let rows : List Row :=
        [⟨"late", 2, 1, .nan false, .infinity true⟩, ⟨"late", 2, 1, .zero false, .infinity false⟩]
      let s : Snapshot := ⟨⟨1483228799, 1500000000⟩, rows⟩
      s.collectedAt.HasYear ∧ s.collectedAt.nanos < 2000000000 ∧ EmissionLaw default s := by
  intro rows s
  have year : s.collectedAt.HasYear := by decide
  have within : s.collectedAt.nanos < 2000000000 := by decide
  exact ⟨year, within, emissionLaw default year within⟩

end CallWatch

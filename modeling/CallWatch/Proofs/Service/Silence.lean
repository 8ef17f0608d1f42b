import CallWatch.Proofs.Load.Likeness
import CallWatch.Proofs.Reporter.Stopping
import CallWatch.Proofs.Service.Closings

/-! Nobody but the reporter writes reports.
Requests that end and the calls of load runs leave access records alone. So once the reporter has
returned, no report is written any more, whatever else happens to the service.
-/

namespace CallWatch

open Http (Request)
open Service (Exchange Pending)

namespace Observatory

/-- The reports that have been written. -/
def reports (o : Observatory) : List Record :=
  o.journal.toList.filter fun record => record.kind = .snapshot

theorem reports_complete (o : Observatory) (call : Call) (outcome : Outcome) (elapsed : Duration)
    (now : Time.Instant)
    : (o.complete call outcome elapsed now).reports = o.reports := by
  simp only [reports, journal_complete]
  split <;> simp [Record.kind]

end Observatory

-----------------------------------------------------------------------------------------
-- Load runs
-----------------------------------------------------------------------------------------

namespace Load

section Advance
variable (surroundings : Surroundings) (terms : Terms) (flag : Bool) (now : Duration)
  (due : Worker → Bool) (o : Observatory)

theorem Worker.reports_advance (w : Worker)
    : (w.advance surroundings terms flag now o).2.reports = o.reports := by
  simp only [advance, land]
  split
  · split
    · exact Observatory.reports_complete _ _ _ _ _
    · rfl
  · rfl

/-- The workers of a run write no report, by induction on them. -/
theorem Run.reports_advanceWorkers (workers : List Worker)
    : (advanceWorkers surroundings terms flag now due workers o).2.reports = o.reports := by
  induction workers generalizing o with
  | nil => rfl
  | cons w rest ih =>
      simp only [advanceWorkers]
      rw [ih]
      split
      · exact w.reports_advance surroundings terms flag now o
      · rfl

theorem Run.reports_advance (r : Run)
    : (r.advance surroundings flag now due o).2.reports = o.reports := by
  unfold advance
  split
  · rfl
  · exact reports_advanceWorkers surroundings _ flag now due o _

/-- Neither do the runs one after the other, by induction on them. -/
theorem Bench.reports_advanceRuns (runs : List Run)
    : (advanceRuns surroundings flag now due runs o).2.reports = o.reports := by
  induction runs generalizing o with
  | nil => rfl
  | cons r rest ih =>
      simp only [advanceRuns]
      rw [ih]
      exact r.reports_advance surroundings flag now due o

end Advance

namespace Bench
variable (surroundings : Surroundings) (now : Duration)

theorem reports_advance (due : Worker → Bool) (b : Bench)
    : (b.advance surroundings now due).observatory.reports = b.observatory.reports :=
  reports_advanceRuns surroundings b.control.flag now due b.observatory b.control.runs

/-- Whatever load does at an instant, it writes no report. -/
theorem reports_settle (b : Bench)
    : (b.settle surroundings now).observatory.reports = b.observatory.reports :=
  reports_advance surroundings now (fun _ => true)
    { b with control := b.control.launch now }

end Bench

end Load

-----------------------------------------------------------------------------------------
-- The service
-----------------------------------------------------------------------------------------

/-- A loop that has returned is not woken any more. -/
theorem Reporter.settle_of_returned {l : Reporter.Loop} (wall : WallClock) (now : Duration)
    (o : Observatory) (returned : l.running = false)
    : Reporter.settle wall now l o = (l, o) := by
  have stopped := Loop.running_eq_false_iff.mp returned
  refine Shift.settle_stuck o ?_ ?_ <;> simp [Loop.step?, stopped]

namespace Service

/-- No reporter is running. -/
def Unattended (s : Service) : Prop :=
  ∀ loop, s.reporter = some loop → loop.running = false

section Reporter
variable (wall : WallClock) (now : Duration) (r : Request) (p : Pending) (s : Service)

theorem reporter_completeCall (startedAt : Duration) (outcome : Outcome)
    : (s.completeCall wall now startedAt r outcome).reporter = s.reporter := by
  unfold completeCall
  split <;> rfl

theorem reporter_proceed
    : (s.proceed wall now p).2.reporter = s.reporter := by
  have goes := proceeds wall now p s
  generalize s.proceed wall now p = result at goes ⊢
  cases goes with
  | answer => exact reporter_completeCall wall now p.request _ p.startedAt _
  | wait => rfl

theorem reporter_accept
    : (s.accept wall now r).2.reporter = s.reporter := by
  have taken := accepts wall now r s
  generalize s.accept wall now r = result at taken ⊢
  cases taken with
  | permission => rfl
  | answer => exact reporter_completeCall wall now r s now _
  | order => exact reporter_proceed wall now _ _

theorem reporter_abandon
    : (s.abandon wall now p).reporter = s.reporter :=
  reporter_completeCall wall now p.request _ p.startedAt _

end Reporter

section Settle
variable {s : Service} (surroundings : Load.Surroundings) (now : Duration)

/-- Without a reporter that runs, what is due writes no report and starts none. -/
theorem Unattended.settle (unattended : s.Unattended)
    : (s.settle surroundings now).Unattended
      ∧ (s.settle surroundings now).observatory.reports = s.observatory.reports := by
  unfold Service.settle
  split
  · next none =>
    exact ⟨fun loop found => (nomatch none.symm.trans found),
      Load.Bench.reports_settle surroundings now s.bench⟩
  · next loop found =>
    have returned := unattended loop found
    simp only [Reporter.settle_of_returned surroundings.wall now _ returned]
    refine ⟨?_, ?_⟩
    · rintro _ ⟨⟩
      exact returned
    · exact (Load.Bench.reports_settle surroundings now _).trans
        (Load.Bench.reports_advance surroundings now _ s.bench)

end Settle

end Service

-----------------------------------------------------------------------------------------
-- Histories
-----------------------------------------------------------------------------------------

/-- Requests that end leave no report. -/
theorem Closing.reports_entries (wall : WallClock) (o : Observatory) (closed : List Closing)
    : (o.enterAll (entries wall closed)).reports = o.reports := by
  have calls
      : ∀ record ∈ ((entries wall closed).filter o.admits).map Entry.record,
          record.kind = .access := by
    intro record member
    obtain ⟨entry, admitted, rfl⟩ := List.mem_map.mp member
    obtain ⟨c, -, rfl⟩ := List.mem_map.mp (List.mem_of_mem_filter admitted)
    rfl
  have none
      : (((entries wall closed).filter o.admits).map Entry.record).filter
          (fun record => record.kind = .snapshot) = [] := by
    rw [List.filter_eq_nil_iff]
    intro record member
    simp [calls record member]
  rw [Observatory.reports, Observatory.journal_enterAll, List.filter_append, none,
    List.append_nil, Observatory.reports]

namespace Traffic

section Histories
variable (surroundings : Load.Surroundings) {t : Traffic}

/-- Requests leave the reporter alone, and one that has returned is not set going by a signal. -/
theorem unattended_step (unattended : t.service.Unattended) (now : Duration)
    {event : TrafficEvent} (other : event ≠ .startReporter)
    : (t.step surroundings now event).service.Unattended := by
  have same {next : Service} (kept : next.reporter = t.service.reporter) : next.Unattended :=
    fun loop found => unattended loop (kept ▸ found)
  cases event with
  | arrive r =>
      refine same ?_
      rw [step, service_joined, Service.reporter_accept]
  | resume index =>
      simp only [step]
      split
      · refine same ?_
        rw [service_joined, Service.reporter_proceed]
      · exact unattended
  | abandon index =>
      simp only [step]
      split
      · exact same (Service.reporter_abandon _ now _ _)
      · exact unattended
  | settle => exact (unattended.settle surroundings now).1
  | startReporter => exact absurd rfl other
  | stopReporter =>
      intro loop found
      obtain ⟨before, was, rfl⟩ := Option.map_eq_some_iff.mp found
      rw [Reporter.Loop.running_send]
      exact unattended before was

/-- Without a reporter that runs, no event writes a report. -/
theorem reports_step (orderly : t.Orderly) (unattended : t.service.Unattended) (now : Duration)
    (event : TrafficEvent)
    : (t.step surroundings now event).service.observatory.reports
      = t.service.observatory.reports := by
  by_cases settles : event = .settle
  · rw [settles]
    exact (unattended.settle surroundings now).2
  · rw [observatory_step surroundings orderly now settles, Closing.reports_entries]

/-- No history writes one unless it starts a reporter, by induction on it. -/
theorem reports_run (orderly : t.Orderly) (unattended : t.service.Unattended)
    (history : History) (others : ∀ entry ∈ history, entry.2 ≠ .startReporter)
    : (t.run surroundings history).service.observatory.reports
      = t.service.observatory.reports := by
  induction history generalizing t with
  | nil => rfl
  | cons entry rest ih =>
      obtain ⟨now, event⟩ := entry
      rw [List.forall_mem_cons] at others
      calc
        _ = (t.step surroundings now event).service.observatory.reports :=
          ih (orderly.step surroundings now event)
            (unattended_step surroundings unattended now others.1) others.2
        _ = _ := reports_step surroundings orderly unattended now event

end Histories

end Traffic

end CallWatch

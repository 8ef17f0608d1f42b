import CallWatch.Proofs.Collector.History
import CallWatch.Proofs.Observation.Names

/-! What an observatory takes down.
An entry is a completed call or a report. The collector and the journal are told by the entries
that have been taken down one after the other, whoever made them. A call whose completion breaks
off is an entry that leaves nothing.
-/

namespace CallWatch

-----------------------------------------------------------------------------------------
-- Entries
-----------------------------------------------------------------------------------------

/-- What an observatory takes down at a time: a completed call, or a report. -/
inductive Entry where
  | call (k : Completion) (now : Time.Instant)
  | report (record : SnapshotRecord)

namespace Entry

/-- The call that the collector is told of. -/
def counted? : Entry → Option FinishedCall
  | .call k _ => some ⟨k.call.name, k.outcome, k.elapsed⟩
  | .report _ => none

/-- The record that the journal gets. -/
def record : Entry → Record
  | .call k now => .access (k.call.record k.outcome k.elapsed now)
  | .report record => .snapshot record

/-- If an entry is of a call, the name of the call is of some kind. -/
def Of (kind : String → Prop) : Entry → Prop
  | .call k _ => kind k.call.name
  | .report _ => True

end Entry

namespace Observatory

def enter (o : Observatory) : Entry → Observatory
  | .call k now => o.complete k.call k.outcome k.elapsed now
  | .report record => { o with journal := o.journal.push (.snapshot record) }

def enterAll (o : Observatory) (entries : List Entry) : Observatory :=
  entries.foldl enter o

theorem enterAll_append (o : Observatory) (entries more : List Entry)
    : o.enterAll (entries ++ more) = (o.enterAll entries).enterAll more :=
  List.foldl_append

/-- Whether an entry leaves something. -/
def admits (o : Observatory) : Entry → Bool
  | .call k _ => o.takes k.call
  | .report _ => true

@[simp] theorem takes_enter (o : Observatory) (entry : Entry)
    : (o.enter entry).takes = o.takes := by
  cases entry with
  | call k now => exact takes_complete
  | report record => exact takes_congr rfl

@[simp] theorem admits_enter (o : Observatory) (entry : Entry)
    : (o.enter entry).admits = o.admits := by
  funext other
  cases other with
  | call k now => simp [admits]
  | report record => rfl

/-- What is taken is what is taken at the start, by induction on the entries. -/
@[simp] theorem takes_enterAll (o : Observatory) (entries : List Entry)
    : (o.enterAll entries).takes = o.takes := by
  induction entries generalizing o with
  | nil => rfl
  | cons entry rest ih => exact (ih (o.enter entry)).trans (o.takes_enter entry)

/-- The collector is told of the calls among the entries, by induction on them. -/
theorem collector_enterAll (o : Observatory) (entries : List Entry)
    : (o.enterAll entries).collector
      = o.collector.map fun c =>
          (entries.filterMap Entry.counted?).foldl Collector.recordCall c := by
  induction entries generalizing o with
  | nil => simp [enterAll]
  | cons entry rest ih =>
      change ((o.enter entry).enterAll rest).collector = _
      rw [ih]
      cases entry with
      | call k now =>
          simp [enter, Entry.counted?, Collector.recordCall, Function.comp_def]
      | report record => simp [enter, List.filterMap_cons, Entry.counted?]

/-- The journal gets one record for each entry that leaves something, by induction on them. -/
theorem journal_enterAll (o : Observatory) (entries : List Entry)
    : (o.enterAll entries).journal.toList
      = o.journal.toList ++ (entries.filter o.admits).map Entry.record := by
  induction entries generalizing o with
  | nil => simp [enterAll]
  | cons entry rest ih =>
      change ((o.enter entry).enterAll rest).journal.toList = _
      rw [ih, admits_enter]
      cases entry with
      | call k now =>
          cases taken : o.takes k.call <;>
            simp [enter, journal_complete, Entry.record, admits, taken]
      | report record => simp [enter, Entry.record, List.filter_cons, admits]

/-- A collector that was new holds the calls among the entries that it took. -/
theorem holds_enterAll (capacity : Nat) (entries : List Entry)
    : ∃ c, (enterAll ⟨some (Collector.new capacity), #[]⟩ entries).collector = some c
        ∧ c.Holds ((Collector.new capacity).taken (entries.filterMap Entry.counted?)) :=
  ⟨_, collector_enterAll _ entries, Collector.foldl_holds (Collector.new_holds capacity) _⟩

/-- Where every call is taken every entry leaves something. -/
theorem Fits.filter_admits {o : Observatory} (fits : o.Fits) (entries : List Entry)
    : entries.filter o.admits = entries := by
  rw [List.filter_eq_self]
  intro entry _
  cases entry with
  | call k now => exact fits.takes k.call
  | report record => rfl

-----------------------------------------------------------------------------------------
-- Taking down
-----------------------------------------------------------------------------------------

/-- An observatory has become another by taking down reports and calls of some kind. -/
def Enters (kind : String → Prop) (o next : Observatory) : Prop :=
  ∃ entries, (∀ entry ∈ entries, entry.Of kind) ∧ next = o.enterAll entries

variable {kind : String → Prop} {o middle next : Observatory}

theorem Enters.refl : Enters kind o o :=
  ⟨[], fun _ member => (nomatch member), rfl⟩

theorem Enters.trans (first : Enters kind o middle) (second : Enters kind middle next)
    : Enters kind o next := by
  obtain ⟨entries, early, rfl⟩ := first
  obtain ⟨more, late, rfl⟩ := second
  exact ⟨entries ++ more, List.forall_mem_append.mpr ⟨early, late⟩,
    (enterAll_append o entries more).symm⟩

theorem enters_complete (outcome : Outcome) (elapsed : Duration) (now : Time.Instant) {call : Call}
    (known : kind call.name)
    : Enters kind o (o.complete call outcome elapsed now) :=
  ⟨[.call ⟨call, outcome, elapsed⟩ now], List.forall_mem_singleton.mpr known, rfl⟩

/-- A report enters the record of its snapshot, if it has one. -/
theorem enters_emit (s : Snapshot)
    : Enters kind o (o.emit s).2 := by
  unfold emit Record.ofSnapshot?
  split
  · next record found =>
    split at found
    · cases found
    · cases found
      exact ⟨[.report ⟨s.collectedAt.fullText, s.rows⟩], List.forall_mem_singleton.mpr trivial, rfl⟩
  · exact .refl

/-- The names that an observatory gains are those of the calls that it takes down, by induction
on the entries.
-/
theorem Enters.gains (enters : Enters kind o next)
    : Gains kind o next := by
  obtain ⟨entries, kinds, rfl⟩ := enters
  induction entries generalizing o with
  | nil => exact .refl
  | cons entry rest ih =>
      rw [List.forall_mem_cons] at kinds
      refine .trans ?_ (ih kinds.2)
      cases entry with
      | call k now => exact gains_complete k.outcome k.elapsed now kinds.1
      | report record => exact .of_collector rfl

end Observatory

end CallWatch

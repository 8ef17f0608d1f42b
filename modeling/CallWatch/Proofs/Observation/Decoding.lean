import CallWatch.Http.ServiceError
import CallWatch.Proofs.Json.Roundtrip
import CallWatch.Proofs.Json.Visible
import CallWatch.Observation.Record
import CallWatch.Service.Events

/-! What is written can be read back.
Records, snapshots and errors are each one line of JSON that shows all their texts and counts,
each in its place, and of a floating point number its digits, if it is finite.
-/

namespace CallWatch

-----------------------------------------------------------------------------------------
-- Reading members
-----------------------------------------------------------------------------------------

namespace Json

/-- A count: a number without sign, point and exponent. -/
def Form.natural? : Form → Option Nat
  | .number token => if isWhole token then some (Nat.ofDigitChars 10 token 0) else none
  | _ => none

/-- A figure: a number as it is written, or null. -/
def Form.figure? : Form → Option (Option (List Char))
  | .number token => some (some token)
  | .null => some none
  | _ => none

def Form.items? : Form → Option (List Form)
  | .list items => some items
  | _ => none

/-- Reads the member of a name. -/
def Form.read? {α : Type} (name : String) (reader : Form → Option α) (f : Form) : Option α :=
  (f.member? name).bind reader

/-- A count reads back from its digits. -/
@[simp] theorem natural?_toDigits (n : Nat)
    : (Form.number (Nat.toDigits 10 n)).natural? = some n := by
  rw [Form.natural?, if_pos (isWhole_toDigits n), Nat.ofDigitChars_ten_toDigits]

/-- A figure shows what is written of it. -/
@[simp] theorem figure?_numberForm (x : Binary64)
    : (numberForm x).figure? = some (numberLayout.text? x) := by
  unfold numberForm
  split
  · next written =>
    rw [written]
    rfl
  · next none =>
    rw [none]
    rfl

/-- Nothing is written of a number that is not finite, and of no other. -/
theorem text?_eq_none_iff (x : Binary64)
    : numberLayout.text? x = none ↔ x.isFinite = false := by
  cases finite : x.isFinite <;> simp [Binary64.Layout.text?, finite]

theorem itemForms_eq_map (items : List Json)
    : itemForms items = items.map form := by
  induction items with
  | nil => rfl
  | cons item rest ih => rw [itemForms, ih, List.map_cons]

end Json

open Json (Form)

-----------------------------------------------------------------------------------------
-- Rows
-----------------------------------------------------------------------------------------

/-- What a written row shows. -/
structure ShownRow where
  method : String
  requests : Nat
  errors : Nat
  errorRate : Option (List Char)
  p95 : Option (List Char)

def Row.shown (r : Row) : ShownRow :=
  ⟨r.method, r.requests, r.errors, Json.numberLayout.text? r.errorRate,
    Json.numberLayout.text? r.p95⟩

def ShownRow.ofForm? (f : Form) : Option ShownRow := do
  let method ← f.read? "method" Form.text?
  let requests ← f.read? "requestCount" Form.natural?
  let errors ← f.read? "errorCount" Form.natural?
  let errorRate ← f.read? "errorRate" Form.figure?
  let p95 ← f.read? "p95LatencyMs" Form.figure?
  return ⟨method, requests, errors, errorRate, p95⟩

def ShownRow.listOfForm? (f : Form) : Option (List ShownRow) :=
  f.items?.bind fun items => items.mapM ShownRow.ofForm?

theorem ShownRow.ofForm?_row (r : Row)
    : ofForm? (Json.form r.json) = some r.shown := by
  simp [ofForm?, Form.read?, Form.member?, Row.json, Json.form, Json.memberForms, Form.text?,
    List.lookup_cons, Row.shown]

/-- Written rows read back, by induction on the rows. -/
theorem ShownRow.listOfForm?_rows (rows : List Row)
    : listOfForm? (.list (Json.itemForms (rows.map Row.json))) = some (rows.map Row.shown) := by
  simp only [listOfForm?, Form.items?, Option.bind_some, Json.itemForms_eq_map, List.map_map]
  induction rows with
  | nil => rfl
  | cons row rest ih => simp [ShownRow.ofForm?_row, ih]

-----------------------------------------------------------------------------------------
-- Records, snapshots and errors
-----------------------------------------------------------------------------------------

/-- What the line of a record shows. -/
inductive ShownRecord where
  | access (stamp : String) (latency : Option (List Char)) (method requestId status userId : String)
  | snapshot (stamp : String) (metrics : List ShownRow)

def Record.shown : Record → ShownRecord
  | .access r =>
    .access r.stamp (Json.numberLayout.text? r.latencyMs) r.method r.requestId r.status r.userId
  | .snapshot r => .snapshot r.stamp (r.metrics.map Row.shown)

/-- The tag tells which members there are. -/
def ShownRecord.ofForm? (f : Form) : Option ShownRecord := do
  let tag ← f.read? "type" Form.text?
  let stamp ← f.read? "at" Form.text?
  if tag = RecordKind.access.tag then
    let latency ← f.read? "latencyMs" Form.figure?
    let method ← f.read? "method" Form.text?
    let requestId ← f.read? "requestId" Form.text?
    let status ← f.read? "status" Form.text?
    let userId ← f.read? "userId" Form.text?
    return .access stamp latency method requestId status userId
  else if tag = RecordKind.snapshot.tag then
    let metrics ← f.read? "metrics" ShownRow.listOfForm?
    return .snapshot stamp metrics
  else none

theorem ShownRecord.ofForm?_record (r : Record)
    : ofForm? (Json.form r.json) = some r.shown := by
  cases r with
  | access r =>
      simp [ofForm?, Form.read?, Form.member?, Record.json, AccessRecord.json, Json.form,
        Json.memberForms, Form.text?, List.lookup_cons, Record.shown]
  | snapshot r =>
      simp [ofForm?, Form.read?, Form.member?, Record.json, SnapshotRecord.json, Json.form,
        Json.memberForms, Form.text?, List.lookup_cons, Record.shown, RecordKind.tag,
        ShownRow.listOfForm?_rows]

/-- What a written snapshot shows. -/
structure ShownSnapshot where
  collectedAt : String
  methods : List ShownRow

def Snapshot.shown (s : Snapshot) : ShownSnapshot :=
  ⟨s.collectedAt.shortText, s.rows.map Row.shown⟩

def ShownSnapshot.ofForm? (f : Form) : Option ShownSnapshot := do
  let collectedAt ← f.read? "collectedAt" Form.text?
  let methods ← f.read? "methods" ShownRow.listOfForm?
  return ⟨collectedAt, methods⟩

theorem ShownSnapshot.ofForm?_snapshot (s : Snapshot)
    : ofForm? (Json.form s.json) = some s.shown := by
  simp [ofForm?, Form.read?, Form.member?, Snapshot.json, Json.form, Json.memberForms, Form.text?,
    List.lookup_cons, ShownRow.listOfForm?_rows, Snapshot.shown]

/-- What the body of an error shows. -/
structure ShownError where
  message : String
  status : Nat

def Http.ServiceError.shown (e : Http.ServiceError) : ShownError :=
  ⟨e.message, e.status⟩

def ShownError.ofForm? (f : Form) : Option ShownError := do
  let message ← f.read? "error" Form.text?
  let status ← f.read? "status" Form.natural?
  return ⟨message, status⟩

theorem ShownError.ofForm?_error (e : Http.ServiceError)
    : ofForm?
        (Json.form (.object [("error", .text e.message), ("status", .natural e.status)]))
      = some e.shown := by
  simp [ofForm?, Form.read?, Form.member?, Json.form, Json.memberForms, Form.text?,
    List.lookup_cons, Http.ServiceError.shown]

-----------------------------------------------------------------------------------------
-- The law
-----------------------------------------------------------------------------------------

/-- A text is one line of JSON, and a reader finds in it what it shows. -/
structure Shows {α : Type} (reader : Form → Option α) (text : String) (shown : α) : Prop where
  visible : Json.Visible text.toList
  read : ∃ form, Json.form? text = some form ∧ reader form = some shown

/-- The line of a value shows what a reader finds in its form. -/
theorem Shows.of_form {α : Type} {reader : Form → Option α} {value : Json} {shown : α}
    (found : reader (Json.form value) = some shown)
    : Shows reader value.line shown :=
  ⟨Json.visible_line value, _, Json.form?_line value, found⟩

/-- A text shows one thing only. -/
theorem Shows.unique {α : Type} {reader : Form → Option α} {text : String} {left right : α}
    (first : Shows reader text left) (second : Shows reader text right)
    : left = right := by
  obtain ⟨form, read, found⟩ := first.read
  obtain ⟨form', read', found'⟩ := second.read
  cases read.symm.trans read'
  exact Option.some.inj (found.symm.trans found')

/-- What is written, whatever the texts and numbers in it:
- `record`: the line of a record is one line of JSON that shows the record;
- `snapshot` and `event`: so is the body with a snapshot, and the data of an event with one;
- `error`: so is the body of an error;
- `figure`: a figure is shown as null if it is not finite, and only then;
- `records`, `snapshots` and `errors`: what is written alike shows the same texts and counts in
  the same places.
-/
structure ReadsBack : Prop where
  record : ∀ r : Record, Shows ShownRecord.ofForm? r.line r.shown
  snapshot :
    ∀ (status : Nat) (s : Snapshot), ∃ text,
      (Http.Response.json status s.json).body = .whole text
      ∧ Shows ShownSnapshot.ofForm? text s.shown
  event :
    ∀ s : Snapshot, ∃ data,
      Service.EventStream.eventText s = "data: " ++ data ++ "\n\n"
      ∧ Shows ShownSnapshot.ofForm? data s.shown
  error :
    ∀ e : Http.ServiceError, ∃ text,
      e.response.body = .whole text
      ∧ Shows ShownError.ofForm? text e.shown
  figure : ∀ x : Binary64, Json.numberLayout.text? x = none ↔ x.isFinite = false
  records : ∀ a b : Record, a.line = b.line → a.shown = b.shown
  snapshots : ∀ a b : Snapshot, a.json.line = b.json.line → a.shown = b.shown
  errors : ∀ a b : Http.ServiceError, a.response.body = b.response.body → a.shown = b.shown

/-- Records, snapshots and errors read back. -/
theorem readsBack
    : ReadsBack := by
  have record (r : Record) : Shows ShownRecord.ofForm? r.line r.shown :=
    .of_form (ShownRecord.ofForm?_record r)
  have snapshot (s : Snapshot) : Shows ShownSnapshot.ofForm? s.json.line s.shown :=
    .of_form (ShownSnapshot.ofForm?_snapshot s)
  have error (e : Http.ServiceError) :
      ∃ text, e.response.body = .whole text ∧ Shows ShownError.ofForm? text e.shown :=
    ⟨_, rfl, .of_form (ShownError.ofForm?_error e)⟩
  refine
    { record
      snapshot := fun status s => ⟨s.json.line, rfl, snapshot s⟩
      event := fun s => ⟨s.json.line, rfl, snapshot s⟩
      error
      figure := Json.text?_eq_none_iff
      records := fun a b same => ?_
      snapshots := fun a b same => ?_
      errors := fun a b same => ?_ }
  · have left := record a
    rw [same] at left
    exact left.unique (record b)
  · have left := snapshot a
    rw [same] at left
    exact left.unique (snapshot b)
  · obtain ⟨text, body, left⟩ := error a
    obtain ⟨text', body', right⟩ := error b
    cases body.symm.trans (same.trans body')
    exact left.unique right

end CallWatch

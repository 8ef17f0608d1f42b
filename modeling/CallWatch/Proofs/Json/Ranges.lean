import CallWatch.Proofs.Json.Records

/-! What is read of a record lies in its ranges, whatever the bytes are.
The reader of records tells apart more texts than the grammar has, and stops at most of them. Where
it comes to an end, every member that it gives is one of the record and has a value of its kind.
-/

namespace CallWatch.Json

/-- Every member is one of the record, with a value of its kind. -/
def Admitted (kinds : List (String × Kind)) (m : Members) : Prop :=
  ∀ name v, (name, v) ∈ m → ∃ kind, (name, kind) ∈ kinds ∧ kind.Admits v

theorem admitted_nil (kinds : List (String × Kind))
    : Admitted kinds [] :=
  fun _ _ member => nomatch member

theorem Admitted.cons {kinds : List (String × Kind)} {name : String} {kind : Kind} {v : Scalar}
    {m : Members} (others : Admitted kinds m) (known : (name, kind) ∈ kinds)
    (admits : kind.Admits v)
    : Admitted kinds ((name, v) :: m) := by
  intro other w member
  rcases List.mem_cons.mp member with same | member
  · cases same
    exact ⟨kind, known, admits⟩
  · exact others other w member

/-- Members that fit a record are admitted by it. -/
theorem Fits.admitted {shape : Shape} {seen : List String} {members : List (String × Form)}
    {m : Members} (fits : Fits shape seen members m)
    : Admitted shape.members m := by
  obtain ⟨-, -, -, own⟩ := fits_iff.mp fits
  intro name v member
  obtain ⟨kind, known, admits⟩ := own name v member
  exact ⟨kind, mem_of_lookup known, admits⟩

-----------------------------------------------------------------------------------------
-- Readers that come to an end
-----------------------------------------------------------------------------------------

section Ends
variable {α β : Type}

theorem exists_of_bind {read : Except ReadError α} {next : α → Except ReadError β} {b : β}
    (ends : (read >>= next) = .ok b)
    : ∃ a, read = .ok a ∧ next a = .ok b := by
  cases read with
  | error e => cases ends
  | ok a => exact ⟨a, rfl, ends⟩

theorem eq_ok_of_within {place : Place} {read : Except ReadError α} {a : α}
    (ends : within place read = .ok a)
    : read = .ok a := by
  cases read with
  | error e => cases ends
  | ok b => exact ends

/-- What ends does not stop. -/
theorem not_stops {read : Except ReadError α} {a : α} (ends : read = .ok a)
    : ¬ Stops read := by
  rintro ⟨e, stopped⟩
  cases ends.symm.trans stopped

end Ends

-----------------------------------------------------------------------------------------
-- Members
-----------------------------------------------------------------------------------------

section Reading
variable {shape : Shape} {c d : Cursor} {m : Members}

/-- A value that is read is of the kind that was asked for. -/
theorem admits_of_readScalar {kind : Kind} {v : Scalar} (read : readScalar kind c = .ok (v, d))
    : kind.Admits v := by
  unfold readScalar at read
  dsimp only at read
  split at read
  · cases read
  · split at read
    · obtain ⟨⟨s, c⟩, -, same⟩ := exists_of_bind read
      cases same
      trivial
    · exact absurd (stops_wrongType _ _) (not_stops read)
  · split at read
    · exact absurd (stops_wrongType _ _) (not_stops read)
    · -- with a minus sign and without one the number is taken alike
      split at read
      all_goals
        obtain ⟨⟨value, c⟩, -, taken⟩ := exists_of_bind read
        dsimp only at taken
        split at taken
        · split at taken
          · next fits =>
            cases taken
            exact fits
          · cases taken
        · cases taken
        · cases taken

/-- The members of an object are admitted, by induction on the fuel. -/
theorem admitted_of_readMembers {fuel : Nat} {first : Bool} {done : Members}
    (before : Admitted shape.members done)
    (read : readMembers shape fuel first done c = .ok (m, d))
    : Admitted shape.members m := by
  induction fuel generalizing first done c with
  | zero => cases read
  | succ fuel ih =>
      rw [readMembers] at read
      obtain ⟨next, -, read⟩ := exists_of_bind read
      split at read
      · cases read
        exact fun name v member => before name v (List.mem_reverse.mp member)
      · obtain ⟨⟨name, named⟩, -, read⟩ := exists_of_bind read
        dsimp only at read
        split at read
        · next kind known =>
          split at read
          · exact absurd (stops_failName _ _) (not_stops read)
          · obtain ⟨value, -, read⟩ := exists_of_bind read
            obtain ⟨⟨v, after⟩, scalar, read⟩ := exists_of_bind read
            have admits := admits_of_readScalar (eq_ok_of_within scalar)
            exact ih (before.cons (mem_of_lookup known) admits) read
        · split at read
          · exact absurd (stops_failName _ _) (not_stops read)
          · obtain ⟨value, -, read⟩ := exists_of_bind read
            obtain ⟨after, -, read⟩ := exists_of_bind read
            exact ih before read

/-- So are the items of a list, by induction on the members that are left. -/
theorem admitted_of_readItems {kinds : List (String × Kind)} {index : Nat}
    (read : readItems index c kinds = .ok (m, d))
    : Admitted kinds m := by
  induction kinds generalizing index c m d with
  | nil =>
      obtain ⟨after, -, same⟩ := exists_of_bind read
      cases same
      exact admitted_nil _
  | cons entry others ih =>
      obtain ⟨name, kind⟩ := entry
      rw [readItems] at read
      obtain ⟨next, -, read⟩ := exists_of_bind read
      split at read
      · obtain ⟨after, -, same⟩ := exists_of_bind read
        cases same
        exact admitted_nil _
      · obtain ⟨⟨v, after⟩, scalar, read⟩ := exists_of_bind read
        obtain ⟨⟨more, last⟩, rest, same⟩ := exists_of_bind read
        cases same
        have further : Admitted ((name, kind) :: others) more := by
          intro other w member
          obtain ⟨kind, known, admits⟩ := ih rest other w member
          exact ⟨kind, .tail _ known, admits⟩
        exact further.cons (.head _) (admits_of_readScalar (eq_ok_of_within scalar))

/-- What is read of a whole text is admitted. -/
theorem admitted_of_readDocument {bytes : List UInt8} (read : readDocument shape bytes = .ok m)
    : Admitted shape.members m := by
  obtain ⟨⟨members, c⟩, record, read⟩ := exists_of_bind read
  have same : members = m := by
    dsimp only at read
    split at read
    · exact Except.ok.inj read
    · cases read
  rw [← same]
  unfold readRecord at record
  dsimp only at record
  split at record
  · cases record
  · split at record
    · exact admitted_of_readMembers (admitted_nil _) record
    · split at record
      · exact admitted_of_readItems record
      · exact absurd (stops_wrongType _ _) (not_stops record)

end Reading

end CallWatch.Json

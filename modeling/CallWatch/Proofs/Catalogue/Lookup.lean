import CallWatch.Catalogue
import CallWatch.Proofs.Text.Numeral
import CallWatch.Proofs.Text.Padded

/-! Which ids the catalogue knows, and how it refuses the others.
An id consists of marks and of what they leave. It names a number if that is a numeral of it,
and the number alone decides the answer: it is the number of a product, or of none, or it is too
large for the word it is read into.
-/

namespace CallWatch.Catalogue

open Http (ServiceError respond)
open Text (Numeral padded)

-----------------------------------------------------------------------------------------
-- Marks
-----------------------------------------------------------------------------------------

/-- A run of marks. -/
def marks (copies : Nat) : List Char :=
  (List.replicate copies idMark).flatten

/-- What the marks at the start of an id leave: it does not start with a mark itself. -/
def Leaves (id : String) (rest : List Char) : Prop :=
  (∃ copies, id.toList = marks copies ++ rest) ∧ ¬ idMark <+: rest

/-- An id names a number: it is a numeral of it behind any number of marks. -/
def Names (n : Nat) (id : String) : Prop :=
  ∃ copies numeral, Numeral n numeral ∧ id.toList = marks copies ++ numeral

/-- The numbers of the products. -/
def Listed (n : Nat) : Prop :=
  1 ≤ n ∧ n ≤ size

theorem Listed.fits {n : Nat} (listed : Listed n)
    : n ≤ greatestWord 32 :=
  Nat.le_trans listed.2 (by decide)

section Marks
variable {id : String} {cs rest : List Char} {n : Nat}

theorem marks_succ (copies : Nat) (rest : List Char)
    : marks (copies + 1) ++ rest = idMark ++ (marks copies ++ rest) := by
  rw [marks, List.replicate_succ, List.flatten_cons, List.append_assoc, marks]

/-- All marks of a run are dropped, by induction on their number. -/
theorem dropMarks_marks (copies : Nat) (rest : List Char)
    : dropMarks (marks copies ++ rest) = dropMarks rest := by
  induction copies with
  | zero => rfl
  | succ copies ih =>
      rw [marks_succ]
      exact ih

theorem dropMarks_unmarked (other : ¬ idMark <+: cs)
    : dropMarks cs = cs := by
  unfold dropMarks
  split
  · exact absurd (List.prefix_append idMark _) other
  · rfl

/-- Only marks are dropped, and none of them stays, along the recursion of the reader. -/
theorem exists_marks_dropMarks (cs : List Char)
    : (∃ copies, cs = marks copies ++ dropMarks cs) ∧ ¬ idMark <+: dropMarks cs := by
  induction cs using dropMarks.induct with
  | case1 rest ih =>
      obtain ⟨⟨copies, split⟩, other⟩ := ih
      refine ⟨⟨copies + 1, ?_⟩, other⟩
      rw [marks_succ]
      exact congrArg (idMark ++ ·) split
  | case2 cs unmarked =>
      have other : ¬ idMark <+: cs := by
        rintro ⟨rest, rfl⟩
        exact unmarked rest rfl
      rw [dropMarks_unmarked other]
      exact ⟨⟨0, rfl⟩, other⟩

/-- The marks of an id leave one text. -/
theorem leaves_iff
    : Leaves id rest ↔ rest = dropMarks id.toList := by
  constructor
  · rintro ⟨⟨copies, split⟩, other⟩
    rw [split, dropMarks_marks, dropMarks_unmarked other]
  · rintro rfl
    exact exists_marks_dropMarks id.toList

/-- No numeral starts with a mark. -/
theorem not_idMark_prefix_of_numeral (numeral : Numeral n cs)
    : ¬ idMark <+: cs := by
  rintro ⟨rest, rfl⟩
  cases ((Text.numeral_digits (by decide)).mp numeral).1 'p' (.head _)

/-- An id names the number of which its marks leave a numeral. -/
theorem names_iff (leaves : Leaves id rest)
    : Names n id ↔ Numeral n rest := by
  constructor
  · rintro ⟨copies, numeral, isNumeral, split⟩
    have same : Leaves id numeral := ⟨⟨copies, split⟩, not_idMark_prefix_of_numeral isNumeral⟩
    rwa [leaves_iff.mp leaves, ← leaves_iff.mp same]
  · intro isNumeral
    obtain ⟨⟨copies, split⟩, -⟩ := leaves
    exact ⟨copies, rest, isNumeral, split⟩

theorem Names.unique {m : Nat} (left : Names n id) (right : Names m id)
    : n = m := by
  have leaves : Leaves id (dropMarks id.toList) := leaves_iff.mpr rfl
  exact ((names_iff leaves).mp left).unique ((names_iff leaves).mp right)

end Marks

-----------------------------------------------------------------------------------------
-- Look-ups
-----------------------------------------------------------------------------------------

section Lookups
variable {id : String} {n : Nat} {p : Product}

/-- The number of an id is read if it fits a word, and no other number is. -/
theorem readNatural_dropMarks_iff
    : Text.readNatural (greatestWord 32) (dropMarks id.toList) = .ok n
      ↔ Names n id ∧ n ≤ greatestWord 32 := by
  rw [Text.readNatural_eq_ok_iff, names_iff (leaves_iff.mpr rfl)]

/-- The three ways a look-up ends, by the number that the id names. -/
theorem lookup_cases (id : String)
    : (∃ n, Names n id ∧ Listed n ∧ lookup id = .ok (product n))
      ∨ (∃ n, Names n id ∧ ¬ Listed n ∧ n ≤ greatestWord 32
          ∧ lookup id = .error (.notFound ("product '" ++ id ++ "' not found")))
      ∨ (∀ n, Names n id → greatestWord 32 < n)
          ∧ lookup id = .error (.badRequest ("invalid product id '" ++ id ++ "'")) := by
  unfold lookup
  split
  · next fault unread =>
    refine .inr (.inr ⟨fun n named => Nat.lt_of_not_le fun fits => ?_, rfl⟩)
    cases unread.symm.trans (readNatural_dropMarks_iff.mpr ⟨named, fits⟩)
  · next n read =>
    obtain ⟨named, fits⟩ := readNatural_dropMarks_iff.mp read
    split
    · next missing =>
      refine .inr (.inl ⟨n, named, ?_, fits, rfl⟩)
      rintro ⟨least, most⟩
      omega
    · next listed =>
      exact .inl ⟨n, named, ⟨by omega, by omega⟩, rfl⟩

/-- The catalogue finds the product of a number that an id names, and nothing else. -/
theorem lookup_eq_ok_iff
    : lookup id = .ok p ↔ ∃ n, Names n id ∧ Listed n ∧ p = product n := by
  constructor
  · intro found
    rcases lookup_cases id with ⟨n, named, listed, h⟩ | ⟨-, -, -, -, h⟩ | ⟨-, h⟩
    · exact ⟨n, named, listed, Except.ok.inj (found.symm.trans h)⟩
    · cases found.symm.trans h
    · cases found.symm.trans h
  · rintro ⟨n, named, listed, same⟩
    rcases lookup_cases id with ⟨m, other, -, found⟩ | ⟨m, other, missing, -, -⟩ | ⟨large, -⟩
    · rwa [same, named.unique other]
    · rw [← named.unique other] at missing
      exact absurd listed missing
    · exact absurd listed.fits (Nat.not_le_of_lt (large n named))

theorem id_product (n : Nat)
    : (product n).id = idOf n :=
  rfl

/-- The id of a product names its number. -/
theorem names_id_product (n : Nat)
    : Names n (product n).id := by
  rw [id_product]
  refine ⟨1, padded 4 n, ⟨padded 4 n, ?_, fun _ => Text.isDigit_of_mem_padded,
    (Text.ofDigitChars_padded 4 n).symm, .inl rfl⟩, String.toList_ofList⟩
  exact List.append_ne_nil_of_right_ne_nil _ Nat.toDigits_ne_nil

/-- The law of look-ups.

- `found_iff`: an id finds a product if and only if it names the number of one, and then it
  finds that;
- `own`: the id of a product is the mark and its number in four digits;
- `again`: the id of a product that is found finds it again;
- `refused`: without a product there is an error, and its message quotes the id as it is.
-/
structure LookupLaw (id : String) : Prop where
  found_iff : ∀ p, lookup id = .ok p ↔ ∃ n, Names n id ∧ Listed n ∧ p = product n
  own :
    ∀ n, Listed n →
      ∃ digits,
        (product n).id.toList = idMark ++ digits
        ∧ digits.length = 4
        ∧ (∀ d ∈ digits, d.isDigit = true)
        ∧ Nat.ofDigitChars 10 digits 0 = n
  again : ∀ p, lookup id = .ok p → lookup p.id = .ok p
  refused :
    (¬ ∃ n, Names n id ∧ Listed n) →
      ∃ (e : ServiceError) (before after : String),
        lookup id = .error e ∧ e.message = before ++ id ++ after

/-- Every id is looked up like this. -/
theorem lookupLaw (id : String)
    : LookupLaw id where
  found_iff := fun _ => lookup_eq_ok_iff
  own := by
    intro n listed
    have fits : n < 10 ^ 4 := Nat.lt_of_le_of_lt listed.2 (by decide)
    rw [id_product]
    exact ⟨padded 4 n, String.toList_ofList, Text.length_padded (by decide) fits,
      fun _ => Text.isDigit_of_mem_padded, Text.ofDigitChars_padded 4 n⟩
  again := by
    intro p found
    obtain ⟨n, -, listed, same⟩ := lookup_eq_ok_iff.mp found
    refine lookup_eq_ok_iff.mpr ⟨n, ?_, listed, same⟩
    rw [same]
    exact names_id_product n
  refused := by
    intro none
    rcases lookup_cases id with ⟨n, named, listed, -⟩ | ⟨-, -, -, -, h⟩ | ⟨-, h⟩
    · exact absurd ⟨n, named, listed⟩ none
    · exact ⟨_, _, _, h, rfl⟩
    · exact ⟨_, _, _, h, rfl⟩

end Lookups

-----------------------------------------------------------------------------------------
-- Refusals
-----------------------------------------------------------------------------------------

section Results
variable {α : Type} (result : Except ServiceError α)

/-- The statuses 404 and 400 each stand for one kind of error. -/
theorem status_respond_iff (toJson : α → Json)
    : ((respond toJson result).status = 404 ↔ ∃ message, result = .error (.notFound message))
      ∧ ((respond toJson result).status = 400
        ↔ ∃ message, result = .error (.badRequest message)) := by
  cases result with
  | ok value => exact ⟨⟨nofun, nofun⟩, ⟨nofun, nofun⟩⟩
  | error e =>
      cases e with
      | notFound message => exact ⟨⟨fun _ => ⟨message, rfl⟩, fun _ => rfl⟩, ⟨nofun, nofun⟩⟩
      | badRequest message => exact ⟨⟨nofun, nofun⟩, ⟨fun _ => ⟨message, rfl⟩, fun _ => rfl⟩⟩
      | internal message | alreadyRunning => exact ⟨⟨nofun, nofun⟩, ⟨nofun, nofun⟩⟩

/-- So do their outcomes. -/
theorem outcome_result_iff
    : (outcome result = .notFound ↔ ∃ message, result = .error (.notFound message))
      ∧ (outcome result = .invalidArgument
        ↔ ∃ message, result = .error (.badRequest message)) := by
  cases result with
  | ok value => exact ⟨⟨nofun, nofun⟩, ⟨nofun, nofun⟩⟩
  | error e =>
      cases e with
      | notFound message => exact ⟨⟨fun _ => ⟨message, rfl⟩, fun _ => rfl⟩, ⟨nofun, nofun⟩⟩
      | badRequest message => exact ⟨⟨nofun, nofun⟩, ⟨fun _ => ⟨message, rfl⟩, fun _ => rfl⟩⟩
      | internal message | alreadyRunning => exact ⟨⟨nofun, nofun⟩, ⟨nofun, nofun⟩⟩

end Results

section Refusals
variable {id : String} {rest : List Char}

/-- An id is missing from the catalogue if its number fits a word and is not listed. -/
theorem lookup_eq_notFound_iff (leaves : Leaves id rest)
    : (∃ message, lookup id = .error (.notFound message))
      ↔ ∃ n, Numeral n rest ∧ ¬ Listed n ∧ n ≤ greatestWord 32 := by
  constructor
  · rintro ⟨message, missing⟩
    rcases lookup_cases id with ⟨n, -, -, h⟩ | ⟨n, named, unlisted, fits, -⟩ | ⟨-, h⟩
    · cases missing.symm.trans h
    · exact ⟨n, (names_iff leaves).mp named, unlisted, fits⟩
    · cases missing.symm.trans h
  · rintro ⟨n, numeral, unlisted, fits⟩
    have named := (names_iff leaves).mpr numeral
    rcases lookup_cases id with ⟨m, other, listed, -⟩ | ⟨-, -, -, -, h⟩ | ⟨large, -⟩
    · rw [other.unique named] at listed
      exact absurd listed unlisted
    · exact ⟨_, h⟩
    · exact absurd fits (Nat.not_le_of_lt (large n named))

/-- An id is bad if it names no number that fits a word. -/
theorem lookup_eq_badRequest_iff (leaves : Leaves id rest)
    : (∃ message, lookup id = .error (.badRequest message))
      ↔ ∀ n, Numeral n rest → greatestWord 32 < n := by
  constructor
  · rintro ⟨message, bad⟩ n numeral
    rcases lookup_cases id with ⟨m, -, -, h⟩ | ⟨-, -, -, -, h⟩ | ⟨large, -⟩
    · cases bad.symm.trans h
    · cases bad.symm.trans h
    · exact large n ((names_iff leaves).mpr numeral)
  · intro large
    have unread {m : Nat} (named : Names m id) : ¬ m ≤ greatestWord 32 :=
      Nat.not_le_of_lt (large m ((names_iff leaves).mp named))
    rcases lookup_cases id with ⟨m, named, listed, -⟩ | ⟨m, named, -, fits, -⟩ | ⟨-, h⟩
    · exact absurd listed.fits (unread named)
    · exact absurd fits (unread named)
    · exact ⟨_, h⟩

/-- The law of refusals, by what the marks of an id leave.

- `leaves`: there is one such text;
- `missing`: the response has the status 404 if and only if the text is a numeral of a number
  that no product has and a word of 32 bits holds;
- `bad`: it has the status 400 if and only if the text is no numeral, or that of a number which
  no such word holds;
- `told`: the outcomes of the two are those of their statuses.
-/
structure RefusalLaw (id : String) : Prop where
  leaves : ∃ rest, Leaves id rest ∧ ∀ other, Leaves id other → other = rest
  missing :
    ∀ rest, Leaves id rest →
      ((respond Product.json (lookup id)).status = 404
        ↔ ∃ n, Numeral n rest ∧ ¬ Listed n ∧ n ≤ greatestWord 32)
  bad :
    ∀ rest, Leaves id rest →
      ((respond Product.json (lookup id)).status = 400
        ↔ ∀ n, Numeral n rest → greatestWord 32 < n)
  told :
    (outcome (lookup id) = .notFound ↔ (respond Product.json (lookup id)).status = 404)
    ∧ (outcome (lookup id) = .invalidArgument
      ↔ (respond Product.json (lookup id)).status = 400)

/-- Every id is refused like this. -/
theorem refusalLaw (id : String)
    : RefusalLaw id where
  leaves := ⟨_, leaves_iff.mpr rfl, fun _ => leaves_iff.mp⟩
  missing := fun _ leaves =>
    (status_respond_iff _ _).1.trans (lookup_eq_notFound_iff leaves)
  bad := fun _ leaves =>
    (status_respond_iff _ _).2.trans (lookup_eq_badRequest_iff leaves)
  told :=
    have status := status_respond_iff (lookup id) Product.json
    have told := outcome_result_iff (lookup id)
    ⟨told.1.trans status.1.symm, told.2.trans status.2.symm⟩

example : outcome (lookup "prod_4294967295") = .notFound := by decide

example : outcome (lookup "prod_4294967296") = .invalidArgument := by decide

end Refusals

end CallWatch.Catalogue

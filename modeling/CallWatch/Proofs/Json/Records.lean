import CallWatch.Proofs.Json.Scalars
import CallWatch.Proofs.Lists
import Mathlib.Data.List.DropRight

/-! Records are read from what their texts say.
The reader of a record goes through the bytes of a text, and the grammar says what the text is:
an object with its members, or a list with its items. The record is read if every member is one
of its own, has a value of its kind and comes once; otherwise reading stops with an error.
-/

namespace CallWatch.Json

open Text.Utf8 (encode)

-----------------------------------------------------------------------------------------
-- Members
-----------------------------------------------------------------------------------------

/-- Members fit a record: every one is a member of the record, has a value of its kind and comes
once, also with those that were seen before.
-/
inductive Fits (shape : Shape) : List String → List (String × Form) → Members → Prop where
  | nil {seen : List String}
    : Fits shape seen [] []
  | cons {seen : List String} {name : String} {kind : Kind} {v : Scalar}
    {members : List (String × Form)} {read : Members} (fresh : name ∉ seen)
    (known : shape.members.lookup name = some kind) (admits : kind.Admits v)
    (others : Fits shape (name :: seen) members read)
    : Fits shape seen ((name, v.form) :: members) ((name, v) :: read)

/-- Members fit a record if and only if they are the written forms of its members, with values of
their kinds and no name twice. By induction on the members.
-/
theorem fits_iff {shape : Shape} {seen : List String} {members : List (String × Form)}
    {read : Members}
    : Fits shape seen members read
      ↔ read.map (fun entry => (entry.1, entry.2.form)) = members
        ∧ (read.map (·.1)).Nodup
        ∧ (∀ name ∈ read.map (·.1), name ∉ seen)
        ∧ ∀ name v,
            (name, v) ∈ read
            → ∃ kind, shape.members.lookup name = some kind ∧ kind.Admits v := by
  constructor
  · intro fits
    induction fits with
    | nil => exact ⟨rfl, List.nodup_nil, nofun, nofun⟩
    | @cons seen name kind v members read fresh known admits others ih =>
        obtain ⟨written, once, new, own⟩ := ih
        refine ⟨by rw [List.map_cons, written], ?_, ?_, ?_⟩
        · rw [List.map_cons, List.nodup_cons]
          exact ⟨fun again => new name again (.head _), once⟩
        · rw [List.map_cons, List.forall_mem_cons]
          exact ⟨fresh, fun other member old => new other member (.tail _ old)⟩
        · intro other w member
          rcases List.mem_cons.mp member with same | member
          · cases same
            exact ⟨kind, known, admits⟩
          · exact own other w member
  · rintro ⟨rfl, once, new, own⟩
    induction read generalizing seen with
    | nil => exact .nil
    | cons entry read ih =>
        obtain ⟨name, v⟩ := entry
        rw [List.map_cons, List.nodup_cons] at once
        rw [List.map_cons, List.forall_mem_cons] at new
        obtain ⟨kind, known, admits⟩ := own name v (.head _)
        refine .cons new.1 known admits
          (ih once.2 ?_ fun other w member => own other w (.tail _ member))
        intro other member old
        rcases List.mem_cons.mp old with rfl | old
        · exact once.1 member
        · exact new.2 other member old

/-- A name of the grammar is a quoted text before a colon. -/
theorem exists_quoted_of_name? {cs rest : List Char} {name : String}
    (h : name? cs = some (name, rest))
    : ∃ more middle,
        cs.dropWhile isBlankChar = '"' :: more
        ∧ quoted? more = some (name, middle)
        ∧ middle.dropWhile isBlankChar = ':' :: rest := by
  simp only [name?, Option.bind_eq_bind, Option.bind_eq_some_iff, Option.pure_def,
    Option.some.injEq] at h
  obtain ⟨more, quote, ⟨text, middle⟩, quoted, left, colon, same⟩ := h
  cases same
  exact ⟨more, middle, afterWord?_eq_some_iff.mp quote, quoted, afterWord?_eq_some_iff.mp colon⟩

section Members
variable {shape : Shape} {c : Cursor} {cs ds more rest : List Char}

theorem readColon_ok (h : c.At cs) (colon : cs.dropWhile isBlankChar = ':' :: rest)
    : ∃ d, readColon c = .ok d ∧ d.At rest := by
  have skipped := colon ▸ h.skipBlank
  refine ⟨c.skipBlank.next, ?_, skipped.next (by decide)⟩
  simp only [readColon, skipped.peek?_short (by decide)]
  exact if_pos (by decide)

/-- A cursor stands before the members that are left: after the opening brace, or at a comma
after other members.
-/
def Upcoming (first : Bool) (cs ds : List Char) : Prop :=
  if first then cs = ds else cs.dropWhile isBlankChar = ',' :: ds

/-- The next name is found after its quote. -/
theorem nextName?_quote {first : Bool} (h : c.At cs) (upcoming : Upcoming first cs ds)
    (quote : ds.dropWhile isBlankChar = '"' :: more)
    : ∃ d, nextName? first c = .ok (some d) ∧ d.At more := by
  have skipped := h.skipBlank
  cases first with
  | true =>
      cases (show cs = ds from upcoming)
      rw [quote] at skipped
      refine ⟨c.skipBlank.next, ?_, skipped.next (by decide)⟩
      simp only [nextName?, skipped.peek?_short (by decide)]
      rfl
  | false =>
      rw [show cs.dropWhile isBlankChar = ',' :: ds from upcoming] at skipped
      have again := (skipped.next (by decide)).skipBlank
      rw [quote] at again
      refine ⟨c.skipBlank.next.skipBlank.next, ?_, again.next (by decide)⟩
      simp only [nextName?, skipped.peek?_short (by decide), again.peek?_short (by decide)]
      rfl

/-- At the closing brace there is no further name. -/
theorem nextName?_end (first : Bool) (h : c.At cs)
    (close : cs.dropWhile isBlankChar = '\x7d' :: rest)
    : nextName? first c = .ok none ∧ c.skipBlank.next.At rest := by
  have skipped := close ▸ h.skipBlank
  refine ⟨?_, skipped.next (by decide)⟩
  simp only [nextName?, skipped.peek?_short (by decide)]
  rfl

section Step
variable {budget : Nat} {first : Bool} {done : Members} {name : String} {d e f : Cursor}
  (named : nextName? first c = .ok (some d)) (text : readText d = .ok (name, e))
include named text

/-- A name that is none of the record stops the reader. -/
theorem stops_readMembers_unknown (refuses : shape.refusesUnknown = true)
    (unknown : shape.members.lookup name = none)
    : Stops (readMembers shape (budget + 1) first done c) := by
  simp only [readMembers, named, text, bind, Except.bind, unknown, refuses, if_true]
  exact stops_failName _ _

/-- A name that has come before stops the reader. -/
theorem stops_readMembers_repeated {kind : Kind} (known : shape.members.lookup name = some kind)
    (repeated : name ∈ done.map (·.1))
    : Stops (readMembers shape (budget + 1) first done c) := by
  simp only [readMembers, named, text, bind, Except.bind, known,
    isSome_lookup_iff.mpr repeated, if_true]
  exact stops_failName _ _

variable {kind : Kind} (known : shape.members.lookup name = some kind)
  (fresh : name ∉ done.map (·.1)) (colon : readColon e = .ok f)
include known fresh colon

/-- A value that does not fit its place stops the reader. -/
theorem stops_readMembers_value (stops : Stops (readScalar kind f))
    : Stops (readMembers shape (budget + 1) first done c) := by
  obtain ⟨fault, read⟩ := stops.within (.member name)
  have new : ¬ (done.lookup name).isSome = true := mt isSome_lookup_iff.mp fresh
  simp only [readMembers, named, text, bind, Except.bind, known, if_neg new, colon, read]
  exact ⟨fault, rfl⟩

/-- After a member that fits the others are read. -/
theorem readMembers_value {v : Scalar} {g : Cursor} (read : readScalar kind f = .ok (v, g))
    : readMembers shape (budget + 1) first done c
      = readMembers shape budget false ((name, v) :: done) g := by
  have new : ¬ (done.lookup name).isSome = true := mt isSome_lookup_iff.mp fresh
  simp only [readMembers, named, text, bind, Except.bind, known, if_neg new, colon, read, within]

end Step

/-- What reading the members that are left comes to: they fit the record after those that are
done, and are read, or they do not, and reading stops.
-/
def ReadsMembers (shape : Shape) (done : Members) (members : List (String × Form))
    (read : Except ReadError (Members × Cursor)) (rest : List Char) : Prop :=
  (∃ m d,
    Fits shape (done.map (·.1)) members m
    ∧ read = .ok (done.reverse ++ m, d)
    ∧ d.At rest)
  ∨ (∀ m, ¬ Fits shape (done.map (·.1)) members m) ∧ Stops read

/-- At the closing brace the members are those that are done. -/
theorem readsMembers_end {budget : Nat} {first : Bool} {done : Members} (h : c.At cs)
    (close : cs.dropWhile isBlankChar = '\x7d' :: rest)
    : ReadsMembers shape done [] (readMembers shape (budget + 1) first done c) rest := by
  obtain ⟨ended, after⟩ := nextName?_end first h close
  refine .inl ⟨[], _, .nil, ?_, after⟩
  simp only [readMembers, ended, bind, Except.bind, List.append_nil]
  rfl

/-- A member that fits goes before the others. -/
theorem ReadsMembers.cons {done : Members} {name : String} {kind : Kind} {v : Scalar}
    {others : List (String × Form)} {read : Except ReadError (Members × Cursor)}
    (fresh : name ∉ done.map (·.1)) (known : shape.members.lookup name = some kind)
    (admits : kind.Admits v) (h : ReadsMembers shape ((name, v) :: done) others read rest)
    : ReadsMembers shape done ((name, v.form) :: others) read rest := by
  rcases h with ⟨m, d, fits, read, after⟩ | ⟨none, stops⟩
  · refine .inl ⟨(name, v) :: m, d, .cons fresh known admits fits, ?_, after⟩
    rw [read, List.reverse_cons, List.append_assoc, List.singleton_append]
  · refine .inr ⟨fun m fits => ?_, stops⟩
    generalize written : v.form = form at fits
    cases fits with
    | cons _ _ _ others => exact none _ others

/-- What the grammar reads of members: the first one, and the end of the object or the others
after a comma.
-/
theorem members?_cases {fuel : Nat} {members : List (String × Form)}
    (read : members? (fuel + 1) ds = some (members, rest))
    : ∃ name form others middle left,
        members = (name, form) :: others
        ∧ name? ds = some (name, middle)
        ∧ value? fuel middle = some (form, left)
        ∧ (others = [] ∧ left.dropWhile isBlankChar = '\x7d' :: rest
          ∨ ∃ next,
              left.dropWhile isBlankChar = ',' :: next
              ∧ members? fuel next = some (others, rest)) := by
  simp only [members?, Option.bind_eq_bind, Option.bind_eq_some_iff] at read
  obtain ⟨⟨name, middle⟩, named, ⟨form, left⟩, value, read⟩ := read
  split at read
  · cases read
  · next ch next visible =>
    split at read
    · next close =>
      subst close
      cases read
      exact ⟨name, form, [], middle, left, rfl, named, value, .inl ⟨rfl, visible⟩⟩
    · split at read
      · next comma =>
        subst comma
        simp only [Option.bind_eq_some_iff] at read
        obtain ⟨⟨others, final⟩, more, same⟩ := read
        cases same
        exact ⟨name, form, others, middle, left, rfl, named, value, .inr ⟨next, visible, more⟩⟩
      · cases read

theorem length_of_dropWhile {ch : Char} (h : cs.dropWhile isBlankChar = ch :: rest)
    : rest.length < cs.length := by
  have := (List.dropWhile_suffix (l := cs) isBlankChar).length_le
  rw [h, List.length_cons] at this
  exact this

/-- Members are read as the grammar says, by induction on its fuel. Every member takes
characters, so their number bounds the fuel of the reader.
-/
theorem readsMembers_members? (refuses : shape.refusesUnknown = true)
    (word : ∀ name kind, shape.members.lookup name = some kind → kind.FitsWord) {fuel : Nat}
    {members : List (String × Form)} (read : members? fuel ds = some (members, rest))
    {budget : Nat} {first : Bool} {done : Members} (h : c.At cs)
    (upcoming : Upcoming first cs ds) (enough : ds.length < budget)
    : ReadsMembers shape done members (readMembers shape budget first done c) rest := by
  induction fuel generalizing ds members budget first done c cs with
  | zero => cases read
  | succ fuel ih =>
      obtain ⟨budget, rfl⟩ := Nat.exists_eq_succ_of_ne_zero (Nat.ne_zero_of_lt enough)
      obtain ⟨name, form, others, middle, left, rfl, name?, value, follows⟩ :=
        members?_cases read
      obtain ⟨more, final, quote, quoted, mark⟩ := exists_quoted_of_name? name?
      obtain ⟨d, named, inside⟩ := nextName?_quote h upcoming quote
      obtain ⟨e, text, after⟩ := readText_quoted inside quoted
      obtain ⟨f, colon, before⟩ := readColon_ok after mark
      cases known : shape.members.lookup name with
      | none =>
          refine .inr ⟨fun m fits => ?_, stops_readMembers_unknown named text refuses known⟩
          cases fits with
          | cons _ found => cases known.symm.trans found
      | some kind =>
          by_cases fresh : name ∉ done.map (·.1)
          · rcases readsAs_value? (word name kind known) before value with
              ⟨v, g, admits, rfl, taken, behind⟩ | ⟨none, stops⟩
            · rw [readMembers_value named text known fresh colon taken]
              refine .cons fresh known admits ?_
              have shorter : left.length + 2 < ds.length := by
                have := length_of_dropWhile quote
                have := length_quoted? quoted
                have := length_of_dropWhile mark
                have := length_value?_form value
                omega
              rcases follows with ⟨rfl, close⟩ | ⟨next, comma, further⟩
              · obtain ⟨budget, rfl⟩ := Nat.exists_eq_succ_of_ne_zero (n := budget) (by omega)
                exact readsMembers_end behind close
              · have := length_of_dropWhile comma
                exact ih further behind comma (by omega)
            · refine .inr ⟨fun m fits => ?_,
                stops_readMembers_value named text known fresh colon stops⟩
              cases fits with
              | cons _ found admits =>
                  cases known.symm.trans found
                  exact none _ admits rfl
          · rw [not_not] at fresh
            refine .inr ⟨fun m fits => ?_, stops_readMembers_repeated named text known fresh⟩
            cases fits with
            | cons new => exact new fresh

end Members

-----------------------------------------------------------------------------------------
-- Items
-----------------------------------------------------------------------------------------

/-- Items fit the members of a record: each has a value of the kind of its member, and there are
no more items than members.
-/
inductive FitsItems : List (String × Kind) → List Form → Members → Prop where
  | nil {members : List (String × Kind)}
    : FitsItems members [] []
  | cons {members : List (String × Kind)} {name : String} {kind : Kind} {v : Scalar}
    {items : List Form} {read : Members} (admits : kind.Admits v)
    (others : FitsItems members items read)
    : FitsItems ((name, kind) :: members) (v.form :: items) ((name, v) :: read)

/-- Items fit if their members' values are of their kinds, whatever members are left over. -/
theorem FitsItems.take {members : List (String × Kind)} {items : List Form} {read : Members}
    (fits : FitsItems members items read) (k : Nat)
    : FitsItems members (items.take k) (read.take k) := by
  induction fits generalizing k with
  | nil => simpa using FitsItems.nil
  | cons admits _ ih =>
      cases k with
      | zero => exact .nil
      | succ k => exact .cons admits (ih k)

/-- Items tell the members that they are read as. -/
theorem FitsItems.unique {members : List (String × Kind)} {items : List Form}
    {read other : Members} (fits : FitsItems members items read)
    (again : FitsItems members items other)
    : read = other := by
  induction fits generalizing other with
  | nil =>
      cases again
      rfl
  | @cons members name kind v items read admits others ih =>
      generalize written : v.form = form at again
      cases again with
      | cons _ more => rw [Scalar.form_inj.mp written, ih more]

/-- What reading the items that are left comes to: they fit the members that are left, and are
read, or they do not, and reading stops.
-/
def ReadsItems (members : List (String × Kind)) (items : List Form)
    (read : Except ReadError (Members × Cursor)) (rest : List Char) : Prop :=
  (∃ m d, FitsItems members items m ∧ read = .ok (m, d) ∧ d.At rest)
  ∨ (∀ m, ¬ FitsItems members items m) ∧ Stops read

section Items
variable {c : Cursor} {cs ds rest : List Char} {index : Nat}

/-- A value begins with no closing bracket. -/
theorem dropWhile_ne_of_value? {fuel : Nat} {form : Form}
    (read : value? fuel ds = some (form, rest)) (more : List Char)
    : ds.dropWhile isBlankChar ≠ ']' :: more := by
  intro close
  cases fuel with
  | zero => cases read
  | succ fuel =>
      rw [value?, close] at read
      cases read

/-- Blanks before a value do not matter. -/
theorem value?_dropWhile (fuel : Nat) (cs : List Char)
    : value? fuel (cs.dropWhile isBlankChar) = value? fuel cs := by
  cases fuel with
  | zero => rfl
  | succ fuel => rw [value?, value?, List.dropWhile_idempotent]

/-- What the grammar reads of items: the first one, and the end of the list or the others after
a comma.
-/
theorem items?_cases {fuel : Nat} {items : List Form} (read : items? fuel ds = some (items, rest))
    : ∃ n form others left,
        items = form :: others
        ∧ value? n ds = some (form, left)
        ∧ (others = [] ∧ left.dropWhile isBlankChar = ']' :: rest
          ∨ ∃ next,
              left.dropWhile isBlankChar = ',' :: next
              ∧ items? n next = some (others, rest)) := by
  cases fuel with
  | zero => cases read
  | succ fuel =>
      simp only [items?, Option.bind_eq_bind, Option.bind_eq_some_iff] at read
      obtain ⟨⟨form, left⟩, value, read⟩ := read
      split at read
      · cases read
      · next ch next visible =>
        split at read
        · next close =>
          subst close
          cases read
          exact ⟨fuel, form, [], left, rfl, value, .inl ⟨rfl, visible⟩⟩
        · split at read
          · next comma =>
            subst comma
            simp only [Option.bind_eq_some_iff] at read
            obtain ⟨⟨others, final⟩, more, same⟩ := read
            cases same
            exact ⟨fuel, form, others, left, rfl, value, .inr ⟨next, visible, more⟩⟩
          · cases read

theorem readListEnd_ok (h : c.At cs) (close : cs.dropWhile isBlankChar = ']' :: rest)
    : ∃ d, readListEnd c = .ok d ∧ d.At rest := by
  have skipped := close ▸ h.skipBlank
  refine ⟨c.skipBlank.next, ?_, skipped.next (by decide)⟩
  simp only [readListEnd, skipped.peek?_short (by decide)]
  rfl

/-- With no member left the list has to end. -/
theorem stops_readListEnd (h : c.At cs) (more : ∀ rest, cs.dropWhile isBlankChar ≠ ']' :: rest)
    : Stops (readListEnd c) := by
  have skipped := h.skipBlank
  generalize cs.dropWhile isBlankChar = visible at more skipped
  cases visible with
  | nil =>
      simp only [readListEnd, skipped.peek?_nil]
      exact stops_failNext _ _
  | cons ch rest =>
      obtain ⟨b, seen⟩ := skipped.sees
      have open_ : b ≠ 0x5D := by
        intro close
        exact more rest (congrArg (· :: rest) ((seen.eq_iff ']' (by decide)).mp close))
      simp only [readListEnd, seen.peek, if_neg open_]
      repeat' split
      all_goals exact stops_failNext _ _

/-- Before a value the next item is found. -/
theorem nextItem?_ok {first : Bool} (h : c.At cs) (upcoming : Upcoming first cs ds)
    (item : ∀ more, ds.dropWhile isBlankChar ≠ ']' :: more)
    (visible : ds.dropWhile isBlankChar ≠ [])
    : ∃ d, nextItem? first c = .ok (some d) ∧ d.At (ds.dropWhile isBlankChar) := by
  have skipped := h.skipBlank
  have started {d : Cursor} (before : d.At (ds.dropWhile isBlankChar)) :
      ∃ b, d.peek? = some b ∧ b ≠ 0x5D := by
    obtain ⟨ch, more, form⟩ := List.exists_cons_of_ne_nil visible
    obtain ⟨b, seen⟩ := (form ▸ before).sees
    refine ⟨b, seen.peek, fun close => item more ?_⟩
    rw [form, (seen.eq_iff ']' (by decide)).mp close]
  cases first with
  | true =>
      cases (show cs = ds from upcoming)
      obtain ⟨b, seen, inside⟩ := started skipped
      refine ⟨c.skipBlank, ?_, skipped⟩
      simp only [nextItem?, seen, if_neg inside, if_true]
  | false =>
      rw [show cs.dropWhile isBlankChar = ',' :: ds from upcoming] at skipped
      have again := (skipped.next (by decide)).skipBlank
      obtain ⟨b, seen, inside⟩ := started again
      refine ⟨_, ?_, again⟩
      simp only [nextItem?, skipped.peek?_short (by decide), seen, if_neg inside]
      rfl

/-- At the closing bracket there is no further item. -/
theorem nextItem?_end (first : Bool) (h : c.At cs)
    (close : cs.dropWhile isBlankChar = ']' :: rest)
    : nextItem? first c = .ok none := by
  have skipped := close ▸ h.skipBlank
  simp only [nextItem?, skipped.peek?_short (by decide)]
  rfl

/-- At the closing bracket the items end, whatever members are left. -/
theorem readsItems_end (members : List (String × Kind)) (h : c.At cs)
    (close : cs.dropWhile isBlankChar = ']' :: rest)
    : ReadsItems members [] (readItems index c members) rest := by
  obtain ⟨d, ended, after⟩ := readListEnd_ok h close
  refine .inl ⟨[], d, .nil, ?_, after⟩
  cases members with
  | nil =>
      simp only [readItems, ended, bind, Except.bind]
      rfl
  | cons member members =>
      simp only [readItems, nextItem?_end _ h close, ended, bind, Except.bind]
      rfl

/-- An item that fits goes before the others. -/
theorem ReadsItems.cons {members : List (String × Kind)} (name : String) {kind : Kind}
    {v : Scalar} {others : List Form} {read : Except ReadError (Members × Cursor)}
    (admits : kind.Admits v) (h : ReadsItems members others read rest)
    : ReadsItems ((name, kind) :: members) (v.form :: others)
        (read >>= fun (done, c) => pure ((name, v) :: done, c)) rest := by
  rcases h with ⟨m, d, fits, rfl, after⟩ | ⟨none, stops⟩
  · exact .inl ⟨(name, v) :: m, d, .cons admits fits, rfl, after⟩
  · refine .inr ⟨fun m fits => ?_, stops.bind _⟩
    generalize written : v.form = form at fits
    cases fits with
    | cons _ others => exact none _ others

theorem visible_of_value? {fuel : Nat} {form : Form}
    (read : value? fuel ds = some (form, rest))
    : ds.dropWhile isBlankChar ≠ [] := by
  intro nothing
  cases fuel with
  | zero => cases read
  | succ fuel =>
      rw [value?, nothing] at read
      cases read

/-- Before an item the list does not end. -/
theorem not_close_of_upcoming {first : Bool} {fuel : Nat} {form : Form} {left : List Char}
    (upcoming : Upcoming first cs ds) (value : value? fuel ds = some (form, left))
    : ∀ rest, cs.dropWhile isBlankChar ≠ ']' :: rest := by
  intro after close
  cases first with
  | true =>
      cases (show cs = ds from upcoming)
      exact dropWhile_ne_of_value? value after close
  | false =>
      cases (show cs.dropWhile isBlankChar = ',' :: ds from upcoming).symm.trans close

/-- Items are read as the grammar says, by induction on the members that are left. -/
theorem readsItems_items? {members : List (String × Kind)}
    (word : ∀ name kind, (name, kind) ∈ members → kind.FitsWord) {fuel : Nat}
    {items : List Form} (read : items? fuel ds = some (items, rest)) (h : c.At cs)
    (upcoming : Upcoming (index = 0) cs ds)
    : ReadsItems members items (readItems index c members) rest := by
  induction members generalizing index c cs ds fuel items with
  | nil =>
      obtain ⟨n, form, others, left, rfl, value, -⟩ := items?_cases read
      refine .inr ⟨fun m fits => (nomatch fits), ?_⟩
      exact (stops_readListEnd h (not_close_of_upcoming upcoming value)).bind _
  | cons member members ih =>
      obtain ⟨name, kind⟩ := member
      obtain ⟨n, form, others, left, rfl, value, follows⟩ := items?_cases read
      obtain ⟨d, started, before⟩ :=
        nextItem?_ok h upcoming (dropWhile_ne_of_value? value) (visible_of_value? value)
      rw [← value?_dropWhile] at value
      rcases readsAs_value? (word name kind (.head _)) before value with
        ⟨v, e, admits, rfl, taken, after⟩ | ⟨none, stops⟩
      · have further : ReadsItems members others (readItems (index + 1) e members) rest := by
          rcases follows with ⟨rfl, close⟩ | ⟨next, comma, further⟩
          · exact readsItems_end members after close
          · exact ih (fun name kind member => word name kind (.tail _ member)) further after comma
        have result := further.cons name admits
        simp only [readItems, started, bind, Except.bind, taken, within]
        exact result
      · refine .inr ⟨fun m fits => ?_, ?_⟩
        · cases fits with
          | cons admits => exact none _ admits rfl
        · obtain ⟨fault, read⟩ := stops.within (.item index)
          simp only [readItems, started, bind, Except.bind, read]
          exact ⟨fault, rfl⟩

end Items

-----------------------------------------------------------------------------------------
-- Documents
-----------------------------------------------------------------------------------------

section Documents
variable {shape : Shape} {c : Cursor} {cs rest : List Char} {fuel : Nat}

def Form.holdsOthers : Form → Bool
  | .list _ | .object _ => true
  | _ => false

/-- A scalar holds no other values. -/
theorem holdsOthers_of_scalar? {form : Form} (read : scalar? cs = some (form, rest))
    : form.holdsOthers = false := by
  simp only [scalar?] at read
  repeat' split at read
  all_goals first
    | (rw [Option.map_eq_some_iff] at read; obtain ⟨_, -, same⟩ := read; cases same)
    | cases read
  all_goals rfl

/-- A text that says something says it in a value with nothing but blanks after it. -/
theorem exists_value?_of_form? {s : String} {form : Form} (told : form? s = some form)
    : ∃ n rest, value? n s.toList = some (form, rest) ∧ rest.all isBlankChar = true := by
  simp only [form?, Option.bind_eq_bind, Option.bind_eq_some_iff] at told
  obtain ⟨⟨form, rest⟩, value, told⟩ := told
  split at told
  · next blank =>
    cases told
    exact ⟨_, rest, value, blank⟩
  · cases told

/-- After a record only blanks are left of a document. -/
theorem readDocument_ok {m : Members} {d : Cursor} {bytes : List UInt8}
    (read : readRecord shape (.start bytes) = .ok (m, d)) (after : d.At rest)
    (blank : rest.all isBlankChar = true)
    : readDocument shape bytes = .ok m := by
  have skipped := after.skipBlank
  have nothing : rest.dropWhile isBlankChar = [] := by
    rw [List.dropWhile_eq_nil_iff]
    exact List.all_eq_true.mp blank
  rw [nothing] at skipped
  have ended : d.skipBlank.rest.isEmpty = true := by
    rw [skipped]
    rfl
  simp only [readDocument, read, bind, Except.bind, ended, if_true]
  rfl

/-- The members of an object are read as the grammar says. -/
theorem readsMembers_object (refuses : shape.refusesUnknown = true)
    (word : ∀ name kind, shape.members.lookup name = some kind → kind.FitsWord)
    {members : List (String × Form)} (value : value? fuel cs = some (.object members, rest))
    (h : c.At cs)
    : ReadsMembers shape [] members (readRecord shape c) rest := by
  have skipped := h.skipBlank
  rcases value?_cases value with ⟨_, _, same, -⟩ | ⟨members, more, same, visible, inside⟩ | scalar
  · cases same
  · cases same
    rw [visible] at skipped
    have entered : readRecord shape c
        = readMembers shape (c.skipBlank.rest.length + 1) true [] c.skipBlank.next := by
      simp only [readRecord, skipped.peek?_short (by decide)]
      rfl
    have before := skipped.next (by decide)
    rw [entered]
    rcases inside with ⟨rfl, close⟩ | ⟨n, read⟩
    · exact readsMembers_end before close
    · refine readsMembers_members? refuses word read before rfl ?_
      have := length_le_encode ('\x7b' :: more)
      rw [← skipped, List.length_cons] at this
      omega
  · cases holdsOthers_of_scalar? scalar

/-- The items of a list are read as the grammar says. -/
theorem readsItems_list (word : ∀ name kind, (name, kind) ∈ shape.members → kind.FitsWord)
    {items : List Form} (value : value? fuel cs = some (.list items, rest)) (h : c.At cs)
    : ReadsItems shape.members items (readRecord shape c) rest := by
  have skipped := h.skipBlank
  rcases value?_cases value with ⟨items, more, same, visible, inside⟩ | ⟨_, _, same, -⟩ | scalar
  · cases same
    rw [visible] at skipped
    have entered : readRecord shape c = readItems 0 c.skipBlank.next shape.members := by
      simp only [readRecord, skipped.peek?_short (by decide)]
      rfl
    have before := skipped.next (by decide)
    rw [entered]
    rcases inside with ⟨rfl, close⟩ | ⟨n, read⟩
    · exact readsItems_end shape.members before close
    · exact readsItems_items? word read before rfl
  · cases same
  · cases holdsOthers_of_scalar? scalar

/-- An object is read as a record if its members fit, and otherwise reading stops. -/
theorem readDocument_object (refuses : shape.refusesUnknown = true)
    (word : ∀ name kind, shape.members.lookup name = some kind → kind.FitsWord) {s : String}
    {members : List (String × Form)} (told : form? s = some (.object members))
    : (∃ m, Fits shape [] members m ∧ readDocument shape (Text.Utf8.ofText s) = .ok m)
      ∨ (∀ m, ¬ Fits shape [] members m)
        ∧ Stops (readDocument shape (Text.Utf8.ofText s)) := by
  obtain ⟨n, rest, value, blank⟩ := exists_value?_of_form? told
  have start : (Cursor.start (Text.Utf8.ofText s)).At s.toList := rfl
  rcases readsMembers_object refuses word value start with ⟨m, d, fits, read, after⟩ | ⟨none, stops⟩
  · exact .inl ⟨m, fits, readDocument_ok read after blank⟩
  · exact .inr ⟨none, stops.bind _⟩

/-- A list is read as a record if its items fit, and otherwise reading stops. -/
theorem readDocument_list (word : ∀ name kind, (name, kind) ∈ shape.members → kind.FitsWord)
    {s : String} {items : List Form} (told : form? s = some (.list items))
    : (∃ m, FitsItems shape.members items m ∧ readDocument shape (Text.Utf8.ofText s) = .ok m)
      ∨ (∀ m, ¬ FitsItems shape.members items m)
        ∧ Stops (readDocument shape (Text.Utf8.ofText s)) := by
  obtain ⟨n, rest, value, blank⟩ := exists_value?_of_form? told
  have start : (Cursor.start (Text.Utf8.ofText s)).At s.toList := rfl
  rcases readsItems_list word value start with ⟨m, d, fits, read, after⟩ | ⟨none, stops⟩
  · exact .inl ⟨m, fits, readDocument_ok read after blank⟩
  · exact .inr ⟨none, stops.bind _⟩

end Documents

end CallWatch.Json

import CallWatch.Proofs.Load.Solo

/-! The history of a load run by itself keeps the books.
Whatever order its workers move in, and whenever others set the flag, the history accounts for
every worker, the calls that have begun are those that were taken down, those that were not taken
and those under way, and nothing but what was taken down has come to the observatory.
-/

namespace CallWatch.Load

-----------------------------------------------------------------------------------------
-- Histories
-----------------------------------------------------------------------------------------

/-- The deeds of one worker among those of all. -/
def deedsOf (worker : Nat) (history : List (Nat × Deed)) : List Deed :=
  history.filterMap fun (other, deed) => if other = worker then some deed else none

/-- The deeds of all workers. -/
def allDeeds (history : List (Nat × Deed)) : List Deed :=
  history.map (·.2)

theorem deedsOf_concat_self (worker : Nat) (history : List (Nat × Deed)) (deed : Deed)
    : deedsOf worker (history ++ [(worker, deed)]) = deedsOf worker history ++ [deed] := by
  simp [deedsOf]

theorem deedsOf_concat_of_ne {worker other : Nat} (different : other ≠ worker)
    (history : List (Nat × Deed)) (deed : Deed)
    : deedsOf worker (history ++ [(other, deed)]) = deedsOf worker history := by
  simp [deedsOf, different]

theorem allDeeds_concat (history : List (Nat × Deed)) (worker : Nat) (deed : Deed)
    : allDeeds (history ++ [(worker, deed)]) = allDeeds history ++ [deed] := by
  simp [allDeeds]

/-- What can come of a floor with one run, from an instant on: the run makes a move of its own,
others set the flag, or time goes on. The history is what is seen of the workers.
-/
inductive Floor.Plays (surroundings : Surroundings) (start : Duration) (f : Floor)
    : List (Nat × Deed) → Duration → Floor → Prop
  | opening : Plays surroundings start f [] start f
  | moves {history : List (Nat × Deed)} {at_ now : Duration} {g h : Floor} {move : Move}
    (before : Plays surroundings start f history at_ g) (since : at_ ≤ now)
    (own : move.run?.isSome = true) (moved : g.step? surroundings now move = some h)
    : Plays surroundings start f (history ++ g.deeds surroundings now move) now h
  | flags {history : List (Nat × Deed)} {at_ : Duration} {g : Floor}
    (before : Plays surroundings start f history at_ g) (value : Bool)
    : Plays surroundings start f history at_
        (g.withControl { g.control with flag := value })
  | waits {history : List (Nat × Deed)} {at_ now : Duration} {g : Floor}
    (before : Plays surroundings start f history at_ g) (since : at_ ≤ now)
    : Plays surroundings start f history now g

-----------------------------------------------------------------------------------------
-- Books
-----------------------------------------------------------------------------------------

/-- The history of a run accounts for its workers: for each of them by its own deeds, and for
the calls under way by the calls that have begun, those that were taken down and those that were
not taken.
-/
structure Books (surroundings : Surroundings) (takes : Call → Bool) (start : Duration)
    (profile : LoadProfile) (seeding : Seeding) (history : List (Nat × Deed)) (now : Duration)
    (workers : List Worker) : Prop where
  manned : workers.length = profile.workers
  accounts
    : ∀ (index : Nat) (w : Worker),
        workers[index]? = some w
        → w.Accounts surroundings takes start profile (seeding index) (deedsOf index history) now
  known : ∀ entry ∈ history, entry.1 < profile.workers
  underway
    : (Deed.begun (allDeeds history)).length
      = (Deed.recorded (allDeeds history)).length + (Deed.broken (allDeeds history)).length
        + workers.countP fun w => w.call?.isSome

/-- How a floor with one run stands: the run has not ended or it is over, and once it has
lowered the flag all its workers are done.
-/
inductive Stands (start : Duration) (profile : LoadProfile) (workers : List Worker)
    (o : Observatory) : Floor → Prop
  | manned (lowered flag : Bool) (spent : lowered = true → ∀ w ∈ workers, w.live = false)
    : Stands start profile workers o
        (.solo (some (Run.manned start profile workers lowered)) flag o)
  | ended (flag : Bool) (spent : ∀ w ∈ workers, w.live = false)
    : Stands start profile workers o (.solo none flag o)

section Keeping
variable {surroundings : Surroundings} {takes : Call → Bool} {start : Duration}
  {profile : LoadProfile} {seeding : Seeding} {history : List (Nat × Deed)}
  {at_ now : Duration} {workers : List Worker}

theorem getElem?_crew {size index : Nat} {w : Worker}
    (found : (crew seeding size)[index]? = some w)
    : w = ⟨index, seeding index, 0, .looking⟩ := by
  obtain ⟨inside, rfl⟩ := List.getElem?_eq_some_iff.mp found
  simp [crew, Worker.start]

/-- The books of a run that has just been launched are empty. -/
theorem Books.opening
    : Books surroundings takes start profile seeding [] start (crew seeding profile.workers) := by
  constructor
  · simp [crew]
  · intro index w found
    rw [getElem?_crew found]
    exact .opening index
  · exact fun entry member => nomatch member
  · have idle : (crew seeding profile.workers).countP (fun w => w.call?.isSome) = 0 := by
      simp [crew, Worker.start, Worker.call?]
    rw [idle]
    rfl

theorem Books.later (books : Books surroundings takes start profile seeding history at_ workers)
    (since : at_ ≤ now)
    : Books surroundings takes start profile seeding history now workers :=
  ⟨books.manned, fun index w found => (books.accounts index w found).later since, books.known,
    books.underway⟩

/-- A deed of a worker that accounts for where the worker then stands keeps the books: all
others stand as they did, and its calls balance before and after.
-/
theorem Books.joins (books : Books surroundings takes start profile seeding history at_ workers)
    (since : at_ ≤ now) {index : Nat} {w next : Worker} {deed : Deed}
    (found : workers[index]? = some w)
    (account
      : next.Accounts surroundings takes start profile (seeding index)
          (deedsOf index history ++ [deed]) now)
    : Books surroundings takes start profile seeding (history ++ [(index, deed)]) now
        (workers.set index next) := by
  constructor
  · rw [List.length_set, books.manned]
  · intro other v placed
    rcases cases_of_getElem?_set placed with ⟨rfl, rfl⟩ | ⟨different, placed⟩
    · rw [deedsOf_concat_self]
      exact account
    · rw [deedsOf_concat_of_ne (Ne.symm different)]
      exact (books.accounts other v placed).later since
  · refine List.forall_mem_append.mpr ⟨books.known, List.forall_mem_singleton.mpr ?_⟩
    rw [← books.manned]
    exact (List.getElem?_eq_some_iff.mp found).1
  · have total := books.underway
    have before := congrArg List.length (books.accounts index w found).kept
    have after := congrArg List.length account.kept
    have exchange := countP_set_add (fun w => w.call?.isSome) found next
    simp only [Deed.begun_concat, Deed.recorded_concat, Deed.broken_concat, List.length_append,
      length_toList] at before after
    simp only [allDeeds_concat, Deed.begun_concat, Deed.recorded_concat, Deed.broken_concat,
      List.length_append, length_toList]
    omega

/-- What is taken down of a history. -/
abbrev entriesOf (history : List (Nat × Deed)) : List Entry :=
  Deed.entries (allDeeds history)

variable {o : Observatory} {g h : Floor}

/-- A run with a live worker has not lowered the flag, so what the worker does next leaves
none behind.
-/
theorem spent_of_live {lowered : Bool} (spent : lowered = true → ∀ w ∈ workers, w.live = false)
    {index : Nat} {w : Worker} (found : workers[index]? = some w) (live : w.live = true)
    (next : List Worker)
    : lowered = true → ∀ w ∈ next, w.live = false := by
  intro low
  rw [spent low w (List.mem_of_getElem? found)] at live
  cases live

/-- A move of the run keeps the books, and nothing but what is seen to be taken down comes to
the observatory; by cases on the move.
-/
theorem Books.moves (books : Books surroundings o.takes start profile seeding history at_ workers)
    (stands : Stands start profile workers (o.enterAll (entriesOf history)) g)
    (since : at_ ≤ now) {move : Move} (own : move.run?.isSome = true)
    (moved : g.step? surroundings now move = some h)
    : ∃ next,
        Books surroundings o.takes start profile seeding
          (history ++ g.deeds surroundings now move) now next
        ∧ Stands start profile next
            (o.enterAll (entriesOf (history ++ g.deeds surroundings now move))) h := by
  cases stands with
  | ended flag =>
      rw [Floor.step?_solo_none own] at moved
      cases moved
  | manned lowered flag spent =>
      have step := Floor.soloMoves_of_step? own moved
      generalize Floor.deeds surroundings now _ move = seen at step ⊢
      cases step with
      | @looks index w lowered found looking =>
          have live : w.live = true := by simp only [Worker.live, looking]
          have account :
              (w.look (Terms.ofLaunch start profile) flag now).Accounts surroundings o.takes start
                profile (seeding index)
                (deedsOf index history ++ [w.glance (Terms.ofLaunch start profile) flag now]) now :=
            (books.accounts index w found).looks since looking
          refine ⟨_, books.joins since found account, ?_⟩
          simp only [entriesOf, allDeeds_concat, Deed.entries_concat, Worker.glance,
            Deed.entry?, Option.toList_none, List.append_nil]
          exact .manned lowered flag (spent_of_live spent found live _)
      | @lands index w call startedAt lowered found inside ended taken =>
          have live : w.live = true := Worker.live_of_call? inside
          rw [Observatory.takes_enterAll] at taken
          have account := (books.accounts index w found).lands inside ended taken
          refine ⟨_, books.joins since found account, ?_⟩
          simp only [entriesOf, allDeeds_concat, Deed.entries_concat, Deed.entry?,
            Option.toList_some, Observatory.enterAll_append]
          exact .manned lowered flag (spent_of_live spent found live _)
      | @breaks index w call startedAt lowered found inside ended refused =>
          have live : w.live = true := Worker.live_of_call? inside
          rw [Observatory.takes_enterAll] at refused
          have account := (books.accounts index w found).breaks inside ended refused
          refine ⟨_, books.joins since found account, ?_⟩
          simp only [entriesOf, allDeeds_concat, Deed.entries_concat, Deed.entry?,
            Option.toList_none, List.append_nil]
          exact .manned lowered flag (spent_of_live spent found live _)
      | lowers idle =>
          rw [List.append_nil]
          exact ⟨workers, books.later since, .manned true false fun _ => idle⟩
      | retires =>
          rw [List.append_nil]
          exact ⟨workers, books.later since, .ended flag (spent rfl)⟩

/-- The books are kept by whatever comes of a run that has just been launched, by induction on
the history.
-/
theorem Floor.Plays.books {flag : Bool} (told : (start + profile.duration).IsInstant)
    (plays : (launched seeding start profile flag o).Plays surroundings start history now g)
    : ∃ workers,
        Books surroundings o.takes start profile seeding history now workers
        ∧ Stands start profile workers (o.enterAll (entriesOf history)) g := by
  induction plays with
  | opening =>
      rw [launched_eq_manned told]
      exact ⟨_, .opening, .manned false flag (fun low => nomatch low)⟩
  | moves before since own moved ih =>
      obtain ⟨workers, books, stands⟩ := ih
      exact books.moves stands since own moved
  | flags before value ih =>
      obtain ⟨workers, books, stands⟩ := ih
      refine ⟨workers, books, ?_⟩
      cases stands with
      | manned lowered flag spent => exact .manned lowered value spent
      | ended flag spent => exact .ended value spent
  | waits before since ih =>
      obtain ⟨workers, books, stands⟩ := ih
      exact ⟨workers, books.later since, stands⟩

end Keeping

end CallWatch.Load

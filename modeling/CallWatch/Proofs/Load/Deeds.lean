import CallWatch.Proofs.Load.Draws

/-! What a worker is seen doing accounts for where it stands.
A worker looks and begins a call, or looks and quits, or takes down the call that it is inside,
or breaks off where that call is not taken. Each of these keeps the account, so it holds however
long the worker goes on.
-/

namespace CallWatch.Load

/-- A worker may begin a call: it sees the flag up before the deadline. -/
def Terms.Permit (terms : Terms) (flag : Bool) (now : Duration) : Prop :=
  flag = true ∧ now < terms.deadline

/-- What a worker can be seen doing at an instant. -/
inductive Deed where
  /-- It looks at the flag and the deadline, and begins a call or quits. -/
  | looks (flag : Bool) (now : Duration) (begun? : Option SyntheticCall)
  /-- The call that it has been inside since an instant is over and is taken down. -/
  | records (call : SyntheticCall) (startedAt now : Duration) (entry : Entry)
  /-- The call that it has been inside since an instant is over and is not taken: it breaks off. -/
  | breaks (call : SyntheticCall) (startedAt now : Duration)

namespace Deed

/-- The call that begins, with the instant. -/
def begun? : Deed → Option (SyntheticCall × Duration)
  | .looks _ now begun? => begun?.map fun call => (call, now)
  | .records .. => none
  | .breaks .. => none

/-- The call that is taken down, with the instant at which it began. -/
def recorded? : Deed → Option (SyntheticCall × Duration)
  | .looks .. => none
  | .records call startedAt _ _ => some (call, startedAt)
  | .breaks .. => none

/-- The call that is not taken, with the instant at which it began. -/
def broken? : Deed → Option (SyntheticCall × Duration)
  | .looks .. => none
  | .records .. => none
  | .breaks call startedAt _ => some (call, startedAt)

def entry? : Deed → Option Entry
  | .looks .. => none
  | .records _ _ _ entry => some entry
  | .breaks .. => none

/-- After such a deed a worker does nothing more. -/
def quits : Deed → Bool
  | .looks _ _ none => true
  | .breaks .. => true
  | _ => false

theorem broken?_eq_none {deed : Deed} (goesOn : deed.quits = false)
    : deed.broken? = none := by
  cases deed with
  | looks | records => rfl
  | breaks => cases goesOn

def begun (deeds : List Deed) : List (SyntheticCall × Duration) :=
  deeds.filterMap begun?

def recorded (deeds : List Deed) : List (SyntheticCall × Duration) :=
  deeds.filterMap recorded?

def broken (deeds : List Deed) : List (SyntheticCall × Duration) :=
  deeds.filterMap broken?

def entries (deeds : List Deed) : List Entry :=
  deeds.filterMap entry?

section Concat
variable (deeds : List Deed) (deed : Deed)

@[simp] theorem begun_concat
    : begun (deeds ++ [deed]) = begun deeds ++ deed.begun?.toList :=
  filterMap_concat begun? deeds deed

@[simp] theorem recorded_concat
    : recorded (deeds ++ [deed]) = recorded deeds ++ deed.recorded?.toList :=
  filterMap_concat recorded? deeds deed

@[simp] theorem broken_concat
    : broken (deeds ++ [deed]) = broken deeds ++ deed.broken?.toList :=
  filterMap_concat broken? deeds deed

@[simp] theorem entries_concat
    : entries (deeds ++ [deed]) = entries deeds ++ deed.entry?.toList :=
  filterMap_concat entry? deeds deed

end Concat

/-- A worker that goes on has not broken off. -/
theorem broken_eq_nil {deeds : List Deed} (goesOn : ∀ deed ∈ deeds, deed.quits = false)
    : broken deeds = [] :=
  List.filterMap_eq_nil_iff.mpr fun deed member => broken?_eq_none (goesOn deed member)

/-- Only the last deed can be to break off. -/
theorem length_broken_le {deeds : List Deed}
    (last : ∀ deed ∈ deeds.dropLast, deed.quits = false)
    : (broken deeds).length ≤ 1 := by
  rcases deeds.eq_nil_or_concat with rfl | ⟨before, deed, rfl⟩
  · exact Nat.zero_le 1
  · rw [List.concat_eq_append, List.dropLast_concat] at last
    rw [List.concat_eq_append, broken_concat, broken_eq_nil last, List.nil_append]
    exact Option.length_toList_le

end Deed

namespace Worker

/-- The call that a worker is inside, with the instant at which it began. -/
def call? (w : Worker) : Option (SyntheticCall × Duration) :=
  match w.activity with
  | .calling call startedAt => some (call, startedAt)
  | _ => none

theorem live_of_call? {w : Worker} {begun : SyntheticCall × Duration}
    (inside : w.call? = some begun)
    : w.live = true := by
  simp only [call?] at inside
  simp only [live]
  split at inside
  · next calling => rw [calling]
  · cases inside

/-- What is taken down of a call of a worker. -/
def entry (surroundings : Surroundings) (now : Duration) (w : Worker) (call : SyntheticCall)
    (startedAt : Duration) : Entry :=
  .call ⟨w.observed surroundings call, call.outcome, now - startedAt⟩ (surroundings.wall now)

theorem wake?_eq (w : Worker)
    : w.wake? = w.call?.map fun (call, startedAt) => (startedAt + call.latency).wake := by
  cases activity : w.activity <;> simp only [wake?, call?, activity, Option.map]

/-- What a worker does whose call is over. -/
def landing (surroundings : Surroundings) (o : Observatory) (now : Duration) (w : Worker)
    (call : SyntheticCall) (startedAt : Duration) : Deed :=
  if o.takes (w.observed surroundings call) then
    .records call startedAt now (w.entry surroundings now call startedAt)
  else .breaks call startedAt now

/-- A call that is over and taken is taken down, and the worker is about to look. -/
theorem land_of_takes {surroundings : Surroundings} {now : Duration} {w : Worker}
    {call : SyntheticCall} {startedAt : Duration} {o : Observatory}
    (inside : w.call? = some (call, startedAt))
    (ended : (startedAt + call.latency).wake ≤ now)
    (taken : o.takes (w.observed surroundings call) = true)
    : w.land surroundings now o
      = ({ w with activity := .looking }, o.enter (w.entry surroundings now call startedAt)) := by
  simp only [call?] at inside
  split at inside
  · next calling =>
    cases inside
    simp only [land, calling, if_pos ended, if_pos taken]
    rfl
  · cases inside

/-- A call that is over and not taken leaves nothing, and the worker is done. -/
theorem land_of_refused {surroundings : Surroundings} {now : Duration} {w : Worker}
    {call : SyntheticCall} {startedAt : Duration} {o : Observatory}
    (inside : w.call? = some (call, startedAt))
    (ended : (startedAt + call.latency).wake ≤ now)
    (refused : o.takes (w.observed surroundings call) = false)
    : w.land surroundings now o = ({ w with activity := .done }, o) := by
  simp only [call?] at inside
  split at inside
  · next calling =>
    cases inside
    have idle
        : o.complete (w.observed surroundings call) call.outcome (now - startedAt)
            (surroundings.wall now) = o :=
      Observatory.complete_of_refused refused
    simp only [land, calling, if_pos ended, refused, Bool.false_eq_true, if_false, idle]
  · cases inside

/-- What a worker does that looks. -/
def glance (terms : Terms) (flag : Bool) (now : Duration) (w : Worker) : Deed :=
  .looks flag now ((w.look terms flag now).call?.map (·.1))

section Look
variable {w : Worker} {terms : Terms} {flag : Bool} {now : Duration}

/-- With the flag up before the deadline a worker that looks begins the call that it draws. -/
theorem exists_look_of_permit (looking : w.activity = .looking)
    (permit : terms.Permit flag now)
    : ∃ drawn,
        draw terms.errorPct w.stream = drawn
        ∧ w.glance terms flag now = .looks flag now (some drawn.1)
        ∧ w.look terms flag now
          = ⟨w.id, drawn.2, w.begun + 1, .calling drawn.1 now⟩ := by
  have begins : w.look terms flag now
      = ⟨w.id, (draw terms.errorPct w.stream).2, w.begun + 1,
          .calling (draw terms.errorPct w.stream).1 now⟩ := by
    simp only [look, looking, permit.1, permit.2, Bool.true_and, decide_true, if_true]
  exact ⟨_, rfl, by simp only [glance, begins, call?, Option.map_some], begins⟩

/-- With the flag down or the deadline reached it quits. -/
theorem look_of_refused (looking : w.activity = .looking)
    (refused : ¬ terms.Permit flag now)
    : w.look terms flag now = ⟨w.id, w.stream, w.begun, .done⟩ := by
  simp only [look, looking]
  refine if_neg fun permit => refused ?_
  simpa only [Terms.Permit, Bool.and_eq_true, decide_eq_true_eq] using permit

theorem glance_of_refused (looking : w.activity = .looking)
    (refused : ¬ terms.Permit flag now)
    : w.glance terms flag now = .looks flag now none := by
  simp only [glance, look_of_refused looking refused, call?, Option.map_none]

end Look

end Worker

-----------------------------------------------------------------------------------------
-- The account of a worker
-----------------------------------------------------------------------------------------

/-- An entry tells a call that is taken: it counts it under the method of the script with the
outcome that was drawn for it, and with the time since it began.
-/
def Tells (surroundings : Surroundings) (takes : Call → Bool) (call : SyntheticCall)
    (startedAt now : Duration) (entry : Entry) : Prop :=
  ∃ observed : Call,
    observed.name = call.method
    ∧ takes observed = true
    ∧ entry = .call ⟨observed, call.outcome, now - startedAt⟩ (surroundings.wall now)

/-- A call of the script is observed under its method. -/
theorem name_observed (surroundings : Surroundings) (w : Worker) {call : SyntheticCall}
    (scripted : call.method ∈ methods)
    : (w.observed surroundings call).name = call.method :=
  normalizeMethod_of_scripted call.method scripted

/-- A deed is sound: a call begins where it may and the worker quits where it may not; what is
taken down of a call that is taken tells that call, and the worker breaks off where it is not.
-/
def Deed.Sound (surroundings : Surroundings) (takes : Call → Bool) (terms : Terms)
    : Deed → Prop
  | .looks flag now begun? => begun?.isSome = true ↔ terms.Permit flag now
  | .records call startedAt now entry => Tells surroundings takes call startedAt now entry
  | .breaks call _ _ =>
    ∃ observed : Call, observed.name = call.method ∧ takes observed = false

/-- The deeds of a worker, up to an instant, account for where it stands:
- the calls that it has begun are the first of the script of its stream, which is left where
  the next call is drawn;
- the calls that it has begun are those that it has taken down, in their order, and then the
  one with which it broke off or the one that it is inside, if there is one;
- every deed is sound;
- only the last deed can be to quit, and a worker that has not quit has no such deed;
- one deed began each call, one took it down, and one is to quit;
- the calls that it has taken down took their time since the start, one after the other;
- the last call that it began did so before the deadline.
-/
structure Worker.Accounts (surroundings : Surroundings) (takes : Call → Bool)
    (start : Duration) (profile : LoadProfile) (stream : Random.Stream) (deeds : List Deed)
    (now : Duration) (w : Worker) : Prop where
  scripted
    : script profile.errorPct stream w.begun = ((Deed.begun deeds).map (·.1), w.stream)
  kept : Deed.begun deeds = Deed.recorded deeds ++ Deed.broken deeds ++ w.call?.toList
  sound : ∀ deed ∈ deeds, deed.Sound surroundings takes (Terms.ofLaunch start profile)
  last : ∀ deed ∈ deeds.dropLast, deed.quits = false
  active : w.live = true → ∀ deed ∈ deeds, deed.quits = false
  length
    : deeds.length
      = (Deed.begun deeds).length + (Deed.recorded deeds).length + (!w.live).toNat
  elapsed
    : start.nanos + (Deed.recorded deeds).length * shortestCall.nanos
      ≤ ((w.call?.map (·.2)).getD now).nanos
  bounded
    : (Deed.begun deeds).length * shortestCall.nanos
      < profile.duration.nanos + shortestCall.nanos

namespace Worker.Accounts
variable {surroundings : Surroundings} {takes : Call → Bool} {start : Duration}
  {profile : LoadProfile} {stream : Random.Stream} {deeds : List Deed} {at_ now : Duration}
  {w : Worker}

/-- A worker that is about to look for the first time has done nothing. -/
theorem opening (id : Nat)
    : Accounts surroundings takes start profile stream [] start ⟨id, stream, 0, .looking⟩ := by
  constructor
  · rfl
  · rfl
  · exact fun deed member => nomatch member
  · exact fun deed member => nomatch member
  · exact fun _ deed member => nomatch member
  · rfl
  · simp only [Deed.recorded, List.filterMap_nil, List.length_nil, Nat.zero_mul, Nat.add_zero,
      call?, Option.map_none, Option.getD_none, Nat.le_refl]
  · simp only [Deed.begun, List.filterMap_nil, List.length_nil, Nat.zero_mul]
    exact Nat.add_pos_right _ (by decide)

/-- The account stays while time goes on. -/
theorem later (h : w.Accounts surroundings takes start profile stream deeds at_)
    (since : at_ ≤ now)
    : w.Accounts surroundings takes start profile stream deeds now := by
  refine ⟨h.scripted, h.kept, h.sound, h.last, h.active, h.length, ?_, h.bounded⟩
  refine Nat.le_trans h.elapsed ?_
  cases w.call? with
  | none => exact since
  | some call => exact Nat.le_refl _

-----------------------------------------------------------------------------------------
-- Steps
-----------------------------------------------------------------------------------------

section Steps
variable {flag : Bool} (h : w.Accounts surroundings takes start profile stream deeds at_)
  (since : at_ ≤ now)
include h

/-- A sound deed joins the others. -/
theorem sound_concat {last : Deed}
    (sound : last.Sound surroundings takes (Terms.ofLaunch start profile))
    : ∀ deed ∈ deeds ++ [last], deed.Sound surroundings takes (Terms.ofLaunch start profile) :=
  List.forall_mem_append.mpr ⟨h.sound, List.forall_mem_singleton.mpr sound⟩

/-- What a worker does that has not quit may be to quit. -/
theorem last_concat (live : w.live = true) (last : Deed)
    : ∀ deed ∈ (deeds ++ [last]).dropLast, deed.quits = false := by
  rw [List.dropLast_concat]
  exact h.active live

/-- The calls that a worker has begun are drawn from its script. -/
theorem drawn
    : ∀ begun ∈ Deed.begun deeds, begun.1.Drawn profile.errorPct := by
  intro begun member
  refine drawn_of_mem_script (s := stream) (n := w.begun) begun.1 ?_
  rw [h.scripted]
  exact List.mem_map_of_mem member

/-- A worker that is inside a call has begun it last, after those that it has taken down. -/
theorem calling {call : SyntheticCall} {startedAt : Duration}
    (inside : w.call? = some (call, startedAt))
    : w.live = true
      ∧ Deed.broken deeds = []
      ∧ Deed.begun deeds = Deed.recorded deeds ++ [(call, startedAt)]
      ∧ call.Drawn profile.errorPct
      ∧ deeds.length = (Deed.begun deeds).length + (Deed.recorded deeds).length
      ∧ start.nanos + (Deed.recorded deeds).length * shortestCall.nanos ≤ startedAt.nanos := by
  have live : w.live = true := live_of_call? inside
  have whole := Deed.broken_eq_nil (h.active live)
  have kept := h.kept
  have length := h.length
  have elapsed := h.elapsed
  rw [whole, inside, List.append_nil, Option.toList_some] at kept
  rw [live] at length
  rw [inside, Option.map_some, Option.getD_some] at elapsed
  have drawn : call.Drawn profile.errorPct :=
    h.drawn (call, startedAt) (kept ▸ List.mem_append_right _ (.head _))
  exact ⟨live, whole, kept, drawn, length, elapsed⟩

/-- A worker whose call is over and taken takes it down and is about to look. -/
theorem lands {call : SyntheticCall} {startedAt : Duration}
    (inside : w.call? = some (call, startedAt))
    (ended : (startedAt + call.latency).wake ≤ now)
    (taken : takes (w.observed surroundings call) = true)
    : Accounts surroundings takes start profile stream
        (deeds ++ [.records call startedAt now (w.entry surroundings now call startedAt)]) now
        { w with activity := .looking } := by
  obtain ⟨live, whole, kept, drawn, length, elapsed⟩ := h.calling inside
  constructor
  · simpa only [Deed.begun_concat, Deed.begun?, Option.toList_none, List.append_nil]
      using h.scripted
  · simp only [Deed.begun_concat, Deed.recorded_concat, Deed.broken_concat, Deed.begun?,
      Deed.recorded?, Deed.broken?, whole, kept, call?, Option.toList_some, Option.toList_none,
      List.append_nil]
  · exact h.sound_concat ⟨_, name_observed surroundings w drawn.method, taken, rfl⟩
  · exact h.last_concat live _
  · intro _
    exact List.forall_mem_append.mpr ⟨h.active live, List.forall_mem_singleton.mpr rfl⟩
  · simp only [List.length_append, List.length_singleton, Deed.begun_concat,
      Deed.recorded_concat, Deed.begun?, Deed.recorded?, Option.toList_some, Option.toList_none,
      List.append_nil, Worker.live, length, Bool.not_true, Bool.toNat_false]
    omega
  · have shortest := drawn.shortest
    have late := Nat.le_trans (Duration.le_wake (startedAt + call.latency)) ended
    simp only [Duration.le_iff] at shortest
    simp only [Duration.nanos_add] at late
    simp only [Deed.recorded_concat, Deed.recorded?, Option.toList_some, List.length_append,
      List.length_singleton, call?, Option.map_none, Option.getD_none, Nat.add_mul, Nat.one_mul]
    omega
  · simpa only [Deed.begun_concat, Deed.begun?, Option.toList_none, List.append_nil]
      using h.bounded

/-- A worker whose call is over and not taken breaks off. -/
theorem breaks {call : SyntheticCall} {startedAt : Duration}
    (inside : w.call? = some (call, startedAt))
    (ended : (startedAt + call.latency).wake ≤ now)
    (refused : takes (w.observed surroundings call) = false)
    : Accounts surroundings takes start profile stream
        (deeds ++ [.breaks call startedAt now]) now { w with activity := .done } := by
  obtain ⟨live, whole, kept, drawn, length, elapsed⟩ := h.calling inside
  constructor
  · simpa only [Deed.begun_concat, Deed.begun?, Option.toList_none, List.append_nil]
      using h.scripted
  · simp only [Deed.begun_concat, Deed.recorded_concat, Deed.broken_concat, Deed.begun?,
      Deed.recorded?, Deed.broken?, whole, kept, call?, Option.toList_some, Option.toList_none,
      List.append_nil, List.nil_append]
  · exact h.sound_concat ⟨_, name_observed surroundings w drawn.method, refused⟩
  · exact h.last_concat live _
  · intro still
    cases still
  · simp only [List.length_append, List.length_singleton, Deed.begun_concat,
      Deed.recorded_concat, Deed.begun?, Deed.recorded?, Option.toList_none, List.append_nil,
      Worker.live, length]
    rfl
  · have late := Nat.le_trans (Duration.le_wake (startedAt + call.latency)) ended
    simp only [Duration.nanos_add] at late
    simp only [Deed.recorded_concat, Deed.recorded?, Option.toList_none, List.append_nil, call?,
      Option.map_none, Option.getD_none]
    omega
  · simpa only [Deed.begun_concat, Deed.begun?, Option.toList_none, List.append_nil]
      using h.bounded

include since

/-- A worker that is about to look is inside no call, and has not quit. -/
theorem idle (looking : w.activity = .looking)
    : w.live = true
      ∧ Deed.broken deeds = []
      ∧ Deed.begun deeds = Deed.recorded deeds
      ∧ deeds.length = (Deed.begun deeds).length + (Deed.recorded deeds).length
      ∧ start.nanos + (Deed.recorded deeds).length * shortestCall.nanos ≤ now.nanos := by
  have live : w.live = true := by simp only [Worker.live, looking]
  have outside : w.call? = none := by simp only [call?, looking]
  have whole := Deed.broken_eq_nil (h.active live)
  have kept := h.kept
  have length := h.length
  have elapsed := (h.later since).elapsed
  rw [whole, outside, Option.toList_none, List.append_nil, List.append_nil] at kept
  rw [live] at length
  rw [outside, Option.map_none, Option.getD_none] at elapsed
  exact ⟨live, whole, kept, length, elapsed⟩

/-- A worker that looks while it may begins the next call of its script. -/
theorem begins (looking : w.activity = .looking)
    (permit : (Terms.ofLaunch start profile).Permit flag now)
    : (w.look (Terms.ofLaunch start profile) flag now).Accounts surroundings takes start profile
        stream (deeds ++ [w.glance (Terms.ofLaunch start profile) flag now]) now := by
  obtain ⟨drawn, drew, glances, looks⟩ := exists_look_of_permit looking permit
  obtain ⟨live, whole, kept, length, elapsed⟩ := h.idle since looking
  rw [glances, looks]
  constructor
  · simp only [script_succ h.scripted drew, Deed.begun_concat, Deed.begun?, Option.map_some,
      Option.toList_some, List.map_append, List.map_cons, List.map_nil]
  · simp only [Deed.begun_concat, Deed.recorded_concat, Deed.broken_concat, Deed.begun?,
      Deed.recorded?, Deed.broken?, whole, kept, call?, Option.map_some, Option.toList_some,
      Option.toList_none, List.append_nil]
  · exact h.sound_concat (show Deed.Sound _ _ _ (.looks ..) from iff_of_true rfl permit)
  · exact h.last_concat live _
  · intro _
    exact List.forall_mem_append.mpr ⟨h.active live, List.forall_mem_singleton.mpr rfl⟩
  · simp only [List.length_append, List.length_singleton, Deed.begun_concat,
      Deed.recorded_concat, Deed.begun?, Deed.recorded?, Option.map_some, Option.toList_some,
      Option.toList_none, List.append_nil, Worker.live, length, Bool.not_true, Bool.toNat_false]
    omega
  · simpa only [Deed.recorded_concat, Deed.recorded?, Option.toList_none, List.append_nil,
      call?, Option.map_some, Option.getD_some] using elapsed
  · have early := permit.2
    simp only [Terms.ofLaunch, Duration.lt_iff, Duration.nanos_add] at early
    simp only [Deed.begun_concat, Deed.begun?, Option.map_some, Option.toList_some,
      List.length_append, List.length_singleton, kept, Nat.add_mul, Nat.one_mul]
    omega

/-- A worker that looks while it may not quits. -/
theorem quits (looking : w.activity = .looking)
    (refused : ¬ (Terms.ofLaunch start profile).Permit flag now)
    : (w.look (Terms.ofLaunch start profile) flag now).Accounts surroundings takes start profile
        stream (deeds ++ [w.glance (Terms.ofLaunch start profile) flag now]) now := by
  obtain ⟨live, whole, kept, length, elapsed⟩ := h.idle since looking
  rw [glance_of_refused looking refused, look_of_refused looking refused]
  constructor
  · simpa only [Deed.begun_concat, Deed.begun?, Option.map_none, Option.toList_none,
      List.append_nil] using h.scripted
  · simpa only [Deed.begun_concat, Deed.recorded_concat, Deed.broken_concat, Deed.begun?,
      Deed.recorded?, Deed.broken?, whole, call?, Option.map_none, Option.toList_none,
      List.append_nil] using kept
  · exact h.sound_concat
      (show Deed.Sound _ _ _ (.looks ..) from iff_of_false Bool.false_ne_true refused)
  · exact h.last_concat live _
  · intro still
    cases still
  · simp only [List.length_append, List.length_singleton, Deed.begun_concat,
      Deed.recorded_concat, Deed.begun?, Deed.recorded?, Option.map_none, Option.toList_none,
      List.append_nil, Worker.live, length]
    rfl
  · simpa only [Deed.recorded_concat, Deed.recorded?, Option.toList_none, List.append_nil,
      call?, Option.map_none, Option.getD_none] using elapsed
  · simpa only [Deed.begun_concat, Deed.begun?, Option.map_none, Option.toList_none,
      List.append_nil] using h.bounded

/-- A worker that looks keeps its account. -/
theorem looks (looking : w.activity = .looking)
    : (w.look (Terms.ofLaunch start profile) flag now).Accounts surroundings takes start profile
        stream (deeds ++ [w.glance (Terms.ofLaunch start profile) flag now]) now := by
  by_cases permit : (Terms.ofLaunch start profile).Permit flag now
  · exact h.begins since looking permit
  · exact h.quits since looking permit

end Steps

end Worker.Accounts

end CallWatch.Load

import CallWatch.Proofs.Service.Growth
import Mathlib.Data.List.Dedup

/-! The names that requests bring into the collector.
Requests arrive at a service, wait for load control, go on or are given up, while its load runs
and its reporter do their work, in any order and at any instants. The names in the collector are
then the standard ones at most and, one for one, the names of the requests whose verb is an
extension. So the verbs that clients make up are what the size of the collector depends on.
-/

namespace CallWatch

open Http (Request)
open Service (Exchange Pending observedCall observes standardNames foreignName?)

-----------------------------------------------------------------------------------------
-- Events
-----------------------------------------------------------------------------------------

/-- A service with the requests whose orders wait. -/
structure Traffic where
  service : Service
  waiting : List Pending

/-- What can happen to a service. -/
inductive TrafficEvent where
  /-- A request arrives. -/
  | arrive (r : Request)
  /-- A request that waits goes on, as far as it can. -/
  | resume (index : Nat)
  /-- A request that waits is given up. -/
  | abandon (index : Nat)
  /-- Load runs and the reporter do all that is due. -/
  | settle
  | startReporter
  | stopReporter

/-- The request that arrives with an event, if one does. -/
def TrafficEvent.request? : TrafficEvent → Option Request
  | .arrive r => some r
  | _ => none

namespace Traffic

/-- What has happened, each event at its instant. -/
abbrev History := List (Duration × TrafficEvent)

/-- The requests that have arrived in the course of a history. -/
def arrivals (history : History) : List Request :=
  history.filterMap fun (_, event) => event.request?

theorem arrivals_cons (now : Duration) (event : TrafficEvent) (rest : History)
    : arrivals ((now, event) :: rest) = event.request?.toList ++ arrivals rest := by
  cases arrives : event.request? <;> simp [arrivals, arrives]

/-- A service at its start, to which no request has come. -/
def opening (config : Config) : Traffic :=
  ⟨.start config, []⟩

/-- An exchange that has not been answered waits with the others. -/
def joined (waiting : List Pending) : Exchange × Service → Traffic
  | (.answered _, s) => ⟨s, waiting⟩
  | (.waiting p, s) => ⟨s, waiting ++ [p]⟩
  | (.brokenOff, s) => ⟨s, waiting⟩

/-- One event at an instant. One that is about a request that does not wait does nothing. -/
def step (surroundings : Load.Surroundings) (now : Duration) (t : Traffic)
    : TrafficEvent → Traffic
  | .arrive r => joined t.waiting (t.service.accept surroundings.wall now r)
  | .resume index =>
    match t.waiting[index]? with
    | some p => joined (t.waiting.eraseIdx index) (t.service.proceed surroundings.wall now p)
    | none => t
  | .abandon index =>
    match t.waiting[index]? with
    | some p => ⟨t.service.abandon surroundings.wall now p, t.waiting.eraseIdx index⟩
    | none => t
  | .settle => { t with service := t.service.settle surroundings now }
  | .startReporter => { t with service := t.service.startReporter now }
  | .stopReporter => { t with service := t.service.stopReporter }

def run (surroundings : Load.Surroundings) (t : Traffic) (history : History) : Traffic :=
  history.foldl (fun t (now, event) => t.step surroundings now event) t

/-- The names of the methods for which the collector has an entry. -/
def names (t : Traffic) : List String :=
  t.service.observatory.names

@[simp] theorem service_joined (waiting : List Pending) (result : Exchange × Service)
    : (joined waiting result).service = result.2 := by
  obtain ⟨exchange, next⟩ := result
  cases exchange <;> rfl

/-- A request that its handler has answered does not wait. -/
theorem joined_conclude (waiting : List Pending) (wall : WallClock) (now startedAt : Duration)
    (r : Request) (response : Http.Response) (s : Service)
    : joined waiting (s.conclude wall now startedAt r response)
      = ⟨(s.conclude wall now startedAt r response).2, waiting⟩ := by
  simp only [Service.conclude]
  split <;> rfl

section Growth
variable (surroundings : Load.Surroundings) {t : Traffic}

/-- Whatever happens, names are gained and load runs keep to their script; by cases on the
event.
-/
theorem grows_step (scripted : t.service.bench.control.Scripted) (now : Duration)
    (event : TrafficEvent)
    : t.service.Grows (fun _ => True) (t.step surroundings now event).service := by
  have all (r : Request) : Service.Names (fun _ => True) r := fun _ => trivial
  have idle : t.service.Grows (fun _ => True) t.service := ⟨scripted, .refl⟩
  cases event with
  | arrive r =>
      simp only [step, service_joined]
      have taken := Service.accepts surroundings.wall now r t.service
      generalize t.service.accept surroundings.wall now r = result at taken ⊢
      cases taken with
      | permission => exact idle
      | @answer response => exact Service.grows_conclude response scripted (all r)
      | @order order =>
          have grown := Service.grows_proceed surroundings.wall now
            (s := { t.service with nextOrder := t.service.nextOrder + 1 })
            (p := ⟨t.service.nextOrder, r, now, order, order.task⟩) scripted (all r)
          exact ⟨grown.scripted, grown.gains⟩
  | resume index =>
      simp only [step]
      split
      · next p _ =>
        rw [service_joined]
        exact Service.grows_proceed surroundings.wall now scripted (all p.request)
      · exact idle
  | abandon index =>
      simp only [step]
      split
      · next p _ => exact Service.grows_abandon surroundings.wall now scripted (all p.request)
      · exact idle
  | settle => exact (Service.grows_settle surroundings now scripted).mono fun _ _ => trivial
  | startReporter | stopReporter => exact ⟨scripted, .refl⟩

/-- So it is in the course of a history, by induction on it. -/
theorem grows_run (scripted : t.service.bench.control.Scripted) (history : History)
    : t.service.Grows (fun _ => True) (t.run surroundings history).service := by
  induction history generalizing t with
  | nil => exact ⟨scripted, .refl⟩
  | cons entry rest ih =>
      have first := grows_step surroundings scripted entry.1 entry.2
      have later := ih first.scripted
      exact ⟨later.scripted, first.gains.trans later.gains⟩

end Growth

/-- A new service whose windows cannot be made counts nothing, whatever happens to it. -/
theorem collector_run_of_refused (surroundings : Load.Surroundings) {config : Config}
    (unfit : ¬ (opening config).service.observatory.Fits) (history : History)
    : ((opening config).run surroundings history).service.observatory.collector
      = some (Collector.new config.effectiveSamples) := by
  have grown := grows_run surroundings (t := opening config) nofun history
  have large : ¬ (Collector.new config.effectiveSamples).Fits := by
    simpa [Observatory.Fits, opening, Service.start, Service.observatory] using unfit
  exact grown.gains.idle fun call => Observatory.takes_new large rfl call

end Traffic

-----------------------------------------------------------------------------------------
-- Traffic
-----------------------------------------------------------------------------------------

namespace Traffic

/-- The names that requests bring along beyond the standard ones. -/
def foreignNames (arrived : List Request) : List String :=
  arrived.filterMap foreignName?

theorem mem_foreignNames_singleton {r : Request} {name : String}
    : name ∈ foreignNames [r] ↔ foreignName? r = some name := by
  simp [foreignNames]

/-- What holds of the traffic once some requests have arrived, where every call is taken: the
collector has no names but the standard and the foreign ones, and has all the foreign ones. None
of those is still to come, since the requests that wait have standard names.
-/
structure Sound (arrived : List Request) (t : Traffic) : Prop where
  counting : t.service.observatory.collector.isSome = true
  taking : ∀ call, t.service.observatory.takes call = true
  scripted : t.service.bench.control.Scripted
  orderly : ∀ p ∈ t.waiting, Service.Names (· ∈ standardNames) p.request
  known : ∀ name ∈ t.names, name ∈ standardNames ∨ name ∈ foreignNames arrived
  present : ∀ name ∈ foreignNames arrived, name ∈ t.names

theorem sound_opening {config : Config} (fits : (opening config).service.observatory.Fits)
    : Sound [] (opening config) where
  counting := rfl
  taking := fits.takes
  scripted := fun _ member => nomatch member
  orderly := fun _ member => nomatch member
  known := fun _ member => nomatch member
  present := fun _ member => nomatch member

section Steps
variable (surroundings : Load.Surroundings) {arrived more : List Request} {t : Traffic}
  {waiting : List Pending}

/-- A service that has grown is sound with the requests that have arrived meanwhile, if it has
their foreign names.
-/
theorem Sound.grow {next : Service} (sound : Sound arrived t)
    (grown
      : t.service.Grows (fun name => name ∈ standardNames ∨ name ∈ foreignNames more) next)
    (brought : ∀ name ∈ foreignNames more, name ∈ next.observatory.names)
    (orderly : ∀ p ∈ waiting, Service.Names (· ∈ standardNames) p.request)
    : Sound (arrived ++ more) ⟨next, waiting⟩ where
  counting := grown.gains.counting.trans sound.counting
  taking := fun call => grown.gains.taking ▸ sound.taking call
  scripted := grown.scripted
  orderly := orderly
  known := by
    intro name member
    simp only [foreignNames, List.filterMap_append, List.mem_append]
    rcases grown.gains.gained name member with before | standard | foreign
    · exact (sound.known name before).imp_right .inl
    · exact .inl standard
    · exact .inr (.inr foreign)
  present := by
    intro name member
    simp only [foreignNames, List.filterMap_append, List.mem_append] at member
    rcases member with before | foreign
    · exact grown.gains.kept name (sound.present name before)
    · exact brought name foreign

/-- The same where an exchange may go on to wait with the others. -/
theorem Sound.join {result : Exchange × Service} (sound : Sound arrived t)
    (grown
      : t.service.Grows (fun name => name ∈ standardNames ∨ name ∈ foreignNames more) result.2)
    (brought : ∀ name ∈ foreignNames more, name ∈ result.2.observatory.names)
    (orderly : ∀ p ∈ waiting, Service.Names (· ∈ standardNames) p.request)
    (joins : ∀ p, result.1 = .waiting p → Service.Names (· ∈ standardNames) p.request)
    : Sound (arrived ++ more) (joined waiting result) := by
  obtain ⟨exchange, next⟩ := result
  cases exchange with
  | answered | brokenOff => exact sound.grow grown brought orderly
  | waiting p =>
      refine sound.grow grown brought fun other member => ?_
      rcases List.mem_append.mp member with before | last
      · exact orderly other before
      · exact List.mem_singleton.mp last ▸ joins p rfl

/-- A request that arrives brings its name: if that is foreign, the request is answered at once,
as its verb is neither that of questions for permission nor one that leads to an order.
-/
theorem Sound.arrive (sound : Sound arrived t) (now : Duration) {r : Request}
    (token : Http.isToken r.verb = true)
    : Sound (arrived ++ [r]) (t.step surroundings now (.arrive r)) := by
  have names : Service.Names (fun name => name ∈ standardNames ∨ name ∈ foreignNames [r]) r := by
    intro observed
    exact (Service.name_observed token observed).imp_right mem_foreignNames_singleton.mpr
  have ordinary (standard : r.verb ∈ Http.standardVerbs) (name : String)
      : name ∉ foreignNames [r] := by
    rw [mem_foreignNames_singleton, Service.foreignName?_of_standard standard]
    exact nofun
  have taken := Service.accepts surroundings.wall now r t.service
  simp only [step]
  generalize t.service.accept surroundings.wall now r = result at taken ⊢
  cases taken with
  | permission asks =>
      have standard : r.verb ∈ Http.standardVerbs := asks ▸ (by decide)
      exact sound.join ⟨sound.scripted, .refl⟩
        (fun name foreign => absurd foreign (ordinary standard name)) sound.orderly nofun
  | @answer response _ _ =>
      refine sound.join (Service.grows_conclude response sound.scripted names) ?_ sound.orderly
        fun p waits => absurd waits Service.conclude_ne_waiting
      intro name member
      have foreign := mem_foreignNames_singleton.mp member
      obtain ⟨observed, -⟩ := Service.cases_of_foreignName? foreign
      rw [← Service.name_of_foreignName? token foreign]
      exact Service.name_mem_conclude response sound.counting observed (sound.taking _)
  | @order order _ handled =>
      have standard := Service.standard_of_order handled
      have grown := Service.grows_proceed surroundings.wall now
        (s := { t.service with nextOrder := t.service.nextOrder + 1 })
        (p := ⟨t.service.nextOrder, r, now, order, order.task⟩) sound.scripted names
      refine sound.join ⟨grown.scripted, grown.gains⟩
        (fun name foreign => absurd foreign (ordinary standard name)) sound.orderly ?_
      intro p waits
      rw [Service.request_proceed waits]
      exact fun observed => (names observed).resolve_right (ordinary standard _)

/-- Every event keeps the traffic sound, with the request that arrives, if one does. -/
theorem Sound.step (sound : Sound arrived t) (now : Duration) (event : TrafficEvent)
    (tokens : ∀ r, event.request? = some r → Http.isToken r.verb = true)
    : Sound (arrived ++ event.request?.toList) (t.step surroundings now event) := by
  have others (index : Nat)
      : ∀ p ∈ t.waiting.eraseIdx index, Service.Names (· ∈ standardNames) p.request :=
    fun p member => sound.orderly p (List.mem_of_mem_eraseIdx member)
  cases event with
  | arrive r => exact sound.arrive surroundings now (tokens r rfl)
  | resume index =>
      simp only [Traffic.step]
      split
      · next p found =>
        have names := sound.orderly p (List.mem_of_getElem? found)
        have grown := Service.grows_proceed surroundings.wall now sound.scripted names
        refine sound.join (grown.mono fun _ => .inl) nofun (others index) fun later waits => ?_
        rwa [Service.request_proceed waits]
      · exact sound.grow ⟨sound.scripted, .refl⟩ nofun sound.orderly
  | abandon index =>
      simp only [Traffic.step]
      split
      · next p found =>
        have names := sound.orderly p (List.mem_of_getElem? found)
        have grown := Service.grows_abandon surroundings.wall now sound.scripted names
        exact sound.grow (grown.mono fun _ => .inl) nofun (others index)
      · exact sound.grow ⟨sound.scripted, .refl⟩ nofun sound.orderly
  | settle =>
      have grown := Service.grows_settle surroundings now sound.scripted
      refine sound.grow (grown.mono fun name scripted => .inl ?_) nofun sound.orderly
      exact List.mem_append_left _ (.tail _ scripted)
  | startReporter => exact sound.grow ⟨sound.scripted, .refl⟩ nofun sound.orderly
  | stopReporter => exact sound.grow ⟨sound.scripted, .refl⟩ nofun sound.orderly

/-- So does a history with the requests that arrive in its course, by induction on it. -/
theorem Sound.run (sound : Sound arrived t) (history : History)
    (tokens : ∀ r ∈ arrivals history, Http.isToken r.verb = true)
    : Sound (arrived ++ arrivals history) (t.run surroundings history) := by
  induction history generalizing arrived t with
  | nil => simpa [arrivals, Traffic.run] using sound
  | cons entry rest ih =>
      obtain ⟨now, event⟩ := entry
      rw [arrivals_cons, List.forall_mem_append] at tokens
      have first := sound.step surroundings now event fun r arrives =>
        tokens.1 r (by simp [arrives])
      rw [arrivals_cons, ← List.append_assoc]
      exact ih first tokens.2

end Steps

-----------------------------------------------------------------------------------------
-- The clock
-----------------------------------------------------------------------------------------

/-- The history in which nothing happens but what is due at some instants. -/
def settles (instants : List Duration) : History :=
  instants.map fun instant => (instant, .settle)

section Clock
variable (surroundings : Load.Surroundings) (waiting : List Pending)

/-- A clock that moves on makes such a history, by induction along its deadlines. -/
theorem exists_settles_runTo (target now : Duration) (s : Service)
    : ∃ instants,
        run surroundings ⟨s, waiting⟩ (settles instants)
          = ⟨(Service.timers surroundings).runTo target now s, waiting⟩ := by
  induction now, s using Time.Timers.runTo.induct (Service.timers surroundings) target with
  | case1 now s none =>
      refine ⟨[target], ?_⟩
      rw [Time.Timers.runTo.eq_def]
      simp only [none]
      rfl
  | case2 now s deadline due between ih =>
      obtain ⟨instants, ran⟩ := ih
      refine ⟨deadline.wake :: instants, ?_⟩
      rw [Time.Timers.runTo.eq_def]
      simp only [due, dif_pos between]
      exact ran
  | case3 now s deadline due outside =>
      refine ⟨[target], ?_⟩
      rw [Time.Timers.runTo.eq_def]
      simp only [due, dif_neg outside]
      rfl

/-- So does one that moves on until a condition holds. -/
theorem exists_settles_runUntil (holds : Service → Bool) (limit now : Duration) (s : Service)
    : ∃ instants,
        run surroundings ⟨s, waiting⟩ (settles instants)
          = ⟨((Service.timers surroundings).runUntil holds limit now s).2, waiting⟩ := by
  induction now, s using Time.Timers.runUntil.induct (Service.timers surroundings) holds limit with
  | case1 now s holding =>
      refine ⟨[], ?_⟩
      rw [Time.Timers.runUntil.eq_def, if_pos holding]
      rfl
  | case2 now s waits none =>
      refine ⟨[], ?_⟩
      rw [Time.Timers.runUntil.eq_def, if_neg waits]
      simp only [none]
      rfl
  | case3 now s waits deadline due between ih =>
      obtain ⟨instants, ran⟩ := ih
      refine ⟨deadline.wake :: instants, ?_⟩
      rw [Time.Timers.runUntil.eq_def, if_neg waits]
      simp only [due, dif_pos between]
      exact ran
  | case4 now s waits deadline due outside =>
      refine ⟨[], ?_⟩
      rw [Time.Timers.runUntil.eq_def, if_neg waits]
      simp only [due, dif_neg outside]
      rfl

end Clock

-----------------------------------------------------------------------------------------
-- Verbs that a client makes up
-----------------------------------------------------------------------------------------

def extensionVerb (n : Nat) : String :=
  "X" ++ Text.decimal n

/-- A request whose verb the client has made up. -/
def extensionPing (n : Nat) : Request :=
  ⟨extensionVerb n, "/api/ping", [], []⟩

/-- As many such requests as one likes, each with a verb of its own. -/
def extensionPings (count : Nat) : History :=
  (List.range count).map fun i => (.zero, .arrive (extensionPing (i + 1)))

theorem arrivals_extensionPings (count : Nat)
    : arrivals (extensionPings count) = (List.range count).map fun i => extensionPing (i + 1) := by
  simp [arrivals, extensionPings, TrafficEvent.request?, List.filterMap_map]

theorem isToken_extensionVerb (n : Nat)
    : Http.isToken (extensionVerb n) = true := by
  have digits : ∀ c ∈ Nat.toDigits 10 n, Http.isTokenChar c = true := by
    intro c member
    have digit := Nat.isDigit_of_mem_toDigits (by decide) (by decide) member
    simp [Http.isTokenChar, Char.isAlphanum, digit]
  have first : Http.isTokenChar 'X' = true := by decide
  simpa [Http.isToken, extensionVerb, Text.decimal, first] using digits

/-- No standard verb begins as these do. -/
theorem extensionVerb_not_mem (n : Nat)
    : extensionVerb n ∉ Http.standardVerbs := by
  have others : ∀ verb ∈ Http.standardVerbs, verb.toList.head? ≠ some 'X' := by decide
  intro member
  exact others _ member (by simp [extensionVerb])

theorem foreignName?_extensionPing (n : Nat)
    : foreignName? (extensionPing n) = some (extensionVerb n ++ " " ++ "/api/ping") := by
  have path : (extensionPing n).path = "/api/ping" := by
    simp only [Http.Request.path, extensionPing]
    decide
  have route : Http.Route.ofPath? "/api/ping" = some .ping := by decide
  have observed : observes (extensionPing n) = true := by
    rw [observes, path]
    decide
  have extension : (extensionPing n).verb ∉ Http.standardVerbs := extensionVerb_not_mem n
  have named : (extensionPing n).methodName? = some (extensionVerb n ++ " " ++ "/api/ping") := by
    rw [Http.Request.methodName?, path, route]
    rfl
  simp [foreignName?, observed, extension, named]

theorem extensionVerb_inj {m n : Nat} (same : extensionVerb m = extensionVerb n)
    : m = n := by
  have digits : Nat.toDigits 10 m = Nat.toDigits 10 n := by
    simpa [extensionVerb, Text.decimal, ← String.toList_inj] using same
  calc
    m = Nat.ofDigitChars 10 (Nat.toDigits 10 m) 0 := Nat.ofDigitChars_ten_toDigits.symm
    _ = Nat.ofDigitChars 10 (Nat.toDigits 10 n) 0 := by rw [digits]
    _ = n := Nat.ofDigitChars_ten_toDigits

/-- Each of them has a foreign name of its own. -/
theorem length_foreignNames_extensionPings (count : Nat)
    : (foreignNames (arrivals (extensionPings count))).dedup.length = count := by
  have names : foreignNames (arrivals (extensionPings count))
      = (List.range count).map fun i => extensionVerb (i + 1) ++ " " ++ "/api/ping" := by
    simp [arrivals_extensionPings, foreignNames, List.filterMap_map, foreignName?_extensionPing]
  have distinct : (foreignNames (arrivals (extensionPings count))).Nodup := by
    rw [names]
    refine List.nodup_range.map fun i j same => ?_
    have verbs := Http.token_inj (isToken_extensionVerb _) (isToken_extensionVerb _) same
    exact Nat.succ.inj (extensionVerb_inj verbs)
  rw [distinct.dedup, names, List.length_map, List.length_range]

theorem tokens_extensionPings (count : Nat)
    : ∀ r ∈ arrivals (extensionPings count), Http.isToken r.verb = true := by
  intro r member
  rw [arrivals_extensionPings] at member
  obtain ⟨i, -, rfl⟩ := List.mem_map.mp member
  exact isToken_extensionVerb (i + 1)

-----------------------------------------------------------------------------------------
-- The size of the collector
-----------------------------------------------------------------------------------------

/-- How many entries the collector has after some requests have arrived. -/
structure CardinalityLaw (arrived : List Request) (t : Traffic) : Prop where
  /-- Beyond the standard names the collector has the foreign ones, and no others. -/
  beyond : ∀ name, name ∉ standardNames → (name ∈ t.names ↔ name ∈ foreignNames arrived)
  /-- So it keeps to the standard names if and only if no request has a foreign one. -/
  within : (∀ name ∈ t.names, name ∈ standardNames) ↔ foreignNames arrived = []
  /-- There is an entry for every foreign name. -/
  atLeast : (foreignNames arrived).dedup.length ≤ t.names.length
  /-- There are at most fifty others. -/
  atMost : t.names.length ≤ 50 + (foreignNames arrived).dedup.length

theorem foreignNames_not_mem {arrived : List Request}
    (tokens : ∀ r ∈ arrived, Http.isToken r.verb = true)
    : ∀ name ∈ foreignNames arrived, name ∉ standardNames := by
  intro name member
  obtain ⟨r, arrives, foreign⟩ := List.mem_filterMap.mp member
  exact Service.foreignName?_not_mem (tokens r arrives) foreign

theorem Sound.cardinality {arrived : List Request} {t : Traffic} (sound : Sound arrived t)
    (tokens : ∀ r ∈ arrived, Http.isToken r.verb = true)
    : CardinalityLaw arrived t where
  beyond name other :=
    ⟨fun member => (sound.known name member).resolve_left other, sound.present name⟩
  within := by
    constructor
    · intro standard
      refine List.eq_nil_iff_forall_not_mem.mpr fun name foreign => ?_
      exact foreignNames_not_mem tokens name foreign (standard name (sound.present name foreign))
    · intro none name member
      exact (sound.known name member).resolve_right (by simp [none])
  atLeast := by
    refine (List.nodup_dedup _).length_le_of_subset fun name foreign => ?_
    exact sound.present name (List.mem_dedup.mp foreign)
  atMost := by
    rw [← Service.length_standardNames, ← List.length_append]
    refine t.service.observatory.nodup_names.length_le_of_subset fun name member => ?_
    exact List.mem_append.mpr ((sound.known name member).imp_right List.mem_dedup.mpr)

/-- No number bounds the entries of a collector whose windows can be made: a client can make up
as many verbs as it likes.
-/
theorem unbounded (surroundings : Load.Surroundings) {config : Config}
    (fits : (opening config).service.observatory.Fits) (count : Nat)
    : count ≤ ((opening config).run surroundings (extensionPings count)).names.length := by
  have tokens := tokens_extensionPings count
  have sound := (sound_opening fits).run surroundings (extensionPings count) tokens
  calc
    count = (foreignNames (arrivals (extensionPings count))).dedup.length :=
      (length_foreignNames_extensionPings count).symm
    _ ≤ _ := (sound.cardinality tokens).atLeast

/-- The collector of a service at work: for every history of requests with any verbs, load runs
and reports, its entries are the foreign names of the requests with at most fifty others. Where
its windows cannot be made it has none.
-/
theorem cardinalityLaw (surroundings : Load.Surroundings) (config : Config) (history : History)
    (tokens : ∀ r ∈ arrivals history, Http.isToken r.verb = true)
    : let last := (opening config).run surroundings history
      ((opening config).service.observatory.Fits → CardinalityLaw (arrivals history) last)
      ∧ (¬ (opening config).service.observatory.Fits → last.names = []) := by
  constructor
  · exact fun fits => ((sound_opening fits).run surroundings history tokens).cardinality tokens
  · intro unfit
    rw [names, Observatory.names, collector_run_of_refused surroundings unfit]
    rfl

/-- Fifty-one verbs that a client has made up bring the collector beyond fifty entries. -/
theorem cardinalityLaw_extensionPings
    : (∀ r ∈ arrivals (extensionPings 51), Http.isToken r.verb = true)
      ∧ CardinalityLaw (arrivals (extensionPings 51))
          ((opening default).run default (extensionPings 51))
      ∧ 50 < ((opening default).run default (extensionPings 51)).names.length := by
  have tokens := tokens_extensionPings 51
  have law := (cardinalityLaw default default (extensionPings 51) tokens).1 (by decide)
  refine ⟨tokens, law, ?_⟩
  calc
    50 < (foreignNames (arrivals (extensionPings 51))).dedup.length := by
      rw [length_foreignNames_extensionPings]
      decide
    _ ≤ _ := law.atLeast

end Traffic

end CallWatch

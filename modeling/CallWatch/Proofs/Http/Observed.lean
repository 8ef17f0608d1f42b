import CallWatch.Http.MediaType
import CallWatch.Load.Script
import CallWatch.Proofs.Collector.Name
import CallWatch.Service.Exchange

/-! The names under which requests are observed.
A request that has a route is named by its verb and the pattern of the route. The patterns are
those of the source, but the verb is the client's: any token will do, and a verb that no route
takes is observed as well.
-/

namespace CallWatch

-----------------------------------------------------------------------------------------
-- Verbs
-----------------------------------------------------------------------------------------

namespace Http

/-- A text is a token. -/
def isToken (text : String) : Bool :=
  text ≠ "" && text.toList.all isTokenChar

/-- The verbs of the standard; all others are extensions. -/
def standardVerbs : List String :=
  ["GET", "POST", "PUT", "DELETE", "HEAD", "OPTIONS", "CONNECT", "PATCH", "TRACE"]

theorem isToken_of_standard
    : ∀ verb ∈ standardVerbs, isToken verb = true := by
  decide

/-- No character of a token is blank: letters and digits lie between the blank characters, and
the signs are looked at one by one.
-/
theorem isBlank_of_isTokenChar {c : Char} (token : isTokenChar c = true)
    : Text.isBlank c = false := by
  simp only [isTokenChar, Bool.or_eq_true, List.contains_iff_mem] at token
  rcases token with letter | sign
  · have between : 48 ≤ c.toNat ∧ c.toNat ≤ 122 := by
      delta Char.isAlphanum Char.isAlpha Char.isUpper Char.isLower Char.isDigit at letter
      simp only [Char.reduceVal, ge_iff_le, UInt32.le_iff_toNat_le, UInt32.reduceToNat,
        Char.toNat_val, Bool.decide_and, Bool.or_eq_true, Bool.and_eq_true,
        decide_eq_true_eq] at letter
      omega
    simp only [Text.isBlank, Bool.or_eq_false_iff, Bool.and_eq_false_iff,
      decide_eq_false_iff_not]
    omega
  · have visible := List.all_eq_true.mp
      (show (List.all _ (!Text.isBlank ·)) = true by decide) c sign
    simpa using visible

variable {verb other : String}

theorem visible_of_isToken (token : isToken verb = true)
    : ∀ c ∈ verb.toList, Text.isBlank c = false := by
  simp only [isToken, Bool.and_eq_true, List.all_eq_true] at token
  exact fun c member => isBlank_of_isTokenChar (token.2 c member)

theorem toList_ne_nil_of_isToken (token : isToken verb = true)
    : verb.toList ≠ [] := by
  rintro empty
  simp [isToken, String.toList_eq_nil_iff.mp empty] at token

/-- A token in front of a space is told by what stands before the first space. -/
theorem takeWhile_token (token : isToken verb = true) (pattern : String)
    : (verb ++ " " ++ pattern).toList.takeWhile (· ≠ ' ') = verb.toList := by
  have within : ∀ c ∈ verb.toList, decide (c ≠ ' ') = true := by
    intro c member
    rw [decide_eq_true_iff]
    rintro rfl
    exact absurd (visible_of_isToken token _ member) (by decide)
  rw [String.toList_append, String.toList_append, List.append_assoc,
    List.takeWhile_append_of_pos within]
  simp

/-- So two names with a token in front have the same one if they are the same. -/
theorem token_inj {pattern second : String} (token : isToken verb = true)
    (otherToken : isToken other = true)
    (same : verb ++ " " ++ pattern = other ++ " " ++ second)
    : verb = other := by
  rw [← String.toList_inj, ← takeWhile_token token pattern, same, takeWhile_token otherToken]

-----------------------------------------------------------------------------------------
-- Routes
-----------------------------------------------------------------------------------------

/-- There is at least one piece. -/
theorem pieces_ne_nil (mark : Char) (cs : List Char)
    : Text.pieces mark cs ≠ [] := by
  cases cs with
  | nil => simp [Text.pieces]
  | cons c rest =>
      rw [Text.pieces]
      repeat' split
      all_goals simp

/-- A list is its pieces with the mark between them, by induction on the list. -/
theorem intercalate_pieces (mark : Char) (cs : List Char)
    : [mark].intercalate (Text.pieces mark cs) = cs := by
  induction cs with
  | nil => rfl
  | cons c rest ih =>
      obtain ⟨piece, more, split⟩ := List.exists_cons_of_ne_nil (pieces_ne_nil mark rest)
      rw [split] at ih
      by_cases marked : c = mark
      · simp [Text.pieces, marked, split, List.intercalate_cons_cons, ih]
      · simp [Text.pieces, marked, split, ih]

/-- The patterns of the routes whose requests are observed. -/
def observedPatterns : List String :=
  ["/api/ping", "/api/products/:id", "/api/load/start", "/api/load/stop", "/api/load/status"]

/-- A path is its segments with slashes between them. -/
theorem toList_path (path : String)
    : path.toList
      = ['/'].intercalate (((Route.segments path).map String.ofList).map String.toList) := by
  simp [Route.segments, intercalate_pieces]

/-- A request that has a route and is observed has one of their patterns: the path of every
other route is left out.
-/
theorem pattern_mem_of_observed {path : String} {route : Route}
    (found : Route.ofPath? path = some route) (observed : Route.unobserved path = false)
    : route.pattern ∈ observedPatterns := by
  have whole := toList_path path
  unfold Route.ofPath? at found
  split at found
  case h_2 segment _ =>
    split at found
    · cases found
    · cases found
      simp [Route.pattern, observedPatterns]
  case h_6 segments =>
    rw [Route.unobserved, whole, segments] at observed
    exact absurd observed (by decide)
  case h_7 segments =>
    rw [Route.unobserved, whole, segments] at observed
    exact absurd observed (by decide)
  all_goals cases found <;> decide

/-- The paths of the routes to the metrics. -/
def metricsPaths : List String :=
  ["/api/metrics", "/api/metrics/stream"]

/-- A path is left out although no metrics are there: it only starts as theirs do. -/
def isStray (path : String) : Bool :=
  Route.unobserved path && !metricsPaths.contains path

/-- The paths that are left out are those of the metrics and the stray ones. -/
theorem unobserved_iff {path : String}
    : Route.unobserved path = true ↔ path ∈ metricsPaths ∨ isStray path = true := by
  have metrics : ∀ path ∈ metricsPaths, Route.unobserved path = true := by decide
  simp only [isStray, Bool.and_eq_true, Bool.not_eq_true', ← Bool.not_eq_true,
    List.contains_iff_mem]
  refine ⟨fun unobserved => ?_, ?_⟩
  · by_cases member : path ∈ metricsPaths
    · exact .inl member
    · exact .inr ⟨unobserved, member⟩
  · rintro (member | ⟨unobserved, -⟩)
    · exact metrics path member
    · exact unobserved

/-- A product has a path that is not left out. -/
theorem unobserved_products (segment : List Char)
    : Route.unobservedStart.isPrefixOf
        (['/'].intercalate [[], "api".toList, "products".toList, segment])
      = false := by
  rfl

/-- A route whose path is left out is one to the metrics, so a stray path has no route. -/
theorem ofPath?_of_isStray {path : String} (stray : isStray path = true)
    : Route.ofPath? path = none := by
  have whole := toList_path path
  simp only [isStray, Bool.and_eq_true, Bool.not_eq_true', ← Bool.not_eq_true,
    List.contains_iff_mem] at stray
  obtain ⟨unobserved, elsewhere⟩ := stray
  rw [Route.unobserved, whole] at unobserved
  unfold Route.ofPath?
  split
  case h_2 segment segments =>
    rw [segments] at unobserved
    exact absurd unobserved (Bool.eq_false_iff.mp (unobserved_products segment.toList))
  case h_6 segments | h_7 segments =>
    refine absurd ?_ elsewhere
    rw [← String.ofList_toList (s := path), whole, segments]
    decide
  case h_8 => rfl
  all_goals
    next segments =>
    rw [segments] at unobserved
    exact absurd unobserved (by decide)

/-- The name of a request with a route is counted as it is: it has no blank at its ends. -/
theorem normalizeMethod_routed (token : isToken verb = true) (route : Route)
    : normalizeMethod (verb ++ " " ++ route.pattern) = verb ++ " " ++ route.pattern := by
  have visible := visible_of_isToken token
  obtain ⟨c, rest, chars⟩ := List.exists_cons_of_ne_nil (toList_ne_nil_of_isToken token)
  have pattern : Text.dropBlankEnd (' ' :: route.pattern.toList) = ' ' :: route.pattern.toList := by
    cases route <;> simp only [Route.pattern] <;> decide
  have opened
      : (verb.toList ++ ' ' :: route.pattern.toList).dropWhile Text.isBlank
        = verb.toList ++ ' ' :: route.pattern.toList := by
    rw [chars] at visible ⊢
    exact List.dropWhile_cons_of_neg (by simp [visible c (.head _)])
  have trimmed : Text.trim (verb ++ " " ++ route.pattern) = verb ++ " " ++ route.pattern := by
    rw [← String.toList_inj, Text.trim, String.toList_ofList, Text.trimBlank]
    simp only [String.toList_append, List.append_assoc, String.reduceToList, List.singleton_append]
    rw [opened, Text.dropBlankEnd_append visible, pattern]
  have nonempty : verb ++ " " ++ route.pattern ≠ "" := by
    simp [← String.toList_inj, chars]
  rw [normalizeMethod, trimmed, if_neg nonempty]

/-- Whatever the verb, the name of a request with a route ends in the pattern of the route. -/
theorem pattern_suffix_normalizeMethod (verb : String) (route : Route)
    : route.pattern.toList <:+ (normalizeMethod (verb ++ " " ++ route.pattern)).toList := by
  have visible : route.pattern.toList ≠ []
      ∧ route.pattern.toList.dropWhile Text.isBlank = route.pattern.toList
      ∧ Text.dropBlankEnd route.pattern.toList = route.pattern.toList := by
    cases route <;> simp only [Route.pattern] <;> decide
  obtain ⟨nonempty, opened, closed⟩ := visible
  have ends : route.pattern.toList <:+ (Text.trim (verb ++ " " ++ route.pattern)).toList := by
    rw [Text.trim, String.toList_ofList, String.toList_append]
    exact Text.suffix_trimBlank nonempty opened closed _
  rw [normalizeMethod]
  split
  · next blank =>
    rw [blank] at ends
    exact absurd (List.suffix_nil.mp ends) nonempty
  · exact ends

end Http

-----------------------------------------------------------------------------------------
-- Names
-----------------------------------------------------------------------------------------

namespace Service
open Http

/-- The names that are known beforehand: of the requests without a route, of the calls of load
runs, and of the requests whose verb is standard.
-/
def standardNames : List String :=
  unknownMethod :: Load.methods
    ++ standardVerbs.flatMap fun verb => observedPatterns.map fun pattern =>
        verb ++ " " ++ pattern

theorem length_standardNames
    : standardNames.length = 50 := by
  decide

/-- The name of a request that is observed on a route with a verb that is not standard. -/
def foreignName? (r : Request) : Option String :=
  if observes r && !standardVerbs.contains r.verb then r.methodName? else none

variable {r : Request} {name : String}

theorem foreignName?_of_standard (standard : r.verb ∈ standardVerbs)
    : foreignName? r = none := by
  simp [foreignName?, standard]

/-- A request without a route is observed under the name of the nameless. -/
theorem name_unrouted (unrouted : Route.ofPath? r.path = none)
    : (observedCall r).name = unknownMethod := by
  simp only [Call.name, observedCall, Request.methodName?, unrouted, Option.map_none]
  decide

/-- The name of an observed request is a standard one or its foreign one. -/
theorem name_observed (token : isToken r.verb = true) (observed : observes r = true)
    : (observedCall r).name ∈ standardNames ∨ foreignName? r = some (observedCall r).name := by
  cases found : Route.ofPath? r.path with
  | none =>
      simp [name_unrouted found, standardNames]
  | some route =>
      have routed : r.methodName? = some (r.verb ++ " " ++ route.pattern) := by
        rw [Request.methodName?, found, Option.map_some]
      have named : (observedCall r).name = r.verb ++ " " ++ route.pattern := by
        simp only [Call.name, observedCall, routed, Option.getD_some]
        exact normalizeMethod_routed token route
      by_cases standard : r.verb ∈ standardVerbs
      · left
        have pattern := pattern_mem_of_observed found (by simpa [observes] using observed)
        rw [named]
        exact List.mem_append_right _ (List.mem_flatMap.mpr
          ⟨r.verb, standard, List.mem_map.mpr ⟨route.pattern, pattern, rfl⟩⟩)
      · right
        simp [foreignName?, observed, standard, routed, named]

/-- No request is observed under a name of the script of load runs: those do not end in the
pattern of a route.
-/
theorem name_not_mem_methods (observed : observes r = true)
    : (observedCall r).name ∉ Load.methods := by
  cases found : Route.ofPath? r.path with
  | none =>
      rw [name_unrouted found]
      decide
  | some route =>
      have pattern := pattern_mem_of_observed found (by simpa [observes] using observed)
      have ends := pattern_suffix_normalizeMethod r.verb route
      have apart : ∀ pattern ∈ observedPatterns, ∀ name ∈ Load.methods,
          ¬ pattern.toList <:+ name.toList := by
        decide
      intro member
      simp only [Call.name, observedCall, Request.methodName?, found, Option.map_some,
        Option.getD_some] at member
      exact apart _ pattern _ member ends

/-- A foreign name is made of the verb of its request, which is not standard, and the pattern
of a route.
-/
theorem cases_of_foreignName? (foreign : foreignName? r = some name)
    : observes r = true ∧ r.verb ∉ standardVerbs ∧ r.methodName? = some name
      ∧ ∃ route : Route, name = r.verb ++ " " ++ route.pattern := by
  simp only [foreignName?] at foreign
  split at foreign
  · next conditions =>
    simp only [Bool.and_eq_true, Bool.not_eq_true', List.contains_iff_mem,
      ← Bool.not_eq_true] at conditions
    obtain ⟨route, -, same⟩ := Option.map_eq_some_iff.mp foreign
    exact ⟨conditions.1, conditions.2, foreign, route, same.symm⟩
  · cases foreign

/-- It is the name under which its request is observed. -/
theorem name_of_foreignName? (token : isToken r.verb = true)
    (foreign : foreignName? r = some name)
    : (observedCall r).name = name := by
  obtain ⟨-, -, named, route, rfl⟩ := cases_of_foreignName? foreign
  simp only [Call.name, observedCall, named, Option.getD_some]
  exact normalizeMethod_routed token route

/-- It is none of the standard names: those have no space, or a standard verb in front of the
first one.
-/
theorem foreignName?_not_mem (token : isToken r.verb = true)
    (foreign : foreignName? r = some name)
    : name ∉ standardNames := by
  obtain ⟨-, extension, -, route, rfl⟩ := cases_of_foreignName? foreign
  have spaced : ' ' ∈ (r.verb ++ " " ++ route.pattern).toList := by simp
  intro member
  rcases List.mem_append.mp member with unspaced | standard
  · have none : ∀ name ∈ unknownMethod :: Load.methods, ' ' ∉ name.toList := by decide
    exact none _ unspaced spaced
  · obtain ⟨verb, known, routed⟩ := List.mem_flatMap.mp standard
    obtain ⟨pattern, -, same⟩ := List.mem_map.mp routed
    exact extension (token_inj (isToken_of_standard verb known) token same ▸ known)

end Service

end CallWatch

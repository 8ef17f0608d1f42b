import CallWatch.Http.Headers

/-! Requests and the path of their target.
-/

namespace CallWatch.Http

/-- A request. Its verb may be any token, in the case in which it came. -/
structure Request where
  verb : String
  target : String
  headers : Headers
  body : List UInt8

/-- The start of a target up to its query or fragment. -/
def beforeQuery (target : List Char) : List Char :=
  target.takeWhile fun c => c ≠ '?' && c ≠ '#'

/-- What follows the mark between a scheme and an authority, if a target has one. -/
def afterScheme? : List Char → Option (List Char)
  | ':' :: '/' :: '/' :: rest => some rest
  | _ :: rest => afterScheme? rest
  | [] => none

/-- The path of a target. A target that starts with a slash or is a star is its own path; in
one with a scheme the path follows the authority; an authority alone has none.
-/
def pathOf (target : List Char) : List Char :=
  match target with
  | '/' :: _ => beforeQuery target
  | '*' :: _ => beforeQuery target
  | _ =>
    match afterScheme? (beforeQuery target) with
    | some rest =>
      match rest.dropWhile (· ≠ '/') with
      | [] => ['/']
      | path => path
    | none => []

def Request.path (r : Request) : String :=
  String.ofList (pathOf r.target.toList)

end CallWatch.Http

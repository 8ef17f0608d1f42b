import CallWatch.Http.ServiceError
import CallWatch.Random.Uniform
import CallWatch.Text.Integer

/-! The demo catalogue: five hundred products, each drawn from the stream seeded with its
number.
-/

namespace CallWatch

/-- A product; its price is in cents. -/
structure Product where
  id : String
  title : String
  price : Nat
  stock : Nat
  category : String
  deriving DecidableEq, Repr, Inhabited

namespace Catalogue

def size : Nat := 500

def adjectives : List String :=
  ["Premium", "Ultra", "Wireless", "Smart", "Compact", "Ergonomic", "Portable", "Digital",
    "Classic", "Modern"]

def nouns : List String :=
  ["Keyboard", "Mouse", "Monitor", "Headphones", "Speaker", "Camera", "Tablet", "Charger",
    "Router", "Dock"]

def categories : List String :=
  ["electronics", "accessories", "audio", "office", "gaming"]

def pick (words : List String) (s : Random.Stream) : String × Random.Stream :=
  let (i, s) := Random.below .long words.length s
  (words.getD i "", s)

def idMark : List Char := ['p', 'r', 'o', 'd', '_']

/-- The id of a product: the mark and at least four digits. -/
def idOf (n : Nat) : String :=
  String.ofList (idMark ++ Text.padded 4 n)

def product (n : Nat) : Product :=
  let adjective := pick adjectives (Random.Stream.ofSeed n)
  let noun := pick nouns adjective.2
  let price := Random.below .long 99001 noun.2
  let stock := Random.below .short 1001 price.2
  let category := pick categories stock.2
  ⟨idOf n, adjective.1 ++ " " ++ noun.1, 999 + price.1, stock.1, category.1⟩

/-- Drops every copy of the mark at the start of an id. -/
def dropMarks (id : List Char) : List Char :=
  match id with
  | 'p' :: 'r' :: 'o' :: 'd' :: '_' :: rest => dropMarks rest
  | _ => id

/-- Looks up a product: any number of marks, then a number with an optional plus sign that
fits a 32-bit word. A number outside the catalogue is not found, all else is a bad id.
-/
def lookup (id : String) : Except Http.ServiceError Product :=
  match Text.readNatural (greatestWord 32) (dropMarks id.toList) with
  | .error _ => .error (.badRequest ("invalid product id '" ++ id ++ "'"))
  | .ok n =>
    if n = 0 ∨ size < n then .error (.notFound ("product '" ++ id ++ "' not found"))
    else .ok (product n)

end Catalogue

def Product.json (p : Product) : Json :=
  .object
    [ ("id", .text p.id),
      ("title", .text p.title),
      ("price", .natural p.price),
      ("stock", .natural p.stock),
      ("category", .text p.category) ]

end CallWatch

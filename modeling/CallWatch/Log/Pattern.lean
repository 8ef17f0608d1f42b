import CallWatch.Text.Blank
import CallWatch.Text.Hexadecimal
import CallWatch.Text.Letter

/-! The form of the patterns with which a filter compares the values of fields.
A pattern is a regular expression with groups, alternatives, repetitions, classes and flags.
It goes by no tables of Unicode: the shorthands for digits, blanks and words and the borders
of words need the ASCII mode of the flag `u`, and letters of either case are the same in that
mode only. In the ASCII mode no part of a pattern may stand for a byte above the ASCII codes.
A counted repetition has no place in a filter, where a closing brace ends the field.
-/

namespace CallWatch.Log.Pattern

-----------------------------------------------------------------------------------------
-- Modes and blanks
-----------------------------------------------------------------------------------------

/-- How the rest of a group is read, as its flags say. -/
structure Mode where
  /-- Letters of either case are the same. -/
  foldsCase : Bool := false
  /-- Characters are those of Unicode, and not bytes of ASCII. -/
  unicode : Bool := true
  /-- Blanks and remarks between the parts are passed over. -/
  spaced : Bool := false
  deriving DecidableEq, Repr

/-- Drops blanks and remarks; a remark runs from a number sign to the end of its line. -/
def dropRemarks (inRemark : Bool) : List Char → List Char
  | [] => []
  | c :: rest =>
    if inRemark then dropRemarks (c ≠ '\n') rest
    else if Text.isBlank c then dropRemarks false rest
    else if c = '#' then dropRemarks true rest
    else c :: rest

/-- Passes over what a mode passes over between two parts. -/
def Mode.skip (m : Mode) (s : List Char) : List Char :=
  if m.spaced then dropRemarks false s else s

/-- The flag of a letter is set or cleared; the other known flags do not change what a
pattern may hold.
-/
def Mode.set? (m : Mode) (on : Bool) (flag : Char) : Option Mode :=
  if flag = 'i' then some { m with foldsCase := on }
  else if flag = 'u' then some { m with unicode := on }
  else if flag = 'x' then some { m with spaced := on }
  else if "msRU".toList.contains flag then some m
  else none

-----------------------------------------------------------------------------------------
-- Atoms
-----------------------------------------------------------------------------------------

/-- The smallest parts of a pattern. -/
inductive Atom where
  /-- A code point, or a byte that is written as such. -/
  | literal (code : Nat) (isByte : Bool)
  /-- Any character but a newline. -/
  | dot
  /-- The start or the end of a text or of a line. -/
  | edge
  /-- The border of a word. -/
  | wordEdge
  /-- A digit, a blank or a character of a word, or any other character. -/
  | shorthand (negated : Bool)
  deriving DecidableEq, Repr

def Atom.isAllowed (m : Mode) : Atom → Bool
  | .literal code isByte => if m.unicode then !m.foldsCase else !isByte || code ≤ 0x7F
  | .dot => m.unicode
  | .edge => true
  | .wordEdge => !m.unicode
  | .shorthand negated => !m.unicode && !negated

def Atom.isMember (m : Mode) : Atom → Bool
  | .literal code _ => if m.unicode then !m.foldsCase else code ≤ 0x7F
  | .shorthand negated => !m.unicode && !negated
  | _ => false

/-- Reads so many hexadecimal digits of a code point, continuing from `value`. -/
def readCode? (m : Mode) : Nat → Nat → List Char → Option (Nat × List Char)
  | 0, value, s => if value.isValidChar then some (value, s) else none
  | count + 1, value, s =>
    match m.skip s with
    | [] => none
    | c :: rest =>
      (Text.hexValue? c.toNat).bind fun digit => readCode? m count (value * 16 + digit) rest

/-- The code of a control character with a letter of its own. -/
def controlCode? (c : Char) : Option Nat :=
  if c = 'a' then some 0x07
  else if c = 't' then some 0x09
  else if c = 'n' then some 0x0A
  else if c = 'v' then some 0x0B
  else if c = 'f' then some 0x0C
  else if c = 'r' then some 0x0D
  else none

/-- Reads an escape after its backslash. A sign of ASCII stands for itself; of the letters
only some have a meaning, and digits have none.
-/
def readEscape? (m : Mode) : List Char → Option (Atom × List Char)
  | [] => none
  | c :: rest =>
    if c = 'x' then (readCode? m 2 0 rest).map fun (code, rest) => (.literal code true, rest)
    else if c = 'u' then
      (readCode? m 4 0 rest).map fun (code, rest) => (.literal code false, rest)
    else if c = 'U' then
      (readCode? m 8 0 rest).map fun (code, rest) => (.literal code false, rest)
    else if "dsw".toList.contains c then some (.shorthand false, rest)
    else if "DSW".toList.contains c then some (.shorthand true, rest)
    else if c = 'A' || c = 'z' then some (.edge, rest)
    else if "bB<>".toList.contains c then some (.wordEdge, rest)
    else
      match controlCode? c with
      | some code => some (.literal code false, rest)
      | none =>
        if c.toNat ≤ 0x7F && !c.isAlphanum then some (.literal c.toNat false, rest) else none

/-- Reads a member of a class: an escape or a character that stands for itself. -/
def readMember? (m : Mode) : List Char → Option (Atom × List Char)
  | [] => none
  | '\\' :: rest => readEscape? m rest
  | c :: rest => some (.literal c.toNat false, rest)

-----------------------------------------------------------------------------------------
-- Height
-----------------------------------------------------------------------------------------

/-- The greatest height of a pattern, which is the number of groups, repetitions, classes,
sequences and alternatives around its innermost part.
-/
def greatestHeight : Nat := 250

/-- The heights of the parts of a sequence: of the last part, and the greatest of the
others.
-/
structure Sequence where
  count : Nat := 0
  others : Nat := 0
  last : Nat := 0
  deriving DecidableEq, Repr

def Sequence.push (s : Sequence) (height : Nat) : Sequence :=
  ⟨s.count + 1, max s.others s.last, height⟩

/-- A sequence whose last part is repeated. -/
def Sequence.repeatLast (s : Sequence) : Sequence :=
  { s with last := s.last + 1 }

/-- The height of a sequence; a single part stands for itself. -/
def Sequence.height (s : Sequence) : Nat :=
  if s.count ≤ 1 then s.last else max s.others s.last + 1

-----------------------------------------------------------------------------------------
-- Classes
-----------------------------------------------------------------------------------------

/-- A class that is being read: the height of what stands before its last operator, and the
members after it.
-/
structure Class where
  operand : Option Nat := none
  members : Sequence := {}
  deriving DecidableEq, Repr

def Class.height (k : Class) : Nat :=
  match k.operand with
  | some height => max height k.members.height + 1
  | none => k.members.height

def Class.push (k : Class) (height : Nat) : Class :=
  { k with members := k.members.push height }

def namedClasses : List String :=
  [ "alnum", "alpha", "ascii", "blank", "cntrl", "digit", "graph", "lower", "print", "punct",
    "space", "upper", "word", "xdigit" ]

/-- Reads a named class after its opening bracket, and tells whether it is negated. -/
def readNamed? : List Char → Option (Bool × List Char)
  | ':' :: s =>
    let negated := s.head? = some '^'
    let s := if negated then s.tail else s
    let name := s.takeWhile (· ≠ ':')
    match s.drop name.length with
    | ':' :: ']' :: rest =>
      if namedClasses.contains (String.ofList name) then some (negated, rest) else none
    | _ => none
  | _ => none

/-- Reads the hyphens at the start of a class, each of which stands for itself. -/
def readHyphens (m : Mode) (k : Class) : List Char → Class × List Char
  | [] => (k, [])
  | c :: rest =>
    if c = '-' then readHyphens m (k.push 0) rest
    else if m.spaced && Text.isBlank c then readHyphens m k rest
    else (k, m.skip (c :: rest))

/-- Reads the start of a class after its opening bracket. Only without the ASCII mode may it
be negated; a closing bracket that comes first stands for itself.
-/
def openClass? (m : Mode) (s : List Char) : Option (Class × List Char) :=
  let s := m.skip s
  let negated := s.head? = some '^'
  if negated && !m.unicode then none
  else
    let (k, s) := readHyphens m {} (m.skip (if negated then s.tail else s))
    match s with
    | [] => none
    | c :: rest =>
      if c = ']' && k.members.count = 0 then some (k.push 0, rest) else some (k, c :: rest)

/-- Reads a member of a class or a range of members, from a literal to a literal that does
not come before it.
-/
def readRange? (m : Mode) (s : List Char) : Option (List Char) := do
  let (first, s) ← readMember? m s
  if !first.isMember m then none
  match m.skip s with
  | [] => none
  | '-' :: rest =>
    match m.skip rest with
    | [] => none
    | c :: _ =>
      if c = ']' || c = '-' then return '-' :: rest
      else
        let (last, s) ← readMember? m (m.skip rest)
        match first, last with
        | .literal least _, .literal greatest _ =>
          if last.isMember m && least ≤ greatest then return s else none
        | _, _ => none
  | s => return s

/-- Reads a class to its closing bracket, with the classes in it, and gives its height. Every
step takes a character, so the number of characters and one are fuel enough.
-/
def readClass? (m : Mode)
    : Nat → Class → List Class → List Char → Option (Nat × List Char)
  | 0, _, _, _ => none
  | fuel + 1, k, outer, s =>
    match m.skip s with
    | [] => none
    | '[' :: rest =>
      match readNamed? rest with
      | some (negated, rest) =>
        if negated && !m.unicode then none else readClass? m fuel (k.push 0) outer rest
      | none =>
        (openClass? m rest).bind fun (inner, rest) =>
          readClass? m fuel inner (k :: outer) rest
    | ']' :: rest =>
      match outer with
      | [] => some (k.height + 1, rest)
      | o :: outer => readClass? m fuel (o.push (k.height + 1)) outer rest
    | '&' :: '&' :: rest => readClass? m fuel ⟨some k.height, {}⟩ outer rest
    | '-' :: '-' :: rest => readClass? m fuel ⟨some k.height, {}⟩ outer rest
    | '~' :: '~' :: rest => readClass? m fuel ⟨some k.height, {}⟩ outer rest
    | s => (readRange? m s).bind fun rest => readClass? m fuel (k.push 0) outer rest

-----------------------------------------------------------------------------------------
-- Groups
-----------------------------------------------------------------------------------------

/-- Reads flags up to the colon or the closing parenthesis that ends them, which is part of
the result. No flag and no minus sign is given twice, and a minus sign is not the last.
-/
def readFlags? (m : Mode) (on : Bool) (seen : List Char)
    : List Char → Option (Mode × List Char × Char × List Char)
  | [] => none
  | c :: rest =>
    if c = ':' || c = ')' then
      if seen.head? = some '-' then none else some (m, seen, c, rest)
    else if seen.contains c then none
    else if c = '-' then readFlags? m false ('-' :: seen) rest
    else (m.set? on c).bind fun m => readFlags? m on (c :: seen) rest

/-- The name of a group: a letter or a low line, then letters, numbers and a few signs. -/
def isGroupName : List Char → Bool
  | [] => false
  | c :: rest =>
    (c = '_' || Text.isLetter c)
      && rest.all fun c => "_.[]".toList.contains c || Text.isLetterOrNumber c

/-- What an opening parenthesis leads to. -/
inductive Opening where
  /-- A group with a mode and perhaps a name. -/
  | group (mode : Mode) (name : Option (List Char))
  /-- No group, but flags for the rest of the group around it. -/
  | flags (mode : Mode)

/-- Reads the name of a group, which ends with an angle bracket. -/
def openNamed? (m : Mode) (names : List (List Char)) (s : List Char)
    : Option (Opening × List Char) :=
  let name := s.takeWhile (· ≠ '>')
  match s.drop name.length with
  | [] => none
  | _ :: rest =>
    if isGroupName name && !names.contains name then some (.group m (some name), rest)
    else none

def open? (m : Mode) (names : List (List Char)) (s : List Char)
    : Option (Opening × List Char) :=
  match m.skip s with
  | '?' :: 'P' :: '<' :: s => openNamed? m names s
  | '?' :: '<' :: s => openNamed? m names s
  | '?' :: s =>
    match readFlags? m true [] s with
    | none => none
    | some (mode, seen, ending, rest) =>
      if ending = ':' then some (.group mode none, rest)
      else if seen.isEmpty then none
      else some (.flags mode, rest)
  | s => some (.group m none, s)

/-- A group that is being read: its mode, the greatest height of its finished alternatives,
and the sequence after them. The last part of the sequence can be repeated or not.
-/
structure Group where
  mode : Mode := {}
  finished : Option Nat := none
  sequence : Sequence := {}
  repeatable : Bool := false
  deriving DecidableEq, Repr

namespace Group

def tallest (g : Group) : Nat :=
  match g.finished with
  | some height => max height g.sequence.height
  | none => g.sequence.height

def height (g : Group) : Nat :=
  if g.finished.isSome then g.tallest + 1 else g.tallest

/-- A group with one part more, which can be repeated. -/
def push (g : Group) (height : Nat) : Group :=
  { g with sequence := g.sequence.push height, repeatable := true }

/-- A group with other flags from here on. -/
def withMode (g : Group) (mode : Mode) : Group :=
  { g with mode, sequence := g.sequence.push 0, repeatable := false }

/-- A group at the start of its next alternative. -/
def branch (g : Group) : Group :=
  { g with finished := some g.tallest, sequence := {}, repeatable := false }

end Group

-----------------------------------------------------------------------------------------
-- Patterns
-----------------------------------------------------------------------------------------

def readAtom? (m : Mode) : List Char → Option (Atom × List Char)
  | [] => none
  | '\\' :: rest => readEscape? m rest
  | '.' :: rest => some (.dot, rest)
  | '^' :: rest => some (.edge, rest)
  | '$' :: rest => some (.edge, rest)
  | c :: rest => some (.literal c.toNat false, rest)

/-- The rest of a pattern is well formed, within a group and the groups around it; `names`
are the names of groups so far. Every step takes a character, so the number of characters
and one are fuel enough.
-/
def isWellFormed : Nat → List (List Char) → Group → List Group → List Char → Bool
  | 0, _, _, _, _ => false
  | fuel + 1, names, g, outer, s =>
    match g.mode.skip s with
    | [] => outer.isEmpty && g.height ≤ greatestHeight
    | '(' :: rest =>
      match open? g.mode names rest with
      | none => false
      | some (.flags mode, rest) => isWellFormed fuel names (g.withMode mode) outer rest
      | some (.group mode name, rest) =>
        isWellFormed fuel (name.toList ++ names) { mode := mode } (g :: outer) rest
    | ')' :: rest =>
      match outer with
      | [] => false
      | o :: outer => isWellFormed fuel names (o.push (g.height + 1)) outer rest
    | '|' :: rest => isWellFormed fuel names g.branch outer rest
    | '[' :: rest =>
      if g.mode.unicode && g.mode.foldsCase then false
      else
        match (openClass? g.mode rest).bind fun (k, rest) =>
          readClass? g.mode (rest.length + 1) k [] rest with
        | none => false
        | some (height, rest) => isWellFormed fuel names (g.push height) outer rest
    | '\x7b' :: _ => false
    | c :: rest =>
      if c = '?' || c = '*' || c = '+' then
        g.repeatable
          && isWellFormed fuel names { g with sequence := g.sequence.repeatLast } outer rest
      else
        match readAtom? g.mode (c :: rest) with
        | none => false
        | some (atom, rest) =>
          atom.isAllowed g.mode && isWellFormed fuel names (g.push 0) outer rest

end Pattern

def isPattern (s : List Char) : Bool :=
  Pattern.isWellFormed (s.length + 1) [] {} [] s

end CallWatch.Log

import DocumentDb.Pattern.Expr

/-!
# Reading patterns

The written form of regular expressions: literals, escapes, classes in brackets with set operations,
groups with flags, alternatives, repetitions and assertions. `Pattern.readExpr?` refuses every text
that is not a pattern.
-/

set_option autoImplicit false

namespace DocumentDb.Pattern

open DocumentDb.Text

/-- What the flags of a pattern switch. -/
structure Flags where
  ignoreCase : Bool
  multiLine : Bool
  dotAll : Bool
  unicode : Bool
  verbose : Bool
  crlf : Bool
deriving Repr

/-- The flags at the start of a pattern. -/
def Flags.start : Flags := ⟨false, false, false, true, false, false⟩

namespace Flags

def space (f : Flags) : CharSet := if f.unicode then spaceClass else asciiSpaces

def digit (f : Flags) : CharSet := if f.unicode then digitClass else asciiDigits

def word (f : Flags) : CharSet := if f.unicode then wordClass else asciiWord

/-- The set that a literal or class stands for. -/
def fold (f : Flags) (s : CharSet) : CharSet := if f.ignoreCase then s.foldCase else s

/-- The set of a class that may be negated. -/
def foldNegate (f : Flags) (negated : Bool) (s : CharSet) : CharSet :=
  if negated then (f.fold s).complement else f.fold s

/-- Switches one flag on or off. Greediness does not change what matches. -/
def set? (f : Flags) (on : Bool) (c : Char) : Option Flags :=
  match c with
  | 'i' => some { f with ignoreCase := on }
  | 'm' => some { f with multiLine := on }
  | 's' => some { f with dotAll := on }
  | 'u' => some { f with unicode := on }
  | 'x' => some { f with verbose := on }
  | 'R' => some { f with crlf := on }
  | 'U' => some f
  | _ => none

end Flags

/-- In a verbose pattern, drops blanks and comments that run to the end of the line. -/
def skipVerbose (verbose inComment : Bool) : List Char → List Char
  | [] => []
  | c :: rest =>
    if !verbose then c :: rest
    else if inComment then skipVerbose verbose (c != '\n') rest
    else if isBlank c then skipVerbose verbose false rest
    else if c == '#' then skipVerbose verbose true rest
    else c :: rest

/-! ### Escapes -/

/-- What an escape stands for. -/
inductive Escape
  | char (c : Char)
  | set (s : CharSet)
  | place (a : Assertion)

/-- The character with a code point. -/
def charOf? (n : Nat) : Option Char := if n.isValidChar then some (Char.ofNat n) else none

/-- A code point in braces, or with exactly `width` hexadecimal digits. -/
def readHex? (width : Nat) : List Char → Option (Char × List Char)
  | '\x7b' :: rest =>
    let digits := rest.takeWhile (· != '\x7d')
    match rest.dropWhile (· != '\x7d') with
    | _ :: tail =>
      if digits.isEmpty || !digits.all isHexDigit then none
      else (charOf? (hexValue digits)).map (·, tail)
    | [] => none
  | rest =>
    let digits := rest.take width
    if digits.length < width || !digits.all isHexDigit then none
    else (charOf? (hexValue digits)).map (·, rest.drop width)

/-- The class named in braces, whose name may be negated or be a property with a value. -/
def bracedClass? (name : List Char) : Option CharSet :=
  let (negated, name) := match name with
    | '^' :: rest => (true, rest)
    | rest => (false, rest)
  let left := name.takeWhile fun c => c != '=' && c != ':' && c != '!'
  let found := match name.dropWhile fun c => c != '=' && c != ':' && c != '!' with
    | [] => (namedClass? name).map (negated, ·)
    | '!' :: '=' :: value => (valueClass? left value).map (!negated, ·)
    | '!' :: _ => none
    | _ :: value => (valueClass? left value).map (negated, ·)
  found.map fun (negated, s) => if negated then s.complement else s

/-- A class after `\p`: one letter, or a name in braces. -/
def readNamedClass? : List Char → Option (CharSet × List Char)
  | [] => none
  | '\x7b' :: rest =>
    match rest.dropWhile (· != '\x7d') with
    | _ :: tail => (bracedClass? (rest.takeWhile (· != '\x7d'))).map (·, tail)
    | [] => none
  | c :: rest => (namedClass? [c]).map (·, rest)

/-- The kinds of word boundaries that `\b` with a name in braces asserts. -/
def boundaryNamed? (name : String) : Option Assertion :=
  match name with
  | "start" => some .wordStart
  | "end" => some .wordEnd
  | "start-half" => some .wordStartHalf
  | "end-half" => some .wordEndHalf
  | _ => none

/-- A boundary after `\b`. Braces that hold no name belong to a repetition. -/
def readBoundary? : List Char → Option (Assertion × List Char)
  | '\x7b' :: rest =>
    let isNamePart (c : Char) : Bool := c.isAlpha || c == '-'
    let name := rest.takeWhile isNamePart
    if name.isEmpty then some (.wordBoundary, '\x7b' :: rest)
    else
      match rest.dropWhile isNamePart with
      | '\x7d' :: tail => (boundaryNamed? (String.ofList name)).map (·, tail)
      | _ => none
  | rest => some (.wordBoundary, rest)

/-- An escape after its backslash. -/
def readEscape? (f : Flags) : List Char → Option (Escape × List Char)
  | [] => none
  | c :: rest =>
    let negatable (s : CharSet) (negated : Bool) : Option (Escape × List Char) :=
      if negated && !f.unicode then none
      else some (.set (if negated then s.complement else s), rest)
    match c with
    | 'd' => negatable f.digit false
    | 'D' => negatable f.digit true
    | 's' => negatable f.space false
    | 'S' => negatable f.space true
    | 'w' => negatable f.word false
    | 'W' => negatable f.word true
    | 'p' => if !f.unicode then none else
      (readNamedClass? rest).map fun (s, tail) => (.set (f.fold s), tail)
    | 'P' => if !f.unicode then none else
      (readNamedClass? rest).map fun (s, tail) => (.set (f.fold s).complement, tail)
    | 'x' => (readHex? 2 rest).map fun (c, tail) => (.char c, tail)
    | 'u' => (readHex? 4 rest).map fun (c, tail) => (.char c, tail)
    | 'U' => (readHex? 8 rest).map fun (c, tail) => (.char c, tail)
    | 'a' => some (.char (Char.ofNat 7), rest)
    | 'f' => some (.char (Char.ofNat 12), rest)
    | 'v' => some (.char (Char.ofNat 11), rest)
    | 't' => some (.char '\t', rest)
    | 'n' => some (.char '\n', rest)
    | 'r' => some (.char '\r', rest)
    | 'A' => some (.place .textStart, rest)
    | 'z' => some (.place .textEnd, rest)
    | 'B' => some (.place .noWordBoundary, rest)
    | '<' => some (.place .wordStart, rest)
    | '>' => some (.place .wordEnd, rest)
    | 'b' => (readBoundary? rest).map fun (a, tail) => (.place a, tail)
    | _ => if c.isAlphanum || 128 ≤ c.toNat then none else some (.char c, rest)

/-! ### Classes in brackets -/

/-- The operations between classes in one pair of brackets. -/
inductive SetOp
  | inter
  | diff
  | symm

def SetOp.apply (f : Flags) (op : SetOp) (s t : CharSet) : CharSet :=
  match op with
  | .inter => (f.fold s).inter (f.fold t)
  | .diff => (f.fold s).diff (f.fold t)
  | .symm => (f.fold s).symmDiff (f.fold t)

/-- A member of a bracketed class. -/
inductive ClassItem
  | char (c : Char)
  | set (s : CharSet)

def ClassItem.toSet : ClassItem → CharSet
  | .char c => CharSet.ofChar c
  | .set s => s

/-- One character or escape of a bracketed class. -/
def readClassItem? (f : Flags) : List Char → Option (ClassItem × List Char)
  | [] => none
  | '\\' :: rest =>
    match readEscape? f rest with
    | some (.char c, tail) => some (.char c, tail)
    | some (.set s, tail) => some (.set s, tail)
    | _ => none
  | c :: rest => some (.char c, rest)

/-- A member or a range of members of a bracketed class. -/
def readClassRange? (f : Flags) (cs : List Char) : Option (CharSet × List Char) := do
  let (first, rest) ← readClassItem? f cs
  match skipVerbose f.verbose false rest with
  | [] => none
  | '-' :: tail =>
    match skipVerbose f.verbose false tail with
    | [] => none
    | ']' :: _ => some (first.toSet, '-' :: tail)
    | '-' :: _ => some (first.toSet, '-' :: tail)
    | tail =>
      let (last, rest) ← readClassItem? f tail
      match first, last with
      | .char a, .char b =>
        if a ≤ b then some (CharSet.ofRange a.toNat b.toNat, rest) else none
      | _, _ => none
  | rest => some (first.toSet, rest)

/-- A named class of ASCII characters between `[:` and `:]`, the opening bracket already read. -/
def readAsciiClass? : List Char → Option (CharSet × List Char)
  | ':' :: rest =>
    let (negated, rest) := match rest with
      | '^' :: tail => (true, tail)
      | tail => (false, tail)
    let name := rest.takeWhile (· != ':')
    match rest.dropWhile (· != ':') with
    | ':' :: ']' :: tail =>
      (asciiClass? (String.ofList name)).map fun s => (if negated then s.complement else s, tail)
    | _ => none
  | _ => none

/-- Dashes at the start of a class are literal. -/
def leadingDashes (verbose : Bool) : List Char → CharSet × List Char
  | '-' :: rest =>
    let (s, tail) := leadingDashes verbose rest
    (s.union (CharSet.ofChar '-'), tail)
  | rest => (⟨[]⟩, skipVerbose verbose false rest)

mutual

/-- A bracketed class after its opening bracket. -/
def readClass? (f : Flags) : (fuel : Nat) → List Char → Option (CharSet × List Char)
  | 0, _ => none
  | fuel + 1, cs =>
    let (negated, cs) := match skipVerbose f.verbose false cs with
      | '^' :: rest => (true, skipVerbose f.verbose false rest)
      | rest => (false, rest)
    if negated && !f.unicode then none
    else
      let (dashes, cs) := leadingDashes f.verbose cs
      let (members, cs) := match dashes.ranges, cs with
        | [], ']' :: rest => (CharSet.ofChar ']', rest)
        | _, rest => (dashes, rest)
      (readMembers? f fuel none members cs).map fun (s, rest) => (f.foldNegate negated s, rest)

/-- The members of a class up to its closing bracket. `left` is what stands before the last set
operation, `members` what has been read since. -/
def readMembers? (f : Flags) : (fuel : Nat) → (left : Option (SetOp × CharSet)) →
    (members : CharSet) → List Char → Option (CharSet × List Char)
  | 0, _, _, _ => none
  | fuel + 1, left, members, cs =>
    let settled : CharSet := match left with
      | some (op, s) => op.apply f s members
      | none => members
    match skipVerbose f.verbose false cs with
    | [] => none
    | ']' :: rest => some (settled, rest)
    | '&' :: '&' :: rest => readMembers? f fuel (some (.inter, settled)) ⟨[]⟩ rest
    | '-' :: '-' :: rest => readMembers? f fuel (some (.diff, settled)) ⟨[]⟩ rest
    | '~' :: '~' :: rest => readMembers? f fuel (some (.symm, settled)) ⟨[]⟩ rest
    | '[' :: rest =>
      match readAsciiClass? rest with
      | some (s, tail) => readMembers? f fuel left (members.union s) tail
      | none =>
        match readClass? f fuel rest with
        | some (s, tail) => readMembers? f fuel left (members.union s) tail
        | none => none
    | rest =>
      match readClassRange? f rest with
      | some (s, tail) => readMembers? f fuel left (members.union s) tail
      | none => none

end

/-! ### Repetitions -/

/-- Largest bound of a repetition. -/
def boundLimit : Nat := Nat.pow 2 32 - 1

/-- Largest number of parts of an expression after its repetitions are written out. -/
def sizeLimit : Nat := 200000

/-- A number between blanks. -/
def readBound? (cs : List Char) : Option Nat × List Char :=
  let cs := cs.dropWhile isBlank
  let digits := cs.takeWhile Char.isDigit
  let n := digits.foldl (fun n c => 10 * n + (c.toNat - '0'.toNat)) 0
  (if digits.isEmpty || boundLimit < n then none else some n,
    (cs.dropWhile Char.isDigit).dropWhile isBlank)

/-- The bounds of a counted repetition after its opening brace. -/
def readBounds? (cs : List Char) : Option ((Nat × Option Nat) × List Char) :=
  match readBound? cs with
  | (some least, '\x7d' :: rest) => some ((least, some least), rest)
  | (some least, ',' :: rest) =>
    match readBound? rest with
    | (none, '\x7d' :: tail) =>
      if (rest.dropWhile isBlank).head? == some '\x7d' then some ((least, none), tail) else none
    | (some most, '\x7d' :: tail) => if least ≤ most then some ((least, some most), tail) else none
    | _ => none
  | _ => none

/-- A question mark after a repetition only changes which match is preferred. -/
def dropLazy (f : Flags) (cs : List Char) : List Char :=
  match skipVerbose f.verbose false cs with
  | '?' :: rest => rest
  | _ => cs

/-- Whether an expression stays small enough when it is repeated. -/
def repeatable (e : Expr) (least : Nat) (most : Option Nat) : Bool :=
  e.size * (max least (most.getD 0) + 1) ≤ sizeLimit

/-! ### Groups -/

/-- The flags in `(?flags)` or `(?flags:`. -/
def readFlags? (f : Flags) (on : Bool) : List Char → Option (Flags × List Char)
  | [] => none
  | ':' :: rest => some (f, ':' :: rest)
  | ')' :: rest => some (f, ')' :: rest)
  | '-' :: rest => if on then readFlags? f false rest else none
  | c :: rest =>
    match f.set? on c with
    | some g => readFlags? g on rest
    | none => none

/-- Whether a name can be given to a group. -/
def isGroupName (name : List Char) : Bool :=
  match name with
  | [] => false
  | c :: rest => (c == '_' || isAlphanumeric c && !c.isDigit) &&
    rest.all fun d => d == '_' || d == '.' || d == '[' || d == ']' || isAlphanumeric d

/-- A group name up to its closing bracket. -/
def readGroupName? (cs : List Char) : Option (List Char) :=
  match cs.dropWhile (· != '>') with
  | _ :: tail => if isGroupName (cs.takeWhile (· != '>')) then some tail else none
  | [] => none

/-- What stands after an opening parenthesis: a group with its flags, or flags alone. -/
inductive Opening
  | group (f : Flags) (rest : List Char)
  | flags (f : Flags) (rest : List Char)

def readOpening? (f : Flags) : List Char → Option Opening
  | '?' :: 'P' :: '<' :: rest => (readGroupName? rest).map (.group f)
  | '?' :: '<' :: '=' :: _ => none
  | '?' :: '<' :: '!' :: _ => none
  | '?' :: '<' :: rest => (readGroupName? rest).map (.group f)
  | '?' :: ')' :: _ => none
  | '?' :: rest =>
    match readFlags? f true rest with
    | some (g, ':' :: tail) => some (.group g tail)
    | some (g, ')' :: tail) => some (.flags g tail)
    | _ => none
  | rest => some (.group f rest)

/-- A part of a sequence; flags are a part that cannot be repeated. -/
structure Part where
  expr : Expr
  isExpr : Bool

/-- The sequence of the parts, given last one first. -/
def sequenceOf (parts : List Part) : Expr :=
  parts.foldl (fun tail p => if tail = .empty then p.expr else .seq p.expr tail) .empty

/-- The choice between branches, given last one first, and a last branch. -/
def choiceOf (branches : List Expr) (last : Expr) : Expr :=
  branches.foldl (fun tail b => .alt b tail) last

/-- An expression up to the end of the text or the parenthesis that closes it. -/
def readBody? : (fuel : Nat) → Flags → (branches : List Expr) → (parts : List Part) →
    List Char → Option (Expr × List Char)
  | 0, _, _, _, _ => none
  | fuel + 1, f, branches, parts, cs =>
    let finish := choiceOf branches (sequenceOf parts)
    let go (e : Expr) (rest : List Char) : Option (Expr × List Char) :=
      readBody? fuel f branches (⟨e, true⟩ :: parts) rest
    let again (least : Nat) (most : Option Nat) (rest : List Char) : Option (Expr × List Char) :=
      match parts with
      | ⟨e, true⟩ :: earlier =>
        if repeatable e least most then
          readBody? fuel f branches (⟨e.repeated least most, true⟩ :: earlier) (dropLazy f rest)
        else none
      | _ => none
    match skipVerbose f.verbose false cs with
    | [] => some (finish, [])
    | ')' :: rest => some (finish, ')' :: rest)
    | '|' :: rest => readBody? fuel f (sequenceOf parts :: branches) [] rest
    | '(' :: rest =>
      match readOpening? f rest with
      | some (.flags g tail) => readBody? fuel g branches (⟨.empty, false⟩ :: parts) tail
      | some (.group g tail) =>
        match readBody? fuel g [] [] tail with
        | some (e, ')' :: rest) => go e rest
        | _ => none
      | none => none
    | '[' :: rest =>
      match readClass? f (2 * rest.length + 2) rest with
      | some (s, tail) => go (.chars s) tail
      | none => none
    | '*' :: rest => again 0 none rest
    | '+' :: rest => again 1 none rest
    | '?' :: rest => again 0 (some 1) rest
    | '\x7b' :: rest =>
      match readBounds? rest with
      | some ((least, most), tail) => again least most tail
      | none => none
    | '.' :: rest =>
      if !f.unicode then none
      else if f.dotAll then go (.chars CharSet.full) rest
      else if f.crlf then go (.chars (CharSet.complement ⟨[(10, 10), (13, 13)]⟩)) rest
      else go (.chars (CharSet.ofChar '\n').complement) rest
    | '^' :: rest =>
      go (.place (if !f.multiLine then .textStart
        else if f.crlf then .lineStartCrlf else .lineStart) f.word) rest
    | '$' :: rest =>
      go (.place (if !f.multiLine then .textEnd
        else if f.crlf then .lineEndCrlf else .lineEnd) f.word) rest
    | '\\' :: rest =>
      match readEscape? f rest with
      | some (.char c, tail) => go (.chars (f.fold (CharSet.ofChar c))) tail
      | some (.set s, tail) => go (.chars s) tail
      | some (.place a, tail) => go (.place a f.word) tail
      | none => none
    | c :: rest => go (.chars (f.fold (CharSet.ofChar c))) rest

/-- Reads a whole pattern. -/
def readExpr? (cs : List Char) : Option Expr :=
  match readBody? (2 * cs.length + 2) Flags.start [] [] cs with
  | some (e, []) => some e
  | _ => none

end DocumentDb.Pattern

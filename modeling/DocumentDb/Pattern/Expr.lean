import DocumentDb.Pattern.CharClass

/-!
# Regular expressions

`Expr` are regular expressions with assertions about the place between two characters. A match reads
one character at a time: `Expr.after` gives the expressions that remain to be matched when an
expression has read a character, and `Expr.acceptsHere` tells whether nothing more is needed. An
expression has no more remainders than it has parts, so a search carries a short list of them.
-/

set_option autoImplicit false

namespace DocumentDb.Pattern

open DocumentDb.Text

/-- Conditions on a place in a text. -/
inductive Assertion
  | textStart
  | textEnd
  | lineStart
  | lineEnd
  | lineStartCrlf
  | lineEndCrlf
  | wordBoundary
  | noWordBoundary
  | wordStart
  | wordEnd
  | wordStartHalf
  | wordEndHalf
deriving DecidableEq, Repr

/-- A regular expression. -/
inductive Expr
  | empty
  | chars (s : CharSet)
  /-- An assertion; `word` are the characters that words consist of. -/
  | place (a : Assertion) (word : CharSet)
  | seq (a b : Expr)
  | alt (a b : Expr)
  | star (a : Expr)
deriving DecidableEq, Repr, Inhabited

/-- Whether the place between two characters meets an assertion. -/
def Assertion.holds (word : CharSet) (before next : Option Char) : Assertion → Bool
  | .textStart => before.isNone
  | .textEnd => next.isNone
  | .lineStart => before.all (· == '\n')
  | .lineEnd => next.all (· == '\n')
  | .lineStartCrlf =>
    before.all fun c => c == '\n' || (c == '\r' && next != some '\n')
  | .lineEndCrlf =>
    next.all fun c => c == '\r' || (c == '\n' && before != some '\r')
  | .wordBoundary => before.any word.contains != next.any word.contains
  | .noWordBoundary => before.any word.contains == next.any word.contains
  | .wordStart => !before.any word.contains && next.any word.contains
  | .wordEnd => before.any word.contains && !next.any word.contains
  | .wordStartHalf => !before.any word.contains
  | .wordEndHalf => !next.any word.contains

namespace Expr

/-- Whether the expression matches the empty text at a place. -/
def acceptsHere (before next : Option Char) : Expr → Bool
  | .empty => true
  | .chars _ => false
  | .place a word => a.holds word before next
  | .seq a b => acceptsHere before next a && acceptsHere before next b
  | .alt a b => acceptsHere before next a || acceptsHere before next b
  | .star _ => true

/-- What remains of `a` followed by `b`. -/
def andThen (a b : Expr) : Expr :=
  match a with
  | .empty => b
  | a => .seq a b

/-- The expressions that remain when the expression has read `c`. -/
def after (before : Option Char) (c : Char) : Expr → List Expr
  | .empty => []
  | .chars s => if s.contains c then [.empty] else []
  | .place .. => []
  | .seq a b =>
    (after before c a).map (·.andThen b) ++
      if acceptsHere before (some c) a then after before c b else []
  | .alt a b => after before c a ++ after before c b
  | .star a => (after before c a).map (·.andThen (.star a))

/-- Whether `start` matches from some place on, or one of the pending expressions goes on to
match. -/
def searchFrom (start : Expr) (before : Option Char) (pending : List Expr) :
    (cs : List Char) → Bool
  | [] => (start :: pending).any (acceptsHere before none)
  | c :: rest =>
    (start :: pending).any (acceptsHere before (some c)) ||
      searchFrom start (some c) ((start :: pending).flatMap (after before c)).eraseDups rest

/-- Whether the expression matches somewhere in a list of characters. -/
def isFoundIn (e : Expr) (cs : List Char) : Bool := searchFrom e none [] cs

/-- Number of parts of an expression. -/
def size : Expr → Nat
  | .empty | .chars _ | .place .. => 1
  | .seq a b | .alt a b => size a + size b + 1
  | .star a => size a + 1

/-- At most `n` repetitions. -/
def upTo (e : Expr) : Nat → Expr
  | 0 => .empty
  | n + 1 => .alt (.seq e (upTo e n)) .empty

/-- Exactly `n` repetitions and then `tail`. -/
def times (e tail : Expr) : Nat → Expr
  | 0 => tail
  | n + 1 => .seq e (times e tail n)

/-- From `least` to `most` repetitions, or any number from `least` on. -/
def repeated (e : Expr) (least : Nat) (most : Option Nat) : Expr :=
  match most with
  | none => e.times (.star e) least
  | some m => e.times (e.upTo (m - least)) least

end Expr

end DocumentDb.Pattern

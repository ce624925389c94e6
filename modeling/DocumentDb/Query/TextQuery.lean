import DocumentDb.Error
import DocumentDb.Text.Lowercase

/-!
# Text queries

A text query is a list of words, or a single term with a star in front, at the end, or at both ends,
which asks for the tokens that end with, begin with or contain the term.
-/

set_option autoImplicit false

namespace DocumentDb

/-- The parsed form of a text query. -/
inductive TextQuery
  | words (text : String)
  | beginsWith (term : String)
  | endsWith (term : String)
  | contains (term : String)
deriving DecidableEq, Repr

namespace TextQuery

/-- Whether blanks separate two parts of a text. -/
def hasInnerBlank (cs : List Char) : Bool := (Text.trim cs).any Text.isBlank

/-- Reads a text query. -/
def parse (query : String) : Result TextQuery :=
  let cs := Text.trim query.toList
  let isStar (c : Char) : Bool := c == '*'
  if !cs.contains '*' then .ok (.words (String.ofList cs))
  else if cs.all isStar then .error .wildcardOnly
  else if hasInnerBlank cs then .error (.wildcardWords (String.ofList cs))
  else
    let term := Text.lowerChars (Text.dropEnds isStar cs)
    if term.contains '*' then .error (.wildcardInside (String.ofList cs))
    else
      let text := String.ofList term
      match cs.head? == some '*', cs.getLast? == some '*' with
      | true, true => .ok (.contains text)
      | true, false => .ok (.endsWith text)
      | false, _ => .ok (.beginsWith text)

end TextQuery

end DocumentDb

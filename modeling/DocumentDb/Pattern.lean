import DocumentDb.Pattern.Reader

/-!
# Patterns

A pattern is a text together with a test for texts. `Pattern.read?` takes the text for a regular
expression and the test from that expression. Filters go by the test, whatever it is, and patterns
are compared by their text.
-/

set_option autoImplicit false

namespace DocumentDb

/-- A test for texts, and the text that it is written as. -/
structure Pattern where
  source : String
  /-- Whether the pattern matches somewhere in a text. -/
  isFoundIn : String → Bool
deriving Inhabited

namespace Pattern

/-- Reads a regular expression. The pattern is found where the expression matches. -/
def read? (source : String) : Option Pattern :=
  (readExpr? source.toList).map fun e => ⟨source, fun text => e.isFoundIn text.toList⟩

end Pattern

end DocumentDb

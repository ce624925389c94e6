/-!
# Parts of a text

Whether one list of characters begins, ends or runs inside another.
-/

set_option autoImplicit false

namespace DocumentDb.Text

/-- Whether `part` stands somewhere in a list of characters. -/
def containsRun (part : List Char) : List Char → Bool
  | [] => part.isEmpty
  | c :: rest => part.isPrefixOf (c :: rest) || containsRun part rest

/-- Whether `part` stands somewhere in a text. -/
def contains (text part : String) : Bool := containsRun part.toList text.toList

/-- Whether a text begins with `part`. -/
def startsWith (text part : String) : Bool := part.toList.isPrefixOf text.toList

/-- Whether a text ends with `part`. -/
def endsWith (text part : String) : Bool := part.toList.isSuffixOf text.toList

end DocumentDb.Text

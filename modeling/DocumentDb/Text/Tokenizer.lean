import DocumentDb.Text.Lowercase
import DocumentDb.Text.Word

/-!
# Tokenizers

A tokenizer cuts texts into the tokens that a full-text index stores. The usual one takes the words
in lower case, leaves stop words out and gives each token once.
-/

set_option autoImplicit false

namespace DocumentDb.Text

/-- Cuts a text into tokens. -/
abbrev Tokenizer : Type := String → List String

namespace Tokenizer

/-- English words that carry no meaning of their own. -/
def englishStopWords : List String :=
  ["a", "an", "and", "are", "as", "at", "be", "but", "by", "for", "if", "in", "into", "is", "it",
    "no", "not", "of", "on", "or", "such", "that", "the", "their", "then", "there", "these",
    "they", "this", "to", "was", "will", "with"]

/-- Whether a word in lower case is one of the stop words, which count in lower case themselves. -/
def isStopWord (stopWords : List String) (word : String) : Bool :=
  (stopWords.map lower).contains word

/-- A list of tokens with one more token, unless it is there already. -/
def addToken (tokens : List String) (token : String) : List String :=
  if tokens.contains token then tokens else tokens ++ [token]

/-- The words of a text in lower case without stop words, each where it occurs first. -/
def withStopWords (stopWords : List String) : Tokenizer := fun text =>
  let stops := stopWords.map lower
  (((words text).map lower).filter (!stops.contains ·)).foldl addToken []

/-- The pieces between single spaces, as they are. -/
def atSpaces : Tokenizer := fun text =>
  (piecesBy (· == ' ') text.toList).map String.ofList

end Tokenizer

end DocumentDb.Text

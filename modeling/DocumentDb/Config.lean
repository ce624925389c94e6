import DocumentDb.Index.FanOut
import DocumentDb.Text.Collation
import DocumentDb.Text.Tokenizer

/-!
# Configuration of a collection

What a user leaves out has a default: dirty indexes are rebuilt when a write reaches them, full-text
indexes leave English stop words out, texts sort by code point, and index values are read by path.
-/

set_option autoImplicit false

namespace DocumentDb

/-- Configuration of a collection. -/
structure Config where
  /-- Whether a write that reaches a dirty index rebuilds it; otherwise it passes the index by. -/
  rebuildDirtyOnWrite : Bool := true
  /-- Whether the indexes may be dropped at the same time when all are dropped. The result is the
  same. -/
  parallelIndexDrop : Bool := true
  /-- The node in generated record ids. -/
  nodeId : Option Nat := none
  stopWords : Option (List String) := none
  /-- A tokenizer for full-text indexes in place of one with stop words. -/
  customTokenizer : Option Text.Tokenizer := none
  /-- The collation of sorts that name none. -/
  customCollation : Option Text.Collation := none
  /-- An extractor of index values in place of reading them by path. -/
  customExtractor : Option Extractor := none
deriving Inhabited

namespace Config

/-- The tokenizer of full-text indexes. -/
def tokenizer (c : Config) : Text.Tokenizer :=
  c.customTokenizer.getD
    (Text.Tokenizer.withStopWords (c.stopWords.getD Text.Tokenizer.englishStopWords))

/-- The collation of sorts that name none. -/
def collation (c : Config) : Text.Collation := c.customCollation.getD .binary

/-- What takes the values of an index from a document. -/
def extractor (c : Config) : Extractor := c.customExtractor.getD Extractor.byPath

end Config

end DocumentDb

import DocumentDb.Config
import DocumentDb.Notation.Query
import DocumentDb.Processor
import DocumentDb.Stream.Join

/-!
# Settings of a collection in JSON

How a configuration, a processor and a lookup are written. Of a configuration only what differs from
the default is given.
-/

set_option autoImplicit false

namespace DocumentDb.Notation

open Json (asText asNat asBool unexpected listOf required optional defaulted)

/-- The tokenizer that splits at spaces, if it is asked for. -/
def readTokenizer (j : Json) : Result (Option Text.Tokenizer) := do
  return if ← asBool j then some Text.Tokenizer.atSpaces else none

def readConfig (j : Json) : Result Config := do
  return {
    rebuildDirtyOnWrite := ← defaulted "rebuild_dirty_on_write" true asBool j
    parallelIndexDrop := ← defaulted "parallel_index_drop" true asBool j
    nodeId := ← optional "node_id" asNat j
    stopWords := ← optional "stop_words" (listOf asText) j
    customTokenizer := ← defaulted "split_tokenizer" none readTokenizer j
    customCollation := ← optional "collator" readCollation j
    customExtractor := (← optional "refusing_extractor" asText j).map Extractor.refusing }

/-- The part of a configuration that has a text. -/
def ofConfig (c : Config) : Json :=
  Json.ofMembers [("rebuild_dirty_on_write", .bool c.rebuildDirtyOnWrite),
    ("parallel_index_drop", .bool c.parallelIndexDrop),
      ("node_id", Json.ofOption Json.ofNat c.nodeId),
    ("stop_words", Json.ofOption Json.ofTexts c.stopWords), ("collator", ofCollation c.collation)]

def readProcessor (j : Json) : Result Processor := do
  let field := required "field" asText j
  let value := required "value" readValue j
  match ← required "kind" asText j with
  | "suffix" => return .suffix (← field) (← required "text" asText j)
  | "put_on_write" => return .putOnWrite (← field) (← value)
  | "put_on_read" => return .putOnRead (← field) (← value)
  | "fail_write" => return .failWrite (← field)
  | "fail_read" => return .failRead (← field)
  | "nothing" => return .nothing
  | _ => unexpected

def readLookup (j : Json) : Result Lookup := do
  return ⟨← required "local" asText j, ← required "foreign" asText j, ← required "target" asText j⟩

end DocumentDb.Notation

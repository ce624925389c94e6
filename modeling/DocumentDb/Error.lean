import DocumentDb.Index.Descriptor
import DocumentDb.Index.Key
import DocumentDb.RecordId

/-!
# Errors

Every way in which an operation can fail is a constructor of `Error`. `Error.kind` sorts them into
the kinds a caller can tell apart, `Error.detail` words them, and `Error.message` puts the name of
the kind in front.
-/

set_option autoImplicit false

namespace DocumentDb

/-- The kinds of errors. -/
inductive ErrorKind
  | indexing
  | validation
  | uniqueConstraint
  | filter
  | invalidOperation
  | invalidId
  | storage
  | json
deriving DecidableEq, Repr

/-- The kind as messages name it. -/
def ErrorKind.title : ErrorKind → String
  | .indexing => "Indexing error"
  | .validation => "Validation error"
  | .uniqueConstraint => "Unique constraint violation"
  | .filter => "Filter error"
  | .invalidOperation => "Invalid operation"
  | .invalidId => "Invalid id"
  | .storage => "Storage error"
  | .json => "JSON error"

/-- The causes of failure. -/
inductive Error
  -- values that an index cannot take
  | nestedArray (field : String)
  | unindexable (typeName field : String)
  | arrayBeyondFirst (field : String) (fields : FieldPath)
  | unindexableElement (field typeName : String)
  | textRequired (field typeName : String)
  | nestedEntry (index : IndexDescriptor)
  | wrongDepth
  -- life of an index
  | fullTextCompound (fields : FieldPath)
  | alreadyIndexed (fields : FieldPath)
  | notIndexed (fields : FieldPath)
  | buildRunning (fields : FieldPath)
  | dropDuringBuild (fields : FieldPath)
  | dropAllDuringBuild
  -- invalid input
  | noField
  | blankField (name : String)
  | noRecordId
  | unsortable (typeName field : String)
  | negativeBound (name : String) (bound : Int)
  | badProjection (path typeName : String)
  | badCollectionName (name : String)
  -- unique constraints
  | duplicateKey (key : Key) (field : String)
  | duplicatePath (key : Key) (fields : FieldPath)
  | recordExists (id : RecordId) (collection : String)
  -- filters
  | incomparable (typeName field : String)
  | incomparableOperand (typeName field : String)
  | badPattern (pattern : String)
  | wildcardOnly
  | wildcardWords (query : String)
  | wildcardInside (query : String)
  | notFullTextIndexed (field : String)
  | tooManyConditions (conditions fields : Nat)
  | wrongLevel (field level : String)
  | textOnOrdered (field : String)
  | onlyText (field : String)
  | oneTextCondition (conditions : Nat)
  -- ids
  | badIdText (text : String)
  | badIdValue (typeName : String)
  | nodeTooLarge (node : Nat)
  | noRecord (id : RecordId) (collection : String)
  -- collections, maps and texts
  | collectionDropped (name : String)
  | mapDropped (name : String)
  | mapOfOtherType (name : String)
  | badJson
  -- reported by a processor, an extractor or a stream of the caller
  | reported (kind : ErrorKind) (text : String)

namespace Error

/-- The field that holds the record id of a document. -/
def idFieldText : String := "_id"

def kind : Error → ErrorKind
  | .nestedArray _ | .unindexable .. | .arrayBeyondFirst .. | .unindexableElement ..
  | .textRequired .. | .nestedEntry _ | .wrongDepth | .fullTextCompound _ | .alreadyIndexed _
  | .notIndexed _ | .buildRunning _ | .dropDuringBuild _ | .dropAllDuringBuild => .indexing
  | .noField | .blankField _ | .noRecordId | .unsortable .. | .negativeBound ..
  | .badProjection .. | .badCollectionName _ => .validation
  | .duplicateKey .. | .duplicatePath .. | .recordExists .. => .uniqueConstraint
  | .incomparable .. | .incomparableOperand .. | .badPattern _ | .wildcardOnly | .wildcardWords _
  | .wildcardInside _ | .notFullTextIndexed _ | .tooManyConditions .. | .wrongLevel ..
  | .textOnOrdered _ | .onlyText _ | .oneTextCondition _ => .filter
  | .badIdText _ | .badIdValue _ | .nodeTooLarge _ | .noRecord .. => .invalidId
  | .collectionDropped _ => .invalidOperation
  | .mapDropped _ | .mapOfOtherType _ => .storage
  | .badJson => .json
  | .reported kind _ => kind

/-- A text between apostrophes. -/
def named (s : String) : String := "'" ++ s ++ "'"

/-- What went wrong, without the kind. -/
def detail : Error → String
  | .nestedArray field =>
    "nested array in field " ++ named field ++ " is not supported for indexing"
  | .unindexable type field => type ++ " value of field " ++ named field ++ " cannot be indexed"
  | .arrayBeyondFirst field fields =>
    "field " ++ named field ++ " of compound index " ++ fields.render ++
      " holds an array; only the first field may be multi-valued"
  | .unindexableElement field type =>
    "full-text index on " ++ named field ++ " cannot index a " ++ type ++ " element"
  | .textRequired field type =>
    "full-text index on " ++ named field ++ " requires string values, found " ++ type
  | .nestedEntry index => "unexpected nested entry in " ++ index.render
  | .wrongDepth => "index node depth does not match the index field count"
  | .fullTextCompound fields =>
    "full-text index is not supported on multiple fields " ++ fields.render
  | .alreadyIndexed fields => "index already exists on fields " ++ fields.render
  | .notIndexed fields => fields.render ++ " is not indexed"
  | .buildRunning fields => "indexing is already running on " ++ fields.render
  | .dropDuringBuild fields =>
    "cannot drop index on " ++ fields.render ++ " while indexing is running"
  | .dropAllDuringBuild => "cannot drop indexes while indexing is running"
  | .noField => "field path must name at least one field"
  | .blankField name => "field path contains a blank field name " ++ named name
  | .noRecordId => "document has no record id"
  | .unsortable type field => "cannot sort on " ++ type ++ " value of field " ++ named field
  | .negativeBound name bound => name ++ " must not be negative, got " ++ toString bound
  | .badProjection path type =>
    "projection of " ++ named path ++ " must be null or a document, got " ++ type
  | .badCollectionName name => named name ++ " is not a valid collection name"
  | .duplicateKey key field =>
    "unique key constraint violated for " ++ key.render ++ " on field " ++ named field
  | .duplicatePath key fields =>
    "unique key constraint violated for " ++ key.render ++ " on fields " ++ fields.render
  | .recordExists id collection =>
    "record " ++ id.render ++ " already exists in " ++ named collection
  | .incomparable type field => type ++ " value of field " ++ named field ++ " is not comparable"
  | .incomparableOperand type field =>
    type ++ " value in filter on " ++ named field ++ " is not comparable"
  | .badPattern pattern => "invalid regex " ++ named pattern
  | .wildcardOnly => "'*' is not a valid text search term"
  | .wildcardWords query => "wildcard query " ++ named query ++ " must be a single term"
  | .wildcardInside query =>
    "wildcard in " ++ named query ++ " is only supported at the start or end"
  | .notFullTextIndexed field => field ++ " is not full-text indexed"
  | .tooManyConditions conditions fields =>
    toString conditions ++ " filters given for an index on " ++ toString fields ++ " fields"
  | .wrongLevel field level =>
    "filter on " ++ named field ++ " cannot scan index level " ++ named level
  | .textOnOrdered field => "text filter on " ++ named field ++ " cannot scan an ordered index"
  | .onlyText field => "full-text index on " ++ named field ++ " only answers text filters"
  | .oneTextCondition conditions =>
    "full-text index scan expects one text filter, got " ++ toString conditions
  | .badIdText text => named text ++ " is not a valid record id"
  | .badIdValue type => named idFieldText ++ " holds a " ++ type ++ " value"
  | .nodeTooLarge node => "node id " ++ toString node ++ " exceeds the maximum of 1023"
  | .noRecord id collection => "no record " ++ id.render ++ " in " ++ named collection
  | .collectionDropped name => "collection " ++ named name ++ " has been dropped"
  | .mapDropped name => "map " ++ named name ++ " has been dropped"
  | .mapOfOtherType name =>
    "map " ++ named name ++ " is open with a different key or value type"
  | .badJson => "malformed text"
  | .reported _ text => text

/-- The kind and the cause of an error. -/
def message (e : Error) : String := e.kind.title ++ ": " ++ e.detail

end Error

/-- The results of pure operations that can fail. -/
abbrev Result (α : Type) : Type := Except Error α

end DocumentDb

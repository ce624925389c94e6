import DocumentDb.Error
import DocumentDb.Pattern
import DocumentDb.Text.Lowercase
import DocumentDb.Text.Substring
import DocumentDb.Value.Path

/-!
# Filters

A filter is a condition on one field, a pattern for the texts of a field, or a combination of
filters. `Filter.apply` evaluates it on a document. A condition on a field that holds an array is
met when some element meets it, which is also what an index with one entry per element answers.

`Filter.all` and `Filter.any` are the flattening constructors; the constructors `Filter.and` and
`Filter.or` keep what they are given.
-/

set_option autoImplicit false

namespace DocumentDb

/-- The operators of a range condition. -/
inductive RangeOp
  | gt
  | gte
  | lt
  | lte
deriving DecidableEq, Repr

namespace RangeOp

/-- Whether the order of a value against the bound satisfies the operator. -/
def accepts : RangeOp → Ordering → Bool
  | .gt, o => o == .gt
  | .gte, o => o != .lt
  | .lt, o => o == .lt
  | .lte, o => o != .gt

def symbol : RangeOp → String
  | .gt => ">"
  | .gte => ">="
  | .lt => "<"
  | .lte => "<="

/-- Whether the operator selects what lies above its bound. -/
def isUpward : RangeOp → Bool
  | .gt | .gte => true
  | .lt | .lte => false

end RangeOp

/-- A condition on the value of a field. -/
inductive Condition
  | eq (v : Value)
  | ne (v : Value)
  | range (op : RangeOp) (bound : Value)
  | isIn (vs : List Value)
  | notIn (vs : List Value)
  /-- Words, or one term with a `*` in front, at the end, or both. -/
  | text (query : String)
deriving Inhabited

/-- A condition on one field. -/
structure Comparison where
  field : String
  condition : Condition
deriving Inhabited

/-- A filter of documents. -/
inductive Filter
  /-- Matches every document. -/
  | everything
  | compare (c : Comparison)
  | pattern (field : String) (p : Pattern)
  | and (terms : List Filter)
  | or (branches : List Filter)
  | not (f : Filter)
deriving Inhabited

/-! ### Conditions -/

namespace Condition

def isText : Condition → Bool
  | .text _ => true
  | _ => false

/-- Whether an index can answer the condition: its operands can be keys. -/
def isIndexable : Condition → Bool
  | .eq v | .ne v => v.isKey
  | .range _ v => v.isScalar
  | .isIn vs | .notIn vs => vs.all (·.isKey)
  | .text _ => true

/-- Whether two conditions have the same content. -/
def same : Condition → Condition → Bool
  | .eq a, .eq b => a.same b
  | .ne a, .ne b => a.same b
  | .range o a, .range p b => o == p && a.same b
  | .isIn as, .isIn bs => Value.sameItems as bs
  | .notIn as, .notIn bs => Value.sameItems as bs
  | .text a, .text b => a == b
  | _, _ => false

/-- What a text condition looks for: the query in lower case, without blanks and stars around it. -/
def needle (query : String) : List Char :=
  Text.lowerChars (Text.dropEnds (· == '*') (Text.trim query.toList))

/-- Whether one of the values lies in the range. A document or an array before that is an error. -/
def inRange (field : String) (op : RangeOp) (bound : Value) : List Value → Result Bool
  | [] => .ok false
  | v :: rest =>
    if v.isDocument || v.isArray then .error (.incomparable v.typeName field)
    else if (v.compareScalars bound).any op.accepts then .ok true
    else inRange field op bound rest

/-- Whether a value of the given field meets the condition. -/
def holds (field : String) (v : Value) : Condition → Result Bool
  | .eq expected =>
    .ok (v.equal expected || (v.isArray && v.elements.any (·.equal expected)))
  | .ne expected =>
    if expected.isArray || !v.isArray then .ok (!v.equal expected)
    else .ok (v.elements.any (!·.equal expected))
  | .range op bound => inRange field op bound v.elements
  | .isIn vs => .ok (v.elements.any fun e => vs.any (e.equal ·))
  | .notIn vs => .ok (v.elements.any fun e => !vs.any (e.equal ·))
  | .text query =>
    .ok (v.elements.any fun e =>
      e.asString?.any fun s => Text.containsRun (needle query) (Text.lowerChars s.toList))

end Condition

namespace Comparison

def isText (c : Comparison) : Bool := c.condition.isText

def isIndexable (c : Comparison) : Bool := c.condition.isIndexable

def same (a b : Comparison) : Bool := a.field == b.field && a.condition.same b.condition

/-- Whether a document meets the condition. A missing field counts as null. -/
def holds (c : Comparison) (d : Document) : Result Bool :=
  c.condition.holds c.field (d.valueAt c.field)

def render (c : Comparison) : String :=
  let body := match c.condition with
    | .eq v => " == " ++ v.render
    | .ne v => " != " ++ v.render
    | .range op v => " " ++ op.symbol ++ " " ++ v.render
    | .isIn vs => " in " ++ (Value.array vs).render
    | .notIn vs => " not in " ++ (Value.array vs).render
    | .text q => " text '" ++ q ++ "'"
  "(" ++ c.field ++ body ++ ")"

end Comparison

/-! ### Filters -/

namespace Filter

/-- Whether the filter is the one that every document passes. -/
def isEverything : Filter → Bool
  | .everything => true
  | _ => false

/-- The terms that a filter contributes to a conjunction. -/
def asTerms : Filter → List Filter
  | .everything => []
  | .and terms => terms
  | f => [f]

/-- The branches that a filter contributes to a disjunction. -/
def asBranches : Filter → List Filter
  | .or branches => branches
  | f => [f]

/-- The conjunction of filters, nested conjunctions flattened one level and trivial terms
dropped. -/
def all (filters : List Filter) : Filter :=
  match filters.flatMap asTerms with
  | [] => .everything
  | [f] => f
  | terms => .and terms

/-- The disjunction of filters, nested disjunctions flattened one level. One branch that matches
everything decides, and so does the lack of branches. -/
def any (filters : List Filter) : Filter :=
  let branches := filters.flatMap asBranches
  if branches.any isEverything then .everything
  else
    match branches with
    | [] => .everything
    | [f] => f
    | branches => .or branches

/-- The inclusive range from `low` to `high`. -/
def between (field : String) (low high : Value) : Filter :=
  all [.compare ⟨field, .range .gte low⟩, .compare ⟨field, .range .lte high⟩]

/-- The condition on one field that the filter consists of, if an index can answer it. -/
def comparison? : Filter → Option Comparison
  | .compare c => if c.isIndexable then some c else none
  | _ => none

mutual

/-- The terms whose conjunction the filter is; conjunctions are flattened at every depth. -/
def conjuncts : Filter → List Filter
  | .everything => []
  | .and terms => conjunctsAll terms
  | f => [f]

/-- The terms of all filters of a list. -/
def conjunctsAll : List Filter → List Filter
  | [] => []
  | f :: rest => conjuncts f ++ conjunctsAll rest

end

mutual

/-- Whether a document passes the filter. Terms and branches are evaluated in order until one of
them decides. -/
def apply (d : Document) : Filter → Result Bool
  | .everything => .ok true
  | .compare c => c.holds d
  | .pattern field p =>
    .ok ((d.valueAt field).elements.any fun e => e.asString?.any p.isFoundIn)
  | .and terms => applyAll d terms
  | .or branches => applyAny d branches
  | .not f => (apply d f).map (!·)

/-- Whether a document passes all filters of a list. -/
def applyAll (d : Document) : List Filter → Result Bool
  | [] => .ok true
  | f :: rest => (apply d f).bind fun b => if b then applyAll d rest else .ok false

/-- Whether a document passes some filter of a list. -/
def applyAny (d : Document) : List Filter → Result Bool
  | [] => .ok false
  | f :: rest => (apply d f).bind fun b => if b then .ok true else applyAny d rest

end

mutual

/-- Whether two filters have the same content. Patterns are compared by their text. -/
def same : Filter → Filter → Bool
  | .everything, .everything => true
  | .compare a, .compare b => a.same b
  | .pattern f p, .pattern g q => f == g && p.source == q.source
  | .and as, .and bs => sameAll as bs
  | .or as, .or bs => sameAll as bs
  | .not a, .not b => same a b
  | _, _ => false

/-- Whether two lists of filters are equal, one by one. -/
def sameAll : List Filter → List Filter → Bool
  | [], [] => true
  | a :: as, b :: bs => same a b && sameAll as bs
  | _, _ => false

end

mutual

def render : Filter → String
  | .everything => "(all)"
  | .compare c => c.render
  | .pattern field p => "(" ++ field ++ " =~ /" ++ p.source ++ "/)"
  | .and terms => "(" ++ " && ".intercalate (renderAll terms) ++ ")"
  | .or branches => "(" ++ " || ".intercalate (renderAll branches) ++ ")"
  | .not f => "!" ++ render f

def renderAll : List Filter → List String
  | [] => []
  | f :: rest => render f :: renderAll rest

end

end Filter

end DocumentDb

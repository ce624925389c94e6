import DocumentDb.Numeric.Decimal

/-!
# Record ids

A record id is a number of 64 bits, written in decimal. Generated ids are composed of a time in
milliseconds, the number of a node and a sequence number within the millisecond, so that later ids
are greater. `IdGenerator.next?` issues ids from a list of clock readings: it waits for a reading
that is late enough, so the ids of one generator ascend even when the clock goes backwards.
-/

set_option autoImplicit false

namespace DocumentDb

/-- The identifier of a record within its collection. -/
structure RecordId where
  toUInt64 : UInt64
deriving DecidableEq, Inhabited, Repr

namespace RecordId

instance : Ord RecordId := ⟨fun a b => compare a.toUInt64 b.toUInt64⟩

instance : ToString RecordId := ⟨fun id => toString id.toUInt64.toNat⟩

/-- Decimal text of an id. -/
def render (id : RecordId) : String := toString id.toUInt64.toNat

/-- Reads decimal digits after at most one plus sign. -/
def read? (text : String) : Option RecordId :=
  (readUnsigned? (Nat.pow 2 64 - 1) text).map fun n => ⟨UInt64.ofNat n⟩

/-! ### Parts of a generated id -/

/-- Greatest number of a node. -/
def maxNode : UInt64 := 1023

/-- Greatest sequence number. -/
def maxSequence : UInt64 := 4095

/-- The id with the given time, node and sequence number. -/
def compose (time node sequence : UInt64) : RecordId :=
  ⟨(time <<< 22) ||| ((node &&& maxNode) <<< 12) ||| (sequence &&& maxSequence)⟩

/-- The part of an id that tells when it was made. -/
def time (id : RecordId) : UInt64 := id.toUInt64 >>> 22

/-- The part of an id that tells where it was made. -/
def node (id : RecordId) : UInt64 := (id.toUInt64 >>> 12) &&& maxNode

/-- The part of an id that tells it from others of the same time and node. -/
def sequence (id : RecordId) : UInt64 := id.toUInt64 &&& maxSequence

end RecordId

/-- Issues ids for one node. -/
structure IdGenerator where
  node : UInt64
  lastTime : UInt64
  sequence : UInt64
deriving DecidableEq, Inhabited, Repr

namespace IdGenerator

/-- A generator that has issued nothing yet. -/
def start (node : UInt64) : IdGenerator := ⟨node, 0, 0⟩

/-- The first reading that is not below `target`, and the readings after it. -/
def waitUntil (target : UInt64) (readings : List UInt64) : Option (UInt64 × List UInt64) :=
  match readings.dropWhile (· < target) with
  | [] => none
  | now :: rest => some (now, rest)

/-- The next id, the generator after it, and the clock readings that are left. Within one
millisecond the sequence number grows; when it is used up, the next millisecond is waited for.
Nothing is issued when the readings end during a wait. -/
def next? (g : IdGenerator) (readings : List UInt64) :
    Option (RecordId × IdGenerator × List UInt64) := do
  let (now, readings) ← waitUntil g.lastTime readings
  if now = g.lastTime then
    let sequence := (g.sequence + 1) &&& RecordId.maxSequence
    if sequence = 0 then
      let (now, readings) ← waitUntil (g.lastTime + 1) readings
      some (RecordId.compose now g.node 0, ⟨g.node, now, 0⟩, readings)
    else some (RecordId.compose now g.node sequence, ⟨g.node, now, sequence⟩, readings)
  else some (RecordId.compose now g.node 0, ⟨g.node, now, 0⟩, readings)

/-- The next id at a reading of a clock that has not been read before. Such a reading is above the
last one, so no wait takes place. -/
def issue (g : IdGenerator) (now : UInt64) : RecordId × IdGenerator :=
  match g.next? [now] with
  | some (id, g', _) => (id, g')
  | none => (RecordId.compose now g.node 0, g)

end IdGenerator

end DocumentDb

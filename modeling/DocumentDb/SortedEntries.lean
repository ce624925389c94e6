/-!
# Entries sorted by key

An ordered map is a list of entries with strictly ascending keys. The operations here keep that
order (`SortedEntries.Sorted`) for every order of keys that is a total preorder. Keys that compare
equal are one key: storing under such a key keeps the key that is already there and replaces its
value.
-/

set_option autoImplicit false

namespace DocumentDb.SortedEntries

variable {K V : Type} [Ord K]

/-- The keys ascend strictly. -/
def Sorted (es : List (K × V)) : Prop := es.Pairwise fun a b => compare a.1 b.1 = .lt

/-- The value under a key equal to `k`. -/
def get? (k : K) : List (K × V) → Option V
  | [] => none
  | (k', v) :: rest => if compare k k' = .eq then some v else get? k rest

def contains (k : K) (es : List (K × V)) : Bool := (get? k es).isSome

/-- Stores `v` under `k`. A key equal to `k` stays as it is and gets the new value. -/
def insert (k : K) (v : V) : List (K × V) → List (K × V)
  | [] => [(k, v)]
  | (k', v') :: rest =>
    match compare k k' with
    | .lt => (k, v) :: (k', v') :: rest
    | .eq => (k', v) :: rest
    | .gt => (k', v') :: insert k v rest

/-- Removes the entry whose key is equal to `k`. -/
def erase (k : K) : List (K × V) → List (K × V)
  | [] => []
  | (k', v') :: rest => if compare k k' = .eq then rest else (k', v') :: erase k rest

def firstKey? (es : List (K × V)) : Option K := es.head?.map (·.1)

def lastKey? (es : List (K × V)) : Option K := es.getLast?.map (·.1)

/-- The least entry whose key is above `k`. -/
def above? (k : K) (es : List (K × V)) : Option (K × V) :=
  es.find? fun e => compare k e.1 == .lt

/-- The least entry whose key is not below `k`. -/
def atOrAbove? (k : K) (es : List (K × V)) : Option (K × V) :=
  es.find? fun e => compare k e.1 != .gt

/-- The greatest entry whose key is below `k`. -/
def below? (k : K) (es : List (K × V)) : Option (K × V) :=
  es.reverse.find? fun e => compare k e.1 == .gt

/-- The greatest entry whose key is not above `k`. -/
def atOrBelow? (k : K) (es : List (K × V)) : Option (K × V) :=
  es.reverse.find? fun e => compare k e.1 != .lt

/-- The entry that follows the key `from?` in a direction, or the one at that end when no key is
given. -/
def next? (reverse : Bool) (start : Option K) (es : List (K × V)) : Option (K × V) :=
  match start, reverse with
  | none, false => es.head?
  | none, true => es.getLast?
  | some k, false => above? k es
  | some k, true => below? k es

/-- The keys that single steps lead to from a key on, while `goesOn` holds. Steps do not turn back,
so a walk is over after as many of them as there are entries. -/
def follow {K : Type} (goesOn : K → Bool) (step : K → Option K) : (limit : Nat) → Option K → List K
  | limit + 1, some k => if goesOn k then k :: follow goesOn step limit (step k) else []
  | _, _ => []

/-- The entries from the given end on. -/
def walk (reverse : Bool) (es : List (K × V)) : List (K × V) :=
  if reverse then es.reverse else es

end DocumentDb.SortedEntries

-- JSON values as they are read: objects keep all their entries in order,
-- and what can be skipped but not represented keeps its place.
namespace CallForm

/-- A JSON number: a whole number of 64 bits, signed or not, or a double. -/
inductive JsonNumber
  | int (value : Int)
  | float (value : Float)
deriving Repr, Inhabited

/-- A JSON value. `unreadable` stands where the text is well formed but its value is out of range:
a number past the largest double, half of a surrogate pair, or too deep a nest. -/
inductive Json
  | null
  | bool (value : Bool)
  | number (value : JsonNumber)
  | string (value : String)
  | array (items : List Json)
  | object (entries : List (String × Json))
  | unreadable
deriving Repr, Inhabited

namespace Json

/-! ## Depth -/

mutual

/-- How deep arrays and objects nest in a value. -/
def depth : Json → Nat
  | .array items => 1 + depthAll items
  | .object entries => 1 + depthEntries entries
  | _ => 0

/-- The depth of the deepest of several values. -/
def depthAll : List Json → Nat
  | [] => 0
  | item :: rest => max item.depth (depthAll rest)

/-- The depth of the deepest of several entries. -/
def depthEntries : List (String × Json) → Nat
  | [] => 0
  | (_, value) :: rest => max value.depth (depthEntries rest)

end

/-! ## Entries -/

/-- The values of all entries under a name. -/
def valuesOf (name : String) (entries : List (String × Json)) : List Json :=
  entries.filterMap fun (key, value) => if key = name then some value else none

/-- The last value under a name in an object. -/
def get? (name : String) : Json → Option Json
  | .object entries => (valuesOf name entries).getLast?
  | _ => none

mutual

/-- The value in which each object holds only the last entry under each of its names. -/
def lastEntries : Json → Json
  | .array items => .array (lastEntriesAll items)
  | .object entries => .object (lastEntriesOf entries)
  | other => other

/-- The values of an array, each with only its last entries. -/
def lastEntriesAll : List Json → List Json
  | [] => []
  | item :: rest => item.lastEntries :: lastEntriesAll rest

/-- The entries of an object that no later entry replaces. -/
def lastEntriesOf : List (String × Json) → List (String × Json)
  | [] => []
  | (key, value) :: rest =>
    if rest.any (·.1 == key) then lastEntriesOf rest
    else (key, value.lastEntries) :: lastEntriesOf rest

end

end Json

end CallForm

-- The values of a configuration text, and how its lines fill its tables.
-- Tables keep their entries in the order of the text, and remember how they
-- came to be, which decides what a later line may still add to them.
namespace CallForm

/-- How a table came to be: by a header of its own, by a longer header, by a key with dots, or
between braces. -/
inductive TableOrigin
  | header | implied | dotted | inline
deriving Repr, DecidableEq, Inhabited

/-- A value of a configuration text. `tables` are the tables of a repeated header; a date or time
is kept as its normal text. -/
inductive Toml
  | string (value : String)
  | integer (value : Int)
  | float (value : Float)
  | boolean (value : Bool)
  | date (text : String)
  | array (items : List Toml)
  | table (origin : TableOrigin) (entries : List (String × Toml))
  | tables (items : List (List (String × Toml)))
deriving Repr, Inhabited

/-- The entries of a table in the order of the text. -/
abbrev TomlEntries := List (String × Toml)

namespace Toml

/-! ## Entries -/

/-- The value under a key. -/
def find? (key : String) (entries : TomlEntries) : Option Toml :=
  (entries.find? (·.1 == key)).map (·.2)

/-- The entries with another value under a key that has one. -/
def replace (key : String) (value : Toml) (entries : TomlEntries) : TomlEntries :=
  entries.map fun entry => if entry.1 == key then (key, value) else entry

/-- The entries without the one under a key. -/
def erase (key : String) (entries : TomlEntries) : TomlEntries :=
  entries.filter (·.1 != key)

/-! ## Paths -/

/-- Changes the table at the end of a path. Tables that are missing on the way come to be; of a
repeated header the last table is on the way. A key with dots (`dotted`) does not pass through
a table that has a header or braces of its own, and a header does not pass through braces. -/
def changeAt (dotted : Bool) (change : TableOrigin → TomlEntries → Option TomlEntries) :
    List String → TableOrigin → TomlEntries → Option TomlEntries
  | [], origin, entries => change origin entries
  | key :: path, _, entries =>
    match find? key entries with
    | none => do
      let origin := if dotted then .dotted else .implied
      let inner ← changeAt dotted change path origin []
      some (entries ++ [(key, .table origin inner)])
    | some (.table .inline _) => none
    | some (.table origin inner) =>
      if dotted && origin == .header then none
      else do
        let inner ← changeAt dotted change path origin inner
        some (replace key (.table origin inner) entries)
    | some (.tables items) =>
      match items.getLast? with
      | none => none
      | some last => do
        let inner ← changeAt dotted change path .header last
        some (replace key (.tables (items.dropLast ++ [inner])) entries)
    | some _ => none

/-! ## Keys with values -/

/-- A key of one or more parts with its value. -/
structure Pair where
  parts : List String
  value : Toml

/-- The parts of a key before its last one, and the last one. -/
def splitLast : List String → Option (List String × String)
  | [] => none
  | parts@(_ :: _) => parts.getLast?.map (parts.dropLast, ·)

/-- Adds a value under a key. Only a table made by keys with dots takes values under keys with
dots, and no key comes twice. -/
def addPair (entries : TomlEntries) (pair : Pair) : Option TomlEntries := do
  let (path, key) ← splitLast pair.parts
  changeAt true
    (fun origin inner =>
      if (origin == .dotted) == path.isEmpty || (find? key inner).isSome then none
      else some (inner ++ [(key, pair.value)]))
    path .header entries

/-- Adds values under keys one after another. -/
def addPairs (entries : TomlEntries) (pairs : List Pair) : Option TomlEntries :=
  pairs.foldlM addPair entries

/-! ## Sections -/

/-- A header with the lines up to the next one. -/
structure Section where
  path : List String
  repeated : Bool
  pairs : List Pair

/-- Puts a section into the table that holds it. A table that longer headers have implied moves
behind its neighbours when its own header comes. -/
def placeIn (key : String) (block : Section) (entries : TomlEntries) : Option TomlEntries :=
  match find? key entries, block.repeated with
  | none, false => do
    let inner ← addPairs [] block.pairs
    some (entries ++ [(key, .table .header inner)])
  | some (.table .implied known), false => do
    let inner ← addPairs known block.pairs
    some (erase key entries ++ [(key, .table .header inner)])
  | none, true => do
    let inner ← addPairs [] block.pairs
    some (entries ++ [(key, .tables [inner])])
  | some (.tables items), true => do
    let inner ← addPairs [] block.pairs
    some (replace key (.tables (items ++ [inner])) entries)
  | _, _ => none

/-- Adds a section to a whole text. -/
def addSection (entries : TomlEntries) (block : Section) : Option TomlEntries := do
  let (path, key) ← splitLast block.path
  changeAt false (fun _ inner => placeIn key block inner) path .header entries

/-- The table of a whole text: the lines before the first header, then the sections. -/
def document (pairs : List Pair) (sections : List Section) : Option TomlEntries := do
  let start ← addPairs [] pairs
  sections.foldlM addSection start

end Toml

end CallForm

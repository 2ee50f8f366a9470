-- Where a node stands in its source file, and the tag that carries the
-- place into the compiled text.

namespace CallForm

/-- A place in a source file: lines count from 1, columns count bytes from 0. -/
structure Position where
  line : UInt32
  column : UInt32
deriving Repr, DecidableEq, Inhabited

/-- The character that opens each half of a position tag. -/
def tagMark : Char := '$'

/-- The tag of a place, `$line$column`. -/
def Position.mark (pos : Position) : String :=
  "$" ++ toString pos.line.toNat ++ "$" ++ toString pos.column.toNat

/-- A name followed by the tag of a place, so that two bindings of one name stay apart. -/
def Position.tag (pos : Position) (name : String) : String :=
  name ++ pos.mark

end CallForm

-- What a parser makes of a source text: a tree of nodes, each with its kind
-- and the part of the text that it covers. A parser comes from outside;
-- whatever is said about reading a text is said for any parser.
import CallForm.Decimal.Numeral
import CallForm.Source.Error

namespace CallForm

/-! ## Points and spans -/

/-- A row and a column of a text, both counted from 0. A column is a byte. -/
structure Point where
  row : Nat
  column : Nat
deriving Repr, DecidableEq, Inhabited

/-- The position that a point tells, whose lines count from 1. Both have to fit 32 bits. -/
def Point.position (point : Point) : Except SourceError Position :=
  match Word.unsigned32? (point.row + 1), Word.unsigned32? point.column with
  | some line, some column => .ok ⟨line, column⟩
  | _, _ => .error (.positionOverflow point.row point.column)

/-- A point tells a position exactly if its line and its column are those of the position. -/
theorem Point.position_eq_ok_iff {point : Point} {pos : Position} :
    point.position = .ok pos ↔
      point.row + 1 = pos.line.toNat ∧ point.column = pos.column.toNat := by
  have line : Word.unsigned32? (point.row + 1) = some pos.line ↔
      (point.row + 1 : Int) = pos.line.toNat := Word.unsigned32?_eq_some_iff
  have column : Word.unsigned32? point.column = some pos.column ↔
      (point.column : Int) = pos.column.toNat := Word.unsigned32?_eq_some_iff
  unfold position
  constructor
  · intro h
    split at h
    · rename_i hline hcolumn
      cases h
      have := line.mp hline
      have := column.mp hcolumn
      omega
    · cases h
  · rintro ⟨same, same'⟩
    rw [line.mpr (by omega), column.mpr (by omega)]

/-- A point that fits 32 bits tells a position. -/
theorem Point.exists_position {point : Point} (row : point.row + 1 < UInt32.size)
    (column : point.column < UInt32.size) : ∃ pos, point.position = .ok pos := by
  refine ⟨⟨.ofNat (point.row + 1), .ofNat point.column⟩, position_eq_ok_iff.mpr ?_⟩
  rw [UInt32.toNat_ofNat_of_lt' row, UInt32.toNat_ofNat_of_lt' column]
  exact ⟨rfl, rfl⟩

/-- A point that does not fit 32 bits is refused with its own row and column. -/
theorem Point.position_eq_error_iff {point : Point} {cause : SourceError} :
    point.position = .error cause ↔
      (UInt32.size ≤ point.row + 1 ∨ UInt32.size ≤ point.column) ∧
        cause = .positionOverflow point.row point.column := by
  by_cases fits : point.row + 1 < UInt32.size ∧ point.column < UInt32.size
  · obtain ⟨pos, found⟩ := exists_position fits.1 fits.2
    rw [found]
    constructor
    · intro h
      cases h
    · intro ⟨large, _⟩
      omega
  · have refused : point.position = .error (.positionOverflow point.row point.column) := by
      unfold position
      split
      · rename_i line column hline hcolumn
        have := Word.unsigned32?_eq_some_iff.mp hline
        have := Word.unsigned32?_eq_some_iff.mp hcolumn
        have := line.toNat_lt
        have := column.toNat_lt
        simp only [UInt32.size] at fits
        omega
      · rfl
    rw [refused]
    constructor
    · intro h
      cases h
      exact ⟨by omega, rfl⟩
    · rintro ⟨_, rfl⟩
      rfl

-- Rows count from 0 and lines from 1, so the last row of 32 bits has no line.
example : (Point.mk 4 7).position = .ok ⟨5, 7⟩ := rfl
example : (Point.mk 4294967295 0).position = .error (.positionOverflow 4294967295 0) := rfl

/-- The part of a text that a node covers: where it starts, and its bytes from `start` on up to
the one at `stop`. -/
structure Span where
  point : Point
  start : Nat
  stop : Nat
deriving Repr, DecidableEq, Inhabited

/-- The span from the start of one to the end of another. -/
def Span.to (first last : Span) : Span := { first with stop := last.stop }

/-- How many bytes a text has. -/
def byteCount : List Char → Nat
  | [] => 0
  | c :: rest => c.utf8Size + byteCount rest

theorem byteCount_cons (c : Char) (text : List Char) :
    byteCount (c :: text) = c.utf8Size + byteCount text := rfl

theorem byteCount_append (front rest : List Char) :
    byteCount (front ++ rest) = byteCount front + byteCount rest := by
  induction front with
  | nil => exact (Nat.zero_add _).symm
  | cons c front ih => rw [List.cons_append, byteCount_cons, byteCount_cons, ih, Nat.add_assoc]

/-- A text without its first bytes; nothing if they are too many or end inside a character. -/
def afterBytes? : Nat → List Char → Option (List Char)
  | 0, text => some text
  | _ + 1, [] => none
  | count + 1, c :: rest =>
    if c.utf8Size ≤ count + 1 then afterBytes? (count + 1 - c.utf8Size) rest else none

/-- The first bytes of a text; nothing if they are too many or end inside a character. -/
def firstBytes? : Nat → List Char → Option (List Char)
  | 0, _ => some []
  | _ + 1, [] => none
  | count + 1, c :: rest =>
    if c.utf8Size ≤ count + 1 then (firstBytes? (count + 1 - c.utf8Size) rest).map (c :: ·)
    else none

/-- The text that a span covers, or an empty one if it covers no whole characters. -/
def Span.textIn (source : String) (span : Span) : String :=
  if span.start ≤ span.stop then
    (((afterBytes? span.start source.toList).bind (firstBytes? (span.stop - span.start))).map
      String.ofList).getD ""
  else ""

theorem afterBytes?_append (front rest : List Char) :
    afterBytes? (byteCount front) (front ++ rest) = some rest := by
  induction front with
  | nil => cases rest <;> rfl
  | cons c front ih =>
    have positive := c.utf8Size_pos
    obtain ⟨count, size⟩ : ∃ count, c.utf8Size + byteCount front = count + 1 :=
      ⟨c.utf8Size + byteCount front - 1, by omega⟩
    have left : count + 1 - c.utf8Size = byteCount front := by omega
    rw [byteCount_cons, size, List.cons_append, afterBytes?, if_pos (by omega), left, ih]

theorem firstBytes?_append (text rest : List Char) :
    firstBytes? (byteCount text) (text ++ rest) = some text := by
  induction text with
  | nil => cases rest <;> rfl
  | cons c text ih =>
    have positive := c.utf8Size_pos
    obtain ⟨count, size⟩ : ∃ count, c.utf8Size + byteCount text = count + 1 :=
      ⟨c.utf8Size + byteCount text - 1, by omega⟩
    have left : count + 1 - c.utf8Size = byteCount text := by omega
    rw [byteCount_cons, size, List.cons_append, firstBytes?, if_pos (by omega), left, ih]
    rfl

/-- A span covers what stands between the text in front of it and the text behind it. -/
theorem Span.textIn_eq {source : String} {front text rest : List Char}
    (h : source.toList = front ++ (text ++ rest)) (span : Span)
    (start : span.start = byteCount front) (stop : span.stop = byteCount front + byteCount text) :
    span.textIn source = String.ofList text := by
  rw [textIn, if_pos (by omega), start, stop, h, afterBytes?_append, Option.bind_some,
    Nat.add_sub_cancel_left, firstBytes?_append]
  rfl

/-! ## Nodes -/

/-- What a parser tells about a node beside its children. `field` is the part that it has in the
node above it; `named` sets the forms of the grammar apart from its signs and keywords, and an
`extra` may stand anywhere, as a comment does. -/
structure NodeInfo where
  kind : String
  field : Option String := none
  named : Bool := true
  extra : Bool := false
  error : Bool := false
  missing : Bool := false
  span : Span
deriving Repr, DecidableEq, Inhabited

/-- A node with its children, in the order of the text. -/
inductive SyntaxNode
  | mk (info : NodeInfo) (children : List SyntaxNode)
deriving Repr, Inhabited

namespace SyntaxNode

/-- What is told about a node. -/
def info : SyntaxNode → NodeInfo
  | .mk info _ => info

/-- The children of a node. -/
def children : SyntaxNode → List SyntaxNode
  | .mk _ children => children

/-- The text that a node covers. -/
def textIn (source : String) (node : SyntaxNode) : String := node.info.span.textIn source

/-- Whether a child is one of those that make up a form. -/
def isPart (node : SyntaxNode) : Bool := node.info.named && !node.info.extra

/-- The first child in a field. -/
def inField? (field : String) (children : List SyntaxNode) : Option SyntaxNode :=
  children.find? fun child => child.info.field == some field

/-- Whether a child is one of those in a field. -/
def isIn (field : String) (node : SyntaxNode) : Bool :=
  node.info.field == some field && !node.info.extra

/-! ### Errors -/

mutual

/-- Whether there is an error in a node or below it. -/
def hasError : SyntaxNode → Bool
  | .mk info children => info.error || info.missing || anyError children

/-- Whether there is an error in some of several nodes or below them. -/
def anyError : List SyntaxNode → Bool
  | [] => false
  | node :: rest => node.hasError || anyError rest

end

mutual

/-- The first node, in the order of the text, that is an error or stands for something missing. -/
def firstError? : SyntaxNode → Option SyntaxNode
  | .mk info children =>
    if info.error || info.missing then some (.mk info children)
    else if hasError (.mk info children) then firstErrorOf? children
    else none

/-- The first error in several nodes. -/
def firstErrorOf? : List SyntaxNode → Option SyntaxNode
  | [] => none
  | node :: rest => node.firstError?.or (firstErrorOf? rest)

end

/-- A text up to its first line end. -/
def firstLine (text : List Char) : List Char :=
  match text.span (· != '\n') with
  | (line, []) => line
  | (line, _ :: _) => if line.getLast? = some '\r' then line.dropLast else line

/-- What is reported of a node that is an error or stands for something missing. -/
def report (source : String) (node : SyntaxNode) : SourceError :=
  match node.info.span.point.position with
  | .error cause => cause
  | .ok pos =>
    .syntaxError pos
      (if node.info.missing then "missing `" ++ node.info.kind ++ "`"
        else "unexpected `" ++ String.ofList (firstLine (node.textIn source).toList) ++ "`")

mutual

/-- A node has a first error exactly if there is one in it. -/
theorem isSome_firstError? : ∀ node : SyntaxNode, node.firstError?.isSome = node.hasError
  | .mk info children => by
    have below := isSome_firstErrorOf? children
    rw [firstError?, hasError]
    cases info.error || info.missing <;> cases found : anyError children
    · rfl
    · exact below.trans found
    all_goals rfl

theorem isSome_firstErrorOf? :
    ∀ nodes : List SyntaxNode, (firstErrorOf? nodes).isSome = anyError nodes
  | [] => rfl
  | node :: rest => by
    rw [firstErrorOf?, anyError, Option.isSome_or, isSome_firstError? node,
      isSome_firstErrorOf? rest]

end

/-! ### Building nodes -/

/-- A node of a kind. -/
def form (kind : String) (span : Span) (children : List SyntaxNode) : SyntaxNode :=
  .mk { kind, span } children

/-- A node of a kind that has no children. -/
def leaf (kind : String) (span : Span) : SyntaxNode := form kind span []

/-- A sign or a keyword: its kind is its text. -/
def sign (text : String) (span : Span) : SyntaxNode := .mk { kind := text, named := false, span } []

/-- A node as a part of the form above it. -/
def within (field : String) : SyntaxNode → SyntaxNode
  | .mk info children => .mk { info with field := some field } children

/-- An operator between two operands. -/
def binary (left operator right : SyntaxNode) : SyntaxNode :=
  form "binary_operator" (left.info.span.to right.info.span)
    [left.within "left", operator.within "operator", right.within "right"]

/-- A sign in front of an operand. -/
def unary (operator operand : SyntaxNode) : SyntaxNode :=
  form "unary_operator" (operator.info.span.to operand.info.span)
    [operator.within "operator", operand.within "argument"]

/-- An expression in parentheses. -/
def parenthesized (opening closing : Span) (inner : SyntaxNode) : SyntaxNode :=
  form "parenthesized_expression" (opening.to closing) [sign "(" opening, inner, sign ")" closing]

/-- Formal parameters in parentheses. -/
def parameters (opening closing : Span) (params : List SyntaxNode) : SyntaxNode :=
  form "parameters" (opening.to closing) (sign "(" opening :: (params ++ [sign ")" closing]))

theorem span_binary (left operator right : SyntaxNode) :
    (binary left operator right).info.span = left.info.span.to right.info.span := rfl

theorem span_unary (operator operand : SyntaxNode) :
    (unary operator operand).info.span = operator.info.span.to operand.info.span := rfl

theorem span_parenthesized (opening closing : Span) (inner : SyntaxNode) :
    (parenthesized opening closing inner).info.span = opening.to closing := rfl

end SyntaxNode

/-! ## Parsers -/

/-- A parser of source texts. It may refuse to load its grammar, with a reason, and may give up on
a text. -/
structure SourceParser where
  refusal : Option String := none
  parse? : String → Option SyntaxNode

/-- The root of what a parser makes of a text. -/
def SourceParser.root (parser : SourceParser) (text : String) : Except SourceError SyntaxNode :=
  match parser.refusal with
  | some reason => .error (.language reason)
  | none =>
    match parser.parse? text with
    | some root => .ok root
    | none => .error .failed

end CallForm

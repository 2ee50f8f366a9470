-- The grammar of arithmetic expressions in a source text: which nodes it
-- derives from which characters. A parser from outside is assumed to go by
-- this grammar and by nothing else.
import CallForm.Proofs.Level
import CallForm.Proofs.NumberText
import CallForm.Source.SyntaxNode
import CallForm.Tree.Operator

namespace CallForm

namespace Grammar

/-! ## Expressions -/

/-- The rules of the operators between two operands: the level of the whole, and those of the
operands. Sums and products group to the left, powers to the right. -/
inductive OperatorRule : Level → Level → BinaryOperator → Level → Prop
  | sum {op : BinaryOperator} : op ∈ [.add, .sub] → OperatorRule .sum .sum op .product
  | product {op : BinaryOperator} : op ∈ [.mult, .div, .mod] →
      OperatorRule .product .product op .factor
  | power : OperatorRule .factor .atom .pow .factor

theorem OperatorRule.mem {level left right : Level} {op : BinaryOperator}
    (rule : OperatorRule level left op right) :
    op ∈ [BinaryOperator.add, .sub, .mult, .div, .mod, .pow] := by
  cases rule with
  | sum h | product h =>
    revert h
    cases op <;> decide
  | power => decide

theorem OperatorRule.oneLine {level left right : Level} {op : BinaryOperator}
    (rule : OperatorRule level left op right) : '\n' ∉ op.text.toList := by
  have known := rule.mem
  revert known
  cases op <;> decide

/-- The span of a text that starts at a byte. -/
def spanAt (point : Nat → Point) (start : Nat) (text : List Char) : Span :=
  ⟨point start, start, start + byteCount text⟩

/-- A node that a level of the grammar derives from a text that starts at a byte. An operator
between two operands stands between two blanks, and there are no others. `point` tells the row and
the column of each byte. -/
inductive Expression (point : Nat → Point) : Level → Nat → List Char → SyntaxNode → Prop
  | integer (start value : Nat) :
      Expression point .atom start (Nat.toDigits 10 value)
        (.leaf "integer" (spanAt point start (Nat.toDigits 10 value)))
  | parenthesized {start : Nat} {text : List Char} {inner : SyntaxNode} :
      Expression point .sum (start + 1) text inner →
      Expression point .atom start ('(' :: (text ++ [')']))
        (.parenthesized (spanAt point start ['('])
          (spanAt point (start + 1 + byteCount text) [')']) inner)
  | unary {start : Nat} {text : List Char} {operand : SyntaxNode} :
      Expression point .factor (start + 1) text operand →
      Expression point .factor start ('-' :: text)
        (.unary (.sign "-" (spanAt point start ['-'])) operand)
  | binary {level left right : Level} {op : BinaryOperator} {start : Nat}
      {before after : List Char} {l r : SyntaxNode} : OperatorRule level left op right →
      Expression point left start before l →
      Expression point right (start + byteCount before + byteCount op.text.toList + 2) after r →
      Expression point level start (before ++ ' ' :: (op.text.toList ++ ' ' :: after))
        (.binary l (.sign op.text (spanAt point (start + byteCount before + 1) op.text.toList)) r)
  | tighter (level : Level) {start : Nat} {text : List Char} {node : SyntaxNode} :
      Expression point level.tighter start text node → Expression point level start text node

variable {point : Nat → Point} {level : Level} {start : Nat} {text : List Char} {node : SyntaxNode}

/-- From the start of one text to the end of another is the text of both. -/
theorem spanAt_to {first last whole : List Char} {after : Nat}
    (h : after + byteCount last = start + byteCount whole) :
    (spanAt point start first).to (spanAt point after last) = spanAt point start whole := by
  simp only [Span.to, spanAt, h]

/-- A node covers the text that it is derived from. -/
theorem Expression.span_eq (h : Expression point level start text node) :
    node.info.span = spanAt point start text := by
  have blank : Char.utf8Size ' ' = 1 := rfl
  have opening : Char.utf8Size '(' = 1 := rfl
  have minus : Char.utf8Size '-' = 1 := rfl
  induction h with
  | integer => rfl
  | parenthesized _ _ =>
    rw [SyntaxNode.span_parenthesized]
    apply spanAt_to
    simp only [byteCount_cons, byteCount_append]
    omega
  | @unary start text operand _ ih =>
    rw [SyntaxNode.span_unary, ih]
    apply spanAt_to
    rw [byteCount_cons]
    omega
  | binary _ _ _ ihLeft ihRight =>
    rw [SyntaxNode.span_binary, ihLeft, ihRight]
    apply spanAt_to
    simp only [byteCount_cons, byteCount_append]
    omega
  | tighter _ _ ih => exact ih

/-- An expression stands on one line. -/
theorem Expression.oneLine (h : Expression point level start text node) : '\n' ∉ text := by
  induction h with
  | integer start value =>
    intro found
    have digit := (isDigits_toDigits value).2 _ found
    revert digit
    decide
  | parenthesized _ ih => simp [ih]
  | unary _ ih => simp [ih]
  | binary rule _ _ ihLeft ihRight => simp [ihLeft, ihRight, rule.oneLine]
  | tighter _ _ ih => exact ih

/-- An expression starts with none of the characters that make another mark of a minus sign. -/
theorem Expression.head (h : Expression point level start text node) :
    ∃ c rest, text = c :: rest ∧ c ≠ '=' ∧ c ≠ '>' := by
  induction h with
  | integer start value =>
    have digits := isDigits_toDigits value
    obtain ⟨c, rest, shape⟩ := List.exists_cons_of_ne_nil digits.1
    have digit := digits.2 c (by rw [shape]; exact List.mem_cons_self)
    refine ⟨c, rest, shape, ?_, ?_⟩ <;>
    · rintro rfl
      revert digit
      decide
  | parenthesized => exact ⟨_, _, rfl, by decide, by decide⟩
  | unary => exact ⟨_, _, rfl, by decide, by decide⟩
  | binary _ _ _ ihLeft _ =>
    obtain ⟨c, rest, rfl, equals, arrow⟩ := ihLeft
    exact ⟨c, _, rfl, equals, arrow⟩
  | tighter _ _ ih => exact ih

theorem hasError_within (field : String) (node : SyntaxNode) :
    (node.within field).hasError = node.hasError := by
  cases node
  rw [SyntaxNode.within, SyntaxNode.hasError, SyntaxNode.hasError]

/-- What is derived has no errors in it. -/
theorem Expression.hasError (h : Expression point level start text node) :
    node.hasError = false := by
  induction h with
  | integer => rfl
  | parenthesized _ ih =>
    simp [SyntaxNode.parenthesized, SyntaxNode.form, SyntaxNode.sign, SyntaxNode.hasError,
      SyntaxNode.anyError, ih]
  | unary _ ih =>
    simp [SyntaxNode.unary, SyntaxNode.form, SyntaxNode.sign, SyntaxNode.hasError,
      SyntaxNode.anyError, hasError_within, ih]
  | binary _ _ _ ihLeft ihRight =>
    simp [SyntaxNode.binary, SyntaxNode.form, SyntaxNode.sign, SyntaxNode.hasError,
      SyntaxNode.anyError, hasError_within, ihLeft, ihRight]
  | tighter _ _ ih => exact ih

/-! ## Other points -/

end Grammar

/-- A span with the point of its first byte. -/
def Span.repoint (point : Nat → Point) (span : Span) : Span :=
  { span with point := point span.start }

namespace SyntaxNode

mutual

/-- A node that has the points of its bytes everywhere. -/
def repoint (point : Nat → Point) : SyntaxNode → SyntaxNode
  | .mk info children =>
    .mk { info with span := info.span.repoint point } (repointAll point children)

/-- Nodes that have the points of their bytes everywhere. -/
def repointAll (point : Nat → Point) : List SyntaxNode → List SyntaxNode
  | [] => []
  | node :: rest => node.repoint point :: repointAll point rest

end

theorem repoint_within (point : Nat → Point) (field : String) (node : SyntaxNode) :
    (node.within field).repoint point = (node.repoint point).within field := by
  cases node
  rw [within, repoint, repoint, within]

theorem span_repoint (point : Nat → Point) (node : SyntaxNode) :
    (node.repoint point).info.span = node.info.span.repoint point := by
  cases node
  rw [repoint]
  rfl

theorem repoint_parenthesized (point : Nat → Point) (opening closing : Span) (inner : SyntaxNode) :
    (parenthesized opening closing inner).repoint point =
      parenthesized (opening.repoint point) (closing.repoint point) (inner.repoint point) := rfl

theorem repoint_unary (point : Nat → Point) (operator operand : SyntaxNode) :
    (unary operator operand).repoint point =
      unary (operator.repoint point) (operand.repoint point) := by
  simp only [unary, form, repoint, repointAll, repoint_within, span_repoint]
  rfl

theorem repoint_binary (point : Nat → Point) (left operator right : SyntaxNode) :
    (binary left operator right).repoint point =
      binary (left.repoint point) (operator.repoint point) (right.repoint point) := by
  simp only [binary, form, repoint, repointAll, repoint_within, span_repoint]
  rfl

end SyntaxNode

namespace Grammar

variable {point : Nat → Point} {level : Level} {start : Nat} {text : List Char} {node : SyntaxNode}

/-- What is derived under some points is derived under any others. -/
theorem Expression.repoint (h : Expression point level start text node) (other : Nat → Point) :
    Expression other level start text (node.repoint other) := by
  induction h with
  | integer start value => exact .integer start value
  | parenthesized _ ih => exact .parenthesized ih
  | unary _ ih =>
    rw [SyntaxNode.repoint_unary]
    exact .unary ih
  | binary rule _ _ ihLeft ihRight =>
    rw [SyntaxNode.repoint_binary]
    exact .binary rule ihLeft ihRight
  | tighter level _ ih => exact .tighter level ih

/-- With its own points back, a node is what it was. -/
theorem Expression.repoint_back (h : Expression point level start text node)
    (other : Nat → Point) : (node.repoint other).repoint point = node := by
  induction h with
  | integer => rfl
  | parenthesized _ ih =>
    rw [SyntaxNode.repoint_parenthesized, SyntaxNode.repoint_parenthesized, ih]
    rfl
  | unary _ ih =>
    rw [SyntaxNode.repoint_unary, SyntaxNode.repoint_unary, ih]
    rfl
  | binary _ _ _ ihLeft ihRight =>
    rw [SyntaxNode.repoint_binary, SyntaxNode.repoint_binary, ihLeft, ihRight]
    rfl
  | tighter _ _ ih => exact ih

/-! ## A function that returns an expression -/

/-- The text of a function that returns what stands in a text. -/
def functionText (value : List Char) : String :=
  "def f():\n    return " ++ String.ofList value ++ "\n"

/-- The definition in this text, where `value` is the node of what is returned. -/
def functionNode (point : Nat → Point) (text : List Char) (value : SyntaxNode) : SyntaxNode :=
  let span (start stop : Nat) : Span := ⟨point start, start, stop⟩
  let stop := 20 + byteCount text
  .form "function_definition" (span 0 stop)
    [.sign "def" (span 0 3), (SyntaxNode.leaf "identifier" (span 4 5)).within "name",
      (SyntaxNode.parameters (span 5 6) (span 6 7) []).within "parameters", .sign ":" (span 7 8),
      (SyntaxNode.form "block" (span 13 stop)
        [.form "return_statement" (span 13 stop) [.sign "return" (span 13 19), value]]).within
          "body"]

/-- The tree of this text. -/
def functionTree (point : Nat → Point) (text : List Char) (value : SyntaxNode) : SyntaxNode :=
  .form "module" ⟨point 0, 0, 21 + byteCount text⟩ [functionNode point text value]

theorem functionTree_injective {point : Nat → Point} {text : List Char} {value other : SyntaxNode}
    (h : functionTree point text value = functionTree point text other) : value = other := by
  simpa [functionTree, functionNode, SyntaxNode.form, SyntaxNode.within] using h

/-- The function around an expression has no errors of its own. -/
theorem hasError_functionTree (point : Nat → Point) (text : List Char) (value : SyntaxNode) :
    (functionTree point text value).hasError = value.hasError := by
  simp [functionTree, functionNode, SyntaxNode.form, SyntaxNode.leaf, SyntaxNode.sign,
    SyntaxNode.parameters, SyntaxNode.within, SyntaxNode.hasError, SyntaxNode.anyError]

/-- Rows and columns that fit 32 bits, the rows also when they are counted from 1. -/
def PointsFit (point : Nat → Point) : Prop :=
  ∀ start, (point start).row + 1 < UInt32.size ∧ (point start).column < UInt32.size

/-- What is assumed of a parser: it loads, and if the grammar derives anything from an expression,
then the parser makes of a function that returns the expression a tree with what the grammar
derives in it. A parser counts rows and columns in 32 bits. -/
structure GoesBy (parser : SourceParser) : Prop where
  loads : parser.refusal = none
  parses {point : Nat → Point} {text : List Char} {node : SyntaxNode} :
    Expression point .sum 20 text node → ∃ points found, PointsFit points ∧
      Expression points .sum 20 text found ∧
      parser.parse? (functionText text) = some (functionTree points text found)

end Grammar

end CallForm

-- The laws of source text that is written from a term: a function that
-- returns the text of an arithmetic term is read back as a function that
-- returns the term, whatever parentheses the text does without, by every
-- parser that goes by the grammar of expressions.
import CallForm.Proofs.Digits
import CallForm.Proofs.FunctionText
import CallForm.Proofs.Wording
import CallForm.Source.Reading

namespace CallForm

open Grammar

/-! ## The forms of arithmetic -/

namespace Converter

variable {source : String} {info : NodeInfo} {children : List SyntaxNode} {pos : Position}

theorem expr_integer (kind : info.kind = "integer") (place : info.span.point.position = .ok pos) :
    expr source (.mk info children) = integer source pos info := by
  rw [expr, place, except_ok_bind, kind]
  rfl

theorem expr_parenthesized {value : Expr} (kind : info.kind = "parenthesized_expression")
    (place : info.span.point.position = .ok pos)
    (inner : firstExpr? source children = .ok (some value)) :
    expr source (.mk info children) = .ok value := by
  rw [expr, place, except_ok_bind, kind]
  change (firstExpr? source children >>= _) = _
  rw [inner]
  rfl

theorem expr_unary {operator : String} {operand : Expr} (kind : info.kind = "unary_operator")
    (place : info.span.point.position = .ok pos)
    (text : textOf source info "operator" children = .ok operator)
    (inner : exprIn source info "argument" children = .ok operand) :
    expr source (.mk info children) = .ok (.unary pos (unaryOperator operator) operand) := by
  rw [expr, place, except_ok_bind, kind]
  change (textOf source info "operator" children >>= _) = _
  rw [text, except_ok_bind, inner]
  rfl

theorem expr_binary {op : BinaryOperator} {left right : Expr}
    (kind : info.kind = "binary_operator") (place : info.span.point.position = .ok pos)
    (text : textOf source info "operator" children = .ok op.text)
    (first : exprIn source info "left" children = .ok left)
    (second : exprIn source info "right" children = .ok right) :
    expr source (.mk info children) = .ok (.binary pos left op right) := by
  rw [expr, place, except_ok_bind, kind]
  change (textOf source info "operator" children >>= _) = _
  rw [text, except_ok_bind, BinaryOperator.ofText?_text]
  dsimp only
  rw [first, except_ok_bind, second]
  rfl

end Converter

namespace SyntaxNode

theorem field_within (field : String) (node : SyntaxNode) :
    (node.within field).info.field = some field := by
  cases node
  rfl

/-- A node is read as an expression, whatever part it has in the node above it. -/
def ReadsAs (source : String) (node : SyntaxNode) (expr : Expr) : Prop :=
  ∀ field, Converter.expr source (.mk { node.info with field } node.children) = .ok expr

variable {source : String} {node : SyntaxNode} {value : Expr}

theorem ReadsAs.self (h : node.ReadsAs source value) :
    Converter.expr source node = .ok value := by
  cases node with
  | mk info children => exact h info.field

theorem ReadsAs.within (h : node.ReadsAs source value) (field : String) :
    Converter.expr source (node.within field) = .ok value := by
  cases node with
  | mk info children => exact h (some field)

theorem readsAs_number {span : Span} {pos : Position} {n : UInt8}
    (place : span.point.position = .ok pos)
    (text : span.textIn source = String.ofList (Nat.toDigits 10 n.toNat)) :
    (leaf "integer" span).ReadsAs source (.number pos (.int (Int64.ofNat n.toNat))) := by
  have digits := isDigits_toDigits n.toNat
  have held : Word.holdsSigned64 n.toNat = true := by
    have := n.toNat_lt
    simp only [Word.holdsSigned64, decide_eq_true_eq]
    omega
  have value : Literal.integer? (String.ofList (Nat.toDigits 10 n.toNat)) =
      some (Int64.ofNat n.toNat) := by
    rw [Literal.integer?_digits digits, natOfDigits_toDigits, Word.signed64?, if_pos held]
    rfl
  intro field
  rw [leaf, form, children, info, Converter.expr_integer rfl place, Converter.integer, text,
    Literal.isImaginary_digits digits, value]
  rfl

/-- Parentheses are not seen. -/
theorem ReadsAs.parenthesized {opening closing : Span} {pos : Position}
    (h : node.ReadsAs source value) (isPart : node.isPart = true)
    (place : opening.point.position = .ok pos) :
    (SyntaxNode.parenthesized opening closing node).ReadsAs source value := by
  intro field
  have inner : Converter.firstExpr? source [sign "(" opening, node, sign ")" closing] =
      .ok (some value) := by
    have skipped : Converter.firstExpr? source [sign "(" opening, node, sign ")" closing] =
        Converter.firstExpr? source [node, sign ")" closing] := rfl
    rw [skipped, Converter.firstExpr?, if_pos isPart, h.self]
    rfl
  exact Converter.expr_parenthesized rfl place inner

theorem ReadsAs.negation {minus : Span} {pos : Position} (h : node.ReadsAs source value)
    (place : minus.point.position = .ok pos) (text : minus.textIn source = "-") :
    (SyntaxNode.unary (.sign "-" minus) node).ReadsAs source (.unary pos .minus value) := by
  intro field
  have operator (info : NodeInfo) : Converter.textOf source info "operator"
      [(sign "-" minus).within "operator", node.within "argument"] = .ok "-" :=
    congrArg Except.ok text
  have operand (info : NodeInfo) : Converter.exprIn source info "argument"
      [(sign "-" minus).within "operator", node.within "argument"] = .ok value := by
    rw [Converter.exprIn, field_within, if_neg (by decide), Converter.exprIn, field_within,
      if_pos rfl, h.within]
  exact Converter.expr_unary rfl place (operator _) (operand _)

theorem ReadsAs.operation {left right : SyntaxNode} {l r : Expr} {op : BinaryOperator}
    {between : Span} {pos : Position} (hl : left.ReadsAs source l) (hr : right.ReadsAs source r)
    (place : left.info.span.point.position = .ok pos) (text : between.textIn source = op.text) :
    (SyntaxNode.binary left (.sign op.text between) right).ReadsAs source (.binary pos l op r) := by
  intro field
  let parts := [left.within "left", (sign op.text between).within "operator", right.within "right"]
  have operator (info : NodeInfo) :
      Converter.textOf source info "operator" parts = .ok op.text := by
    have found : inField? "operator" parts = some ((sign op.text between).within "operator") := by
      simp [inField?, parts, field_within]
    rw [Converter.textOf, found]
    exact congrArg Except.ok text
  have first (info : NodeInfo) : Converter.exprIn source info "left" parts = .ok l := by
    rw [Converter.exprIn, field_within, if_pos rfl, hl.within]
  have second (info : NodeInfo) : Converter.exprIn source info "right" parts = .ok r := by
    rw [Converter.exprIn, field_within, if_neg (by decide), Converter.exprIn, field_within,
      if_neg (by decide), Converter.exprIn, field_within, if_pos rfl, hr.within]
  exact Converter.expr_binary rfl place (operator _) (first _) (second _)

end SyntaxNode

/-! ## What the writer writes -/

/-- The rule of the operator of a term, by the slots of its operands. -/
theorem ArithmeticOperator.rule (op : ArithmeticOperator) :
    OperatorRule (.ofSlot op.compiled.priority) (.ofSlot op.compiled.leftSlot) op.binary
      (.ofSlot op.compiled.rightSlot) := by
  cases op with
  | add | sub => exact .sum (by decide)
  | mul | div | mod => exact .product (by decide)
  | pow => exact .power

@[simp] theorem ArithmeticOperator.text_binary (op : ArithmeticOperator) :
    op.binary.text = op.symbol := by
  cases op <;> rfl

theorem Grammar.Expression.isPart {point : Nat → Point} {level : Level} {start : Nat}
    {text : List Char} {node : SyntaxNode} (h : Expression point level start text node) :
    node.isPart = true := by
  induction h with
  | integer | parenthesized | unary | binary => rfl
  | tighter _ _ ih => exact ih

/-- The wording of a term is an expression of the grammar, and its node is read as a tree that
mirrors the term. -/
theorem Arithmetic.Wording.expression {level : Level} {text : List Char} {term : Arithmetic}
    (h : Wording level text term) {point : Nat → Point} (fit : PointsFit point) {source : String}
    {front rest : List Char} (place : source.toList = front ++ (text ++ rest)) :
    ∃ node expr, Expression point level (byteCount front) text node ∧ Mirrors term expr ∧
      node.ReadsAs source expr := by
  have told (start : Nat) := Point.exists_position (fit start).1 (fit start).2
  induction h generalizing front rest with
  | number n =>
    obtain ⟨pos, here⟩ := told (byteCount front)
    exact ⟨_, _, .integer _ _, .number n pos,
      SyntaxNode.readsAs_number here (Span.textIn_eq place _ rfl rfl)⟩
  | @group text term _ ih =>
    obtain ⟨pos, here⟩ := told (byteCount front)
    have inside : source.toList = (front ++ ['(']) ++ (text ++ (')' :: rest)) := by
      rw [place]
      simp
    have start : byteCount (front ++ ['(']) = byteCount front + 1 := byteCount_append front ['(']
    obtain ⟨node, expr, derived, mirrors, reads⟩ := ih inside
    rw [start] at derived
    exact ⟨_, expr, .parenthesized derived, mirrors, reads.parenthesized derived.isPart here⟩
  | @negation text term _ ih =>
    obtain ⟨pos, here⟩ := told (byteCount front)
    have inside : source.toList = (front ++ ['-']) ++ (text ++ rest) := by
      rw [place]
      simp
    have start : byteCount (front ++ ['-']) = byteCount front + 1 := byteCount_append front ['-']
    obtain ⟨node, expr, derived, mirrors, reads⟩ := ih inside
    rw [start] at derived
    have signed : source.toList = front ++ (['-'] ++ (text ++ rest)) := by
      rw [place]
      simp
    have sign : (spanAt point (byteCount front) ['-']).textIn source = "-" :=
      Span.textIn_eq signed _ rfl rfl
    exact ⟨_, _, .unary (.tighter .factor derived), .negation pos mirrors,
      reads.negation here sign⟩
  | @operation before after left right op _ _ ihLeft ihRight =>
    obtain ⟨pos, here⟩ := told (byteCount front)
    have blank : byteCount [' '] = 1 := rfl
    rw [← op.text_binary] at place ⊢
    have first : source.toList =
        front ++ (before ++ (' ' :: (op.binary.text.toList ++ ' ' :: after) ++ rest)) := by
      rw [place]
      simp
    have between : source.toList =
        (front ++ (before ++ [' '])) ++ (op.binary.text.toList ++ (' ' :: after ++ rest)) := by
      rw [place]
      simp
    have second : source.toList =
        (front ++ (before ++ ([' '] ++ (op.binary.text.toList ++ [' '])))) ++ (after ++ rest) := by
      rw [place]
      simp
    have start :
        byteCount (front ++ (before ++ ([' '] ++ (op.binary.text.toList ++ [' '])))) =
          byteCount front + byteCount before + byteCount op.binary.text.toList + 2 := by
      simp only [byteCount_append, blank]
      omega
    obtain ⟨l, lhs, derivedLeft, mirrorsLeft, readsLeft⟩ := ihLeft first
    obtain ⟨r, rhs, derivedRight, mirrorsRight, readsRight⟩ := ihRight second
    rw [start] at derivedRight
    have sign : (spanAt point (byteCount front + byteCount before + 1)
        op.binary.text.toList).textIn source = op.binary.text := by
      have middle : byteCount (front ++ (before ++ [' '])) =
          byteCount front + byteCount before + 1 := by
        simp only [byteCount_append, blank, Nat.add_assoc]
      rw [Span.textIn_eq between _ middle.symm (by rw [middle]; rfl), String.ofList_toList]
    have opened : l.info.span.point.position = .ok pos := by
      rw [derivedLeft.span_eq]
      exact here
    exact ⟨_, _, .binary op.rule derivedLeft derivedRight,
      .operation op pos mirrorsLeft mirrorsRight, readsLeft.operation readsRight opened sign⟩
  | loosen level _ ih =>
    obtain ⟨node, expr, derived, mirrors, reads⟩ := ih place
    exact ⟨node, expr, .tighter level derived, mirrors, reads⟩

/-! ## The function around it -/

namespace Converter

variable {source : String} {info : NodeInfo} {children : List SyntaxNode} {pos : Position}

theorem block_single {part : SyntaxNode} {found : Stmt} (isPart : part.isPart = true)
    (read : stmt source part = .ok found) : block source [part] = .ok [found] := by
  rw [block, if_pos isPart, read]
  rfl

/-- A `return` with a value. -/
theorem stmt_return {value : Option Expr} (kind : info.kind = "return_statement")
    (place : info.span.point.position = .ok pos)
    (found : firstExpr? source children = .ok value) :
    stmt source (.mk info children) = .ok (.ret pos value) := by
  rw [stmt, place, except_ok_bind, kind]
  change (firstExpr? source children >>= _) = _
  rw [found]
  rfl

/-- A definition of a function. -/
theorem stmt_function {name : String} {formal : SyntaxNode} {params : List Param} {body : List Stmt}
    (kind : info.kind = "function_definition") (place : info.span.point.position = .ok pos)
    (named : textOf source info "name" children = .ok name)
    (opened : SyntaxNode.inField? "parameters" children = some formal)
    (read : Converter.params source formal.children = .ok params)
    (block : blockIn source info "body" children = .ok body) :
    stmt source (.mk info children) = .ok (.function pos (.mk name params body pos)) := by
  rw [stmt, place, except_ok_bind, kind]
  change (textOf source info "name" children >>= _) = _
  rw [named, except_ok_bind, opened]
  change (Converter.params source formal.children >>= _) = _
  rw [read, except_ok_bind, block, except_ok_bind]
  rfl

end Converter

/-- The tree of a function that returns an expression is read as this function. -/
theorem program_functionTree {point : Nat → Point} (fit : PointsFit point) {text : List Char}
    {node : SyntaxNode} {expr : Expr} (isPart : node.isPart = true)
    (reads : node.ReadsAs (functionText text) expr) :
    ∃ start place, Converter.program (functionText text) (functionTree point text node) =
      .ok { body := [.function start (.mk "f" [] [.ret place (some expr)] start)],
            imports := [] } := by
  obtain ⟨start, first⟩ := Point.exists_position (fit 0).1 (fit 0).2
  obtain ⟨place, second⟩ := Point.exists_position (fit 13).1 (fit 13).2
  refine ⟨start, place, ?_⟩
  have name : Span.textIn (functionText text) ⟨point 4, 4, 5⟩ = "f" := by
    have split : (functionText text).toList =
        ['d', 'e', 'f', ' '] ++ (['f'] ++ ("():\n    return ".toList ++ text ++ ['\n'])) := by
      unfold functionText
      simp
    exact Span.textIn_eq split _ rfl rfl
  have value (span : Span) : Converter.firstExpr? (functionText text) [.sign "return" span, node] =
      .ok (some expr) := by
    have skipped : Converter.firstExpr? (functionText text) [.sign "return" span, node] =
        Converter.firstExpr? (functionText text) [node] := rfl
    rw [skipped, Converter.firstExpr?, if_pos isPart, reads.self]
    rfl
  have returned : Converter.stmt (functionText text) (.form "return_statement"
      ⟨point 13, 13, 20 + byteCount text⟩ [.sign "return" ⟨point 13, 13, 19⟩, node]) =
        .ok (.ret place (some expr)) := Converter.stmt_return rfl second (value _)
  have block (info : NodeInfo) : Converter.blockIn (functionText text) info "body"
      (functionNode point text node).children = .ok [.ret place (some expr)] := by
    have inside : Converter.blockIn (functionText text) info "body"
        (functionNode point text node).children = Converter.block (functionText text)
          [.form "return_statement" ⟨point 13, 13, 20 + byteCount text⟩
            [.sign "return" ⟨point 13, 13, 19⟩, node]] := rfl
    rw [inside]
    exact Converter.block_single rfl returned
  have defined : Converter.stmt (functionText text) (functionNode point text node) =
      .ok (.function start (.mk "f" [] [.ret place (some expr)] start)) :=
    Converter.stmt_function rfl first (congrArg Except.ok name) rfl rfl (block _)
  have parts : Converter.program (functionText text) (functionTree point text node) =
      (Converter.block (functionText text) [functionNode point text node] >>= fun body =>
        .ok { body, imports := [] }) := rfl
  rw [parts, Converter.block_single rfl defined]
  rfl

/-! ## The law -/

/-- The text of a term behind the `return` of a function is read as a function that returns the
term: each number is its literal, and each operator holds the operands that it has in the term. -/
theorem a_term_is_read_as_it_was_written {parser : SourceParser} (goesBy : GoesBy parser)
    (term : Arithmetic) :
    ∃ start place expr,
      parser.program ("def f():\n    return " ++ term.source ++ "\n") =
        .ok { body := [.function start (.mk "f" [] [.ret place (some expr)] start)],
              imports := [] } ∧ Mirrors term expr := by
  have wording : Arithmetic.Wording .sum term.source.toList term :=
    term.wording_source.fits (Nat.zero_le _)
  have text : "def f():\n    return " ++ term.source ++ "\n" =
      functionText term.source.toList := by
    unfold functionText
    rw [String.ofList_toList]
  have place : (functionText term.source.toList).toList =
      "def f():\n    return ".toList ++ (term.source.toList ++ ['\n']) := by
    rw [← text]
    simp
  have start : byteCount "def f():\n    return ".toList = 20 := by decide
  -- The grammar derives some node from the text, and the parser finds one that it derives.
  obtain ⟨node, _, derived, _⟩ := wording.expression pointsFit_functionPoint place
  rw [start] at derived
  obtain ⟨point, found, fit, derivedFound, parsed⟩ := goesBy.parses derived
  -- It is the one that holds the operands of the term, for the grammar derives no other.
  obtain ⟨node, expr, derived, mirrors, reads⟩ := wording.expression fit place
  rw [start] at derived
  cases derivedFound.unique derived
  obtain ⟨start, place, read⟩ := program_functionTree fit derived.isPart reads
  refine ⟨start, place, expr, ?_, mirrors⟩
  have root : parser.root (functionText term.source.toList) =
      .ok (functionTree point term.source.toList found) := by
    rw [SourceParser.root, goesBy.loads, parsed]
  have clean : (functionTree point term.source.toList found).hasError = false := by
    rw [hasError_functionTree, derived.hasError]
  rw [text]
  exact SourceParser.program_eq_ok_iff.mpr ⟨_, root, clean, read⟩

theorem a_power_and_a_difference_are_read_as_they_were_written :
    GoesBy grammarParser ∧ ∃ start place expr,
      grammarParser.program "def f():\n    return 2 ** (-3) - (4 - 5)\n" =
        .ok { body := [.function start (.mk "f" [] [.ret place (some expr)] start)],
              imports := [] } ∧ Mirrors .nested expr :=
  ⟨goesBy_grammarParser, a_term_is_read_as_it_was_written goesBy_grammarParser .nested⟩

end CallForm

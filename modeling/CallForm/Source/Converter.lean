-- From the nodes of a source text to its tree: literals get their values,
-- parentheses go, and a kind that the tree has no form for is kept as
-- unknown. A node is refused only where the tree cannot hold it at all.
import CallForm.Source.Literal
import CallForm.Source.SyntaxNode
import CallForm.Tree.Basic

namespace CallForm

/-! ## String literals -/

/-- The value of a string literal, or the kind of a literal that has no value here. -/
inductive StringValue
  | text (value : String)
  | other (kind : String)
deriving Repr, DecidableEq

namespace StringValue

/-- Whether a character is a quote. -/
def isQuote (c : Char) : Bool := c == '"' || c == '\''

/-- The quotes that a text opens with: three alike, else its first byte. -/
def quotes : List Char → List Char
  | '"' :: '"' :: '"' :: _ => ['"', '"', '"']
  | '\'' :: '\'' :: '\'' :: _ => ['\'', '\'', '\'']
  | c :: _ => if c.utf8Size = 1 then [c] else []
  | [] => []

/-- A text without the quotes that it opens with, if it closes with them too. -/
def unquote (text : List Char) : List Char :=
  let rest := text.drop (quotes text).length
  if (quotes text).isSuffixOf rest then rest.take (rest.length - (quotes text).length) else []

/-- The letters in front of the first quote of a literal, and the rest of it. -/
def splitLetters (text : List Char) : List Char × List Char :=
  if text.any isQuote then text.span fun c => !isQuote c else ([], text)

/-- The value of one string literal. -/
def ofLiteral (text : String) : StringValue :=
  let (letters, quoted) := splitLetters text.toList
  let letters := letters.map Char.toLower
  if letters.contains 'f' then .other "f-string"
  else if letters.contains 'b' then .other "bytes"
  else if letters.contains 'r' then .text (String.ofList (unquote quoted))
  else .text (String.ofList (Literal.unescape (unquote quoted)))

/-- The value of several string literals side by side: their texts joined, or the kind of the
first that has no text. -/
def ofLiterals : List String → StringValue
  | [] => .text ""
  | literal :: rest =>
    match ofLiteral literal with
    | .other kind => .other kind
    | .text value =>
      match ofLiterals rest with
      | .other kind => .other kind
      | .text others => .text (value ++ others)

/-- The expression of the value of a string literal. -/
def expr (pos : Position) : StringValue → Expr
  | .text value => .string pos value
  | .other kind => .unknown pos kind

end StringValue

namespace Converter

/-! ## Refused nodes -/

/-- The error of a node without a child that it has to have. -/
def malformed (info : NodeInfo) : SourceError :=
  match info.span.point.position with
  | .ok pos => .malformed info.kind pos
  | .error cause => cause

/-- The error of a number literal that no number is made of. -/
def invalidLiteral (info : NodeInfo) (text : String) : SourceError :=
  match info.span.point.position with
  | .ok pos => .invalidLiteral text pos.line
  | .error cause => cause

/-- What a node has to have. -/
def required {α : Type} (info : NodeInfo) : Option α → Except SourceError α
  | some found => .ok found
  | none => .error (malformed info)

/-! ## Expressions -/

/-- The forms of expressions. -/
inductive ExprForm
  | name | integer | float | string | strings
  | constant (value : Constant)
  | binary | unary | negation | comparison | call | member | subscript | list | tuple
  | parenthesized | lambda | unknown
deriving Repr, DecidableEq

/-- The form that a kind of node asks for. -/
def ExprForm.ofKind : String → ExprForm
  | "identifier" => .name
  | "integer" => .integer
  | "float" => .float
  | "string" => .string
  | "concatenated_string" => .strings
  | "true" => .constant .true
  | "false" => .constant .false
  | "none" => .constant .none
  | "binary_operator" => .binary
  | "unary_operator" => .unary
  | "not_operator" => .negation
  | "comparison_operator" => .comparison
  | "call" => .call
  | "attribute" => .member
  | "subscript" => .subscript
  | "list" | "list_pattern" => .list
  | "tuple" | "tuple_pattern" | "expression_list" | "pattern_list" => .tuple
  | "parenthesized_expression" => .parenthesized
  | "lambda" => .lambda
  | _ => .unknown

/-- The operator in front of an operand that has a text. -/
def unaryOperator : String → UnaryOperator
  | "-" => .minus
  | "+" => .plus
  | _ => .invert

/-- The operands and operators of a comparison, or a sign that is no operator. -/
inductive ComparisonParts
  | known (operands : List Expr) (ops : List Comparison)
  | unknown (sign : String)

/-- The parts of a comparison with an operand in front of them. -/
def ComparisonParts.withOperand (operand : Expr) : ComparisonParts → ComparisonParts
  | .known operands ops => .known (operand :: operands) ops
  | .unknown sign => .unknown sign

/-- The parts of a comparison with an operator in front of them. -/
def ComparisonParts.withOperator (op : Comparison) : ComparisonParts → ComparisonParts
  | .known operands ops => .known operands (op :: ops)
  | .unknown sign => .unknown sign

/-- The bounds of a slice. -/
structure Bounds where
  lower : Option Expr := none
  upper : Option Expr := none
  step : Option Expr := none

/-- The bounds with a value at a place among them. -/
def Bounds.put (bounds : Bounds) (value : Expr) : Nat → Bounds
  | 0 => { bounds with lower := some value }
  | 1 => { bounds with upper := some value }
  | 2 => { bounds with step := some value }
  | _ => bounds

/-- The value of a dimension without a slice. -/
def itemOf? : Dim → Option Expr
  | .item value => some value
  | .slice _ => none

section

variable (source : String)

/-- The text of a child that a node has to have. -/
def textOf (info : NodeInfo) (field : String) (children : List SyntaxNode) :
    Except SourceError String :=
  (required info (SyntaxNode.inField? field children)).map (·.textIn source)

/-- An integer literal. -/
def integer (pos : Position) (info : NodeInfo) : Except SourceError Expr :=
  let text := info.span.textIn source
  if Literal.isImaginary text then .ok (.unknown pos "complex")
  else
    match Literal.integer? text with
    | some value => .ok (.number pos (.int value))
    | none => .error (invalidLiteral info text)

/-- A literal with a point or an exponent. -/
def double (pos : Position) (info : NodeInfo) : Except SourceError Expr :=
  let text := info.span.textIn source
  if Literal.isImaginary text then .ok (.unknown pos "complex")
  else
    match Literal.double? text with
    | some value => .ok (.number pos (.float value))
    | none => .error (invalidLiteral info text)

/-- The node of a parameter's name, if the parameter is a name with or without a type. -/
def paramName? : SyntaxNode → Option SyntaxNode
  | .mk info children =>
    if info.kind = "identifier" then some (.mk info children)
    else if info.kind = "typed_parameter" then
      (children.find? (·.isPart)).filter (·.info.kind == "identifier")
    else none

/-- A formal parameter. -/
def param (node : SyntaxNode) : Except SourceError Param := do
  let pos ← node.info.span.point.position
  match paramName? node with
  | some name => .ok { name := name.textIn source, pos }
  | none => .error (.unsupportedParameter node.info.kind pos)

/-- The formal parameters among the children of a node. -/
def params (children : List SyntaxNode) : Except SourceError (List Param) :=
  (children.filter (·.isPart)).mapM (param source)

/-- The formal parameters of a lambda, which may have none. -/
def lambdaParams (children : List SyntaxNode) : Except SourceError (List Param) :=
  match SyntaxNode.inField? "parameters" children with
  | some found => params source found.children
  | none => .ok []

/-- The index that the dimensions of a subscript make: a single one is an item or a slice, several
are one tuple unless one of them is a slice. The tuple stands where the first dimension does. -/
def index (info : NodeInfo) (children : List SyntaxNode) : List Dim → Except SourceError Index
  | [] => .error (malformed info)
  | [.item value] => .ok (.item value)
  | [.slice bounds] => .ok (.slice bounds)
  | parts =>
    match parts.mapM itemOf? with
    | none => .ok (.dims parts)
    | some items => do
      let first ← required info (children.find? (·.isIn "subscript"))
      let pos ← first.info.span.point.position
      .ok (.item (.tuple pos items))

mutual

/-- The expression of a node. Of a call the arguments are looked at before the callee. -/
def expr : SyntaxNode → Except SourceError Expr
  | .mk info children => do
    let pos ← info.span.point.position
    match ExprForm.ofKind info.kind with
    | .name => .ok (.name pos (info.span.textIn source))
    | .integer => integer source pos info
    | .float => double source pos info
    | .string => .ok ((StringValue.ofLiteral (info.span.textIn source)).expr pos)
    | .strings =>
      let literals := (children.filter (·.isPart)).map (·.textIn source)
      .ok ((StringValue.ofLiterals literals).expr pos)
    | .constant value => .ok (.constant pos value)
    | .binary => do
      let operator ← textOf source info "operator" children
      match BinaryOperator.ofText? operator with
      | some op => do
        let left ← exprIn info "left" children
        let right ← exprIn info "right" children
        .ok (.binary pos left op right)
      | none => .ok (.unknown pos ("binary_operator `" ++ operator ++ "`"))
    | .unary => do
      let operator ← textOf source info "operator" children
      let operand ← exprIn info "argument" children
      .ok (.unary pos (unaryOperator operator) operand)
    | .negation => do
      let operand ← exprIn info "argument" children
      .ok (.unary pos .not operand)
    | .comparison => do
      match ← comparison children with
      | .unknown sign => .ok (.unknown pos ("comparison_operator `" ++ sign ++ "`"))
      | .known [] _ => .error (malformed info)
      | .known (left :: comparators) ops => .ok (.compare pos left ops comparators)
    | .call => do
      let args ← argsIn info children
      let callee ← exprIn info "function" children
      .ok (.call pos callee args)
    | .member => do
      let object ← exprIn info "object" children
      let member ← textOf source info "attribute" children
      .ok (.attribute pos object member)
    | .subscript => do
      let base ← exprIn info "value" children
      let parts ← dims children
      let index ← index info children parts
      .ok (.subscript pos base index)
    | .list => do
      let items ← exprs children
      .ok (.list pos items)
    | .tuple => do
      let items ← exprs children
      .ok (.tuple pos items)
    | .parenthesized => do
      let inner ← firstExpr? children
      required info inner
    | .lambda => do
      let formal ← lambdaParams source children
      let body ← exprIn info "body" children
      .ok (.lambda pos formal body)
    | .unknown => .ok (.unknown pos info.kind)

/-- The expression of a child that a node has to have. -/
def exprIn (info : NodeInfo) (field : String) : List SyntaxNode → Except SourceError Expr
  | [] => .error (malformed info)
  | child :: rest => if child.info.field = some field then expr child else exprIn info field rest

/-- The expressions of the children that make up a form, in order. -/
def exprs : List SyntaxNode → Except SourceError (List Expr)
  | [] => .ok []
  | child :: rest =>
    if child.isPart then do
      let first ← expr child
      let others ← exprs rest
      .ok (first :: others)
    else exprs rest

/-- The expression of the first child that makes up a form. -/
def firstExpr? : List SyntaxNode → Except SourceError (Option Expr)
  | [] => .ok none
  | child :: rest =>
    if child.isPart then do
      let found ← expr child
      .ok (some found)
    else firstExpr? rest

/-- The arguments of a call: those of a list, or one that stands for the list. -/
def argsIn (info : NodeInfo) : List SyntaxNode → Except SourceError (List Expr)
  | [] => .error (malformed info)
  | .mk found inner :: rest =>
    if found.field = some "arguments" then
      if found.kind = "argument_list" then exprs inner
      else do
        let only ← expr (.mk found inner)
        .ok [only]
    else argsIn info rest

/-- The parts of a comparison, up to the first sign that is no operator. -/
def comparison : List SyntaxNode → Except SourceError ComparisonParts
  | [] => .ok (.known [] [])
  | child :: rest =>
    if child.info.extra then comparison rest
    else if child.info.named then do
      let operand ← expr child
      let others ← comparison rest
      .ok (others.withOperand operand)
    else
      match Comparison.ofText? child.info.kind with
      | none => .ok (.unknown child.info.kind)
      | some op => do
        let others ← comparison rest
        .ok (others.withOperator op)

/-- The dimensions of a subscript, in order. -/
def dims : List SyntaxNode → Except SourceError (List Dim)
  | [] => .ok []
  | .mk found inner :: rest =>
    if (SyntaxNode.mk found inner).isIn "subscript" then
      if found.kind = "slice" then do
        let inner ← bounds 0 {} inner
        let pos ← found.span.point.position
        let others ← dims rest
        .ok (.slice (.mk inner.lower inner.upper inner.step pos) :: others)
      else do
        let first ← expr (.mk found inner)
        let others ← dims rest
        .ok (.item first :: others)
    else dims rest

/-- The bounds of a slice: `slot` counts the colons in front of a bound. -/
def bounds (slot : Nat) (known : Bounds) : List SyntaxNode → Except SourceError Bounds
  | [] => .ok known
  | child :: rest =>
    if child.info.extra then bounds slot known rest
    else if child.info.kind = ":" then bounds (slot + 1) known rest
    else if slot < 3 then do
      let value ← expr child
      bounds slot (known.put value slot) rest
    else bounds slot known rest

end

/-! ## Statements -/

/-- The forms of statements. -/
inductive StmtForm
  | function | decorated | expression | ret | branch | whileLoop | forLoop | unknown
deriving Repr, DecidableEq

/-- The form that a kind of node asks for. -/
def StmtForm.ofKind : String → StmtForm
  | "function_definition" => .function
  | "decorated_definition" => .decorated
  | "expression_statement" => .expression
  | "return_statement" => .ret
  | "if_statement" => .branch
  | "while_statement" => .whileLoop
  | "for_statement" => .forLoop
  | _ => .unknown

/-- The operator of an assignment that has a text: what stands in front of its equals sign. -/
def augmentOperator? (text : String) : Option BinaryOperator :=
  if text.toList.getLast? = some '=' then
    BinaryOperator.ofText? (String.ofList text.toList.dropLast)
  else none

/-- The values of an expression statement: several of them are one tuple that stands where the
first does. -/
def asStatementValues : List Expr → List Expr
  | first :: second :: rest => [.tuple first.pos (first :: second :: rest)]
  | values => values

/-- An assignment. One without a value only tells a type. -/
def assignment (pos : Position) (info : NodeInfo) (children : List SyntaxNode) :
    Except SourceError Stmt :=
  match SyntaxNode.inField? "right" children with
  | none => .ok (.unknown pos "annotated_assignment")
  | some value =>
    if value.info.kind = "assignment" then .ok (.unknown pos "chained_assignment")
    else do
      let target ← exprIn source info "left" children
      let value ← expr source value
      .ok (.assign pos target value)

/-- An assignment that works on the old value. -/
def augmentedAssignment (pos : Position) (info : NodeInfo) (children : List SyntaxNode) :
    Except SourceError Stmt := do
  let operator ← textOf source info "operator" children
  match augmentOperator? operator with
  | none => .ok (.unknown pos ("augmented_assignment `" ++ operator ++ "`"))
  | some op => do
    let target ← exprIn source info "left" children
    let value ← exprIn source info "right" children
    .ok (.augment pos target op value)

/-- A statement that is an expression or an assignment. -/
def expressionStmt (pos : Position) (children : List SyntaxNode) : Except SourceError Stmt :=
  let plain := (exprs source children).map fun values => .expr pos (asStatementValues values)
  match children.filter (·.isPart) with
  | [.mk info inner] =>
    if info.kind = "assignment" then assignment source pos info inner
    else if info.kind = "augmented_assignment" then augmentedAssignment source pos info inner
    else plain
  | _ => plain

mutual

/-- The statement of a node. A definition behind decorators stands for itself. -/
def stmt : SyntaxNode → Except SourceError Stmt
  | .mk info children => do
    let pos ← info.span.point.position
    match StmtForm.ofKind info.kind with
    | .function => do
      let name ← textOf source info "name" children
      let formal ← required info (SyntaxNode.inField? "parameters" children)
      let params ← params source formal.children
      let body ← blockIn info "body" children
      let place ← info.span.point.position
      .ok (.function pos (.mk name params body place))
    | .decorated => stmtIn info "definition" children
    | .expression => expressionStmt source pos children
    | .ret => do
      let value ← firstExpr? source children
      .ok (.ret pos value)
    | .branch => do
      let test ← exprIn source info "condition" children
      let body ← blockIn info "consequence" children
      let orelse ← alternatives children
      .ok (.branch pos test body orelse)
    | .whileLoop => do
      let test ← exprIn source info "condition" children
      let body ← blockIn info "body" children
      let orelse ← elseClause children
      .ok (.whileLoop pos test body orelse)
    | .forLoop => do
      let target ← exprIn source info "left" children
      let iter ← exprIn source info "right" children
      let body ← blockIn info "body" children
      let orelse ← elseClause children
      .ok (.forLoop pos target iter body orelse)
    | .unknown => .ok (.unknown pos info.kind)

/-- The statement of a child that a node has to have. -/
def stmtIn (info : NodeInfo) (field : String) : List SyntaxNode → Except SourceError Stmt
  | [] => .error (malformed info)
  | child :: rest => if child.info.field = some field then stmt child else stmtIn info field rest

/-- The statements of the children that make up a block, in order. -/
def block : List SyntaxNode → Except SourceError (List Stmt)
  | [] => .ok []
  | child :: rest =>
    if child.isPart then do
      let first ← stmt child
      let others ← block rest
      .ok (first :: others)
    else block rest

/-- The statements of a block that a node has to have. -/
def blockIn (info : NodeInfo) (field : String) :
    List SyntaxNode → Except SourceError (List Stmt)
  | [] => .error (malformed info)
  | .mk found inner :: rest =>
    if found.field = some field then block inner else blockIn info field rest

/-- The other branch of a conditional: an `elif` is a conditional in it that goes on with the
clauses behind. -/
def alternatives : List SyntaxNode → Except SourceError (List Stmt)
  | [] => .ok []
  | .mk found inner :: rest =>
    if (SyntaxNode.mk found inner).isIn "alternative" then
      if found.kind = "elif_clause" then do
        let test ← exprIn source found "condition" inner
        let body ← blockIn found "consequence" inner
        let orelse ← alternatives rest
        let pos ← found.span.point.position
        .ok [.branch pos test body orelse]
      else blockIn found "body" inner
    else alternatives rest

/-- The statements of the `else` clause of a loop, if it has one. -/
def elseClause : List SyntaxNode → Except SourceError (List Stmt)
  | [] => .ok []
  | .mk found inner :: rest =>
    if found.field = some "alternative" then blockIn found "body" inner else elseClause rest

end

/-! ## Whole texts -/

/-- What a part of an import statement binds: an alias, or the first name of the module. -/
def importOf? : SyntaxNode → Option Import
  | .mk info children =>
    if info.kind = "dotted_name" then
      let root := String.ofList ((info.span.textIn source).toList.takeWhile (· != '.'))
      some { source := root, binding := root }
    else if info.kind = "aliased_import" then do
      let imported ← SyntaxNode.inField? "name" children
      let other ← SyntaxNode.inField? "alias" children
      some { source := imported.textIn source, binding := other.textIn source }
    else none

/-- What an import statement at the top level binds. -/
def importsOf (node : SyntaxNode) : List Import :=
  if node.info.kind = "import_statement" then
    (node.children.filter (·.isPart)).filterMap (importOf? source)
  else []

/-- Whether a statement is an import, of modules or out of one. -/
def isImport (node : SyntaxNode) : Bool :=
  ["import_statement", "import_from_statement", "future_import_statement"].contains node.info.kind

/-- The program of the root of a text: imports at the top level are taken out of its statements. -/
def program (root : SyntaxNode) : Except SourceError Program := do
  let parts := root.children.filter (·.isPart)
  let body ← block source (parts.filter (!isImport ·))
  .ok { body, imports := parts.flatMap (importsOf source) }

end

end Converter

end CallForm

-- Trees with finite numbers, which are the trees that can be written down:
-- a literal that is not finite is refused, so the tree of a source text is
-- one of them.
import CallForm.Proofs.Decoded
import CallForm.Proofs.Outcome
import CallForm.Source.Reading

namespace CallForm

/-! ## Trees with finite numbers -/

/-- Whether a number literal is finite. -/
def Number.isFinite : Number → Bool
  | .int _ => true
  | .float value => value.isFinite

mutual

/-- Whether all numbers of an expression are finite. -/
def Expr.isFinite : Expr → Bool
  | .name .. | .string .. | .constant .. | .unknown .. => true
  | .number _ value => value.isFinite
  | .binary _ left _ right => left.isFinite && right.isFinite
  | .unary _ _ operand => operand.isFinite
  | .compare _ left _ comparators => left.isFinite && Expr.allFinite comparators
  | .call _ callee args => callee.isFinite && Expr.allFinite args
  | .attribute _ object _ => object.isFinite
  | .subscript _ base index => base.isFinite && index.isFinite
  | .list _ items | .tuple _ items => Expr.allFinite items
  | .lambda _ _ body => body.isFinite

/-- Whether all numbers of several expressions are finite. -/
def Expr.allFinite : List Expr → Bool
  | [] => true
  | expr :: rest => expr.isFinite && Expr.allFinite rest

/-- Whether all numbers of an expression are finite, if there is one. -/
def Expr.optionFinite : Option Expr → Bool
  | none => true
  | some expr => expr.isFinite

/-- Whether all numbers of an index are finite. -/
def Index.isFinite : Index → Bool
  | .item value => value.isFinite
  | .slice bounds => bounds.isFinite
  | .dims parts => Dim.allFinite parts

/-- Whether all numbers of a dimension are finite. -/
def Dim.isFinite : Dim → Bool
  | .item value => value.isFinite
  | .slice bounds => bounds.isFinite

/-- Whether all numbers of several dimensions are finite. -/
def Dim.allFinite : List Dim → Bool
  | [] => true
  | part :: rest => part.isFinite && Dim.allFinite rest

/-- Whether all numbers of the bounds of a slice are finite. -/
def Slice.isFinite : Slice → Bool
  | .mk lower upper step _ =>
    Expr.optionFinite lower && Expr.optionFinite upper && Expr.optionFinite step

end

mutual

/-- Whether all numbers of a statement are finite. -/
def Stmt.isFinite : Stmt → Bool
  | .function _ definition => definition.isFinite
  | .assign _ target value | .augment _ target _ value => target.isFinite && value.isFinite
  | .branch _ test body orelse | .whileLoop _ test body orelse =>
    test.isFinite && Stmt.allFinite body && Stmt.allFinite orelse
  | .forLoop _ target iter body orelse =>
    target.isFinite && iter.isFinite && Stmt.allFinite body && Stmt.allFinite orelse
  | .ret _ value => Expr.optionFinite value
  | .expr _ values => Expr.allFinite values
  | .unknown .. => true

/-- Whether all numbers of several statements are finite. -/
def Stmt.allFinite : List Stmt → Bool
  | [] => true
  | stmt :: rest => stmt.isFinite && Stmt.allFinite rest

/-- Whether all numbers of a function definition are finite. -/
def FunctionDef.isFinite : FunctionDef → Bool
  | .mk _ _ body _ => Stmt.allFinite body

end

/-- Whether all numbers of a program are finite. -/
def Program.isFinite (program : Program) : Bool :=
  Stmt.allFinite program.body

/-! ## Expressions of nodes -/

namespace Converter

/-- A literal of a source text is finite, or it is not read. -/
theorem double_isFinite {source : String} {pos : Position} {info : NodeInfo} {value : Expr}
    (h : double source pos info = .ok value) : value.isFinite = true := by
  unfold double at h
  dsimp only at h
  split at h
  · cases h
    rfl
  · split at h
    · rename_i value read
      cases h
      exact (Option.filter_eq_some_iff.mp read).2
    · cases h

theorem integer_isFinite {source : String} {pos : Position} {info : NodeInfo} {value : Expr}
    (h : integer source pos info = .ok value) : value.isFinite = true := by
  unfold integer at h
  dsimp only at h
  split at h
  · cases h
    rfl
  · split at h
    · cases h
      rfl
    · cases h

theorem isFinite_string (pos : Position) (found : StringValue) :
    (found.expr pos).isFinite = true := by
  cases found <;> rfl

theorem required_eq_ok {α : Type} {info : NodeInfo} {found? : Option α} {found : α} :
    required info found? = .ok found ↔ found? = some found := by
  cases found? <;> simp [required]

theorem allFinite_of_items {parts : List Dim} {items : List Expr}
    (h : parts.mapM itemOf? = some items) : Dim.allFinite parts = Expr.allFinite items := by
  have each := mapM_eq_some_iff.mp h
  clear h
  induction each with
  | nil => rfl
  | @cons part item _ _ same _ ih =>
    rw [Dim.allFinite, Expr.allFinite, ih]
    cases part with
    | item value =>
      cases same
      rw [Dim.isFinite]
    | slice bounds => cases same

theorem index_isFinite {info : NodeInfo} {children : List SyntaxNode} {parts : List Dim}
    {found : Index} (h : index info children parts = .ok found)
    (finite : Dim.allFinite parts = true) : found.isFinite = true := by
  unfold index at h
  split at h
  · cases h
  · cases h
    simpa [Index.isFinite, Dim.isFinite, Dim.allFinite] using finite
  · cases h
    simpa [Index.isFinite, Dim.isFinite, Dim.allFinite] using finite
  · split at h
    · cases h
      rwa [Index.isFinite]
    · rename_i items read
      obtain ⟨first, _, h⟩ := bind_eq_ok.mp h
      obtain ⟨pos, _, h⟩ := bind_eq_ok.mp h
      cases h
      rwa [Index.isFinite, Expr.isFinite, ← allFinite_of_items read]

/-- The operands of a comparison, as far as its signs are operators. -/
def ComparisonParts.operands : ComparisonParts → List Expr
  | .known operands _ => operands
  | .unknown _ => []

theorem ComparisonParts.allFinite_withOperand {operand : Expr} {parts : ComparisonParts}
    (first : operand.isFinite = true) (others : Expr.allFinite parts.operands = true) :
    Expr.allFinite (parts.withOperand operand).operands = true := by
  cases parts with
  | known operands ops =>
    rw [withOperand, ComparisonParts.operands, Expr.allFinite, first]
    exact others
  | unknown sign => rfl

theorem ComparisonParts.operands_withOperator (op : Comparison) (parts : ComparisonParts) :
    (parts.withOperator op).operands = parts.operands := by
  cases parts <;> rfl

/-- Whether all numbers of some bounds are finite. -/
def Bounds.isFinite (bounds : Bounds) : Bool :=
  Expr.optionFinite bounds.lower && Expr.optionFinite bounds.upper &&
    Expr.optionFinite bounds.step

theorem Bounds.isFinite_put {bounds : Bounds} {value : Expr} (known : bounds.isFinite = true)
    (finite : value.isFinite = true) (slot : Nat) : (bounds.put value slot).isFinite = true := by
  simp only [isFinite, Bool.and_eq_true] at known ⊢
  have new : Expr.optionFinite (some value) = true := finite
  match slot with
  | 0 => exact ⟨⟨new, known.1.2⟩, known.2⟩
  | 1 => exact ⟨⟨known.1.1, new⟩, known.2⟩
  | 2 => exact ⟨known.1, new⟩
  | _ + 3 => exact known

section

variable (source : String)

mutual

/-- What a node is read to has finite numbers. -/
theorem expr_isFinite : ∀ (node : SyntaxNode) (value : Expr),
    expr source node = .ok value → value.isFinite = true
  | .mk info children, value, h => by
    rw [expr] at h
    obtain ⟨pos, _, h⟩ := bind_eq_ok.mp h
    generalize ExprForm.ofKind info.kind = form at h
    cases form with
    | name | constant | unknown =>
      cases h
      rw [Expr.isFinite]
    | integer => exact integer_isFinite h
    | float => exact double_isFinite h
    | string | strings =>
      cases h
      exact isFinite_string pos _
    | binary =>
      obtain ⟨operator, _, h⟩ := bind_eq_ok.mp h
      cases known : BinaryOperator.ofText? operator with
      | none =>
        rw [known] at h
        cases h
        rw [Expr.isFinite]
      | some op =>
        rw [known] at h
        obtain ⟨left, hleft, h⟩ := bind_eq_ok.mp h
        obtain ⟨right, hright, h⟩ := bind_eq_ok.mp h
        cases h
        rw [Expr.isFinite, exprIn_isFinite _ _ children left hleft,
          exprIn_isFinite _ _ children right hright]
        rfl
    | unary =>
      obtain ⟨operator, _, h⟩ := bind_eq_ok.mp h
      obtain ⟨operand, hoperand, h⟩ := bind_eq_ok.mp h
      cases h
      rw [Expr.isFinite]
      exact exprIn_isFinite _ _ children operand hoperand
    | negation =>
      obtain ⟨operand, hoperand, h⟩ := bind_eq_ok.mp h
      cases h
      rw [Expr.isFinite]
      exact exprIn_isFinite _ _ children operand hoperand
    | comparison =>
      obtain ⟨parts, hparts, h⟩ := bind_eq_ok.mp h
      have finite := comparison_allFinite children parts hparts
      match parts, finite, h with
      | .unknown sign, _, h =>
        cases h
        rw [Expr.isFinite]
      | .known [] ops, _, h => cases h
      | .known (left :: comparators) ops, finite, h =>
        cases h
        exact finite
    | call =>
      obtain ⟨args, hargs, h⟩ := bind_eq_ok.mp h
      obtain ⟨callee, hcallee, h⟩ := bind_eq_ok.mp h
      cases h
      rw [Expr.isFinite, exprIn_isFinite _ _ children callee hcallee,
        argsIn_allFinite _ children args hargs]
      rfl
    | member =>
      obtain ⟨object, hobject, h⟩ := bind_eq_ok.mp h
      obtain ⟨member, _, h⟩ := bind_eq_ok.mp h
      cases h
      rw [Expr.isFinite]
      exact exprIn_isFinite _ _ children object hobject
    | subscript =>
      obtain ⟨base, hbase, h⟩ := bind_eq_ok.mp h
      obtain ⟨parts, hparts, h⟩ := bind_eq_ok.mp h
      obtain ⟨found, hindex, h⟩ := bind_eq_ok.mp h
      cases h
      rw [Expr.isFinite, exprIn_isFinite _ _ children base hbase,
        index_isFinite hindex (dims_allFinite children parts hparts)]
      rfl
    | list | tuple =>
      obtain ⟨items, hitems, h⟩ := bind_eq_ok.mp h
      cases h
      rw [Expr.isFinite]
      exact exprs_allFinite children items hitems
    | parenthesized =>
      obtain ⟨inner, hinner, h⟩ := bind_eq_ok.mp h
      cases required_eq_ok.mp h
      exact firstExpr?_optionFinite children (some value) hinner
    | lambda =>
      obtain ⟨params, _, h⟩ := bind_eq_ok.mp h
      obtain ⟨body, hbody, h⟩ := bind_eq_ok.mp h
      cases h
      rw [Expr.isFinite]
      exact exprIn_isFinite _ _ children body hbody

theorem exprIn_isFinite (info : NodeInfo) (field : String) :
    ∀ (children : List SyntaxNode) (value : Expr),
      exprIn source info field children = .ok value → value.isFinite = true
  | [], value, h => by cases h
  | child :: rest, value, h => by
    rw [exprIn] at h
    split at h
    · exact expr_isFinite child value h
    · exact exprIn_isFinite info field rest value h

theorem exprs_allFinite : ∀ (children : List SyntaxNode) (values : List Expr),
    exprs source children = .ok values → Expr.allFinite values = true
  | [], values, h => by
    cases h
    rfl
  | child :: rest, values, h => by
    rw [exprs] at h
    split at h
    · obtain ⟨first, hfirst, h⟩ := bind_eq_ok.mp h
      obtain ⟨others, hothers, h⟩ := bind_eq_ok.mp h
      cases h
      rw [Expr.allFinite, expr_isFinite child first hfirst, exprs_allFinite rest others hothers]
      rfl
    · exact exprs_allFinite rest values h

theorem firstExpr?_optionFinite : ∀ (children : List SyntaxNode) (found : Option Expr),
    firstExpr? source children = .ok found → Expr.optionFinite found = true
  | [], found, h => by
    cases h
    rfl
  | child :: rest, found, h => by
    rw [firstExpr?] at h
    split at h
    · obtain ⟨first, hfirst, h⟩ := bind_eq_ok.mp h
      cases h
      exact expr_isFinite child first hfirst
    · exact firstExpr?_optionFinite rest found h

theorem argsIn_allFinite (info : NodeInfo) : ∀ (children : List SyntaxNode) (args : List Expr),
    argsIn source info children = .ok args → Expr.allFinite args = true
  | [], args, h => by cases h
  | .mk found inner :: rest, args, h => by
    rw [argsIn] at h
    split at h
    · split at h
      · exact exprs_allFinite inner args h
      · obtain ⟨only, honly, h⟩ := bind_eq_ok.mp h
        cases h
        rw [Expr.allFinite, expr_isFinite (.mk found inner) only honly]
        rfl
    · exact argsIn_allFinite info rest args h

theorem comparison_allFinite : ∀ (children : List SyntaxNode) (parts : ComparisonParts),
    comparison source children = .ok parts → Expr.allFinite parts.operands = true
  | [], parts, h => by
    cases h
    rfl
  | child :: rest, parts, h => by
    rw [comparison] at h
    split at h
    · exact comparison_allFinite rest parts h
    · split at h
      · obtain ⟨operand, hoperand, h⟩ := bind_eq_ok.mp h
        obtain ⟨others, hothers, h⟩ := bind_eq_ok.mp h
        cases h
        exact ComparisonParts.allFinite_withOperand (expr_isFinite child operand hoperand)
          (comparison_allFinite rest others hothers)
      · split at h
        · cases h
          rfl
        · obtain ⟨others, hothers, h⟩ := bind_eq_ok.mp h
          cases h
          rw [ComparisonParts.operands_withOperator]
          exact comparison_allFinite rest others hothers

theorem dims_allFinite : ∀ (children : List SyntaxNode) (parts : List Dim),
    dims source children = .ok parts → Dim.allFinite parts = true
  | [], parts, h => by
    cases h
    rfl
  | .mk found inner :: rest, parts, h => by
    rw [dims] at h
    split at h
    · split at h
      · obtain ⟨known, hknown, h⟩ := bind_eq_ok.mp h
        obtain ⟨pos, _, h⟩ := bind_eq_ok.mp h
        obtain ⟨others, hothers, h⟩ := bind_eq_ok.mp h
        cases h
        have finite := bounds_isFinite 0 {} inner known rfl hknown
        rw [Dim.allFinite, Dim.isFinite, Slice.isFinite, dims_allFinite rest others hothers,
          Bool.and_true]
        exact finite
      · obtain ⟨first, hfirst, h⟩ := bind_eq_ok.mp h
        obtain ⟨others, hothers, h⟩ := bind_eq_ok.mp h
        cases h
        rw [Dim.allFinite, Dim.isFinite, expr_isFinite (.mk found inner) first hfirst,
          dims_allFinite rest others hothers]
        rfl
    · exact dims_allFinite rest parts h

theorem bounds_isFinite (slot : Nat) (known : Bounds) :
    ∀ (children : List SyntaxNode) (found : Bounds), known.isFinite = true →
      bounds source slot known children = .ok found → found.isFinite = true
  | [], found, finite, h => by
    cases h
    exact finite
  | child :: rest, found, finite, h => by
    rw [bounds] at h
    split at h
    · exact bounds_isFinite slot known rest found finite h
    · split at h
      · exact bounds_isFinite (slot + 1) known rest found finite h
      · split at h
        · obtain ⟨value, hvalue, h⟩ := bind_eq_ok.mp h
          have next := Bounds.isFinite_put finite (expr_isFinite child value hvalue) slot
          exact bounds_isFinite slot (known.put value slot) rest found next h
        · exact bounds_isFinite slot known rest found finite h

end

/-! ## Statements of nodes -/

theorem allFinite_asStatementValues (values : List Expr) :
    Expr.allFinite (asStatementValues values) = Expr.allFinite values := by
  unfold asStatementValues
  split
  · simp [Expr.allFinite, Expr.isFinite]
  · rfl

theorem assignment_isFinite {pos : Position} {info : NodeInfo} {children : List SyntaxNode}
    {found : Stmt} (h : assignment source pos info children = .ok found) :
    found.isFinite = true := by
  unfold assignment at h
  split at h
  · cases h
    rw [Stmt.isFinite]
  · split at h
    · cases h
      rw [Stmt.isFinite]
    · obtain ⟨target, htarget, h⟩ := bind_eq_ok.mp h
      obtain ⟨value, hvalue, h⟩ := bind_eq_ok.mp h
      cases h
      rw [Stmt.isFinite, exprIn_isFinite source _ _ children target htarget,
        expr_isFinite source _ value hvalue]
      rfl

theorem augmentedAssignment_isFinite {pos : Position} {info : NodeInfo}
    {children : List SyntaxNode} {found : Stmt}
    (h : augmentedAssignment source pos info children = .ok found) : found.isFinite = true := by
  unfold augmentedAssignment at h
  obtain ⟨operator, _, h⟩ := bind_eq_ok.mp h
  split at h
  · cases h
    rw [Stmt.isFinite]
  · obtain ⟨target, htarget, h⟩ := bind_eq_ok.mp h
    obtain ⟨value, hvalue, h⟩ := bind_eq_ok.mp h
    cases h
    rw [Stmt.isFinite, exprIn_isFinite source _ _ children target htarget,
      exprIn_isFinite source _ _ children value hvalue]
    rfl

theorem expressionStmt_isFinite {pos : Position} {children : List SyntaxNode} {found : Stmt}
    (h : expressionStmt source pos children = .ok found) : found.isFinite = true := by
  have plain {found : Stmt} (h : (exprs source children).map
      (fun values => Stmt.expr pos (asStatementValues values)) = .ok found) :
      found.isFinite = true := by
    obtain ⟨values, hvalues, rfl⟩ := map_eq_ok.mp h
    rw [Stmt.isFinite, allFinite_asStatementValues]
    exact exprs_allFinite source children values hvalues
  unfold expressionStmt at h
  dsimp only at h
  split at h
  · split at h
    · exact assignment_isFinite source h
    · split at h
      · exact augmentedAssignment_isFinite source h
      · exact plain h
  · exact plain h

mutual

/-- What a node is read to as a statement has finite numbers. -/
theorem stmt_isFinite : ∀ (node : SyntaxNode) (found : Stmt),
    stmt source node = .ok found → found.isFinite = true
  | .mk info children, found, h => by
    rw [stmt] at h
    obtain ⟨pos, _, h⟩ := bind_eq_ok.mp h
    generalize StmtForm.ofKind info.kind = form at h
    cases form with
    | function =>
      obtain ⟨name, _, h⟩ := bind_eq_ok.mp h
      obtain ⟨formal, _, h⟩ := bind_eq_ok.mp h
      obtain ⟨params, _, h⟩ := bind_eq_ok.mp h
      obtain ⟨body, hbody, h⟩ := bind_eq_ok.mp h
      obtain ⟨place, _, h⟩ := bind_eq_ok.mp h
      cases h
      rw [Stmt.isFinite, FunctionDef.isFinite]
      exact blockIn_allFinite _ _ children body hbody
    | decorated => exact stmtIn_isFinite _ _ children found h
    | expression => exact expressionStmt_isFinite source h
    | ret =>
      obtain ⟨value, hvalue, h⟩ := bind_eq_ok.mp h
      cases h
      rw [Stmt.isFinite]
      exact firstExpr?_optionFinite source children value hvalue
    | branch =>
      obtain ⟨test, htest, h⟩ := bind_eq_ok.mp h
      obtain ⟨body, hbody, h⟩ := bind_eq_ok.mp h
      obtain ⟨orelse, horelse, h⟩ := bind_eq_ok.mp h
      cases h
      rw [Stmt.isFinite, exprIn_isFinite source _ _ children test htest,
        blockIn_allFinite _ _ children body hbody, alternatives_allFinite children orelse horelse]
      rfl
    | whileLoop =>
      obtain ⟨test, htest, h⟩ := bind_eq_ok.mp h
      obtain ⟨body, hbody, h⟩ := bind_eq_ok.mp h
      obtain ⟨orelse, horelse, h⟩ := bind_eq_ok.mp h
      cases h
      rw [Stmt.isFinite, exprIn_isFinite source _ _ children test htest,
        blockIn_allFinite _ _ children body hbody, elseClause_allFinite children orelse horelse]
      rfl
    | forLoop =>
      obtain ⟨target, htarget, h⟩ := bind_eq_ok.mp h
      obtain ⟨iter, hiter, h⟩ := bind_eq_ok.mp h
      obtain ⟨body, hbody, h⟩ := bind_eq_ok.mp h
      obtain ⟨orelse, horelse, h⟩ := bind_eq_ok.mp h
      cases h
      rw [Stmt.isFinite, exprIn_isFinite source _ _ children target htarget,
        exprIn_isFinite source _ _ children iter hiter, blockIn_allFinite _ _ children body hbody,
        elseClause_allFinite children orelse horelse]
      rfl
    | unknown =>
      cases h
      rw [Stmt.isFinite]

theorem stmtIn_isFinite (info : NodeInfo) (field : String) :
    ∀ (children : List SyntaxNode) (found : Stmt),
      stmtIn source info field children = .ok found → found.isFinite = true
  | [], found, h => by cases h
  | child :: rest, found, h => by
    rw [stmtIn] at h
    split at h
    · exact stmt_isFinite child found h
    · exact stmtIn_isFinite info field rest found h

theorem block_allFinite : ∀ (children : List SyntaxNode) (found : List Stmt),
    block source children = .ok found → Stmt.allFinite found = true
  | [], found, h => by
    cases h
    rfl
  | child :: rest, found, h => by
    rw [block] at h
    split at h
    · obtain ⟨first, hfirst, h⟩ := bind_eq_ok.mp h
      obtain ⟨others, hothers, h⟩ := bind_eq_ok.mp h
      cases h
      rw [Stmt.allFinite, stmt_isFinite child first hfirst, block_allFinite rest others hothers]
      rfl
    · exact block_allFinite rest found h

theorem blockIn_allFinite (info : NodeInfo) (field : String) :
    ∀ (children : List SyntaxNode) (found : List Stmt),
      blockIn source info field children = .ok found → Stmt.allFinite found = true
  | [], found, h => by cases h
  | .mk _ inner :: rest, found, h => by
    rw [blockIn] at h
    split at h
    · exact block_allFinite inner found h
    · exact blockIn_allFinite info field rest found h

theorem alternatives_allFinite : ∀ (children : List SyntaxNode) (found : List Stmt),
    alternatives source children = .ok found → Stmt.allFinite found = true
  | [], found, h => by
    cases h
    rfl
  | .mk info inner :: rest, found, h => by
    rw [alternatives] at h
    split at h
    · split at h
      · obtain ⟨test, htest, h⟩ := bind_eq_ok.mp h
        obtain ⟨body, hbody, h⟩ := bind_eq_ok.mp h
        obtain ⟨orelse, horelse, h⟩ := bind_eq_ok.mp h
        obtain ⟨pos, _, h⟩ := bind_eq_ok.mp h
        cases h
        rw [Stmt.allFinite, Stmt.isFinite, exprIn_isFinite source _ _ inner test htest,
          blockIn_allFinite _ _ inner body hbody, alternatives_allFinite rest orelse horelse]
        rfl
      · exact blockIn_allFinite _ _ inner found h
    · exact alternatives_allFinite rest found h

theorem elseClause_allFinite : ∀ (children : List SyntaxNode) (found : List Stmt),
    elseClause source children = .ok found → Stmt.allFinite found = true
  | [], found, h => by
    cases h
    rfl
  | .mk _ inner :: rest, found, h => by
    rw [elseClause] at h
    split at h
    · exact blockIn_allFinite _ _ inner found h
    · exact elseClause_allFinite rest found h

end

end

end Converter

/-- All numbers of the program of a source text are finite, whatever parser reads it. -/
theorem SourceParser.program_isFinite {parser : SourceParser} {text : String} {found : Program}
    (h : parser.program text = .ok found) : found.isFinite = true := by
  obtain ⟨root, _, _, h⟩ := program_eq_ok_iff.mp h
  unfold Converter.program at h
  obtain ⟨body, hbody, h⟩ := bind_eq_ok.mp h
  cases h
  exact Converter.block_allFinite text _ body hbody

end CallForm

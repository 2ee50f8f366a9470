-- Places are provenance only. A tree without its places is the tree with
-- every position set to one and the same. Lowering it gives what lowering
-- the tree itself gives but for tags, or fails for the same reason but for
-- the line and the column.
import CallForm.Proofs.Body
import CallForm.Proofs.Untagged

namespace CallForm

/-! ## Trees without places -/

/-- The one position that all are set to. -/
def nowhere : Position := ⟨0, 0⟩

/-- A parameter without its place. -/
def Param.unplaced (param : Param) : Param := ⟨param.name, nowhere⟩

mutual

/-- An expression without its places. -/
def Expr.unplaced : Expr → Expr
  | .name _ id => .name nowhere id
  | .number _ value => .number nowhere value
  | .string _ value => .string nowhere value
  | .constant _ value => .constant nowhere value
  | .binary _ left op right => .binary nowhere left.unplaced op right.unplaced
  | .unary _ op operand => .unary nowhere op operand.unplaced
  | .compare _ left ops comparators =>
    .compare nowhere left.unplaced ops (Expr.unplacedAll comparators)
  | .call _ callee args => .call nowhere callee.unplaced (Expr.unplacedAll args)
  | .attribute _ object member => .attribute nowhere object.unplaced member
  | .subscript _ base index => .subscript nowhere base.unplaced index.unplaced
  | .list _ items => .list nowhere (Expr.unplacedAll items)
  | .tuple _ items => .tuple nowhere (Expr.unplacedAll items)
  | .lambda _ params body => .lambda nowhere (params.map Param.unplaced) body.unplaced
  | .unknown _ kind => .unknown nowhere kind

/-- Several expressions without their places, in order. -/
def Expr.unplacedAll : List Expr → List Expr
  | [] => []
  | value :: rest => value.unplaced :: Expr.unplacedAll rest

/-- An expression that may be missing, without its places. -/
def Expr.unplacedOf : Option Expr → Option Expr
  | none => none
  | some value => some value.unplaced

/-- What stands between the brackets of a subscript, without its places. -/
def Index.unplaced : Index → Index
  | .item value => .item value.unplaced
  | .slice bounds => .slice bounds.unplaced
  | .dims parts => .dims (Dim.unplacedAll parts)

/-- One dimension without its places. -/
def Dim.unplaced : Dim → Dim
  | .item value => .item value.unplaced
  | .slice bounds => .slice bounds.unplaced

/-- Several dimensions without their places, in order. -/
def Dim.unplacedAll : List Dim → List Dim
  | [] => []
  | part :: rest => part.unplaced :: Dim.unplacedAll rest

/-- The bounds of a slice without their places. -/
def Slice.unplaced : Slice → Slice
  | .mk lower upper step _ =>
    .mk (Expr.unplacedOf lower) (Expr.unplacedOf upper) (Expr.unplacedOf step) nowhere

end

mutual

/-- A statement without its places. -/
def Stmt.unplaced : Stmt → Stmt
  | .function _ definition => .function nowhere definition.unplaced
  | .assign _ target value => .assign nowhere target.unplaced value.unplaced
  | .augment _ target op value => .augment nowhere target.unplaced op value.unplaced
  | .branch _ test body orelse =>
    .branch nowhere test.unplaced (Stmt.unplacedAll body) (Stmt.unplacedAll orelse)
  | .whileLoop _ test body orelse =>
    .whileLoop nowhere test.unplaced (Stmt.unplacedAll body) (Stmt.unplacedAll orelse)
  | .forLoop _ target iter body orelse =>
    .forLoop nowhere target.unplaced iter.unplaced (Stmt.unplacedAll body)
      (Stmt.unplacedAll orelse)
  | .ret _ value => .ret nowhere (Expr.unplacedOf value)
  | .expr _ values => .expr nowhere (Expr.unplacedAll values)
  | .unknown _ kind => .unknown nowhere kind

/-- Several statements without their places, in order. -/
def Stmt.unplacedAll : List Stmt → List Stmt
  | [] => []
  | stmt :: rest => stmt.unplaced :: Stmt.unplacedAll rest

/-- A function without its places. -/
def FunctionDef.unplaced : FunctionDef → FunctionDef
  | .mk name params body _ =>
    .mk name (params.map Param.unplaced) (Stmt.unplacedAll body) nowhere

end

/-- A reason to fail without its line and column. -/
def LowerError.unplaced : LowerError → LowerError
  | .unsupportedNode kind _ => .unsupportedNode kind nowhere
  | .unsupportedOperator operators op _ => .unsupportedOperator operators op nowhere.line
  | .chainedComparison _ => .chainedComparison nowhere.line
  | .unsupportedSlicing _ => .unsupportedSlicing nowhere.line
  | .misplacedReturn _ => .misplacedReturn nowhere.line
  | .unresolvableReference object member _ => .unresolvableReference object member nowhere.line
  | .malformedExpression count _ => .malformedExpression count nowhere.line
  | .emptyModule => .emptyModule

/-! ### What lowering asks of a tree without looking at places -/

@[simp] theorem Expr.length_unplacedAll (values : List Expr) :
    (unplacedAll values).length = values.length := by
  induction values with
  | nil => rfl
  | cons value rest ih => simp [unplacedAll, ih]

@[simp] theorem Stmt.isEmpty_unplacedAll (stmts : List Stmt) :
    (unplacedAll stmts).isEmpty = stmts.isEmpty := by
  cases stmts <;> rfl

@[simp] theorem Expr.isOperation_unplaced (value : Expr) :
    value.unplaced.isOperation = value.isOperation := by
  cases value <;> rfl

@[simp] theorem Expr.isParallelRange_unplaced (value : Expr) :
    value.unplaced.isParallelRange = value.isParallelRange := by
  cases value with
  | call pos callee args => cases callee <;> rfl
  | _ => rfl

@[simp] theorem Expr.dotted_unplaced (value : Expr) : value.unplaced.dotted = value.dotted := by
  match value with
  | .attribute pos object member =>
    have inside := object.dotted_unplaced
    simp [unplaced, dotted, inside]
  | .name .. | .number .. | .string .. | .constant .. | .binary .. | .unary .. | .compare ..
  | .call .. | .subscript .. | .list .. | .tuple .. | .lambda .. | .unknown .. => rfl

mutual

@[simp] theorem Stmt.assigned_unplaced : ∀ stmt : Stmt, stmt.unplaced.assigned = stmt.assigned
  | .assign pos target value => by cases target <;> rfl
  | .branch pos test body orelse => by
    have first := Stmt.assignedIn_unplacedAll body
    have second := Stmt.assignedIn_unplacedAll orelse
    simp only [assignedIn] at first second
    simp [unplaced, assigned, assignments, first, second]
  | .whileLoop pos test body orelse => Stmt.assignedIn_unplacedAll body
  | .forLoop pos target iter body orelse => Stmt.assignedIn_unplacedAll body
  | .function .. | .augment .. | .ret .. | .expr .. | .unknown .. => rfl

@[simp] theorem Stmt.assignedIn_unplacedAll : ∀ stmts : List Stmt,
    Stmt.assignedIn (Stmt.unplacedAll stmts) = Stmt.assignedIn stmts
  | [] => rfl
  | stmt :: rest => by
    have first := stmt.assigned_unplaced
    have others := Stmt.assignedIn_unplacedAll rest
    simp only [assigned, assignedIn] at first others
    simp [unplacedAll, assignedIn, assignmentsIn, first, others]

end

/-! ## Results that differ in places only -/

/-- Two results of lowering that fail for one reason but for the place, or give related values. -/
def Alike {α β : Type} (related : α → β → Prop) (first : Except LowerError α)
    (second : Except LowerError β) : Prop :=
  Agree related (first.mapError LowerError.unplaced) (second.mapError LowerError.unplaced)

/-- Compiled forms that differ in tags only. -/
def SameForm (first second : Ir) : Prop := first.untagged = second.untagged

/-- Rows of compiled forms that differ in tags only. -/
def SameForms (first second : List Ir) : Prop := Ir.untaggedAll first = Ir.untaggedAll second

namespace Alike

variable {α β γ δ : Type} {related : α → β → Prop} {after : γ → δ → Prop}

theorem gave {a : α} {b : β} (h : related a b) : Alike related (.ok a) (.ok b) :=
  Agree.gave h

theorem failed {cause other : LowerError} (h : cause.unplaced = other.unplaced) :
    Alike related (.error cause) (.error other) := by
  unfold Alike
  change Agree related (.error cause.unplaced) (.error other.unplaced)
  rw [h]
  exact .failed _

theorem bind {first : Except LowerError α} {second : Except LowerError β}
    {next : α → Except LowerError γ} {next' : β → Except LowerError δ}
    (h : Alike related first second) (hnext : ∀ a b, related a b → Alike after (next a) (next' b)) :
    Alike after (first >>= next) (second >>= next') := by
  have parts {α β : Type} (result : Except LowerError α) (next : α → Except LowerError β) :
      (result >>= next).mapError LowerError.unplaced =
        result.mapError LowerError.unplaced >>= fun a => (next a).mapError LowerError.unplaced := by
    cases result <;> rfl
  unfold Alike
  rw [parts, parts]
  exact Agree.bind h hnext

/-- What both results are made into when nothing fails. -/
theorem done {first : Except LowerError α} {second : Except LowerError β} {made : α → γ}
    {made' : β → δ} (h : Alike related first second)
    (hmade : ∀ a b, related a b → after (made a) (made' b)) :
    Alike after (first >>= fun a => .ok (made a)) (second >>= fun b => .ok (made' b)) :=
  h.bind fun a b hab => .gave (hmade a b hab)

/-- Both results are failures or both are not. -/
theorem both {first : Except LowerError α} {second : Except LowerError β}
    (h : Alike related first second) :
    (∃ cause other, first = .error cause ∧ second = .error other ∧
        cause.unplaced = other.unplaced) ∨
      ∃ a b, first = .ok a ∧ second = .ok b ∧ related a b := by
  unfold Alike at h
  cases first with
  | error cause =>
    cases second with
    | error other =>
      left
      refine ⟨cause, other, rfl, rfl, ?_⟩
      have same := h.eq_error
      injection same
    | ok b => cases h
  | ok a =>
    cases second with
    | error other => cases h
    | ok b =>
      right
      obtain ⟨found, same, hab⟩ := h.eq_ok
      cases same
      exact ⟨a, b, rfl, rfl, hab⟩

end Alike

namespace SameForm

theorem tagged (pos place : Position) (name : String) :
    SameForm (Ir.tagged pos name) (Ir.tagged place name) := rfl

theorem call {args others : List Ir} (h : SameForms args others) (pos place : Position)
    (name : String) : SameForm (Ir.taggedCall pos name args) (Ir.taggedCall place name others) :=
  congrArg (Ir.call ⟨name, none⟩) h

theorem bareCall {args others : List Ir} (h : SameForms args others) (name : String) :
    SameForm (Ir.bareCall name args) (Ir.bareCall name others) :=
  congrArg (Ir.call ⟨name, none⟩) h

end SameForm

namespace SameForms

theorem nil : SameForms [] [] := rfl

theorem cons {form other : Ir} {forms others : List Ir} (h : SameForm form other)
    (hrest : SameForms forms others) : SameForms (form :: forms) (other :: others) :=
  congrArg₂ List.cons h hrest

theorem append {forms others more rest : List Ir} (h : SameForms forms others)
    (hrest : SameForms more rest) : SameForms (forms ++ more) (others ++ rest) := by
  unfold SameForms at *
  rw [Ir.untaggedAll_append, Ir.untaggedAll_append, h, hrest]

theorem params (params : List Param) :
    SameForms (params.map fun param => Ir.tagged param.pos param.name)
      ((params.map Param.unplaced).map fun param => Ir.tagged param.pos param.name) := by
  induction params with
  | nil => exact .nil
  | cons param rest ih => exact .cons (.tagged _ _ _) ih

theorem block {forms others : List Ir} (h : SameForms forms others) (pos place : Position) :
    SameForm (blockOf pos forms) (blockOf place others) := by
  match forms, others, h with
  | [], [], _ => rfl
  | [form], [other], h => exact List.head_eq_of_cons_eq h
  | _ :: _ :: _, _ :: _ :: _, h => exact SameForm.call h pos place Primitive.block
  | [], _ :: _, h | _ :: _, [], h | [_], _ :: _ :: _, h | _ :: _ :: _, [_], h =>
    simp [SameForms, Ir.untaggedAll] at h

end SameForms

/-! ## Expressions -/

section

variable (env : Environment) (scope : Scope)

theorem BinaryOperator.alike_compile (op : BinaryOperator) (line other : UInt32) :
    Alike Eq (op.compile line) (op.compile other) := by
  unfold compile
  cases op.compiled? with
  | none => exact .failed rfl
  | some operator => exact .gave rfl

theorem UnaryOperator.alike_compile (op : UnaryOperator) (line other : UInt32) :
    Alike Eq (op.compile line) (op.compile other) := by
  unfold compile
  cases op.compiled? with
  | none => exact .failed rfl
  | some operator => exact .gave rfl

theorem Comparison.alike_compile (op : Comparison) (line other : UInt32) :
    Alike Eq (op.compile line) (op.compile other) := by
  unfold compile
  cases op.compiled? with
  | none => exact .failed rfl
  | some operator => exact .gave rfl

theorem alike_receiverOf (pos : Position) (object : Expr) (member : String)
    {lowered lowered' : Except LowerError Ir} (h : Alike SameForm lowered lowered') :
    Alike SameForms (receiverOf env scope pos object member lowered)
      (receiverOf env scope nowhere object.unplaced member lowered') := by
  have single (result : Except LowerError Ir) :
      result.map ([·]) = result >>= fun ir => .ok [ir] := by
    cases result <;> rfl
  have wrapped : Alike SameForms (lowered.map ([·])) (lowered'.map ([·])) := by
    rw [single, single]
    exact h.done fun _ _ same => .cons same .nil
  cases object with
  | name place id =>
    unfold receiverOf Expr.unplaced
    by_cases bound : scope.isBound id = true
    · simp only [bound, if_true]
      exact .gave (.cons (.tagged _ _ _) .nil)
    · by_cases exposed : env.modules.exposes id member = true
      · simp only [bound, exposed, if_true]
        exact .gave .nil
      · simp only [bound, exposed]
        exact .failed rfl
  | «attribute» place inner middle =>
    have spelled := (Expr.attribute place inner middle).dotted_unplaced
    unfold receiverOf
    rw [spelled, Expr.unplaced]
    cases env.references.resolve? member with
    | none => exact .failed rfl
    | some primitive => exact .gave .nil
  | _ => exact wrapped

mutual

/-- Lowering an expression without its places differs in places only. -/
theorem Expr.alike_lower (priority : Nat) : ∀ value : Expr,
    Alike SameForm (value.lower env scope priority) (value.unplaced.lower env scope priority)
  | .name .. | .number .. | .string .. | .constant .. => .gave rfl
  | .binary pos left op right => by
    rw [Expr.unplaced, Expr.lower, Expr.lower]
    apply (op.alike_compile _ _).bind
    rintro operator _ rfl
    apply (left.alike_lower _).bind
    intro lhs lhs' hleft
    apply (right.alike_lower _).done
    intro rhs rhs' hright
    rw [SameForm, Ir.untagged, Ir.untagged, hleft, hright]
  | .unary pos op operand => by
    rw [Expr.unplaced, Expr.lower, Expr.lower, operand.isOperation_unplaced]
    apply (op.alike_compile _ _).bind
    rintro operator _ rfl
    apply (operand.alike_lower _).done
    intro inner inner' hinner
    split <;> simp only [SameForm, Ir.untagged] <;> rw [hinner]
  | .compare pos left [op] [right] => by
    rw [Expr.unplaced, Expr.unplacedAll, Expr.unplacedAll, Expr.lower, Expr.lower]
    apply (op.alike_compile _ _).bind
    rintro operator _ rfl
    apply (left.alike_lower _).bind
    intro lhs lhs' hleft
    apply (right.alike_lower _).done
    intro rhs rhs' hright
    rw [SameForm, Ir.untagged, Ir.untagged, hleft, hright]
  | .compare _ _ [] _ | .compare _ _ (_ :: _ :: _) _ | .compare _ _ [_] []
  | .compare _ _ [_] (_ :: _ :: _) => .failed rfl
  | .call pos callee args => by
    have hargs := Expr.alike_lowerAll 0 args
    cases callee with
    | name place id =>
      rw [Expr.unplaced, Expr.unplaced, Expr.lower, Expr.lower]
      exact hargs.done fun _ _ same => .call same _ _ _
    | «attribute» place object member =>
      rw [Expr.unplaced, Expr.unplaced, Expr.lower, Expr.lower]
      apply (alike_receiverOf env scope _ _ _ (object.alike_lower 0)).bind
      intro receiver receiver' hreceiver
      exact hargs.done fun _ _ same => .call (hreceiver.append same) _ _ _
    | _ => exact .failed rfl
  | .attribute pos object member => by
    rw [Expr.unplaced, Expr.lower, Expr.lower]
    apply (alike_receiverOf env scope _ _ _ (object.alike_lower 0)).done
    exact fun _ _ same => .call same _ _ _
  | .subscript pos base index => by
    rw [Expr.unplaced, Expr.lower, Expr.lower]
    apply (base.alike_lower 0).bind
    intro base' other hbase
    apply (index.alike_lower pos nowhere).done
    exact fun _ _ same => .call (.cons hbase (.cons same .nil)) _ _ _
  | .list pos items => by
    rw [Expr.unplaced, Expr.lower, Expr.lower]
    exact (Expr.alike_lowerAll 0 items).done fun _ _ same => .call same _ _ _
  | .tuple pos items => by
    rw [Expr.unplaced, Expr.lower, Expr.lower]
    exact (Expr.alike_lowerAll 0 items).done fun _ _ same => congrArg Ir.sequence same
  | .lambda pos params body => by
    rw [Expr.unplaced, Expr.lower, Expr.lower]
    apply (body.alike_lower 0).done
    intro inner inner' same
    have block : SameForm (Ir.bareCall Primitive.block [inner])
        (Ir.bareCall Primitive.block [inner']) :=
      .bareCall (.cons same .nil) _
    exact .call ((SameForms.params params).append (.cons block .nil)) _ _ _
  | .unknown .. => .failed rfl

theorem Expr.alike_lowerAll (priority : Nat) : ∀ values : List Expr,
    Alike SameForms (Expr.lowerAll env scope priority values)
      (Expr.lowerAll env scope priority (Expr.unplacedAll values))
  | [] => .gave .nil
  | value :: rest => by
    rw [Expr.unplacedAll, Expr.lowerAll, Expr.lowerAll]
    apply (value.alike_lower _).bind
    intro first first' hfirst
    exact (Expr.alike_lowerAll _ rest).done fun _ _ same => .cons hfirst same

theorem Expr.alike_lowerBound (priority : Nat) (absent : Ir) : ∀ bound : Option Expr,
    Alike SameForm (Expr.lowerBound env scope priority absent bound)
      (Expr.lowerBound env scope priority absent (Expr.unplacedOf bound))
  | none => .gave rfl
  | some bound => bound.alike_lower priority

theorem Index.alike_lower (pos place : Position) : ∀ index : Index,
    Alike SameForm (index.lower env scope pos) (index.unplaced.lower env scope place)
  | .item value => value.alike_lower 0
  | .slice bounds => bounds.alike_lower 0
  | .dims [first, second] => by
    rw [Index.unplaced, Dim.unplacedAll, Dim.unplacedAll, Dim.unplacedAll, Index.lower,
      Index.lower]
    apply (first.alike_lower 0).bind
    intro row row' hrow
    apply (second.alike_lower 0).done
    exact fun _ _ same => congrArg Ir.sequence (SameForms.cons hrow (.cons same .nil))
  | .dims [] | .dims [_] | .dims (_ :: _ :: _ :: _) => .failed rfl

theorem Dim.alike_lower (priority : Nat) : ∀ dim : Dim,
    Alike SameForm (dim.lower env scope priority) (dim.unplaced.lower env scope priority)
  | .item value => value.alike_lower priority
  | .slice bounds => bounds.alike_lower priority

theorem Slice.alike_lower (priority : Nat) : ∀ bounds : Slice,
    Alike SameForm (bounds.lower env scope priority) (bounds.unplaced.lower env scope priority)
  | .mk lower upper none _ => by
    rw [Slice.unplaced, Expr.unplacedOf, Slice.lower, Slice.lower]
    apply (Expr.alike_lowerBound _ _ lower).bind
    intro low low' hlow
    apply (Expr.alike_lowerBound _ _ upper).done
    exact fun _ _ same => .bareCall (.cons hlow (.cons same .nil)) _
  | .mk lower upper (some step) _ => by
    rw [Slice.unplaced, Expr.unplacedOf, Slice.lower, Slice.lower]
    apply (Expr.alike_lowerBound _ _ lower).bind
    intro low low' hlow
    apply (Expr.alike_lowerBound _ _ upper).bind
    intro high high' hhigh
    apply (step.alike_lower _).done
    exact fun _ _ same => .bareCall (.cons hlow (.cons hhigh (.cons same .nil))) _

end

theorem Index.alike_lowerTarget (priority : Nat) (line other : UInt32) : ∀ index : Index,
    Alike SameForms (index.lowerTarget env scope priority line)
      (index.unplaced.lowerTarget env scope priority other)
  | .item value => by
    cases value with
    | tuple pos items =>
      match items with
      | [row, column] =>
        apply (row.alike_lower env scope priority).bind
        intro row row' hrow
        apply (column.alike_lower env scope priority).done
        exact fun _ _ same => .cons hrow (.cons rfl (.cons rfl (.cons same (.cons rfl
          (.cons rfl .nil)))))
      | [] | [_] | _ :: _ :: _ :: _ => exact .failed rfl
    | _ =>
      apply (Expr.alike_lower env scope priority _).done
      exact fun _ _ same => .cons same rfl
  | .slice (.mk lower upper none pos) => by
    apply (Expr.alike_lowerBound env scope priority Ir.zero lower).bind
    intro low low' hlow
    apply (Expr.alike_lowerBound env scope priority Ir.zero upper).done
    exact fun _ _ same => .cons hlow (.cons same rfl)
  | .slice (.mk _ _ (some _) _) => .failed rfl
  | .dims [.slice (.mk rowLow rowHigh none pos), .slice (.mk columnLow columnHigh none pos')] => by
    have bound := Expr.alike_lowerBound env scope priority
    apply (bound Ir.zero rowLow).bind
    intro low low' hlow
    apply (bound (Ir.bare Primitive.nil) rowHigh).bind
    intro high high' hhigh
    apply (bound Ir.zero columnLow).bind
    intro left left' hleft
    apply (bound (Ir.bare Primitive.nil) columnHigh).done
    exact fun _ _ same => .cons hlow (.cons hhigh (.cons rfl (.cons hleft (.cons same rfl))))
  | .dims [] | .dims (.item _ :: _) | .dims (.slice (.mk _ _ (some _) _) :: _)
  | .dims [.slice (.mk _ _ none _)] | .dims (.slice (.mk _ _ none _) :: .item _ :: _)
  | .dims (.slice (.mk _ _ none _) :: .slice (.mk _ _ (some _) _) :: _)
  | .dims (.slice (.mk _ _ none _) :: .slice (.mk _ _ none _) :: _ :: _) => .failed rfl

/-! ## Statements -/

theorem alike_assignForm (pos : Position) (target value : Expr) :
    Alike SameForm (assignForm env scope pos target value)
      (assignForm env scope nowhere target.unplaced value.unplaced) := by
  cases target with
  | name place id =>
    apply (value.alike_lower env (scope.bind id) 0).done
    exact fun _ _ same => .call (.cons (.tagged _ _ _) (.cons same .nil)) _ _ _
  | subscript place base index =>
    apply (base.alike_lower env scope 0).bind
    intro base' other hbase
    apply (index.alike_lowerTarget env scope 0 pos.line nowhere.line).bind
    intro parts parts' hparts
    apply (value.alike_lower env scope 0).done
    exact fun _ _ same => .bareCall (.cons hbase (hparts.append (.cons same .nil))) _
  | _ => exact .failed rfl

theorem alike_augmentForm (pos : Position) (target : Expr) (op : BinaryOperator) (value : Expr) :
    Alike SameForm (augmentForm env scope pos target op value)
      (augmentForm env scope nowhere target.unplaced op value.unplaced) := by
  unfold augmentForm
  split
  · cases target with
    | name place id =>
      apply (value.alike_lower env scope _).done
      intro ir ir' same
      refine .call (.cons (.tagged _ _ _) (.cons ?_ .nil)) _ _ _
      rw [SameForm, Ir.untagged, Ir.untagged, same]
      rfl
    | _ => exact .failed rfl
  · exact .failed rfl

theorem alike_returnForm (pos : Position) (value : Option Expr) (allowed : Bool) :
    Alike SameForm (returnForm env scope pos value allowed)
      (returnForm env scope nowhere (Expr.unplacedOf value) allowed) := by
  cases allowed with
  | false => exact .failed rfl
  | true =>
    cases value with
    | none => exact .gave rfl
    | some value => exact value.alike_lower env scope 0

theorem alike_exprForm (pos : Position) (values : List Expr) :
    Alike SameForm (exprForm env scope pos values)
      (exprForm env scope nowhere (Expr.unplacedAll values)) := by
  match values with
  | [value] =>
    exact (value.alike_lower env scope 0).done fun _ _ same => congrArg Ir.group same
  | [] => exact .failed rfl
  | _ :: _ :: rest =>
    refine .failed ?_
    simp [LowerError.unplaced]

end

mutual

/-- The compiled form of a statement without its places differs in places only. -/
theorem Stmt.alike_form (env : Environment) (allow : Bool) : ∀ (stmt : Stmt) (scope : Scope),
    Alike SameForm (stmt.form env scope allow) (stmt.unplaced.form env scope allow)
  | .function pos (.mk name params body place), scope => by
    rw [unplaced, FunctionDef.unplaced, form_function, form_function]
    exact .failed rfl
  | .assign pos target value, scope => by
    rw [unplaced, form_assign, form_assign]
    exact alike_assignForm env scope pos target value
  | .augment pos target op value, scope => by
    rw [unplaced, form_augment, form_augment]
    exact alike_augmentForm env scope pos target op value
  | .branch pos test body orelse, scope => by
    rw [unplaced, form_branch, form_branch, Stmt.assignedIn_unplacedAll]
    apply (test.alike_lower env scope 0).bind
    intro test test' htest
    apply (Stmt.alike_forms env allow body scope).bind
    intro body body' hbody
    apply (Stmt.alike_forms env allow orelse _).done
    exact fun _ _ same =>
      .call (.cons htest (.cons (hbody.block _ _) (.cons (same.block _ _) .nil))) _ _ _
  | .whileLoop pos test body orelse, scope => by
    rw [unplaced, form_whileLoop, form_whileLoop, Stmt.isEmpty_unplacedAll]
    split
    · apply (test.alike_lower env scope 0).bind
      intro test test' htest
      apply (Stmt.alike_forms env false body scope).done
      exact fun _ _ same => .call (.cons htest (.cons (same.block _ _) .nil)) _ _ _
    · exact .failed rfl
  | .forLoop pos target iter body orelse, scope => by
    rw [unplaced, form_forLoop, form_forLoop, Stmt.isEmpty_unplacedAll,
      Stmt.assignedIn_unplacedAll, iter.isParallelRange_unplaced]
    split
    · apply (target.alike_lower env scope 0).bind
      intro item item' hitem
      apply (Stmt.alike_forms env false body scope).bind
      intro body body' hbody
      apply (iter.alike_lower env _ 0).done
      intro iterable iterable' hiter
      have closure := SameForm.call
        (.cons hitem (.cons (.bareCall hbody Primitive.block) .nil)) iter.pos iter.unplaced.pos
        Primitive.lambda
      exact .call (.cons closure (.cons hiter .nil)) _ _ _
    · exact .failed rfl
  | .ret pos value, scope => by
    rw [unplaced, form_ret, form_ret]
    exact alike_returnForm env scope pos value allow
  | .expr pos values, scope => by
    rw [unplaced, form_expr, form_expr]
    exact alike_exprForm env scope pos values
  | .unknown pos kind, scope => by
    rw [unplaced, form_unknown, form_unknown]
    exact .failed rfl

theorem Stmt.alike_forms (env : Environment) (allow : Bool) :
    ∀ (stmts : List Stmt) (scope : Scope),
      Alike SameForms (Stmt.forms env scope allow stmts)
        (Stmt.forms env scope allow (Stmt.unplacedAll stmts))
  | [], scope => by
    rw [unplacedAll, forms_nil]
    exact .gave .nil
  | stmt :: rest, scope => by
    rw [unplacedAll, forms_cons, forms_cons, Stmt.isEmpty_unplacedAll, stmt.assigned_unplaced]
    apply (Stmt.alike_form env _ stmt scope).bind
    intro first first' hfirst
    apply (Stmt.alike_forms env allow rest _).done
    exact fun _ _ same => .cons hfirst same

end

/-! ## Functions -/

theorem FunctionDef.alike_compile (env : Environment) (definition : FunctionDef) :
    Alike SameForm (definition.compile env) (definition.unplaced.compile env) := by
  obtain ⟨name, params, body, pos⟩ := definition
  have names : (params.map Param.unplaced).map (·.name) = params.map (·.name) := by
    rw [List.map_map]
    rfl
  rw [compile_eq, compile_eq, unplaced]
  dsimp only [FunctionDef.params, FunctionDef.body]
  rw [names]
  apply (Stmt.alike_forms env true body _).done
  intro forms forms' same
  exact .call (.append (.cons (.tagged _ _ _) (.params params)) (.cons (same.block _ _) .nil)) _ _ _

/-- Functions that differ in places only both fail, for reasons that differ in places only, or
both compile, to texts that differ in tags only. -/
theorem a_place_shows_only_in_tags_and_reports (env : Environment) (first second : FunctionDef)
    (h : first.unplaced = second.unplaced) :
    (∃ cause other, first.compile env = .error cause ∧ second.compile env = .error other ∧
        cause.unplaced = other.unplaced) ∨
      ∃ form other, first.compile env = .ok form ∧ second.compile env = .ok other ∧
        stripTags form.render = stripTags other.render := by
  have one := (first.alike_compile env).both
  have two := (second.alike_compile env).both
  rw [h] at one
  rcases one with ⟨cause, _, hfirst, hone, same⟩ | ⟨form, _, hfirst, hone, same⟩
  · rcases two with ⟨other, _, hsecond, htwo, same'⟩ | ⟨_, _, _, htwo, _⟩
    · left
      rw [hone] at htwo
      cases htwo
      exact ⟨cause, other, hfirst, hsecond, same.trans same'.symm⟩
    · rw [hone] at htwo
      cases htwo
  · rcases two with ⟨_, _, _, htwo, _⟩ | ⟨other, _, hsecond, htwo, same'⟩
    · rw [hone] at htwo
      cases htwo
    · right
      rw [hone] at htwo
      cases htwo
      have bare : form.untagged = other.untagged := same.trans same'.symm
      refine ⟨form, other, hfirst, hsecond, ?_⟩
      rw [form.stripTags_render, bare, ← other.stripTags_render]

/-- `def f(x$): return g$1(x$, "$5")`, wherever it stands. Its names and its string hold marks of
their own. -/
def FunctionDef.marked (line column : UInt32) : FunctionDef :=
  let place (offset : UInt32) : Position := ⟨line + 1, column + offset⟩
  .mk "f" [⟨"x$", ⟨line, column + 6⟩⟩]
    [.ret (place 4) (some (.call (place 11) (.name (place 11) "g$1")
      [.name (place 15) "x$", .string (place 19) "$5"]))] ⟨line, column⟩

theorem moving_a_function_changes_nothing_but_tags :
    ∃ form other, (FunctionDef.marked 1 0).compile {} = .ok form ∧
      (FunctionDef.marked 30 4).compile {} = .ok other ∧
      form.render = "define$1$0(f$1$0, x$$1$6, g$1$2$11(x$$2$15, \"$5\"))" ∧
      other.render = "define$30$4(f$30$4, x$$30$10, g$1$31$15(x$$31$19, \"$5\"))" ∧
      stripTags form.render = stripTags other.render := by
  rcases a_place_shows_only_in_tags_and_reports {} (.marked 1 0) (.marked 30 4) rfl with
    ⟨_, _, failed, _, _⟩ | ⟨form, other, hform, hother, same⟩
  · cases failed
  · cases hform
    cases hother
    exact ⟨_, _, rfl, rfl, by decide +kernel, by decide +kernel, same⟩

end CallForm

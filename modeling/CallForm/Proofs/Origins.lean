-- The parts of a function that have a place, the names they are written
-- with, and the symbols that belong to them.
import CallForm.Ir.Basic
import CallForm.Lowering.Expr

namespace CallForm

/-! ## The parts of a function -/

/-- A part of a function that has a place. What a loop runs over is one part as an expression and
another as the sequence that the loop's closure is made for. -/
inductive Origin
  | expr (value : Expr)
  | sequence (value : Expr)
  | param (value : Param)
  | stmt (value : Stmt)
  | function (value : FunctionDef)

namespace Origin

/-- The place of a part. -/
def pos : Origin → Position
  | .expr value => value.pos
  | .sequence value => value.pos
  | .param value => value.pos
  | .stmt value => value.pos
  | .function value => value.pos

/-- The names that a part is written with. -/
def names : Origin → List String
  | .expr (.name _ id) => [id]
  | .expr (.call _ (.name _ id) _) => [id]
  | .expr (.attribute _ _ member) => [member]
  | .param value => [value.name]
  | .function value => [value.name]
  | _ => []

/-- The symbols that belong to a part. -/
def heads (env : Environment) : Origin → List String
  | .expr (.name _ id) => [id]
  | .expr (.constant _ value) => [value.token]
  | .expr (.call _ (.name _ id) _) => [callTarget id]
  | .expr (.attribute _ _ member) => [env.references.head member]
  | .expr (.subscript ..) => [Primitive.slice]
  | .expr (.list ..) => [Primitive.makeList]
  | .expr (.lambda ..) => [Primitive.lambda]
  | .sequence _ => [Primitive.lambda]
  | .param value => [value.name]
  | .stmt (.assign ..) => [Primitive.define, Primitive.store]
  | .stmt (.augment ..) => [Primitive.store]
  | .stmt (.branch ..) => [Primitive.ifElse, Primitive.block]
  | .stmt (.whileLoop ..) => [Primitive.loop, Primitive.block]
  | .stmt (.forLoop _ _ iter _ _) =>
    [if iter.isParallelRange then Primitive.parallelMap else Primitive.map]
  | .stmt (.ret _ none) => [Primitive.nil]
  | .function value => [Primitive.define, value.name, Primitive.block]
  | _ => []

end Origin

mutual

/-- The parts of an expression, itself first. -/
def Expr.origins : Expr → List Origin
  | .binary pos left op right =>
    .expr (.binary pos left op right) :: (left.origins ++ right.origins)
  | .unary pos op operand => .expr (.unary pos op operand) :: operand.origins
  | .compare pos left ops comparators =>
    .expr (.compare pos left ops comparators) :: (left.origins ++ Expr.originsIn comparators)
  | .call pos callee args =>
    .expr (.call pos callee args) :: (callee.origins ++ Expr.originsIn args)
  | .attribute pos object member => .expr (.attribute pos object member) :: object.origins
  | .subscript pos base index =>
    .expr (.subscript pos base index) :: (base.origins ++ index.origins)
  | .list pos items => .expr (.list pos items) :: Expr.originsIn items
  | .tuple pos items => .expr (.tuple pos items) :: Expr.originsIn items
  | .lambda pos params body =>
    .expr (.lambda pos params body) :: (params.map Origin.param ++ body.origins)
  | atom => [.expr atom]

/-- The parts of several expressions, in order. -/
def Expr.originsIn : List Expr → List Origin
  | [] => []
  | value :: rest => value.origins ++ Expr.originsIn rest

/-- The parts of an expression that may be missing. -/
def Expr.originsOf : Option Expr → List Origin
  | none => []
  | some value => value.origins

/-- The parts of what stands between the brackets of a subscript. -/
def Index.origins : Index → List Origin
  | .item value => value.origins
  | .slice bounds => bounds.origins
  | .dims parts => Dim.originsIn parts

/-- The parts of one dimension. -/
def Dim.origins : Dim → List Origin
  | .item value => value.origins
  | .slice bounds => bounds.origins

/-- The parts of several dimensions, in order. -/
def Dim.originsIn : List Dim → List Origin
  | [] => []
  | part :: rest => part.origins ++ Dim.originsIn rest

/-- The parts of the bounds of a slice. -/
def Slice.origins : Slice → List Origin
  | .mk lower upper step _ =>
    Expr.originsOf lower ++ (Expr.originsOf upper ++ Expr.originsOf step)

end

mutual

/-- The parts of a statement, itself first. -/
def Stmt.origins : Stmt → List Origin
  | .function pos definition => .stmt (.function pos definition) :: definition.origins
  | .assign pos target value =>
    .stmt (.assign pos target value) :: (target.origins ++ value.origins)
  | .augment pos target op value =>
    .stmt (.augment pos target op value) :: (target.origins ++ value.origins)
  | .branch pos test body orelse =>
    .stmt (.branch pos test body orelse) ::
      (test.origins ++ (Stmt.originsIn body ++ Stmt.originsIn orelse))
  | .whileLoop pos test body orelse =>
    .stmt (.whileLoop pos test body orelse) ::
      (test.origins ++ (Stmt.originsIn body ++ Stmt.originsIn orelse))
  | .forLoop pos target iter body orelse =>
    .stmt (.forLoop pos target iter body orelse) :: .sequence iter ::
      (target.origins ++ (iter.origins ++ (Stmt.originsIn body ++ Stmt.originsIn orelse)))
  | .ret pos value => .stmt (.ret pos value) :: Expr.originsOf value
  | .expr pos values => .stmt (.expr pos values) :: Expr.originsIn values
  | .unknown pos kind => [.stmt (.unknown pos kind)]

/-- The parts of several statements, in order. -/
def Stmt.originsIn : List Stmt → List Origin
  | [] => []
  | stmt :: rest => stmt.origins ++ Stmt.originsIn rest

/-- The parts of a function, itself first. -/
def FunctionDef.origins : FunctionDef → List Origin
  | .mk name params body pos =>
    .function (.mk name params body pos) :: (params.map Origin.param ++ Stmt.originsIn body)

end

theorem Expr.self_mem_origins (value : Expr) : .expr value ∈ value.origins := by
  cases value <;> exact List.mem_cons_self

theorem FunctionDef.self_mem_origins (definition : FunctionDef) :
    .function definition ∈ definition.origins := by
  cases definition
  exact List.mem_cons_self

/-! ## The names of symbols -/

/-- The names of symbols that do not depend on how the parts of a function are named. -/
def Primitive.fixed : List String :=
  [define, store, block, ifElse, loop, map, parallelMap, lambda, slice, set, makeList, output,
    range, nil, Primitive.true, Primitive.false]

/-- What holds of the fixed names, of the primitives of the reference table and of the names that a
part is written with holds of the names of its symbols. -/
theorem Origin.good_heads {good : String → Prop} {env : Environment}
    (hfixed : ∀ name ∈ Primitive.fixed, good name)
    (hprimitives : ∀ member primitive, env.references.resolve? member = some primitive →
      good primitive)
    (origin : Origin) (hnames : ∀ name ∈ origin.names, good name) :
    ∀ symbol ∈ origin.heads env, good symbol := by
  have fixed (symbols : List String) (h : symbols.all Primitive.fixed.contains = true) :
      ∀ symbol ∈ symbols, good symbol := by
    rw [List.all_eq_true] at h
    exact fun symbol found => hfixed symbol (List.contains_iff_mem.mp (h symbol found))
  cases origin with
  | expr value =>
    cases value with
    | name pos id => exact hnames
    | constant pos value => cases value <;> exact fixed _ rfl
    | call pos callee args =>
      cases callee with
      | name place id =>
        intro symbol found
        rw [List.mem_singleton.mp found, callTarget]
        split
        · exact hfixed _ (by decide)
        · split
          · exact hfixed _ (by decide)
          · exact hnames id List.mem_cons_self
      | _ => exact fixed _ rfl
    | «attribute» pos object member =>
      intro symbol found
      rw [List.mem_singleton.mp found, ReferenceTable.head]
      cases known : env.references.resolve? member with
      | none => exact hnames member List.mem_cons_self
      | some primitive => exact hprimitives member primitive known
    | _ => exact fixed _ rfl
  | sequence value => exact fixed _ rfl
  | param value => exact hnames
  | stmt value =>
    cases value with
    | forLoop pos target iter body orelse =>
      intro symbol found
      rw [List.mem_singleton.mp found]
      split <;> exact hfixed _ (by decide)
    | ret pos value => cases value <;> exact fixed _ rfl
    | _ => exact fixed _ rfl
  | function value =>
    intro symbol found
    rw [heads, List.mem_cons, List.mem_cons, List.mem_singleton] at found
    rcases found with rfl | rfl | rfl
    · exact hfixed _ (by decide)
    · exact hnames _ List.mem_cons_self
    · exact hfixed _ (by decide)

/-! ## Names without marks -/

/-- A text that holds no mark. -/
def Unmarked (text : String) : Prop := tagMark ∉ text.toList

instance (text : String) : Decidable (Unmarked text) := inferInstanceAs (Decidable (¬ _))

/-- No primitive of the reference table holds a mark. -/
def Environment.IsUnmarked (env : Environment) : Prop :=
  ∀ member primitive, env.references.resolve? member = some primitive → Unmarked primitive

/-- No name that a function is written with holds a mark. -/
def FunctionDef.IsUnmarked (definition : FunctionDef) : Prop :=
  ∀ origin ∈ definition.origins, ∀ name ∈ origin.names, Unmarked name

instance (definition : FunctionDef) : Decidable definition.IsUnmarked :=
  inferInstanceAs (Decidable (∀ origin ∈ definition.origins, _))

/-- The symbols of a part hold no mark if the names it is written with hold none. -/
theorem Origin.unmarked_heads {env : Environment} (h : env.IsUnmarked) (origin : Origin)
    (hnames : ∀ name ∈ origin.names, Unmarked name) :
    ∀ symbol ∈ origin.heads env, Unmarked symbol :=
  origin.good_heads (by decide) h hnames

end CallForm

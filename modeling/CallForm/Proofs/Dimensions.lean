-- How many dimensions a subscript may have. A write asks for two however
-- they are given, and so does a read of several parts; but a tuple that is
-- read is an expression like any other, whatever its length.
import CallForm.Proofs.Faults

namespace CallForm

/-! ## Dimensions and what stands in them -/

/-- The number of dimensions of an index that is given several: the items of a tuple, or parts some
of which are slices. -/
def Index.dimensions? : Index → Option Nat
  | .item (.tuple _ items) => some items.length
  | .dims parts => some parts.length
  | _ => none

/-- Whether an index is a tuple. -/
def Index.isTuple : Index → Bool
  | .item (.tuple ..) => true
  | _ => false

/-- Whether an index is two slices without a step. -/
def Index.isBlock : Index → Bool
  | .dims [.slice (.mk _ _ none _), .slice (.mk _ _ none _)] => true
  | _ => false

/-- The bounds of a slice that are there. -/
def Slice.components : Slice → List Expr
  | .mk lower upper step _ => lower.toList ++ (upper.toList ++ step.toList)

/-- The expressions in a dimension. -/
def Dim.components : Dim → List Expr
  | .item value => [value]
  | .slice bounds => bounds.components

/-- The expressions in an index: those of its dimensions, or of the only one. -/
def Index.components : Index → List Expr
  | .item (.tuple _ items) => items
  | .item value => [value]
  | .slice bounds => bounds.components
  | .dims parts => parts.flatMap Dim.components

/-- An expression that can be compiled in a scope. -/
def Expr.Lowers (env : Environment) (scope : Scope) (value : Expr) : Prop :=
  ∃ form, value.lower env scope 0 = .ok form

/-! ## What can be compiled has no faults -/

section

variable {env : Environment} {scope : Scope}

/-- The place of a walk at which nothing is bound beyond the scope it starts with. -/
def Place.first : Place := ⟨[], []⟩

theorem Expr.Lowers.faultless {value : Expr} (h : value.Lowers env scope) :
    faultsIn env scope (value.visits env.enters .first) = [] := by
  obtain ⟨form, lowered⟩ := h
  have judged := value.judged_lower env scope .first 0
  cases found : faultsIn env scope (value.visits env.enters .first) with
  | nil => rfl
  | cons cause rest =>
    rw [found] at judged
    have failed : value.lower env scope 0 = .error cause := judged
    rw [failed] at lowered
    cases lowered

theorem Expr.visitsOf_eq (enters : Expr → String → Bool) (place : Place) (value : Option Expr) :
    Expr.visitsOf enters place value = value.toList.flatMap (Expr.visits enters place) := by
  cases value <;> simp [Expr.visitsOf]

theorem Expr.visitsAll_eq (enters : Expr → String → Bool) (place : Place) (values : List Expr) :
    Expr.visitsAll enters place values = values.flatMap (Expr.visits enters place) := by
  induction values with
  | nil => rfl
  | cons value rest ih => rw [Expr.visitsAll, ih, List.flatMap_cons]

theorem Dim.visits_eq (enters : Expr → String → Bool) (place : Place) (part : Dim) :
    part.visits enters place = part.components.flatMap (Expr.visits enters place) := by
  cases part with
  | item value => simp [Dim.visits, Dim.components]
  | slice bounds =>
    obtain ⟨lower, upper, step, pos⟩ := bounds
    simp [Dim.visits, Dim.components, Slice.visits, Slice.components, Expr.visitsOf_eq,
      List.flatMap_append]

/-- The walk over an index that is written is the walk over what stands in it. -/
theorem Index.targetVisits_eq (enters : Expr → String → Bool) (place : Place) (index : Index) :
    index.targetVisits enters place = index.components.flatMap (Expr.visits enters place) := by
  cases index with
  | item value =>
    cases value with
    | tuple pos items => exact Expr.visitsAll_eq enters place items
    | _ => simp [Index.targetVisits, Index.components, Index.visits]
  | slice bounds =>
    have same := Dim.visits_eq enters place (.slice bounds)
    rwa [Dim.visits, Dim.components] at same
  | dims parts =>
    rw [Index.targetVisits, Index.visits, Index.components, List.flatMap_assoc]
    · induction parts with
      | nil => rfl
      | cons part rest ih => rw [Dim.visitsAll, ih, List.flatMap_cons, Dim.visits_eq]
    · simp

theorem faultsIn_flatMap {values : List Expr}
    (h : ∀ value ∈ values, faultsIn env scope (value.visits env.enters .first) = []) :
    faultsIn env scope (values.flatMap (Expr.visits env.enters .first)) = [] := by
  induction values with
  | nil => rfl
  | cons value rest ih =>
    rw [List.flatMap_cons, faultsIn_append, h value List.mem_cons_self, List.nil_append]
    exact ih fun other member => h other (List.mem_cons_of_mem _ member)

variable {index : Index} (h : ∀ part ∈ index.components, part.Lowers env scope)

include h

theorem Index.targetVisits_faultless :
    faultsIn env scope (index.targetVisits env.enters .first) = [] := by
  rw [Index.targetVisits_eq]
  exact faultsIn_flatMap fun part member => (h part member).faultless

/-- A tuple is no fault of its own where it is read. -/
theorem Index.visits_faultless : faultsIn env scope (index.visits env.enters .first) = [] := by
  have target := Index.targetVisits_faultless h
  cases index with
  | item value =>
    cases value with
    | tuple pos items =>
      rw [Index.visits, Expr.visits, faultsIn_cons]
      exact target
    | _ => exact target
  | _ => exact target

/-- Reading is decided by the index alone if the base and all that stands in the index can be
compiled. -/
theorem Expr.judged_subscript {base : Expr} (hbase : base.Lowers env scope) (priority : Nat)
    (pos : Position) :
    Judged (index.selectorFault? pos).toList
      ((Expr.subscript pos base index).lower env scope priority) := by
  have judged : Judged _ ((Expr.subscript pos base index).lower env scope priority) :=
    Expr.judged_lower env scope .first priority (.subscript pos base index)
  rw [Expr.visits, faultsIn_cons, faultsIn_append, faultsIn_cons, hbase.faultless,
    Index.visits_faultless h] at judged
  simpa [Visit.fault?, Expr.fault?] using judged

/-- Writing is decided by the index and the value if the base and all that stands in the index can
be compiled. -/
theorem Expr.judged_lowerSet {base : Expr} (hbase : base.Lowers env scope) (priority : Nat)
    (line : UInt32) (value : Expr) :
    Judged ((index.targetFault? line).toList ++
        faultsIn env scope (value.visits env.enters .first))
      (Expr.lowerSet env scope priority line base index value) := by
  have judged := Expr.judged_set env scope .first priority line base index value
  rw [hbase.faultless, Index.targetVisits_faultless h, List.append_nil] at judged
  exact judged

end

/-! ## Which counts are accepted -/

variable {index : Index} {n : Nat} (counted : index.dimensions? = some n)

include counted

theorem Index.selectorFault?_of_count (pos : Position) :
    index.selectorFault? pos =
      if n = 2 ∨ index.isTuple = true then none else some (.unsupportedSlicing pos.line) := by
  cases index with
  | item value =>
    cases value with
    | tuple place items => simp [selectorFault?, isTuple]
    | _ => cases counted
  | slice bounds => cases counted
  | dims parts =>
    cases counted
    simp [selectorFault?, isTuple]

theorem Index.targetFault?_of_other_count (line : UInt32) (other : n ≠ 2) :
    index.targetFault? line = some (.unsupportedSlicing line) := by
  cases index with
  | item value =>
    cases value with
    | tuple place items =>
      cases counted
      rw [targetFault?, if_neg other]
    | _ => cases counted
  | slice bounds => cases counted
  | dims parts =>
    cases counted
    unfold targetFault?
    split
    · rename_i same
      cases same
    · rename_i same
      cases same
    · rename_i same
      cases same
    · rename_i same
      cases same
      exact absurd rfl other
    · rfl

theorem Index.targetFault?_of_pair (line : UInt32) (pair : n = 2)
    (shape : index.isTuple = true ∨ index.isBlock = true) : index.targetFault? line = none := by
  cases index with
  | item value =>
    cases value with
    | tuple place items =>
      cases counted
      rw [targetFault?, if_pos pair]
    | _ => cases counted
  | slice bounds => cases counted
  | dims parts =>
    obtain shape | shape := shape
    · cases shape
    · unfold isBlock at shape
      split at shape
      · rename_i same
        cases same
        rfl
      · cases shape

omit counted

/-- A subscript with other than two dimensions is refused on the line of the statement where it is
written, and on its own line where it is read, unless it is a tuple that is read: that is accepted
whatever its length. Two dimensions are accepted everywhere, if those that are written are a tuple
or two slices without a step. -/
theorem a_subscript_has_two_dimensions_unless_a_tuple_is_read (ctx : Context) (base : Expr)
    (index : Index) (n : Nat) (counted : index.dimensions? = some n)
    (lowers : ∀ part ∈ base :: index.components, part.Lowers ctx.env ctx.scope) :
    (∀ pos : Position,
      (n ≠ 2 → index.isTuple = false →
        (Lowering.expr (.subscript pos base index)).runOn ctx =
          (.error (.unsupportedSlicing pos.line), ctx)) ∧
      (n = 2 ∨ index.isTuple = true →
        ∃ form, (Lowering.expr (.subscript pos base index)).runOn ctx = (.ok form, ctx))) ∧
    ∀ (pos place : Position) (value : Expr) (allowReturn : Bool),
      (n ≠ 2 →
        ((Stmt.assign pos (.subscript place base index) value).lower allowReturn).runOn ctx =
          (.error (.unsupportedSlicing pos.line), ctx)) ∧
      (n = 2 → index.isTuple = true ∨ index.isBlock = true → value.Lowers ctx.env ctx.scope →
        ∃ form, ((Stmt.assign pos (.subscript place base index) value).lower allowReturn).runOn
          ctx = (.ok form, ctx)) := by
  have hbase := lowers base List.mem_cons_self
  have inside : ∀ part ∈ index.components, part.Lowers ctx.env ctx.scope :=
    fun part member => lowers part (List.mem_cons_of_mem _ member)
  constructor
  · intro pos
    have judged := Expr.judged_subscript inside hbase ctx.priority pos
    rw [Index.selectorFault?_of_count counted] at judged
    have run : (Lowering.expr (.subscript pos base index)).runOn ctx =
        ((Expr.subscript pos base index).lower ctx.env ctx.scope ctx.priority, ctx) := rfl
    rw [run]
    constructor
    · intro other list
      rw [if_neg (by simp [other, list])] at judged
      exact congrArg (·, ctx) judged
    · intro accepted
      rw [if_pos accepted] at judged
      obtain ⟨form, lowered⟩ := judged
      exact ⟨form, congrArg (·, ctx) lowered⟩
  · intro pos place value allowReturn
    have judged := Expr.judged_lowerSet inside hbase ctx.priority pos.line value
    have run : ((Stmt.assign pos (.subscript place base index) value).lower allowReturn).runOn ctx =
        (Expr.lowerSet ctx.env ctx.scope ctx.priority pos.line base index value, ctx) := by
      rw [Stmt.lower]
      rfl
    rw [run]
    constructor
    · intro other
      rw [Index.targetFault?_of_other_count counted pos.line other] at judged
      exact congrArg (·, ctx) judged
    · intro pair shape hvalue
      rw [Index.targetFault?_of_pair counted pos.line pair shape, hvalue.faultless] at judged
      obtain ⟨form, lowered⟩ := judged
      exact ⟨form, congrArg (·, ctx) lowered⟩

/-- Three dimensions, of which one is a slice: `a[i, :, j]`. -/
def Index.threeParts : Index :=
  .dims [.item (.name ⟨2, 13⟩ "i"), .slice (.mk none none none ⟨2, 16⟩), .item (.name ⟨2, 19⟩ "j")]

theorem three_parts_are_refused_where_they_are_read_and_where_they_are_written :
    (Lowering.expr (.subscript ⟨2, 11⟩ (.name ⟨2, 11⟩ "a") .threeParts)).runOn (.inBody {} .empty) =
        (.error (.unsupportedSlicing 2), .inBody {} .empty) ∧
      ((Stmt.assign ⟨3, 4⟩ (.subscript ⟨2, 11⟩ (.name ⟨2, 11⟩ "a") .threeParts)
          (.name ⟨3, 18⟩ "b")).lower false).runOn (.inBody {} .empty) =
        (.error (.unsupportedSlicing 3), .inBody {} .empty) := by
  have lowers : ∀ part ∈ Expr.name ⟨2, 11⟩ "a" :: Index.threeParts.components,
      part.Lowers {} .empty := by
    intro part member
    change part ∈ [Expr.name ⟨2, 11⟩ "a", .name ⟨2, 13⟩ "i", .name ⟨2, 19⟩ "j"] at member
    simp only [List.mem_cons, List.not_mem_nil, or_false] at member
    rcases member with rfl | rfl | rfl <;> exact ⟨_, rfl⟩
  obtain ⟨reads, writes⟩ := a_subscript_has_two_dimensions_unless_a_tuple_is_read
    (.inBody {} .empty) (.name ⟨2, 11⟩ "a") .threeParts 3 rfl lowers
  exact ⟨(reads ⟨2, 11⟩).1 (by decide) rfl, (writes ⟨3, 4⟩ _ _ _).1 (by decide)⟩

/-- A read by a tuple of three: `def f(a): return a[1, 2, 3]`, a line each. -/
def FunctionDef.readingByThree : FunctionDef :=
  .mk "f" [⟨"a", ⟨1, 6⟩⟩]
    [.ret ⟨2, 4⟩ (some (.subscript ⟨2, 11⟩ (.name ⟨2, 11⟩ "a")
      (.item (.tuple ⟨2, 13⟩
        [.number ⟨2, 13⟩ (.int 1), .number ⟨2, 16⟩ (.int 2), .number ⟨2, 19⟩ (.int 3)]))))] ⟨1, 0⟩

theorem a_tuple_of_three_is_compiled_where_it_is_read :
    (FunctionDef.readingByThree.compile {}).map Ir.render =
      .ok "define$1$0(f$1$0, a$1$6, slice$2$11(a$2$11, 1, 2, 3))" := by
  rfl

end CallForm

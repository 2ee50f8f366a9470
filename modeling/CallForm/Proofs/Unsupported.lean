-- Constructs that have no compiled form, and where lowering refuses them.
-- It does so at every stop of its walk; what it never comes by stands
-- inside a dotted object whose member has a primitive, and nowhere else.
import CallForm.Proofs.Faults

namespace CallForm

/-! ## Constructs without a compiled form -/

/-- An expression that has no compiled form, whatever its parts are. -/
def Expr.Unsupported : Expr → Prop
  | .unknown .. => True
  | .binary _ _ op _ => op ∉ [.add, .sub, .mult, .div, .mod, .pow]
  | .unary _ op _ => op ∉ [.minus, .not]
  | .compare _ _ ops comparators =>
    ops.length ≠ 1 ∨ comparators.length ≠ 1 ∨ ∃ op ∈ ops, op ∉ [.lt, .gt, .le, .ge, .eq, .ne]
  | _ => False

/-- A stop at an expression that has no compiled form, or at an unknown statement. -/
def Visit.Unsupported : Visit → Prop
  | .expr value => value.Unsupported
  | .stmt _ (.unknown ..) => True
  | _ => False

theorem BinaryOperator.compiled?_eq_none (op : BinaryOperator)
    (h : op ∉ [.add, .sub, .mult, .div, .mod, .pow]) : op.compiled? = none := by
  revert h
  cases op <;> decide

theorem UnaryOperator.compiled?_eq_none (op : UnaryOperator) (h : op ∉ [.minus, .not]) :
    op.compiled? = none := by
  revert h
  cases op <;> decide

theorem Comparison.compiled?_eq_none (op : Comparison)
    (h : op ∉ [.lt, .gt, .le, .ge, .eq, .ne]) : op.compiled? = none := by
  revert h
  cases op <;> decide

theorem Expr.Unsupported.fault (env : Environment) (scope : Scope) {value : Expr}
    (h : value.Unsupported) : ∃ cause, value.fault? env scope = some cause := by
  cases value with
  | unknown pos kind => exact ⟨.unsupportedNode kind pos, rfl⟩
  | binary pos left op right =>
    refine ⟨.unsupportedOperator .binary op.text pos.line, ?_⟩
    rw [Expr.fault?, op.compiled?_eq_none h]
    rfl
  | unary pos op operand =>
    refine ⟨.unsupportedOperator .unary op.text pos.line, ?_⟩
    rw [Expr.fault?, op.compiled?_eq_none h]
    rfl
  | compare pos left ops comparators =>
    match ops, comparators with
    | [op], [_] =>
      have outside : op ∉ [Comparison.lt, .gt, .le, .ge, .eq, .ne] := by
        obtain h | h | ⟨other, found, h⟩ := h
        · exact absurd rfl h
        · exact absurd rfl h
        · rwa [List.mem_singleton.mp found] at h
      refine ⟨.unsupportedOperator .boolean op.text pos.line, ?_⟩
      rw [Expr.fault?, op.compiled?_eq_none outside]
      rfl
    | [], _ | _ :: _ :: _, _ | [_], [] | [_], _ :: _ :: _ =>
      exact ⟨.chainedComparison pos.line, rfl⟩
  | _ => exact absurd h id

theorem Visit.Unsupported.fault (env : Environment) (scope : Scope) {visit : Visit}
    (h : visit.Unsupported) : ∃ cause, visit.fault? env scope = some cause := by
  cases visit with
  | expr value => exact Expr.Unsupported.fault env scope h
  | stmt last value =>
    cases value with
    | unknown pos kind => exact ⟨.unsupportedNode kind pos, rfl⟩
    | _ => exact absurd h id
  | _ => exact absurd h id

/-! ## What the walk passes over -/

/-- The walk that enters every object. -/
def everywhere (_object : Expr) (_member : String) : Bool := true

section

variable (enters : Expr → String → Bool)

/-- A stop inside an object that is not entered although its attribute is visited. -/
def PassedOver (visits : List (Place × Visit)) (stop : Place × Visit) : Prop :=
  ∃ place value access, (place, .expr value) ∈ visits ∧ value.access? = some access ∧
    enters access.object access.member = false ∧ stop ∈ access.object.visits everywhere place

/-- A walk covers a tree: what it does not come by stands inside an object that it passes over. -/
def Covers (all visits : List (Place × Visit)) : Prop :=
  ∀ stop ∈ all, stop ∈ visits ∨ PassedOver enters visits stop

variable {enters} {all all' visits visits' : List (Place × Visit)} {stop : Place × Visit}

theorem PassedOver.mono (h : PassedOver enters visits stop)
    (within : ∀ other ∈ visits, other ∈ visits') : PassedOver enters visits' stop := by
  obtain ⟨place, value, access, found, rest⟩ := h
  exact ⟨place, value, access, within _ found, rest⟩

theorem Covers.refl : Covers enters all all := fun _ found => .inl found

theorem Covers.append (h : Covers enters all visits) (h' : Covers enters all' visits') :
    Covers enters (all ++ all') (visits ++ visits') := by
  intro stop found
  rcases List.mem_append.mp found with found | found
  · rcases h stop found with met | passed
    · exact .inl (List.mem_append_left _ met)
    · exact .inr (passed.mono fun _ => List.mem_append_left _)
  · rcases h' stop found with met | passed
    · exact .inl (List.mem_append_right _ met)
    · exact .inr (passed.mono fun _ => List.mem_append_right _)

theorem Covers.cons (h : Covers enters all visits) :
    Covers enters (stop :: all) (stop :: visits) := by
  have single : Covers enters [stop] [stop] := .refl
  exact single.append h

/-- What stands in the object of an attribute is visited if the object is entered, and passed over
if it is not. -/
theorem Covers.object {place : Place} (value : Expr) (access : Access)
    (is : value.access? = some access)
    (inside : Covers enters (access.object.visits everywhere place)
      (access.object.visits enters place))
    (after : Covers enters all visits) :
    Covers enters
      ((place, .expr value) :: (objectVisits everywhere access.object access.member
        (access.object.visits everywhere place) ++ all))
      ((place, .expr value) :: (objectVisits enters access.object access.member
        (access.object.visits enters place) ++ visits)) := by
  cases entered : enters access.object access.member with
  | true =>
    have same : objectVisits enters access.object access.member
        (access.object.visits enters place) =
        objectVisits everywhere access.object access.member
          (access.object.visits enters place) := by
      unfold objectVisits everywhere
      rw [entered]
    rw [same]
    apply Covers.cons
    apply Covers.append ?_ after
    unfold objectVisits
    split
    · exact .refl
    · exact inside
  | false =>
    -- Nothing of the object is visited; the stop at the attribute accounts for all of it.
    intro stop found
    rcases List.mem_cons.mp found with rfl | found
    · exact .inl List.mem_cons_self
    · rcases List.mem_append.mp found with found | found
      · have standing : stop ∈ access.object.visits everywhere place := by
          unfold objectVisits at found
          split at found
          · exact absurd found List.not_mem_nil
          · exact found
        exact .inr ⟨place, value, access, List.mem_cons_self, is, entered, standing⟩
      · rcases after stop found with met | passed
        · exact .inl (List.mem_cons_of_mem _ (List.mem_append_right _ met))
        · exact .inr (passed.mono fun _ met => List.mem_cons_of_mem _ (List.mem_append_right _ met))

end

section

variable (enters : Expr → String → Bool) (place : Place)

mutual

/-- The walk over an expression covers all of it. -/
theorem Expr.covers_visits : ∀ value : Expr,
    Covers enters (value.visits everywhere place) (value.visits enters place)
  | .name .. | .number .. | .string .. | .constant .. | .unknown .. => .refl
  | .binary pos left op right => by
    rw [Expr.visits, Expr.visits]
    apply Covers.cons
    exact left.covers_visits.append right.covers_visits
  | .unary pos op operand => by
    rw [Expr.visits, Expr.visits]
    apply Covers.cons
    exact operand.covers_visits
  | .compare pos left ops comparators => by
    rw [Expr.visits, Expr.visits]
    apply Covers.cons
    exact left.covers_visits.append (Expr.covers_visitsAll comparators)
  | .call pos callee args => by
    cases callee with
    | name at' id => exact (Expr.covers_visitsAll args).cons
    | «attribute» at' object member =>
      exact .object _ ⟨at', object, member, args⟩ rfl object.covers_visits
        (Expr.covers_visitsAll args)
    | _ => exact ((Expr.covers_visits _).append (Expr.covers_visitsAll args)).cons
  | .attribute pos object member => by
    have after : Covers enters [] [] := .refl
    have covered := Covers.object (.attribute pos object member) ⟨pos, object, member, []⟩ rfl
      object.covers_visits after
    rwa [List.append_nil, List.append_nil] at covered
  | .subscript pos base index => by
    rw [Expr.visits, Expr.visits]
    apply Covers.cons
    exact base.covers_visits.append index.covers_visits.cons
  | .list pos items => by
    rw [Expr.visits, Expr.visits]
    apply Covers.cons
    exact Expr.covers_visitsAll items
  | .tuple pos items => by
    rw [Expr.visits, Expr.visits]
    apply Covers.cons
    exact Expr.covers_visitsAll items
  | .lambda pos params body => by
    rw [Expr.visits, Expr.visits]
    apply Covers.cons
    exact body.covers_visits

theorem Expr.covers_visitsAll : ∀ values : List Expr,
    Covers enters (Expr.visitsAll everywhere place values) (Expr.visitsAll enters place values)
  | [] => .refl
  | value :: rest => value.covers_visits.append (Expr.covers_visitsAll rest)

theorem Expr.covers_visitsOf : ∀ value : Option Expr,
    Covers enters (Expr.visitsOf everywhere place value) (Expr.visitsOf enters place value)
  | none => .refl
  | some value => value.covers_visits

theorem Index.covers_visits : ∀ index : Index,
    Covers enters (index.visits everywhere place) (index.visits enters place)
  | .item value => value.covers_visits
  | .slice bounds => bounds.covers_visits
  | .dims parts => Dim.covers_visitsAll parts

theorem Dim.covers_visits : ∀ dim : Dim,
    Covers enters (dim.visits everywhere place) (dim.visits enters place)
  | .item value => value.covers_visits
  | .slice bounds => bounds.covers_visits

theorem Dim.covers_visitsAll : ∀ parts : List Dim,
    Covers enters (Dim.visitsAll everywhere place parts) (Dim.visitsAll enters place parts)
  | [] => .refl
  | part :: rest => part.covers_visits.append (Dim.covers_visitsAll rest)

theorem Slice.covers_visits : ∀ bounds : Slice,
    Covers enters (bounds.visits everywhere place) (bounds.visits enters place)
  | .mk lower upper step _ =>
    (Expr.covers_visitsOf lower).append
      ((Expr.covers_visitsOf upper).append (Expr.covers_visitsOf step))

end

theorem Index.covers_targetVisits (index : Index) :
    Covers enters (index.targetVisits everywhere place) (index.targetVisits enters place) := by
  cases index with
  | item value =>
    cases value with
    | tuple pos items => exact Expr.covers_visitsAll enters place items
    | _ => exact Expr.covers_visits enters place _
  | _ => exact Index.covers_visits enters place _

end

section

variable (enters : Expr → String → Bool)

theorem covers_assignVisits (before : List String) (pos : Position) (target value : Expr) :
    Covers enters (assignVisits everywhere before pos target value)
      (assignVisits enters before pos target value) := by
  cases target with
  | name at' id => exact value.covers_visits enters _
  | subscript at' base index =>
    have written := (index.covers_targetVisits enters ⟨before, []⟩).append
      (value.covers_visits enters ⟨before, []⟩)
    exact (base.covers_visits enters _).append written.cons
  | _ => exact (Expr.covers_visits enters _ _).append (value.covers_visits enters _)

theorem covers_augmentVisits (before : List String) (target value : Expr) :
    Covers enters (augmentVisits everywhere before target value)
      (augmentVisits enters before target value) := by
  cases target with
  | name at' id => exact value.covers_visits enters _
  | _ => exact (Expr.covers_visits enters _ _).append (value.covers_visits enters _)

mutual

/-- The walk over a statement covers all of it. -/
theorem Stmt.covers_visits : ∀ (stmt : Stmt) (before : List String) (last : Bool),
    Covers enters (stmt.visits everywhere before last) (stmt.visits enters before last)
  | .function pos (.mk name params body place), before, last => by
    rw [Stmt.visits, Stmt.visits]
    apply Covers.cons
    exact Stmt.covers_visitsAll body before false
  | .assign pos target value, before, last => by
    rw [Stmt.visits, Stmt.visits]
    apply Covers.cons
    exact covers_assignVisits enters before pos target value
  | .augment pos target op value, before, last => by
    rw [Stmt.visits, Stmt.visits]
    apply Covers.cons
    exact covers_augmentVisits enters before target value
  | .branch pos test body orelse, before, last => by
    rw [Stmt.visits, Stmt.visits]
    have branches := (Stmt.covers_visitsAll body before last).append
      (Stmt.covers_visitsAll orelse (before ++ Stmt.assignedIn body) last)
    apply Covers.cons
    exact (test.covers_visits enters _).append branches
  | .whileLoop pos test body orelse, before, last => by
    rw [Stmt.visits, Stmt.visits]
    have blocks := (Stmt.covers_visitsAll body before false).append
      (Stmt.covers_visitsAll orelse (before ++ Stmt.assignedIn body) false)
    apply Covers.cons
    exact (test.covers_visits enters _).append blocks
  | .forLoop pos target iter body orelse, before, last => by
    rw [Stmt.visits, Stmt.visits]
    have bodyCovered := Stmt.covers_visitsAll body before false
    have orelseCovered := Stmt.covers_visitsAll orelse (before ++ Stmt.assignedIn body) false
    have iterCovered := iter.covers_visits enters ⟨before, Stmt.assignedIn body⟩
    apply Covers.cons
    exact (target.covers_visits enters _).append
      (bodyCovered.append (iterCovered.append orelseCovered))
  | .ret pos value, before, last => by
    rw [Stmt.visits, Stmt.visits]
    apply Covers.cons
    exact Expr.covers_visitsOf _ _ value
  | .expr pos values, before, last => by
    rw [Stmt.visits, Stmt.visits]
    apply Covers.cons
    exact Expr.covers_visitsAll _ _ values
  | .unknown .., _, _ => .refl

theorem Stmt.covers_visitsAll : ∀ (stmts : List Stmt) (before : List String) (last : Bool),
    Covers enters (Stmt.visitsAll everywhere before last stmts)
      (Stmt.visitsAll enters before last stmts)
  | [], _, _ => .refl
  | stmt :: rest, before, last => by
    rw [Stmt.visitsAll, Stmt.visitsAll]
    exact (stmt.covers_visits _ _).append (Stmt.covers_visitsAll rest _ _)

end

end

/-! ## The law -/

/-- A function fails, with its first fault, if lowering comes by anything in it that has no compiled
form. What lowering does not come by stands inside a dotted object whose member has a primitive. -/
theorem an_unsupported_part_is_refused_unless_it_is_passed_over (env : Environment)
    (definition : FunctionDef) (place : Place) (part : Visit)
    (standing : (place, part) ∈ definition.visits everywhere) (unsupported : part.Unsupported) :
    ((place, part) ∈ definition.visits env.enters →
        ∃ cause, definition.compile env = .error cause ∧
          (definition.faults env).head? = some cause) ∧
      ((place, part) ∉ definition.visits env.enters →
        PassedOver env.enters (definition.visits env.enters) (place, part)) := by
  constructor
  · intro met
    exact definition.fails_of_fault env met (unsupported.fault env _)
  · intro unmet
    have covered := Stmt.covers_visitsAll env.enters definition.body [] true
    exact (covered _ standing).resolve_left unmet

/-- A dictionary as the bound of a slice, inside an object that is entered:
`def f(a): return (lambda x: a[{}:]).shape`, a line each. -/
def FunctionDef.boundedByDictionary : FunctionDef :=
  .mk "f" [⟨"a", ⟨1, 6⟩⟩]
    [.ret ⟨2, 4⟩ (some (.attribute ⟨2, 11⟩ (.lambda ⟨2, 12⟩ [⟨"x", ⟨2, 19⟩⟩]
      (.subscript ⟨2, 22⟩ (.name ⟨2, 22⟩ "a")
        (.slice (.mk (some (.unknown ⟨2, 24⟩ "dictionary")) none none ⟨2, 24⟩)))) "shape"))] ⟨1, 0⟩

theorem a_dictionary_inside_a_lambda_is_refused :
    FunctionDef.boundedByDictionary.compile {} =
      .error (.unsupportedNode "dictionary" ⟨2, 24⟩) := by
  have law := an_unsupported_part_is_refused_unless_it_is_passed_over {}
    .boundedByDictionary ⟨[], []⟩ (.expr (.unknown ⟨2, 24⟩ "dictionary"))
    (List.mem_of_getElem? (i := 6) rfl) trivial
  obtain ⟨cause, failed, first⟩ := law.1 (List.mem_of_getElem? (i := 6) rfl)
  cases first
  exact failed

/-- A dictionary as the object of a dotted attribute: `def f(a): return {}.a.shape`, a line
each. -/
def FunctionDef.reachingThroughDictionary : FunctionDef :=
  .mk "f" [⟨"a", ⟨1, 6⟩⟩]
    [.ret ⟨2, 4⟩ (some (.attribute ⟨2, 11⟩
      (.attribute ⟨2, 11⟩ (.unknown ⟨2, 11⟩ "dictionary") "a") "shape"))] ⟨1, 0⟩

theorem a_dictionary_inside_a_dotted_object_is_compiled_away :
    (⟨[], []⟩, .expr (.unknown ⟨2, 11⟩ "dictionary")) ∈
        FunctionDef.reachingThroughDictionary.visits everywhere ∧
      (Visit.expr (.unknown ⟨2, 11⟩ "dictionary")).Unsupported ∧
      FunctionDef.reachingThroughDictionary.compile {} =
        .ok (Ir.taggedCall ⟨1, 0⟩ Primitive.define [Ir.tagged ⟨1, 0⟩ "f", Ir.tagged ⟨1, 6⟩ "a",
          Ir.taggedCall ⟨2, 11⟩ "shape" []]) := by
  refine ⟨List.mem_of_getElem? (i := 3) rfl, trivial, rfl⟩

end CallForm

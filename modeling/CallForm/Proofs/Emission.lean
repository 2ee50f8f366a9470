-- What becomes of each expression that lowering comes by: if the function
-- compiles, then so does the expression where it stands, and its compiled
-- form stands in that of the function.
import CallForm.Proofs.Faults

namespace CallForm

/-! ## The parts of compiled form -/

mutual

/-- All that compiled form is made of, itself first. -/
def Ir.parts : Ir → List Ir
  | .call head args => .call head args :: Ir.partsIn args
  | .between left operator right grouped =>
    .between left operator right grouped :: (left.parts ++ right.parts)
  | .before operator operand grouped => .before operator operand grouped :: operand.parts
  | .group inner => .group inner :: inner.parts
  | .sequence items => .sequence items :: Ir.partsIn items
  | atom => [atom]

/-- All that several compiled forms are made of. -/
def Ir.partsIn : List Ir → List Ir
  | [] => []
  | form :: rest => form.parts ++ Ir.partsIn rest

end

/-- What stands immediately inside compiled form. -/
def Ir.children : Ir → List Ir
  | .call _ args => args
  | .between left _ right _ => [left, right]
  | .before _ operand _ => [operand]
  | .group inner => [inner]
  | .sequence items => items
  | _ => []

theorem Ir.parts_eq (form : Ir) : form.parts = form :: Ir.partsIn form.children := by
  cases form <;> simp [Ir.parts, Ir.partsIn, Ir.children]

theorem Ir.mem_partsIn {part : Ir} {forms : List Ir} :
    part ∈ Ir.partsIn forms ↔ ∃ form ∈ forms, part ∈ form.parts := by
  induction forms with
  | nil => simp [Ir.partsIn]
  | cons form rest ih => simp [Ir.partsIn, ih]

/-! ## Forms that the stops of a walk leave -/

section

variable (env : Environment) (start : Scope)

/-- Every expression of a walk compiles where it stands, to a form that stands in `forms`. -/
def Emits (visits : List (Place × Visit)) (forms : List Ir) : Prop :=
  ∀ place value, (place, Visit.expr value) ∈ visits → ∃ priority form,
    value.lower env (place.scope start) priority = .ok form ∧ form ∈ Ir.partsIn forms

variable {env start}

variable {visits more : List (Place × Visit)} {forms others : List Ir}

theorem Emits.nil (forms : List Ir) : Emits env start [] forms := by
  intro place value met
  exact absurd met List.not_mem_nil

theorem Emits.mono (h : Emits env start visits forms)
    (within : ∀ part ∈ Ir.partsIn forms, part ∈ Ir.partsIn others) :
    Emits env start visits others := by
  intro place value met
  obtain ⟨priority, form, lowered, part⟩ := h place value met
  exact ⟨priority, form, lowered, within form part⟩

theorem Emits.among (h : Emits env start visits forms) (within : ∀ form ∈ forms, form ∈ others) :
    Emits env start visits others := by
  apply h.mono
  intro part found
  obtain ⟨form, listed, inside⟩ := Ir.mem_partsIn.mp found
  exact Ir.mem_partsIn.mpr ⟨form, within form listed, inside⟩

theorem Emits.append (h : Emits env start visits forms) (h' : Emits env start more others) :
    Emits env start (visits ++ more) (forms ++ others) := by
  intro place value met
  rcases List.mem_append.mp met with met | met
  · exact h.among (fun _ => List.mem_append_left _) place value met
  · exact h'.among (fun _ => List.mem_append_right _) place value met

theorem Emits.cons {form : Ir} (h : Emits env start visits [form])
    (h' : Emits env start more forms) : Emits env start (visits ++ more) (form :: forms) :=
  Emits.append h h'

/-- What stands in front leaves nothing to ask for. -/
theorem Emits.beside (form : Ir) (h : Emits env start visits forms) :
    Emits env start visits (form :: forms) :=
  h.among fun _ => List.mem_cons_of_mem _

/-- A form holds what its children hold. -/
theorem Emits.inside {form : Ir} (h : Emits env start visits form.children) :
    Emits env start visits [form] := by
  apply h.mono
  intro part found
  rw [Ir.partsIn, Ir.partsIn, List.append_nil, Ir.parts_eq]
  exact List.mem_cons_of_mem _ found

/-- A block holds what its statements hold. -/
theorem Emits.block (pos : Position) (h : Emits env start visits forms) :
    Emits env start visits [blockOf pos forms] := by
  match forms with
  | [_] => exact h
  | [] | _ :: _ :: _ => exact h.inside

/-- A stop at an expression asks for the compiled form of the expression itself. -/
theorem Emits.expr {place : Place} {value : Expr} {priority : Nat} {form : Ir}
    (lowered : value.lower env (place.scope start) priority = .ok form)
    (h : Emits env start visits [form]) :
    Emits env start ((place, .expr value) :: visits) [form] := by
  intro place' value' met
  rcases List.mem_cons.mp met with same | met
  · cases same
    refine ⟨priority, form, lowered, ?_⟩
    rw [Ir.partsIn, Ir.parts_eq]
    exact List.mem_cons_self
  · exact h place' value' met

/-- A stop at anything but an expression asks for nothing. -/
theorem Emits.other {place : Place} {visit : Visit} (h : Emits env start visits forms)
    (is : ∀ value, visit ≠ .expr value) :
    Emits env start ((place, visit) :: visits) forms := by
  intro place' value' met
  rcases List.mem_cons.mp met with same | met
  · cases same
    exact absurd rfl (is value')
  · exact h place' value' met

end

/-! ## Expressions -/

section

variable (env : Environment) (start : Scope) (place : Place)

/-- The object of an attribute leaves its form as the receiver, where it is entered. -/
theorem emits_receiverOf (pos : Position) (object : Expr) (member : String)
    {lowered : Except LowerError Ir} {inside : List (Place × Visit)} {receiver : List Ir}
    (h : receiverOf env (place.scope start) pos object member lowered = .ok receiver)
    (emitted : ∀ form, lowered = .ok form → Emits env start inside [form]) :
    Emits env start (objectVisits env.enters object member inside) receiver := by
  cases object with
  | name at' id => exact .nil _
  | «attribute» at' inner middle =>
    unfold receiverOf at h
    unfold objectVisits Environment.enters
    cases found : env.references.resolve? member with
    | none =>
      rw [found] at h
      cases h
    | some primitive =>
      -- The object is not entered, so there is nothing to find in the receiver.
      exact .nil _
  | _ =>
    cases lowered with
    | error cause => cases h
    | ok form =>
      cases h
      exact emitted form rfl

mutual

/-- An expression that compiles leaves the form of everything its walk comes by. -/
theorem Expr.emits_lower (priority : Nat) : ∀ (value : Expr) (form : Ir),
    value.lower env (place.scope start) priority = .ok form →
      Emits env start (value.visits env.enters place) [form]
  | .name .., form, h | .number .., form, h | .string .., form, h | .constant .., form, h =>
    .expr h (.nil _)
  | .binary pos left op right, form, h => by
    have whole := h
    rw [Expr.lower] at h
    obtain ⟨operator, _, h⟩ := bind_eq_ok.mp h
    obtain ⟨lhs, hleft, h⟩ := bind_eq_ok.mp h
    obtain ⟨rhs, hright, h⟩ := bind_eq_ok.mp h
    cases h
    have leftEmitted := left.emits_lower _ _ hleft
    have rightEmitted := right.emits_lower _ _ hright
    rw [Expr.visits]
    apply Emits.expr whole
    apply Emits.inside
    exact leftEmitted.cons rightEmitted
  | .unary pos op operand, form, h => by
    have whole := h
    rw [Expr.lower] at h
    obtain ⟨operator, _, h⟩ := bind_eq_ok.mp h
    obtain ⟨inner, hinner, h⟩ := bind_eq_ok.mp h
    cases h
    rw [Expr.visits]
    apply Emits.expr whole
    have written : Emits env start (operand.visits env.enters place)
        [.before operator inner (env.groupAggressively || operand.isOperation)] :=
      .inside (operand.emits_lower _ _ hinner)
    by_cases grouped : PrefixOperator.priority < priority
    · rw [if_pos grouped]
      apply Emits.inside
      exact written
    · rw [if_neg grouped]
      exact written
  | .compare pos left [op] [right], form, h => by
    have whole := h
    rw [Expr.lower] at h
    obtain ⟨operator, _, h⟩ := bind_eq_ok.mp h
    obtain ⟨lhs, hleft, h⟩ := bind_eq_ok.mp h
    obtain ⟨rhs, hright, h⟩ := bind_eq_ok.mp h
    cases h
    have leftEmitted := left.emits_lower _ _ hleft
    have rightEmitted := right.emits_lower _ _ hright
    rw [Expr.visits, Expr.visitsAll, Expr.visitsAll, List.append_nil]
    apply Emits.expr whole
    apply Emits.inside
    exact leftEmitted.cons rightEmitted
  | .compare _ _ [] _, form, h | .compare _ _ (_ :: _ :: _) _, form, h
  | .compare _ _ [_] [], form, h | .compare _ _ [_] (_ :: _ :: _), form, h => by cases h
  | .call pos callee args, form, h => by
    have whole := h
    cases callee with
    | name at' id =>
      rw [Expr.lower] at h
      obtain ⟨args', hargs, h⟩ := bind_eq_ok.mp h
      cases h
      apply Emits.expr whole
      apply Emits.inside
      exact Expr.emits_lowerAll 0 args args' hargs
    | «attribute» at' object member =>
      rw [Expr.lower] at h
      obtain ⟨receiver, hreceiver, h⟩ := bind_eq_ok.mp h
      obtain ⟨args', hargs, h⟩ := bind_eq_ok.mp h
      cases h
      have objectEmitted :=
        emits_receiverOf env start place _ _ _ hreceiver (object.emits_lower 0)
      have argsEmitted := Expr.emits_lowerAll 0 args args' hargs
      apply Emits.expr whole
      apply Emits.inside
      exact objectEmitted.append argsEmitted
    | _ => cases h
  | .attribute pos object member, form, h => by
    have whole := h
    rw [Expr.lower] at h
    obtain ⟨receiver, hreceiver, h⟩ := bind_eq_ok.mp h
    cases h
    apply Emits.expr whole
    apply Emits.inside
    exact emits_receiverOf env start place _ _ _ hreceiver (object.emits_lower 0)
  | .subscript pos base index, form, h => by
    have whole := h
    rw [Expr.lower] at h
    obtain ⟨base', hbase, h⟩ := bind_eq_ok.mp h
    obtain ⟨selector, hselector, h⟩ := bind_eq_ok.mp h
    cases h
    have baseEmitted := base.emits_lower _ _ hbase
    have indexEmitted := index.emits_lower pos selector hselector
    rw [Expr.visits]
    apply Emits.expr whole
    apply Emits.inside
    exact baseEmitted.cons (indexEmitted.other nofun)
  | .list pos items, form, h => by
    have whole := h
    rw [Expr.lower] at h
    obtain ⟨items', hitems, h⟩ := bind_eq_ok.mp h
    cases h
    apply Emits.expr whole
    apply Emits.inside
    exact Expr.emits_lowerAll 0 items items' hitems
  | .tuple pos items, form, h => by
    have whole := h
    rw [Expr.lower] at h
    obtain ⟨items', hitems, h⟩ := bind_eq_ok.mp h
    cases h
    apply Emits.expr whole
    apply Emits.inside
    exact Expr.emits_lowerAll 0 items items' hitems
  | .lambda pos params body, form, h => by
    have whole := h
    rw [Expr.lower] at h
    obtain ⟨body', hbody, h⟩ := bind_eq_ok.mp h
    cases h
    have block : Emits env start (body.visits env.enters place)
        [Ir.bareCall Primitive.block [body']] := .inside (body.emits_lower 0 body' hbody)
    apply Emits.expr whole
    apply Emits.inside
    exact block.among fun _ => List.mem_append_right _
  | .unknown .., form, h => by cases h

theorem Expr.emits_lowerAll (priority : Nat) : ∀ (values : List Expr) (forms : List Ir),
    Expr.lowerAll env (place.scope start) priority values = .ok forms →
      Emits env start (Expr.visitsAll env.enters place values) forms
  | [], forms, _ => .nil forms
  | value :: rest, forms, h => by
    rw [Expr.lowerAll] at h
    obtain ⟨first, hfirst, h⟩ := bind_eq_ok.mp h
    obtain ⟨others, hothers, h⟩ := bind_eq_ok.mp h
    cases h
    have firstEmitted := value.emits_lower _ _ hfirst
    have othersEmitted := Expr.emits_lowerAll _ rest others hothers
    exact firstEmitted.cons othersEmitted

theorem Expr.emits_lowerBound (priority : Nat) (absent : Ir) :
    ∀ (bound : Option Expr) (form : Ir),
    Expr.lowerBound env (place.scope start) priority absent bound = .ok form →
      Emits env start (Expr.visitsOf env.enters place bound) [form]
  | none, _, _ => .nil _
  | some bound, form, h => bound.emits_lower priority form h

/-- The index of a subscript that is read leaves the forms of its parts in the selector. -/
theorem Index.emits_lower (pos : Position) : ∀ (index : Index) (form : Ir),
    index.lower env (place.scope start) pos = .ok form →
      Emits env start (index.visits env.enters place) [form]
  | .item value, form, h => value.emits_lower 0 form h
  | .slice bounds, form, h => bounds.emits_lower 0 form h
  | .dims [first, second], form, h => by
    rw [Index.lower] at h
    obtain ⟨first', hfirst, h⟩ := bind_eq_ok.mp h
    obtain ⟨second', hsecond, h⟩ := bind_eq_ok.mp h
    cases h
    have firstEmitted := first.emits_lower 0 first' hfirst
    have secondEmitted := second.emits_lower 0 second' hsecond
    rw [Index.visits, Dim.visitsAll, Dim.visitsAll, Dim.visitsAll, List.append_nil]
    apply Emits.inside
    exact firstEmitted.cons secondEmitted
  | .dims [], form, h | .dims [_], form, h | .dims (_ :: _ :: _ :: _), form, h => by cases h

theorem Dim.emits_lower (priority : Nat) : ∀ (dim : Dim) (form : Ir),
    dim.lower env (place.scope start) priority = .ok form →
      Emits env start (dim.visits env.enters place) [form]
  | .item value, form, h => value.emits_lower priority form h
  | .slice bounds, form, h => bounds.emits_lower priority form h

theorem Slice.emits_lower (priority : Nat) : ∀ (bounds : Slice) (form : Ir),
    bounds.lower env (place.scope start) priority = .ok form →
      Emits env start (bounds.visits env.enters place) [form]
  | .mk lower upper step _, form, h => by
    -- The equations of a slice split on its step; its bounds are the same in both.
    rw [Slice.lower.eq_def] at h
    obtain ⟨low, hlow, h⟩ := bind_eq_ok.mp h
    obtain ⟨high, hhigh, h⟩ := bind_eq_ok.mp h
    have lowerEmitted := Expr.emits_lowerBound _ _ lower low hlow
    have upperEmitted := Expr.emits_lowerBound _ _ upper high hhigh
    rw [Slice.visits]
    cases step with
    | none =>
      cases h
      apply Emits.inside
      exact lowerEmitted.cons (upperEmitted.cons (.nil []))
    | some step =>
      obtain ⟨step', hstep, h⟩ := bind_eq_ok.mp h
      cases h
      have stepEmitted := step.emits_lower _ _ hstep
      apply Emits.inside
      exact lowerEmitted.cons (upperEmitted.cons stepEmitted)

end

/-- The index of a subscript that is written leaves the forms of its parts among the arguments. -/
theorem Index.emits_lowerTarget (priority : Nat) (line : UInt32) :
    ∀ (index : Index) (forms : List Ir),
    index.lowerTarget env (place.scope start) priority line = .ok forms →
      Emits env start (index.targetVisits env.enters place) forms
  | .item value, forms, h => by
    cases value with
    | tuple pos items =>
      match items with
      | [row, column] =>
        obtain ⟨row', hrow, h⟩ := bind_eq_ok.mp h
        obtain ⟨column', hcolumn, h⟩ := bind_eq_ok.mp h
        cases h
        have rowEmitted := row.emits_lower env start place priority row' hrow
        have columnEmitted := column.emits_lower env start place priority column' hcolumn
        have after : Emits env start (Expr.visitsAll env.enters place [column])
            [column', Ir.zero, Ir.zero] := columnEmitted.cons (.nil _)
        exact rowEmitted.cons (.beside Ir.zero (.beside Ir.zero after))
      | [] | [_] | _ :: _ :: _ :: _ => cases h
    | _ =>
      obtain ⟨item, hitem, h⟩ := bind_eq_ok.mp h
      cases h
      have itemEmitted := Expr.emits_lower env start place priority _ item hitem
      apply itemEmitted.among
      intro form found
      rw [List.mem_singleton.mp found]
      exact List.mem_cons_self
  | .slice (.mk lower upper none pos), forms, h => by
    obtain ⟨low, hlow, h⟩ := bind_eq_ok.mp h
    obtain ⟨high, hhigh, h⟩ := bind_eq_ok.mp h
    cases h
    have lowerEmitted := Expr.emits_lowerBound env start place priority _ lower low hlow
    have upperEmitted := Expr.emits_lowerBound env start place priority _ upper high hhigh
    exact lowerEmitted.cons (upperEmitted.cons (.nil _))
  | .dims [.slice (.mk rowLow rowHigh none pos), .slice (.mk columnLow columnHigh none pos')],
      forms, h => by
    obtain ⟨rowLow', hrowLow, h⟩ := bind_eq_ok.mp h
    obtain ⟨rowHigh', hrowHigh, h⟩ := bind_eq_ok.mp h
    obtain ⟨columnLow', hcolumnLow, h⟩ := bind_eq_ok.mp h
    obtain ⟨columnHigh', hcolumnHigh, h⟩ := bind_eq_ok.mp h
    cases h
    have rowLowEmitted := Expr.emits_lowerBound env start place priority _ rowLow _ hrowLow
    have rowHighEmitted := Expr.emits_lowerBound env start place priority _ rowHigh _ hrowHigh
    have columnLowEmitted :=
      Expr.emits_lowerBound env start place priority _ columnLow _ hcolumnLow
    have columnHighEmitted :=
      Expr.emits_lowerBound env start place priority _ columnHigh _ hcolumnHigh
    have rows : Emits env start (Slice.visits env.enters place (.mk rowLow rowHigh none pos))
        [rowLow', rowHigh'] := rowLowEmitted.cons (rowHighEmitted.cons (.nil _))
    have columns : Emits env start
        (Slice.visits env.enters place (.mk columnLow columnHigh none pos'))
        [columnLow', columnHigh'] := columnLowEmitted.cons (columnHighEmitted.cons (.nil _))
    exact rows.append (.beside Ir.one (columns.append (.nil [Ir.one])))
  | .slice (.mk _ _ (some _) _), forms, h => by cases h
  | .dims [], forms, h | .dims (.item _ :: _), forms, h
  | .dims (.slice (.mk _ _ (some _) _) :: _), forms, h
  | .dims [.slice (.mk _ _ none _)], forms, h
  | .dims (.slice (.mk _ _ none _) :: .item _ :: _), forms, h
  | .dims (.slice (.mk _ _ none _) :: .slice (.mk _ _ (some _) _) :: _), forms, h
  | .dims (.slice (.mk _ _ none _) :: .slice (.mk _ _ none _) :: _ :: _), forms, h => by cases h

end

/-! ## Statements -/

section

variable (env : Environment) (start : Scope) (before : List String)

theorem emits_assignForm (pos : Position) (target value : Expr) {form : Ir}
    (h : assignForm env (start.bindAll before) pos target value = .ok form) :
    Emits env start (assignVisits env.enters before pos target value) [form] := by
  cases target with
  | name at' id =>
    obtain ⟨value', hvalue, h⟩ := bind_eq_ok.mp h
    cases h
    have valueEmitted := value.emits_lower env start ⟨before, [id]⟩ 0 value' hvalue
    apply Emits.inside
    exact .beside _ valueEmitted
  | subscript at' base index =>
    obtain ⟨base', hbase, h⟩ := bind_eq_ok.mp h
    obtain ⟨parts, hindex, h⟩ := bind_eq_ok.mp h
    obtain ⟨value', hvalue, h⟩ := bind_eq_ok.mp h
    cases h
    have baseEmitted := base.emits_lower env start ⟨before, []⟩ 0 base' hbase
    have indexEmitted :=
      index.emits_lowerTarget env start ⟨before, []⟩ 0 pos.line parts hindex
    have valueEmitted := value.emits_lower env start ⟨before, []⟩ 0 value' hvalue
    have written := indexEmitted.append valueEmitted
    apply Emits.inside
    exact baseEmitted.cons (written.other nofun)
  | _ => cases h

theorem emits_augmentForm (pos : Position) (target : Expr) (op : BinaryOperator) (value : Expr)
    {form : Ir} (h : augmentForm env (start.bindAll before) pos target op value = .ok form) :
    Emits env start (augmentVisits env.enters before target value) [form] := by
  cases op with
  | add =>
    cases target with
    | name at' id =>
      obtain ⟨value', hvalue, h⟩ := bind_eq_ok.mp h
      cases h
      have valueEmitted :=
        value.emits_lower env start ⟨before, []⟩ InfixOperator.add.rightSlot value' hvalue
      have sum : Emits env start (value.visits env.enters ⟨before, []⟩)
          [.between (Ir.tagged at' id) .add value' env.groupAggressively] :=
        .inside (.beside _ valueEmitted)
      apply Emits.inside
      exact .beside _ sum
    | _ => cases h
  | _ => cases h

theorem emits_returnForm (pos : Position) (value : Option Expr) (last : Bool) {form : Ir}
    (h : returnForm env (start.bindAll before) pos value last = .ok form) :
    Emits env start (Expr.visitsOf env.enters ⟨before, []⟩ value) [form] := by
  cases last with
  | false => cases h
  | true =>
    cases value with
    | none => exact .nil _
    | some value =>
      exact value.emits_lower env start ⟨before, []⟩ 0 form h

theorem emits_exprForm (pos : Position) (values : List Expr) {form : Ir}
    (h : exprForm env (start.bindAll before) pos values = .ok form) :
    Emits env start (Expr.visitsAll env.enters ⟨before, []⟩ values) [form] := by
  match values with
  | [value] =>
    obtain ⟨value', hvalue, h⟩ := bind_eq_ok.mp h
    cases h
    have valueEmitted := value.emits_lower env start ⟨before, []⟩ 0 value' hvalue
    apply Emits.inside
    exact valueEmitted.cons (.nil [])
  | [] | _ :: _ :: _ => cases h

mutual

/-- A statement that compiles leaves the form of every expression that its walk comes by. -/
theorem Stmt.emits_form (last : Bool) : ∀ (stmt : Stmt) (before : List String) (form : Ir),
    stmt.form env (start.bindAll before) last = .ok form →
      Emits env start (stmt.visits env.enters before last) [form]
  | .function pos definition, before, form, h => by
    rw [Stmt.form_function] at h
    cases h
  | .assign pos target value, before, form, h => by
    rw [Stmt.form_assign] at h
    rw [Stmt.visits]
    exact (emits_assignForm env start before pos target value h).other nofun
  | .augment pos target op value, before, form, h => by
    rw [Stmt.form_augment] at h
    rw [Stmt.visits]
    exact (emits_augmentForm env start before pos target op value h).other nofun
  | .branch pos test body orelse, before, form, h => by
    rw [Stmt.form_branch, Scope.bindAll_bindAll] at h
    obtain ⟨test', htest, h⟩ := bind_eq_ok.mp h
    obtain ⟨first, hfirst, h⟩ := bind_eq_ok.mp h
    obtain ⟨second, hsecond, h⟩ := bind_eq_ok.mp h
    cases h
    have testEmitted := test.emits_lower env start ⟨before, []⟩ 0 test' htest
    have bodyEmitted := Stmt.emits_forms last body before first hfirst
    have orelseEmitted := Stmt.emits_forms last orelse _ second hsecond
    rw [Stmt.visits]
    refine .other (.inside ?_) nofun
    have branches := (bodyEmitted.block pos).cons (orelseEmitted.block pos)
    exact testEmitted.cons branches
  | .whileLoop pos test body orelse, before, form, h => by
    rw [Stmt.form_whileLoop] at h
    cases orelse with
    | cons => cases h
    | nil =>
      obtain ⟨test', htest, h⟩ := bind_eq_ok.mp h
      obtain ⟨inner, hinner, h⟩ := bind_eq_ok.mp h
      cases h
      have testEmitted := test.emits_lower env start ⟨before, []⟩ 0 test' htest
      have bodyEmitted := Stmt.emits_forms false body before inner hinner
      rw [Stmt.visits, Stmt.visitsAll, List.append_nil]
      refine .other (.inside ?_) nofun
      exact testEmitted.cons (bodyEmitted.block pos)
  | .forLoop pos target iter body orelse, before, form, h => by
    rw [Stmt.form_forLoop] at h
    cases orelse with
    | cons => cases h
    | nil =>
      obtain ⟨item, htarget, h⟩ := bind_eq_ok.mp h
      obtain ⟨inner, hinner, h⟩ := bind_eq_ok.mp h
      obtain ⟨iterable, hiter, h⟩ := bind_eq_ok.mp h
      cases h
      have targetEmitted := target.emits_lower env start ⟨before, []⟩ 0 item htarget
      have iterEmitted :=
        iter.emits_lower env start ⟨before, Stmt.assignedIn body⟩ 0 iterable hiter
      have bodyEmitted := Stmt.emits_forms false body before inner hinner
      have block : Emits env start (Stmt.visitsAll env.enters before false body)
          [Ir.bareCall Primitive.block inner] := .inside bodyEmitted
      have closure : Emits env start
          (target.visits env.enters ⟨before, []⟩ ++ Stmt.visitsAll env.enters before false body)
          [Ir.taggedCall iter.pos Primitive.lambda [item, Ir.bareCall Primitive.block inner]] :=
        .inside (targetEmitted.cons block)
      rw [Stmt.visits, Stmt.visitsAll, List.append_nil, ← List.append_assoc]
      refine .other (.inside ?_) nofun
      exact closure.cons iterEmitted
  | .ret pos value, before, form, h => by
    rw [Stmt.form_ret] at h
    rw [Stmt.visits]
    exact (emits_returnForm env start before pos value last h).other nofun
  | .expr pos values, before, form, h => by
    rw [Stmt.form_expr] at h
    rw [Stmt.visits]
    exact (emits_exprForm env start before pos values h).other nofun
  | .unknown pos kind, before, form, h => by
    rw [Stmt.form_unknown] at h
    cases h

theorem Stmt.emits_forms (last : Bool) :
    ∀ (stmts : List Stmt) (before : List String) (forms : List Ir),
    Stmt.forms env (start.bindAll before) last stmts = .ok forms →
      Emits env start (Stmt.visitsAll env.enters before last stmts) forms
  | [], before, forms, h => .nil forms
  | stmt :: rest, before, forms, h => by
    rw [Stmt.forms_cons, Scope.bindAll_bindAll] at h
    obtain ⟨first, hfirst, h⟩ := bind_eq_ok.mp h
    obtain ⟨others, hothers, h⟩ := bind_eq_ok.mp h
    cases h
    rw [Stmt.visitsAll]
    exact (Stmt.emits_form _ stmt before first hfirst).cons
      (Stmt.emits_forms last rest _ others hothers)

end

end

/-! ## Functions -/

/-- In a function that compiles, every expression that its walk comes by compiles where it stands,
and its form stands in that of the function. -/
theorem FunctionDef.emits_compile {env : Environment} {definition : FunctionDef} {ir : Ir}
    (h : definition.compile env = .ok ir) :
    Emits env definition.start (definition.visits env.enters) [ir] := by
  rw [definition.compile_eq] at h
  obtain ⟨body, hbody, h⟩ := bind_eq_ok.mp h
  cases h
  have emitted := Stmt.emits_forms env definition.start true definition.body [] body hbody
  have block := emitted.block definition.pos
  exact .inside (block.among fun _ found => List.mem_cons_of_mem _ (List.mem_append_right _ found))

end CallForm

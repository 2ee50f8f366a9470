-- The laws of grouping: whether a function is compiled with many parentheses
-- or with few, it fails for one reason or its texts are read back as one
-- tree, the image of the function.
import CallForm.Proofs.Image
import CallForm.Proofs.Written

namespace CallForm

open CallTree

/-- An environment whose primitives can be read as symbols. -/
def Environment.IsReadable (env : Environment) : Prop :=
  ∀ member primitive, env.references.resolve? member = some primitive →
    isIdentifier primitive = true

/-! ## Names -/

theorem isIdentifier_callTarget {id : String} (h : isIdentifier id = true) :
    isIdentifier (callTarget id) = true := by
  unfold callTarget
  split
  · decide
  · split
    · decide
    · exact h

/-- The primitives that compiled form is made with. -/
def Primitive.all : List String :=
  [define, store, block, ifElse, loop, map, parallelMap, lambda, slice, set, makeList, nil]

theorem isIdentifier_of_mem_all {name : String} (h : name ∈ Primitive.all) :
    isIdentifier name = true := by
  have every : Primitive.all.all isIdentifier = true := by decide
  exact List.all_eq_true.mp every name h

theorem isIdentifier_token (value : Constant) : isIdentifier value.token = true := by
  cases value <;> decide

theorem isIdentifier_binding (binding : Binding) : isIdentifier binding.primitive = true := by
  cases binding <;> decide

theorem Environment.IsReadable.head {env : Environment} (h : env.IsReadable) {member : String}
    (named : isIdentifier member = true) : isIdentifier (env.references.head member) = true := by
  unfold ReferenceTable.head
  cases found : env.references.resolve? member with
  | none => exact named
  | some primitive => exact h member primitive found

/-- The primitives known to every compilation can be read as symbols. -/
theorem Environment.isReadable_default : ({} : Environment).IsReadable := by
  intro member primitive found
  have every : ReferenceTable.builtin.primitives.entries.all (isIdentifier ·.2) = true := by
    decide
  exact List.all_eq_true.mp every _ (Registry.mem_of_find? found)

/-! ## Leaves -/

theorem written_tagged {name : String} (h : isIdentifier name = true) (pos : Position)
    (slot : Nat) : Written slot (Ir.tagged pos name) (tagged pos name) :=
  .symbol h

theorem written_nil (slot : Nat) : Written slot (Ir.bare Primitive.nil) CallTree.nil :=
  .symbol (by decide)

theorem written_zero (slot : Nat) : Written slot Ir.zero zero :=
  .number (by decide)

theorem written_one (slot : Nat) : Written slot Ir.one one :=
  .number (by decide)

/-- A call is written for every slot if its arguments are. -/
theorem Arguments.tagged {args : List Ir} {trees : List CallTree} (h : Arguments args trees)
    {name : String} (named : isIdentifier name = true) (pos : Position) (slot : Nat) :
    Written slot (Ir.taggedCall pos name args) (taggedCall pos name trees) :=
  h.call ⟨name, some pos⟩ named slot

theorem Arguments.primitive {args : List Ir} {trees : List CallTree} (h : Arguments args trees)
    {name : String} (known : name ∈ Primitive.all) (pos : Position) (slot : Nat) :
    Written slot (Ir.taggedCall pos name args) (taggedCall pos name trees) :=
  h.tagged (isIdentifier_of_mem_all known) pos slot

theorem Arguments.bare {args : List Ir} {trees : List CallTree} (h : Arguments args trees)
    {name : String} (known : name ∈ Primitive.all) (slot : Nat) :
    Written slot (Ir.bareCall name args) (bareCall name trees) :=
  h.call ⟨name, none⟩ (isIdentifier_of_mem_all known) slot

theorem written_params {params : List Param} (h : params.all (isIdentifier ·.name) = true) :
    List.Forall₂ (Written 0) (params.map fun param => Ir.tagged param.pos param.name)
      (params.map fun param => tagged param.pos param.name) := by
  induction params with
  | nil => exact .nil
  | cons param rest ih =>
    rw [List.all_cons, Bool.and_eq_true] at h
    exact .cons (written_tagged h.1 param.pos 0) (ih h.2)

/-! ## Operators -/

theorem BinaryOperator.agrees (op : BinaryOperator) (line : UInt32) :
    Agree (fun a b => a = b ∧ a.priority ≠ 0) (op.compile line) (op.compile line) := by
  cases op <;> first | exact .failed _ | exact .gave ⟨rfl, by decide⟩

theorem UnaryOperator.agrees (op : UnaryOperator) (line : UInt32) :
    Agree (fun a b => a = b) (op.compile line) (op.compile line) := by
  cases op <;> first | exact .failed _ | exact .gave rfl

theorem Comparison.agrees (op : Comparison) (line : UInt32) :
    Agree (fun a b => a = b ∧ a.priority = 0) (op.compile line) (op.compile line) := by
  cases op <;> first | exact .failed _ | exact .gave ⟨rfl, by decide⟩

/-- Only operations look at the slot they stand in. -/
theorem Expr.lower_eq_of_not_operation (env : Environment) (scope : Scope) {value : Expr}
    (h : value.isOperation = false) (slot other : Nat) :
    value.lower env scope slot = value.lower env scope other := by
  cases value with
  | binary | unary => cases h
  | compare pos left ops comparators =>
    match ops, comparators with
    | [_], [_] => rfl
    | [], _ | _ :: _ :: _, _ | [_], [] | [_], _ :: _ :: _ => rfl
  | call pos callee args => cases callee <;> rfl
  | _ => rfl

/-! ## Expressions -/

section

variable {env : Environment} (aggressively : Bool) (scope : Scope)

theorem receiver_agrees (pos : Position) {object : Expr} (plain : object.isPlain = true)
    (member : String) {lowered : Except LowerError Ir} {image : Except LowerError CallTree}
    (h : Agree (Written 0) lowered image) :
    Agree (List.Forall₂ (Written 0))
      (receiverOf (env.grouping aggressively) scope pos object member lowered)
      (receiverImage env scope pos object member image) := by
  have alone : Agree (List.Forall₂ (Written 0)) (lowered.map ([·])) (image.map ([·])) := by
    cases h with
    | failed cause => exact .failed cause
    | gave h => exact .gave (.cons h .nil)
  unfold receiverOf receiverImage
  cases object with
  | «attribute» place inner name =>
    by_cases known : (env.references.resolve? member).isSome
    · have known' : ((env.grouping aggressively).references.resolve? member).isSome := known
      simp only [known, known', if_true]
      exact .gave .nil
    · have known' : ¬ ((env.grouping aggressively).references.resolve? member).isSome := known
      simp only [known, known']
      exact .failed _
  | name place id =>
    by_cases bound : scope.isBound id
    · simp only [bound, if_true]
      exact .gave (.cons (written_tagged plain place 0) .nil)
    · by_cases exposed : env.modules.exposes id member
      · have exposed' : (env.grouping aggressively).modules.exposes id member := exposed
        simp only [bound, exposed, exposed', if_true]
        exact .gave .nil
      · have exposed' : ¬ (env.grouping aggressively).modules.exposes id member := exposed
        simp only [bound, exposed, exposed']
        exact .failed _
  | _ => exact alone

theorem single_agrees {lowered : Except LowerError Ir} {image : Except LowerError CallTree}
    (h : Agree (Written 0) lowered image) :
    Agree (fun ir trees => Arguments [ir] trees) lowered (image >>= fun tree => .ok [tree]) :=
  h.made_right fun _ _ written => .single written

/-- A tuple of some expressions is written as the arguments that it stands for. -/
theorem tuple_agrees (place : Position) {first : Expr} {rest : List Expr}
    (h : Agree (Written 0) (first.lower (env.grouping aggressively) scope 0)
      (first.image env scope))
    (h' : Agree (List.Forall₂ (Written 0))
      (Expr.lowerAll (env.grouping aggressively) scope 0 rest) (Expr.images env scope rest)) :
    Agree (fun ir trees => Arguments [ir] trees)
      ((Expr.tuple place (first :: rest)).lower (env.grouping aggressively) scope 0)
      (Expr.images env scope (first :: rest)) := by
  simp only [Expr.lower, Expr.lowerAll, Expr.images, bind_assoc, except_ok_bind]
  refine h.bind fun ir tree hfirst => ?_
  refine h'.bind fun irs trees hrest => ?_
  exact .gave (.sequence (by simp) (.cons hfirst hrest))

mutual

/-- An expression compiles for a slot exactly if it has an image, and it is written for the slot
and means its image. -/
theorem Expr.agrees (readable : env.IsReadable) :
    ∀ (value : Expr), value.isPlain = true → ∀ slot : Nat,
    Agree (Written slot) (value.lower (env.grouping aggressively) scope slot)
      (value.image env scope)
  | .name pos id, plain, slot => .gave (written_tagged plain pos slot)
  | .number pos value, plain, slot => .gave (.number plain)
  | .string pos value, plain, slot => .gave .string
  | .constant pos value, plain, slot => .gave (written_tagged (isIdentifier_token value) pos slot)
  | .binary pos left op right, plain, slot => by
    simp only [Expr.isPlain, Bool.and_eq_true] at plain
    rw [Expr.lower, Expr.image]
    refine (op.agrees pos.line).bind ?_
    rintro operator _ ⟨rfl, some⟩
    refine (left.agrees readable plain.1 _).bind fun lhs a ha => ?_
    refine (right.agrees readable plain.2 _).bind fun rhs b hb => ?_
    refine .gave (.between some ?_ ha hb)
    change (aggressively || decide (operator.priority < slot)) = true ∨ _
    cases aggressively
    · simp only [Bool.false_or, decide_eq_true_eq]
      omega
    · exact .inl rfl
  | .unary pos op operand, plain, slot => by
    rw [Expr.lower, Expr.image]
    refine (op.agrees pos.line).bind ?_
    rintro operator _ rfl
    change Agree _ (_ >>= fun inner => Except.ok
      (let written := Ir.before operator inner (aggressively || operand.isOperation)
      if PrefixOperator.priority < slot then .group written else written)) _
    have inner : Agree (Written (if aggressively || operand.isOperation then 0 else 4))
        (operand.lower (env.grouping aggressively) scope 0) (operand.image env scope) := by
      split
      · exact operand.agrees readable plain 0
      · rename_i single
        rw [Bool.not_eq_true, Bool.or_eq_false_iff] at single
        rw [Expr.lower_eq_of_not_operation _ _ single.2 0 4]
        exact operand.agrees readable plain 4
    refine inner.bind fun ir tree h => ?_
    dsimp only
    split
    · exact .gave (.group (.before (by omega) h))
    · exact .gave (.before (by omega) h)
  | .compare pos left [op] [right], plain, slot => by
    simp only [Expr.isPlain, Expr.allPlain, Bool.and_eq_true] at plain
    rw [Expr.lower, Expr.image]
    refine (op.agrees pos.line).bind ?_
    rintro operator _ ⟨rfl, none⟩
    refine (left.agrees readable plain.1 0).bind fun lhs a ha => ?_
    refine (right.agrees readable plain.2.1 0).bind fun rhs b hb => ?_
    exact .gave (.comparison none ha hb)
  | .compare _ _ [] _, _, _ | .compare _ _ (_ :: _ :: _) _, _, _ | .compare _ _ [_] [], _, _
  | .compare _ _ [_] (_ :: _ :: _), _, _ => .failed _
  | .call pos callee args, plain, slot => by
    simp only [Expr.isPlain, Bool.and_eq_true] at plain
    cases callee with
    | name place id =>
      rw [Expr.lower, Expr.image]
      refine (Expr.agrees_all readable args plain.2).bind fun irs trees h => ?_
      exact .gave ((Arguments.of_forall₂ h).tagged (isIdentifier_callTarget plain.1) _ slot)
    | «attribute» place object member =>
      simp only [Expr.isPlain, Bool.and_eq_true] at plain
      rw [Expr.lower, Expr.image]
      refine (receiver_agrees aggressively scope place plain.1.1 member
        (object.agrees readable plain.1.1 0)).bind fun receiver first hfirst => ?_
      refine (Expr.agrees_all readable args plain.2).bind fun irs trees h => ?_
      have arguments := (Arguments.of_forall₂ hfirst).append (.of_forall₂ h)
      have named : isIdentifier ((env.grouping aggressively).references.head member) = true :=
        readable.head plain.1.2
      exact .gave (arguments.tagged named _ slot)
    | _ => exact .failed _
  | .attribute pos object member, plain, slot => by
    simp only [Expr.isPlain, Bool.and_eq_true] at plain
    rw [Expr.lower, Expr.image]
    refine (receiver_agrees aggressively scope pos plain.1 member
      (object.agrees readable plain.1 0)).bind fun receiver first hfirst => ?_
    have named : isIdentifier ((env.grouping aggressively).references.head member) = true :=
      readable.head plain.2
    exact .gave ((Arguments.of_forall₂ hfirst).tagged named _ slot)
  | .subscript pos base index, plain, slot => by
    simp only [Expr.isPlain, Bool.and_eq_true] at plain
    rw [Expr.lower, Expr.image]
    refine (base.agrees readable plain.1 0).bind fun ir tree h => ?_
    refine (index.agrees readable plain.2 pos).bind fun selector selectors h' => ?_
    exact .gave ((Arguments.cons h h').primitive (by decide) _ slot)
  | .list pos items, plain, slot => by
    rw [Expr.lower, Expr.image]
    refine (Expr.agrees_all readable items plain).bind fun irs trees h => ?_
    exact .gave ((Arguments.of_forall₂ h).primitive (by decide) _ slot)
  | .tuple .., plain, slot => by cases plain
  | .lambda pos params body, plain, slot => by
    simp only [Expr.isPlain, Bool.and_eq_true] at plain
    rw [Expr.lower, Expr.image]
    refine (body.agrees readable plain.2 0).bind fun ir tree h => ?_
    have block := (Arguments.single h).bare (by decide : Primitive.block ∈ Primitive.all) 0
    have arguments := (Arguments.of_forall₂ (written_params plain.1)).append (.single block)
    exact .gave (arguments.primitive (by decide) _ slot)
  | .unknown .., _, _ => .failed _

theorem Expr.agrees_all (readable : env.IsReadable) :
    ∀ (values : List Expr), Expr.allPlain values = true →
    Agree (List.Forall₂ (Written 0)) (Expr.lowerAll (env.grouping aggressively) scope 0 values)
      (Expr.images env scope values)
  | [], _ => .gave .nil
  | value :: rest, plain => by
    simp only [Expr.allPlain, Bool.and_eq_true] at plain
    rw [Expr.lowerAll, Expr.images]
    refine (value.agrees readable plain.1 0).bind fun ir tree h => ?_
    refine (Expr.agrees_all readable rest plain.2).bind fun irs trees h' => ?_
    exact .gave (.cons h h')

theorem Expr.agrees_bound (readable : env.IsReadable) {absent : Ir} {nothing : CallTree}
    (h : Written 0 absent nothing) :
    ∀ (bound : Option Expr), Expr.boundPlain bound = true →
      Agree (Written 0) (Expr.lowerBound (env.grouping aggressively) scope 0 absent bound)
        (Expr.boundImage env scope nothing bound)
  | none, _ => .gave h
  | some bound, plain => bound.agrees readable plain 0

theorem Index.agrees (readable : env.IsReadable) :
    ∀ (index : Index), index.isPlain = true → ∀ pos : Position,
    Agree (fun ir trees => Arguments [ir] trees)
      (index.lower (env.grouping aggressively) scope pos) (index.images env scope pos)
  | .item value, plain, pos => by
    have single := fun plain => single_agrees (value.agrees readable plain 0)
    cases value with
    | tuple place items =>
      match items, plain with
      | [first, second], plain =>
        simp only [Index.isPlain, Bool.and_eq_true] at plain
        have others : Expr.allPlain [second] = true := by simp [Expr.allPlain, plain.2]
        rw [Index.lower, Index.images]
        exact tuple_agrees aggressively scope place (first.agrees readable plain.1 0)
          (Expr.agrees_all readable [second] others)
    | _ => exact single plain
  | .slice bounds, plain, pos => by
    rw [Index.images]
    exact single_agrees (bounds.agrees readable plain)
  | .dims [first, second], plain, pos => by
    simp only [Index.isPlain, Dim.allPlain, Bool.and_eq_true] at plain
    rw [Index.lower, Index.images]
    refine (first.agrees readable plain.1).bind fun ir tree h => ?_
    refine (second.agrees readable plain.2.1).bind fun ir' tree' h' => ?_
    exact .gave (.sequence (by simp) (.cons h (.cons h' .nil)))
  | .dims [], _, _ | .dims [_], _, _ | .dims (_ :: _ :: _ :: _), _, _ => .failed _

theorem Dim.agrees (readable : env.IsReadable) : ∀ (dim : Dim), dim.isPlain = true →
    Agree (Written 0) (dim.lower (env.grouping aggressively) scope 0) (dim.image env scope)
  | .item value, plain => value.agrees readable plain 0
  | .slice bounds, plain => bounds.agrees readable plain

theorem Slice.agrees (readable : env.IsReadable) : ∀ (bounds : Slice), bounds.isPlain = true →
    Agree (Written 0) (bounds.lower (env.grouping aggressively) scope 0) (bounds.image env scope)
  | .mk lower upper none _, plain => by
    simp only [Slice.isPlain, Bool.and_eq_true] at plain
    rw [Slice.lower, Slice.image]
    refine (Expr.agrees_bound readable (written_zero 0) lower plain.1.1).bind fun low a ha => ?_
    refine (Expr.agrees_bound readable (written_nil 0) upper plain.1.2).bind fun high b hb => ?_
    exact .gave ((Arguments.cons ha (.single hb)).bare (by decide) 0)
  | .mk lower upper (some step) _, plain => by
    simp only [Slice.isPlain, Expr.boundPlain, Bool.and_eq_true] at plain
    rw [Slice.lower, Slice.image]
    refine (Expr.agrees_bound readable (written_zero 0) lower plain.1.1).bind fun low a ha => ?_
    refine (Expr.agrees_bound readable (written_nil 0) upper plain.1.2).bind fun high b hb => ?_
    refine (step.agrees readable plain.2 0).bind fun ir tree h => ?_
    exact .gave ((Arguments.cons ha (.cons hb (.single h))).bare (by decide) 0)

end

variable (readable : env.IsReadable)
include readable

theorem target_agrees {target : Expr} (plain : target.isPlainTarget = true) :
    Agree (fun ir trees => Arguments [ir] trees)
      (target.lower (env.grouping aggressively) scope 0) (target.targetImages env scope) := by
  have single := fun plain =>
    single_agrees (target.agrees aggressively scope readable plain 0)
  cases target with
  | tuple place items =>
    match items, plain with
    | first :: rest, plain =>
      simp only [Expr.isPlainTarget, Expr.allPlain, Bool.and_eq_true] at plain
      rw [Expr.targetImages]
      exact tuple_agrees aggressively scope place
        (first.agrees aggressively scope readable plain.2.1 0)
        (Expr.agrees_all aggressively scope readable rest plain.2.2)
  | _ => exact single plain

theorem part_agrees {index : Index} (plain : index.isPlain = true) (line : UInt32) :
    Agree (List.Forall₂ (Written 0)) (index.lowerTarget (env.grouping aggressively) scope 0 line)
      (index.partImages env scope line) := by
  have zero := written_zero 0
  have one := written_one 0
  have bound : ∀ {absent : Ir} {nothing : CallTree}, Written 0 absent nothing →
      ∀ bound : Option Expr, Expr.boundPlain bound = true →
        Agree (Written 0) (Expr.lowerBound (env.grouping aggressively) scope 0 absent bound)
          (Expr.boundImage env scope nothing bound) :=
    fun h bound => Expr.agrees_bound aggressively scope readable h bound
  match index, plain with
  | .slice (.mk lower upper none _), plain =>
    simp only [Index.isPlain, Slice.isPlain, Bool.and_eq_true] at plain
    refine (bound zero lower plain.1.1).bind fun low a ha => ?_
    refine (bound zero upper plain.1.2).bind fun high b hb => ?_
    exact .gave (.cons ha (.cons hb (.cons one (.cons zero (.cons zero (.cons zero .nil))))))
  | .slice (.mk _ _ (some _) _), _ => exact .failed _
  | .item value, plain =>
    have single : value.isPlain = true → Agree (List.Forall₂ (Written 0))
        (value.lower (env.grouping aggressively) scope 0 >>= fun item =>
          .ok [item, Ir.zero, Ir.zero, Ir.zero, Ir.zero, Ir.zero])
        (value.image env scope >>= fun item =>
          .ok [item, CallTree.zero, CallTree.zero, CallTree.zero, CallTree.zero,
            CallTree.zero]) := fun plain =>
      (value.agrees aggressively scope readable plain 0).bind fun ir tree h =>
        .gave (.cons h (.cons zero (.cons zero (.cons zero (.cons zero (.cons zero .nil))))))
    cases value with
    | tuple place items =>
      match items, plain with
      | [row, column], plain =>
        simp only [Index.isPlain, Bool.and_eq_true] at plain
        refine (row.agrees aggressively scope readable plain.1 0).bind fun ir tree h => ?_
        refine (column.agrees aggressively scope readable plain.2 0).bind fun ir' tree' h' => ?_
        exact .gave (.cons h (.cons zero (.cons zero (.cons h' (.cons zero (.cons zero .nil))))))
    | _ => exact single plain
  | .dims [.slice (.mk rowLow rowHigh none _), .slice (.mk columnLow columnHigh none _)], plain =>
    simp only [Index.isPlain, Dim.allPlain, Dim.isPlain, Slice.isPlain, Bool.and_eq_true] at plain
    refine (bound zero rowLow plain.1.1.1).bind fun ir₁ tree₁ h₁ => ?_
    refine (bound (written_nil 0) rowHigh plain.1.1.2).bind fun ir₂ tree₂ h₂ => ?_
    refine (bound zero columnLow plain.2.1.1.1).bind fun ir₃ tree₃ h₃ => ?_
    refine (bound (written_nil 0) columnHigh plain.2.1.1.2).bind fun ir₄ tree₄ h₄ => ?_
    exact .gave (.cons h₁ (.cons h₂ (.cons one (.cons h₃ (.cons h₄ (.cons one .nil))))))
  | .dims [dim], _ =>
    rcases dim with _ | ⟨_, _, _ | _, _⟩ <;> exact .failed _
  | .dims (dim :: next :: _ :: _), _ =>
    rcases dim with _ | ⟨_, _, _ | _, _⟩ <;> rcases next with _ | ⟨_, _, _ | _, _⟩ <;>
      exact .failed _
  | .dims [], _ | .dims [.item _, _], _ | .dims [.slice (.mk _ _ (some _) _), _], _
  | .dims [.slice (.mk _ _ none _), .item _], _
  | .dims [.slice (.mk _ _ none _), .slice (.mk _ _ (some _) _)], _ => exact .failed _

/-! ## Statements -/

theorem assign_agrees (pos : Position) {target value : Expr} (htarget : target.isPlain = true)
    (hvalue : value.isPlain = true) :
    Agree (Written 0) (assignForm (env.grouping aggressively) scope pos target value)
      (assignImage env scope pos target value) := by
  unfold assignForm assignImage
  cases target with
  | name place id =>
    refine (value.agrees aggressively _ readable hvalue 0).bind fun ir tree h => ?_
    have named := written_tagged htarget place 0
    exact .gave ((Arguments.cons named (.single h)).tagged (isIdentifier_binding _) pos 0)
  | subscript place base index =>
    simp only [Expr.isPlain, Bool.and_eq_true] at htarget
    dsimp only [Expr.lowerSet]
    refine (base.agrees aggressively scope readable htarget.1 0).bind fun ir tree h => ?_
    refine (part_agrees aggressively scope readable htarget.2 pos.line).bind
      fun part trees hpart => ?_
    refine (value.agrees aggressively scope readable hvalue 0).bind fun ir' tree' h' => ?_
    have arguments := (Arguments.cons h (.of_forall₂ hpart)).append (.single h')
    exact .gave (arguments.bare (by decide) 0)
  | _ => exact .failed _

theorem augment_agrees (pos : Position) {target value : Expr} (op : BinaryOperator)
    (htarget : target.isPlain = true) (hvalue : value.isPlain = true) :
    Agree (Written 0) (augmentForm (env.grouping aggressively) scope pos target op value)
      (augmentImage env scope pos target op value) := by
  unfold augmentForm augmentImage
  by_cases add : op = .add
  · rw [if_pos add, if_pos add]
    cases target with
    | name place id =>
      refine (value.agrees aggressively scope readable hvalue _).bind fun ir tree h => ?_
      have named := written_tagged htarget place
      have sum : Written 0 (.between (Ir.tagged place id) .add ir aggressively)
          (.between (tagged place id) .add tree) :=
        .between (by decide) (.inr (by decide)) (named _) h
      exact .gave ((Arguments.cons (named 0) (.single sum)).primitive (by decide) pos 0)
    | _ => exact .failed _
  · rw [if_neg add, if_neg add]
    exact .failed _

theorem return_agrees (pos : Position) {value : Option Expr} (plain : Expr.boundPlain value = true)
    (allowed : Bool) :
    Agree (Written 0) (returnForm (env.grouping aggressively) scope pos value allowed)
      (returnImage env scope pos value allowed) := by
  cases allowed with
  | false => exact .failed _
  | true =>
    cases value with
    | none => exact .gave (written_tagged (by decide) pos 0)
    | some value => exact value.agrees aggressively scope readable plain 0

omit readable in
theorem block_agrees (pos : Position) {irs : List Ir} {trees : List CallTree}
    (h : List.Forall₂ (Written 0) irs trees) :
    Written 0 (blockOf pos irs) (blockImage pos trees) := by
  have block := (Arguments.of_forall₂ h).primitive (by decide : Primitive.block ∈ Primitive.all)
    pos 0
  rcases h with _ | ⟨first, _ | _⟩
  · exact block
  · exact first
  · exact block

end

mutual

/-- A statement compiles exactly if it has an image, and its compiled form means the image. -/
theorem Stmt.agrees {env : Environment} (aggressively : Bool) (readable : env.IsReadable)
    (allow : Bool) : ∀ (stmt : Stmt) (scope : Scope), stmt.isPlain = true →
      Agree (Written 0) (stmt.form (env.grouping aggressively) scope allow)
        (stmt.image env scope allow)
  | .function pos definition, scope, _ => by
    rw [Stmt.form_function]
    exact .failed _
  | .assign pos target value, scope, plain => by
    simp only [Stmt.isPlain, Bool.and_eq_true] at plain
    rw [Stmt.form_assign]
    exact assign_agrees aggressively scope readable pos plain.1 plain.2
  | .augment pos target op value, scope, plain => by
    simp only [Stmt.isPlain, Bool.and_eq_true] at plain
    rw [Stmt.form_augment]
    exact augment_agrees aggressively scope readable pos op plain.1 plain.2
  | .branch pos test body orelse, scope, plain => by
    simp only [Stmt.isPlain, Bool.and_eq_true] at plain
    rw [Stmt.form_branch, Stmt.image]
    refine (test.agrees aggressively scope readable plain.1.1 0).bind fun ir tree h => ?_
    refine (Stmt.agrees_all aggressively readable allow body scope plain.1.2).bind
      fun first firsts hfirst => ?_
    refine (Stmt.agrees_all aggressively readable allow orelse _ plain.2).bind
      fun second seconds hsecond => ?_
    have arguments :=
      Arguments.cons h (.cons (block_agrees pos hfirst) (.single (block_agrees pos hsecond)))
    exact .gave (arguments.primitive (by decide) pos 0)
  | .whileLoop pos test body orelse, scope, plain => by
    simp only [Stmt.isPlain, Bool.and_eq_true] at plain
    rw [Stmt.form_whileLoop, Stmt.image]
    cases orelse with
    | cons => exact .failed _
    | nil =>
      refine (test.agrees aggressively scope readable plain.1.1 0).bind fun ir tree h => ?_
      refine (Stmt.agrees_all aggressively readable false body scope plain.1.2).bind
        fun inner trees hinner => ?_
      have arguments := Arguments.cons h (.single (block_agrees pos hinner))
      exact .gave (arguments.primitive (by decide) pos 0)
  | .forLoop pos target iter body orelse, scope, plain => by
    simp only [Stmt.isPlain, Bool.and_eq_true] at plain
    rw [Stmt.form_forLoop, Stmt.image]
    cases orelse with
    | cons => exact .failed _
    | nil =>
      refine (target_agrees aggressively scope readable plain.1.1.1).bind fun item items h => ?_
      refine (Stmt.agrees_all aggressively readable false body scope plain.1.2).bind
        fun inner trees hinner => ?_
      refine (iter.agrees aggressively _ readable plain.1.1.2 0).bind fun ir tree hiter => ?_
      have block := (Arguments.of_forall₂ hinner).bare
        (by decide : Primitive.block ∈ Primitive.all) 0
      have closure := (h.append (.single block)).primitive
        (by decide : Primitive.lambda ∈ Primitive.all) iter.pos 0
      have known : (if iter.isParallelRange then Primitive.parallelMap else Primitive.map) ∈
          Primitive.all := by
        split <;> decide
      exact .gave ((Arguments.cons closure (.single hiter)).primitive known pos 0)
  | .ret pos value, scope, plain => by
    rw [Stmt.form_ret]
    exact return_agrees aggressively scope readable pos plain allow
  | .expr pos values, scope, plain => by
    rw [Stmt.form_expr]
    match values, plain with
    | [value], plain =>
      simp only [Stmt.isPlain, Expr.allPlain, Bool.and_eq_true] at plain
      exact (value.agrees aggressively scope readable plain.1 0).made_left fun ir tree h => .group h
    | [], _ | _ :: _ :: _, _ => exact .failed _
  | .unknown pos kind, scope, _ => by
    rw [Stmt.form_unknown]
    exact .failed _

theorem Stmt.agrees_all {env : Environment} (aggressively : Bool) (readable : env.IsReadable)
    (allow : Bool) : ∀ (stmts : List Stmt) (scope : Scope), Stmt.allPlain stmts = true →
      Agree (List.Forall₂ (Written 0)) (Stmt.forms (env.grouping aggressively) scope allow stmts)
        (Stmt.images env scope allow stmts)
  | [], scope, _ => by
    rw [Stmt.forms_nil]
    exact .gave .nil
  | stmt :: rest, scope, plain => by
    simp only [Stmt.allPlain, Bool.and_eq_true] at plain
    rw [Stmt.forms_cons, Stmt.images]
    refine (Stmt.agrees aggressively readable _ stmt scope plain.1).bind fun ir tree h => ?_
    refine (Stmt.agrees_all aggressively readable allow rest _ plain.2).bind
      fun irs trees h' => ?_
    exact .gave (.cons h h')

end

/-! ## The laws -/

/-- A function compiles exactly if it has an image, and its compiled form means the image. -/
theorem FunctionDef.agrees {env : Environment} (aggressively : Bool) (readable : env.IsReadable)
    {definition : FunctionDef} (plain : definition.isPlain = true) :
    Agree (Written 0) (definition.compile (env.grouping aggressively)) (definition.image env) := by
  obtain ⟨name, params, body, pos⟩ := definition
  simp only [FunctionDef.isPlain, Bool.and_eq_true] at plain
  rw [FunctionDef.compile_eq]
  refine (Stmt.agrees_all aggressively readable true body _ plain.2).bind fun irs trees h => ?_
  have named := written_tagged plain.1.1 pos 0
  have arguments := (Arguments.cons named (.of_forall₂ (written_params plain.1.2))).append
    (.single (block_agrees pos h))
  exact .gave (arguments.primitive (by decide) pos 0)

/-- Whether a function is compiled with many parentheses or with few, it fails for one reason, or
both texts are read to their ends and as one tree, which is the image of the function. -/
theorem grouping_changes_no_meaning (env : Environment) (readable : env.IsReadable)
    (definition : FunctionDef) (plain : definition.isPlain = true) :
    (∃ cause, definition.compile (env.grouping true) = .error cause ∧
      definition.compile (env.grouping false) = .error cause) ∨
    ∃ aggressive relaxed tree, definition.compile (env.grouping true) = .ok aggressive ∧
      definition.compile (env.grouping false) = .ok relaxed ∧
      definition.image env = .ok tree ∧
      CallTree.read? aggressive.render = some tree ∧
      CallTree.read? relaxed.render = some tree := by
  have many := definition.agrees true readable plain
  have few := definition.agrees false readable plain
  cases image : definition.image env with
  | error cause =>
    rw [image] at many few
    exact .inl ⟨cause, many.eq_error, few.eq_error⟩
  | ok tree =>
    rw [image] at many few
    obtain ⟨aggressive, hmany, written⟩ := many.eq_ok
    obtain ⟨relaxed, hfew, written'⟩ := few.eq_ok
    exact .inr ⟨aggressive, relaxed, tree, hmany, hfew, rfl, written.read?, written'.read?⟩

/-- A function with an operator in every slot and tuples in both places:
`def f(a): for i, j in a: x = (a - (i - j)) ** -(2 ** i)` and `return a[x, 0] < 1`. -/
def FunctionDef.pairing : FunctionDef :=
  let name (line column : UInt32) (id : String) : Expr := .name ⟨line, column⟩ id
  let number (line column : UInt32) (value : Int64) : Expr := .number ⟨line, column⟩ (.int value)
  .mk "f" [⟨"a", ⟨1, 6⟩⟩]
    [.forLoop ⟨2, 4⟩ (.tuple ⟨2, 8⟩ [name 2 8 "i", name 2 11 "j"]) (name 2 16 "a")
        [.assign ⟨3, 8⟩ (name 3 8 "x")
          (.binary ⟨3, 12⟩
            (.binary ⟨3, 13⟩ (name 3 13 "a") .sub
              (.binary ⟨3, 18⟩ (name 3 18 "i") .sub (name 3 22 "j")))
            .pow
            (.unary ⟨3, 29⟩ .minus (.binary ⟨3, 31⟩ (number 3 31 2) .pow (name 3 36 "i"))))] [],
      .ret ⟨4, 4⟩ (some (.compare ⟨4, 11⟩
        (.subscript ⟨4, 11⟩ (name 4 11 "a")
          (.item (.tuple ⟨4, 13⟩ [name 4 13 "x", number 4 16 0])))
        [.lt] [number 4 21 1]))] ⟨1, 0⟩

theorem a_loop_over_pairs_is_read_alike :
    ({} : Environment).IsReadable ∧ FunctionDef.pairing.isPlain = true ∧
      ∃ aggressive relaxed tree,
        FunctionDef.pairing.compile (Environment.grouping {} true) = .ok aggressive ∧
        FunctionDef.pairing.compile (Environment.grouping {} false) = .ok relaxed ∧
        FunctionDef.pairing.image {} = .ok tree ∧
        CallTree.read? aggressive.render = some tree ∧
        CallTree.read? relaxed.render = some tree := by
  have plain : FunctionDef.pairing.isPlain = true := by decide
  refine ⟨Environment.isReadable_default, plain, ?_⟩
  have laws := grouping_changes_no_meaning {} Environment.isReadable_default .pairing plain
  rcases laws with ⟨cause, failed, _⟩ | read
  · have compiles : ∃ ir, FunctionDef.pairing.compile (Environment.grouping {} true) = .ok ir :=
      ⟨_, rfl⟩
    obtain ⟨ir, done⟩ := compiles
    rw [done] at failed
    cases failed
  · exact read

end CallForm

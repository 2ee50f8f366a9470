-- How many arguments a write to part of a value has. Its form holds eight,
-- and its text has eight as well unless one of them is a tuple: the items of
-- a tuple are written side by side with nothing around them, so each comma
-- of it makes one argument more.
import CallForm.Proofs.Arguments
import CallForm.Proofs.Dimensions
import CallForm.Proofs.Outline
import CallForm.Proofs.Targets

namespace CallForm

/-! ## Commas that a tuple leaves bare -/

mutual

/-- How many commas the text of an expression has outside parentheses, in a place of some
priority: those between the items of a tuple, and of a tuple that is an operand of an operator
without parentheses. -/
def Expr.commas (aggressively : Bool) (priority : Nat) : Expr → Nat
  | .binary _ left op right =>
    match op.compiled? with
    | some operator =>
      if aggressively || operator.priority < priority then 0
      else left.commas aggressively operator.leftSlot + right.commas aggressively operator.rightSlot
    | none => 0
  | .unary _ _ operand =>
    if aggressively || operand.isOperation || PrefixOperator.priority < priority then 0
    else operand.commas aggressively 0
  | .tuple _ items => Expr.commasIn aggressively items
  | _ => 0

/-- How many commas the texts of several expressions have, those between them included. -/
def Expr.commasIn (aggressively : Bool) : List Expr → Nat
  | [] => 0
  | [item] => item.commas aggressively 0
  | item :: next :: rest =>
    item.commas aggressively 0 + 1 + Expr.commasIn aggressively (next :: rest)

end

/-- How many commas several expressions leave bare in their own texts. -/
def Expr.bareCommas (aggressively : Bool) (priority : Nat) : List Expr → Nat
  | [] => 0
  | value :: rest => value.commas aggressively priority + bareCommas aggressively priority rest

/-- Whether an expression has no text: a tuple without items, or one whose only item has none. -/
def Expr.isBlank : Expr → Bool
  | .tuple _ [] => true
  | .tuple _ [item] => item.isBlank
  | _ => false

/-- Whether an expression is written as one argument. -/
def Expr.isSingle (aggressively : Bool) (priority : Nat) (value : Expr) : Bool :=
  value.commas aggressively priority == 0 && !value.isBlank

/-! ## Pieces of compiled form -/

theorem Ir.pieces_ne_nil : ∀ form : Ir, form.pieces ≠ []
  | .between left op right false => by
    rw [pieces]
    exact weld_ne_nil _ (weld_ne_nil _ right.pieces_ne_nil)
  | .before op operand false => by
    rw [pieces]
    exact weld_ne_nil _ operand.pieces_ne_nil
  | .sequence [] => by simp [pieces]
  | .sequence (item :: rest) => by
    rw [pieces]
    simp [item.pieces_ne_nil]
  | .symbol _ | .number _ | .string _ | .call _ _ | .between _ _ _ true | .before _ _ true
  | .group _ => by simp [pieces]

/-- Between the pieces of its operands an operator without parentheses makes one out of two. -/
theorem Ir.length_pieces_between (left right : Ir) (op : InfixOperator) :
    (Ir.between left op right false).pieces.length + 1 =
      left.pieces.length + right.pieces.length := by
  have inside := length_weld (List.cons_ne_nil (" " ++ op.text ++ " ").toList [])
    right.pieces_ne_nil
  have outside := length_weld left.pieces_ne_nil
    (weld_ne_nil [(" " ++ op.text ++ " ").toList] right.pieces_ne_nil)
  rw [List.length_singleton] at inside
  rw [pieces]
  omega

theorem Ir.length_pieces_before (operand : Ir) (op : PrefixOperator) :
    (Ir.before op operand false).pieces.length = operand.pieces.length := by
  have outside := length_weld (List.cons_ne_nil op.text.toList []) operand.pieces_ne_nil
  rw [List.length_singleton] at outside
  rw [pieces]
  omega

/-- A form that is cut into one piece is cut into its text. -/
theorem Ir.pieces_eq_of_length : ∀ form : Ir, form.pieces.length = 1 →
    form.pieces = [form.render.toList]
  | .between left op right false, single => by
    have whole := length_pieces_between left right op
    have first := List.length_pos_of_ne_nil left.pieces_ne_nil
    have second := List.length_pos_of_ne_nil right.pieces_ne_nil
    rw [pieces, left.pieces_eq_of_length (by omega), right.pieces_eq_of_length (by omega)]
    simp [weld, render, Fragment.between]
  | .before op operand false, single => by
    rw [length_pieces_before] at single
    rw [pieces, operand.pieces_eq_of_length single]
    simp [weld, render, Fragment.before]
  | .sequence [], _ => by simp [pieces, render, renderAll, Fragment.join]
  | .sequence [item], single => by
    simp only [pieces, piecesOf, List.append_nil] at single ⊢
    rw [item.pieces_eq_of_length single]
    simp [render, renderAll, Fragment.join]
  | .sequence (item :: next :: rest), single => by
    have first := List.length_pos_of_ne_nil item.pieces_ne_nil
    have second := List.length_pos_of_ne_nil next.pieces_ne_nil
    simp only [pieces, piecesOf, List.length_append] at single
    omega
  | .symbol _, _ | .number _, _ | .string _, _ | .call _ _, _ | .between _ _ _ true, _
  | .before _ _ true, _ | .group _, _ => by simp [pieces]

/-- An atom is cut into its text alone, and has one. -/
theorem Ir.pieces_of_isAtom {form : Ir} (atom : form.isAtom = true) :
    form.pieces = [form.render.toList] := by
  cases form with
  | between left op right grouped =>
    cases atom
    rw [pieces]
    all_goals simp
  | before op operand grouped => cases atom
  | sequence items => cases atom
  | _ => simp [pieces]

theorem Fragment.between_ne_empty (left operator right : String) (grouped : Bool) :
    Fragment.between left operator right grouped ≠ "" := by
  cases grouped <;> simp [Fragment.between, Fragment.group]

theorem Fragment.before_ne_empty (op : PrefixOperator) (operand : String) (grouped : Bool) :
    Fragment.before op.text operand grouped ≠ "" := by
  cases op <;> simp [Fragment.before, PrefixOperator.text]

theorem Ir.render_ne_empty_of_isAtom {form : Ir} (atom : form.isAtom = true) :
    form.render ≠ "" := by
  cases form with
  | symbol head =>
    obtain ⟨name, tag⟩ := head
    cases tag with
    | none => cases atom
    | some pos => simp [render, Symbol.render, Position.tag, Position.mark]
  | number value =>
    intro empty
    exact Fragment.number_ne_nil value (congrArg String.toList empty)
  | string value => simp [render, Fragment.quoted]
  | call head args => simp [render, Fragment.call]
  | between left op right grouped => exact Fragment.between_ne_empty _ _ _ _
  | group inner => simp [render, Fragment.group]
  | before op operand grouped => cases atom
  | sequence items => cases atom

section

variable (env : Environment) (scope : Scope)

mutual

/-- The text of an expression is cut at the commas that its tuples leave bare. -/
theorem Expr.length_pieces : ∀ (value : Expr) (priority : Nat) (form : Ir),
    value.lower env scope priority = .ok form →
      form.pieces.length = value.commas env.groupAggressively priority + 1
  | .binary pos left op right, priority, form, h => by
    obtain ⟨operator, lhs, rhs, compiled, hleft, hright, rfl⟩ := Expr.lower_binary_eq_ok h
    have first := Expr.length_pieces left _ lhs hleft
    have second := Expr.length_pieces right _ rhs hright
    rw [Expr.commas, compiled]
    dsimp only
    cases env.groupAggressively || decide (operator.priority < priority) with
    | true => rfl
    | false =>
      have whole := Ir.length_pieces_between lhs rhs operator
      simp only [Bool.false_eq_true, if_false]
      omega
  | .unary pos op operand, priority, form, h => by
    obtain ⟨operator, inner, hoperand, rfl⟩ := Expr.lower_unary_eq_ok h
    have inside := Expr.length_pieces operand _ inner hoperand
    rw [Expr.commas]
    by_cases low : PrefixOperator.priority < priority
    · simp [low, Ir.pieces]
    · cases grouped : env.groupAggressively || operand.isOperation with
      | true => simp [low, Ir.pieces]
      | false =>
        simp only [low, if_false]
        rw [Ir.length_pieces_before]
        simpa using inside
  | .tuple pos items, priority, form, h => by
    obtain ⟨forms, hitems, rfl⟩ := Expr.lower_tuple_eq_ok h
    rw [Expr.commas]
    exact Expr.length_piecesOf items forms hitems
  | .name .., _, _, h | .number .., _, _, h | .string .., _, _, h | .constant .., _, _, h
  | .compare .., _, _, h | .call .., _, _, h | .attribute .., _, _, h | .subscript .., _, _, h
  | .list .., _, _, h | .lambda .., _, _, h | .unknown .., _, _, h => by
    rw [Ir.pieces_of_isAtom (Expr.lower_of_isAtom rfl h).1]
    rfl

theorem Expr.length_piecesOf : ∀ (values : List Expr) (forms : List Ir),
    Expr.lowerAll env scope 0 values = .ok forms →
      (Ir.sequence forms).pieces.length = Expr.commasIn env.groupAggressively values + 1
  | [], forms, h => by
    cases h
    rfl
  | [value], forms, h => by
    obtain ⟨form, hvalue, h⟩ := bind_eq_ok.mp h
    cases h
    have inside := Expr.length_pieces value 0 form hvalue
    simpa [Ir.pieces, Ir.piecesOf, Expr.commasIn] using inside
  | value :: next :: rest, forms, h => by
    obtain ⟨form, hvalue, h⟩ := bind_eq_ok.mp h
    obtain ⟨others, hrest, h⟩ := bind_eq_ok.mp h
    cases h
    have inside := Expr.length_pieces value 0 form hvalue
    have later := Expr.length_piecesOf (next :: rest) others hrest
    obtain ⟨second, _, hrest⟩ := bind_eq_ok.mp hrest
    obtain ⟨more, _, hrest⟩ := bind_eq_ok.mp hrest
    cases hrest
    rw [Ir.pieces, Ir.piecesOf, List.length_append, inside]
    rw [Ir.pieces] at later
    rw [List.length_append] at later ⊢
    rw [Expr.commasIn]
    omega

end

/-- Only what is blank has no text. -/
theorem Expr.render_eq_empty_iff : ∀ (value : Expr) (priority : Nat) (form : Ir),
    value.lower env scope priority = .ok form → (form.render = "" ↔ value.isBlank = true)
  | .binary pos left op right, priority, form, h => by
    obtain ⟨operator, lhs, rhs, _, _, _, rfl⟩ := Expr.lower_binary_eq_ok h
    have written := Fragment.between_ne_empty lhs.render operator.text rhs.render
      (env.groupAggressively || operator.priority < priority)
    simp [Ir.render, written, Expr.isBlank]
  | .unary pos op operand, priority, form, h => by
    obtain ⟨operator, inner, _, rfl⟩ := Expr.lower_unary_eq_ok h
    have written := Fragment.before_ne_empty operator inner.render
      (env.groupAggressively || operand.isOperation)
    split
    · simp [Ir.render, Fragment.group, Expr.isBlank]
    · simp [Ir.render, written, Expr.isBlank]
  | .tuple pos [], priority, form, h => by
    cases h
    simp [Ir.render, Ir.renderAll, Fragment.join, Expr.isBlank]
  | .tuple pos [item], priority, form, h => by
    obtain ⟨forms, hitems, rfl⟩ := Expr.lower_tuple_eq_ok h
    obtain ⟨inner, hitem, hitems⟩ := bind_eq_ok.mp hitems
    cases hitems
    rw [Expr.isBlank]
    exact Expr.render_eq_empty_iff item 0 inner hitem
  | .tuple pos (first :: second :: rest), priority, form, h => by
    obtain ⟨forms, hitems, rfl⟩ := Expr.lower_tuple_eq_ok h
    obtain ⟨inner, _, hitems⟩ := bind_eq_ok.mp hitems
    obtain ⟨others, hothers, hitems⟩ := bind_eq_ok.mp hitems
    cases hitems
    obtain ⟨next, _, hothers⟩ := bind_eq_ok.mp hothers
    obtain ⟨more, _, hothers⟩ := bind_eq_ok.mp hothers
    cases hothers
    simp [Ir.render, Ir.renderAll, Fragment.join, Expr.isBlank]
  | .name .., _, _, h | .number .., _, _, h | .string .., _, _, h | .constant .., _, _, h
  | .compare .., _, _, h | .call .., _, _, h | .attribute .., _, _, h | .subscript .., _, _, h
  | .list .., _, _, h | .lambda .., _, _, h | .unknown .., _, _, h => by
    have written := Ir.render_ne_empty_of_isAtom (Expr.lower_of_isAtom rfl h).1
    simp [written, Expr.isBlank]

end

/-! ## Places -/

/-- How many commas the text of a place leaves bare. -/
def Slot.commas (aggressively : Bool) (priority : Nat) : Slot → Nat
  | .part value => value.commas aggressively priority
  | _ => 0

/-- Whether a place is written as one argument. -/
def Slot.isSingle (aggressively : Bool) (priority : Nat) : Slot → Bool
  | .part value => value.isSingle aggressively priority
  | _ => true

/-- How many commas several places leave bare in their own texts. -/
def Slot.bareCommas (aggressively : Bool) (priority : Nat) : List Slot → Nat
  | [] => 0
  | slot :: rest => slot.commas aggressively priority + bareCommas aggressively priority rest

theorem Slot.bareCommas_eq (aggressively : Bool) (priority : Nat) (slots : List Slot) :
    bareCommas aggressively priority slots =
      Expr.bareCommas aggressively priority (slots.flatMap parts) := by
  induction slots with
  | nil => rfl
  | cons slot rest ih => cases slot <;> simp [bareCommas, Expr.bareCommas, commas, ih]

theorem Slot.all_isSingle_iff (aggressively : Bool) (priority : Nat) (slots : List Slot) :
    (∀ slot ∈ slots, slot.isSingle aggressively priority = true) ↔
      ∀ part ∈ slots.flatMap Slot.parts, part.isSingle aggressively priority = true := by
  induction slots with
  | nil => simp
  | cons slot rest ih =>
    rw [List.forall_mem_cons, List.flatMap_cons, List.forall_mem_append, ih]
    cases slot <;> simp [Slot.isSingle, Slot.parts]

/-- What stands in the six places are the expressions in the index, in order. -/
theorem Index.flatMap_slots {index : Index} {slots : List Slot} (h : index.slots? = some slots) :
    slots.flatMap Slot.parts = index.components := by
  unfold Index.slots? at h
  split at h <;> cases h
  · simp [Index.components, Slice.components]
  · simp [Index.components]
  · rename_i single
    rw [Index.components]
    · rfl
    · exact single
  · simp [Index.components, Dim.components, Slice.components]

section

variable {env : Environment} {scope : Scope} {priority : Nat}

theorem Slot.length_pieces {slot : Slot} {form : Ir}
    (h : slot.lower env scope priority = .ok form) :
    form.pieces.length = slot.commas env.groupAggressively priority + 1 := by
  cases slot with
  | part value => exact Expr.length_pieces env scope value priority form h
  | zero | one | nil =>
    cases h
    rfl

theorem Slot.render_ne_empty_of_isSingle {slot : Slot} {form : Ir}
    (h : slot.lower env scope priority = .ok form)
    (single : slot.isSingle env.groupAggressively priority = true) : form.render ≠ "" := by
  cases slot with
  | part value =>
    simp only [isSingle, Expr.isSingle, Bool.and_eq_true, Bool.not_eq_true'] at single
    rw [Ne, Expr.render_eq_empty_iff env scope value priority form h, single.2]
    decide
  | zero | one | nil =>
    cases h
    decide

theorem Slot.commas_of_isSingle {aggressively : Bool} {slot : Slot}
    (single : slot.isSingle aggressively priority = true) :
    slot.commas aggressively priority = 0 := by
  cases slot with
  | part value =>
    simp only [isSingle, Expr.isSingle, Bool.and_eq_true, beq_iff_eq] at single
    exact single.1
  | zero | one | nil => rfl

theorem Slot.isSingle_of_text {slot : Slot} {form : Ir}
    (h : slot.lower env scope priority = .ok form)
    (closed : slot.commas env.groupAggressively priority = 0) (written : form.render ≠ "") :
    slot.isSingle env.groupAggressively priority = true := by
  cases slot with
  | part value =>
    rw [Ne, Expr.render_eq_empty_iff env scope value priority form h] at written
    have bare : value.commas env.groupAggressively priority = 0 := closed
    simp [isSingle, Expr.isSingle, bare, written]
  | zero | one | nil => rfl

/-- Eight places are cut into eight arguments and one more for each bare comma. -/
theorem Slot.length_piecesOf {slots : List Slot} {forms : List Ir}
    (h : List.Forall₂ (Slot.LowersTo env scope priority) slots forms) :
    (Ir.piecesOf forms).length =
      slots.length + Slot.bareCommas env.groupAggressively priority slots := by
  induction h with
  | nil => rfl
  | cons first _ ih =>
    rw [Ir.piecesOf, List.length_append, Slot.length_pieces first, ih, bareCommas, List.length_cons]
    omega

/-- Places that are single are cut into their texts. -/
theorem Slot.piecesOf_of_single {slots : List Slot} {forms : List Ir}
    (h : List.Forall₂ (Slot.LowersTo env scope priority) slots forms)
    (single : ∀ slot ∈ slots, slot.isSingle env.groupAggressively priority = true) :
    (Ir.piecesOf forms).map String.ofList = forms.map Ir.render ∧ "" ∉ forms.map Ir.render := by
  induction h with
  | nil => exact ⟨rfl, List.not_mem_nil⟩
  | @cons slot form _ _ first _ ih =>
    obtain ⟨hslot, hrest⟩ := List.forall_mem_cons.mp single
    obtain ⟨same, written⟩ := ih hrest
    have alone : form.pieces = [form.render.toList] := by
      apply Ir.pieces_eq_of_length
      rw [Slot.length_pieces first, Slot.commas_of_isSingle hslot]
    have text := Slot.render_ne_empty_of_isSingle first hslot
    rw [Ir.piecesOf, alone, List.map_append, same]
    exact ⟨by simp, by simp [written, text.symm]⟩

/-- Places that are cut into their texts, none of which is empty, are single. -/
theorem Slot.single_of_piecesOf {slots : List Slot} {forms : List Ir}
    (h : List.Forall₂ (Slot.LowersTo env scope priority) slots forms)
    (same : (Ir.piecesOf forms).length = forms.length) (written : "" ∉ forms.map Ir.render) :
    ∀ slot ∈ slots, slot.isSingle env.groupAggressively priority = true := by
  rw [Slot.length_piecesOf h, ← h.length_eq] at same
  induction h with
  | nil => exact fun slot found => absurd found List.not_mem_nil
  | @cons slot form _ _ first rest ih =>
    simp only [bareCommas, List.map_cons, List.mem_cons, not_or] at same written
    refine List.forall_mem_cons.mpr ⟨?_, ih (by omega) written.2⟩
    exact Slot.isSingle_of_text first (by omega) fun empty => written.1 empty.symm

/-- Places side by side are as many arguments as there are places and bare commas, and they are
their own arguments exactly if each is single. -/
theorem Slot.argumentsIn_join {slots : List Slot} {form : Ir} {forms : List Ir}
    (h : List.Forall₂ (Slot.LowersTo env scope priority) slots (form :: forms))
    (plain : Ir.AllPlain (form :: forms)) :
    let texts := (form :: forms).map Ir.render
    (argumentsIn (Fragment.join texts)).map List.length =
        some (slots.length + Slot.bareCommas env.groupAggressively priority slots) ∧
      ((∀ slot ∈ slots, slot.isSingle env.groupAggressively priority = true) ↔
        argumentsIn (Fragment.join texts) = some texts ∧ "" ∉ texts) := by
  have row : (Ir.sequence (form :: forms)).pieces = Ir.piecesOf (form :: forms) := rfl
  have cut := Ir.argumentsIn_join plain
  rw [row, Ir.renderAll_eq_map] at cut
  dsimp only
  rw [cut]
  constructor
  · rw [Option.map_some, List.length_map, Slot.length_piecesOf h]
  · rw [Option.some_inj]
    refine ⟨Slot.piecesOf_of_single h, ?_⟩
    rintro ⟨same, written⟩
    have lengths := congrArg List.length same
    rw [List.length_map, List.length_map] at lengths
    exact Slot.single_of_piecesOf h lengths written

end

/-! ## The law -/

/-- The literals that the shape of an index prescribes in the third and in the sixth place. -/
def Index.markers : Index → Slot × Slot
  | .item _ => (.zero, .zero)
  | .slice _ => (.one, .zero)
  | .dims _ => (.one, .one)

theorem Index.slots_markers {index : Index} {slots : List Slot} (h : index.slots? = some slots) :
    slots[2]? = some index.markers.1 ∧ slots[5]? = some index.markers.2 := by
  unfold Index.slots? at h
  split at h <;> cases h <;> exact ⟨rfl, rfl⟩

/-- The text of a literal, and none for an expression. -/
def Slot.literal? : Slot → Option String
  | .zero => some "0"
  | .one => some "1"
  | .nil => some "nil"
  | .part _ => none

theorem exists_of_forall₂_getElem? {α β : Type} {related : α → β → Prop} {items : List α}
    {values : List β} (h : List.Forall₂ related items values) {place : Nat} {item : α}
    (found : items[place]? = some item) :
    ∃ value, values[place]? = some value ∧ related item value := by
  induction h generalizing place with
  | nil => cases found
  | cons first _ ih =>
    cases place with
    | zero =>
      cases found
      exact ⟨_, rfl, first⟩
    | succ place => exact ih found

/-- An assignment to a subscript is the text of a call of `set` with eight texts in it: the base,
the six that tell the part, of which the third and the sixth are the literals of the shape, and the
value. They are its arguments if no tuple stands bare in them, and only then: there is one argument
more for each comma of such a tuple. -/
theorem a_subscript_assignment_has_eight_arguments_unless_a_tuple_stands_bare_in_it
    (ctx after : Context) (allowReturn : Bool) (pos place : Position) (base : Expr) (index : Index)
    (value : Expr) (form : Ir)
    (lowered : ((Stmt.assign pos (.subscript place base index) value).lower allowReturn).runOn ctx =
      (.ok form, after)) :
    ∃ first selector last,
      base.lower ctx.env ctx.scope ctx.priority = .ok first ∧
      index.lowerTarget ctx.env ctx.scope ctx.priority pos.line = .ok selector ∧
      value.lower ctx.env ctx.scope ctx.priority = .ok last ∧
      selector.length = 6 ∧
      (selector[2]?).map Ir.render = index.markers.1.literal? ∧
      (selector[5]?).map Ir.render = index.markers.2.literal? ∧
      let texts := (first :: selector ++ [last]).map Ir.render
      let parts := base :: (index.components ++ [value])
      let aggressively := ctx.env.groupAggressively
      form.render = "set(" ++ Fragment.join texts ++ ")" ∧
      (form.IsPlain →
        (argumentsIn (Fragment.join texts)).map List.length =
            some (8 + Expr.bareCommas aggressively ctx.priority parts) ∧
        ((∀ part ∈ parts, part.isSingle aggressively ctx.priority = true) ↔
          argumentsIn (Fragment.join texts) = some texts ∧ "" ∉ texts)) := by
  rw [Stmt.runOn_lower_subscript] at lowered
  have set := congrArg Prod.fst lowered
  obtain ⟨slots, first, selector, last, hslots, hbase, hselector, hvalue, rfl⟩ :=
    Expr.lowerSet_eq_ok _ _ _ set
  have each : List.Forall₂ (Slot.LowersTo ctx.env ctx.scope ctx.priority) slots selector :=
    mapM_eq_ok_iff.mp hselector
  have size := Index.length_slots hslots
  obtain ⟨third, sixth⟩ := Index.slots_markers hslots
  have marker {place : Nat} {slot : Slot} (found : slots[place]? = some slot)
      (literal : slot = .zero ∨ slot = .one) :
      (selector[place]?).map Ir.render = slot.literal? := by
    obtain ⟨form, hform, made⟩ := exists_of_forall₂_getElem? each found
    rcases literal with rfl | rfl <;> cases made <;> rw [hform] <;> rfl
  have front : List.Forall₂ (Slot.LowersTo ctx.env ctx.scope ctx.priority)
      (.part base :: slots) (first :: selector) := .cons hbase each
  have back : List.Forall₂ (Slot.LowersTo ctx.env ctx.scope ctx.priority)
      [.part value] [last] := .cons hvalue .nil
  have whole := List.rel_append front back
  have parts : (Slot.part base :: slots ++ [Slot.part value]).flatMap Slot.parts =
      base :: (index.components ++ [value]) := by
    simp [← Index.flatMap_slots hslots]
  refine ⟨first, selector, last, hbase, ?_, hvalue, ?_, ?_, ?_, ?_, ?_⟩
  · rw [Index.lowerTarget_eq, hslots]
    exact hselector
  · rw [← each.length_eq, size]
  · exact marker third (by cases index <;> simp [Index.markers])
  · exact marker sixth (by cases index <;> simp [Index.markers])
  · rw [← Ir.renderAll_eq_map]
    rfl
  · intro plain
    have law := Slot.argumentsIn_join whole plain.2
    rw [Slot.bareCommas_eq, Slot.all_isSingle_iff, parts] at law
    simpa [size] using law

/-- `a[i, j] = f(3, 4)` -/
def Stmt.writingElement : Stmt :=
  .assign ⟨1, 0⟩ (.subscript ⟨1, 0⟩ (.name ⟨1, 0⟩ "a")
      (.item (.tuple ⟨1, 2⟩ [.name ⟨1, 2⟩ "i", .name ⟨1, 5⟩ "j"])))
    (.call ⟨1, 10⟩ (.name ⟨1, 10⟩ "f") [.number ⟨1, 12⟩ (.int 3), .number ⟨1, 15⟩ (.int 4)])

theorem an_element_is_written_with_eight_arguments :
    ∃ form, ((Stmt.writingElement.lower false).runOn (.inBody {} .empty)).1 = .ok form ∧
      form.render = "set(a$1$0, i$1$2, 0, 0, j$1$5, 0, 0, f$1$10(3, 4))" ∧
      argumentsIn "a$1$0, i$1$2, 0, 0, j$1$5, 0, 0, f$1$10(3, 4)" =
        some ["a$1$0", "i$1$2", "0", "0", "j$1$5", "0", "0", "f$1$10(3, 4)"] := by
  obtain ⟨first, selector, last, hbase, hindex, hvalue, _, _, _, text, law⟩ :=
    a_subscript_assignment_has_eight_arguments_unless_a_tuple_stands_bare_in_it
      (.inBody {} .empty) (.inBody {} .empty) false ⟨1, 0⟩ ⟨1, 0⟩ (.name ⟨1, 0⟩ "a")
      (.item (.tuple ⟨1, 2⟩ [.name ⟨1, 2⟩ "i", .name ⟨1, 5⟩ "j"]))
      (.call ⟨1, 10⟩ (.name ⟨1, 10⟩ "f") [.number ⟨1, 12⟩ (.int 3), .number ⟨1, 15⟩ (.int 4)])
      _ rfl
  cases hbase
  cases hindex
  cases hvalue
  have plain : (Ir.bareCall Primitive.set
      [Ir.tagged ⟨1, 0⟩ "a", Ir.tagged ⟨1, 2⟩ "i", Ir.zero, Ir.zero, Ir.tagged ⟨1, 5⟩ "j", Ir.zero,
        Ir.zero, Ir.taggedCall ⟨1, 10⟩ "f" [.number (.int 3), .number (.int 4)]]).IsPlain := by
    have name (letter : Char) (h : isDelimiter letter = false) :
        IsPlainName (String.singleton letter) := by
      simpa [IsPlainName] using h
    exact ⟨by simp [IsPlainName, Primitive.set, isDelimiter], name 'a' rfl, name 'i' rfl, trivial,
      trivial, name 'j' rfl, trivial, trivial, ⟨name 'f' rfl, trivial, trivial, trivial⟩, trivial⟩
  exact ⟨_, rfl, text, ((law plain).2.mp (by decide)).1⟩

/-- `a[0] = 1, 2` -/
def Stmt.writingPair : Stmt :=
  .assign ⟨1, 0⟩ (.subscript ⟨1, 0⟩ (.name ⟨1, 0⟩ "a") (.item (.number ⟨1, 2⟩ (.int 0))))
    (.tuple ⟨1, 7⟩ [.number ⟨1, 7⟩ (.int 1), .number ⟨1, 10⟩ (.int 2)])

theorem a_pair_is_written_with_nine_arguments :
    (((Stmt.writingPair.lower false).runOn (.inBody {} .empty)).1).map Ir.render =
        .ok "set(a$1$0, 0, 0, 0, 0, 0, 0, 1, 2)" ∧
      argumentsIn "a$1$0, 0, 0, 0, 0, 0, 0, 1, 2" =
        some ["a$1$0", "0", "0", "0", "0", "0", "0", "1", "2"] := by
  constructor
  · rfl
  · decide

end CallForm

-- What tells the four shapes of a write apart in its text: the literals in
-- its places, and that no expression ends in something that looks like one
-- unless it is the literal zero. That leaves two writes with one text: to an
-- element, and to the column zero of a row that is written like it.
import CallForm.Proofs.Dimensions
import CallForm.Proofs.Outline
import CallForm.Proofs.Targets
import CallForm.Proofs.TokenText

namespace CallForm

/-! ## Texts that stand by themselves -/

/-- A text that does not end in a zero behind a comma, not even with a comma put in front of it. -/
def Standalone (text : List Char) : Prop := text ≠ [] ∧ ¬ [',', ' ', '0'] <:+ ',' :: text

namespace Standalone

theorem of_blankless {text : List Char} (nonempty : text ≠ []) (blankless : ' ' ∉ text) :
    Standalone text := by
  refine ⟨nonempty, fun ends => ?_⟩
  have found : ' ' ∈ ',' :: text := ends.subset (by simp)
  rcases List.mem_cons.mp found with same | found
  · cases same
  · exact blankless found

theorem of_last (front : List Char) {c : Char} (other : c ≠ '0') : Standalone (front ++ [c]) := by
  refine ⟨by simp, ?_⟩
  rintro ⟨rest, same⟩
  have last := congrArg List.getLast? same
  simp only [List.getLast?_append, List.getLast?_cons, ← List.cons_append] at last
  simp at last
  exact other last.symm

/-- Behind any character but a comma and a blank. -/
theorem cons {text : List Char} (h : Standalone text) {c : Char} (comma : c ≠ ',')
    (blank : c ≠ ' ') : Standalone (c :: text) := by
  refine ⟨by simp, fun ends => ?_⟩
  rcases List.suffix_cons_iff.mp ends with same | ends
  · cases same
    exact blank rfl
  · rcases List.suffix_cons_iff.mp ends with same | ends
    · cases same
      exact comma rfl
    · exact h.2 (ends.trans (List.suffix_cons _ _))

/-- Behind any text that ends in a blank after something that is no comma. -/
theorem behind {text : List Char} (h : Standalone text) (front : List Char) {c : Char}
    (comma : c ≠ ',') : Standalone (front ++ c :: ' ' :: text) := by
  refine ⟨by simp, fun ends => ?_⟩
  have long : [',', ' ', '0'].length ≤ (c :: ' ' :: text).length := by
    have := List.length_pos_of_ne_nil h.1
    simp only [List.length_cons, List.length_nil]
    omega
  have whole : c :: ' ' :: text <:+ ',' :: (front ++ c :: ' ' :: text) :=
    (List.suffix_append front _).trans (List.suffix_cons _ _)
  have ends := List.suffix_of_suffix_length_le ends whole long
  rcases List.suffix_cons_iff.mp ends with same | ends
  · cases same
    exact comma rfl
  · rcases List.suffix_cons_iff.mp ends with same | ends
    · cases same
    · exact h.2 (ends.trans (List.suffix_cons _ _))

/-- In front of a text of at least three characters without a blank. -/
theorem before {text : List Char} (front : List Char) (long : 3 ≤ text.length)
    (blankless : ' ' ∉ text) : Standalone (front ++ text) := by
  refine ⟨?_, fun ends => ?_⟩
  · rintro empty
    rw [(List.append_eq_nil_iff.mp empty).2] at long
    cases long
  · have whole : text <:+ ',' :: (front ++ text) :=
      (List.suffix_append front _).trans (List.suffix_cons _ _)
    have ends := List.suffix_of_suffix_length_le ends whole long
    exact blankless (ends.subset (by simp))

/-- Where such a text ends in a zero behind a comma, it is this zero. -/
theorem eq_zero {text front rest : List Char} (h : Standalone text)
    (same : front ++ [',', ' ', '0'] = rest ++ text) : text = ['0'] := by
  have here : text <:+ rest ++ text := List.suffix_append rest text
  have there : [',', ' ', '0'] <:+ rest ++ text := same ▸ List.suffix_append front _
  by_cases long : 3 ≤ text.length
  · have ends := List.suffix_of_suffix_length_le there here long
    exact absurd (ends.trans (List.suffix_cons ',' text)) h.2
  · -- What is left are the ends of a comma, a blank and a zero that are shorter.
    have ends := List.suffix_of_suffix_length_le here there (by simp; omega)
    rcases List.suffix_cons_iff.mp ends with rfl | ends
    · exact absurd (Nat.le_refl 3) long
    · rcases List.suffix_cons_iff.mp ends with rfl | ends
      · exact absurd (List.suffix_refl _) h.2
      · rcases List.suffix_cons_iff.mp ends with rfl | ends
        · rfl
        · exact absurd (List.suffix_nil.mp ends) h.1

end Standalone

/-! ## The only zero among numbers -/

theorem Digits.positional_has_point (d : Digits) : '.' ∈ d.positional.toList := by
  unfold positional
  split <;> simp

theorem Digits.scientific_has_exponent (d : Digits) : 'e' ∈ d.scientific.toList := by
  unfold scientific
  simp

/-- A double is never written with digits alone. -/
theorem NumberStyle.render_has_letter (x : Float) :
    ∃ c ∈ (compiledNumbers.render x).toList, c.isDigit = false := by
  have behind (sign text : String) (h : ∃ c ∈ text.toList, c.isDigit = false) :
      ∃ c ∈ (sign ++ text).toList, c.isDigit = false := by
    obtain ⟨c, found, letter⟩ := h
    rw [String.toList_append]
    exact ⟨c, List.mem_append_right _ found, letter⟩
  unfold render
  split
  · exact ⟨'N', by decide, by decide⟩
  · dsimp only
    split
    · exact behind _ _ ⟨'i', by decide, by decide⟩
    · split
      · exact behind _ _ ⟨'.', by decide, by decide⟩
      · apply behind
        split
        · exact ⟨'.', Digits.positional_has_point _, by decide⟩
        · exact ⟨'e', Digits.scientific_has_exponent _, by decide⟩

/-- The only number that is written as a zero is the integer. -/
theorem Fragment.number_eq_zero {value : Number}
    (h : (Fragment.number value).toList = ['0']) : value = .int 0 := by
  cases value with
  | int n =>
    have digits : (toString n.toInt).toList = ['0'] := h
    cases found : n.toInt with
    | ofNat m =>
      rw [found] at digits
      have same : Nat.toDigits 10 m = ['0'] := (toList_toString m).symm.trans digits
      have zero := natOfDigits_toDigits m
      rw [same] at zero
      have none : n.toInt = 0 := by rw [found, ← zero]; rfl
      exact congrArg Number.int (Int64.toInt_inj.mp none)
    | negSucc m =>
      rw [found] at digits
      simp [toString, Int.repr] at digits
  | float x =>
    obtain ⟨c, found, letter⟩ := NumberStyle.render_has_letter x
    have only : c ∈ ['0'] := h ▸ found
    rw [List.mem_singleton.mp only] at letter
    cases letter

/-! ## Compiled forms that end by themselves -/

/-- Whether the text of a compiled form ends in something of its own: not in an item of a sequence,
nor in a bare word. -/
def Ir.isClosed : Ir → Bool
  | .between _ _ right false => right.isClosed
  | .before _ operand false => operand.isClosed
  | .sequence _ => false
  | .symbol head => head.tag.isSome
  | _ => true

theorem Ir.isClosed_of_isAtom {form : Ir} (atom : form.isAtom = true) : form.isClosed = true := by
  cases form with
  | between left op right grouped =>
    cases atom
    rfl
  | before | sequence => cases atom
  | symbol head => exact atom
  | _ => rfl

/-- A mark is two numbers with a character in front of each, and holds no blank. -/
theorem Position.mark_blankless (pos : Position) :
    3 ≤ pos.mark.toList.length ∧ ' ' ∉ pos.mark.toList := by
  have text : pos.mark.toList =
      '$' :: (Nat.toDigits 10 pos.line.toNat ++ '$' :: Nat.toDigits 10 pos.column.toNat) := by
    simp [Position.mark]
  have first := isDigits_toDigits pos.line.toNat
  have second := isDigits_toDigits pos.column.toNat
  have blankless {digits : List Char} (h : IsDigits digits) : ' ' ∉ digits := by
    intro found
    cases h.2 ' ' found
  rw [text]
  constructor
  · have := List.length_pos_of_ne_nil first.1
    simp only [List.length_cons, List.length_append]
    omega
  · simp [blankless first, blankless second]

/-- Parentheses end a text by themselves. -/
theorem Standalone.group (text : String) : Standalone (Fragment.group text).toList := by
  have closing := Standalone.of_last ('(' :: text.toList) (c := ')') (by decide)
  simpa [Fragment.group] using closing

/-- The text of a form that ends by itself stands by itself. -/
theorem Ir.standalone_render : ∀ form : Ir, form.isClosed = true → Standalone form.render.toList
  | .symbol ⟨name, some pos⟩, _ => by
    obtain ⟨long, blankless⟩ := pos.mark_blankless
    simpa [render, Symbol.render, Position.tag] using Standalone.before name.toList long blankless
  | .number value, _ => by
    refine .of_blankless (Fragment.number_ne_nil value) fun found => ?_
    cases Fragment.numberChars value ' ' found
  | .string value, _ => by
    have closing := Standalone.of_last ('"' :: Fragment.escape value.toList) (c := '"') (by decide)
    simpa [render, Fragment.quoted] using closing
  | .call head args, _ => by
    have closing := Standalone.of_last (head.render ++ "(" ++ Fragment.join (renderAll args)).toList
      (c := ')') (by decide)
    simpa [render, Fragment.call] using closing
  | .between left op right true, _ => by
    simpa [render, Fragment.between] using Standalone.group _
  | .between left op right false, closed => by
    -- An operator ends in no comma, and the blank behind it cuts the right operand off.
    obtain ⟨front, c, text, comma⟩ : ∃ front c, op.text.toList = front ++ [c] ∧ c ≠ ',' := by
      cases op with
      | pow => exact ⟨['*'], '*', rfl, by decide⟩
      | le => exact ⟨['<'], '=', rfl, by decide⟩
      | ge => exact ⟨['>'], '=', rfl, by decide⟩
      | eq => exact ⟨['='], '=', rfl, by decide⟩
      | ne => exact ⟨['!'], '=', rfl, by decide⟩
      | _ => exact ⟨[], _, rfl, by decide⟩
    have inside := (right.standalone_render closed).behind (left.render.toList ++ ' ' :: front)
      comma
    simpa [render, Fragment.between, text] using inside
  | .before op operand true, _ => by
    have closing := Standalone.of_last (op.text.toList ++ '(' :: operand.render.toList) (c := ')')
      (by decide)
    simpa [render, Fragment.before, Fragment.group] using closing
  | .before op operand false, closed => by
    have inside := operand.standalone_render closed
    cases op with
    | neg =>
      simpa [render, Fragment.before, PrefixOperator.text] using
        inside.cons (c := '-') (by decide) (by decide)
    | not =>
      simpa [render, Fragment.before, PrefixOperator.text] using
        inside.cons (c := '!') (by decide) (by decide)
  | .group inner, _ => .group inner.render

/-- No form that ends by itself is written as a zero but the literal. -/
theorem Ir.eq_zero_of_render {form : Ir} (closed : form.isClosed = true)
    (h : form.render.toList = ['0']) : form = Ir.zero := by
  have alone {c : Char} (other : c ≠ '0') : c ∉ form.render.toList := by
    rw [h]
    simpa using other
  cases form with
  | symbol head =>
    obtain ⟨name, _ | pos⟩ := head
    · cases closed
    · refine absurd ?_ (alone (c := '$') (by decide))
      simp [render, Symbol.render, Position.tag, Position.mark]
  | number value => rw [Fragment.number_eq_zero h, zero]
  | string value =>
    refine absurd ?_ (alone (c := '"') (by decide))
    simp [render, Fragment.quoted]
  | call head args =>
    refine absurd ?_ (alone (c := '(') (by decide))
    simp [render, Fragment.call]
  | between left op right grouped =>
    refine absurd ?_ (alone (c := ' ') (by decide))
    cases grouped <;> simp [render, Fragment.between, Fragment.group]
  | before op operand grouped =>
    cases op with
    | neg =>
      refine absurd ?_ (alone (c := '-') (by decide))
      simp [render, Fragment.before, PrefixOperator.text]
    | not =>
      refine absurd ?_ (alone (c := '!') (by decide))
      simp [render, Fragment.before, PrefixOperator.text]
  | group inner =>
    refine absurd ?_ (alone (c := '(') (by decide))
    simp [render, Fragment.group]
  | sequence items => cases closed

/-! ## Expressions that end by themselves -/

/-- Whether a tuple is the last that an expression is written with, parentheses aside. -/
def Expr.endsInTuple : Expr → Bool
  | .tuple .. => true
  | .binary _ _ _ right => right.endsInTuple
  | .unary _ _ operand => operand.endsInTuple
  | _ => false

/-- An expression is compiled to a text. -/
def Expr.WrittenAs (env : Environment) (scope : Scope) (priority : Nat) (value : Expr)
    (text : List Char) : Prop :=
  ∃ form, value.lower env scope priority = .ok form ∧ form.render.toList = text

section

variable {env : Environment} {scope : Scope} {priority : Nat}

theorem Expr.isClosed_of_lower : ∀ (value : Expr) (priority : Nat) (form : Ir),
    value.lower env scope priority = .ok form → value.endsInTuple = false → form.isClosed = true
  | .binary pos left op right, priority, form, h, ends => by
    obtain ⟨operator, lhs, rhs, _, _, hright, rfl⟩ := Expr.lower_binary_eq_ok h
    have inside := Expr.isClosed_of_lower right _ rhs hright ends
    cases env.groupAggressively || decide (operator.priority < priority) with
    | true => rfl
    | false => exact inside
  | .unary pos op operand, priority, form, h, ends => by
    obtain ⟨operator, inner, hoperand, rfl⟩ := Expr.lower_unary_eq_ok h
    have inside := Expr.isClosed_of_lower operand _ inner hoperand ends
    split
    · rfl
    · cases env.groupAggressively || operand.isOperation with
      | true => rfl
      | false => exact inside
  | .tuple .., _, _, _, ends => by cases ends
  | .name .., _, _, h, _ | .number .., _, _, h, _ | .string .., _, _, h, _
  | .constant .., _, _, h, _ | .compare .., _, _, h, _ | .call .., _, _, h, _
  | .attribute .., _, _, h, _ | .subscript .., _, _, h, _ | .list .., _, _, h, _
  | .lambda .., _, _, h, _ | .unknown .., _, _, h, _ =>
    Ir.isClosed_of_isAtom (Expr.lower_of_isAtom rfl h).1

/-- Only a number is compiled to it. -/
theorem Expr.eq_number_of_lower {value : Expr} {number : Number}
    (h : value.lower env scope priority = .ok (.number number)) :
    ∃ pos, value = .number pos number := by
  cases value with
  | binary pos left op right =>
    obtain ⟨_, _, _, _, _, _, same⟩ := Expr.lower_binary_eq_ok h
    cases same
  | unary pos op operand =>
    obtain ⟨_, _, _, same⟩ := Expr.lower_unary_eq_ok h
    split at same <;> cases same
  | tuple pos items =>
    obtain ⟨_, _, same⟩ := Expr.lower_tuple_eq_ok h
    cases same
  | number pos value =>
    cases h
    exact ⟨pos, rfl⟩
  | _ => cases (Expr.lower_of_isAtom rfl h).2

namespace Expr.WrittenAs

variable {value : Expr} {text : List Char}

theorem unique {other : List Char} (h : value.WrittenAs env scope priority text)
    (h' : value.WrittenAs env scope priority other) : text = other := by
  obtain ⟨form, lowered, rfl⟩ := h
  obtain ⟨form', lowered', rfl⟩ := h'
  rw [lowered] at lowered'
  cases lowered'
  rfl

theorem zero (pos : Position) :
    (Expr.number pos (.int 0)).WrittenAs env scope priority ['0'] :=
  ⟨Ir.zero, rfl, rfl⟩

variable (h : value.WrittenAs env scope priority text) (closed : value.endsInTuple = false)

include h closed

theorem standalone : Standalone text := by
  obtain ⟨form, lowered, rfl⟩ := h
  exact form.standalone_render (Expr.isClosed_of_lower value priority form lowered closed)

theorem eq_zero (zero : text = ['0']) : ∃ pos, value = .number pos (.int 0) := by
  obtain ⟨form, lowered, rfl⟩ := h
  have ends := Expr.isClosed_of_lower value priority form lowered closed
  rw [Ir.eq_zero_of_render ends zero] at lowered
  exact Expr.eq_number_of_lower lowered

end Expr.WrittenAs

end

/-! ## The shapes of a target -/

/-- What can be written to: `a[i]`, `a[i, j]`, `a[lo:hi]` and `a[l1:u1, l2:u2]`. -/
inductive TargetShape
  | element | pair | span | block
deriving Repr, DecidableEq

/-- The shape of an index, if it can be written to. -/
def Index.shape? : Index → Option TargetShape
  | .item (.tuple _ [_, _]) => some .pair
  | .item (.tuple ..) => none
  | .item _ => some .element
  | .slice (.mk _ _ none _) => some .span
  | .dims [.slice (.mk _ _ none _), .slice (.mk _ _ none _)] => some .block
  | .slice _ | .dims _ => none

section

variable (env : Environment) (scope : Scope) (priority : Nat)

/-- The text that an index has in a write, with the literals that tell its shape. -/
inductive Index.SelectedBy : Index → List Char → Prop
  | element {item : Expr} {text : List Char} : (Index.item item).shape? = some .element →
    item.WrittenAs env scope priority text →
    SelectedBy (.item item) (text ++ ", 0, 0, 0, 0, 0".toList)
  | pair {place : Position} {row column : Expr} {first second : List Char} :
    row.WrittenAs env scope priority first → column.WrittenAs env scope priority second →
    SelectedBy (.item (.tuple place [row, column]))
      (first ++ ", 0, 0, ".toList ++ second ++ ", 0, 0".toList)
  | span {bounds : Slice} (front : List Char) : (Index.slice bounds).shape? = some .span →
    SelectedBy (.slice bounds) (front ++ ", 1, 0, 0, 0".toList)
  | block {parts : List Dim} (front : List Char) : (Index.dims parts).shape? = some .block →
    SelectedBy (.dims parts) (front ++ ", 1".toList)

/-- The column zero of a row, and an element that has the text of the row. -/
inductive Index.IsColumnZeroOf : Index → Index → Prop
  | row {place zero : Position} {row item : Expr} {text : List Char} :
    row.WrittenAs env scope priority text → item.WrittenAs env scope priority text →
    IsColumnZeroOf (.item (.tuple place [row, .number zero (.int 0)])) (.item item)

end

section

variable {env : Environment} {scope : Scope} {priority : Nat}

/-- The six places of an index have the text that its shape tells. -/
theorem Index.selectedBy_of_slots {index : Index} {slots : List Slot} {forms : List Ir}
    (h : index.slots? = some slots)
    (each : List.Forall₂ (Slot.LowersTo env scope priority) slots forms) :
    index.SelectedBy env scope priority (Fragment.join (Ir.renderAll forms)).toList := by
  have zero : Ir.zero.render = "0" := rfl
  have one : Ir.one.render = "1" := rfl
  unfold slots? at h
  split at h <;> cases h <;>
    rcases each with _ | ⟨first, _ | ⟨second, _ | ⟨third, _ | ⟨fourth, _ | ⟨fifth, _ |
      ⟨sixth, ⟨⟩⟩⟩⟩⟩⟩⟩
  · rename_i low high _ _ _ _
    cases third
    cases fourth
    cases fifth
    cases sixth
    simpa [Ir.renderAll, Fragment.join, zero, one] using
      SelectedBy.span (low.render ++ ", " ++ high.render).toList rfl
  · rename_i row _ _ column _ _
    cases second
    cases third
    cases fifth
    cases sixth
    simpa [Ir.renderAll, Fragment.join, zero] using
      SelectedBy.pair ⟨row, first, rfl⟩ ⟨column, fourth, rfl⟩
  · rename_i item _ single form _ _ _ _ _
    cases second
    cases third
    cases fourth
    cases fifth
    cases sixth
    have shape : (Index.item item).shape? = some .element := by
      unfold shape?
      split <;> simp_all
    simpa [Ir.renderAll, Fragment.join, zero] using SelectedBy.element shape ⟨form, first, rfl⟩
  · rename_i rowLow rowHigh _ columnLow columnHigh _
    cases third
    cases sixth
    simpa [Ir.renderAll, Fragment.join, one] using
      SelectedBy.block (rowLow.render ++ ", " ++ rowHigh.render ++ ", 1, " ++ columnLow.render ++
        ", " ++ columnHigh.render).toList rfl

/-- A row and a column have the text of an element if the column is zero and the row has it. -/
theorem pair_eq_element_iff {row column item : List Char} (h : Standalone column) :
    row ++ ", 0, 0, ".toList ++ column ++ ", 0, 0".toList = item ++ ", 0, 0, 0, 0, 0".toList ↔
      column = ['0'] ∧ row = item := by
  constructor
  · intro same
    have ends : (item ++ ", 0, 0".toList) ++ [',', ' ', '0'] =
        (row ++ ", 0, 0, ".toList) ++ column :=
      (List.append_left_inj ", 0, 0".toList).mp (by simpa using same.symm)
    have zero := h.eq_zero ends
    subst zero
    refine ⟨rfl, ?_⟩
    simpa using same
  · rintro ⟨rfl, rfl⟩
    simp

/-- A row and a column never have the text of a span: it has a one behind its second comma. -/
theorem pair_ne_span {row column front : List Char} (h : Standalone column) :
    row ++ ", 0, 0, ".toList ++ column ++ ", 0, 0".toList ≠ front ++ ", 1, 0, 0, 0".toList := by
  intro same
  have ends : (front ++ ", 1".toList) ++ [',', ' ', '0'] =
      (row ++ ", 0, 0, ".toList) ++ column :=
    (List.append_left_inj ", 0, 0".toList).mp (by simpa using same.symm)
  have zero := h.eq_zero ends
  subst zero
  have back := congrArg List.reverse same
  simp at back

/-- A pair and an element have one text if they are a column zero and its element. -/
theorem Index.pair_text_eq_iff {place : Position} {row column item : Expr}
    {first second third : List Char} (hrow : row.WrittenAs env scope priority first)
    (hcolumn : column.WrittenAs env scope priority second)
    (hitem : item.WrittenAs env scope priority third) (closed : column.endsInTuple = false) :
    first ++ ", 0, 0, ".toList ++ second ++ ", 0, 0".toList = third ++ ", 0, 0, 0, 0, 0".toList ↔
      (Index.item (.tuple place [row, column])).IsColumnZeroOf env scope priority (.item item) := by
  rw [pair_eq_element_iff (hcolumn.standalone closed)]
  constructor
  · rintro ⟨zero, rfl⟩
    obtain ⟨pos, rfl⟩ := hcolumn.eq_zero closed zero
    exact .row hrow hitem
  · rintro ⟨row', item'⟩
    exact ⟨hcolumn.unique (.zero _), (hrow.unique row').trans (item'.unique hitem)⟩

theorem Index.IsColumnZeroOf.shape {index other : Index}
    (h : index.IsColumnZeroOf env scope priority other) : index.shape? = some .pair := by
  cases h
  rfl

/-- An index by bounds is no column zero, and no element that has one. -/
theorem Index.IsColumnZeroOf.not_bounds {index other : Index}
    (bounds : ∀ item, other ≠ .item item) :
    ¬ (index.IsColumnZeroOf env scope priority other ∨
      other.IsColumnZeroOf env scope priority index) := by
  rintro (h | h) <;> cases h <;> exact bounds _ rfl

section

variable {index other : Index} {text text' : List Char}
  (h : index.SelectedBy env scope priority text) (h' : other.SelectedBy env scope priority text')
  (different : index.shape? ≠ other.shape?)
  (closed : ∀ part ∈ index.components ++ other.components, part.endsInTuple = false)

include h h' different closed

/-- What selects by bounds has a text of its own. -/
theorem Index.SelectedBy.ne_of_bounds (bounds : ∀ item, other ≠ .item item) : text ≠ text' := by
  intro same
  have back := congrArg List.reverse same
  cases h' with
  | element => exact bounds _ rfl
  | pair => exact bounds _ rfl
  | span front shape' =>
    cases h with
    | element => simp at back
    | pair row column =>
      have ends := column.standalone (closed _ (by simp [components]))
      exact pair_ne_span ends same
    | span _ shape => exact different (shape.trans shape'.symm)
    | block => simp at back
  | block front shape' =>
    cases h with
    | element => simp at back
    | pair => simp at back
    | span => simp at back
    | block _ shape => exact different (shape.trans shape'.symm)

/-- Two indexes of different shapes have one text if they are a column zero and its element, and
only then. -/
theorem Index.SelectedBy.eq_iff :
    text = text' ↔ index.IsColumnZeroOf env scope priority other ∨
      other.IsColumnZeroOf env scope priority index := by
  have swapped : ∀ part ∈ other.components ++ index.components, part.endsInTuple = false :=
    fun part found => closed part (List.perm_append_comm.mem_iff.mp found)
  by_cases bounds' : ∀ item, other ≠ .item item
  · exact iff_of_false (ne_of_bounds h h' different closed bounds')
      (IsColumnZeroOf.not_bounds bounds')
  by_cases bounds : ∀ item, index ≠ .item item
  · rw [eq_comm, or_comm]
    exact iff_of_false (ne_of_bounds h' h different.symm swapped bounds)
      (IsColumnZeroOf.not_bounds bounds)
  cases h with
  | element single item =>
    cases h' with
    | element single' => exact absurd (single.trans single'.symm) different
    | @pair _ _ last _ _ row column =>
      have ends := closed last (by simp [components])
      rw [eq_comm, pair_text_eq_iff row column item ends]
      exact (or_iff_right fun zero => by cases single.symm.trans zero.shape).symm
    | span | block => exact absurd (by simp) bounds'
  | @pair _ _ last _ _ row column =>
    cases h' with
    | element single' item =>
      have ends := closed last (by simp [components])
      rw [pair_text_eq_iff row column item ends]
      exact (or_iff_left fun zero => by cases single'.symm.trans zero.shape).symm
    | pair => exact absurd rfl different
    | span | block => exact absurd (by simp) bounds'
  | span | block => exact absurd (by simp) bounds

end

end

/-! ## The text of a write -/

theorem Fragment.join_cons (first : String) {items : List String} (more : items ≠ []) :
    join (first :: items) = first ++ ", " ++ join items := by
  cases items with
  | nil => exact absurd rfl more
  | cons item rest => rfl

theorem Fragment.join_concat {items : List String} (more : items ≠ []) (last : String) :
    join (items ++ [last]) = join items ++ ", " ++ last := by
  induction items with
  | nil => exact absurd rfl more
  | cons item rest ih =>
    cases rest with
    | nil => rfl
    | cons next rest =>
      rw [List.cons_append, join_cons item (by simp), ih (by simp), join_cons item (by simp)]
      simp only [String.append_assoc]

/-- In the text of a write its index has a text of its own, between those of the base and the
value. -/
theorem Expr.lowerSet_text {env : Environment} {scope : Scope} {priority : Nat} {line : UInt32}
    {base : Expr} {index : Index} {value : Expr} {form : Ir}
    (h : Expr.lowerSet env scope priority line base index value = .ok form) :
    ∃ first text last, base.WrittenAs env scope priority first ∧
      index.SelectedBy env scope priority text ∧ value.WrittenAs env scope priority last ∧
      form.render.toList =
        "set(".toList ++ first ++ ", ".toList ++ text ++ ", ".toList ++ last ++ [')'] := by
  obtain ⟨slots, base', selector, value', hslots, hbase, hselector, hvalue, rfl⟩ :=
    Expr.lowerSet_eq_ok _ _ _ h
  have each : List.Forall₂ (Slot.LowersTo env scope priority) slots selector :=
    mapM_eq_ok_iff.mp hselector
  have some' : Ir.renderAll selector ≠ [] := by
    intro none
    have size := each.length_eq
    rw [Index.length_slots hslots] at size
    rw [Ir.renderAll_eq_map, List.map_eq_nil_iff] at none
    rw [none] at size
    cases size
  refine ⟨_, _, _, ⟨base', hbase, rfl⟩, Index.selectedBy_of_slots hslots each,
    ⟨value', hvalue, rfl⟩, ?_⟩
  have row : Ir.renderAll (base' :: selector ++ [value']) =
      base'.render :: (Ir.renderAll selector ++ [value'.render]) := by
    simp [Ir.renderAll_eq_map]
  rw [Ir.bareCall, Ir.render, Fragment.call, row, Fragment.join_cons _ (by simp),
    Fragment.join_concat some']
  simp [Symbol.render, Primitive.set]

/-! ## The law -/

/-- Two assignments to subscripts of different shapes, with the same base and value, have different
texts, unless one is to an element and the other to the column zero of a row that has the text of
the element. No tuple may be the last that an item or a bound is written with. -/
theorem different_shapes_are_written_differently_but_for_a_column_of_zero
    (ctx after after' : Context) (allowReturn allowReturn' : Bool)
    (pos place pos' place' : Position) (base value : Expr) (index other : Index) (form form' : Ir)
    (different : index.shape? ≠ other.shape?)
    (closed : ∀ part ∈ index.components ++ other.components, part.endsInTuple = false)
    (lowered : ((Stmt.assign pos (.subscript place base index) value).lower allowReturn).runOn ctx =
      (.ok form, after))
    (lowered' : ((Stmt.assign pos' (.subscript place' base other) value).lower
      allowReturn').runOn ctx = (.ok form', after')) :
    form.render = form'.render ↔
      index.IsColumnZeroOf ctx.env ctx.scope ctx.priority other ∨
        other.IsColumnZeroOf ctx.env ctx.scope ctx.priority index := by
  rw [Stmt.runOn_lower_subscript] at lowered lowered'
  obtain ⟨first, text, last, hbase, selects, hvalue, written⟩ :=
    Expr.lowerSet_text (congrArg Prod.fst lowered)
  obtain ⟨first', text', last', hbase', selects', hvalue', written'⟩ :=
    Expr.lowerSet_text (congrArg Prod.fst lowered')
  rw [← selects.eq_iff selects' different closed, ← String.toList_inj, written, written',
    hbase.unique hbase', hvalue.unique hvalue']
  simp

/-- `a[1]` -/
def Index.one : Index := .item (.number ⟨1, 2⟩ (.int 1))

/-- `a[1:0]` -/
def Index.fromOne : Index :=
  .slice (.mk (some (.number ⟨1, 2⟩ (.int 1))) (some (.number ⟨1, 4⟩ (.int 0))) none ⟨1, 2⟩)

/-- `a[1, 0]` -/
def Index.firstOfOne : Index :=
  .item (.tuple ⟨1, 2⟩ [.number ⟨1, 2⟩ (.int 1), .number ⟨1, 5⟩ (.int 0)])

/-- An assignment of five to a part of `a`. -/
def Stmt.writingFive (index : Index) : Stmt :=
  .assign ⟨1, 0⟩ (.subscript ⟨1, 0⟩ (.name ⟨1, 0⟩ "a") index) (.number ⟨1, 9⟩ (.int 5))

theorem an_element_and_a_span_are_written_differently :
    ∃ form form', ((Stmt.writingFive .one).lower false).runOn (.inBody {} .empty) =
        (.ok form, .inBody {} .empty) ∧
      ((Stmt.writingFive .fromOne).lower false).runOn (.inBody {} .empty) =
        (.ok form', .inBody {} .empty) ∧
      form.render ≠ form'.render := by
  refine ⟨_, _, rfl, rfl, ?_⟩
  have law := different_shapes_are_written_differently_but_for_a_column_of_zero
    (.inBody {} .empty) (.inBody {} .empty) (.inBody {} .empty) false false ⟨1, 0⟩ ⟨1, 0⟩ ⟨1, 0⟩
    ⟨1, 0⟩ (.name ⟨1, 0⟩ "a") (.number ⟨1, 9⟩ (.int 5)) .one .fromOne _ _ (by decide) (by decide)
    rfl rfl
  exact fun same => Index.IsColumnZeroOf.not_bounds (by simp [Index.fromOne]) (law.mp same)

theorem an_element_and_a_column_of_zero_are_written_alike :
    Index.one.shape? ≠ Index.firstOfOne.shape? ∧
      (((Stmt.writingFive .one).lower false).runOn (.inBody {} .empty)).1.map Ir.render =
        .ok "set(a$1$0, 1, 0, 0, 0, 0, 0, 5)" ∧
      (((Stmt.writingFive .firstOfOne).lower false).runOn (.inBody {} .empty)).1.map Ir.render =
        .ok "set(a$1$0, 1, 0, 0, 0, 0, 0, 5)" := by
  exact ⟨by decide, rfl, rfl⟩

end CallForm

-- What the base of a power looks like. In its place an operation always gets
-- parentheses, so the base stands alone in the text, but for what lowering
-- takes for delimited without a look: a number with a sign, and a tuple.
import CallForm.Proofs.Emission
import CallForm.Proofs.Grouped
import CallForm.Proofs.Outline

namespace CallForm

/-! ## Words that stand alone -/

namespace CallToken

/-- What shows of tokens from outside, `depth` parentheses deep: what is inside parentheses does
not. -/
def outlineFrom (depth : Nat) : List CallToken → List CallToken
  | [] => []
  | .opening :: rest =>
    (if depth = 0 then [.opening] else []) ++ outlineFrom (depth + 1) rest
  | .closing :: rest =>
    (if depth ≤ 1 then [.closing] else []) ++ outlineFrom (depth - 1) rest
  | token :: rest => (if depth = 0 then [token] else []) ++ outlineFrom depth rest

/-- Whether what shows of tokens is a symbol, a number without a sign, a string, a group or a
call. -/
def isAlone : List CallToken → Bool
  | [.symbol _] | [.number _] | [.string _] => true
  | [.opening, .closing] | [.symbol _, .opening, .closing] => true
  | _ => false

/-- Whether tokens are a symbol, a number without a sign, a string, a group or a call, and so cannot
be torn apart by an operator next to them. -/
def standsAlone (words : List CallToken) : Bool := isAlone (outlineFrom 0 words)

/-- Neither an operator nor a comma shows of what stands alone. -/
theorem isAlone_of_mem {token : CallToken} {shown : List CallToken} (found : token ∈ shown)
    (h : (∃ op, token = .operator op) ∨ token = .not ∨ token = .comma) : isAlone shown = false := by
  unfold isAlone
  split
  all_goals first
    | rfl
    | (rcases h with ⟨op, rfl⟩ | rfl | rfl <;> simp at found)

/-- Tokens whose parentheses close, with what shows of them. -/
def Outlines (words shown : List CallToken) : Prop :=
  ∀ depth rest, outlineFrom depth (words ++ rest) =
    (if depth = 0 then shown else []) ++ outlineFrom depth rest

theorem Outlines.nil : Outlines [] [] := by
  intro depth rest
  split <;> rfl

theorem Outlines.single {token : CallToken} (h : token ≠ .opening ∧ token ≠ .closing) :
    Outlines [token] [token] := by
  intro depth rest
  cases token with
  | opening => exact absurd rfl h.1
  | closing => exact absurd rfl h.2
  | _ => rfl

theorem Outlines.append {words more shown others : List CallToken} (h : Outlines words shown)
    (hmore : Outlines more others) : Outlines (words ++ more) (shown ++ others) := by
  intro depth rest
  rw [List.append_assoc, h, hmore]
  split <;> simp

theorem Outlines.cons {token : CallToken} {words shown : List CallToken}
    (apart : token ≠ .opening ∧ token ≠ .closing) (h : Outlines words shown) :
    Outlines (token :: words) (token :: shown) :=
  (Outlines.single apart).append h

/-- Of parentheses nothing shows but themselves. -/
theorem Outlines.group {words shown : List CallToken} (h : Outlines words shown) :
    Outlines (.opening :: (words ++ [.closing])) [.opening, .closing] := by
  intro depth rest
  rw [List.cons_append, List.append_assoc, outlineFrom, h, if_neg (Nat.succ_ne_zero depth),
    List.nil_append, List.cons_append, List.nil_append, outlineFrom, Nat.add_sub_cancel]
  cases depth <;> simp

theorem Outlines.eq {words shown : List CallToken} (h : Outlines words shown) :
    outlineFrom 0 words = shown := by
  have whole := h 0 []
  rwa [List.append_nil, if_pos rfl, outlineFrom, List.append_nil] at whole

end CallToken

open CallToken

/-! ## Compiled form with delimiters of its own -/

/-- Whether a compiled form has delimiters of its own or needs none. -/
def Ir.isDelimited : Ir → Bool
  | .symbol _ | .string _ | .call .. | .group _ => true
  | .number value => !value.isSigned
  | .between _ _ _ grouped => grouped
  | .before .. => false
  | .sequence [item] => item.isDelimited
  | .sequence _ => false

mutual

/-- What shows of the words of a compiled form. -/
def Ir.shown : Ir → List CallToken
  | .symbol head => [.symbol head]
  | .number value => ofLexeme (Fragment.number value).toList
  | .string value => [.string value]
  | .call head _ => [.symbol head, .opening, .closing]
  | .between left op right grouped =>
    if grouped then [.opening, .closing] else left.shown ++ .operator op :: right.shown
  | .before op operand grouped =>
    .ofPrefix op :: (if grouped then [.opening, .closing] else operand.shown)
  | .group _ => [.opening, .closing]
  | .sequence items => commas (Ir.shownOf items)

/-- What shows of the words of several compiled forms. -/
def Ir.shownOf : List Ir → List (List CallToken)
  | [] => []
  | item :: rest => item.shown :: Ir.shownOf rest

end

theorem ofUnsigned_apart (text : List Char) :
    ofUnsigned text ≠ .opening ∧ ofUnsigned text ≠ .closing := by
  unfold ofUnsigned
  split <;> simp

theorem outlines_ofLexeme (text : List Char) : Outlines (ofLexeme text) (ofLexeme text) := by
  unfold ofLexeme
  split
  · exact .cons (by simp) (.single (ofUnsigned_apart _))
  · exact .single (ofUnsigned_apart _)

mutual

theorem Ir.outlines_words : ∀ ir : Ir, Outlines ir.words ir.shown
  | .symbol _ | .string _ => .single (by simp)
  | .number value => by
    rw [words_number]
    exact outlines_ofLexeme _
  | .call head args => by
    rw [words_call]
    exact .cons (by simp) (Ir.outlines_row args).group
  | .between left op right grouped => by
    have inner : Outlines (left.words ++ .operator op :: right.words)
        (left.shown ++ .operator op :: right.shown) :=
      left.outlines_words.append (.cons (by simp) right.outlines_words)
    rw [words_between, shown]
    cases grouped with
    | false => exact inner
    | true => simpa using inner.group
  | .before op operand grouped => by
    have apart : CallToken.ofPrefix op ≠ .opening ∧ CallToken.ofPrefix op ≠ .closing := by
      cases op <;> simp [CallToken.ofPrefix]
    rw [words_before, shown]
    cases grouped with
    | false => exact .cons apart operand.outlines_words
    | true => exact .cons apart operand.outlines_words.group
  | .group inner => by
    rw [words_group]
    exact inner.outlines_words.group
  | .sequence items => by
    rw [words_sequence]
    exact Ir.outlines_row items

theorem Ir.outlines_row : ∀ items : List Ir, Outlines (Ir.row items) (commas (Ir.shownOf items))
  | [] => .nil
  | [item] => item.outlines_words
  | item :: next :: rest =>
    item.outlines_words.append (.cons (by simp) (Ir.outlines_row (next :: rest)))

end

theorem isAlone_ofUnsigned (text : List Char) : isAlone [ofUnsigned text] = true := by
  unfold ofUnsigned
  split <;> rfl

theorem Ir.isAlone_shown : ∀ ir : Ir, isAlone ir.shown = ir.isDelimited
  | .symbol _ | .string _ | .call _ _ | .group _ => rfl
  | .number value => by
    obtain ⟨text, same, shape⟩ := Fragment.number_shape value
    rw [shown, same, ofLexeme_signed _ shape, isDelimited]
    cases value.isSigned with
    | false => exact isAlone_ofUnsigned text
    | true => rfl
  | .between left op right grouped => by
    rw [shown, isDelimited]
    cases grouped with
    | false => exact isAlone_of_mem (List.mem_append_right _ List.mem_cons_self) (.inl ⟨op, rfl⟩)
    | true => rfl
  | .before op operand grouped => by
    rw [shown, isDelimited]
    refine isAlone_of_mem List.mem_cons_self ?_
    cases op <;> simp [CallToken.ofPrefix]
  | .sequence [] => rfl
  | .sequence [item] => by
    rw [isDelimited]
    exact item.isAlone_shown
  | .sequence (item :: next :: rest) => by
    rw [isDelimited]
    · refine isAlone_of_mem ?_ (.inr (.inr rfl))
      exact List.mem_append_right _ List.mem_cons_self
    · simp

/-- The words of a compiled form stand alone exactly if the form is delimited. -/
theorem Ir.standsAlone_words (ir : Ir) : standsAlone ir.words = ir.isDelimited := by
  rw [standsAlone, ir.outlines_words.eq, ir.isAlone_shown]

/-! ## Expressions that are compiled to it -/

/-- Whether an expression is written with delimiters of its own in a slot: a number if it has no
sign, an operation if it gets parentheses there, and a tuple if it has one item and that is, by
itself. -/
def Expr.isDelimited (aggressively : Bool) : Nat → Expr → Bool
  | _, .number _ value => !value.isSigned
  | slot, .binary _ _ op _ => aggressively || op.compiled?.any (·.priority < slot)
  | slot, .unary .. => PrefixOperator.priority < slot
  | _, .tuple _ [item] => item.isDelimited aggressively 0
  | _, .tuple .. => false
  | _, _ => true

theorem Ir.isDelimited_of_isAtom {form : Ir} (h : form.isAtom = true) :
    form.isDelimited = !form.number?.any Number.isSigned := by
  cases form with
  | between => exact h
  | before | sequence => cases h
  | _ => rfl

/-- The compiled form of an expression is delimited exactly if the expression is in its slot. -/
theorem Expr.isDelimited_lower {env : Environment} {scope : Scope} :
    ∀ (value : Expr) (slot : Nat) (form : Ir), value.lower env scope slot = .ok form →
      form.isDelimited = value.isDelimited env.groupAggressively slot
  | .binary pos left op right, slot, form, h => by
    obtain ⟨operator, lhs, rhs, compiled, _, _, rfl⟩ := Expr.lower_binary_eq_ok h
    rw [Expr.isDelimited, compiled]
    rfl
  | .unary pos op operand, slot, form, h => by
    obtain ⟨operator, inner, _, rfl⟩ := Expr.lower_unary_eq_ok h
    rw [Expr.isDelimited]
    split
    · rename_i tight
      rw [decide_eq_true tight]
      rfl
    · rename_i loose
      rw [decide_eq_false loose]
      rfl
  | .tuple pos [item], slot, form, h => by
    obtain ⟨forms, lowered, rfl⟩ := Expr.lower_tuple_eq_ok h
    rw [Expr.lowerAll] at lowered
    obtain ⟨first, hfirst, lowered⟩ := bind_eq_ok.mp lowered
    cases lowered
    exact item.isDelimited_lower 0 first hfirst
  | .tuple pos [], slot, form, h => by
    obtain ⟨forms, lowered, rfl⟩ := Expr.lower_tuple_eq_ok h
    cases lowered
    rfl
  | .tuple pos (item :: next :: rest), slot, form, h => by
    obtain ⟨forms, lowered, rfl⟩ := Expr.lower_tuple_eq_ok h
    rw [Expr.lowerAll, Expr.lowerAll] at lowered
    obtain ⟨first, _, lowered⟩ := bind_eq_ok.mp lowered
    obtain ⟨others, more, lowered⟩ := bind_eq_ok.mp lowered
    obtain ⟨second, _, more⟩ := bind_eq_ok.mp more
    obtain ⟨third, _, more⟩ := bind_eq_ok.mp more
    cases lowered
    cases more
    rfl
  | .name .., slot, form, h | .number .., slot, form, h | .string .., slot, form, h
  | .constant .., slot, form, h | .compare .., slot, form, h | .call .., slot, form, h
  | .attribute .., slot, form, h | .subscript .., slot, form, h | .list .., slot, form, h
  | .lambda .., slot, form, h | .unknown .., slot, form, h => by
    obtain ⟨atom, number⟩ := Expr.lower_of_isAtom rfl h
    rw [Ir.isDelimited_of_isAtom atom, number]
    rfl

/-- Whether an expression is written bare as the base of a power: a number if it has a sign, and a
tuple unless its one item is delimited by itself. -/
def Expr.isBareBase (aggressively : Bool) : Expr → Bool
  | .number _ value => value.isSigned
  | .tuple _ [item] => !item.isDelimited aggressively 0
  | .tuple .. => true
  | _ => false

theorem InfixOperator.priority_lt_base (op : InfixOperator) :
    op.priority < InfixOperator.pow.leftSlot := by
  cases op <;> decide

/-- As the base of a power, every operation gets parentheses. -/
theorem Expr.isDelimited_base {env : Environment} {scope : Scope} {value : Expr} {base : Ir}
    (lowered : value.lower env scope InfixOperator.pow.leftSlot = .ok base) :
    base.isDelimited = !value.isBareBase env.groupAggressively := by
  rw [value.isDelimited_lower _ _ lowered]
  cases value with
  | binary pos left op right =>
    obtain ⟨operator, _, _, compiled, _⟩ := Expr.lower_binary_eq_ok lowered
    rw [isDelimited, compiled, Option.any_some, decide_eq_true operator.priority_lt_base,
      Bool.or_true]
    rfl
  | tuple pos items =>
    match items with
    | [item] => rw [isDelimited, isBareBase, Bool.not_not]
    | [] | _ :: _ :: _ => rfl
  | _ => rfl

/-! ## Parts of compiled form -/

mutual

/-- The leaves of a part are leaves of the whole. -/
theorem Ir.Leaves.part {name : String → Prop} {number : Number → Prop} {part : Ir} :
    ∀ ir : Ir, ir.Leaves name number → part ∈ ir.parts → part.Leaves name number
  | .symbol _, h, found | .number _, h, found | .string _, h, found => by
    rw [List.mem_singleton.mp found]
    exact h
  | .call head args, h, found => by
    rcases List.mem_cons.mp found with rfl | found
    · exact h
    · exact Ir.AllLeaves.part args h.2 found
  | .between left op right grouped, h, found => by
    rcases List.mem_cons.mp found with rfl | found
    · exact h
    · rcases List.mem_append.mp found with found | found
      · exact Ir.Leaves.part left h.1 found
      · exact Ir.Leaves.part right h.2 found
  | .before op operand grouped, h, found => by
    rcases List.mem_cons.mp found with rfl | found
    · exact h
    · exact Ir.Leaves.part operand h found
  | .group inner, h, found => by
    rcases List.mem_cons.mp found with rfl | found
    · exact h
    · exact Ir.Leaves.part inner h found
  | .sequence items, h, found => by
    rcases List.mem_cons.mp found with rfl | found
    · exact h
    · exact Ir.AllLeaves.part items h found

theorem Ir.AllLeaves.part {name : String → Prop} {number : Number → Prop} {part : Ir} :
    ∀ items : List Ir, Ir.AllLeaves name number items → part ∈ Ir.partsIn items →
      part.Leaves name number
  | [], _, found => by cases found
  | item :: rest, h, found => by
    rcases List.mem_append.mp found with found | found
    · exact Ir.Leaves.part item h.1 found
    · exact Ir.AllLeaves.part rest h.2 found

end

/-! ## The law -/

/-- Wherever a power compiles, it is written as a power, and its base is delimited in the compiled
form exactly if it is neither a number with a sign nor a bare tuple. Where names are identifiers,
the text of the base stands alone exactly then: it is a symbol, a number without a sign, a string, a
group or a call, and never starts with a sign. A power that lowering comes by in a function that
compiles stands in the compiled form of the function. -/
theorem the_base_of_a_power_stands_alone_but_for_signed_numbers_and_bare_tuples
    (env : Environment) (pos : Position) (left right : Expr) :
    (∀ scope slot form, (Expr.binary pos left .pow right).lower env scope slot = .ok form →
      ∃ base exponent grouped, form = .between base .pow exponent grouped ∧
        base.isDelimited = !left.isBareBase env.groupAggressively ∧
        (form.IsNamed → ∃ words, readAll base.render.toList = some words ∧
          standsAlone words = !left.isBareBase env.groupAggressively)) ∧
      ∀ definition ir, FunctionDef.compile env definition = .ok ir → ∀ place,
        (place, .expr (.binary pos left .pow right)) ∈ definition.visits env.enters →
          ∃ slot form,
            (Expr.binary pos left .pow right).lower env (place.scope definition.start) slot =
              .ok form ∧
            form ∈ ir.parts ∧ (env.IsReadable → definition.IsNamed → form.IsNamed) := by
  constructor
  · intro scope slot form lowered
    obtain ⟨operator, base, exponent, known, hbase, _, rfl⟩ := Expr.lower_binary_eq_ok lowered
    cases known
    have delimited := Expr.isDelimited_base hbase
    refine ⟨base, exponent, _, rfl, delimited, ?_⟩
    intro named
    refine ⟨base.words, base.readAll_words named.1, ?_⟩
    rw [base.standsAlone_words, delimited]
  · intro definition ir compiled place met
    obtain ⟨slot, form, lowered, part⟩ := FunctionDef.emits_compile compiled place _ met
    rw [Ir.partsIn, Ir.partsIn, List.append_nil] at part
    refine ⟨slot, form, lowered, part, ?_⟩
    intro readable named
    exact Ir.Leaves.part ir (definition.isNamed_compile readable named compiled) part

/-- `def f(x, y): return (-x) ** y`. -/
def FunctionDef.poweringNegation : FunctionDef :=
  .mk "f" [⟨"x", ⟨1, 6⟩⟩, ⟨"y", ⟨1, 9⟩⟩]
    [.ret ⟨2, 4⟩ (some (.binary ⟨2, 11⟩
      (.unary ⟨2, 12⟩ .minus (.name ⟨2, 13⟩ "x")) .pow (.name ⟨2, 19⟩ "y")))] ⟨1, 0⟩

theorem a_negated_base_stands_alone :
    ∃ ir, FunctionDef.poweringNegation.compile (Environment.grouping {} false) = .ok ir ∧
      ir.render = "define$1$0(f$1$0, x$1$6, y$1$9, (-x$2$13) ** y$2$19)" ∧
      ∃ base exponent grouped, .between base .pow exponent grouped ∈ ir.parts ∧
        ∃ words, readAll base.render.toList = some words ∧ standsAlone words = true := by
  have named : FunctionDef.poweringNegation.IsNamed := by decide +kernel
  obtain ⟨ir, compiled⟩ : ∃ ir, FunctionDef.poweringNegation.compile
      (Environment.grouping {} false) = .ok ir := ⟨_, rfl⟩
  obtain ⟨written, emitted⟩ :=
    the_base_of_a_power_stands_alone_but_for_signed_numbers_and_bare_tuples
      (Environment.grouping {} false) ⟨2, 11⟩ (.unary ⟨2, 12⟩ .minus (.name ⟨2, 13⟩ "x"))
      (.name ⟨2, 19⟩ "y")
  obtain ⟨slot, form, lowered, part, inside⟩ := emitted .poweringNegation ir compiled ⟨[], []⟩
    (List.mem_of_getElem? (i := 1) rfl)
  obtain ⟨base, exponent, grouped, rfl, _, text⟩ := written _ slot form lowered
  obtain ⟨words, read, alone⟩ := text (inside Environment.isReadable_default named)
  refine ⟨ir, compiled, ?_, base, exponent, grouped, part, words, read, alone⟩
  cases compiled
  decide +kernel

/-- The base of every power of a function stands alone in the text, where everything is grouped and
where not. -/
def FunctionDef.BasesStandAlone (definition : FunctionDef) (env : Environment) : Prop :=
  ∀ aggressively ir, definition.compile (env.grouping aggressively) = .ok ir →
    ∀ base exponent grouped, .between base .pow exponent grouped ∈ ir.parts →
      ∃ words, readAll base.render.toList = some words ∧ standsAlone words = true

/-- `def f(y): return -2 ** y`, where `-2` is one number. -/
def FunctionDef.poweringNegative : FunctionDef :=
  .mk "f" [⟨"y", ⟨1, 6⟩⟩]
    [.ret ⟨2, 4⟩ (some (.binary ⟨2, 11⟩ (.number ⟨2, 11⟩ (.int (-2))) .pow
      (.name ⟨2, 17⟩ "y")))] ⟨1, 0⟩

theorem a_negative_base_does_not_stand_alone :
    ¬ FunctionDef.poweringNegative.BasesStandAlone {} ∧
      ∃ ir, FunctionDef.poweringNegative.compile {} = .ok ir ∧
        ir.render = "define$1$0(f$1$0, y$1$6, (-2 ** y$2$17))" ∧
        CallTree.read? ir.render = some (CallTree.taggedCall ⟨1, 0⟩ Primitive.define
          [CallTree.tagged ⟨1, 0⟩ "f", CallTree.tagged ⟨1, 6⟩ "y",
            .before .neg (.between (.number "2") .pow (CallTree.tagged ⟨2, 17⟩ "y"))]) := by
  constructor
  · intro alone
    obtain ⟨words, read, whole⟩ := alone true _ rfl (.number (.int (-2))) (Ir.tagged ⟨2, 17⟩ "y")
      true (List.mem_of_getElem? (i := 3) rfl)
    rw [Ir.readAll_words (.number (.int (-2))) trivial] at read
    cases read
    rw [Ir.standsAlone_words] at whole
    exact absurd whole (by decide)
  · refine ⟨Ir.taggedCall ⟨1, 0⟩ Primitive.define [Ir.tagged ⟨1, 0⟩ "f", Ir.tagged ⟨1, 6⟩ "y",
      .between (.number (.int (-2))) .pow (Ir.tagged ⟨2, 17⟩ "y") true], rfl, by decide +kernel, ?_⟩
    rw [CallTree.read?, Ir.readAll_words]
    · rfl
    · have names : isIdentifier "f" = true ∧ isIdentifier "y" = true := by decide
      exact ⟨by decide, names.1, names.2, ⟨trivial, names.2⟩, trivial⟩

end CallForm

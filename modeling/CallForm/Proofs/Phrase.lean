-- The tokens of an arithmetic expression in a source file, as a grammar, and
-- the reader of expressions on them: it makes the nodes that the grammar
-- derives, with the fuel that it is given, up to the token where the level ends.
import CallForm.Proofs.ExpressionGrammar
import CallForm.Source.Grammar

namespace CallForm

namespace Grammar

/-! ## The grammar -/

/-- A node that a level of the grammar of expressions derives from tokens, wherever they stand. -/
inductive Phrase : Level → List Token → SyntaxNode → Prop
  | integer (text : String) (span : Span) :
      Phrase .atom [⟨.integer text, span⟩] (.leaf "integer" span)
  | parenthesized {words : List Token} {inner : SyntaxNode} (opening closing : Span) :
      Phrase .sum words inner →
      Phrase .atom (⟨.mark (.opening .round), opening⟩ ::
        (words ++ [⟨.mark (.closing .round), closing⟩])) (.parenthesized opening closing inner)
  | unary {words : List Token} {operand : SyntaxNode} (span : Span) :
      Phrase .factor words operand →
      Phrase .factor (⟨.mark (.binary .sub), span⟩ :: words) (.unary (.sign "-" span) operand)
  | binary {level left right : Level} {op : BinaryOperator} {before after : List Token}
      {l r : SyntaxNode} (span : Span) : OperatorRule level left op right →
      Phrase left before l → Phrase right after r →
      Phrase level (before ++ ⟨.mark (.binary op), span⟩ :: after)
        (.binary l (.sign op.text span) r)
  | tighter (level : Level) {words : List Token} {node : SyntaxNode} :
      Phrase level.tighter words node → Phrase level words node

/-- A token that an operand starts with, its sign included. -/
inductive StartsOperand : Lexeme → Prop
  | integer (text : String) : StartsOperand (.integer text)
  | opening : StartsOperand (.mark (.opening .round))
  | minus : StartsOperand (.mark (.binary .sub))

theorem Phrase.head {level : Level} {words : List Token} {node : SyntaxNode}
    (h : Phrase level words node) :
    ∃ lexeme span tail, words = ⟨lexeme, span⟩ :: tail ∧ StartsOperand lexeme := by
  induction h with
  | integer text span => exact ⟨_, _, _, rfl, .integer _⟩
  | parenthesized => exact ⟨_, _, _, rfl, .opening⟩
  | unary => exact ⟨_, _, _, rfl, .minus⟩
  | binary span _ _ _ ihLeft =>
    obtain ⟨lexeme, start, tail, shape, starts⟩ := ihLeft
    exact ⟨lexeme, start, _, by rw [shape, List.cons_append], starts⟩
  | tighter level _ ih => exact ih

/-- The tokens of an atom do not start with a sign. -/
theorem Phrase.unsigned {words : List Token} {node : SyntaxNode} (h : Phrase .atom words node)
    (rest : List Token) : unaryMark? (words ++ rest) = none := by
  generalize same : Level.atom = level at h
  induction h with
  | integer => rfl
  | parenthesized => rfl
  | unary => cases same
  | binary span rule => cases rule <;> cases same
  | tighter level _ ih =>
    cases same
    exact ih rfl

/-! ## Where a level ends -/

/-- How tightly an operator holds its operands, a power tightest. -/
def strength (op : BinaryOperator) : Nat := (levelOf? op).getD 6

/-- Tokens that go on neither with an operator of at least the strength `bound` nor with anything
else that belongs to an operand. -/
inductive EndsBelow (bound : Nat) : List Token → Prop
  | closing (span : Span) (rest : List Token) :
      EndsBelow bound (⟨.mark (.closing .round), span⟩ :: rest)
  | newline (span : Span) (rest : List Token) : EndsBelow bound (⟨.newline, span⟩ :: rest)
  | operator (op : BinaryOperator) (span : Span) (rest : List Token) :
      strength op < bound → EndsBelow bound (⟨.mark (.binary op), span⟩ :: rest)

theorem EndsBelow.mono {low high : Nat} {rest : List Token} (h : EndsBelow low rest)
    (le : low ≤ high) : EndsBelow high rest := by
  cases h with
  | closing => exact .closing _ _
  | newline => exact .newline _ _
  | operator op span rest less => exact .operator op span rest (Nat.lt_of_lt_of_le less le)

theorem EndsBelow.trailers {bound : Nat} {rest : List Token} (h : EndsBelow bound rest)
    (value : SyntaxNode) (fuel : Nat) :
    Grammar.trailers value (fuel + 1) rest = some (value, rest) := by
  cases h <;> simp [Grammar.trailers]

theorem EndsBelow.binaryRest {bound level : Nat} {rest : List Token} (h : EndsBelow bound rest)
    (le : bound ≤ level) (left : SyntaxNode) (fuel : Nat) :
    Grammar.binaryRest level left (fuel + 1) rest = some (left, rest) := by
  cases h with
  | closing | newline => simp [Grammar.binaryRest]
  | operator op span rest less =>
    rw [Grammar.binaryRest]
    split
    · rfl
    · rename_i found same
      rw [strength, same, Option.getD_some] at less
      rw [if_neg (by omega)]

theorem EndsBelow.keyword {bound : Nat} {rest : List Token} (h : EndsBelow bound rest)
    (word : String) : skipKeyword? word rest = none := by
  cases h <;> rfl

theorem EndsBelow.comparisons {bound : Nat} {rest : List Token} (h : EndsBelow bound rest)
    (fuel : Nat) : Grammar.comparisons (fuel + 1) rest = some ([], rest) := by
  have noComparison : comparison? rest = none := by cases h <;> rfl
  rw [Grammar.comparisons, noComparison]

/-! ## The looser rules -/

/-- An operand that no rule looser than the binary operators goes on with is a whole item. -/
theorem item_of_binary {lexeme : Lexeme} (starts : StartsOperand lexeme) {span : Span}
    {tail rest : List Token} {found : SyntaxNode} {bound fuel : Nat} (ends : EndsBelow bound rest)
    (h : binary 0 (fuel + 1) (⟨lexeme, span⟩ :: tail) = some (found, rest)) :
    item (fuel + 7) (⟨lexeme, span⟩ :: tail) = some (found, rest) := by
  have noKeyword (word : String) (place : Span) (others : List Token) :
      ⟨lexeme, span⟩ :: tail = ⟨.keyword word, place⟩ :: others → False := by
    rintro ⟨⟩
    cases starts
  have inverted : inversion (fuel + 2) (⟨lexeme, span⟩ :: tail) = some (found, rest) := by
    rw [inversion]
    · simp [h, ends.comparisons fuel]
    · exact noKeyword "not"
  have conjoined : conjunction (fuel + 3) (⟨lexeme, span⟩ :: tail) = some (found, rest) := by
    rw [conjunction]
    simp [inverted, ends.keyword]
  have disjoined : disjunction (fuel + 4) (⟨lexeme, span⟩ :: tail) = some (found, rest) := by
    rw [disjunction]
    simp [conjoined, ends.keyword]
  have tested : test (fuel + 5) (⟨lexeme, span⟩ :: tail) = some (found, rest) := by
    rw [test]
    · simp [disjoined, ends.keyword]
    · exact noKeyword "lambda"
  have named : namedTest (fuel + 6) (⟨lexeme, span⟩ :: tail) = some (found, rest) := by
    rw [namedTest, tested]
    rintro name place mark others ⟨⟩
    cases starts
  rw [item]
  · simp [named, ends.keyword]
  · rintro place others ⟨⟩
    cases starts

/-! ## What is derived is read -/

/-- The reader of a level makes a node of words, whatever follows that does not belong to the
level. Sums and products are left where their next operator is looked for. -/
def Reads : Level → List Token → SyntaxNode → Prop
  | .sum, words, found => ∀ (rest : List Token) (fuel : Nat), EndsBelow 5 rest →
      16 * (words ++ rest).length + 2 ≤ fuel → ∃ left, 16 * rest.length < left ∧
        ∀ level ≤ 4, binary level fuel (words ++ rest) = binaryRest level found left rest
  | .product, words, found => ∀ (rest : List Token) (fuel : Nat), EndsBelow 6 rest →
      16 * (words ++ rest).length + 2 ≤ fuel → ∃ left, 16 * rest.length < left ∧
        ∀ level ≤ 5, binary level fuel (words ++ rest) = binaryRest level found left rest
  | .factor, words, found => ∀ (rest : List Token) (fuel : Nat), EndsBelow 6 rest →
      16 * (words ++ rest).length + 1 ≤ fuel → unary fuel (words ++ rest) = some (found, rest)
  | .atom, words, found => ∀ (rest : List Token) (fuel : Nat), EndsBelow 7 rest →
      16 * (words ++ rest).length ≤ fuel → primary fuel (words ++ rest) = some (found, rest)

theorem Reads.integer (text : String) (span : Span) :
    Reads .atom [⟨.integer text, span⟩] (.leaf "integer" span) := by
  intro rest fuel ends enough
  obtain ⟨fuel, rfl⟩ : ∃ less, fuel = less + 2 := ⟨fuel - 2, by simp at enough; omega⟩
  simp [primary, atom, ends.trailers]

/-- A whole sum may stand in parentheses. -/
theorem Reads.parenthesized {words : List Token} {found : SyntaxNode} (h : Reads .sum words found)
    (head : ∃ lexeme span tail, words = ⟨lexeme, span⟩ :: tail ∧ StartsOperand lexeme)
    (opening closing : Span) :
    Reads .atom (⟨.mark (.opening .round), opening⟩ ::
      (words ++ [⟨.mark (.closing .round), closing⟩]))
      (.parenthesized opening closing found) := by
  intro rest fuel ends enough
  simp only [List.cons_append, List.append_assoc, List.nil_append, List.length_cons,
    List.length_append] at enough ⊢
  obtain ⟨fuel, rfl⟩ : ∃ less, fuel = less + 10 := ⟨fuel - 10, by omega⟩
  have stop : EndsBelow 0 (⟨.mark (.closing .round), closing⟩ :: rest) := .closing _ _
  obtain ⟨left, enough', whole⟩ := h _ (fuel + 1) (stop.mono (by omega))
    (by simp only [List.length_append, List.length_cons]; omega)
  obtain ⟨left, rfl⟩ : ∃ less, left = less + 1 := ⟨left - 1, by omega⟩
  have summed := whole 0 (by omega)
  rw [stop.binaryRest (by omega) found left] at summed
  have inside : item (fuel + 7) (words ++ ⟨.mark (.closing .round), closing⟩ :: rest) =
      some (found, ⟨.mark (.closing .round), closing⟩ :: rest) := by
    obtain ⟨lexeme, start, tail, rfl, starts⟩ := head
    rw [List.cons_append] at summed ⊢
    exact item_of_binary starts stop summed
  have grouped : Grammar.parenthesized opening (fuel + 8)
      (words ++ ⟨.mark (.closing .round), closing⟩ :: rest) =
        some (.parenthesized opening closing found, rest) := by
    obtain ⟨lexeme, start, tail, rfl, starts⟩ := head
    rw [List.cons_append] at inside ⊢
    cases starts <;> simp [Grammar.parenthesized, inside]
  simp [primary, atom, grouped, ends.trailers]

theorem Reads.unary {words : List Token} {found : SyntaxNode} (h : Reads .factor words found)
    (span : Span) :
    Reads .factor (⟨.mark (.binary .sub), span⟩ :: words) (.unary (.sign "-" span) found) := by
  intro rest fuel ends enough
  simp only [List.cons_append, List.length_cons] at enough ⊢
  obtain ⟨fuel, rfl⟩ : ∃ less, fuel = less + 1 := ⟨fuel - 1, by omega⟩
  simp [Grammar.unary, unaryMark?, h rest fuel ends (by omega)]

/-- A factor that starts with no sign and does not go on with a power is an atom. -/
theorem unary_atom {words rest : List Token} {fuel : Nat} {base : SyntaxNode}
    (unsigned : unaryMark? words = none) (h : primary fuel words = some (base, rest))
    (noPower : ∀ span others, rest ≠ ⟨.mark (.binary .pow), span⟩ :: others) :
    Grammar.unary (fuel + 1) words = some (base, rest) := by
  rw [Grammar.unary, unsigned]
  dsimp only
  rw [h, Option.bind_eq_bind, Option.bind_some]
  split
  · rename_i span others same
    exact absurd same (noPower span others)
  · rfl

/-- A power in front of which no sign stands. -/
theorem unary_power {words others : List Token} {fuel : Nat} {base : SyntaxNode} {span : Span}
    (unsigned : unaryMark? words = none)
    (h : primary fuel words = some (base, ⟨.mark (.binary .pow), span⟩ :: others)) :
    Grammar.unary (fuel + 1) words =
      (Grammar.unary fuel others).bind fun found =>
        some (.binary base (.sign "**" span) found.1, found.2) := by
  rw [Grammar.unary, unsigned]
  dsimp only
  rw [h]
  rfl

/-- Where no sign starts and no power follows, a factor is an atom. -/
theorem Reads.ofAtom {words : List Token} {found : SyntaxNode} (h : Reads .atom words found)
    (unsigned : ∀ rest, unaryMark? (words ++ rest) = none) : Reads .factor words found := by
  intro rest fuel ends enough
  obtain ⟨fuel, rfl⟩ : ∃ less, fuel = less + 1 := ⟨fuel - 1, by omega⟩
  refine unary_atom (unsigned rest) (h rest fuel (ends.mono (by omega)) (by omega)) ?_
  rintro span others rfl
  cases ends with
  | operator _ _ _ less => exact absurd less (by decide)

theorem Reads.power {base exponent : List Token} {b e : SyntaxNode} (hb : Reads .atom base b)
    (unsigned : ∀ rest, unaryMark? (base ++ rest) = none) (he : Reads .factor exponent e)
    (span : Span) :
    Reads .factor (base ++ ⟨.mark (.binary .pow), span⟩ :: exponent)
      (.binary b (.sign "**" span) e) := by
  intro rest fuel ends enough
  simp only [List.append_assoc, List.cons_append] at enough ⊢
  obtain ⟨fuel, rfl⟩ : ∃ less, fuel = less + 1 := ⟨fuel - 1, by omega⟩
  have starts : EndsBelow 7 (⟨.mark (.binary .pow), span⟩ :: (exponent ++ rest)) :=
    .operator .pow span _ (by decide)
  have before := hb _ fuel starts (by omega)
  have after := he rest fuel ends (by simp at enough ⊢; omega)
  rw [unary_power (unsigned _) before, after]
  rfl

theorem Reads.ofFactor {words : List Token} {found : SyntaxNode} (h : Reads .factor words found) :
    Reads .product words found := by
  intro rest fuel ends enough
  obtain ⟨fuel, rfl⟩ : ∃ less, fuel = less + 1 := ⟨fuel - 1, by omega⟩
  refine ⟨fuel, by simp at enough; omega, fun level _ => ?_⟩
  simp [binary, h rest fuel ends (by omega)]

theorem Reads.ofProduct {words : List Token} {found : SyntaxNode}
    (h : Reads .product words found) : Reads .sum words found := by
  intro rest fuel ends enough
  obtain ⟨left, enough', whole⟩ := h rest fuel (ends.mono (by omega)) enough
  exact ⟨left, enough', fun level le => whole level (by omega)⟩

/-- The right operand of an operator of strength 5 is a factor. -/
theorem Reads.factor_operand {words rest : List Token} {found : SyntaxNode} {fuel : Nat}
    (h : Reads .factor words found) (ends : EndsBelow 6 rest)
    (enough : 16 * (words ++ rest).length + 2 ≤ fuel) :
    binary 6 fuel (words ++ rest) = some (found, rest) := by
  obtain ⟨fuel, rfl⟩ : ∃ less, fuel = less + 2 := ⟨fuel - 2, by omega⟩
  rw [binary, h rest (fuel + 1) ends (by omega)]
  exact ends.binaryRest (by omega) found fuel

/-- The right operand of an operator of strength 4 is a product. -/
theorem Reads.product_operand {words rest : List Token} {found : SyntaxNode} {fuel : Nat}
    (h : Reads .product words found) (ends : EndsBelow 5 rest)
    (enough : 16 * (words ++ rest).length + 2 ≤ fuel) :
    binary 5 fuel (words ++ rest) = some (found, rest) := by
  obtain ⟨left, enough', whole⟩ := h rest fuel (ends.mono (by omega)) enough
  obtain ⟨left, rfl⟩ : ∃ less, left = less + 1 := ⟨left - 1, by omega⟩
  rw [whole 5 (by omega)]
  exact ends.binaryRest (by omega) found left

theorem binaryRest_operator {op : BinaryOperator} {level found : Nat}
    (h : levelOf? op = some found) (le : level ≤ found) (left : SyntaxNode) (fuel : Nat)
    (span : Span) (rest : List Token) :
    binaryRest level left (fuel + 1) (⟨.mark (.binary op), span⟩ :: rest) =
      (binary (found + 1) fuel rest).bind fun next =>
        binaryRest level (.binary left (.sign op.text span) next.1) fuel next.2 := by
  rw [binaryRest, h]
  simp [le]

theorem Reads.product {op : BinaryOperator} (middle : levelOf? op = some 5)
    {before after : List Token} {l r : SyntaxNode} (hl : Reads .product before l)
    (hr : Reads .factor after r) (span : Span) :
    Reads .product (before ++ ⟨.mark (.binary op), span⟩ :: after)
      (.binary l (.sign op.text span) r) := by
  intro rest fuel ends enough
  simp only [List.append_assoc, List.cons_append] at enough ⊢
  have below : strength op < 6 := by simp [strength, middle]
  obtain ⟨left, enough', whole⟩ := hl _ fuel (.operator op span (after ++ rest) below) enough
  rw [List.length_cons] at enough'
  obtain ⟨left, rfl⟩ : ∃ less, left = less + 1 := ⟨left - 1, by omega⟩
  refine ⟨left, by simp at enough'; omega, fun level le => ?_⟩
  rw [whole level le, binaryRest_operator middle le, hr.factor_operand ends (by omega)]
  rfl

theorem Reads.sum {op : BinaryOperator} (low : levelOf? op = some 4)
    {before after : List Token} {l r : SyntaxNode} (hl : Reads .sum before l)
    (hr : Reads .product after r) (span : Span) :
    Reads .sum (before ++ ⟨.mark (.binary op), span⟩ :: after)
      (.binary l (.sign op.text span) r) := by
  intro rest fuel ends enough
  simp only [List.append_assoc, List.cons_append] at enough ⊢
  have below : strength op < 5 := by simp [strength, low]
  obtain ⟨left, enough', whole⟩ := hl _ fuel (.operator op span (after ++ rest) below) enough
  rw [List.length_cons] at enough'
  obtain ⟨left, rfl⟩ : ∃ less, left = less + 1 := ⟨left - 1, by omega⟩
  refine ⟨left, by simp at enough'; omega, fun level le => ?_⟩
  rw [whole level le, binaryRest_operator low le, hr.product_operand ends (by omega)]
  rfl

/-- Sums and products are read by their levels. -/
theorem levelOf?_sum {op : BinaryOperator} (h : op ∈ [BinaryOperator.add, .sub]) :
    levelOf? op = some 4 := by
  revert h
  cases op <;> decide

theorem levelOf?_product {op : BinaryOperator} (h : op ∈ [BinaryOperator.mult, .div, .mod]) :
    levelOf? op = some 5 := by
  revert h
  cases op <;> decide

/-- Whatever the grammar derives is read. -/
theorem Phrase.reads {level : Level} {words : List Token} {node : SyntaxNode}
    (h : Phrase level words node) : Reads level words node := by
  induction h with
  | integer text span => exact .integer text span
  | parenthesized opening closing h ih => exact ih.parenthesized h.head opening closing
  | unary span _ ih => exact ih.unary span
  | binary span rule left _ ihLeft ihRight =>
    cases rule with
    | sum low => exact .sum (levelOf?_sum low) ihLeft ihRight span
    | product middle => exact .product (levelOf?_product middle) ihLeft ihRight span
    | power => exact ihLeft.power left.unsigned ihRight span
  | tighter level h ih =>
    cases level with
    | sum => exact ih.ofProduct
    | product => exact ih.ofFactor
    | factor => exact ih.ofAtom h.unsigned
    | atom => exact ih

end Grammar

end CallForm

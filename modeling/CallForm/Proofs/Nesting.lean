-- Matching parentheses, in a text and in its tokens. In a text of one line
-- without quotes an opening token is a parenthesis with another one inside,
-- and innermost parentheses are single tokens that leave the depth alone. So
-- the depth that tokens are laid out by counts the opening tokens that are
-- not closed yet, and it is never taken below zero.
import CallForm.Proofs.Avoided
import CallForm.Proofs.Parentheses

namespace CallForm

namespace Layout

/-! ## Matching parentheses -/

/-- Whether the parentheses of a text match behind `depth` open ones: every closing one closes an
open one, and in the end none is left open. -/
def closes (depth : Nat) : List Char → Bool
  | [] => depth == 0
  | c :: rest =>
    if c == '(' then closes (depth + 1) rest
    else if c == ')' then depth != 0 && closes (depth - 1) rest
    else closes depth rest

/-- A text whose parentheses match. -/
def IsBalanced (text : List Char) : Prop := closes 0 text = true

instance (text : List Char) : Decidable (IsBalanced text) := inferInstanceAs (Decidable (_ = true))

@[simp] theorem closes_nil (depth : Nat) : closes depth [] = true ↔ depth = 0 := by
  simp [closes]

@[simp] theorem closes_opening (depth : Nat) (rest : List Char) :
    closes depth ('(' :: rest) = closes (depth + 1) rest := by
  simp [closes]

@[simp] theorem closes_closing (depth : Nat) (rest : List Char) :
    closes (depth + 1) (')' :: rest) = closes depth rest := by
  simp [closes]

@[simp] theorem not_closes_closing (rest : List Char) : closes 0 (')' :: rest) = false := by
  simp [closes]

theorem closes_plain {c : Char} (h : isParenthesis c = false) (depth : Nat) (rest : List Char) :
    closes depth (c :: rest) = closes depth rest := by
  obtain ⟨opening, closing⟩ := Bool.or_eq_false_iff.mp h
  simp only [closes, opening, closing, Bool.false_eq_true, if_false]

/-- Only its parentheses decide whether a text closes what is open. -/
theorem closes_parentheses (depth : Nat) (text : List Char) :
    closes depth (parentheses text) = closes depth text := by
  induction text generalizing depth with
  | nil => rfl
  | cons c rest ih =>
    unfold parentheses at ih ⊢
    by_cases found : isParenthesis c = true
    · rw [List.filter_cons_of_pos found]
      simp only [closes, ih]
    · rw [List.filter_cons_of_neg found, ih, closes_plain (Bool.eq_false_iff.mpr found)]

/-- A text without parentheses is passed over. -/
theorem closes_through {text : List Char} (h : parentheses text = []) (depth : Nat)
    (rest : List Char) : closes depth (text ++ rest) = closes depth rest := by
  rw [← closes_parentheses, parentheses_append, h, List.nil_append, closes_parentheses]

/-- An innermost parenthesis closes what it opens. -/
theorem closes_group {body : List Char} (h : parentheses body = []) (depth : Nat)
    (rest : List Char) : closes depth ('(' :: (body ++ ')' :: rest)) = closes depth rest := by
  rw [closes_opening, closes_through h, closes_closing]

/-- A text that has to close something holds a parenthesis. -/
theorem parentheses_ne_nil {depth : Nat} {text : List Char}
    (h : closes (depth + 1) text = true) : parentheses text ≠ [] := by
  intro none
  rw [← closes_parentheses, none, closes_nil] at h
  omega

/-! ## The parentheses of tokens -/

/-- The parentheses of a token, in order. -/
def Token.parentheses : Token → List Char
  | .opening => ['(']
  | .closing => [')']
  | .comma | .blank => []
  | .verbatim text => Layout.parentheses text

theorem parentheses_newline (width depth : Nat) : parentheses (newline width depth) = [] := by
  rw [← parentheses_ink, ink_newline]
  rfl

theorem parentheses_written (width depth : Nat) (token : Token) :
    parentheses (written width depth token) = token.parentheses := by
  cases token with
  | opening => exact congrArg ('(' :: ·) (parentheses_newline width (depth + 1))
  | closing =>
    rw [written, parentheses_append, parentheses_newline]
    rfl
  | comma => exact parentheses_newline width depth
  | blank | verbatim text => rfl

theorem parentheses_lay (width depth : Nat) (row : List Token) :
    parentheses (lay width depth row) = row.flatMap Token.parentheses := by
  induction row generalizing depth with
  | nil => rfl
  | cons token rest ih =>
    rw [lay, parentheses_append, parentheses_written, ih, List.flatMap_cons]

/-- The tokens of a text have its parentheses. -/
theorem parentheses_tokens (text : List Char) :
    (tokens text).flatMap Token.parentheses = parentheses text := by
  rw [← parentheses_lay 0 0, ← parentheses_ink, ink_lay_tokens, parentheses_ink]

/-! ## Nested tokens -/

/-- A text that is laid out on the line it stands on: one character that is neither a parenthesis
nor a blank, or a parenthesis with no other one and no line end inside. -/
inductive IsInline : List Char → Prop
  | character {c : Char} : isParenthesis c = false → isBlank c = false → IsInline [c]
  | group {body : List Char} : parentheses body = [] → '\n' ∉ body →
      IsInline ('(' :: (body ++ [')']))

/-- Tokens that close `depth` open parentheses and leave none of their own open. An opening token
has another parenthesis behind it before any that closes. -/
inductive Nests : Nat → List Token → Prop
  | done : Nests 0 []
  | opening {depth : Nat} {rest : List Token} :
      (rest.flatMap Token.parentheses).head? = some '(' → Nests (depth + 1) rest →
      Nests depth (.opening :: rest)
  | closing {depth : Nat} {rest : List Token} : Nests depth rest →
      Nests (depth + 1) (.closing :: rest)
  | comma {depth : Nat} {rest : List Token} : Nests depth rest → Nests depth (.comma :: rest)
  | blank {depth : Nat} {rest : List Token} : Nests depth rest → Nests depth (.blank :: rest)
  | verbatim {depth : Nat} {text : List Char} {rest : List Token} : IsInline text →
      Nests depth rest → Nests depth (.verbatim text :: rest)

/-- Behind an opening parenthesis that is not innermost, the next one opens too if there is one to
close what is open. -/
theorem head?_parentheses {depth : Nat} {text : List Char} (inner : groupTail text = none)
    (h : closes (depth + 1) text = true) : (parentheses text).head? = some '(' := by
  rw [← Option.not_isSome_iff_eq_none, groupTail_isSome] at inner
  obtain ⟨c, rest, found⟩ := List.exists_cons_of_ne_nil (parentheses_ne_nil h)
  have listed : c ∈ parentheses text := by
    rw [found]
    exact List.mem_cons_self
  rw [found, List.head?_cons] at inner ⊢
  have kind := (List.mem_filter.mp listed).2
  simp only [isParenthesis, Bool.or_eq_true, beq_iff_eq] at kind
  rcases kind with rfl | rfl
  · rfl
  · exact absurd rfl inner

/-- The token of a single character that is no quote nests in tokens that nest. -/
theorem nests_ofChar {c : Char} {token : Token} (single : ofChar c = some token) {depth : Nat}
    {rest : List Char} (short : longToken c rest = none)
    (balanced : closes depth (c :: rest) = true)
    (ih : ∀ depth, closes depth rest = true → Nests depth (tokens rest)) :
    Nests depth (token :: tokens rest) := by
  unfold ofChar at single
  split at single
  · cases single
  split at single
  · rename_i opening
    cases single
    obtain rfl := beq_iff_eq.mp opening
    have inner : groupTail rest = none := by simpa [longToken] using short
    rw [closes_opening] at balanced
    refine .opening ?_ (ih _ balanced)
    rw [parentheses_tokens]
    exact head?_parentheses inner balanced
  split at single
  · rename_i closing
    cases single
    obtain rfl := beq_iff_eq.mp closing
    cases depth with
    | zero => simp at balanced
    | succ depth =>
      rw [closes_closing] at balanced
      exact .closing (ih _ balanced)
  rename_i lineEnd opening closing
  have plain : isParenthesis c = false := by simp [isParenthesis, opening, closing]
  rw [closes_plain plain] at balanced
  split at single
  · cases single
    exact .comma (ih _ balanced)
  split at single
  · cases single
    exact .blank (ih _ balanced)
  · rename_i blank
    cases single
    have visible : isBlank c = false := by
      rw [isBlank, Bool.eq_false_iff.mpr blank, Bool.false_or, Bool.eq_false_iff.mpr lineEnd]
    exact .verbatim (.character plain visible) (ih _ balanced)

/-- The tokens of a text of one line without quotes nest as its parentheses do. -/
theorem nests_tokens {depth : Nat} {text : List Char} (unquoted : '"' ∉ text)
    (single : '\n' ∉ text) (balanced : closes depth text = true) : Nests depth (tokens text) := by
  fun_induction tokens text generalizing depth with
  | case1 =>
    rw [closes_nil] at balanced
    subst balanced
    exact .done
  | case2 c rest token after h _ ih =>
    obtain ⟨inside, rfl, ⟨rfl, _⟩ | ⟨rfl, found⟩⟩ := longToken_eq_some h
    · exact absurd List.mem_cons_self unquoted
    · obtain ⟨body, rfl, plain⟩ := groupTail_eq_concat found
      have shape : '(' :: rest = '(' :: (body ++ ')' :: after) := by
        rw [longToken_eq_append h]
        simp
      rw [shape] at unquoted single balanced
      rw [closes_group plain] at balanced
      simp only [List.mem_cons, List.mem_append, not_or] at unquoted single
      exact .verbatim (.group plain single.2.1) (ih unquoted.2.2.2 single.2.2.2 balanced)
  | case3 c rest h token found ih =>
    rw [List.mem_cons, not_or] at unquoted single
    exact nests_ofChar found h balanced fun depth => ih unquoted.2 single.2
  | case4 c rest h found ih =>
    rw [List.mem_cons, not_or] at single
    exact absurd (ofChar_eq_none found).symm single.1

/-! ## The depth counter -/

/-- The depth that the counter has reached behind a row of tokens, from `depth` on. -/
def depthBehind (depth : Nat) (row : List Token) : Nat := row.foldl depthAfter depth

/-- Tokens that nest bring the depth to zero. -/
theorem Nests.depthBehind {depth : Nat} {row : List Token} (h : Nests depth row) :
    depthBehind depth row = 0 := by
  induction h with
  | done => rfl
  | opening _ _ ih | closing _ ih | comma _ ih | blank _ ih | verbatim _ _ ih => exact ih

/-- Among tokens that nest, none closes at depth zero. -/
theorem Nests.depthBehind_pos {depth : Nat} {row before after : List Token} (h : Nests depth row)
    (closing : row = before ++ .closing :: after) : 0 < Layout.depthBehind depth before := by
  induction h generalizing before with
  | done => cases before <;> cases closing
  | closing _ ih =>
    cases before with
    | nil => exact Nat.succ_pos _
    | cons token rest =>
      cases closing
      exact @ih rest rfl
  | opening _ _ ih | comma _ ih | blank _ ih | verbatim _ _ ih =>
    cases before with
    | nil => cases closing
    | cons token rest =>
      cases closing
      exact @ih rest rfl

end Layout

end CallForm

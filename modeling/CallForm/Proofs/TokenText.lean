-- The text of compiled form, cut into its tokens. Whatever its names hold,
-- the text is its tokens in a row with blanks between them, and a number
-- never holds a mark.
import CallForm.Proofs.CallSpelling

namespace CallForm

/-! ## Numbers -/

/-- The characters that number literals are written with. -/
def isNumberChar (c : Char) : Bool := c.isDigit || "-.eNainf".toList.contains c

theorem IsDigits.numberChars {digits : List Char} (h : IsDigits digits) :
    ∀ c ∈ digits, isNumberChar c = true := by
  intro c found
  rw [isNumberChar, h.2 c found, Bool.true_or]

theorem IsNumberText.numberChars {text : List Char} (h : IsNumberText text) :
    ∀ c ∈ text, isNumberChar c = true := by
  obtain ⟨whole, fraction, exponent, hwhole, hfraction, hexponent, rfl⟩ := h
  have inFraction : ∀ c ∈ fraction, isNumberChar c = true := by
    rcases hfraction with rfl | ⟨digits, hdigits, rfl⟩
    · exact fun c found => absurd found List.not_mem_nil
    · exact List.forall_mem_cons.mpr ⟨by decide, hdigits.numberChars⟩
  have inExponent : ∀ c ∈ exponent, isNumberChar c = true := by
    rcases hexponent with rfl | ⟨sign, digits, hsign, hdigits, rfl⟩
    · exact fun c found => absurd found List.not_mem_nil
    · refine List.forall_mem_cons.mpr ⟨by decide, List.forall_mem_append.mpr ⟨?_, ?_⟩⟩
      · rcases hsign with rfl | rfl <;> simp [isNumberChar]
      · exact hdigits.numberChars
  exact List.forall_mem_append.mpr
    ⟨hwhole.numberChars, List.forall_mem_append.mpr ⟨inFraction, inExponent⟩⟩

/-- Numbers are written with few characters, with or without a sign, finite or not. -/
theorem Fragment.numberChars (value : Number) :
    ∀ c ∈ (Fragment.number value).toList, isNumberChar c = true := by
  obtain ⟨text, same, htext⟩ := Fragment.number_shape value
  rw [same]
  refine List.forall_mem_append.mpr ⟨?_, ?_⟩
  · cases value.isSigned <;> simp [isNumberChar]
  · rcases htext with number | rfl | rfl
    · exact number.numberChars
    · exact List.all_eq_true.mp rfl
    · exact List.all_eq_true.mp rfl

/-- A number is written with at least one character. -/
theorem Fragment.number_ne_nil (value : Number) : (Fragment.number value).toList ≠ [] := by
  obtain ⟨text, same, htext⟩ := Fragment.number_shape value
  have nonempty : text ≠ [] := by
    rcases htext with ⟨whole, fraction, exponent, hwhole, _, _, rfl⟩ | rfl | rfl
    · simp [hwhole.1]
    · decide
    · decide
  simp [same, nonempty]

/-- Numbers hold no mark. -/
theorem Fragment.number_unmarked (value : Number) :
    tagMark ∉ (Fragment.number value).toList := by
  intro found
  have written := Fragment.numberChars value _ found
  revert written
  decide

/-! ## The text of tokens -/

/-- The text of a token. -/
def CallToken.text : CallToken → String
  | .symbol head => head.render
  | .number lexeme => lexeme
  | .string value => Fragment.quoted value
  | .operator op => op.text
  | .not => "!"
  | .opening => "("
  | .closing => ")"
  | .comma => ","

theorem CallToken.text_ofPrefix (op : PrefixOperator) :
    (CallToken.ofPrefix op).text = op.text := by
  cases op <;> rfl

/-- A text is the texts of tokens in a row, with any number of blanks between them. -/
inductive Row : List Char → List CallToken → Prop
  | nil : Row [] []
  | blank {text : List Char} {tokens : List CallToken} : Row text tokens → Row (' ' :: text) tokens
  | token {text : List Char} {tokens : List CallToken} (token : CallToken) :
    Row text tokens → Row (token.text.toList ++ text) (token :: tokens)

namespace Row

theorem append {text more : List Char} {tokens others : List CallToken} (h : Row text tokens)
    (hmore : Row more others) : Row (text ++ more) (tokens ++ others) := by
  induction h with
  | nil => exact hmore
  | blank _ ih => exact .blank ih
  | token token _ ih =>
    rw [List.append_assoc]
    exact .token token ih

theorem single (token : CallToken) : Row token.text.toList [token] := by
  have alone := Row.token token .nil
  rwa [List.append_nil] at alone

theorem group {text : List Char} {tokens : List CallToken} (h : Row text tokens) :
    Row ('(' :: (text ++ [')'])) (.opening :: (tokens ++ [.closing])) :=
  .token .opening (h.append (.single .closing))

end Row

open CallToken

mutual

/-- The text of compiled form is its tokens in a row. -/
theorem Ir.row_render : ∀ ir : Ir, Row ir.render.toList ir.tokens
  | .symbol head => .single (.symbol head)
  | .number value => .single (.number (Fragment.number value))
  | .string value => .single (.string value)
  | .call head args => by
    have inner := (Ir.row_renderAll args).group
    simpa [render, tokens, Fragment.call, CallToken.text] using Row.token (.symbol head) inner
  | .between left op right grouped => by
    have inner := left.row_render.append (.blank (.token (.operator op) (.blank right.row_render)))
    cases grouped with
    | false => simpa [render, tokens, Fragment.between, CallToken.text] using inner
    | true =>
      simpa [render, tokens, Fragment.between, Fragment.group, CallToken.text] using inner.group
  | .before op operand grouped => by
    have head (text : List Char) (words : List CallToken) (h : Row text words) :
        Row (op.text.toList ++ text) (ofPrefix op :: words) := by
      rw [← text_ofPrefix]
      exact .token _ h
    have inner := operand.row_render
    cases grouped with
    | false => simpa [render, tokens, Fragment.before] using head _ _ inner
    | true => simpa [render, tokens, Fragment.before, Fragment.group] using head _ _ inner.group
  | .group inner => by
    simpa [render, tokens, Fragment.group] using inner.row_render.group
  | .sequence items => by
    simpa [render, tokens] using Ir.row_renderAll items

theorem Ir.row_renderAll : ∀ items : List Ir,
    Row (Fragment.join (Ir.renderAll items)).toList (commas (Ir.tokensOf items))
  | [] => .nil
  | [item] => item.row_render
  | item :: next :: rest => by
    have later := Row.token .comma (.blank (Ir.row_renderAll (next :: rest)))
    simpa [renderAll, tokensOf, Fragment.join, commas, CallToken.text]
      using item.row_render.append later

end

end CallForm

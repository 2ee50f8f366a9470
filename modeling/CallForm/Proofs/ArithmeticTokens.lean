-- The tokens of an arithmetic text as a relation between the two. Blanks part
-- tokens, a number goes on as long as digits do, and a star that another star
-- follows is half a power. A text is cut into tokens exactly if it is made of
-- the characters of arithmetic, and then in one way only.
import CallForm.Proofs.ArithmeticGrammar
import CallForm.Proofs.NumberText

namespace CallForm

namespace Arithmetic

/-! ## Texts that are cut into tokens -/

/-- The characters of arithmetic texts. -/
def isArithmeticCharacter (c : Char) : Bool :=
  c == ' ' || c.isDigit || ['+', '-', '*', '/', '%', '(', ')'].contains c

/-- A token as it is found in a text: a number has at least one digit, and digits alone. -/
def IsWord : ArithmeticToken → Prop
  | .number digits => IsDigits digits
  | _ => True

/-- What may follow a token that ends where it does. -/
def EndsBefore (rest : List Char) : ArithmeticToken → Prop
  | .number _ => startsWithDigit rest = false
  | .operator .mul => rest.head? ≠ some '*'
  | _ => True

/-- A text that is written with tokens, in order. -/
inductive WrittenWith : List Char → List ArithmeticToken → Prop
  | nil : WrittenWith [] []
  | blank {rest : List Char} {words : List ArithmeticToken} : WrittenWith rest words →
      WrittenWith (' ' :: rest) words
  | token {rest : List Char} {words : List ArithmeticToken} (token : ArithmeticToken) :
      IsWord token → EndsBefore rest token → WrittenWith rest words →
      WrittenWith (token.text.toList ++ rest) (token :: words)

theorem WrittenWith.number {digits rest : List Char} {words : List ArithmeticToken}
    (word : IsDigits digits) (ends : startsWithDigit rest = false) (h : WrittenWith rest words) :
    WrittenWith (digits ++ rest) (.number digits :: words) := by
  have written := WrittenWith.token (.number digits) word ends h
  rwa [ArithmeticToken.text, String.toList_ofList] at written

/-! ## What is written is found -/

theorem tokens_blank (rest : List Char) : tokens (' ' :: rest) = tokens rest := by
  rw [tokens]
  · exact if_pos rfl
  · intro _ same _
    cases same

theorem tokens_mul {rest : List Char} (h : rest.head? ≠ some '*') :
    tokens ('*' :: rest) = (tokens rest).map (.operator .mul :: ·) := by
  rw [tokens]
  · rfl
  · rintro others _ rfl
    exact h rfl

/-- A token is found in front of whatever does not go on with it. -/
theorem tokens_token {token : ArithmeticToken} (word : IsWord token) {rest : List Char}
    (ends : EndsBefore rest token) :
    tokens (token.text.toList ++ rest) = (tokens rest).map (token :: ·) := by
  cases token with
  | number digits =>
    rw [ArithmeticToken.text, String.toList_ofList]
    exact tokens_digits word.1 word.2 ends
  | opening => exact tokens_opening rest
  | closing => exact tokens_closing rest
  | operator op =>
    cases op with
    | mul => exact tokens_mul ends
    | add | sub | div | mod | pow => simp [ArithmeticToken.text, ArithmeticOperator.symbol, tokens]

theorem WrittenWith.tokens_eq {text : List Char} {words : List ArithmeticToken}
    (h : WrittenWith text words) : tokens text = .ok words := by
  induction h with
  | nil => rfl
  | blank _ ih => rw [tokens_blank, ih]
  | token _ word ends _ ih =>
    rw [tokens_token word ends, ih]
    rfl

/-! ## What is found is written -/

/-- A digit in front of a text belongs to the number that the text starts with, or it is one. -/
theorem WrittenWith.digit {text : List Char} {words : List ArithmeticToken}
    (h : WrittenWith text words) {c : Char} (digit : c.isDigit = true) :
    WrittenWith (c :: text) (consDigit c (startsWithDigit text) words) := by
  by_cases touching : startsWithDigit text = true
  · cases h with
    | nil | blank => cases touching
    | token token word ends others =>
      cases token with
      | number digits =>
        rw [touching, ArithmeticToken.text, String.toList_ofList]
        have longer : IsDigits (c :: digits) :=
          ⟨List.cons_ne_nil _ _, List.forall_mem_cons.mpr ⟨digit, word.2⟩⟩
        exact .number longer ends others
      | opening | closing => cases touching
      | operator op => cases op <;> cases touching
  · have apart := Bool.eq_false_iff.mpr touching
    have single : IsDigits [c] := ⟨List.cons_ne_nil _ _, by simpa using digit⟩
    rw [apart, consDigit_apart]
    exact .number single apart h

theorem writtenWith_of_map (token : ArithmeticToken) {rest : List Char}
    {words : List ArithmeticToken} (word : IsWord token) (ends : EndsBefore rest token)
    (later : ∀ {words}, tokens rest = .ok words → WrittenWith rest words)
    (h : (tokens rest).map (token :: ·) = .ok words) :
    WrittenWith (token.text.toList ++ rest) words := by
  obtain ⟨others, found, rfl⟩ := map_eq_ok.mp h
  exact .token token word ends (later found)

theorem writtenWith_of_tokens {text : List Char} {words : List ArithmeticToken}
    (h : tokens text = .ok words) : WrittenWith text words := by
  fun_induction tokens text generalizing words with
  | case1 =>
    cases h
    exact .nil
  | case2 rest ih => exact writtenWith_of_map (.operator .pow) trivial trivial ih h
  | case3 rest _ ih => exact .blank (ih h)
  | case4 rest _ _ ih => exact writtenWith_of_map (.operator .add) trivial trivial ih h
  | case5 rest _ _ _ ih => exact writtenWith_of_map (.operator .sub) trivial trivial ih h
  | case6 rest single _ _ _ ih =>
    have ends : rest.head? ≠ some '*' := by
      intro star
      obtain ⟨tail, same⟩ := List.head?_eq_some_iff.mp star
      exact single tail rfl same
    exact writtenWith_of_map (.operator .mul) trivial ends ih h
  | case7 rest _ _ _ _ _ ih =>
    exact writtenWith_of_map (.operator .div) trivial trivial ih h
  | case8 rest _ _ _ _ _ _ ih =>
    exact writtenWith_of_map (.operator .mod) trivial trivial ih h
  | case9 rest _ _ _ _ _ _ _ ih =>
    exact writtenWith_of_map .opening trivial trivial ih h
  | case10 rest _ _ _ _ _ _ _ _ ih =>
    exact writtenWith_of_map .closing trivial trivial ih h
  | case11 c rest _ _ _ _ _ _ _ _ _ digit ih =>
    obtain ⟨others, found, rfl⟩ := map_eq_ok.mp h
    exact (ih found).digit digit
  | case12 => cases h

/-! ## Which texts are written with tokens -/

theorem IsWord.arithmetic {token : ArithmeticToken} (word : IsWord token) :
    ∀ c ∈ token.text.toList, isArithmeticCharacter c = true := by
  cases token with
  | number digits =>
    intro c found
    rw [ArithmeticToken.text, String.toList_ofList] at found
    simp [isArithmeticCharacter, word.2 c found]
  | opening | closing => exact List.all_eq_true.mp rfl
  | operator op => cases op <;> exact List.all_eq_true.mp rfl

theorem exists_tokens {text : List Char} (h : ∀ c ∈ text, isArithmeticCharacter c = true) :
    ∃ words, tokens text = .ok words := by
  fun_induction tokens text with
  | case1 => exact ⟨[], rfl⟩
  | case3 rest _ ih => exact ih fun c later => h c (List.mem_cons_of_mem _ later)
  | case12 c rest _ blank add sub mul div mod opening closing digit =>
    have first := h c List.mem_cons_self
    simp [isArithmeticCharacter, blank, digit, add, sub, mul, div, mod, opening, closing] at first
  | _ =>
    rename_i ih
    obtain ⟨words, found⟩ := ih fun c later => h c (by simp [later])
    exact ⟨_, by rw [found]; rfl⟩

theorem WrittenWith.arithmetic {text : List Char} {words : List ArithmeticToken}
    (h : WrittenWith text words) : ∀ c ∈ text, isArithmeticCharacter c = true := by
  induction h with
  | nil => simp
  | blank _ ih => exact List.forall_mem_cons.mpr ⟨rfl, ih⟩
  | token _ word _ _ ih =>
    exact List.forall_mem_append.mpr ⟨word.arithmetic, ih⟩

/-- A text is written with tokens, in one way, exactly if all of its characters are those of
arithmetic. -/
theorem existsUnique_writtenWith_iff {text : List Char} :
    (∃! words, WrittenWith text words) ↔ ∀ c ∈ text, isArithmeticCharacter c = true := by
  constructor
  · rintro ⟨words, written, _⟩
    exact written.arithmetic
  · intro h
    obtain ⟨words, found⟩ := exists_tokens h
    refine ⟨words, writtenWith_of_tokens found, ?_⟩
    intro other written
    exact Except.ok.inj (written.tokens_eq.symm.trans found)

end Arithmetic

end CallForm

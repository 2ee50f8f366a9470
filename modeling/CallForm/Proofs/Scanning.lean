-- The scanner on the texts of arithmetic expressions: digits, operators
-- between blanks and parentheses are cut into the tokens that they look like,
-- whatever stands before them and behind them.
import CallForm.Proofs.Digits
import CallForm.Proofs.Phrase
import CallForm.Source.Scan

namespace CallForm

namespace Scan

/-! ## Lexemes -/

/-- A text that no number or operator goes on with. -/
inductive Apart : List Char → Prop
  | nil : Apart []
  | blank (rest : List Char) : Apart (' ' :: rest)
  | closing (rest : List Char) : Apart (')' :: rest)
  | line (rest : List Char) : Apart ('\n' :: rest)

theorem decimalRun_digits {digits : List Char} (h : ∀ c ∈ digits, c.isDigit = true)
    {rest : List Char} (stop : Apart rest) (afterDigit : Bool) :
    decimalRun afterDigit (digits ++ rest) = (digits, rest) := by
  induction digits generalizing afterDigit with
  | nil => cases stop <;> simp [decimalRun]
  | cons c others ih =>
    have inner := ih (fun d found => h d (List.mem_cons_of_mem _ found)) true
    simp [decimalRun, h c List.mem_cons_self, inner]

theorem decimalLiteral_digits {digits : List Char} (h : IsDigits digits) {rest : List Char}
    (stop : Apart rest) :
    decimalLiteral (digits ++ rest) = (.integer (String.ofList digits), digits, rest) := by
  unfold decimalLiteral
  rw [decimalRun_digits h.2 stop false]
  cases stop <;> simp [exponent, oneOf]

theorem radixDigits?_digit {c : Char} (h : c.isDigit = true) : radixDigits? c = none := by
  simp [radixDigits?, ne_of_isDigit h 'x' rfl, ne_of_isDigit h 'X' rfl, ne_of_isDigit h 'o' rfl,
    ne_of_isDigit h 'O' rfl, ne_of_isDigit h 'b' rfl, ne_of_isDigit h 'B' rfl]

theorem radixLiteral?_digits {digits : List Char} (h : IsDigits digits) {rest : List Char}
    (stop : Apart rest) : radixLiteral? (digits ++ rest) = none := by
  unfold radixLiteral?
  split
  · rename_i letter others shape
    have noRadix : radixDigits? letter = none := by
      rcases digits with _ | ⟨first, _ | ⟨second, more⟩⟩
      · exact absurd rfl h.1
      · cases stop <;> cases shape <;> rfl
      · cases shape
        exact radixDigits?_digit (h.2 letter (by simp))
    rw [noRadix]
  · rfl

theorem number?_digits {digits : List Char} (h : IsDigits digits) {rest : List Char}
    (stop : Apart rest) :
    number? (digits ++ rest) = some (.integer (String.ofList digits), digits, rest) := by
  have radix := radixLiteral?_digits h stop
  have decimal := decimalLiteral_digits h stop
  obtain ⟨c, others, rfl⟩ := List.exists_cons_of_ne_nil h.1
  have digit := h.2 c List.mem_cons_self
  have noPoint := ne_of_isDigit digit '.' rfl
  rw [List.cons_append] at radix decimal ⊢
  simp [number?, noPoint, digit, radix, decimal]

theorem quotes?_eq_none {c : Char} (letter : isStringLetter c = false) (quote : isQuote c = false)
    (rest : List Char) : quotes? (c :: rest) = none := by
  simp [quotes?, letter, quote]

theorem lexeme?_digits {digits : List Char} (h : IsDigits digits) {rest : List Char}
    (stop : Apart rest) (fuel : Nat) :
    lexeme? (fuel + 1) (digits ++ rest) =
      some (.integer (String.ofList digits), digits, rest) := by
  have found := number?_digits h stop
  obtain ⟨c, others, rfl⟩ := List.exists_cons_of_ne_nil h.1
  have digit := h.2 c List.mem_cons_self
  have letter : isStringLetter c = false := by
    rw [isStringLetter, List.contains_eq_any_beq, List.any_eq_false]
    intro mark found
    have other : mark.isDigit = false := (by simp : ∀ mark ∈ "fFrRbBuU".toList,
      mark.isDigit = false) mark found
    simpa using ne_of_isDigit digit mark other
  have quote : isQuote c = false := by
    simp [isQuote, ne_of_isDigit digit '"' rfl, ne_of_isDigit digit '\'' rfl]
  rw [List.cons_append] at found ⊢
  rw [lexeme?, quotes?_eq_none letter quote]
  simp [isIdentifierStart_of_isDigit digit, found]

/-- Whether a character starts neither a string, nor a word, nor a number. -/
def startsMark (c : Char) : Bool :=
  !(isStringLetter c || isQuote c || isIdentifierStart c || c.isDigit || c == '.')

theorem lexeme?_mark {c : Char} (starts : startsMark c = true) {rest : List Char} {mark : Mark}
    {size : Nat} (found : mark? (c :: rest) = some (mark, size)) (fuel : Nat) :
    lexeme? (fuel + 1) (c :: rest) =
      some (.mark mark, (c :: rest).take size, (c :: rest).drop size) := by
  simp only [startsMark, Bool.not_eq_true', Bool.or_eq_false_iff, beq_eq_false_iff_ne] at starts
  obtain ⟨⟨⟨⟨letter, quote⟩, word⟩, digit⟩, point⟩ := starts
  have noNumber : number? (c :: rest) = none := by
    simp [number?, digit, point]
  rw [lexeme?, quotes?_eq_none letter quote]
  simp [word, noNumber, found]

/-! ## Runs of tokens -/

/-- At a place the scanner cuts a text into tokens and comes to `rest` behind it. -/
def Cuts (place : Cursor) (text rest : List Char) (tokens : List Token) : Prop :=
  ∀ fuel, (text ++ rest).length ≤ fuel → ∃ left, rest.length ≤ left ∧
    pieces? fuel place (text ++ rest) =
      (pieces? left (place.afterAll text) rest).map (tokens.map .token ++ ·)

/-- One run behind another is a run. -/
theorem Cuts.trans {place : Cursor} {text middle rest : List Char} {before after : List Token}
    (h : Cuts place text (middle ++ rest) before)
    (h' : Cuts (place.afterAll text) middle rest after) :
    Cuts place (text ++ middle) rest (before ++ after) := by
  intro fuel enough
  rw [List.append_assoc] at enough ⊢
  obtain ⟨left, enough, found⟩ := h fuel enough
  obtain ⟨left, enough, found'⟩ := h' left enough
  refine ⟨left, enough, ?_⟩
  rw [found, found', place.afterAll_append]
  cases pieces? left ((place.afterAll text).afterAll middle) rest <;> simp

/-- Whether a character starts a token: it neither parts tokens nor starts a comment or a joined
line. -/
def startsToken (c : Char) : Bool := !(c == '\n' || isBlank c || c == '#' || c == '\\')

theorem startsToken_digit {c : Char} (h : c.isDigit = true) : startsToken c = true := by
  have bounds := digit_bounds h
  have blank : isBlank c = false := by
    simp [isBlank, blankRanges]
    omega
  simp [startsToken, blank, ne_of_isDigit h '\n' rfl, ne_of_isDigit h '#' rfl,
    ne_of_isDigit h '\\' rfl]

theorem Cuts.one {c : Char} (starts : startsToken c = true) {others rest : List Char}
    {lexeme : Lexeme}
    (found : ∀ fuel, lexeme? (fuel + 1) (c :: others ++ rest) = some (lexeme, c :: others, rest))
    (place : Cursor) :
    Cuts place (c :: others) rest [⟨lexeme, place.span (c :: others)⟩] := by
  intro fuel enough
  rw [List.cons_append, List.length_cons] at enough
  obtain ⟨fuel, rfl⟩ : ∃ less, fuel = less + 1 := ⟨fuel - 1, by omega⟩
  simp only [startsToken, Bool.not_eq_true', Bool.or_eq_false_iff] at starts
  obtain ⟨⟨⟨line, blank⟩, comment⟩, joined⟩ := starts
  refine ⟨fuel, by rw [List.length_append] at enough; omega, ?_⟩
  have first : lexeme? (3 * ((others ++ rest).length + 2)) (c :: (others ++ rest)) =
      some (lexeme, c :: others, rest) := found (3 * (others ++ rest).length + 5)
  simp only [List.cons_append, pieces?, line, blank, comment, joined, first, Bool.false_eq_true,
    ↓reduceIte, Option.bind_eq_bind, Option.bind_some]
  cases pieces? fuel (place.afterAll (c :: others)) rest <;> rfl

theorem Cuts.mark {c : Char} (starts : startsToken c = true) (mark : startsMark c = true)
    {others rest : List Char} {found : Mark}
    (found? : mark? (c :: others ++ rest) = some (found, others.length + 1)) (place : Cursor) :
    Cuts place (c :: others) rest [⟨.mark found, place.span (c :: others)⟩] := by
  refine .one starts (fun fuel => ?_) place
  rw [List.cons_append] at found? ⊢
  rw [lexeme?_mark mark found?]
  simp

theorem Cuts.blank (rest : List Char) (place : Cursor) : Cuts place [' '] rest [] := by
  intro fuel enough
  obtain ⟨fuel, rfl⟩ : ∃ less, fuel = less + 1 := ⟨fuel - 1, by simp at enough; omega⟩
  refine ⟨fuel, by simpa using enough, ?_⟩
  have blank : isBlank ' ' = true := by decide
  simp [pieces?, blank, Cursor.afterAll]

theorem Cuts.digits {digits : List Char} (h : IsDigits digits) {rest : List Char}
    (stop : Apart rest) (place : Cursor) :
    Cuts place digits rest [⟨.integer (String.ofList digits), place.span digits⟩] := by
  have found := lexeme?_digits h stop
  obtain ⟨c, others, rfl⟩ := List.exists_cons_of_ne_nil h.1
  exact .one (startsToken_digit (h.2 c List.mem_cons_self)) found place

theorem Cuts.opening (rest : List Char) (place : Cursor) :
    Cuts place ['('] rest [⟨.mark (.opening .round), place.span ['(']⟩] :=
  .mark (by decide) (by decide) rfl place

theorem Cuts.closing (rest : List Char) (place : Cursor) :
    Cuts place [')'] rest [⟨.mark (.closing .round), place.span [')']⟩] :=
  .mark (by decide) (by decide) rfl place

theorem Cuts.minus {next : Char} (equals : next ≠ '=') (arrow : next ≠ '>') (rest : List Char)
    (place : Cursor) :
    Cuts place ['-'] (next :: rest) [⟨.mark (.binary .sub), place.span ['-']⟩] := by
  have found : mark? ('-' :: next :: rest) = some (.binary .sub, 1) := by
    simp [mark?, equals, arrow]
  exact .mark (by decide) (by decide) found place

open Grammar

/-- An operator of the grammar in front of a blank. -/
theorem Cuts.operator {level left right : Level} {op : BinaryOperator}
    (rule : OperatorRule level left op right) (rest : List Char) (place : Cursor) :
    Cuts place op.text.toList (' ' :: rest) [⟨.mark (.binary op), place.span op.text.toList⟩] := by
  have known := rule.mem
  simp only [List.mem_cons, List.not_mem_nil, or_false] at known
  rcases known with rfl | rfl | rfl | rfl | rfl | rfl <;>
    exact .mark (by decide) (by decide) rfl place

/-! ## Expressions -/

/-- At a place and behind it, up to the end of the line, `point` tells the points of the bytes. -/
def Tells (point : Nat → Point) (place : Cursor) : Prop :=
  ∀ text : List Char, '\n' ∉ text → point (place.afterAll text).byte = (place.afterAll text).point

theorem Tells.afterAll {point : Nat → Point} {place : Cursor} (h : Tells point place)
    {text : List Char} (oneLine : '\n' ∉ text) : Tells point (place.afterAll text) := by
  intro more oneLine'
  rw [← place.afterAll_append]
  exact h _ (by simp [oneLine, oneLine'])

theorem Tells.span {point : Nat → Point} {place : Cursor} (h : Tells point place)
    (text : List Char) : place.span text = spanAt point place.byte text := by
  have here : point place.byte = place.point := h [] (by simp)
  rw [spanAt, here]
  rfl

/-- The text of an expression is cut into tokens that the grammar derives the same node from. -/
theorem cuts_expression {point : Nat → Point} {level : Level} {start : Nat} {text : List Char}
    {node : SyntaxNode} (h : Expression point level start text node) {place : Cursor}
    (tells : Tells point place) (here : place.byte = start) {rest : List Char}
    (stop : Apart rest) : ∃ words, Phrase level words node ∧ Cuts place text rest words := by
  induction h generalizing place rest with
  | integer start value =>
    subst here
    rw [← tells.span]
    exact ⟨_, .integer _ _, .digits (isDigits_toDigits value) stop place⟩
  | @parenthesized start text inner inside ih =>
    subst here
    have tells' : Tells point (place.afterAll ['(']) := tells.afterAll (by simp)
    have here' : (place.afterAll ['(']).byte = place.byte + 1 := place.byte_afterAll ['(']
    obtain ⟨words, phrase, cuts⟩ := ih tells' here' (.closing rest)
    have tells'' := tells'.afterAll inside.oneLine
    have here'' : ((place.afterAll ['(']).afterAll text).byte = place.byte + 1 + byteCount text :=
      by rw [Cursor.byte_afterAll, here']
    refine ⟨_, ?_, (Cuts.opening _ place).trans (cuts.trans (.closing rest _))⟩
    rw [← tells.span, ← here'', ← tells''.span]
    exact .parenthesized _ _ phrase
  | @unary start text operand inner ih =>
    subst here
    have tells' : Tells point (place.afterAll ['-']) := tells.afterAll (by simp)
    have here' : (place.afterAll ['-']).byte = place.byte + 1 := place.byte_afterAll ['-']
    obtain ⟨words, phrase, cuts⟩ := ih tells' here' stop
    obtain ⟨c, others, rfl, equals, arrow⟩ := inner.head
    refine ⟨_, ?_, (Cuts.minus equals arrow _ place).trans cuts⟩
    rw [← tells.span]
    exact .unary _ phrase
  | @binary level left right op start before after l r rule hl hr ihLeft ihRight =>
    subst here
    have one : byteCount [' '] = 1 := rfl
    have tells' : Tells point ((place.afterAll before).afterAll [' ']) :=
      (tells.afterAll hl.oneLine).afterAll (by simp)
    have here' : ((place.afterAll before).afterAll [' ']).byte =
        place.byte + byteCount before + 1 := by
      rw [Cursor.byte_afterAll, Cursor.byte_afterAll, one]
    have tells'' : Tells point
        ((((place.afterAll before).afterAll [' ']).afterAll op.text.toList).afterAll [' ']) :=
      (tells'.afterAll rule.oneLine).afterAll (by simp)
    obtain ⟨words, phrase, cuts⟩ :=
      ihLeft tells rfl (.blank (op.text.toList ++ ' ' :: after ++ rest))
    obtain ⟨words', phrase', cuts'⟩ := ihRight tells''
      (by rw [Cursor.byte_afterAll, Cursor.byte_afterAll, here', one]; omega) stop
    refine ⟨_, ?_, cuts.trans ((Cuts.blank _ _).trans ((Cuts.operator rule _ _).trans
      ((Cuts.blank _ _).trans cuts')))⟩
    rw [← here', ← tells'.span]
    exact .binary _ rule phrase phrase'
  | tighter level _ ih =>
    obtain ⟨words, phrase, cuts⟩ := ih tells here stop
    exact ⟨words, .tighter level phrase, cuts⟩

/-! ## Words and lines -/

theorem lexeme?_word {c : Char} {others rest : List Char}
    (noString : quotes? (c :: (others ++ rest)) = none) (start : isIdentifierStart c = true)
    (parts : ∀ d ∈ c :: others, isIdentifierPart d = true)
    (stop : ∀ d, rest.head? = some d → isIdentifierPart d = false) (fuel : Nat) :
    lexeme? (fuel + 1) (c :: (others ++ rest)) =
      some (wordLexeme (String.ofList (c :: others)), c :: others, rest) := by
  obtain ⟨taken, left⟩ := span_append parts stop
  rw [List.cons_append] at taken left
  rw [lexeme?, noString]
  simp only [start, ↓reduceIte, taken, left]

/-- A word that the next character ends. -/
theorem Cuts.word {c next : Char} {others : List Char} (rest : List Char)
    (noString : quotes? (c :: (others ++ next :: rest)) = none)
    (starts : (startsToken c && isIdentifierStart c) = true)
    (parts : (c :: others).all isIdentifierPart = true) (stop : isIdentifierPart next = false)
    (place : Cursor) :
    Cuts place (c :: others) (next :: rest)
      [⟨wordLexeme (String.ofList (c :: others)), place.span (c :: others)⟩] := by
  obtain ⟨token, start⟩ := (Bool.and_eq_true _ _).mp starts
  have ends : ∀ d, (next :: rest).head? = some d → isIdentifierPart d = false := by
    intro d first
    cases first
    exact stop
  exact .one token (lexeme?_word noString start (List.all_eq_true.mp parts) ends) place

theorem pieces?_line (fuel : Nat) (place : Cursor) (rest : List Char) :
    pieces? (fuel + 1) place ('\n' :: rest) =
      (pieces? fuel (place.after '\n') rest).map (.line (indentation 0 rest) :: ·) := by
  simp [pieces?]

end Scan

end CallForm

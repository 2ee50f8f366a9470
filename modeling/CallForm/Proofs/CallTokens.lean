-- The tokens of compiled text, read character by character and without a
-- word on how the text was made. Every kind of token is read as itself in
-- front of whatever cannot touch it.
import CallForm.Decimal.Numeral
import CallForm.Ir.Basic
import CallForm.Proofs.Digits

namespace CallForm

/-! ## Tokens -/

/-- A token of compiled text. The operator `-` stands between two operands or in front of one. -/
inductive CallToken
  | symbol (head : Symbol)
  | number (lexeme : String)
  | string (value : String)
  | operator (op : InfixOperator)
  | not
  | opening
  | closing
  | comma
deriving Repr, DecidableEq

/-- A name that can be read as one symbol. -/
def isIdentifier (name : String) : Bool :=
  match name.toList with
  | [] => false
  | c :: rest => isIdentifierStart c && rest.all isIdentifierPart

namespace CallToken

/-! ## Reading one token -/

/-- A word of decimal digits at the start of a text, and what follows. -/
def readWord (text : List Char) : Option (UInt32 × List Char) :=
  let digits := text.takeWhile Char.isDigit
  if digits.isEmpty then none
  else
    (Word.unsigned32? (natOfDigits digits)).map fun word => (word, text.dropWhile Char.isDigit)

/-- The tag that a text starts with, if it starts with a mark, and what follows. -/
def readTag : List Char → Option (Option Position × List Char)
  | '$' :: rest => do
    let (line, rest) ← readWord rest
    match rest with
    | '$' :: rest => do
      let (column, rest) ← readWord rest
      some (some ⟨line, column⟩, rest)
    | _ => none
  | rest => some (none, rest)

/-- The symbol that starts with a character, and what follows. -/
def readSymbol (c : Char) (rest : List Char) : Option (CallToken × List Char) :=
  (readTag (rest.dropWhile isIdentifierPart)).map fun (tag, rest') =>
    (.symbol ⟨String.ofList (c :: rest.takeWhile isIdentifierPart), tag⟩, rest')

/-- The point and the digits after it at the start of a text, if there are any. -/
def fractionOf : List Char → List Char
  | '.' :: rest =>
    let digits := rest.takeWhile Char.isDigit
    if digits.isEmpty then [] else '.' :: digits
  | _ => []

/-- The sign and the digits of an exponent, if there are any. -/
def signedDigitsOf : List Char → List Char
  | '-' :: rest =>
    let digits := rest.takeWhile Char.isDigit
    if digits.isEmpty then [] else '-' :: digits
  | text => text.takeWhile Char.isDigit

/-- The exponent of ten at the start of a text, if there is any. -/
def exponentOf : List Char → List Char
  | 'e' :: rest =>
    let digits := signedDigitsOf rest
    if digits.isEmpty then [] else 'e' :: digits
  | _ => []

/-- The number at the start of a text: digits, a fraction if there is one, and an exponent if there
is one. -/
def numberOf (text : List Char) : List Char :=
  let whole := text.takeWhile Char.isDigit
  let rest := text.dropWhile Char.isDigit
  let fraction := fractionOf rest
  whole ++ fraction ++ exponentOf (rest.drop fraction.length)

/-- The inside of a string literal up to its closing quote, without its backslashes, and what
follows. -/
def readString : List Char → Option (List Char × List Char)
  | [] => none
  | '"' :: rest => some ([], rest)
  | '\\' :: c :: rest => (readString rest).map fun (value, after) => (c :: value, after)
  | '\\' :: [] => none
  | c :: rest => (readString rest).map fun (value, after) => (c :: value, after)

/-- The mark that starts with a character, the longer of two that do, and what follows. -/
def readMark : Char → List Char → Option (CallToken × List Char)
  | '(', rest => some (.opening, rest)
  | ')', rest => some (.closing, rest)
  | ',', rest => some (.comma, rest)
  | '*', '*' :: rest => some (.operator .pow, rest)
  | '<', '=' :: rest => some (.operator .le, rest)
  | '>', '=' :: rest => some (.operator .ge, rest)
  | '=', '=' :: rest => some (.operator .eq, rest)
  | '!', '=' :: rest => some (.operator .ne, rest)
  | '+', rest => some (.operator .add, rest)
  | '-', rest => some (.operator .sub, rest)
  | '*', rest => some (.operator .mul, rest)
  | '/', rest => some (.operator .div, rest)
  | '%', rest => some (.operator .mod, rest)
  | '<', rest => some (.operator .lt, rest)
  | '>', rest => some (.operator .gt, rest)
  | '!', rest => some (.not, rest)
  | _, _ => none

/-- The token that starts with a character, and what follows. -/
def readOne (c : Char) (rest : List Char) : Option (CallToken × List Char) :=
  if isIdentifierStart c then readSymbol c rest
  else if c.isDigit then
    let lexeme := numberOf (c :: rest)
    some (.number (String.ofList lexeme), (c :: rest).drop lexeme.length)
  else if c = '"' then
    (readString rest).map fun (value, after) => (.string (String.ofList value), after)
  else readMark c rest

/-! ## Reading all tokens -/

theorem readWord_length {text after : List Char} {word : UInt32}
    (h : readWord text = some (word, after)) : after.length ≤ text.length := by
  unfold readWord at h
  dsimp only at h
  split at h
  · cases h
  · obtain ⟨_, _, same⟩ := Option.map_eq_some_iff.mp h
    cases same
    exact (List.dropWhile_suffix _).length_le

theorem readTag_length {text after : List Char} {tag : Option Position}
    (h : readTag text = some (tag, after)) : after.length ≤ text.length := by
  unfold readTag at h
  split at h
  · rename_i rest
    obtain ⟨⟨line, middle⟩, hline, h⟩ := Option.bind_eq_some_iff.mp h
    dsimp only at h
    split at h
    · rename_i rest
      obtain ⟨⟨column, last⟩, hcolumn, same⟩ := Option.bind_eq_some_iff.mp h
      cases same
      have := readWord_length hline
      have := readWord_length hcolumn
      simp only [List.length_cons] at *
      omega
    · cases h
  · cases h
    exact Nat.le_refl _

theorem readString_length {text value after : List Char}
    (h : readString text = some (value, after)) : after.length < text.length := by
  fun_induction readString text generalizing value with
  | case1 => cases h
  | case2 rest =>
    cases h
    simp
  | case3 c rest ih =>
    obtain ⟨⟨inner, last⟩, found, same⟩ := Option.map_eq_some_iff.mp h
    cases same
    have := ih found
    simp only [List.length_cons]
    omega
  | case4 => cases h
  | case5 c rest _ _ _ ih =>
    obtain ⟨⟨inner, last⟩, found, same⟩ := Option.map_eq_some_iff.mp h
    cases same
    have := ih found
    simp only [List.length_cons]
    omega

theorem readMark_length {c : Char} {rest after : List Char} {token : CallToken}
    (h : readMark c rest = some (token, after)) : after.length ≤ rest.length := by
  unfold readMark at h
  split at h <;> cases h <;> simp

theorem readOne_length {c : Char} {rest after : List Char} {token : CallToken}
    (h : readOne c rest = some (token, after)) : after.length ≤ rest.length := by
  unfold readOne at h
  split at h
  · obtain ⟨⟨tag, last⟩, found, same⟩ := Option.map_eq_some_iff.mp h
    cases same
    have := readTag_length found
    have := (List.dropWhile_suffix (l := rest) isIdentifierPart).length_le
    omega
  · split at h
    · rename_i digit
      cases h
      have : 0 < (numberOf (c :: rest)).length := by
        simp [numberOf, digit]
      simp only [List.length_drop, List.length_cons]
      omega
    · split at h
      · obtain ⟨⟨value, last⟩, found, same⟩ := Option.map_eq_some_iff.mp h
        cases same
        exact Nat.le_of_lt (readString_length found)
      · exact readMark_length h

/-- The tokens of a text; blanks only part them. -/
def readAll : List Char → Option (List CallToken)
  | [] => some []
  | c :: rest =>
    if c.isWhitespace then readAll rest
    else
      match h : readOne c rest with
      | some (token, after) =>
        have := readOne_length h
        (readAll after).map (token :: ·)
      | none => none
termination_by text => text.length
decreasing_by all_goals simp only [List.length_cons]; omega

theorem readAll_blank {c : Char} (h : c.isWhitespace = true) (rest : List Char) :
    readAll (c :: rest) = readAll rest := by
  rw [readAll, if_pos h]

theorem readAll_token {c : Char} {rest after : List Char} {token : CallToken}
    (h : c.isWhitespace = false) (found : readOne c rest = some (token, after)) :
    readAll (c :: rest) = (readAll after).map (token :: ·) := by
  rw [readAll, if_neg (by simp [h])]
  split
  · rename_i found'
    rw [found] at found'
    cases found'
    rfl
  · rename_i found'
    rw [found] at found'
    cases found'

/-! ## Characters -/

theorem isWhitespace_of_isDigit {c : Char} (h : c.isDigit = true) : c.isWhitespace = false := by
  rw [Bool.eq_false_iff]
  intro blank
  simp only [Char.isWhitespace, Bool.or_eq_true, decide_eq_true_eq] at blank
  rcases blank with ((rfl | rfl) | rfl) | rfl <;> cases h

theorem isWhitespace_of_isIdentifierStart {c : Char} (h : isIdentifierStart c = true) :
    c.isWhitespace = false := by
  rw [Bool.eq_false_iff]
  intro blank
  simp only [Char.isWhitespace, Bool.or_eq_true, decide_eq_true_eq] at blank
  rcases blank with ((rfl | rfl) | rfl) | rfl <;> cases h

/-! ## Symbols -/

/-- A text that does not go on with a symbol before it. -/
def PartsSymbol (rest : List Char) : Prop :=
  ∀ c, rest.head? = some c → isIdentifierPart c = false ∧ c ≠ tagMark

theorem PartsSymbol.noDigit {rest : List Char} (h : PartsSymbol rest) :
    ∀ c, rest.head? = some c → c.isDigit = false := by
  intro c first
  rw [Bool.eq_false_iff]
  intro digit
  have := (h c first).1
  rw [isIdentifierPart_of_isDigit digit] at this
  cases this

theorem readWord_digits (word : UInt32) {rest : List Char}
    (stop : ∀ c, rest.head? = some c → c.isDigit = false) :
    readWord (Nat.toDigits 10 word.toNat ++ rest) = some (word, rest) := by
  have digits := isDigits_toDigits word.toNat
  obtain ⟨taken, left⟩ := span_append digits.2 stop
  have small : (word.toNat : Int).toNat ≤ Word.max32 := by
    have := word.toNat_lt
    rw [Word.max32, Int.toNat_natCast]
    omega
  unfold readWord
  rw [taken, left]
  dsimp only
  rw [if_neg (by simp [digits.1]), natOfDigits_toDigits, Word.unsigned32?,
    if_pos ⟨Int.natCast_nonneg _, small⟩]
  simp

theorem readTag_mark (pos : Position) {rest : List Char} (h : PartsSymbol rest) :
    readTag (pos.mark.toList ++ rest) = some (some pos, rest) := by
  have text : pos.mark.toList ++ rest =
      '$' :: (Nat.toDigits 10 pos.line.toNat ++
        '$' :: (Nat.toDigits 10 pos.column.toNat ++ rest)) := by
    simp [Position.mark]
  have line : readWord (Nat.toDigits 10 pos.line.toNat ++
        '$' :: (Nat.toDigits 10 pos.column.toNat ++ rest)) =
      some (pos.line, '$' :: (Nat.toDigits 10 pos.column.toNat ++ rest)) :=
    readWord_digits pos.line (by simp)
  have column := readWord_digits pos.column h.noDigit
  rw [text]
  simp [readTag, line, column]

theorem readTag_none {rest : List Char} (h : PartsSymbol rest) :
    readTag rest = some (none, rest) := by
  unfold readTag
  split
  · exact absurd rfl (h _ rfl).2
  · rfl

theorem readOne_symbol {c : Char} {name after rest : List Char} {tag : Option Position}
    (first : isIdentifierStart c = true) (others : name.all isIdentifierPart = true)
    (stop : ∀ c, after.head? = some c → isIdentifierPart c = false)
    (htag : readTag after = some (tag, rest)) :
    readOne c (name ++ after) = some (.symbol ⟨String.ofList (c :: name), tag⟩, rest) := by
  obtain ⟨taken, left⟩ := span_append (List.all_eq_true.mp others) stop
  rw [readOne, if_pos first, readSymbol, taken, left, htag]
  rfl

/-- A symbol is read as itself in front of whatever parts it. -/
theorem readAll_symbol {head : Symbol} (h : isIdentifier head.name = true) {rest : List Char}
    (parts : PartsSymbol rest) :
    readAll (head.render.toList ++ rest) = (readAll rest).map (.symbol head :: ·) := by
  obtain ⟨name, tag⟩ := head
  unfold isIdentifier at h
  rcases found : name.toList with _ | ⟨c, others⟩
  · simp [found] at h
  · simp only [found, Bool.and_eq_true] at h
    have same : String.ofList (c :: others) = name := by
      rw [← found, String.ofList_toList]
    have blank := isWhitespace_of_isIdentifierStart h.1
    cases tag with
    | none =>
      have text : (Symbol.render ⟨name, none⟩).toList ++ rest = c :: (others ++ rest) := by
        simp [Symbol.render, found]
      have read := readOne_symbol h.1 h.2 (fun d first => (parts d first).1) (readTag_none parts)
      rw [text, readAll_token blank read, same]
    | some pos =>
      have text : (Symbol.render ⟨name, some pos⟩).toList ++ rest =
          c :: (others ++ (pos.mark.toList ++ rest)) := by
        simp [Symbol.render, Position.tag, found]
      have marked : ∀ d, (pos.mark.toList ++ rest).head? = some d →
          isIdentifierPart d = false := by
        intro d first
        simp [Position.mark] at first
        rw [← first]
        rfl
      rw [text, readAll_token blank (readOne_symbol h.1 h.2 marked (readTag_mark pos parts)), same]

/-! ## Literals -/

/-- A text that does not go on with digits before it, or with a fraction. -/
def PartsDigits (rest : List Char) : Prop :=
  ∀ c, rest.head? = some c → c.isDigit = false ∧ c ≠ '.'

/-- A text that does not go on with a number before it. -/
def PartsNumber (rest : List Char) : Prop :=
  PartsDigits rest ∧ rest.head? ≠ some 'e'

theorem span_digits {digits rest : List Char} (h : IsDigits digits) (parts : PartsDigits rest) :
    (digits ++ rest).takeWhile Char.isDigit = digits ∧
      (digits ++ rest).dropWhile Char.isDigit = rest :=
  span_append h.2 fun c first => (parts c first).1

theorem signedDigitsOf_append {sign digits rest : List Char} (hsign : sign = [] ∨ sign = ['-'])
    (h : IsDigits digits) (parts : PartsDigits rest) :
    signedDigitsOf (sign ++ digits ++ rest) = sign ++ digits := by
  have taken := (span_digits h parts).1
  rcases hsign with rfl | rfl
  · unfold signedDigitsOf
    split
    · rename_i same
      rcases digits with _ | ⟨d, others⟩
      · exact absurd rfl h.1
      · have digit := h.2 d List.mem_cons_self
        cases same
        cases digit
    · exact taken
  · simp [signedDigitsOf, taken, h.1]

theorem exponentOf_append {exponent rest : List Char} (h : IsExponent exponent)
    (parts : PartsNumber rest) : exponentOf (exponent ++ rest) = exponent := by
  rcases h with rfl | ⟨sign, digits, hsign, hdigits, rfl⟩
  · unfold exponentOf
    split
    · rename_i same
      rw [List.nil_append] at same
      exact absurd (congrArg List.head? same) parts.2
    · rfl
  · have taken := signedDigitsOf_append hsign hdigits parts.1
    rw [List.cons_append, exponentOf, taken]
    simp [hdigits.1]

theorem fractionOf_append {fraction rest : List Char} (h : IsFraction fraction)
    (parts : PartsDigits rest) : fractionOf (fraction ++ rest) = fraction := by
  rcases h with rfl | ⟨digits, hdigits, rfl⟩
  · unfold fractionOf
    split
    · rename_i same
      rw [List.nil_append] at same
      exact absurd rfl (parts '.' (congrArg List.head? same)).2
    · rfl
  · have taken := (span_digits hdigits parts).1
    simp [fractionOf, taken, hdigits.1]

/-- The text of a number literal is read to its end. -/
theorem numberOf_append {text rest : List Char} (h : IsNumberText text)
    (parts : PartsNumber rest) : numberOf (text ++ rest) = text := by
  obtain ⟨whole, fraction, exponent, hwhole, hfraction, hexponent, rfl⟩ := h
  have afterFraction : PartsDigits (exponent ++ rest) := by
    rcases hexponent with rfl | ⟨_, _, _, _, rfl⟩
    · exact parts.1
    · intro c first
      cases first
      exact ⟨rfl, by decide⟩
  have afterWhole : ∀ c, (fraction ++ (exponent ++ rest)).head? = some c → c.isDigit = false := by
    rcases hfraction with rfl | ⟨_, _, rfl⟩
    · exact fun c first => (afterFraction c first).1
    · intro c first
      cases first
      rfl
  obtain ⟨taken, left⟩ := span_append hwhole.2 afterWhole
  have shape : whole ++ (fraction ++ exponent) ++ rest =
      whole ++ (fraction ++ (exponent ++ rest)) := by simp
  unfold numberOf
  rw [shape, taken, left]
  dsimp only
  rw [fractionOf_append hfraction afterFraction, List.drop_left, exponentOf_append hexponent parts,
    List.append_assoc]

theorem readAll_number {text rest : List Char} (h : IsNumberText text)
    (parts : PartsNumber rest) :
    readAll (text ++ rest) = (readAll rest).map (.number (String.ofList text) :: ·) := by
  have first : ∃ c others, text = c :: others ∧ c.isDigit = true := by
    obtain ⟨whole, fraction, exponent, hwhole, _, _, rfl⟩ := h
    rcases whole with _ | ⟨c, others⟩
    · exact absurd rfl hwhole.1
    · exact ⟨c, others ++ (fraction ++ exponent), rfl, hwhole.2 c List.mem_cons_self⟩
  obtain ⟨c, others, rfl, digit⟩ := first
  have taken := numberOf_append h parts
  rw [List.cons_append] at taken ⊢
  refine readAll_token (isWhitespace_of_isDigit digit) ?_
  rw [readOne, if_neg (by simp [isIdentifierStart_of_isDigit digit]), if_pos digit]
  dsimp only
  rw [taken, ← List.cons_append, List.drop_left]

theorem readString_escape (value rest : List Char) :
    readString (Fragment.escape value ++ '"' :: rest) = some (value, rest) := by
  induction value with
  | nil => rfl
  | cons c others ih =>
    rw [Fragment.escape]
    split
    · simp [readString, ih]
    · rename_i plain
      rw [not_or] at plain
      rw [List.cons_append, readString]
      · rw [ih]
        rfl
      · exact plain.1
      · exact fun _ _ same _ => plain.2 same
      · exact fun same _ => plain.2 same

theorem readAll_string (value : String) (rest : List Char) :
    readAll ((Fragment.quoted value).toList ++ rest) =
      (readAll rest).map (.string value :: ·) := by
  have text : (Fragment.quoted value).toList ++ rest =
      '"' :: (Fragment.escape value.toList ++ '"' :: rest) := by
    simp [Fragment.quoted]
  have read : readOne '"' (Fragment.escape value.toList ++ '"' :: rest) =
      some (.string value, rest) := by
    rw [readOne, if_neg (by decide), if_neg (by decide), if_pos rfl, readString_escape]
    simp
  rw [text]
  exact readAll_token rfl read

/-! ## Marks -/

theorem readAll_opening (rest : List Char) :
    readAll ('(' :: rest) = (readAll rest).map (.opening :: ·) :=
  readAll_token rfl rfl

theorem readAll_closing (rest : List Char) :
    readAll (')' :: rest) = (readAll rest).map (.closing :: ·) :=
  readAll_token rfl rfl

theorem readAll_comma (rest : List Char) :
    readAll (',' :: ' ' :: rest) = (readAll rest).map (.comma :: ·) := by
  rw [readAll_token rfl rfl, readAll_blank rfl]

/-- An operator between blanks is read as itself. -/
theorem readAll_operator (op : InfixOperator) (rest : List Char) :
    readAll (' ' :: (op.text.toList ++ ' ' :: rest)) = (readAll rest).map (.operator op :: ·) := by
  have mark : ∃ c after, op.text.toList = c :: after ∧ c.isWhitespace = false ∧
      readOne c (after ++ ' ' :: rest) = some (.operator op, ' ' :: rest) := by
    cases op <;> exact ⟨_, _, rfl, rfl, rfl⟩
  obtain ⟨c, after, text, blank, found⟩ := mark
  rw [readAll_blank rfl, text, List.cons_append, readAll_token blank found, readAll_blank rfl]

/-- A minus sign in front of an operand reads like one between operands. -/
def ofPrefix : PrefixOperator → CallToken
  | .neg => .operator .sub
  | .not => .not

theorem readAll_prefix (op : PrefixOperator) {rest : List Char} (h : rest.head? ≠ some '=') :
    readAll (op.text.toList ++ rest) = (readAll rest).map (ofPrefix op :: ·) := by
  cases op with
  | neg => exact readAll_token rfl rfl
  | not =>
    have mark : readOne '!' rest = some (.not, rest) := by
      rw [readOne, if_neg (by decide), if_neg (by decide), if_neg (by decide), readMark]
      all_goals simp
      rintro tail rfl
      exact h rfl
    exact readAll_token rfl mark

end CallToken

end CallForm

-- Cutting a source text into tokens, line ends and the indentation after
-- each of them.
import CallForm.Source.Token
import CallForm.Text.Identifier

namespace CallForm

namespace Scan

/-! ## Blanks -/

/-- The ranges of blanks that may stand between tokens, beside the line end. -/
def blankRanges : List (Nat × Nat) :=
  [(0x09, 0x09), (0x0b, 0x0d), (0x20, 0x20), (0x85, 0x85), (0xa0, 0xa0), (0x1680, 0x1680),
    (0x2000, 0x200b), (0x2028, 0x2029), (0x202f, 0x202f), (0x205f, 0x2060), (0x3000, 0x3000),
    (0xfeff, 0xfeff)]

/-- Whether a character is a blank between tokens. -/
def isBlank (c : Char) : Bool :=
  blankRanges.any fun range => range.1 ≤ c.toNat && c.toNat ≤ range.2

/-- The indentation that a line starts with, after `width` columns of it: a tab is eight columns,
a form feed and a carriage return start again. -/
def indentation (width : Nat) : List Char → Nat
  | ' ' :: rest => indentation (width + 1) rest
  | '\t' :: rest => indentation (width + 8) rest
  | '\r' :: rest | '\x0c' :: rest => indentation 0 rest
  | '\\' :: '\n' :: rest => indentation width rest
  | _ => width

/-! ## Names -/

/-- The words that are no names. -/
def reservedWords : List String :=
  ["False", "None", "True", "and", "as", "assert", "async", "await", "break", "class", "continue",
    "def", "del", "elif", "else", "except", "finally", "for", "from", "global", "if", "import",
    "in", "is", "lambda", "nonlocal", "not", "or", "pass", "raise", "return", "try", "while",
    "with", "yield"]

/-- A word as a keyword or a name. -/
def wordLexeme (text : String) : Lexeme :=
  if reservedWords.contains text then .keyword text else .name text

/-! ## Numbers -/

/-- Decimal digits with at most one underscore after each of them. -/
def decimalRun (afterDigit : Bool) : List Char → List Char × List Char
  | [] => ([], [])
  | c :: rest =>
    if c.isDigit then
      let (run, after) := decimalRun true rest
      (c :: run, after)
    else if c == '_' && afterDigit then
      let (run, after) := decimalRun false rest
      (c :: run, after)
    else ([], c :: rest)

/-- Digits of some kind with at most one underscore before each of them. -/
def radixRun (isDigit : Char → Bool) : List Char → List Char × List Char
  | '_' :: c :: rest =>
    if isDigit c then
      let (run, after) := radixRun isDigit rest
      ('_' :: c :: run, after)
    else ([], '_' :: c :: rest)
  | c :: rest =>
    if isDigit c then
      let (run, after) := radixRun isDigit rest
      (c :: run, after)
    else ([], c :: rest)
  | [] => ([], [])

/-- One character of a set, if the text goes on with one. -/
def oneOf (set : List Char) : List Char → List Char × List Char
  | c :: rest => if set.contains c then ([c], rest) else ([], c :: rest)
  | [] => ([], [])

/-- An exponent, if the text goes on with a whole one. -/
def exponent (text : List Char) : List Char × List Char :=
  match oneOf ['e', 'E'] text with
  | ([], _) => ([], text)
  | (letter, rest) =>
    let (sign, rest) := oneOf ['+', '-'] rest
    match decimalRun false rest with
    | ([], _) => ([], text)
    | (digits, after) => (letter ++ sign ++ digits, after)

/-- The digits that a radix letter asks for. -/
def radixDigits? (letter : Char) : Option (Char → Bool) :=
  if letter = 'x' ∨ letter = 'X' then
    some fun c => c.isDigit || ('a' ≤ c && c ≤ 'f') || ('A' ≤ c && c ≤ 'F')
  else if letter = 'o' ∨ letter = 'O' then some fun c => '0' ≤ c && c ≤ '7'
  else if letter = 'b' ∨ letter = 'B' then some fun c => c == '0' || c == '1'
  else none

/-- The rest of a literal that has a point, from after the point on: digits, an exponent and an
imaginary unit. -/
def afterPoint (text : List Char) : List Char × List Char :=
  let (fraction, rest) := decimalRun false text
  let (exponent, rest) := exponent rest
  let (suffix, after) := oneOf ['j', 'J'] rest
  (fraction ++ exponent ++ suffix, after)

/-- A decimal literal. -/
def decimalLiteral (text : List Char) : Lexeme × List Char × List Char :=
  let (whole, rest) := decimalRun false text
  match rest with
  | '.' :: rest =>
    let (fraction, after) := afterPoint rest
    let written := whole ++ '.' :: fraction
    (.float (String.ofList written), written, after)
  | _ =>
    match exponent rest with
    | ([], _) =>
      let (suffix, after) := oneOf ['l', 'L', 'j', 'J'] rest
      let written := whole ++ suffix
      (.integer (String.ofList written), written, after)
    | (exponent, rest) =>
      let (suffix, after) := oneOf ['j', 'J'] rest
      let written := whole ++ exponent ++ suffix
      (.float (String.ofList written), written, after)

/-- An integer literal with a radix prefix, if the text goes on with one. -/
def radixLiteral? : List Char → Option (Lexeme × List Char × List Char)
  | '0' :: letter :: rest =>
    match radixDigits? letter with
    | none => none
    | some isDigit =>
      match radixRun isDigit rest with
      | ([], _) => none
      | (digits, rest) =>
        let (suffix, after) := oneOf ['l', 'L'] rest
        let written := '0' :: letter :: digits ++ suffix
        some (.integer (String.ofList written), written, after)
  | _ => none

/-- The number literal that a text starts with: the lexeme, its text and what follows. -/
def number? (text : List Char) : Option (Lexeme × List Char × List Char) :=
  match text with
  | '.' :: c :: rest =>
    if c.isDigit then
      let (fraction, after) := afterPoint (c :: rest)
      let written := '.' :: fraction
      some (.float (String.ofList written), written, after)
    else none
  | c :: _ =>
    if c.isDigit then some ((radixLiteral? text).getD (decimalLiteral text)) else none
  | [] => none

/-! ## Marks -/

/-- The longest mark that a text starts with, and how many characters it has. -/
def mark? : List Char → Option (Mark × Nat)
  | '*' :: '*' :: '=' :: _ => some (.augment .pow, 3)
  | '/' :: '/' :: '=' :: _ => some (.augment .floorDiv, 3)
  | '<' :: '<' :: '=' :: _ => some (.augment .leftShift, 3)
  | '>' :: '>' :: '=' :: _ => some (.augment .rightShift, 3)
  | '.' :: '.' :: '.' :: _ => some (.ellipsis, 3)
  | '*' :: '*' :: _ => some (.binary .pow, 2)
  | '/' :: '/' :: _ => some (.binary .floorDiv, 2)
  | '<' :: '<' :: _ => some (.binary .leftShift, 2)
  | '>' :: '>' :: _ => some (.binary .rightShift, 2)
  | '+' :: '=' :: _ => some (.augment .add, 2)
  | '-' :: '=' :: _ => some (.augment .sub, 2)
  | '*' :: '=' :: _ => some (.augment .mult, 2)
  | '/' :: '=' :: _ => some (.augment .div, 2)
  | '%' :: '=' :: _ => some (.augment .mod, 2)
  | '@' :: '=' :: _ => some (.augment .matMult, 2)
  | '|' :: '=' :: _ => some (.augment .bitOr, 2)
  | '^' :: '=' :: _ => some (.augment .bitXor, 2)
  | '&' :: '=' :: _ => some (.augment .bitAnd, 2)
  | '-' :: '>' :: _ => some (.arrow, 2)
  | ':' :: '=' :: _ => some (.walrus, 2)
  | '=' :: '=' :: _ => some (.compare .eq, 2)
  | '!' :: '=' :: _ => some (.compare .ne, 2)
  | '<' :: '>' :: _ => some (.compare .ne, 2)
  | '<' :: '=' :: _ => some (.compare .le, 2)
  | '>' :: '=' :: _ => some (.compare .ge, 2)
  | '<' :: _ => some (.compare .lt, 1)
  | '>' :: _ => some (.compare .gt, 1)
  | '+' :: _ => some (.binary .add, 1)
  | '-' :: _ => some (.binary .sub, 1)
  | '*' :: _ => some (.binary .mult, 1)
  | '/' :: _ => some (.binary .div, 1)
  | '%' :: _ => some (.binary .mod, 1)
  | '@' :: _ => some (.binary .matMult, 1)
  | '|' :: _ => some (.binary .bitOr, 1)
  | '^' :: _ => some (.binary .bitXor, 1)
  | '&' :: _ => some (.binary .bitAnd, 1)
  | '~' :: _ => some (.invert, 1)
  | '(' :: _ => some (.opening .round, 1)
  | '[' :: _ => some (.opening .square, 1)
  | '\x7b' :: _ => some (.opening .curly, 1)
  | ')' :: _ => some (.closing .round, 1)
  | ']' :: _ => some (.closing .square, 1)
  | '\x7d' :: _ => some (.closing .curly, 1)
  | ',' :: _ => some (.comma, 1)
  | ':' :: _ => some (.colon, 1)
  | ';' :: _ => some (.semicolon, 1)
  | '.' :: _ => some (.dot, 1)
  | '=' :: _ => some (.equals, 1)
  | _ => none

/-- How a lexeme changes the number of open brackets. -/
def depthAfter (depth : Nat) : Lexeme → Nat
  | .mark (.opening _) => depth + 1
  | .mark (.closing _) => depth - 1
  | _ => depth

/-! ## Strings -/

/-- How a string literal is quoted. -/
structure Quotes where
  char : Char
  triple : Bool
  raw : Bool
  format : Bool

/-- Whether a character may stand in front of the quotes of a string. -/
def isStringLetter (c : Char) : Bool := "fFrRbBuU".toList.contains c

/-- Whether a character is a quote. -/
def isQuote (c : Char) : Bool := c == '"' || c == '\''

/-- The quotes that a text starts with, after the letters in front of them, and what follows. -/
def quotes? (text : List Char) : Option (Quotes × List Char) :=
  let letters := text.takeWhile isStringLetter
  let raw := letters.any fun c => c == 'r' || c == 'R'
  let format := letters.any fun c => c == 'f' || c == 'F'
  match text.dropWhile isStringLetter with
  | c :: rest =>
    if isQuote c then
      match rest with
      | d :: e :: after =>
        if d == c && e == c then some (⟨c, true, raw, format⟩, after)
        else some (⟨c, false, raw, format⟩, rest)
      | _ => some (⟨c, false, raw, format⟩, rest)
    else none
  | [] => none

/-- What follows the closing quotes, if the text starts with them. -/
def closing? (q : Quotes) (text : List Char) : Option (List Char) :=
  if q.triple then
    match text with
    | a :: b :: c :: rest => if a == q.char && b == q.char && c == q.char then some rest else none
    | _ => none
  else
    match text with
    | a :: rest => if a == q.char then some rest else none
    | [] => none

/-- What follows a string literal, from inside of it on. -/
def plainTail (q : Quotes) : List Char → Option (List Char)
  | [] => none
  | '\\' :: '\r' :: '\n' :: rest => plainTail q rest
  | '\\' :: _ :: rest => plainTail q rest
  | c :: rest =>
    match closing? q (c :: rest) with
    | some after => some after
    | none => if c == '\n' && !q.triple then none else plainTail q rest

/-- What follows an escape in a format string, from after its backslash on. In front of a brace
and, in a raw string, of most characters the backslash stands for itself. -/
def afterEscape (q : Quotes) : List Char → List Char
  | '\r' :: '\n' :: rest => rest
  | c :: rest =>
    if c == '\x7b' || c == '\x7d' then c :: rest
    else if q.raw then if c == q.char || c == '\\' || c == '\n' then rest else c :: rest
    else if c == 'N' && rest.head? == some '\x7b' then
      (rest.dropWhile (· != '\x7d')).drop 1
    else rest
  | [] => []

/-- Whether the text after an equals sign ends a replacement field, so that the sign asks for the
field's own text. -/
def endsField (text : List Char) : Bool :=
  match text.dropWhile isBlank with
  | '\x7d' :: _ | ':' :: _ => true
  | '!' :: c :: _ => c != '='
  | _ => false

mutual

/-- The lexeme at the start of a text, its text and what follows. The fuel bounds the number of
steps inside a format string; three times the length of the text is enough. -/
def lexeme? : Nat → List Char → Option (Lexeme × List Char × List Char)
  | 0, _ => none
  | fuel + 1, text =>
    match quotes? text with
    | some (q, inside) => do
      let (fields, after) ←
        if q.format then formatTail q fuel inside
        else (plainTail q inside).map fun after => ([], after)
      let written := text.take (text.length - after.length)
      some (.string (String.ofList written) fields, written, after)
    | none =>
      match text with
      | [] => none
      | c :: _ =>
        if isIdentifierStart c then
          let word := text.takeWhile isIdentifierPart
          some (wordLexeme (String.ofList word), word, text.dropWhile isIdentifierPart)
        else
          match number? text with
          | some found => some found
          | none =>
            (mark? text).map fun (mark, size) => (.mark mark, text.take size, text.drop size)

/-- The replacement fields of a format string and what follows it, from inside of it on. -/
def formatTail (q : Quotes) : Nat → List Char → Option (List (List Lexeme) × List Char)
  | 0, _ => none
  | fuel + 1, text =>
    match closing? q text with
    | some after => some ([], after)
    | none =>
      match text with
      | [] => none
      | '\x7b' :: '\x7b' :: rest => formatTail q fuel rest
      | '\x7d' :: '\x7d' :: rest => formatTail q fuel rest
      | '\x7d' :: _ => none
      | '\x7b' :: rest => do
        let (field, after) ← fieldTail q 0 fuel rest
        let (fields, after) ← formatTail q fuel after
        some (field ++ fields, after)
      | '\\' :: rest => formatTail q fuel (afterEscape q rest)
      | c :: rest => if c == '\n' && !q.triple then none else formatTail q fuel rest

/-- A replacement field from inside of it on, with the fields of its format after it, and what
follows. -/
def fieldTail (q : Quotes) (depth : Nat) :
    Nat → List Char → Option (List (List Lexeme) × List Char)
  | 0, _ => none
  | fuel + 1, text =>
    match text with
    | [] => none
    | c :: rest =>
      if c == '\n' || isBlank c then fieldTail q depth fuel rest
      else if c == '#' then fieldTail q depth fuel (rest.dropWhile (· != '\n'))
      else if depth = 0 ∧ c = '\x7d' then some ([[]], rest)
      else if depth = 0 ∧ c = ':' then do
        let (fields, after) ← formatSpec q fuel rest
        some ([] :: fields, after)
      else if depth = 0 ∧ c = '=' ∧ endsField rest then fieldTail q depth fuel rest
      else if depth = 0 ∧ c = '!' ∧ rest.head? ≠ some '=' then
        match rest with
        | letter :: after =>
          if 'a' ≤ letter ∧ letter ≤ 'z' ∧ endsField after then fieldTail q depth fuel after
          else none
        | [] => none
      else do
        let (lexeme, _, after) ← lexeme? fuel text
        let (fields, after) ← fieldTail q (depthAfter depth lexeme) fuel after
        match fields with
        | field :: others => some ((lexeme :: field) :: others, after)
        | [] => none

/-- The replacement fields inside the format of a field, and what follows that field. -/
def formatSpec (q : Quotes) : Nat → List Char → Option (List (List Lexeme) × List Char)
  | 0, _ => none
  | fuel + 1, text =>
    match text with
    | [] => none
    | '\x7d' :: rest => some ([], rest)
    | '\x7b' :: rest => do
      let (field, after) ← fieldTail q 0 fuel rest
      let (fields, after) ← formatSpec q fuel after
      some (field ++ fields, after)
    | c :: rest => if c == '\n' && !q.triple then none else formatSpec q fuel rest

end

/-! ## The whole text -/

/-- A token, or a line end with the indentation of the line after it. -/
inductive Piece
  | token (token : Token)
  | line (indent : Nat)

/-- The pieces of a text from a place on; nothing if some part of it is no token. The length of
the text is enough fuel. -/
def pieces? : Nat → Cursor → List Char → Option (List Piece)
  | _, _, [] => some []
  | 0, _, _ => none
  | fuel + 1, place, c :: rest =>
    if c == '\n' then
      (pieces? fuel (place.after c) rest).map (.line (indentation 0 rest) :: ·)
    else if isBlank c then pieces? fuel (place.after c) rest
    else if c == '#' then
      pieces? fuel ((place.after c).afterAll (rest.takeWhile (· != '\n')))
        (rest.dropWhile (· != '\n'))
    else if c == '\\' then
      match rest with
      | '\n' :: rest => pieces? fuel ((place.after c).after '\n') rest
      | '\r' :: '\n' :: rest => pieces? fuel (((place.after c).after '\r').after '\n') rest
      | _ => none
    else do
      let (lexeme, written, after) ← lexeme? (3 * (rest.length + 2)) (c :: rest)
      let others ← pieces? fuel (place.afterAll written) after
      some (.token ⟨lexeme, place.span written⟩ :: others)

end Scan

end CallForm

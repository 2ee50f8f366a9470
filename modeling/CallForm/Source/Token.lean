-- The tokens that a source file is made of, and where they stand.
import CallForm.Source.SyntaxNode
import CallForm.Tree.Operator

namespace CallForm

/-- The kinds of brackets. -/
inductive Bracket
  | round | square | curly
deriving Repr, DecidableEq

/-- The operators and delimiters. -/
inductive Mark
  | binary (op : BinaryOperator)
  | augment (op : BinaryOperator)
  | compare (op : Comparison)
  | invert
  | opening (bracket : Bracket)
  | closing (bracket : Bracket)
  | comma | colon | semicolon | dot | ellipsis | equals | walrus | arrow
deriving Repr, DecidableEq

/-- What a token is. A string literal keeps its prefix and quotes, and if it is a format string
also the tokens of each of its replacement fields. -/
inductive Lexeme
  | name (text : String)
  | keyword (text : String)
  | integer (text : String)
  | float (text : String)
  | string (text : String) (fields : List (List Lexeme))
  | mark (mark : Mark)
  | newline
  | indent
  | dedent

mutual

/-- How many tokens a lexeme is made of: those inside a format string count, too. -/
def Lexeme.size : Lexeme → Nat
  | .string _ fields => 1 + Lexeme.sizeOfFields fields
  | _ => 1

/-- How many tokens a replacement field is made of, and one for its end. -/
def Lexeme.sizeOfField : List Lexeme → Nat
  | [] => 1
  | lexeme :: rest => lexeme.size + Lexeme.sizeOfField rest

/-- How many tokens several replacement fields are made of, with their ends. -/
def Lexeme.sizeOfFields : List (List Lexeme) → Nat
  | [] => 0
  | field :: rest => Lexeme.sizeOfField field + Lexeme.sizeOfFields rest

end

/-- A token and the part of the text that it covers. -/
structure Token where
  lexeme : Lexeme
  span : Span

/-- A place in a source text: its row and column, and how many bytes stand in front of it. -/
structure Cursor where
  row : Nat
  column : Nat
  byte : Nat
deriving Repr, DecidableEq, Inhabited

namespace Cursor

/-- The place where a text starts. -/
def start : Cursor := ⟨0, 0, 0⟩

/-- The place after a character: a column is a byte. -/
def after (place : Cursor) (c : Char) : Cursor :=
  if c = '\n' then ⟨place.row + 1, 0, place.byte + c.utf8Size⟩
  else ⟨place.row, place.column + c.utf8Size, place.byte + c.utf8Size⟩

/-- The place after several characters. -/
def afterAll (place : Cursor) (text : List Char) : Cursor := text.foldl after place

theorem afterAll_append (place : Cursor) (front rest : List Char) :
    place.afterAll (front ++ rest) = (place.afterAll front).afterAll rest :=
  List.foldl_append

/-- A place counts the bytes of the text in front of it. -/
theorem byte_afterAll (place : Cursor) (text : List Char) :
    (place.afterAll text).byte = place.byte + byteCount text := by
  induction text generalizing place with
  | nil => rfl
  | cons c rest ih =>
    have one : (place.after c).byte = place.byte + c.utf8Size := by
      unfold after
      split <;> rfl
    change ((place.after c).afterAll rest).byte = _
    rw [ih, one, byteCount_cons]
    omega

/-- The point of a place: rows and columns are counted in 32 bits. -/
def point (place : Cursor) : Point := ⟨place.row % UInt32.size, place.column % UInt32.size⟩

/-- The span of a text that starts at a place. -/
def span (place : Cursor) (text : List Char) : Span :=
  ⟨place.point, place.byte, place.byte + byteCount text⟩

end Cursor

end CallForm

-- String literals of the compiled text, read back. Only a quote and a
-- backslash are written with a backslash in front, and those two are taken
-- back alike by whatever resolves escapes and by whatever looks for the end
-- of a literal.
import CallForm.Proofs.Literals
import CallForm.Source.Literal

namespace CallForm

/-! ## Escapes that are resolved -/

namespace Literal

/-- An escaped quote or backslash stands for itself. -/
theorem unescape_escaped {c : Char} (h : c = '"' ∨ c = '\\') (rest : List Char) :
    unescape ('\\' :: c :: rest) = c :: unescape rest := by
  rcases h with rfl | rfl <;> rw [unescape]

/-- Whatever is no backslash stands for itself. -/
theorem unescape_plain {c : Char} (h : c ≠ '\\') (rest : List Char) :
    unescape (c :: rest) = c :: unescape rest := by
  rw [unescape]
  intro next others same _
  exact h same

/-- Resolving escapes gives back what was escaped. -/
theorem unescape_escape (text : List Char) : unescape (Fragment.escape text) = text := by
  induction text with
  | nil => rfl
  | cons c rest ih =>
    unfold Fragment.escape
    by_cases h : c = '"' ∨ c = '\\'
    · rw [if_pos h, unescape_escaped h, ih]
    · rw [if_neg h, unescape_plain fun same => h (.inr same), ih]

end Literal

/-! ## Literals that are tokens -/

/-- A string literal is an escaped text between two quotes. -/
theorem Fragment.toList_quoted (value : String) :
    (quoted value).toList = '"' :: (escape value.toList ++ ['"']) := by
  simp [quoted]

namespace Layout

/-- A string literal is one token, whatever follows it. -/
theorem longToken_quoted (value : String) (rest : List Char) :
    longToken '"' (Fragment.escape value.toList ++ '"' :: rest) =
      some ((Fragment.quoted value).toList, rest) := by
  simp [longToken, quotedTail_escape, Fragment.toList_quoted]

theorem tokens_quoted (value : String) (rest : List Char) :
    tokens ((Fragment.quoted value).toList ++ rest) =
      .verbatim (Fragment.quoted value).toList :: tokens rest := by
  have shape : (Fragment.quoted value).toList ++ rest =
      '"' :: (Fragment.escape value.toList ++ '"' :: rest) := by
    simp [Fragment.toList_quoted]
  rw [shape, tokens_long (longToken_quoted value rest)]

end Layout

/-! ## The law -/

/-- The inside of the literal of any string stands for that string, and in front of any text the
literal is the first token, from its first quote to its last, and the text keeps its own tokens. -/
theorem a_string_is_read_back_from_its_literal (value : String) :
    String.ofList (Literal.unescape (Fragment.quoted value).toList.tail.dropLast) = value ∧
      ∀ rest : List Char,
        Layout.tokens ((Fragment.quoted value).toList ++ rest) =
          .verbatim (Fragment.quoted value).toList :: Layout.tokens rest := by
  constructor
  · rw [Fragment.toList_quoted, List.tail_cons, List.dropLast_concat, Literal.unescape_escape,
      String.ofList_toList]
  · exact Layout.tokens_quoted value

end CallForm

-- Integers that are written in some radix, and what they are decoded to:
-- underscores, the suffix and the case of letters say nothing about the
-- value, and a value that a word of 64 bits does not hold is refused.
import Mathlib.Data.List.ReduceOption
import Mathlib.Data.Nat.Digits.Defs
import CallForm.Proofs.Digits

namespace CallForm

/-! ## What an integer is written with -/

/-- The radixes that integers are written in. -/
inductive Radix
  | decimal | hexadecimal | octal | binary
deriving Repr, DecidableEq

/-- How many digits a radix has. -/
def Radix.base : Radix → Nat
  | .decimal => 10
  | .hexadecimal => 16
  | .octal => 8
  | .binary => 2

/-- The texts in front of the digits that tell a radix. -/
def Radix.openings : Radix → List (List Char)
  | .decimal => [[]]
  | .hexadecimal => [['0', 'x'], ['0', 'X']]
  | .octal => [['0', 'o'], ['0', 'O']]
  | .binary => [['0', 'b'], ['0', 'B']]

/-- The character of a digit; one that is a letter may be a capital. -/
def digitChar (capital : Bool) (value : Nat) : Char :=
  if capital then (Nat.digitChar value).toUpper else Nat.digitChar value

/-- A digit of a radix and whether it is written as a capital. -/
structure RadixDigit (radix : Radix) where
  value : Fin radix.base
  capital : Bool

/-- The character of a digit. -/
def RadixDigit.char {radix : Radix} (digit : RadixDigit radix) : Char :=
  digitChar digit.capital digit.value

/-- What a mark of a literal is written as: a digit, or an underscore if it is none. -/
def markChar {radix : Radix} : Option (RadixDigit radix) → Char
  | some digit => digit.char
  | none => '_'

/-- An integer literal: a text that tells its radix, digits with underscores anywhere among them,
and maybe the suffix of a long integer. -/
structure IntegerLiteral where
  radix : Radix
  opening : List Char
  marks : List (Option (RadixDigit radix))
  suffix : List Char
  opening_mem : opening ∈ radix.openings
  some_digit : marks.reduceOption ≠ []
  suffix_mem : suffix ∈ [[], ['l'], ['L']]

namespace IntegerLiteral

/-- The digits of a literal, in order. -/
def digits (literal : IntegerLiteral) : List (RadixDigit literal.radix) :=
  literal.marks.reduceOption

/-- The text of a literal. -/
def text (literal : IntegerLiteral) : List Char :=
  literal.opening ++ literal.marks.map markChar ++ literal.suffix

/-- The number that the digits of a literal stand for, each by its place. -/
def value (literal : IntegerLiteral) : Nat :=
  Nat.ofDigits literal.radix.base (literal.digits.map (·.value.val)).reverse

end IntegerLiteral

/-! ## Digits -/

/-- A digit stands for its value whatever its case, and looks like nothing else in a literal. -/
theorem digitChar_spec : ∀ (capital : Bool) (value : Fin 16),
    digitValue? (digitChar capital value) = some value.val ∧
      digitChar capital value ∉ ['_', 'l', 'L', '-', '+'] := by
  decide

theorem digitChar_isDigit : ∀ (capital : Bool) (value : Fin 10),
    (digitChar capital value).isDigit = true := by
  decide

theorem Radix.base_le (radix : Radix) : radix.base ≤ 16 := by
  cases radix <;> decide

section

variable {radix : Radix}

theorem RadixDigit.char_spec (digit : RadixDigit radix) :
    digitIn? radix.base digit.char = some digit.value.val ∧
      digit.char ∉ ['_', 'l', 'L', '-', '+'] := by
  have small : digit.value.val < 16 := Nat.lt_of_lt_of_le digit.value.isLt radix.base_le
  obtain ⟨value, apart⟩ := digitChar_spec digit.capital ⟨digit.value, small⟩
  refine ⟨?_, apart⟩
  have read : digitValue? digit.char = some digit.value.val := value
  simp [digitIn?, read, Option.filter]

theorem positional?_chars (digits : List (RadixDigit radix)) (start : Nat) :
    positional? radix.base start (digits.map RadixDigit.char) =
      some ((digits.map (·.value.val)).foldl (fun total value => total * radix.base + value)
        start) := by
  induction digits generalizing start with
  | nil => rfl
  | cons digit rest ih =>
    rw [List.map_cons, positional?, digit.char_spec.1]
    exact ih _

/-- The digits from left to right give the number that each gives by its place. -/
theorem foldl_eq_ofDigits (base : Nat) (values : List Nat) :
    values.foldl (fun total value => total * base + value) 0 =
      Nat.ofDigits base values.reverse := by
  simp only [Nat.ofDigits_eq_foldr, List.foldr_reverse, Nat.cast_id, Nat.mul_comm base,
    Nat.add_comm]

theorem unsigned?_chars {digits : List (RadixDigit radix)} (nonempty : digits ≠ []) :
    unsigned? radix.base (digits.map RadixDigit.char) =
      some (Nat.ofDigits radix.base (digits.map (·.value.val)).reverse) := by
  obtain ⟨digit, rest, rfl⟩ := List.exists_cons_of_ne_nil nonempty
  rw [← foldl_eq_ofDigits]
  exact positional?_chars (digit :: rest) 0

theorem filter_marks (marks : List (Option (RadixDigit radix))) :
    (marks.map markChar).filter (· != '_') = marks.reduceOption.map RadixDigit.char := by
  induction marks with
  | nil => rfl
  | cons mark rest ih =>
    cases mark with
    | none => simpa [markChar] using ih
    | some digit =>
      have kept : digit.char ≠ '_' := fun same => digit.char_spec.2 (by simp [same])
      simpa [markChar, kept] using ih

end

/-! ## Decoding -/

namespace Literal

/-- What starts with no sign is read without one. -/
theorem signed?_unsigned {radix : Nat} {text : List Char}
    (h : ∀ c, text.head? = some c → c ≠ '-' ∧ c ≠ '+') :
    signed? radix text = (unsigned? radix text).map Int.ofNat := by
  unfold signed?
  split
  · exact absurd rfl (h _ rfl).1
  · exact absurd rfl (h _ rfl).2
  · rfl

end Literal

namespace IntegerLiteral

variable (literal : IntegerLiteral)

theorem digits_ne_nil : literal.digits ≠ [] := literal.some_digit

/-- Of a literal without its underscores and its suffix, the opening and the digits are left. -/
theorem bareDigits_text :
    Literal.bareDigits literal.text =
      literal.opening ++ literal.digits.map RadixDigit.char := by
  have plain : ∀ opening ∈ literal.radix.openings, opening.filter (· != '_') = opening := by
    cases literal.radix <;> decide
  have plainSuffix : ∀ suffix ∈ [[], ['l'], ['L']], suffix.filter (· != '_') = suffix := by
    decide
  have bare : literal.text.filter (· != '_') =
      (literal.opening ++ literal.digits.map RadixDigit.char) ++ literal.suffix := by
    rw [text, List.filter_append, List.filter_append, filter_marks,
      plain _ literal.opening_mem, plainSuffix _ literal.suffix_mem, digits]
  apply Literal.bareDigits_of_filter bare
  · have suffixes : ∀ suffix ∈ [[], ['l'], ['L']],
        suffix.all Literal.isLongSuffix = true := by decide
    exact List.all_eq_true.mp (suffixes _ literal.suffix_mem)
  · intro c last
    rw [List.getLast?_append_of_ne_nil _ (by simpa using literal.digits_ne_nil),
      List.getLast?_map] at last
    obtain ⟨digit, _, rfl⟩ := Option.map_eq_some_iff.mp last
    have apart := digit.char_spec.2
    simp only [List.mem_cons, not_or] at apart
    simp [Literal.isLongSuffix, apart]

/-- The opening tells the radix. -/
theorem radixOf_text :
    Literal.radixOf (literal.opening ++ literal.digits.map RadixDigit.char) =
      (literal.radix.base, literal.digits.map RadixDigit.char) := by
  obtain ⟨radix, opening, marks, suffix, opens, some, _⟩ := literal
  cases radix with
  | decimal =>
    cases List.mem_singleton.mp opens
    apply Literal.radixOf_digits
    refine ⟨by simpa [digits] using some, ?_⟩
    intro c found
    obtain ⟨digit, _, rfl⟩ := List.mem_map.mp found
    exact digitChar_isDigit digit.capital digit.value
  | _ => rcases List.mem_pair.mp opens with rfl | rfl <;> rfl

theorem signed?_text :
    Literal.signed? literal.radix.base (literal.digits.map RadixDigit.char) =
      some (literal.value : Int) := by
  rw [Literal.signed?_unsigned, unsigned?_chars literal.digits_ne_nil]
  · rfl
  · intro c first
    rw [List.head?_map] at first
    obtain ⟨digit, _, rfl⟩ := Option.map_eq_some_iff.mp first
    have apart := digit.char_spec.2
    simp only [List.mem_cons, not_or] at apart
    exact ⟨apart.2.2.2.1, apart.2.2.2.2.1⟩

theorem integer?_text :
    Literal.integer? (String.ofList literal.text) = Word.signed64? literal.value := by
  apply Literal.integer?_of_signed _ literal.radixOf_text literal.signed?_text
  rw [String.toList_ofList, literal.bareDigits_text]

end IntegerLiteral

/-- A number as compiled text writes it is the number again. -/
theorem Literal.integer?_number (n : Int64) :
    Literal.integer? (Fragment.number (.int n)) = Word.signed64? n.toInt := by
  cases value : n.toInt with
  | ofNat m =>
    have text : Fragment.number (.int n) = String.ofList (Nat.toDigits 10 m) := by
      rw [Fragment.number, value, ← String.toList_inj, String.toList_ofList]
      exact toList_toString m
    rw [text, Literal.integer?_digits (isDigits_toDigits m), natOfDigits_toDigits,
      Int.ofNat_eq_natCast]
  | negSucc m =>
    have digits := isDigits_toDigits (m + 1)
    have text : (Fragment.number (.int n)).toList = '-' :: Nat.toDigits 10 (m + 1) := by
      rw [Fragment.number, value]
      simp [toString, Int.repr]
    have bare := Literal.bareDigits_minus digits
    rw [← text] at bare
    have minus : Literal.signed? 10 ('-' :: Nat.toDigits 10 (m + 1)) =
        some (-((m + 1 : Nat) : Int)) := by
      rw [Literal.signed?, unsigned?_ten digits, natOfDigits_toDigits]
      rfl
    rw [Literal.integer?_of_signed (bare.trans text) rfl minus]
    exact congrArg Word.signed64? (Int.negSucc_eq m).symm

/-! ## The law -/

/-- A literal in any radix, with or without underscores, a suffix and capitals, is decoded to the
number that its digits stand for if a signed word of 64 bits holds it, and to nothing otherwise;
and every such word is decoded from the text that it is written as. -/
theorem an_integer_is_decoded_exactly_or_refused :
    (∀ literal : IntegerLiteral,
      (Literal.integer? (String.ofList literal.text)).map Int64.toInt =
        if literal.value ≤ 9223372036854775807 then some (literal.value : Int) else none) ∧
      ∀ n : Int64, Literal.integer? (Fragment.number (.int n)) = some n := by
  constructor
  · intro literal
    have held : Word.holdsSigned64 literal.value =
        decide (literal.value ≤ 9223372036854775807) := by
      unfold Word.holdsSigned64
      rw [decide_eq_decide]
      omega
    rw [literal.integer?_text, Word.map_toInt_signed64?, held]
    simp only [decide_eq_true_eq]
  · intro n
    rw [Literal.integer?_number, Word.signed64?_eq_some_iff]

end CallForm

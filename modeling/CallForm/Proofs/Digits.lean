-- Rows of decimal digits: which classes their characters belong to, where a
-- row ends in a text, and the number that it is read as.
import CallForm.Proofs.NumberText
import CallForm.Source.Literal
import CallForm.Text.Identifier

namespace CallForm

/-! ## Characters -/

theorem digit_bounds {c : Char} (h : c.isDigit = true) : 48 ≤ c.toNat ∧ c.toNat ≤ 57 := by
  simpa [Char.isDigit, UInt32.le_iff_toNat_le] using h

theorem ne_of_isDigit {c : Char} (h : c.isDigit = true) (mark : Char)
    (other : mark.isDigit = false) : c ≠ mark := by
  rintro rfl
  rw [h] at other
  cases other

theorem isIdentifierPart_of_isDigit {c : Char} (h : c.isDigit = true) :
    isIdentifierPart c = true := by
  have := digit_bounds h
  have small : c.toNat < 0x80 := by omega
  simp [isIdentifierPart, small, Char.isAlphanum, h]

theorem isIdentifierStart_of_isDigit {c : Char} (h : c.isDigit = true) :
    isIdentifierStart c = false := by
  have bounds := digit_bounds h
  have small : c.toNat < 0x80 := by omega
  have letter : c.isAlpha = false := by
    rw [Bool.eq_false_iff]
    intro alpha
    rcases (Bool.or_eq_true _ _).mp alpha with upper | lower
    · have low : 'A'.val ≤ c.val := (of_decide_eq_true upper).1
      have : 65 ≤ c.toNat := UInt32.le_iff_toNat_le.mp low
      omega
    · have low : 'a'.val ≤ c.val := of_decide_eq_true ((Bool.and_eq_true _ _).mp lower).1
      have : 97 ≤ c.toNat := UInt32.le_iff_toNat_le.mp low
      omega
  have mark : c ≠ '_' := by
    rintro rfl
    revert bounds
    decide
  simp [isIdentifierStart, small, letter, mark]

/-- The part of a text that a class of characters takes up to the first one outside of it. -/
theorem span_append {p : Char → Bool} {front rest : List Char}
    (inside : ∀ c ∈ front, p c = true) (stop : ∀ c, rest.head? = some c → p c = false) :
    (front ++ rest).takeWhile p = front ∧ (front ++ rest).dropWhile p = rest := by
  have ends : rest.takeWhile p = [] ∧ rest.dropWhile p = rest := by
    cases rest with
    | nil => exact ⟨rfl, rfl⟩
    | cons c tail => simp [stop c rfl]
  rw [List.takeWhile_append_of_pos inside, List.dropWhile_append_of_pos inside, ends.1, ends.2,
    List.append_nil]
  exact ⟨rfl, rfl⟩

/-! ## Values -/

theorem digitIn?_ten {c : Char} (h : c.isDigit = true) :
    digitIn? 10 c = some (c.toNat - '0'.toNat) := by
  have bounds := digit_bounds h
  have small : c.toNat - 48 < 10 := by omega
  simp [digitIn?, digitValue?, h, Option.filter, small]

theorem positional?_ten {digits : List Char} (h : ∀ c ∈ digits, c.isDigit = true) (start : Nat) :
    positional? 10 start digits =
      some (digits.foldl (fun total c => total * 10 + (c.toNat - '0'.toNat)) start) := by
  induction digits generalizing start with
  | nil => rfl
  | cons c rest ih =>
    rw [positional?, digitIn?_ten (h c List.mem_cons_self)]
    exact ih (fun d found => h d (List.mem_cons_of_mem _ found)) _

theorem unsigned?_ten {digits : List Char} (h : IsDigits digits) :
    unsigned? 10 digits = some (natOfDigits digits) := by
  obtain ⟨c, rest, rfl⟩ := List.exists_cons_of_ne_nil h.1
  exact positional?_ten h.2 0

namespace Literal

theorem isLongSuffix_of_isDigit {c : Char} (h : c.isDigit = true) : isLongSuffix c = false := by
  simp [isLongSuffix, ne_of_isDigit h 'l' rfl, ne_of_isDigit h 'L' rfl]

/-- Underscores go wherever they stand, and suffixes come off a text that does not itself end in
one. -/
theorem bareDigits_of_filter {text body suffix : List Char}
    (h : text.filter (· != '_') = body ++ suffix) (suffixes : ∀ c ∈ suffix, isLongSuffix c = true)
    (ends : ∀ c, body.getLast? = some c → isLongSuffix c = false) : bareDigits text = body := by
  have behind : ∀ c ∈ suffix.reverse, isLongSuffix c = true := fun c found =>
    suffixes c (List.mem_reverse.mp found)
  have stop : ∀ c, body.reverse.head? = some c → isLongSuffix c = false := fun c last =>
    ends c (List.head?_reverse ▸ last)
  rw [bareDigits, h, List.reverse_append, (span_append behind stop).2, List.reverse_reverse]

theorem filter_digits {digits : List Char} (h : IsDigits digits) :
    digits.filter (· != '_') = digits := by
  rw [List.filter_eq_self]
  intro c found
  simpa using ne_of_isDigit (h.2 c found) '_' rfl

theorem bareDigits_digits {digits : List Char} (h : IsDigits digits) :
    bareDigits digits = digits := by
  have whole : digits.filter (· != '_') = digits ++ [] := by
    rw [List.append_nil, filter_digits h]
  apply bareDigits_of_filter whole
  · simp
  · exact fun c last => isLongSuffix_of_isDigit (h.2 c (List.mem_of_getLast? last))

theorem bareDigits_minus {digits : List Char} (h : IsDigits digits) :
    bareDigits ('-' :: digits) = '-' :: digits := by
  have whole : ('-' :: digits).filter (· != '_') = '-' :: digits ++ [] := by
    simp [filter_digits h]
  apply bareDigits_of_filter whole
  · simp
  · intro c last
    rcases List.mem_cons.mp (List.mem_of_getLast? last) with rfl | found
    · rfl
    · exact isLongSuffix_of_isDigit (h.2 c found)

theorem radixOf_digits {digits : List Char} (h : IsDigits digits) :
    radixOf digits = (10, digits) := by
  unfold radixOf
  split
  case h_7 => rfl
  all_goals
    have letter := h.2 _ (List.mem_cons_of_mem _ List.mem_cons_self)
    exact absurd letter (by decide)

theorem signed?_digits {digits : List Char} (h : IsDigits digits) :
    signed? 10 digits = some (natOfDigits digits : Int) := by
  unfold signed?
  split
  case h_3 =>
    rw [unsigned?_ten h]
    rfl
  all_goals
    have sign := h.2 _ List.mem_cons_self
    exact absurd sign (by decide)

theorem isImaginary_digits {digits : List Char} (h : IsDigits digits) :
    isImaginary (String.ofList digits) = false := by
  unfold isImaginary
  rw [String.toList_ofList]
  split
  · rename_i c last
    have digit := h.2 c (List.mem_of_getLast? last)
    simp [ne_of_isDigit digit 'j' rfl, ne_of_isDigit digit 'J' rfl]
  · rfl

/-- Decoding in its three steps. -/
theorem integer?_of_signed {literal : String} {text rest : List Char} {radix : Nat} {value : Int}
    (bare : bareDigits literal.toList = text) (opened : radixOf text = (radix, rest))
    (read : signed? radix rest = some value) : integer? literal = Word.signed64? value := by
  unfold integer?
  rw [bare, opened]
  dsimp only
  rw [read, Option.bind_some]

/-- A row of digits is the integer that it writes in the radix ten, if 64 bits hold it. -/
theorem integer?_digits {digits : List Char} (h : IsDigits digits) :
    integer? (String.ofList digits) = Word.signed64? (natOfDigits digits) := by
  apply integer?_of_signed _ (radixOf_digits h) (signed?_digits h)
  rw [String.toList_ofList, bareDigits_digits h]

end Literal

end CallForm

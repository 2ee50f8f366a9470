-- Taking the position tags out of compiled text: every mark with at least
-- one digit after it goes, with all its digits. A digit is a decimal digit
-- of any script. Each script has its ten digits in a row, so the zeros tell
-- where all of them are.
import CallForm.Position

namespace CallForm

/-! ## Digits -/

/-- The code points of the digit zero, one for each row of ten digits: all rows of Unicode 16. -/
def digitZeros : List Nat :=
  [0x30, 0x660, 0x6f0, 0x7c0, 0x966, 0x9e6, 0xa66, 0xae6, 0xb66, 0xbe6, 0xc66, 0xce6, 0xd66, 0xde6,
    0xe50, 0xed0, 0xf20, 0x1040, 0x1090, 0x17e0, 0x1810, 0x1946, 0x19d0, 0x1a80, 0x1a90, 0x1b50,
    0x1bb0, 0x1c40, 0x1c50, 0xa620, 0xa8d0, 0xa900, 0xa9d0, 0xa9f0, 0xaa50, 0xabf0, 0xff10,
    0x104a0, 0x10d30, 0x10d40, 0x11066, 0x110f0, 0x11136, 0x111d0, 0x112f0, 0x11450, 0x114d0,
    0x11650, 0x116c0, 0x116d0, 0x116da, 0x11730, 0x118e0, 0x11950, 0x11bf0, 0x11c50, 0x11d50,
    0x11da0, 0x11f50, 0x16130, 0x16a60, 0x16ac0, 0x16b50, 0x16d70, 0x1ccf0, 0x1d7ce, 0x1d7d8,
    0x1d7e2, 0x1d7ec, 0x1d7f6, 0x1e140, 0x1e2f0, 0x1e4f0, 0x1e5f1, 0x1e950, 0x1fbf0]

/-- Whether a character is a decimal digit of some script. -/
def isDecimalDigit (c : Char) : Bool :=
  if c.toNat < 0x80 then c.isDigit
  else digitZeros.any fun first => first ≤ c.toNat && c.toNat < first + 10

theorem isDecimalDigit_of_isDigit (c : Char) (h : c.isDigit = true) : isDecimalDigit c = true := by
  have small : c.toNat < 0x80 := by
    simp [Char.isDigit] at h
    have high := h.2
    rw [UInt32.le_iff_toNat_le] at high
    exact Nat.lt_of_le_of_lt high (by decide)
  simp [isDecimalDigit, small, h]

/-! ## Tags -/

/-- Whether a text starts with a decimal digit. -/
def startsWithDigit : List Char → Bool
  | [] => false
  | c :: _ => isDecimalDigit c

/-- A text without its tags. `inTag` says that the text goes on from inside a tag, so that its
digits still belong to it. -/
def dropTags (inTag : Bool) : List Char → List Char
  | [] => []
  | c :: rest =>
    if inTag && isDecimalDigit c then dropTags true rest
    else if c == tagMark && startsWithDigit rest then dropTags true rest
    else c :: dropTags false rest

/-- A text without a mark has no tags. -/
theorem dropTags_untagged {text : List Char} (h : tagMark ∉ text) :
    dropTags false text = text := by
  induction text with
  | nil => rfl
  | cons c rest ih =>
    rw [List.mem_cons, not_or] at h
    have other : (c == tagMark) = false := by
      simp only [beq_eq_false_iff_ne]
      exact fun same => h.1 same.symm
    simp [dropTags, other, ih h.2]

/-- Removes every position tag from a text. -/
def stripTags (text : String) : String :=
  String.ofList (dropTags false text.toList)

end CallForm

-- The shape of number literals in compiled text: digits, a fraction if
-- there is one, and an exponent if there is one. Every finite number without
-- a sign is written in it; the others are words, or have a sign in front.
import Mathlib.Data.List.TakeWhile
import CallForm.Decimal.Numeral
import CallForm.Ir.Fragment

namespace CallForm

/-! ## The shape -/

/-- A row of at least one decimal digit. -/
def IsDigits (text : List Char) : Prop := text ≠ [] ∧ ∀ c ∈ text, c.isDigit = true

/-- Nothing, or a point and digits after it. -/
def IsFraction (text : List Char) : Prop :=
  text = [] ∨ ∃ digits, IsDigits digits ∧ text = '.' :: digits

/-- Nothing, or an exponent of ten with or without a minus sign. -/
def IsExponent (text : List Char) : Prop :=
  text = [] ∨ ∃ sign digits, (sign = [] ∨ sign = ['-']) ∧ IsDigits digits ∧
    text = 'e' :: (sign ++ digits)

/-- The text of a number literal. -/
def IsNumberText (text : List Char) : Prop :=
  ∃ whole fraction exponent, IsDigits whole ∧ IsFraction fraction ∧ IsExponent exponent ∧
    text = whole ++ (fraction ++ exponent)

/-- A number without a sign, and finite. -/
def Number.isPlain : Number → Bool
  | .int value => 0 ≤ value.toInt
  | .float value => !value.isNaN && !value.isInf && value.toBits < 0x8000000000000000

/-- Whether a number is written with a sign in front. -/
def Number.isSigned : Number → Bool
  | .int value => value.toInt < 0
  | .float value => !value.isNaN && value.toBits ≥ 0x8000000000000000

/-! ## Rows of digits -/

theorem IsDigits.append {front rest : List Char} (h : IsDigits front)
    (h' : ∀ c ∈ rest, c.isDigit = true) : IsDigits (front ++ rest) := by
  refine ⟨by simp [h.1], ?_⟩
  intro c found
  rcases List.mem_append.mp found with found | found
  · exact h.2 c found
  · exact h' c found

theorem isDigit_of_mem_replicate {n : Nat} {c : Char} (h : c ∈ List.replicate n '0') :
    c.isDigit = true := by
  rw [(List.mem_replicate.mp h).2]
  rfl

theorem isDigits_toDigits (n : Nat) : IsDigits (Nat.toDigits 10 n) :=
  ⟨Nat.toDigits_ne_nil, fun _ found =>
    Nat.isDigit_of_mem_toDigits (by decide) (by decide) found⟩

theorem natOfDigits_zeros (digits : List Char) (h : ∀ c ∈ digits, c = '0') :
    natOfDigits digits = 0 := by
  unfold natOfDigits
  induction digits with
  | nil => rfl
  | cons c rest ih =>
    rw [List.foldl_cons, h c List.mem_cons_self]
    exact ih fun d found => h d (List.mem_cons_of_mem _ found)

/-- The digits of a positive number without the zeros at their end. -/
theorem isDigits_trimmed {n : Nat} (positive : 0 < n) :
    IsDigits ((Nat.toDigits 10 n).reverse.dropWhile (· == '0')).reverse := by
  have digits := isDigits_toDigits n
  constructor
  · intro empty
    have zeros : ∀ c ∈ Nat.toDigits 10 n, c = '0' := by
      rw [List.reverse_eq_nil_iff, List.dropWhile_eq_nil_iff] at empty
      intro c found
      simpa using empty c (List.mem_reverse.mpr found)
    have := natOfDigits_zeros _ zeros
    rw [natOfDigits_toDigits] at this
    omega
  · intro c found
    have inside := (List.dropWhile_suffix _).subset (List.mem_reverse.mp found)
    exact digits.2 c (List.mem_reverse.mp inside)

/-! ## The search for the shortest digits -/

theorem Shortest.nearer_pos {tie : Tie} {below : Nat} (h : 0 < below) (fromBelow toAbove : Nat) :
    0 < nearer tie below fromBelow toAbove := by
  unfold nearer
  split
  · exact h
  · split
    · omega
    · cases tie <;> dsimp only <;> omega

/-- A bound above zero lets no zero in. -/
theorem Shortest.Interval.pos_of_admits {i : Interval} (low : 0 < i.low) {n scale : Nat}
    (positive : 0 < scale) (h : i.admits n scale = true) : 0 < n := by
  have bound : 0 < i.low * scale := Nat.mul_pos low positive
  unfold admits at h
  split at h
  · simp only [Bool.and_eq_true, decide_eq_true_eq] at h
    omega
  · simp only [Bool.and_eq_true, decide_eq_true_eq] at h
    omega

theorem Shortest.nearestOnGrid_pos {tie : Tie} {i : Interval} (low : 0 < i.low) {power : Int}
    {n : Nat} (h : nearestOnGrid tie i power = some n) : 0 < n := by
  have scale : 0 < twoTo i.unit.toNat * tenTo (-power).toNat :=
    Nat.mul_pos (Nat.pow_pos (by decide)) (Nat.pow_pos (by decide))
  unfold nearestOnGrid at h
  dsimp only at h
  split at h
  · rename_i below _
    cases h
    exact nearer_pos (Nat.pos_of_mul_pos_right (i.pos_of_admits low scale below)) _ _
  · rename_i below _
    cases h
    exact Nat.pos_of_mul_pos_right (i.pos_of_admits low scale below)
  · cases h
    exact Nat.succ_pos _
  · cases h

theorem Shortest.search_pos {tie : Tie} {i : Interval} (low : 0 < i.low) {point : Int}
    {counts : List Nat} {n : Nat} {power : Int}
    (h : search tie i point counts = some (n, power)) : 0 < n := by
  induction counts with
  | nil => cases h
  | cons count rest ih =>
    unfold search at h
    dsimp only at h
    split at h
    · rename_i found
      cases h
      exact nearestOnGrid_pos low found
    · exact ih h

theorem isDigits_shortestDigits (tie : Tie) {mantissa : Nat} (positive : 0 < mantissa)
    (exponent : Int) : IsDigits (shortestDigits tie mantissa exponent).digits := by
  have low : 0 < (Shortest.intervalOf mantissa exponent).low := by
    unfold Shortest.intervalOf
    dsimp only
    split <;> omega
  unfold shortestDigits
  dsimp only
  split
  · rename_i found
    exact isDigits_trimmed (Shortest.search_pos low found)
  · exact isDigits_toDigits mantissa

/-! ## The layouts -/

theorem isNumberText_positional {d : Digits} (h : IsDigits d.digits) :
    IsNumberText d.positional.toList := by
  unfold Digits.positional
  split
  · refine ⟨['0'], '.' :: (List.replicate (-d.point).toNat '0' ++ d.digits), [], ?_, ?_, .inl rfl,
      ?_⟩
    · exact ⟨by simp, by simp⟩
    · refine .inr ⟨_, ⟨by simp [h.1], ?_⟩, rfl⟩
      intro c found
      rcases List.mem_append.mp found with found | found
      · exact isDigit_of_mem_replicate found
      · exact h.2 c found
    · simp
  · rename_i right
    have whole : IsDigits (d.digits.take d.point.toNat) := by
      refine ⟨?_, fun c found => h.2 c (List.mem_of_mem_take found)⟩
      rw [Ne, List.take_eq_nil_iff, not_or]
      exact ⟨by omega, h.1⟩
    have padded : IsDigits (d.digits.take d.point.toNat ++
        List.replicate (d.point.toNat - d.digits.length) '0') :=
      whole.append fun c found => isDigit_of_mem_replicate found
    refine ⟨_, '.' :: (if (d.digits.drop d.point.toNat).isEmpty then ['0']
      else d.digits.drop d.point.toNat), [], padded, ?_, .inl rfl, ?_⟩
    · refine .inr ⟨_, ?_, rfl⟩
      split
      · exact ⟨by simp, by simp⟩
      · rename_i nonempty
        exact ⟨by simpa using nonempty, fun c found => h.2 c (List.mem_of_mem_drop found)⟩
    · dsimp only
      split <;> simp

theorem toList_toString (n : Nat) : (toString (n : Int)).toList = Nat.toDigits 10 n := by
  change n.repr.toList = Nat.toDigits 10 n
  rw [Nat.repr, String.toList_ofList]

theorem isExponent_toString (n : Int) : IsExponent ('e' :: (toString n).toList) := by
  refine .inr ?_
  cases n with
  | ofNat n =>
    exact ⟨[], Nat.toDigits 10 n, .inl rfl, isDigits_toDigits n, congrArg _ (toList_toString n)⟩
  | negSucc n =>
    exact ⟨['-'], Nat.toDigits 10 (n + 1), .inr rfl, isDigits_toDigits _, by
      simp [toString, Int.repr]⟩

theorem isNumberText_scientific {d : Digits} (h : IsDigits d.digits) :
    IsNumberText d.scientific.toList := by
  have exponent := isExponent_toString (d.point - 1)
  unfold Digits.scientific
  rcases found : d.digits with _ | ⟨digit, rest⟩
  · exact absurd found h.1
  · rw [found] at h
    have one : IsDigits [digit] := ⟨by simp, by simpa using h.2 digit List.mem_cons_self⟩
    rcases rest with _ | ⟨next, rest⟩
    · exact ⟨[digit], [], _, one, .inl rfl, exponent, by simp⟩
    · refine ⟨[digit], '.' :: next :: rest, _, one, .inr ⟨next :: rest, ?_, rfl⟩, exponent, by simp⟩
      exact ⟨by simp, fun c found => h.2 c (List.mem_cons_of_mem _ found)⟩

/-- A finite number without a sign is written in the shape of a number literal. -/
theorem Number.isNumberText {value : Number} (plain : value.isPlain = true) :
    IsNumberText (Fragment.number value).toList := by
  cases value with
  | int n =>
    simp only [isPlain, decide_eq_true_eq] at plain
    obtain ⟨m, same⟩ := Int.eq_ofNat_of_zero_le plain
    refine ⟨Nat.toDigits 10 m, [], [], isDigits_toDigits m, .inl rfl, .inl rfl, ?_⟩
    rw [Fragment.number, same, toList_toString]
    simp
  | float x =>
    simp only [isPlain, Bool.and_eq_true, Bool.not_eq_true', decide_eq_true_eq] at plain
    obtain ⟨⟨number, finite⟩, positive⟩ := plain
    have unsigned : ¬ x.toBits ≥ 0x8000000000000000 := UInt64.not_le.mpr positive
    rw [Fragment.number, NumberStyle.render, if_neg (Bool.eq_false_iff.mp number)]
    simp only [finite, unsigned, Bool.false_eq_true, if_false]
    split
    · exact ⟨['0'], ['.', '0'], [], ⟨by simp, by simp⟩, .inr ⟨['0'], ⟨by simp, by simp⟩, rfl⟩,
        .inl rfl, rfl⟩
    · rename_i nonzero
      have digits := isDigits_shortestDigits compiledNumbers.tie (Nat.pos_of_ne_zero nonzero)
        (Binary64.ofFloat x).exponent
      rw [String.empty_append]
      split
      · exact isNumberText_positional digits
      · exact isNumberText_scientific digits

/-- A number is written as the text of one without a sign, or as the word for one that is not
finite, with a minus in front if it has a sign. -/
theorem Fragment.number_shape (value : Number) :
    ∃ text, (Fragment.number value).toList = (if value.isSigned then ['-'] else []) ++ text ∧
      (IsNumberText text ∨ text = "NaN".toList ∨ text = "inf".toList) := by
  cases value with
  | int n =>
    have whole (m : Nat) : IsNumberText (Nat.toDigits 10 m) :=
      ⟨_, [], [], isDigits_toDigits m, .inl rfl, .inl rfl, by simp⟩
    rw [Number.isSigned, Fragment.number]
    cases n.toInt with
    | ofNat m => exact ⟨Nat.toDigits 10 m, toList_toString m, .inl (whole m)⟩
    | negSucc m =>
      refine ⟨Nat.toDigits 10 (m + 1), ?_, .inl (whole _)⟩
      simp [toString, Int.repr]
  | float x =>
    rw [Number.isSigned, Fragment.number, NumberStyle.render]
    cases x.isNaN with
    | true => exact ⟨"NaN".toList, rfl, .inr (.inl rfl)⟩
    | false =>
      have signed (text : String) (h : IsNumberText text.toList ∨ text = "inf") :
          ∃ rest, ((if x.toBits ≥ 0x8000000000000000 then "-" else "") ++ text).toList =
              (if !false && x.toBits ≥ 0x8000000000000000 then ['-'] else []) ++ rest ∧
            (IsNumberText rest ∨ rest = "NaN".toList ∨ rest = "inf".toList) := by
        refine ⟨text.toList, ?_, h.imp_right fun same => .inr (congrArg String.toList same)⟩
        by_cases minus : x.toBits ≥ 0x8000000000000000 <;> simp [minus]
      rw [if_neg Bool.false_ne_true]
      dsimp only
      split
      · exact signed compiledNumbers.infinite (.inr rfl)
      · split
        · exact signed "0.0" (.inl ⟨['0'], ['.', '0'], [], ⟨by simp, by simp⟩,
            .inr ⟨['0'], ⟨by simp, by simp⟩, rfl⟩, .inl rfl, rfl⟩)
        · rename_i nonzero
          have digits := isDigits_shortestDigits compiledNumbers.tie (Nat.pos_of_ne_zero nonzero)
            (Binary64.ofFloat x).exponent
          apply signed
          split
          · exact .inl (isNumberText_positional digits)
          · exact .inl (isNumberText_scientific digits)

end CallForm

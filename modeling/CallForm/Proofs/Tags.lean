-- The laws of position tags. No two symbols have one text, whatever their
-- names look like, and taking the tags out of a text cuts it in the only way
-- there is and leaves nothing to be taken out.
import CallForm.Ir.Layout
import CallForm.Proofs.StrippedText

namespace CallForm

/-! ## Symbols with one text -/

theorem tagMark_not_mem_toDigits (n : Nat) : tagMark ∉ Nat.toDigits 10 n := fun found =>
  absurd ((isDigits_toDigits n).2 tagMark found) (by decide)

theorem Position.toList_tag (pos : Position) (name : String) :
    (pos.tag name).toList =
      (name.toList ++ tagMark :: Nat.toDigits 10 pos.line.toNat) ++
        tagMark :: Nat.toDigits 10 pos.column.toNat := by
  simp [Position.tag, Position.mark, tagMark]

/-- A text is cut in one way at its last mark. -/
theorem cut_at_last_mark {front front' back back' : List Char} (h : tagMark ∉ back)
    (h' : tagMark ∉ back') (same : front ++ tagMark :: back = front' ++ tagMark :: back') :
    front = front' ∧ back = back' := by
  -- Read from the right end, a text goes on up to its last mark.
  have cut (front back : List Char) (h : tagMark ∉ back) :
      (front ++ tagMark :: back).reverse.takeWhile (· != tagMark) = back.reverse ∧
        (front ++ tagMark :: back).reverse.dropWhile (· != tagMark) = tagMark :: front.reverse := by
    have text : (front ++ tagMark :: back).reverse = back.reverse ++ tagMark :: front.reverse := by
      simp
    rw [text]
    apply span_append
    · intro c found
      have : c ≠ tagMark := fun same => h (same ▸ List.mem_reverse.mp found)
      simpa using this
    · rintro c ⟨⟩
      simp
  obtain ⟨taken, left⟩ := cut front back h
  obtain ⟨taken', left'⟩ := cut front' back' h'
  rw [same, taken'] at taken
  rw [same, left'] at left
  have fronts : front'.reverse = front.reverse := (List.cons.inj left).2
  exact ⟨(List.reverse_inj.mp fronts).symm, (List.reverse_inj.mp taken).symm⟩

theorem toDigits_toNat_inj {word word' : UInt32}
    (h : Nat.toDigits 10 word.toNat = Nat.toDigits 10 word'.toNat) : word = word' := by
  have values := congrArg natOfDigits h
  rw [natOfDigits_toDigits, natOfDigits_toDigits] at values
  exact UInt32.toNat_inj.mp values

/-- The text of a symbol tells its name and its place, even if the name itself holds marks and
digits, or nothing at all. -/
theorem a_tagged_name_tells_its_name_and_its_place (name name' : String) (pos pos' : Position) :
    pos.tag name = pos'.tag name' ↔ name = name' ∧ pos = pos' := by
  constructor
  · intro same
    have text := congrArg String.toList same
    rw [Position.toList_tag, Position.toList_tag] at text
    obtain ⟨text, columns⟩ := cut_at_last_mark (tagMark_not_mem_toDigits _)
      (tagMark_not_mem_toDigits _) text
    obtain ⟨names, lines⟩ := cut_at_last_mark (tagMark_not_mem_toDigits _)
      (tagMark_not_mem_toDigits _) text
    have line : pos.line = pos'.line := toDigits_toNat_inj lines
    have column : pos.column = pos'.column := toDigits_toNat_inj columns
    cases pos
    cases pos'
    cases line
    cases column
    exact ⟨String.toList_inj.mp names, rfl⟩
  · rintro ⟨rfl, rfl⟩
    rfl

/-! ## Texts cut at their tags -/

/-- A part of a text: a character that is kept, or a tag with its digits. -/
inductive TagPart
  | kept (c : Char)
  | tag (digits : List Char)
deriving Repr, DecidableEq

/-- The character that a part keeps, if it keeps one. -/
def TagPart.kept? : TagPart → Option Char
  | .kept c => some c
  | .tag _ => none

/-- A text is made of parts. A mark goes with all the digits behind it, so a tag has at least one
digit and no digit comes up to its end, and a mark that is kept has no digit behind it. -/
inductive MadeOf : List Char → List TagPart → Prop
  | nil : MadeOf [] []
  | kept {c : Char} {rest : List Char} {parts : List TagPart} :
      ¬ (c = tagMark ∧ startsWithDigit rest = true) → MadeOf rest parts →
        MadeOf (c :: rest) (.kept c :: parts)
  | tag {digits rest : List Char} {parts : List TagPart} :
      digits ≠ [] → (∀ c ∈ digits, isDecimalDigit c = true) → startsWithDigit rest = false →
        MadeOf rest parts → MadeOf (tagMark :: (digits ++ rest)) (.tag digits :: parts)

theorem startsWithDigit_append {digits : List Char} (nonempty : digits ≠ [])
    (h : ∀ c ∈ digits, isDecimalDigit c = true) (rest : List Char) :
    startsWithDigit (digits ++ rest) = true := by
  obtain ⟨c, others, rfl⟩ := List.exists_cons_of_ne_nil nonempty
  exact h c List.mem_cons_self

theorem head?_of_startsWithDigit {rest : List Char} (h : startsWithDigit rest = false) (c : Char)
    (first : rest.head? = some c) : isDecimalDigit c = false := by
  cases rest with
  | nil => cases first
  | cons d others =>
    cases first
    exact h

/-- Every text is made of parts. -/
theorem exists_madeOf (text : List Char) : ∃ parts, MadeOf text parts := by
  match text with
  | [] => exact ⟨[], .nil⟩
  | c :: rest =>
    by_cases opens : c = tagMark ∧ startsWithDigit rest = true
    · obtain ⟨rfl, starts⟩ := opens
      have shorter : (rest.dropWhile isDecimalDigit).length ≤ rest.length :=
        (List.dropWhile_suffix _).length_le
      obtain ⟨parts, made⟩ := exists_madeOf (rest.dropWhile isDecimalDigit)
      have nonempty : rest.takeWhile isDecimalDigit ≠ [] := by
        cases rest with
        | nil => cases starts
        | cons d others =>
          have digit : isDecimalDigit d = true := starts
          simp [digit]
      have stop : startsWithDigit (rest.dropWhile isDecimalDigit) = false := by
        have last := List.head?_dropWhile_not isDecimalDigit rest
        unfold startsWithDigit
        split
        · rfl
        · rename_i left
          rw [left] at last
          simpa using last
      have tagged := MadeOf.tag nonempty (fun d found => List.mem_takeWhile_imp found) stop made
      rw [List.takeWhile_append_dropWhile] at tagged
      exact ⟨_, tagged⟩
    · obtain ⟨parts, made⟩ := exists_madeOf rest
      exact ⟨_, .kept opens made⟩
termination_by text.length
decreasing_by all_goals simp only [List.length_cons]; omega

/-- There is one way to cut a text into parts. -/
theorem MadeOf.unique {text : List Char} {parts parts' : List TagPart} (h : MadeOf text parts)
    (h' : MadeOf text parts') : parts' = parts := by
  induction h generalizing parts' with
  | nil =>
    cases h'
    rfl
  | kept stays _ ih =>
    cases h' with
    | kept _ made => rw [ih made]
    | tag nonempty digits _ _ =>
      exact absurd ⟨rfl, startsWithDigit_append nonempty digits _⟩ stays
  | @tag digits rest parts nonempty isDigit stop _ ih =>
    generalize text : digits ++ rest = behind at h'
    cases h' with
    | kept stays _ =>
      exact absurd ⟨rfl, text ▸ startsWithDigit_append nonempty isDigit rest⟩ stays
    | @tag digits' rest' _ _ isDigit' stop' made =>
      obtain ⟨taken, left⟩ := span_append isDigit (head?_of_startsWithDigit stop)
      obtain ⟨taken', left'⟩ := span_append isDigit' (head?_of_startsWithDigit stop')
      rw [text, taken'] at taken
      rw [text, left'] at left
      subst taken left
      rw [ih made]

/-- What is left of a text are the characters that its parts keep. -/
theorem MadeOf.dropTags_eq {text : List Char} {parts : List TagPart} (h : MadeOf text parts) :
    dropTags false text = parts.filterMap TagPart.kept? := by
  induction h with
  | nil => rfl
  | @kept c rest parts stays _ ih =>
    have plain : (c == tagMark && startsWithDigit rest) = false := by simpa using stays
    simp [dropTags, plain, TagPart.kept?, ih]
  | @tag digits rest parts nonempty isDigit stop _ ih =>
    have starts := startsWithDigit_append nonempty isDigit rest
    have dropped := dropTags_append stop true digits
    rw [dropTags_digits isDigit, List.nil_append, ih] at dropped
    simp only [dropTags, starts, Bool.false_and, beq_self_eq_true, Bool.true_and,
      Bool.false_eq_true, if_false, if_true, dropped]
    rfl

/-! ## The normal form -/

/-- Whatever the text, no mark is left in front of a digit. The text is cut in the only way there
is into tags and other characters, and what is left are the others in their order. So taking
tags out a second time changes nothing, and neither does taking them out before the text is laid
out. -/
theorem what_is_left_of_a_text_holds_no_tag (text : String) :
    ¬ HoldsTag (stripTags text).toList ∧
      (∃ parts, MadeOf text.toList parts ∧ (∀ parts', MadeOf text.toList parts' → parts' = parts) ∧
        (stripTags text).toList = parts.filterMap TagPart.kept?) ∧
      stripTags (stripTags text) = stripTags text ∧
      layOut (stripTags text) = layOut text ∧
      ∀ width, layOutBy width (stripTags text) = layOutBy width text := by
  have left : (stripTags text).toList = dropTags false text.toList := String.toList_ofList
  have plain : ¬ HoldsTag (stripTags text).toList := by
    rw [left]
    exact not_holdsTag_dropTags false _
  have twice : stripTags (stripTags text) = stripTags text := stripTags_eq_self_iff.mpr plain
  obtain ⟨parts, made⟩ := exists_madeOf text.toList
  have laidOut (width : Nat) : layOutBy width (stripTags text) = layOutBy width text := by
    rw [layOutBy, layOutBy, twice]
  refine ⟨plain, ⟨parts, made, ?_, ?_⟩, twice, laidOut indentWidth, laidOut⟩
  · intro parts' made'
    exact made.unique made'
  · rw [left, made.dropTags_eq]

/-- The second mark goes with its digit, and so the first one meets the third, not a digit. -/
example : stripTags "$$1$23x" = "$x" := by rfl

end CallForm

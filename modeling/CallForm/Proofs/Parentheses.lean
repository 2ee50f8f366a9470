-- Where an innermost parenthesis ends. All of a text but its parentheses
-- is passed over on the way to the end, so the next parenthesis decides.
import CallForm.Proofs.Tiling

namespace CallForm

namespace Layout

/-! ## The parentheses of a text -/

/-- Whether a character is a parenthesis. -/
def isParenthesis (c : Char) : Bool := c == '(' || c == ')'

/-- The parentheses of a text, in order. -/
def parentheses (text : List Char) : List Char := text.filter isParenthesis

@[simp] theorem parentheses_append (text more : List Char) :
    parentheses (text ++ more) = parentheses text ++ parentheses more :=
  List.filter_append text more

/-- Parentheses are no blanks. -/
theorem parentheses_ink (text : List Char) : parentheses (ink text) = parentheses text := by
  rw [parentheses, ink, List.filter_filter]
  apply List.filter_congr
  intro c _
  cases found : isParenthesis c with
  | false => rfl
  | true =>
    simp only [isParenthesis, Bool.or_eq_true, beq_iff_eq] at found
    rcases found with rfl | rfl <;> rfl

/-! ## Innermost parentheses -/

/-- An innermost parenthesis ends where the next parenthesis is a closing one. -/
theorem groupTail_isSome (text : List Char) :
    (groupTail text).isSome = true ↔ (parentheses text).head? = some ')' := by
  induction text with
  | nil => simp [groupTail, parentheses]
  | cons c rest ih =>
    unfold groupTail
    split
    · rename_i closing
      simp [parentheses, isParenthesis, beq_iff_eq.mp closing]
    · split
      · rename_i opening
        simp [parentheses, isParenthesis, beq_iff_eq.mp opening]
      · rename_i closing opening
        rw [Option.isSome_map, ih]
        simp only [parentheses, isParenthesis, List.filter_cons, closing, opening, Bool.or_self,
          Bool.false_eq_true, if_false]

/-- Texts with the same parentheses are alike in whether an innermost one ends in them. -/
theorem groupTail_eq_none_of_parentheses {text other : List Char}
    (same : parentheses text = parentheses other) (h : groupTail text = none) :
    groupTail other = none := by
  rw [← Option.not_isSome_iff_eq_none, groupTail_isSome, ← same, ← groupTail_isSome, h]
  exact Bool.false_ne_true

/-- The end of an innermost parenthesis does not depend on what follows it. -/
theorem groupTail_append {text inside after : List Char}
    (h : groupTail text = some (inside, after)) (more : List Char) :
    groupTail (inside ++ more) = some (inside, more) := by
  induction text generalizing inside after with
  | nil => cases h
  | cons c rest ih =>
    unfold groupTail at h
    split at h
    · rename_i closing
      cases h
      simp [groupTail, closing]
    · split at h
      · cases h
      · rename_i closing opening
        obtain ⟨⟨tail, others⟩, found, same⟩ := Option.map_eq_some_iff.mp h
        cases same
        simp [groupTail, closing, opening, ih found]

/-- Parentheses are looked for behind a text that holds none. -/
theorem groupTail_through {text : List Char} (h : parentheses text = []) (more : List Char) :
    groupTail (text ++ more) =
      (groupTail more).map fun (inside, after) => (text ++ inside, after) := by
  induction text with
  | nil =>
    rw [List.nil_append]
    cases groupTail more <;> rfl
  | cons c rest ih =>
    rw [parentheses, List.filter_eq_nil_iff, List.forall_mem_cons] at h
    obtain ⟨other, others⟩ := h
    simp only [isParenthesis, Bool.or_eq_true, beq_iff_eq, not_or] at other
    rw [List.cons_append, groupTail, ih (List.filter_eq_nil_iff.mpr others)]
    simp only [beq_iff_eq, other.1, other.2, if_false, Option.map_map]
    rfl

/-- An innermost parenthesis ends with the only parenthesis inside. -/
theorem groupTail_eq_concat {text inside after : List Char}
    (h : groupTail text = some (inside, after)) :
    ∃ body, inside = body ++ [')'] ∧ parentheses body = [] := by
  induction text generalizing inside after with
  | nil => cases h
  | cons c rest ih =>
    unfold groupTail at h
    split at h
    · rename_i closing
      cases h
      exact ⟨[], by rw [beq_iff_eq.mp closing]; rfl, rfl⟩
    · split at h
      · cases h
      · rename_i closing opening
        obtain ⟨⟨tail, others⟩, found, same⟩ := Option.map_eq_some_iff.mp h
        cases same
        obtain ⟨body, rfl, plain⟩ := ih found
        have other : isParenthesis c = false := by simp [isParenthesis, closing, opening]
        exact ⟨c :: body, rfl, by rw [parentheses, List.filter_cons, other]; exact plain⟩

end Layout

end CallForm

-- Laying out a text that has been laid out. Without quotes the next
-- parenthesis alone tells whether an opening one is innermost, and laying
-- out keeps all parentheses in their order, so the second time the same
-- tokens are read but for blanks.
import CallForm.Proofs.Avoided
import CallForm.Proofs.Parentheses

namespace CallForm

namespace Layout

/-! ## Tokens but for blanks -/

/-- Tokens without the blanks among them. -/
def solid (row : List Token) : List Token := row.filter (· != .blank)

theorem solid_cons (token : Token) (rest : List Token) :
    solid (token :: rest) = solid [token] ++ solid rest :=
  List.filter_append [token] rest

/-- Blanks do not count when tokens are laid out. -/
theorem lay_solid (width depth : Nat) (row : List Token) :
    lay width depth (solid row) = lay width depth row := by
  induction row generalizing depth with
  | nil => rfl
  | cons token rest ih =>
    cases token with
    | blank => exact ih depth
    | opening | closing | comma | verbatim text =>
      exact congrArg (written width depth _ ++ ·) (ih _)

/-- A blank in front of a text changes its tokens by blanks only. -/
theorem solid_tokens_blank {c : Char} (h : isBlank c = true) (rest : List Char) :
    solid (tokens (c :: rest)) = solid (tokens rest) := by
  simp only [isBlank, Bool.or_eq_true, beq_iff_eq] at h
  rcases h with ((rfl | rfl) | rfl) | rfl
  all_goals
    rw [tokens_short (longToken_eq_none (by decide) (by decide) rest)]
    rfl

theorem solid_tokens_newline (width depth : Nat) (rest : List Char) :
    solid (tokens (newline width depth ++ rest)) = solid (tokens rest) := by
  have blanks (n : Nat) : solid (tokens (List.replicate n ' ' ++ rest)) = solid (tokens rest) := by
    induction n with
    | zero => rfl
    | succ n ih => exact (solid_tokens_blank (by decide) _).trans ih
  exact (solid_tokens_blank (by decide) _).trans (blanks _)

/-! ## One token after another -/

/-- What a token of one character becomes is read as the token again, in front of any text in which
an opening parenthesis finds what it found before. -/
theorem solid_tokens_written {c : Char} {token : Token} (h : ofChar c = some token)
    (quote : c ≠ '"') (width depth : Nat) {more : List Char}
    (opens : c = '(' → groupTail more = none) :
    solid (tokens (written width depth token ++ more)) = solid [token] ++ solid (tokens more) := by
  have short {c : Char} (quote : c ≠ '"') (opening : c ≠ '(') (rest : List Char) :
      solid (tokens (c :: rest)) = solid (ofChar c).toList ++ solid (tokens rest) := by
    rw [tokens_short (longToken_eq_none quote opening rest)]
    exact List.filter_append _ _
  unfold ofChar at h
  split at h
  · cases h
  split at h
  · rename_i opening
    cases h
    have unclosed : groupTail (newline width (depth + 1) ++ more) = none := by
      refine groupTail_eq_none_of_parentheses ?_ (opens (beq_iff_eq.mp opening))
      rw [parentheses_append, ← parentheses_ink (newline width (depth + 1)), ink_newline]
      rfl
    have single : longToken '(' (newline width (depth + 1) ++ more) = none := by
      simp [longToken, unclosed]
    change solid (tokens ('(' :: (newline width (depth + 1) ++ more))) = _
    rw [tokens_short single]
    exact congrArg (.opening :: ·) (solid_tokens_newline width (depth + 1) more)
  split at h
  · cases h
    rw [written, List.append_assoc, solid_tokens_newline]
    exact short (by decide) (by decide) more
  split at h
  · cases h
    change solid (tokens (',' :: (newline width depth ++ more))) = _
    rw [short (by decide) (by decide), solid_tokens_newline]
    rfl
  split at h
  · cases h
    rfl
  · rename_i lineEnd opening closing comma blank
    cases h
    have single : ofChar c = some (.verbatim [c]) := by
      simp only [ofChar, lineEnd, opening, closing, comma, blank]
      rfl
    change solid (tokens (c :: more)) = _
    rw [short quote (by simpa using opening), single]
    rfl

/-- A text without quotes that was laid out is read as the tokens it was read as before. -/
theorem solid_tokens_lay (width depth : Nat) {text : List Char} (unquoted : '"' ∉ text) :
    solid (tokens (lay width depth (tokens text) ++ ['\n'])) = solid (tokens text) := by
  fun_induction tokens text generalizing depth with
  | case1 =>
    rw [lay, List.nil_append, tokens_short (longToken_eq_none (by decide) (by decide) []), tokens]
    rfl
  | case2 c rest token after h _ ih =>
    obtain ⟨inside, rfl, ⟨rfl, _⟩ | ⟨rfl, found⟩⟩ := longToken_eq_some h
    · exact absurd List.mem_cons_self unquoted
    -- A longer token is written as it is, and it ends where it did whatever follows.
    · have later : '"' ∉ after := by
        rw [longToken_eq_append h, List.mem_append, not_or] at unquoted
        exact unquoted.2
      have again (more : List Char) :
          longToken '(' (inside ++ more) = some ('(' :: inside, more) := by
        simp [longToken, groupTail_append found]
      rw [lay, List.append_assoc]
      change solid (tokens ('(' :: (inside ++ (lay width depth (tokens after) ++ ['\n'])))) = _
      rw [tokens_long (again _), solid_cons, ih depth later, ← solid_cons]
  | case3 c rest h token single ih =>
    rw [List.mem_cons, not_or] at unquoted
    -- A parenthesis with another one inside has the same parentheses behind it as before, so it is
    -- not taken for an innermost one now.
    have opens : c = '(' →
        groupTail (lay width (depthAfter depth token) (tokens rest) ++ ['\n']) = none := by
      rintro rfl
      have inner : groupTail rest = none := by simpa [longToken] using h
      refine groupTail_eq_none_of_parentheses ?_ inner
      rw [parentheses_append, ← parentheses_ink (lay _ _ _), ink_lay_tokens, parentheses_ink]
      exact (List.append_nil _).symm
    rw [lay, List.append_assoc, solid_tokens_written single (Ne.symm unquoted.1) width depth opens,
      ih _ unquoted.2, ← solid_cons]
  | case4 c rest h single ih =>
    rw [List.mem_cons, not_or] at unquoted
    exact ih depth unquoted.2

end Layout

/-! ## The law -/

/-- A text that was laid out holds no mark if there was none once its tags were taken out. -/
theorem not_mem_layOutBy (width : Nat) {text : String}
    (unmarked : tagMark ∉ (stripTags text).toList) :
    tagMark ∉ (layOutBy width text).toList := by
  have visible : Layout.isBlank tagMark = false := by decide
  rw [← Layout.mem_ink visible, toList_layOutBy, Layout.ink_append, Layout.ink_lay_tokens,
    List.mem_append, Layout.mem_ink visible, Layout.mem_ink visible]
  exact not_or.mpr ⟨unmarked, by decide⟩

theorem layOutBy_layOutBy (width : Nat) {text : String} (unquoted : '"' ∉ (stripTags text).toList)
    (unmarked : tagMark ∉ (stripTags text).toList) :
    layOutBy width (layOutBy width text) = layOutBy width text := by
  have bare : stripTags (layOutBy width text) = layOutBy width text :=
    Unmarked.stripTags (not_mem_layOutBy width unmarked)
  rw [← String.toList_inj, toList_layOutBy, bare, toList_layOutBy, ← Layout.lay_solid,
    Layout.solid_tokens_lay width 0 unquoted, Layout.lay_solid]

/-- Laying a text out a second time changes nothing if the text holds neither quotes nor, once its
tags are taken out, marks, whether or not its parentheses match. The text of a function that is
written with identifiers and without string literals is such a text. -/
theorem laying_out_again_changes_nothing (width : Nat) :
    (∀ text : String, '"' ∉ (stripTags text).toList → tagMark ∉ (stripTags text).toList →
      layOutBy width (layOutBy width text) = layOutBy width text) ∧
    ∀ (env : Environment) (definition : FunctionDef), env.IsReadable → definition.IsNamed →
      definition.IsStringless → ∀ form, definition.compile env = .ok form →
        '"' ∉ (stripTags form.render).toList ∧ tagMark ∉ (stripTags form.render).toList ∧
          layOutBy width (layOutBy width form.render) = layOutBy width form.render := by
  refine ⟨fun text => layOutBy_layOutBy width, ?_⟩
  intro env definition readable named stringless form compiled
  have unquoted := definition.not_mem_stripTags readable named stringless compiled (.inl rfl)
  have unmarked := definition.not_mem_stripTags readable named stringless compiled (.inr rfl)
  exact ⟨unquoted, unmarked, layOutBy_layOutBy width unquoted unmarked⟩

/-- `def f(n): return n - f(n - 1)`, in two lines. -/
def FunctionDef.recursing : FunctionDef :=
  .mk "f" [⟨"n", ⟨1, 6⟩⟩]
    [.ret ⟨2, 4⟩ (some (.binary ⟨2, 11⟩ (.name ⟨2, 11⟩ "n") .sub
      (.call ⟨2, 15⟩ (.name ⟨2, 15⟩ "f")
        [.binary ⟨2, 17⟩ (.name ⟨2, 17⟩ "n") .sub (.number ⟨2, 21⟩ (.int 1))])))] ⟨1, 0⟩

theorem a_recursion_and_a_stray_parenthesis_are_laid_out_for_good :
    layOutBy 2 "f$1$0(g(x), y))(" = "f(\n  g(x),\n  y\n)\n)(\n  \n" ∧
      layOutBy 2 (layOutBy 2 "f$1$0(g(x), y))(") = layOutBy 2 "f$1$0(g(x), y))(" ∧
      ∃ form, FunctionDef.recursing.compile {} = .ok form ∧
        layOutBy 2 form.render =
          "define(\n  f,\n  n,\n  (\n    n-f(\n      (n - 1)\n    )\n  )\n)\n" ∧
        layOutBy 2 (layOutBy 2 form.render) = layOutBy 2 form.render := by
  have law := laying_out_again_changes_nothing 2
  obtain ⟨form, compiled⟩ : ∃ form, FunctionDef.recursing.compile {} = .ok form := ⟨_, rfl⟩
  have again := law.2 {} .recursing Environment.isReadable_default (by decide +kernel)
    (by decide +kernel) form compiled
  cases compiled
  refine ⟨by decide +kernel, law.1 _ (by decide +kernel) (by decide +kernel), _, rfl, ?_, again.2.2⟩
  decide +kernel

end CallForm

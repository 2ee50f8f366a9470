-- Quotes and marks in the text of a function. Whatever the text holds of
-- them once its tags are taken out stands in a name or in a string literal;
-- numbers and operators are written without.
import CallForm.Proofs.Grouped
import CallForm.Proofs.StrippedText

namespace CallForm

/-! ## Characters of a row -/

/-- A character of a row of tokens is a blank or stands in one of them. -/
theorem Row.mem {text : List Char} {tokens : List CallToken} (h : Row text tokens) {c : Char}
    (found : c ∈ text) : c = ' ' ∨ ∃ token ∈ tokens, c ∈ token.text.toList := by
  induction h with
  | nil => cases found
  | blank _ ih =>
    rcases List.mem_cons.mp found with rfl | later
    · exact .inl rfl
    · exact ih later
  | token token _ ih =>
    rcases List.mem_append.mp found with inside | later
    · exact .inr ⟨token, List.mem_cons_self, inside⟩
    · rcases ih later with blank | ⟨other, listed, inside⟩
      · exact .inl blank
      · exact .inr ⟨other, List.mem_cons_of_mem _ listed, inside⟩

/-- Taking the tags out of a text adds nothing to it. -/
theorem dropTags_sublist (inTag : Bool) (text : List Char) :
    (dropTags inTag text).Sublist text := by
  fun_induction dropTags inTag text with
  | case1 => exact .slnil
  | case2 _ c _ _ ih | case3 _ c _ _ _ ih => exact ih.cons c
  | case4 _ c _ _ _ ih => exact ih.cons_cons c

theorem mem_of_mem_stripTags {text : String} {c : Char} (h : c ∈ (stripTags text).toList) :
    c ∈ text.toList := by
  rw [stripTags, String.toList_ofList] at h
  exact (dropTags_sublist false text.toList).subset h

/-! ## Tokens without a character -/

/-- A token that does not hold a character, unless it is a string literal. -/
def CallToken.Avoids (d : Char) (token : CallToken) : Prop :=
  token.string? = none → d ∉ token.text.toList

/-- The text of compiled form without string literals does not hold what its tokens avoid. -/
theorem Ir.not_mem_render {ir : Ir} {d : Char} (blank : d ≠ ' ')
    (avoids : ∀ token ∈ ir.tokens, token.Avoids d) (plain : ir.strings = []) :
    d ∉ ir.render.toList := by
  intro found
  rcases ir.row_render.mem found with same | ⟨token, listed, inside⟩
  · exact blank same
  · exact avoids token listed (List.filterMap_eq_nil_iff.mp plain token listed) inside

theorem Ir.strings_stripped (ir : Ir) : ir.stripped.strings = ir.strings.map stripTags := by
  rw [strings, strings, stripped, tokens_mapLeaves, List.filterMap_map, List.map_filterMap]
  congr 1
  funext token
  cases token <;> rfl

/-- What lowering writes, with its tags taken out, holds a quote or a mark only in the names that it
is written with and in string literals. -/
theorem CallToken.Avoids.builds {d : Char} (hd : d = '"' ∨ d = tagMark) {env : Environment}
    {origins : List Origin}
    (hprimitives : ∀ member primitive, env.references.resolve? member = some primitive →
      d ∉ primitive.toList)
    (hnames : ∀ origin ∈ origins, ∀ name ∈ origin.names, d ∉ name.toList) :
    CallToken.Builds env origins fun token =>
      (token.mapLeaves Symbol.stripped stripTags).Avoids d := by
  have fixed : ∀ name ∈ Primitive.fixed, d ∉ name.toList := by
    rcases hd with rfl | rfl <;> decide
  have written (token : CallToken) (plain : '"' ∉ token.text.toList ∧ tagMark ∉ token.text.toList) :
      token.Avoids d := by
    intro _
    rcases hd with rfl | rfl
    · exact plain.1
    · exact plain.2
  constructor
  case symbol =>
    intro head sourced _ found
    exact sourced.good_name fixed hprimitives hnames (mem_of_mem_stripTags found)
  case number =>
    intro value _ found
    have digit := Fragment.numberChars value d found
    rcases hd with rfl | rfl <;> cases digit
  case string => exact fun _ literal => absurd literal (Option.some_ne_none _)
  case operator =>
    intro op
    apply written
    cases op <;> decide
  all_goals exact written _ (by decide)

/-- The tokens of a function's text without tags avoid the quote or the mark if the names do. -/
theorem FunctionDef.avoids_compile {d : Char} (hd : d = '"' ∨ d = tagMark) {env : Environment}
    {definition : FunctionDef} {form : Ir} (compiled : definition.compile env = .ok form)
    (hprimitives : ∀ member primitive, env.references.resolve? member = some primitive →
      d ∉ primitive.toList)
    (hnames : ∀ origin ∈ definition.origins, ∀ name ∈ origin.names, d ∉ name.toList) :
    ∀ token ∈ form.stripped.tokens, token.Avoids d := by
  have built := definition.built_compile
    (Ir.AllTokens.builds (CallToken.Avoids.builds hd hprimitives hnames)) compiled
  intro token found
  rw [Ir.stripped, Ir.tokens_mapLeaves, List.mem_map] at found
  obtain ⟨source, listed, rfl⟩ := found
  exact built source listed

/-- No identifier holds a quote or a mark. -/
theorem not_mem_identifier {name : String} (h : isIdentifier name = true) {d : Char}
    (hd : d = '"' ∨ d = tagMark) : d ∉ name.toList := by
  have other : isIdentifierStart d = false ∧ isIdentifierPart d = false := by
    rcases hd with rfl | rfl <;> decide
  unfold isIdentifier at h
  split at h
  · cases h
  · rename_i c rest same
    rw [Bool.and_eq_true, List.all_eq_true] at h
    rw [same, List.mem_cons, not_or]
    refine ⟨?_, fun found => ?_⟩
    · rintro rfl
      rw [h.1] at other
      cases other.1
    · rw [h.2 d found] at other
      cases other.2

/-! ## String literals -/

/-- The value of a part that is a string literal. -/
def Origin.string? : Origin → Option String
  | .expr (.string _ value) => some value
  | _ => none

/-- A function that is written without string literals. -/
def FunctionDef.IsStringless (definition : FunctionDef) : Prop :=
  ∀ origin ∈ definition.origins, origin.string? = none

instance (definition : FunctionDef) : Decidable definition.IsStringless :=
  inferInstanceAs (Decidable (∀ origin ∈ definition.origins, _))

/-- The string literals of compiled form are string literals of the function. -/
theorem FunctionDef.mem_strings_compile {env : Environment} {definition : FunctionDef} {form : Ir}
    (compiled : definition.compile env = .ok form) {value : String} (found : value ∈ form.strings) :
    ∃ origin ∈ definition.origins, origin.string? = some value := by
  have kept : CallToken.Builds env definition.origins fun token =>
      ∀ value, token = .string value →
        ∃ origin ∈ definition.origins, origin.string? = some value := by
    constructor
    case string =>
      intro pos value listed other same
      cases same
      exact ⟨_, listed, rfl⟩
    all_goals
      intros
      contradiction
  have built := definition.built_compile (Ir.AllTokens.builds kept) compiled
  exact built _ (Ir.mem_strings.mp found) value rfl

theorem FunctionDef.IsStringless.strings_eq_nil {env : Environment} {definition : FunctionDef}
    (h : definition.IsStringless) {form : Ir} (compiled : definition.compile env = .ok form) :
    form.strings = [] := by
  rw [List.eq_nil_iff_forall_not_mem]
  intro value found
  obtain ⟨origin, listed, same⟩ := definition.mem_strings_compile compiled found
  rw [h origin listed] at same
  cases same

/-- A function that is written with identifiers and without string literals compiles to a text that
holds no quotes and, once its tags are taken out, no marks. -/
theorem FunctionDef.not_mem_stripTags {env : Environment} {definition : FunctionDef} {form : Ir}
    (readable : env.IsReadable) (named : definition.IsNamed) (stringless : definition.IsStringless)
    (compiled : definition.compile env = .ok form) {d : Char} (hd : d = '"' ∨ d = tagMark) :
    d ∉ (stripTags form.render).toList := by
  rw [form.stripTags_render_eq]
  apply Ir.not_mem_render
  · rcases hd with rfl | rfl <;> decide
  · apply definition.avoids_compile hd compiled
    · intro member primitive found
      exact not_mem_identifier (readable member primitive found) hd
    · intro origin listed name belongs
      exact not_mem_identifier (named origin listed name belongs) hd
  · rw [form.strings_stripped, stringless.strings_eq_nil compiled, List.map_nil]

end CallForm

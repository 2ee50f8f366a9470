-- String literals in a text that is laid out. Where no tile ends inside a
-- literal, every tile is laid out with the literals it has, and blanks are
-- dropped and added outside of literals only.
import CallForm.Proofs.LiteralTiles

namespace CallForm

namespace Layout

/-! ## Laying out tiles of pieces -/

theorem inked_append (row more : List Piece) : inked (row ++ more) = inked row ++ inked more :=
  List.filter_append row more

theorem inked_plain (text : List Char) : inked (text.map .plain) = (ink text).map .plain := by
  rw [inked, List.filter_map]
  rfl

theorem filterMap_literal_inked (row : List Piece) :
    (inked row).filterMap Piece.literal? = row.filterMap Piece.literal? := by
  induction row with
  | nil => rfl
  | cons piece rest ih =>
    cases piece with
    | literal text => exact congrArg (text :: ·) ih
    | plain c =>
      rw [inked, List.filter_cons]
      split <;> exact ih

/-- A tile of which no token is read has nothing but blanks. -/
theorem inked_of_tokenOf?_none {row : List Piece} (whole : ∀ piece ∈ row, piece.IsWhole)
    (h : tokenOf? (texts row) = none) : inked row = [] := by
  unfold tokenOf? at h
  split at h
  · rename_i c single
    rw [eq_plain_of_texts whole single, ofChar_eq_none h]
    rfl
  · cases h

/-- What the token of a tile becomes has the pieces of the tile but for blanks. -/
theorem exists_written {row : List Piece} (whole : ∀ piece ∈ row, piece.IsWhole) {token : Token}
    (h : tokenOf? (texts row) = some token) (width depth : Nat) :
    ∃ laid, texts laid = written width depth token ∧ (∀ piece ∈ laid, piece.IsWhole) ∧
      inked laid = inked row := by
  unfold tokenOf? at h
  split at h
  · rename_i c single
    obtain rfl := eq_plain_of_texts whole single
    have kept := ink_written_ofChar h width depth
    -- All that is written for a single character stands outside of literals: but for blanks it is
    -- that character, which is no quote.
    refine ⟨(written width depth token).map .plain, texts_plain _, ?_, ?_⟩
    · intro piece found
      obtain ⟨d, listed, rfl⟩ := List.mem_map.mp found
      rintro rfl
      have visible : isBlank '"' = false := by decide
      rw [← mem_ink visible, kept, mem_ink visible, List.mem_singleton] at listed
      exact whole _ List.mem_cons_self listed.symm
    · rw [inked_plain, kept]
      exact (inked_plain [c]).symm
  · cases h
    exact ⟨row, rfl, whole, rfl⟩

theorem exists_laid (width depth : Nat) {rows : List (List Piece)}
    (whole : ∀ piece ∈ rows.flatten, piece.IsWhole) :
    ∃ laid, texts laid = lay width depth ((rows.map texts).filterMap tokenOf?) ∧
      (∀ piece ∈ laid, piece.IsWhole) ∧ inked laid = inked rows.flatten := by
  induction rows generalizing depth with
  | nil => exact ⟨[], rfl, fun _ found => absurd found List.not_mem_nil, rfl⟩
  | cons row rest ih =>
    obtain ⟨wholeRow, wholeRest⟩ := List.forall_mem_append.mp whole
    rw [List.flatten_cons, inked_append, List.map_cons]
    cases found : tokenOf? (texts row) with
    | none =>
      rw [List.filterMap_cons_none found, inked_of_tokenOf?_none wholeRow found]
      exact ih depth wholeRest
    | some token =>
      obtain ⟨first, text, wholeFirst, keptFirst⟩ := exists_written wholeRow found width depth
      obtain ⟨others, textOthers, wholeOthers, keptOthers⟩ := ih (depthAfter depth token) wholeRest
      rw [List.filterMap_cons_some found, lay]
      refine ⟨first ++ others, ?_, List.forall_mem_append.mpr ⟨wholeFirst, wholeOthers⟩, ?_⟩
      · rw [texts_append, text, textOthers]
      · rw [inked_append, keptFirst, keptOthers]

end Layout

open Layout

/-- Laying a text out keeps its string literals, and all else but tags and blanks. -/
def KeepsLiterals (width : Nat) (text : String) : Prop :=
  literals (layOutBy width text).toList = literals (stripTags text).toList ∧
    squeezed (layOutBy width text).toList = squeezed (stripTags text).toList

instance (width : Nat) (text : String) : Decidable (KeepsLiterals width text) :=
  inferInstanceAs (Decidable (_ ∧ _))

theorem keepsLiterals_of_isOpaque {text : String} (h : IsOpaque (stripTags text).toList)
    (paired : IsPaired (stripTags text).toList) (width : Nat) : KeepsLiterals width text := by
  obtain ⟨rows, same, tiled⟩ := h
  have whole := paired.isWhole
  rw [← same] at whole
  obtain ⟨laid, laidOut, wholeLaid, kept⟩ := exists_laid width 0 whole
  rw [tiled, ← tokens_eq_filterMap] at laidOut
  have wholeLine : ∀ piece ∈ laid ++ [Piece.plain '\n'], piece.IsWhole := by
    refine List.forall_mem_append.mpr ⟨wholeLaid, List.forall_mem_singleton.mpr ?_⟩
    exact (by decide : '\n' ≠ '"')
  have read : pieces (layOutBy width text).toList = laid ++ [.plain '\n'] := by
    rw [toList_layOutBy, ← laidOut, ← pieces_texts wholeLine, texts_append]
    rfl
  have line : inked (laid ++ [.plain '\n']) = inked (pieces (stripTags text).toList) := by
    rw [inked_append, kept, same]
    exact List.append_nil _
  constructor
  · rw [literals, literals, read, ← filterMap_literal_inked, line, filterMap_literal_inked]
  · rw [squeezed, squeezed, read, line]

/-! ## The law -/

/-- A text that holds no quote. -/
def Unquoted (text : String) : Prop := '"' ∉ text.toList

instance (text : String) : Decidable (Unquoted text) := inferInstanceAs (Decidable (¬ _))

/-- No primitive of the reference table holds a quote. -/
def Environment.IsUnquoted (env : Environment) : Prop :=
  ∀ member primitive, env.references.resolve? member = some primitive → Unquoted primitive

/-- No name that a function is written with holds a quote. -/
def FunctionDef.IsUnquoted (definition : FunctionDef) : Prop :=
  ∀ origin ∈ definition.origins, ∀ name ∈ origin.names, Unquoted name

instance (definition : FunctionDef) : Decidable definition.IsUnquoted :=
  inferInstanceAs (Decidable (∀ origin ∈ definition.origins, _))

/-- Without its tags, the text of a function has the string literals of its compiled form, as they
are written, if no name holds a quote and no literal a mark. Where its quotes are paired, every
literal stands inside one of the tiles that it is laid out by exactly if no parenthesis outside of
literals has a closing one inside a literal for the next one, and then laying it out keeps all
literals and drops and adds only blanks outside of them. -/
theorem string_literals_are_kept_where_no_parenthesis_closes_in_one (width : Nat)
    (env : Environment) (definition : FunctionDef) (form : Ir)
    (compiled : definition.compile env = .ok form) :
    (env.IsUnquoted → definition.IsUnquoted →
      IsPaired (stripTags form.render).toList ∧
        ((∀ value ∈ form.strings, Unmarked value) →
          literals (stripTags form.render).toList =
            form.strings.map fun value => (Fragment.quoted value).toList)) ∧
    (IsPaired (stripTags form.render).toList →
      (IsOpaque (stripTags form.render).toList ↔
        isShielded (pieces (stripTags form.render).toList) = true) ∧
      (isShielded (pieces (stripTags form.render).toList) = true →
        KeepsLiterals width form.render)) := by
  constructor
  · intro henv hnames
    have avoids := definition.avoids_compile (.inl rfl) compiled henv hnames
    obtain ⟨paired, found⟩ := Ir.literals_render avoids
    rw [form.stripTags_render_eq]
    refine ⟨paired, fun unmarked => ?_⟩
    rw [found, form.strings_stripped, List.map_map]
    apply List.map_congr_left
    intro value listed
    rw [Function.comp_apply, (unmarked value listed).stripTags]
  · intro paired
    have exactly := isOpaque_iff paired
    exact ⟨exactly, fun shielded => keepsLiterals_of_isOpaque (exactly.mpr shielded) paired width⟩

/-- The primitives known to every compilation hold no quote. -/
theorem Environment.isUnquoted_default : ({} : Environment).IsUnquoted := by
  intro member primitive found
  exact not_mem_identifier (Environment.isReadable_default member primitive found) (.inl rfl)

/-- `def f(): return print(first, second)`, where both are string literals. -/
def FunctionDef.printing (first second : String) : FunctionDef :=
  .mk "f" []
    [.ret ⟨2, 4⟩ (some (.call ⟨2, 11⟩ (.name ⟨2, 11⟩ "print")
      [.string ⟨2, 17⟩ first, .string ⟨2, 27⟩ second]))] ⟨1, 0⟩

theorem a_parenthesis_that_opens_in_a_literal_shields_it :
    ∃ form, (FunctionDef.printing "a, (b)" "c d").compile {} = .ok form ∧
      layOutBy 4 form.render =
        "define(\n    f,\n    cout(\n        \"a, (b)\",\n        \"c d\"\n    )\n)\n" ∧
      literals (stripTags form.render).toList = ["\"a, (b)\"".toList, "\"c d\"".toList] ∧
      IsOpaque (stripTags form.render).toList ∧ KeepsLiterals 4 form.render := by
  obtain ⟨form, compiled⟩ :
      ∃ form, (FunctionDef.printing "a, (b)" "c d").compile {} = .ok form := ⟨_, rfl⟩
  have law := string_literals_are_kept_where_no_parenthesis_closes_in_one 4 {}
    (.printing "a, (b)" "c d") form compiled
  cases compiled
  have names : (FunctionDef.printing "a, (b)" "c d").IsUnquoted := by decide +kernel
  obtain ⟨paired, found⟩ := law.1 Environment.isUnquoted_default names
  obtain ⟨exactly, kept⟩ := law.2 paired
  refine ⟨_, rfl, by decide +kernel, ?_, exactly.mpr (by decide +kernel), kept (by decide +kernel)⟩
  exact (found (by decide +kernel)).trans (by decide +kernel)

/-- Behind a literal with a closing parenthesis alone, a blank inside another literal is dropped. -/
theorem a_parenthesis_that_closes_in_a_literal_breaks_the_next_one :
    ∃ form, (FunctionDef.printing "a)b" "c d").compile {} = .ok form ∧
      ({} : Environment).IsUnquoted ∧ (FunctionDef.printing "a)b" "c d").IsUnquoted ∧
      (∀ value ∈ form.strings, Unmarked value) ∧
      stripTags form.render = "define(f, cout(\"a)b\", \"c d\"))" ∧
      layOutBy 4 form.render = "define(\n    f,\n    cout(\"a)b\", \"cd\"\n)\n)\n" ∧
      literals (stripTags form.render).toList = ["\"a)b\"".toList, "\"c d\"".toList] ∧
      literals (layOutBy 4 form.render).toList = ["\"a)b\"".toList, "\"cd\"".toList] ∧
      ¬ KeepsLiterals 4 form.render :=
  ⟨_, rfl, Environment.isUnquoted_default, by decide +kernel, by decide +kernel, by decide +kernel,
    by decide +kernel, by decide +kernel, by decide +kernel, by decide +kernel⟩

end CallForm

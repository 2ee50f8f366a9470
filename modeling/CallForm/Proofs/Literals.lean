-- A text cut into its string literals and the characters outside of them. A
-- quote opens a literal wherever one can be closed behind it, and nothing
-- else does. In the text of a function these are the literals that its
-- compiled form has.
import CallForm.Proofs.Avoided
import CallForm.Proofs.Tiling

namespace CallForm

namespace Layout

/-! ## Pieces -/

/-- A part of a text: a string literal with its quotes, or one character outside of literals. -/
inductive Piece
  | literal (text : List Char)
  | plain (c : Char)
deriving Repr, DecidableEq

namespace Piece

/-- The text of a piece. -/
def text : Piece → List Char
  | .literal text => text
  | .plain c => [c]

/-- The string literal that a piece is. -/
def literal? : Piece → Option (List Char)
  | .literal text => some text
  | .plain _ => none

/-- Whether a piece is a blank outside of literals. -/
def isBlank : Piece → Bool
  | .literal _ => false
  | .plain c => Layout.isBlank c

/-- A piece that is read as itself wherever it stands: a literal that closes at its end, or a
character that is no quote. -/
def IsWhole : Piece → Prop
  | .literal text => ∃ inside, text = '"' :: inside ∧ quotedTail inside = some (inside, [])
  | .plain c => c ≠ '"'

end Piece

/-- The pieces of a text, in order. A quote behind which no literal closes is a plain character. -/
def pieces : List Char → List Piece
  | [] => []
  | c :: rest =>
    if c = '"' then
      match h : quotedTail rest with
      | some (inside, after) =>
        have := quotedTail_length h
        .literal ('"' :: inside) :: pieces after
      | none => .plain c :: pieces rest
    else .plain c :: pieces rest
termination_by text => text.length
decreasing_by all_goals simp only [List.length_cons]; omega

/-- The text of several pieces, in order. -/
def texts (row : List Piece) : List Char := row.flatMap Piece.text

/-- The string literals of a text, in order. -/
def literals (text : List Char) : List (List Char) := (pieces text).filterMap Piece.literal?

/-- Pieces without the blanks outside of literals. -/
def inked (row : List Piece) : List Piece := row.filter (!·.isBlank)

/-- A text without the blanks, tabs and line ends outside of its literals. -/
def squeezed (text : List Char) : List Char := texts (inked (pieces text))

/-- A text in which every quote outside of literals opens one. -/
def IsPaired (text : List Char) : Prop := .plain '"' ∉ pieces text

instance (text : List Char) : Decidable (IsPaired text) :=
  inferInstanceAs (Decidable (_ ∉ pieces text))

@[simp] theorem texts_append (row more : List Piece) :
    texts (row ++ more) = texts row ++ texts more :=
  List.flatMap_append

theorem texts_plain (text : List Char) : texts (text.map .plain) = text := by
  induction text with
  | nil => rfl
  | cons c rest ih => exact congrArg (c :: ·) ih

theorem pieces_literal {rest inside after : List Char}
    (h : quotedTail rest = some (inside, after)) :
    pieces ('"' :: rest) = .literal ('"' :: inside) :: pieces after := by
  rw [pieces, if_pos rfl]
  split
  · rename_i found
    rw [h] at found
    cases found
    rfl
  · rename_i found
    rw [h] at found
    cases found

theorem pieces_plain {c : Char} (h : c ≠ '"') (rest : List Char) :
    pieces (c :: rest) = .plain c :: pieces rest := by
  rw [pieces, if_neg h]

/-- The pieces of a text cover it. -/
theorem texts_pieces (text : List Char) : texts (pieces text) = text := by
  fun_induction pieces text with
  | case1 => rfl
  | case2 rest inside after h _ ih =>
    change '"' :: inside ++ texts (pieces after) = _
    rw [ih, quotedTail_eq_append h, List.cons_append]
  | case3 rest _ ih => exact congrArg ('"' :: ·) ih
  | case4 c rest _ ih => exact congrArg (c :: ·) ih

/-- Where a quoted text closes does not depend on what follows it. -/
theorem quotedTail_append {text inside after : List Char}
    (h : quotedTail text = some (inside, after)) (more : List Char) :
    quotedTail (inside ++ more) = some (inside, more) := by
  fun_induction quotedTail text generalizing inside after with
  | case1 | case2 | case5 => cases h
  | case3 c rest lineEnd ih =>
    obtain ⟨⟨tail, others⟩, found, same⟩ := Option.map_eq_some_iff.mp h
    cases same
    simp [quotedTail, lineEnd, ih found]
  | case4 c rest _ quote =>
    cases h
    rw [beq_iff_eq.mp quote]
    rfl
  | case6 c rest _ quote backslash ih =>
    obtain ⟨⟨tail, others⟩, found, same⟩ := Option.map_eq_some_iff.mp h
    cases same
    rw [List.cons_append, quotedTail]
    · simp [quote, backslash, ih found]
    · rintro d others rfl
      exact absurd backslash (by decide)

/-- A quoted text ends with a quote. -/
theorem quotedTail_eq_concat {text inside after : List Char}
    (h : quotedTail text = some (inside, after)) : ∃ body, inside = body ++ ['"'] := by
  fun_induction quotedTail text generalizing inside after with
  | case1 | case2 | case5 => cases h
  | case3 c rest _ ih =>
    obtain ⟨⟨tail, others⟩, found, same⟩ := Option.map_eq_some_iff.mp h
    cases same
    obtain ⟨body, rfl⟩ := ih found
    exact ⟨'\\' :: c :: body, rfl⟩
  | case4 c rest _ quote =>
    cases h
    exact ⟨[], by rw [beq_iff_eq.mp quote]; rfl⟩
  | case6 c rest _ _ _ ih =>
    obtain ⟨⟨tail, others⟩, found, same⟩ := Option.map_eq_some_iff.mp h
    cases same
    obtain ⟨body, rfl⟩ := ih found
    exact ⟨c :: body, rfl⟩

/-- The pieces of a text in which quotes are paired are whole. -/
theorem IsPaired.isWhole {text : List Char} (h : IsPaired text) :
    ∀ piece ∈ pieces text, piece.IsWhole := by
  unfold IsPaired at h
  fun_induction pieces text with
  | case1 =>
    intro piece found
    cases found
  | case2 rest inside after closed _ ih =>
    rw [List.mem_cons, not_or] at h
    have again := quotedTail_append closed []
    rw [List.append_nil] at again
    exact List.forall_mem_cons.mpr ⟨⟨inside, rfl, again⟩, ih h.2⟩
  | case3 rest _ ih => exact absurd List.mem_cons_self h
  | case4 c rest quote ih =>
    rw [List.mem_cons, not_or] at h
    exact List.forall_mem_cons.mpr ⟨quote, ih h.2⟩

/-- Whole pieces are read as themselves. -/
theorem pieces_texts {row : List Piece} (h : ∀ piece ∈ row, piece.IsWhole) :
    pieces (texts row) = row := by
  induction row with
  | nil =>
    rw [texts, List.flatMap_nil, pieces]
  | cons piece rest ih =>
    obtain ⟨first, others⟩ := List.forall_mem_cons.mp h
    cases piece with
    | literal text =>
      obtain ⟨inside, rfl, closed⟩ := first
      change pieces ('"' :: (inside ++ texts rest)) = _
      rw [pieces_literal (quotedTail_append closed (texts rest)), ih others]
    | plain c =>
      change pieces (c :: texts rest) = _
      rw [pieces_plain first, ih others]

theorem isPaired_texts {row : List Piece} (h : ∀ piece ∈ row, piece.IsWhole) :
    IsPaired (texts row) := by
  rw [IsPaired, pieces_texts h]
  exact fun found => h _ found rfl

theorem Piece.IsWhole.text_ne_nil {piece : Piece} (h : piece.IsWhole) : piece.text ≠ [] := by
  cases piece with
  | literal text =>
    obtain ⟨inside, rfl, _⟩ := h
    exact List.cons_ne_nil _ _
  | plain c => exact List.cons_ne_nil _ _

theorem texts_eq_nil {row : List Piece} (whole : ∀ piece ∈ row, piece.IsWhole)
    (h : texts row = []) : row = [] := by
  cases row with
  | nil => rfl
  | cons piece rest =>
    exact absurd (List.append_eq_nil_iff.mp h).1 (whole piece List.mem_cons_self).text_ne_nil

/-- A whole piece of one character is that character. -/
theorem eq_plain_of_texts {row : List Piece} (whole : ∀ piece ∈ row, piece.IsWhole) {c : Char}
    (h : texts row = [c]) : row = [.plain c] := by
  rcases row with _ | ⟨piece, rest⟩
  · cases h
  · cases piece with
    | literal text =>
      obtain ⟨inside, rfl, closed⟩ := whole _ List.mem_cons_self
      have short := (List.append_eq_nil_iff.mp (List.cons.inj h).2).1
      rw [short] at closed
      cases closed
    | plain d =>
      obtain ⟨rfl, others⟩ := List.cons.inj h
      rw [texts_eq_nil (List.forall_mem_cons.mp whole).2 others]

/-! ## Literals in compiled form -/

/-- A string literal closes where it ends, whatever its value. -/
theorem quotedTail_escape (value rest : List Char) :
    quotedTail (Fragment.escape value ++ '"' :: rest) =
      some (Fragment.escape value ++ ['"'], rest) := by
  induction value with
  | nil => rfl
  | cons c others ih =>
    unfold Fragment.escape
    split
    · rename_i escaped
      rcases escaped with rfl | rfl <;> simp [quotedTail, ih]
    · rename_i plain
      rw [not_or] at plain
      rw [List.cons_append, quotedTail]
      · simp [plain.1, plain.2, ih]
      · rintro d others rfl
        exact absurd rfl plain.2

theorem isWhole_quoted (value : String) :
    (Piece.literal (Fragment.quoted value).toList).IsWhole := by
  refine ⟨Fragment.escape value.toList ++ ['"'], ?_, ?_⟩
  · simp [Fragment.quoted]
  · have closed := quotedTail_escape value.toList []
    simpa using closed

/-- Tokens that hold no quote but in their string literals are written in whole pieces, and these
have the literals of the tokens. -/
theorem exists_pieces {text : List Char} {tokens : List CallToken} (h : Row text tokens)
    (avoids : ∀ token ∈ tokens, token.Avoids '"') :
    ∃ row, texts row = text ∧ (∀ piece ∈ row, piece.IsWhole) ∧
      row.filterMap Piece.literal? =
        (tokens.filterMap CallToken.string?).map fun value => (Fragment.quoted value).toList := by
  induction h with
  | nil => exact ⟨[], rfl, fun _ found => absurd found List.not_mem_nil, rfl⟩
  | blank _ ih =>
    obtain ⟨row, rfl, whole, same⟩ := ih avoids
    refine ⟨.plain ' ' :: row, rfl, List.forall_mem_cons.mpr ⟨?_, whole⟩, same⟩
    exact (by decide : ' ' ≠ '"')
  | token token _ ih =>
    obtain ⟨first, others⟩ := List.forall_mem_cons.mp avoids
    obtain ⟨row, rfl, whole, same⟩ := ih others
    cases kind : token.string? with
    | some value =>
      cases token <;> cases kind
      refine ⟨.literal (Fragment.quoted value).toList :: row, rfl, ?_, ?_⟩
      · exact List.forall_mem_cons.mpr ⟨isWhole_quoted value, whole⟩
      · exact congrArg ((Fragment.quoted value).toList :: ·) same
    | none =>
      have unquoted : ∀ piece ∈ token.text.toList.map Piece.plain, piece.IsWhole := by
        intro piece found
        obtain ⟨c, listed, rfl⟩ := List.mem_map.mp found
        rintro rfl
        exact first kind listed
      refine ⟨token.text.toList.map .plain ++ row, ?_, ?_, ?_⟩
      · rw [texts_append, texts_plain]
      · exact List.forall_mem_append.mpr ⟨unquoted, whole⟩
      · rw [List.filterMap_append, List.filterMap_cons_none kind, ← same, List.filterMap_map]
        exact congrArg (· ++ _) (List.filterMap_eq_nil_iff.mpr fun _ _ => rfl)

end Layout

/-- In the text of compiled form that holds no quote but in string literals, all quotes are paired
and the literals are those of the compiled form, each as it is written. -/
theorem Ir.literals_render {ir : Ir} (avoids : ∀ token ∈ ir.tokens, token.Avoids '"') :
    Layout.IsPaired ir.render.toList ∧
      Layout.literals ir.render.toList =
        ir.strings.map fun value => (Fragment.quoted value).toList := by
  obtain ⟨row, same, whole, found⟩ := Layout.exists_pieces ir.row_render avoids
  rw [← same]
  refine ⟨Layout.isPaired_texts whole, ?_⟩
  rw [Layout.literals, Layout.pieces_texts whole, found, strings]

end CallForm

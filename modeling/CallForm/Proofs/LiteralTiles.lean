-- Which texts have their string literals inside tiles. The end of an
-- innermost parenthesis is looked for without regard to literals, so a tile
-- that starts outside of literals can end inside one. That happens exactly
-- where the next parenthesis is a closing one in a literal.
import CallForm.Proofs.Literals
import CallForm.Proofs.Parentheses

namespace CallForm

namespace Layout

/-! ## Parentheses that close in a literal -/

/-- Whether the next parenthesis is a closing one that stands in a literal. -/
def closesInLiteral : List Piece → Bool
  | [] => false
  | .literal text :: rest =>
    match (parentheses text).head? with
    | some next => next == ')'
    | none => closesInLiteral rest
  | .plain c :: rest => !isParenthesis c && closesInLiteral rest

/-- Whether behind no opening parenthesis outside of literals the next one closes in a literal. -/
def isShielded : List Piece → Bool
  | [] => true
  | .literal _ :: rest => isShielded rest
  | .plain c :: rest => !(c == '(' && closesInLiteral rest) && isShielded rest

/-- Whether every literal of a text stands inside one of its tiles: the pieces of the text are those
of its tiles. -/
def IsOpaque (text : List Char) : Prop :=
  ∃ rows : List (List Piece), rows.flatten = pieces text ∧ rows.map texts = tiles text

/-- A parenthesis that does not close in a literal ends between two pieces. -/
theorem exists_group {row : List Piece} (apart : closesInLiteral row = false)
    {inside after : List Char} (h : groupTail (texts row) = some (inside, after)) :
    ∃ group rest, row = group ++ rest ∧ texts group = inside ∧ texts rest = after := by
  induction row generalizing inside after with
  | nil => cases h
  | cons piece rest ih =>
    cases piece with
    | literal text =>
      change groupTail (text ++ texts rest) = _ at h
      unfold closesInLiteral at apart
      split at apart
      · rename_i next found
        have closing : (parentheses (text ++ texts rest)).head? = some ')' :=
          (groupTail_isSome _).mp (by rw [h]; rfl)
        rw [parentheses_append, List.head?_append, found] at closing
        cases closing
        cases apart
      · rename_i found
        rw [groupTail_through (List.head?_eq_none_iff.mp found)] at h
        obtain ⟨⟨tail, others⟩, later, same⟩ := Option.map_eq_some_iff.mp h
        cases same
        obtain ⟨group, behind, rfl, rfl, rfl⟩ := ih apart later
        exact ⟨.literal text :: group, behind, rfl, rfl, rfl⟩
    | plain c =>
      change groupTail (c :: texts rest) = _ at h
      unfold groupTail at h
      split at h
      · cases h
        exact ⟨[.plain c], rest, rfl, rfl, rfl⟩
      · split at h
        · cases h
        · rename_i closing opening
          obtain ⟨⟨tail, others⟩, later, same⟩ := Option.map_eq_some_iff.mp h
          cases same
          have further : closesInLiteral rest = false := by
            simpa [closesInLiteral, isParenthesis, closing, opening] using apart
          obtain ⟨group, behind, rfl, rfl, rfl⟩ := ih further later
          exact ⟨.plain c :: group, behind, rfl, rfl, rfl⟩

/-- A parenthesis that closes in a literal does close. -/
theorem groupTail_isSome_of_closesInLiteral {row : List Piece} (h : closesInLiteral row = true) :
    (groupTail (texts row)).isSome = true := by
  rw [groupTail_isSome]
  induction row with
  | nil => cases h
  | cons piece rest ih =>
    cases piece with
    | literal text =>
      change (parentheses (text ++ texts rest)).head? = _
      rw [parentheses_append, List.head?_append]
      unfold closesInLiteral at h
      split at h
      · rename_i next found
        rw [found, beq_iff_eq.mp h]
        rfl
      · rename_i found
        rw [found]
        exact ih h
    | plain c =>
      obtain ⟨other, later⟩ := Bool.and_eq_true_iff.mp h
      change (parentheses (c :: texts rest)).head? = _
      rw [parentheses, List.filter_cons_of_neg (by simpa using other)]
      exact ih later

/-! ## Tiles of pieces -/

theorem tiles_literal {inside : List Char} (closed : quotedTail inside = some (inside, []))
    (rest : List Piece) :
    tiles (texts (.literal ('"' :: inside) :: rest)) = ('"' :: inside) :: tiles (texts rest) := by
  have long : longToken '"' (inside ++ texts rest) = some ('"' :: inside, texts rest) := by
    simp [longToken, quotedTail_append closed]
  exact tiles_long long

theorem tiles_group {rest : List Piece} {inside after : List Char}
    (h : groupTail (texts rest) = some (inside, after)) :
    tiles (texts (.plain '(' :: rest)) = ('(' :: inside) :: tiles after := by
  have long : longToken '(' (texts rest) = some ('(' :: inside, after) := by
    simp [longToken, h]
  exact tiles_long long

theorem tiles_plain {c : Char} (quote : c ≠ '"') {rest : List Piece}
    (h : c = '(' → groupTail (texts rest) = none) :
    tiles (texts (.plain c :: rest)) = [c] :: tiles (texts rest) := by
  have short : longToken c (texts rest) = none := by
    by_cases opening : c = '('
    · simp [longToken, quote, h opening]
    · exact longToken_eq_none quote opening _
  exact tiles_short short

theorem isShielded_of_append (row : List Piece) {more : List Piece}
    (h : isShielded (row ++ more) = true) : isShielded more = true := by
  induction row with
  | nil => exact h
  | cons piece rest ih =>
    cases piece with
    | literal text => exact ih h
    | plain c => exact ih (Bool.and_eq_true_iff.mp h).2

/-- Where no parenthesis closes in a literal, the tiles are made of pieces. -/
theorem exists_rows : ∀ row : List Piece, (∀ piece ∈ row, piece.IsWhole) → isShielded row = true →
    ∃ rows : List (List Piece), rows.flatten = row ∧ rows.map texts = tiles (texts row)
  | [], _, _ => ⟨[], rfl, by rw [texts, List.flatMap_nil, tiles]; rfl⟩
  | .literal text :: rest, whole, shielded => by
    obtain ⟨⟨inside, rfl, closed⟩, others⟩ := List.forall_mem_cons.mp whole
    obtain ⟨rows, rfl, same⟩ := exists_rows rest others shielded
    refine ⟨[.literal ('"' :: inside)] :: rows, rfl, ?_⟩
    rw [tiles_literal closed, ← same]
    simp [texts, Piece.text]
  | .plain c :: rest, whole, shielded => by
    obtain ⟨quote, others⟩ := List.forall_mem_cons.mp whole
    rw [isShielded, Bool.and_eq_true_iff] at shielded
    by_cases grouped : c = '(' ∧ (groupTail (texts rest)).isSome
    -- The tile ends with a parenthesis outside of literals, so it ends between two pieces.
    · obtain ⟨rfl, closes⟩ := grouped
      obtain ⟨⟨inside, after⟩, found⟩ := Option.isSome_iff_exists.mp closes
      have apart : closesInLiteral rest = false := by simpa using shielded.1
      obtain ⟨group, more, rfl, rfl, rfl⟩ := exists_group apart found
      obtain ⟨rows, rfl, same⟩ := exists_rows more (List.forall_mem_append.mp others).2
        (isShielded_of_append group shielded.2)
      refine ⟨(.plain '(' :: group) :: rows, rfl, ?_⟩
      rw [tiles_group found, ← same]
      rfl
    · obtain ⟨rows, rfl, same⟩ := exists_rows rest others shielded.2
      refine ⟨[.plain c] :: rows, rfl, ?_⟩
      rw [tiles_plain quote (by simpa using grouped), ← same]
      rfl
termination_by row => row.length
decreasing_by
  all_goals subst_vars
  all_goals simp only [List.length_cons, List.length_append]
  all_goals omega

/-! ## Pieces of tiles -/

/-- Pieces without parentheses decide nothing. -/
theorem isShielded_behind {row : List Piece} (h : parentheses (texts row) = [])
    (more : List Piece) :
    closesInLiteral (row ++ more) = closesInLiteral more ∧
      isShielded (row ++ more) = isShielded more := by
  induction row with
  | nil => exact ⟨rfl, rfl⟩
  | cons piece rest ih =>
    have parts : parentheses piece.text = [] ∧ parentheses (texts rest) = [] := by
      rw [← List.append_eq_nil_iff, ← parentheses_append]
      exact h
    obtain ⟨closes, shields⟩ := ih parts.2
    cases piece with
    | literal text =>
      refine ⟨?_, shields⟩
      rw [List.cons_append, closesInLiteral, show parentheses text = [] from parts.1]
      exact closes
    | plain c =>
      have other : isParenthesis c = false := by
        by_contra found
        simp [parentheses, Piece.text, found] at parts
      have opening : (c == '(') = false := (Bool.or_eq_false_iff.mp other).1
      rw [List.cons_append, closesInLiteral, isShielded, other, opening, closes, shields]
      exact ⟨rfl, rfl⟩

theorem exists_closing {row : List Piece} (whole : ∀ piece ∈ row, piece.IsWhole)
    {body : List Char} (h : texts row = body ++ [')']) :
    ∃ front, row = front ++ [.plain ')'] ∧ texts front = body := by
  rcases List.eq_nil_or_concat' row with rfl | ⟨front, last, rfl⟩
  · exact absurd h.symm (by simp [texts])
  · have final := whole last (by simp)
    rw [texts_append] at h
    cases last with
    | literal text =>
      obtain ⟨inside, rfl, closed⟩ := final
      obtain ⟨tail, rfl⟩ := quotedTail_eq_concat closed
      have parted : (texts front ++ '"' :: tail) ++ ['"'] = body ++ [')'] := by
        rw [← h]
        simp [texts, Piece.text]
      exact absurd (List.append_inj' parted rfl).2 (by decide)
    | plain c =>
      obtain ⟨same, ends⟩ := List.append_inj' h rfl
      cases ends
      exact ⟨front, rfl, same⟩

theorem tiles_ne_nil_cons (text : List Char) (more : List (List Char)) :
    tiles text ≠ [] :: more := by
  cases text with
  | nil =>
    rw [tiles]
    rintro ⟨⟩
  | cons c rest =>
    cases h : longToken c rest with
    | none =>
      rw [tiles_short h]
      rintro ⟨⟩
    | some found =>
      obtain ⟨token, after⟩ := found
      obtain ⟨inside, rfl, _⟩ := longToken_eq_some h
      rw [tiles_long h]
      rintro ⟨⟩

/-- Where the tiles are made of pieces, no parenthesis closes in a literal. -/
theorem isShielded_of_rows {rows : List (List Piece)}
    (whole : ∀ piece ∈ rows.flatten, piece.IsWhole)
    (h : rows.map texts = tiles (texts rows.flatten)) : isShielded rows.flatten = true := by
  induction rows with
  | nil => rfl
  | cons first others ih =>
    rw [List.flatten_cons] at whole h ⊢
    obtain ⟨wholeFirst, wholeOthers⟩ := List.forall_mem_append.mp whole
    cases first with
    | nil => exact absurd h.symm (tiles_ne_nil_cons _ _)
    | cons piece tail =>
      obtain ⟨wholePiece, wholeTail⟩ := List.forall_mem_cons.mp wholeFirst
      rw [List.cons_append] at h ⊢
      cases piece with
      | literal text =>
        obtain ⟨inside, rfl, closed⟩ := wholePiece
        rw [tiles_literal closed] at h
        obtain ⟨tile, same⟩ := List.cons.inj h
        have alone : texts tail = [] := List.append_right_eq_self.mp tile
        obtain rfl := texts_eq_nil wholeTail alone
        exact ih wholeOthers same
      | plain c =>
        by_cases grouped : c = '(' ∧ (groupTail (texts (tail ++ others.flatten))).isSome
        · obtain ⟨rfl, closes⟩ := grouped
          obtain ⟨⟨inside, after⟩, found⟩ := Option.isSome_iff_exists.mp closes
          rw [tiles_group found] at h
          obtain ⟨tile, same⟩ := List.cons.inj h
          have group : texts tail = inside := (List.cons.inj tile).2
          have behind : texts others.flatten = after := by
            have parts := groupTail_eq_append found
            rw [texts_append, group] at parts
            exact List.append_cancel_left parts
          -- The only parenthesis in the tile is its last character, and as no literal ends with
          -- one, it is a piece of its own.
          obtain ⟨body, ends, plain⟩ := groupTail_eq_concat found
          obtain ⟨front, rfl, rfl⟩ := exists_closing wholeTail (group.trans ends)
          rw [← behind] at same
          have shielded := ih wholeOthers same
          obtain ⟨closes, rest⟩ := isShielded_behind plain (.plain ')' :: others.flatten)
          rw [isShielded, List.append_assoc, List.singleton_append, closes, rest]
          exact shielded
        · rw [tiles_plain wholePiece (by simpa using grouped)] at h
          obtain ⟨tile, same⟩ := List.cons.inj h
          obtain rfl := texts_eq_nil wholeTail (List.cons.inj tile).2
          rw [List.nil_append] at grouped same ⊢
          have outside : (c == '(' && closesInLiteral others.flatten) = false := by
            rw [← Bool.not_eq_true, Bool.and_eq_true, beq_iff_eq]
            rintro ⟨opening, closes⟩
            exact grouped ⟨opening, groupTail_isSome_of_closesInLiteral closes⟩
          rw [isShielded, outside, ih wholeOthers same]
          rfl

/-- Every literal stands inside one tile exactly if no parenthesis closes in a literal. -/
theorem isOpaque_iff {text : List Char} (paired : IsPaired text) :
    IsOpaque text ↔ isShielded (pieces text) = true := by
  constructor
  · rintro ⟨rows, same, tiled⟩
    have whole := paired.isWhole
    rw [← texts_pieces text, ← same] at tiled
    rw [← same] at whole ⊢
    exact isShielded_of_rows whole tiled
  · intro shielded
    obtain ⟨rows, same, tiled⟩ := exists_rows _ paired.isWhole shielded
    rw [texts_pieces] at tiled
    exact ⟨rows, same, tiled⟩

end Layout

end CallForm

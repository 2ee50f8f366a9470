-- What laying a text out keeps. The tokens of a text are read from tiles
-- that cover it without a gap, and whatever a token becomes, only blanks
-- are dropped from its tile and only blanks are added to it.
import CallForm.Ir.Layout

namespace CallForm

namespace Layout

/-! ## Tiles -/

theorem quotedTail_eq_append {text inside after : List Char}
    (h : quotedTail text = some (inside, after)) : text = inside ++ after := by
  fun_induction quotedTail text generalizing inside after with
  | case1 | case2 | case5 => cases h
  | case3 c rest _ ih =>
    obtain ⟨⟨tail, others⟩, found, same⟩ := Option.map_eq_some_iff.mp h
    cases same
    rw [ih found]
    rfl
  | case4 =>
    cases h
    rfl
  | case6 c rest _ _ _ ih =>
    obtain ⟨⟨tail, others⟩, found, same⟩ := Option.map_eq_some_iff.mp h
    cases same
    rw [ih found]
    rfl

theorem groupTail_eq_append {text inside after : List Char}
    (h : groupTail text = some (inside, after)) : text = inside ++ after := by
  induction text generalizing inside after with
  | nil => cases h
  | cons c rest ih =>
    unfold groupTail at h
    split at h
    · cases h
      rfl
    · split at h
      · cases h
      · obtain ⟨⟨tail, others⟩, found, same⟩ := Option.map_eq_some_iff.mp h
        cases same
        rw [ih found]
        rfl

/-- A longer token is a quoted text or an innermost parenthesis. -/
theorem longToken_eq_some {c : Char} {rest token after : List Char}
    (h : longToken c rest = some (token, after)) :
    ∃ inside, token = c :: inside ∧
      (c = '"' ∧ quotedTail rest = some (inside, after) ∨
        c = '(' ∧ groupTail rest = some (inside, after)) := by
  unfold longToken at h
  split at h
  · rename_i quote
    obtain ⟨⟨inside, others⟩, found, same⟩ := Option.map_eq_some_iff.mp h
    cases same
    exact ⟨inside, rfl, .inl ⟨by simpa using quote, found⟩⟩
  · split at h
    · rename_i opening
      obtain ⟨⟨inside, others⟩, found, same⟩ := Option.map_eq_some_iff.mp h
      cases same
      exact ⟨inside, rfl, .inr ⟨by simpa using opening, found⟩⟩
    · cases h

theorem longToken_eq_append {c : Char} {rest token after : List Char}
    (h : longToken c rest = some (token, after)) : c :: rest = token ++ after := by
  obtain ⟨inside, rfl, ⟨_, found⟩ | ⟨_, found⟩⟩ := longToken_eq_some h
  · rw [quotedTail_eq_append found, List.cons_append]
  · rw [groupTail_eq_append found, List.cons_append]

theorem longToken_eq_none {c : Char} (quote : c ≠ '"') (opening : c ≠ '(') (rest : List Char) :
    longToken c rest = none := by
  simp [longToken, quote, opening]

/-- The tiles of a text, in order: quoted texts, innermost parentheses and single characters. -/
def tiles : List Char → List (List Char)
  | [] => []
  | c :: rest =>
    match h : longToken c rest with
    | some (token, after) =>
      have := longToken_length h
      token :: tiles after
    | none => [c] :: tiles rest
termination_by text => text.length
decreasing_by all_goals simp only [List.length_cons]; omega

/-- The token that is read from a tile; a line end outside the longer ones is none. -/
def tokenOf? : List Char → Option Token
  | [c] => ofChar c
  | tile => some (.verbatim tile)

/-- The tiles cover the text without a gap. -/
theorem flatten_tiles (text : List Char) : (tiles text).flatten = text := by
  fun_induction tiles text with
  | case1 => rfl
  | case2 c rest token after h _ ih =>
    rw [List.flatten_cons, ih, longToken_eq_append h]
  | case3 c rest h ih =>
    rw [List.flatten_cons, ih]
    rfl

theorem tiles_long {c : Char} {rest token after : List Char}
    (h : longToken c rest = some (token, after)) : tiles (c :: rest) = token :: tiles after := by
  rw [tiles]
  split
  · rename_i found
    rw [h] at found
    cases found
    rfl
  · rename_i found
    rw [h] at found
    cases found

theorem tiles_short {c : Char} {rest : List Char} (h : longToken c rest = none) :
    tiles (c :: rest) = [c] :: tiles rest := by
  rw [tiles]
  split
  · rename_i found
    rw [h] at found
    cases found
  · rfl

theorem tokenOf?_longToken {c : Char} {rest token after : List Char}
    (h : longToken c rest = some (token, after)) : tokenOf? token = some (.verbatim token) := by
  obtain ⟨inside, rfl, found⟩ := longToken_eq_some h
  have nonempty : inside ≠ [] := by
    rintro rfl
    rcases found with ⟨_, found⟩ | ⟨_, found⟩
    · exact absurd (quotedTail_length found) (by simp [quotedTail_eq_append found])
    · exact absurd (groupTail_length found) (by simp [groupTail_eq_append found])
  obtain ⟨next, others, rfl⟩ := List.exists_cons_of_ne_nil nonempty
  rfl

theorem tokens_long {c : Char} {rest token after : List Char}
    (h : longToken c rest = some (token, after)) :
    tokens (c :: rest) = .verbatim token :: tokens after := by
  rw [tokens]
  split
  · rename_i found
    rw [h] at found
    cases found
    rfl
  · rename_i found
    rw [h] at found
    cases found

theorem tokens_short {c : Char} {rest : List Char} (h : longToken c rest = none) :
    tokens (c :: rest) = (ofChar c).toList ++ tokens rest := by
  rw [tokens]
  split
  · rename_i found
    rw [h] at found
    cases found
  · cases ofChar c <;> rfl

/-- The tokens of a text are read from its tiles. -/
theorem tokens_eq_filterMap (text : List Char) : tokens text = (tiles text).filterMap tokenOf? := by
  fun_induction tiles text with
  | case1 =>
    rw [tokens]
    rfl
  | case2 c rest token after h _ ih =>
    rw [tokens_long h, List.filterMap_cons_some (tokenOf?_longToken h), ih]
  | case3 c rest h ih =>
    rw [tokens_short h, ih]
    cases found : ofChar c with
    | none => rw [List.filterMap_cons_none (show tokenOf? [c] = none from found)]; rfl
    | some token => rw [List.filterMap_cons_some (show tokenOf? [c] = some token from found)]; rfl

/-! ## What is kept -/

/-- Whether a character is a blank, a tab or part of a line end. -/
def isBlank (c : Char) : Bool := c == ' ' || c == '\t' || c == '\r' || c == '\n'

/-- A text without its blanks, tabs and line ends. -/
def ink (text : List Char) : List Char := text.filter (!isBlank ·)

@[simp] theorem ink_append (text more : List Char) : ink (text ++ more) = ink text ++ ink more :=
  List.filter_append text more

/-- A character that is no blank is kept. -/
theorem mem_ink {c : Char} (visible : isBlank c = false) {text : List Char} :
    c ∈ ink text ↔ c ∈ text := by
  simp [ink, visible]

theorem ink_newline (width depth : Nat) : ink (newline width depth) = [] := by
  have blanks (n : Nat) : ink (List.replicate n ' ') = [] := by
    rw [ink, List.filter_replicate]
    rfl
  exact blanks _

/-- A character that becomes no token is a line end. -/
theorem ofChar_eq_none {c : Char} (h : ofChar c = none) : c = '\n' := by
  unfold ofChar at h
  split at h
  · rename_i same
    simpa using same
  · repeat' split at h
    all_goals cases h

/-- What the token of a single character becomes has the ink of the character. -/
theorem ink_written_ofChar {c : Char} {token : Token} (h : ofChar c = some token)
    (width depth : Nat) : ink (written width depth token) = ink [c] := by
  unfold ofChar at h
  split at h
  · cases h
  split at h
  · rename_i same
    cases h
    rw [beq_iff_eq.mp same]
    exact congrArg ('(' :: ·) (ink_newline width (depth + 1))
  split at h
  · rename_i same
    cases h
    rw [beq_iff_eq.mp same, written, ink_append, ink_newline]
    rfl
  split at h
  · rename_i same
    cases h
    rw [beq_iff_eq.mp same]
    exact congrArg (',' :: ·) (ink_newline width depth)
  split at h
  · rename_i blank
    cases h
    simp only [Bool.or_eq_true, beq_iff_eq] at blank
    rcases blank with (rfl | rfl) | rfl <;> rfl
  · cases h
    rfl

/-- What a token becomes has the ink of its tile. -/
theorem ink_written {tile : List Char} {token : Token} (h : tokenOf? tile = some token)
    (width depth : Nat) : ink (written width depth token) = ink tile := by
  unfold tokenOf? at h
  split at h
  · exact ink_written_ofChar h width depth
  · cases h
    rfl

/-- A tile of which no token is read has no ink. -/
theorem ink_of_tokenOf?_none {tile : List Char} (h : tokenOf? tile = none) : ink tile = [] := by
  unfold tokenOf? at h
  split at h
  · rw [ofChar_eq_none h]
    rfl
  · cases h

/-- Tiles that are laid out keep their ink, from whatever depth on. -/
theorem ink_lay (width depth : Nat) (row : List (List Char)) :
    ink (lay width depth (row.filterMap tokenOf?)) = ink row.flatten := by
  induction row generalizing depth with
  | nil => rfl
  | cons tile rest ih =>
    rw [List.flatten_cons, ink_append]
    cases found : tokenOf? tile with
    | none => rw [List.filterMap_cons_none found, ih, ink_of_tokenOf?_none found, List.nil_append]
    | some token =>
      rw [List.filterMap_cons_some found, lay, ink_append, ink_written found, ih]

theorem ink_lay_tokens (width depth : Nat) (text : List Char) :
    ink (lay width depth (tokens text)) = ink text := by
  rw [tokens_eq_filterMap, ink_lay, flatten_tiles]

end Layout

theorem toList_layOutBy (width : Nat) (text : String) :
    (layOutBy width text).toList =
      Layout.lay width 0 (Layout.tokens (stripTags text).toList) ++ ['\n'] := by
  rw [layOutBy, String.toList_ofList]

/-- Laying a text out by any width keeps all of it but tags and blanks, in the same order, and adds
nothing but blanks, whether or not its parentheses and quotes match. -/
theorem laying_out_moves_only_blanks (width : Nat) (text : String) :
    Layout.ink (layOutBy width text).toList = Layout.ink (stripTags text).toList := by
  rw [toList_layOutBy, Layout.ink_append, Layout.ink_lay_tokens]
  exact List.append_nil _

end CallForm

-- Laying compiled text out over several lines: an opening parenthesis and
-- a comma end a line, a closing parenthesis starts one. A parenthesis with
-- no other inside stays on its line, and so does a quoted text.
import CallForm.Ir.Tags

namespace CallForm

namespace Layout

/-! ## Tokens -/

/-- The pieces of a text that are laid out one by one. -/
inductive Token
  | opening
  | closing
  | comma
  | blank
  | verbatim (text : List Char)
deriving Repr, DecidableEq

/-- The inside of a quoted text up to and with its closing quote, and what follows. A backslash
takes the next character with it, unless that is a line end; a text that does not close is none. -/
def quotedTail : List Char → Option (List Char × List Char)
  | [] => none
  | '\\' :: c :: rest =>
    if c == '\n' then none
    else (quotedTail rest).map fun (inside, after) => ('\\' :: c :: inside, after)
  | c :: rest =>
    if c == '"' then some ([c], rest)
    else if c == '\\' then none
    else (quotedTail rest).map fun (inside, after) => (c :: inside, after)

/-- The inside of an innermost parenthesis up to and with its closing one, and what follows. -/
def groupTail : List Char → Option (List Char × List Char)
  | [] => none
  | c :: rest =>
    if c == ')' then some ([c], rest)
    else if c == '(' then none
    else (groupTail rest).map fun (inside, after) => (c :: inside, after)

/-- The token of a single character that starts no longer one; a line end is none. -/
def ofChar (c : Char) : Option Token :=
  if c == '\n' then none
  else if c == '(' then some .opening
  else if c == ')' then some .closing
  else if c == ',' then some .comma
  else if c == ' ' || c == '\t' || c == '\r' then some .blank
  else some (.verbatim [c])

/-- The longer token that starts with a character, if one does: a quoted text or an innermost
parenthesis. -/
def longToken (c : Char) (rest : List Char) : Option (List Char × List Char) :=
  if c == '"' then (quotedTail rest).map fun (inside, after) => (c :: inside, after)
  else if c == '(' then (groupTail rest).map fun (inside, after) => (c :: inside, after)
  else none

theorem quotedTail_length {text inside after : List Char}
    (h : quotedTail text = some (inside, after)) : after.length < text.length := by
  fun_induction quotedTail text generalizing inside after with
  | case1 => simp at h
  | case2 => simp at h
  | case3 c rest _ ih =>
    obtain ⟨⟨i, a⟩, tail, eq⟩ := Option.map_eq_some_iff.mp h
    simp only [Prod.mk.injEq] at eq
    have := ih tail
    rw [← eq.2]
    simp only [List.length_cons]
    omega
  | case4 c rest =>
    simp only [Option.some.injEq, Prod.mk.injEq] at h
    rw [← h.2]
    simp
  | case5 => simp at h
  | case6 c rest _ _ _ ih =>
    obtain ⟨⟨i, a⟩, tail, eq⟩ := Option.map_eq_some_iff.mp h
    simp only [Prod.mk.injEq] at eq
    have := ih tail
    rw [← eq.2]
    simp only [List.length_cons]
    omega

theorem groupTail_length {text inside after : List Char}
    (h : groupTail text = some (inside, after)) : after.length < text.length := by
  induction text generalizing inside after with
  | nil => simp [groupTail] at h
  | cons c rest ih =>
    unfold groupTail at h
    split at h
    · simp only [Option.some.injEq, Prod.mk.injEq] at h
      rw [← h.2]
      simp
    · split at h
      · simp at h
      · obtain ⟨⟨i, a⟩, tail, eq⟩ := Option.map_eq_some_iff.mp h
        simp only [Prod.mk.injEq] at eq
        have := ih tail
        rw [← eq.2]
        simp only [List.length_cons]
        omega

theorem longToken_length {c : Char} {rest token after : List Char}
    (h : longToken c rest = some (token, after)) : after.length < rest.length := by
  unfold longToken at h
  split at h
  · obtain ⟨⟨i, a⟩, tail, eq⟩ := Option.map_eq_some_iff.mp h
    simp only [Prod.mk.injEq] at eq
    rw [← eq.2]
    exact quotedTail_length tail
  · split at h
    · obtain ⟨⟨i, a⟩, tail, eq⟩ := Option.map_eq_some_iff.mp h
      simp only [Prod.mk.injEq] at eq
      rw [← eq.2]
      exact groupTail_length tail
    · simp at h

/-- The tokens of a text, in order. -/
def tokens : List Char → List Token
  | [] => []
  | c :: rest =>
    match h : longToken c rest with
    | some (token, after) =>
      have := longToken_length h
      .verbatim token :: tokens after
    | none =>
      match ofChar c with
      | some token => token :: tokens rest
      | none => tokens rest
termination_by text => text.length
decreasing_by all_goals simp only [List.length_cons]; omega

/-! ## Lines -/

/-- The start of a line at a depth. -/
def newline (width depth : Nat) : List Char :=
  '\n' :: List.replicate (depth * width) ' '

/-- The depth after a token. -/
def depthAfter (depth : Nat) : Token → Nat
  | .opening => depth + 1
  | .closing => depth - 1
  | _ => depth

/-- What a token becomes when it is met at a depth. -/
def written (width depth : Nat) : Token → List Char
  | .opening => '(' :: newline width (depth + 1)
  | .closing => newline width (depth - 1) ++ [')']
  | .comma => ',' :: newline width depth
  | .blank => []
  | .verbatim text => text

/-- The tokens laid out from a depth on. -/
def lay (width depth : Nat) : List Token → List Char
  | [] => []
  | token :: rest => written width depth token ++ lay width (depthAfter depth token) rest

end Layout

/-- The usual indentation step. -/
def indentWidth : Nat := 4

/-- Strips the tags of a text and lays it out with `width` blanks for each level. -/
def layOutBy (width : Nat) (text : String) : String :=
  String.ofList (Layout.lay width 0 (Layout.tokens (stripTags text).toList) ++ ['\n'])

/-- Strips the tags of a text and lays it out. -/
def layOut (text : String) : String :=
  layOutBy indentWidth text

end CallForm

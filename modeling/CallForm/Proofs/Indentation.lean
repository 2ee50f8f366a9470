-- The lines of a text that is laid out. Each is indented by the parentheses
-- that are open where it starts, and a parenthesis that spans several lines
-- closes on a line of its own, as far to the right as the line that opens it.
import CallForm.Proofs.Nesting

namespace CallForm

namespace Layout

/-! ## Lines -/

/-- The number of blanks that a line starts with. -/
def indentOf (line : List Char) : Nat := (line.takeWhile (· == ' ')).length

/-- Whether a line starts with a closing parenthesis behind its blanks. -/
def startsClosing (line : List Char) : Bool := (line.dropWhile (· == ' ')).head? == some ')'

/-- Whether behind a text a new line starts. -/
def StartsLine (before : List Char) : Prop := before = [] ∨ ∃ front, before = front ++ ['\n']

/-- The parentheses of a text that are open where a line starts behind it. One that the line closes
first is not counted. All of them span the line end in front of the line. -/
def openAt (before line : List Char) : Nat :=
  before.count '(' - (before.count ')' + if startsClosing line then 1 else 0)

/-- The indentation of the line that a text ends in, if its first line is indented by `indent`. -/
def lastIndent (indent : Nat) : List Char → Nat
  | [] => indent
  | c :: rest => if c == '\n' then lastIndent (indentOf rest) rest else lastIndent indent rest

theorem indentOf_blanks {rest : List Char} (h : rest.head? ≠ some ' ') (n : Nat) :
    indentOf (List.replicate n ' ' ++ rest) = n := by
  have ends : rest.takeWhile (· == ' ') = [] := by
    cases rest with
    | nil => rfl
    | cons c tail => simpa [List.takeWhile_cons] using h
  simp [indentOf, List.takeWhile_append_of_pos, ends]

theorem startsClosing_blanks {rest : List Char} (h : rest.head? ≠ some ' ') (n : Nat) :
    startsClosing (List.replicate n ' ' ++ rest) = (rest.head? == some ')') := by
  have ends : rest.dropWhile (· == ' ') = rest := by
    cases rest with
    | nil => rfl
    | cons c tail =>
      have other : (c == ' ') = false := by simpa using h
      rw [List.dropWhile_cons_of_neg (by simp [other])]
  simp [startsClosing, List.dropWhile_append_of_pos, ends]

theorem lastIndent_through {text : List Char} (h : '\n' ∉ text) (indent : Nat)
    (rest : List Char) : lastIndent indent (text ++ rest) = lastIndent indent rest := by
  induction text with
  | nil => rfl
  | cons c tail ih =>
    rw [List.mem_cons, not_or] at h
    rw [List.cons_append, lastIndent, if_neg (by simpa using Ne.symm h.1), ih h.2]

/-- The line behind the last line end is the one that a text ends in. -/
theorem lastIndent_line {line : List Char} (h : '\n' ∉ line) (indent : Nat) (front : List Char) :
    lastIndent indent (front ++ '\n' :: line) = indentOf line := by
  induction front generalizing indent with
  | nil =>
    have whole := lastIndent_through h (indentOf line) []
    rwa [List.append_nil] at whole
  | cons c tail ih =>
    rw [List.cons_append, lastIndent]
    split
    · exact ih _
    · exact ih _

theorem lastIndent_newline {rest : List Char} (h : rest.head? ≠ some ' ')
    (indent width depth : Nat) :
    lastIndent indent (newline width depth ++ rest) = lastIndent (depth * width) rest := by
  have blanks : '\n' ∉ List.replicate (depth * width) ' ' := by simp
  simp only [newline, List.cons_append, lastIndent, beq_self_eq_true, if_true]
  rw [indentOf_blanks h, lastIndent_through blanks]

/-! ## Where a character stands -/

/-- A character that a text does not hold stands behind it. -/
theorem eq_append_of_not_mem {c : Char} {text rest front after : List Char} (absent : c ∉ text)
    (h : text ++ rest = front ++ c :: after) :
    ∃ more, front = text ++ more ∧ rest = more ++ c :: after := by
  rcases List.append_eq_append_iff.mp h with ⟨more, inside, behind⟩ | ⟨more, inside, behind⟩
  · exact ⟨more, inside, behind⟩
  · cases more with
    | nil => exact ⟨[], by simpa using inside.symm, by simpa using behind.symm⟩
    | cons d others =>
      obtain ⟨rfl, _⟩ := List.cons.inj behind
      exact absurd (by simp [inside]) absent

theorem not_mem_newline {c : Char} (blank : isBlank c = false) (width depth : Nat) :
    c ∉ newline width depth := by
  intro found
  rw [← mem_ink blank, ink_newline] at found
  cases found

theorem not_mem_cons_newline {c d : Char} (other : c ≠ d) (blank : isBlank c = false)
    (width depth : Nat) : c ∉ d :: newline width depth := by
  rw [List.mem_cons, not_or]
  exact ⟨other, not_mem_newline blank width depth⟩

/-- A line end of a text that starts a line is the first one or stands behind its blanks. -/
theorem newline_split {width depth : Nat} {rest front after : List Char}
    (h : newline width depth ++ rest = front ++ '\n' :: after) :
    front = [] ∧ after = List.replicate (depth * width) ' ' ++ rest ∨
      ∃ more, front = newline width depth ++ more ∧ rest = more ++ '\n' :: after := by
  cases front with
  | nil => exact .inl ⟨rfl, (List.cons.inj h).2.symm⟩
  | cons c tail =>
    obtain ⟨rfl, behind⟩ := List.cons.inj h
    have blanks : '\n' ∉ List.replicate (depth * width) ' ' := by simp
    obtain ⟨more, rfl, later⟩ := eq_append_of_not_mem blanks behind
    exact .inr ⟨more, rfl, later⟩

@[simp] theorem count_newline_opening (width depth : Nat) :
    (newline width depth).count '(' = 0 :=
  List.count_eq_zero.mpr (not_mem_newline (by decide) width depth)

@[simp] theorem count_newline_closing (width depth : Nat) :
    (newline width depth).count ')' = 0 :=
  List.count_eq_zero.mpr (not_mem_newline (by decide) width depth)

/-! ## Texts on one line -/

theorem parentheses_singleton {c : Char} (plain : isParenthesis c = false) :
    parentheses [c] = [] := by
  simp [parentheses, plain]

theorem not_mem_of_parentheses {text : List Char} (h : parentheses text = []) :
    '(' ∉ text ∧ ')' ∉ text := by
  have plain := List.filter_eq_nil_iff.mp h
  exact ⟨fun found => plain _ found rfl, fun found => plain _ found rfl⟩

/-- A text without parentheses has as many that open as that close. -/
theorem count_eq_of_parentheses {text : List Char} (h : parentheses text = []) :
    text.count '(' = text.count ')' := by
  obtain ⟨opening, closing⟩ := not_mem_of_parentheses h
  rw [List.count_eq_zero.mpr opening, List.count_eq_zero.mpr closing]

theorem IsInline.not_mem_newline {text : List Char} (h : IsInline text) : '\n' ∉ text := by
  cases h with
  | character _ visible =>
    intro found
    rw [List.mem_singleton] at found
    subst found
    cases visible
  | group _ single => simpa using single

theorem IsInline.count_eq {text : List Char} (h : IsInline text) :
    text.count '(' = text.count ')' := by
  cases h with
  | character plain _ => exact count_eq_of_parentheses (parentheses_singleton plain)
  | group plain _ => simpa using count_eq_of_parentheses plain

theorem IsInline.head? {text : List Char} (h : IsInline text) :
    ∃ c rest, text = c :: rest ∧ c ≠ ' ' ∧ c ≠ ')' := by
  cases h with
  | @character c plain visible =>
    refine ⟨c, [], rfl, ?_, ?_⟩
    · rintro rfl
      cases visible
    · rintro rfl
      cases plain
  | group => exact ⟨'(', _, rfl, by decide, by decide⟩

/-! ## The lines of tokens -/

section

variable (width depth : Nat) (row : List Token) (more : List Char)

theorem lay_opening : lay width depth (.opening :: row) ++ more =
    '(' :: (newline width (depth + 1) ++ (lay width (depth + 1) row ++ more)) := by
  simp [lay, written, depthAfter]

theorem lay_closing : lay width (depth + 1) (.closing :: row) ++ more =
    newline width depth ++ ')' :: (lay width depth row ++ more) := by
  simp [lay, written, depthAfter]

theorem lay_comma : lay width depth (.comma :: row) ++ more =
    ',' :: (newline width depth ++ (lay width depth row ++ more)) := by
  simp [lay, written, depthAfter]

theorem lay_verbatim (text : List Char) : lay width depth (.verbatim text :: row) ++ more =
    text ++ (lay width depth row ++ more) := by
  simp [lay, written, depthAfter]

end

variable {width depth : Nat} {row : List Token}

/-- What is laid out starts with no blank, and it closes nothing before it breaks the line. -/
theorem Nests.head?_lay (h : Nests depth row) (width : Nat) :
    (lay width depth row ++ ['\n']).head? ≠ some ' ' ∧
      (lay width depth row ++ ['\n']).head? ≠ some ')' := by
  induction h with
  | done | opening | closing | comma => simp [lay, written, newline]
  | blank _ ih => exact ih
  | verbatim inline _ _ =>
    obtain ⟨c, rest, rfl, blank, closing⟩ := inline.head?
    simp [lay, written, blank, closing]

/-- A line is indented by the parentheses that are open where it starts, if `depth` are open in
front of the text before it. -/
def IndentedBehind (width depth : Nat) (front line : List Char) : Prop :=
  ∃ opened, indentOf line = opened * width ∧
    opened + (front.count ')' + if startsClosing line then 1 else 0) = depth + front.count '('

/-- The lines of a text behind a line end are indented by the parentheses that are open there, if
those of the text are. -/
theorem Nests.indented_newline (h : Nests depth row)
    (later : ∀ front line, lay width depth row ++ ['\n'] = front ++ '\n' :: line →
      IndentedBehind width depth front line) {front line : List Char}
    (split : newline width depth ++ (lay width depth row ++ ['\n']) = front ++ '\n' :: line) :
    IndentedBehind width depth front line := by
  obtain ⟨blank, closing⟩ := h.head?_lay width
  rcases newline_split split with ⟨rfl, rfl⟩ | ⟨more, rfl, behind⟩
  · refine ⟨depth, indentOf_blanks blank _, ?_⟩
    rw [startsClosing_blanks blank, beq_false_of_ne closing]
    rfl
  · obtain ⟨opened, indent, count⟩ := later more line behind
    exact ⟨opened, indent, by simpa using count⟩

/-- A line that is laid out behind a line end is indented by the parentheses that are open there. -/
theorem Nests.indented (h : Nests depth row) {front line : List Char}
    (split : lay width depth row ++ ['\n'] = front ++ '\n' :: line) :
    IndentedBehind width depth front line := by
  induction h generalizing front line with
  | done =>
    cases front with
    | nil =>
      cases split
      exact ⟨0, (Nat.zero_mul width).symm, rfl⟩
    | cons c tail => simp [lay] at split
  | opening _ nests ih =>
    rw [lay_opening] at split
    have opening : '\n' ∉ ['('] := by decide
    obtain ⟨more, rfl, behind⟩ := eq_append_of_not_mem opening split
    obtain ⟨opened, indent, count⟩ := nests.indented_newline (fun _ _ => ih) behind
    have opens : ['('].count '(' = 1 ∧ ['('].count ')' = 0 := by decide
    refine ⟨opened, indent, ?_⟩
    rw [List.count_append, List.count_append, opens.1, opens.2]
    omega
  | @closing depth rest nests ih =>
    rw [lay_closing] at split
    rcases newline_split split with ⟨rfl, rfl⟩ | ⟨more, rfl, behind⟩
    · refine ⟨depth, indentOf_blanks (by simp) _, ?_⟩
      rw [startsClosing_blanks (by simp)]
      rfl
    · have closing : '\n' ∉ [')'] := by decide
      obtain ⟨others, rfl, later⟩ := eq_append_of_not_mem closing behind
      obtain ⟨opened, indent, count⟩ := ih later
      have closes : [')'].count '(' = 0 ∧ [')'].count ')' = 1 := by decide
      refine ⟨opened, indent, ?_⟩
      simp only [List.count_append, count_newline_opening, count_newline_closing, closes.1,
        closes.2]
      omega
  | comma nests ih =>
    rw [lay_comma] at split
    have comma : '\n' ∉ [','] := by decide
    obtain ⟨more, rfl, behind⟩ := eq_append_of_not_mem comma split
    obtain ⟨opened, indent, count⟩ := nests.indented_newline (fun _ _ => ih) behind
    exact ⟨opened, indent, by simpa using count⟩
  | blank _ ih => exact ih split
  | verbatim inline _ ih =>
    rw [lay_verbatim] at split
    obtain ⟨more, rfl, behind⟩ := eq_append_of_not_mem inline.not_mem_newline split
    obtain ⟨opened, indent, count⟩ := ih behind
    have matching := inline.count_eq
    refine ⟨opened, indent, ?_⟩
    rw [List.count_append, List.count_append]
    omega

/-! ## Parentheses that span several lines -/

/-- A text up to the parenthesis that closes what was open before it breaks the line in front of
that parenthesis, and indents it by the parentheses that are open then. -/
theorem Nests.closes_on_its_line (h : Nests depth row) {outer height : Nat}
    (deeper : depth = outer + height + 1) {inside after : List Char}
    (split : lay width depth row ++ ['\n'] = inside ++ ')' :: after)
    (balanced : closes height inside = true) :
    ∃ body, inside = body ++ newline width outer := by
  induction h generalizing height inside with
  | done => omega
  | @opening depth rest _ _ ih =>
    rw [lay_opening, ← List.cons_append] at split
    obtain ⟨more, rfl, behind⟩ :=
      eq_append_of_not_mem (not_mem_cons_newline (by decide) (by decide) width _) split
    rw [List.cons_append, closes_opening, closes_through (parentheses_newline _ _)] at balanced
    obtain ⟨body, rfl⟩ := ih (by omega) behind balanced
    exact ⟨'(' :: (newline width (depth + 1) ++ body), by simp⟩
  | @closing depth rest _ ih =>
    rw [lay_closing] at split
    obtain ⟨more, rfl, behind⟩ :=
      eq_append_of_not_mem (not_mem_newline (by decide) width depth) split
    rw [closes_through (parentheses_newline _ _)] at balanced
    cases more with
    | nil =>
      rw [closes_nil] at balanced
      obtain rfl : depth = outer := by omega
      exact ⟨[], List.append_nil _⟩
    | cons c others =>
      obtain ⟨rfl, later⟩ := List.cons.inj behind
      cases height with
      | zero => simp at balanced
      | succ height =>
        rw [closes_closing] at balanced
        obtain ⟨body, rfl⟩ := ih (by omega) later balanced
        exact ⟨newline width depth ++ ')' :: body, by simp⟩
  | @comma depth rest _ ih =>
    rw [lay_comma, ← List.cons_append] at split
    obtain ⟨more, rfl, behind⟩ :=
      eq_append_of_not_mem (not_mem_cons_newline (by decide) (by decide) width _) split
    rw [List.cons_append, closes_plain rfl, closes_through (parentheses_newline _ _)] at balanced
    obtain ⟨body, rfl⟩ := ih deeper behind balanced
    exact ⟨',' :: (newline width depth ++ body), by simp⟩
  | blank _ ih => exact ih deeper split balanced
  | verbatim inline _ ih =>
    rw [lay_verbatim] at split
    cases inline with
    | @character c plain _ =>
      have alone := parentheses_singleton plain
      obtain ⟨more, rfl, behind⟩ :=
        eq_append_of_not_mem (not_mem_of_parentheses alone).2 split
      rw [closes_through alone] at balanced
      obtain ⟨body, rfl⟩ := ih deeper behind balanced
      exact ⟨c :: body, rfl⟩
    | @group body plain _ =>
      have absent : ')' ∉ '(' :: body := by
        rw [List.mem_cons, not_or]
        exact ⟨by decide, (not_mem_of_parentheses plain).2⟩
      rw [← List.cons_append, List.append_assoc] at split
      obtain ⟨more, rfl, behind⟩ := eq_append_of_not_mem absent split
      cases more with
      | nil =>
        rw [List.append_nil, closes_opening] at balanced
        exact absurd plain (parentheses_ne_nil balanced)
      | cons c others =>
        obtain ⟨rfl, later⟩ := List.cons.inj behind
        rw [List.cons_append, closes_group plain] at balanced
        obtain ⟨front, rfl⟩ := ih deeper later balanced
        exact ⟨'(' :: (body ++ ')' :: front), by simp⟩

/-- What stands inside a parenthesis either stays on one line and holds no other parenthesis, or it
holds one and ends with the start of a line that is indented by `indent` blanks. -/
def EndsIndented (indent : Nat) (inside : List Char) : Prop :=
  parentheses inside = [] ∧ '\n' ∉ inside ∨
    parentheses inside ≠ [] ∧ ∃ body, inside = body ++ '\n' :: List.replicate indent ' '

theorem head?_ne_of_append {c : Char} {front rest : List Char}
    (h : (front ++ rest).head? ≠ some c) : front.head? ≠ some c := by
  cases front with
  | nil => simp
  | cons d tail => exact h

/-- Behind a parenthesis that opens with another one inside, what is laid out up to its end starts
new lines, the last of them as far to the right as the line in front. -/
theorem Nests.endsIndented_opening (h : Nests (depth + 1) row)
    (nested : (row.flatMap Token.parentheses).head? = some '(') {inside after : List Char}
    (split : newline width (depth + 1) ++ (lay width (depth + 1) row ++ ['\n']) =
      inside ++ ')' :: after) (balanced : IsBalanced inside) :
    EndsIndented (depth * width) inside := by
  obtain ⟨more, rfl, behind⟩ :=
    eq_append_of_not_mem (not_mem_newline (by decide) width _) split
  rw [IsBalanced, closes_through (parentheses_newline _ _)] at balanced
  obtain ⟨body, rfl⟩ := h.closes_on_its_line rfl behind balanced
  refine .inr ⟨?_, newline width (depth + 1) ++ body, by simp [newline]⟩
  intro plain
  have first := congrArg (fun text => (parentheses text).head?) behind
  rw [parentheses_append, parentheses_newline, List.nil_append] at plain
  simp only [parentheses_append, parentheses_lay, plain, List.nil_append] at first
  rw [show parentheses ['\n'] = [] from rfl, List.append_nil, nested] at first
  cases first

/-- Behind the line end that a token writes, the line is indented by the depth. -/
theorem Nests.lastIndent_behind (h : Nests depth row) {front after : List Char}
    (split : lay width depth row ++ ['\n'] = front ++ '(' :: after) {c : Char} (other : c ≠ '\n')
    (indent : Nat) :
    lastIndent indent (c :: (newline width depth ++ front)) = lastIndent (depth * width) front := by
  have blank := (h.head?_lay width).1
  rw [split] at blank
  have single : '\n' ∉ [c] := by simpa using Ne.symm other
  rw [← List.singleton_append, lastIndent_through single,
    lastIndent_newline (head?_ne_of_append blank)]

/-- What stands between two matching parentheses stays on one line or ends on a line that is
indented like the one that the parenthesis opens on. -/
theorem Nests.endsIndented (h : Nests depth row) {front inside after : List Char}
    (split : lay width depth row ++ ['\n'] = front ++ '(' :: (inside ++ ')' :: after))
    (balanced : IsBalanced inside) : EndsIndented (lastIndent (depth * width) front) inside := by
  induction h generalizing front with
  | done =>
    have found : '(' ∈ lay width 0 [] ++ ['\n'] := by simp [split]
    simp [lay] at found
  | @opening depth rest nested nests ih =>
    rw [lay_opening] at split
    cases front with
    | nil => exact nests.endsIndented_opening nested (List.cons.inj split).2 balanced
    | cons c tail =>
      obtain ⟨rfl, behind⟩ := List.cons.inj split
      obtain ⟨more, rfl, later⟩ :=
        eq_append_of_not_mem (not_mem_newline (by decide) width _) behind
      rw [nests.lastIndent_behind later (by decide)]
      exact ih later
  | @closing depth rest _ ih =>
    have absent : '(' ∉ newline width depth ++ [')'] := by
      rw [List.mem_append, not_or]
      exact ⟨not_mem_newline (by decide) width depth, by decide⟩
    rw [lay_closing, List.append_cons] at split
    obtain ⟨more, rfl, later⟩ := eq_append_of_not_mem absent split
    have closing : '\n' ∉ [')'] := by decide
    rw [List.append_assoc, lastIndent_newline (by simp), lastIndent_through closing]
    exact ih later
  | @comma depth rest nests ih =>
    rw [lay_comma, ← List.cons_append] at split
    obtain ⟨more, rfl, later⟩ :=
      eq_append_of_not_mem (not_mem_cons_newline (by decide) (by decide) width _) split
    rw [List.cons_append, nests.lastIndent_behind later (by decide)]
    exact ih later
  | blank _ ih => exact ih split
  | verbatim inline _ ih =>
    rw [lay_verbatim] at split
    have onLine := inline.not_mem_newline
    cases inline with
    | character plain _ =>
      obtain ⟨absent, _⟩ := not_mem_of_parentheses (parentheses_singleton plain)
      obtain ⟨more, rfl, later⟩ := eq_append_of_not_mem absent split
      rw [lastIndent_through onLine]
      exact ih later
    | @group body plain single =>
      obtain ⟨noOpening, noClosing⟩ := not_mem_of_parentheses plain
      cases front with
      | nil =>
        -- The parenthesis is the innermost one itself, so what stands inside is its body.
        rw [List.cons_append, List.append_assoc] at split
        obtain ⟨more, rfl, later⟩ := eq_append_of_not_mem noClosing (List.cons.inj split).2
        cases more with
        | nil => exact .inl (by rw [List.append_nil]; exact ⟨plain, single⟩)
        | cons c others =>
          obtain ⟨rfl, _⟩ := List.cons.inj later
          rw [IsBalanced, closes_through plain, not_closes_closing] at balanced
          cases balanced
      | cons c tail =>
        obtain ⟨rfl, behind⟩ := List.cons.inj split
        have absent : '(' ∉ body ++ [')'] := by
          rw [List.mem_append, not_or]
          exact ⟨noOpening, by decide⟩
        obtain ⟨more, rfl, later⟩ := eq_append_of_not_mem absent behind
        rw [← List.cons_append, lastIndent_through onLine]
        exact ih later

end Layout

open Layout

/-! ## The law -/

/-- Taking the tags out of a text leaves its parentheses. -/
theorem parentheses_dropTags (inTag : Bool) (text : List Char) :
    parentheses (dropTags inTag text) = parentheses text := by
  have skipped {c : Char} (h : isDecimalDigit c = true ∨ c = tagMark) (rest : List Char) :
      parentheses (c :: rest) = parentheses rest := by
    refine List.filter_cons_of_neg ?_
    intro found
    simp only [isParenthesis, Bool.or_eq_true, beq_iff_eq] at found
    rcases found with rfl | rfl <;> revert h <;> decide
  fun_induction dropTags inTag text with
  | case1 => rfl
  | case2 inTag c rest digit ih =>
    rw [ih, skipped (.inl (Bool.and_eq_true_iff.mp digit).2)]
  | case3 inTag c rest _ tag ih =>
    rw [ih, skipped (.inr (beq_iff_eq.mp (Bool.and_eq_true_iff.mp tag).1))]
  | case4 inTag c rest _ _ ih =>
    unfold parentheses at ih ⊢
    rw [List.filter_cons, List.filter_cons, ih]

/-- The lines of a text are indented by its parentheses. -/
structure FollowsNesting (width : Nat) (out : List Char) : Prop where
  /-- Its parentheses match. -/
  balanced : IsBalanced out
  /-- A line is indented by `width` for each parenthesis that is open where it starts. -/
  indented : ∀ before line, out = before ++ line → StartsLine before →
    indentOf line = openAt before line * width
  /-- A parenthesis spans several lines exactly if another one stands inside. -/
  spread : ∀ before inside after, out = before ++ '(' :: (inside ++ ')' :: after) →
    IsBalanced inside → ('\n' ∈ inside ↔ parentheses inside ≠ [])
  /-- A parenthesis that spans several lines closes at the start of a line that is indented like the
  one it opens on. -/
  closed : ∀ before line inside after,
    out = before ++ (line ++ '(' :: (inside ++ ')' :: after)) → StartsLine before → '\n' ∉ line →
    IsBalanced inside → '\n' ∈ inside →
    ∃ body, inside = body ++ '\n' :: List.replicate (indentOf line) ' '

theorem Layout.EndsIndented.spread {indent : Nat} {inside : List Char}
    (h : EndsIndented indent inside) : '\n' ∈ inside ↔ parentheses inside ≠ [] := by
  rcases h with ⟨plain, single⟩ | ⟨nested, body, rfl⟩
  · simp [plain, single]
  · exact ⟨fun _ => nested, fun _ => by simp⟩

/-- The indentation of a line up to a parenthesis on it, told from the text in front. -/
theorem lastIndent_of_startsLine {before line rest : List Char} (starts : StartsLine before)
    (onLine : '\n' ∉ line) (blank : (before ++ (line ++ rest)).head? ≠ some ' ') :
    lastIndent 0 (before ++ line) = indentOf line := by
  rcases starts with rfl | ⟨front, rfl⟩
  · rw [List.nil_append] at blank ⊢
    have unindented := indentOf_blanks (head?_ne_of_append blank) 0
    have whole := lastIndent_through onLine 0 []
    rw [List.append_nil] at whole
    rw [whole]
    exact unindented.symm
  · rw [List.append_assoc]
    exact lastIndent_line onLine 0 front

theorem Layout.Nests.followsNesting {row : List Token} (h : Nests 0 row) (width : Nat)
    (balanced : IsBalanced (lay width 0 row ++ ['\n'])) :
    FollowsNesting width (lay width 0 row ++ ['\n']) where
  balanced := balanced
  indented := by
    intro before line split starts
    rcases starts with rfl | ⟨front, rfl⟩
    · have blank := (h.head?_lay width).1
      rw [split, List.nil_append] at blank
      have unindented := indentOf_blanks blank 0
      simpa [openAt] using unindented
    · rw [← List.append_cons] at split
      obtain ⟨opened, indent, count⟩ := h.indented split
      have same : openAt (front ++ ['\n']) line = opened := by
        have opening : ['\n'].count '(' = 0 := rfl
        have closing : ['\n'].count ')' = 0 := rfl
        rw [openAt, List.count_append, List.count_append, opening, closing]
        omega
      rw [indent, same]
  spread := fun before inside after split inner => (h.endsIndented split inner).spread
  closed := by
    intro before line inside after split starts onLine inner several
    have blank := (h.head?_lay width).1
    rw [split] at blank
    rw [← List.append_assoc] at split
    have ends := h.endsIndented split inner
    rw [Nat.zero_mul, lastIndent_of_startsLine starts onLine blank] at ends
    rcases ends with ⟨_, single⟩ | ⟨_, found⟩
    · exact absurd several single
    · exact found

/-- Laying out a text of one line without quotes whose parentheses match never takes the depth below
zero and ends with none, by whatever width. Each line is indented by the width for each parenthesis
that is open where it starts, and a parenthesis that spans several lines closes on a line of its
own that is indented like the line it opens on. -/
theorem lines_are_indented_by_the_parentheses_around_them (width : Nat) (text : String)
    (single : '\n' ∉ text.toList) (unquoted : '"' ∉ text.toList)
    (balanced : IsBalanced text.toList) :
    (∀ before after, tokens (stripTags text).toList = before ++ .closing :: after →
      0 < depthBehind 0 before) ∧
    depthBehind 0 (tokens (stripTags text).toList) = 0 ∧
    FollowsNesting width (layOutBy width text).toList := by
  have kept : parentheses (stripTags text).toList = parentheses text.toList := by
    rw [stripTags, String.toList_ofList, parentheses_dropTags]
  have stripped : closes 0 (stripTags text).toList = true := by
    rw [← closes_parentheses, kept, closes_parentheses]
    exact balanced
  have nests : Nests 0 (tokens (stripTags text).toList) :=
    nests_tokens (fun found => unquoted (mem_of_mem_stripTags found))
      (fun found => single (mem_of_mem_stripTags found)) stripped
  have laid : IsBalanced (lay width 0 (tokens (stripTags text).toList) ++ ['\n']) := by
    rw [IsBalanced, ← closes_parentheses, parentheses_append, parentheses_lay, parentheses_tokens,
      kept, show parentheses ['\n'] = [] from rfl, List.append_nil, closes_parentheses]
    exact balanced
  refine ⟨fun before after => nests.depthBehind_pos, nests.depthBehind, ?_⟩
  rw [toList_layOutBy]
  exact nests.followsNesting width laid

theorem a_call_in_a_call_is_laid_out_in_steps :
    layOutBy 2 "f$1$0(g(x), (h(), y))" = "f(\n  g(x),\n  (\n    h(),\n    y\n  )\n)\n" ∧
      FollowsNesting 2 (layOutBy 2 "f$1$0(g(x), (h(), y))").toList :=
  ⟨by decide +kernel,
    (lines_are_indented_by_the_parentheses_around_them 2 "f$1$0(g(x), (h(), y))"
      (by decide +kernel) (by decide +kernel) (by decide +kernel)).2.2⟩

end CallForm

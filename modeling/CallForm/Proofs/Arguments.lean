-- The arguments of a call, cut out of its text: at each comma that stands
-- outside parentheses and string literals. The text of a compiled form is
-- cut into pieces of its own there, and only the items of a bare sequence
-- are more than one.
import CallForm.Proofs.TokenText

namespace CallForm

/-! ## Cutting a text -/

/-- Where a text has been read to: outside string literals with some parentheses open, inside a
string literal, or behind a backslash in one. -/
inductive Reading
  | code (depth : Nat)
  | quoted (depth : Nat)
  | escaped (depth : Nat)

/-- Where one more character leads. -/
def Reading.step (c : Char) : Reading → Reading
  | .code depth =>
    if c = '(' then .code (depth + 1)
    else if c = ')' then .code (depth - 1)
    else if c = '"' then .quoted depth
    else .code depth
  | .quoted depth =>
    if c = '"' then .code depth
    else if c = '\\' then .escaped depth
    else .quoted depth
  | .escaped depth => .quoted depth

/-- Two rows of pieces as one: the last piece of the first row and the first one of the second
belong together. -/
def weld : List (List Char) → List (List Char) → List (List Char)
  | [], others => others
  | [last], [] => [last]
  | [last], first :: rest => (last ++ first) :: rest
  | piece :: next :: more, others => piece :: weld (next :: more) others

/-- The pieces of a text between the commas outside parentheses and string literals. A blank behind
such a comma belongs to no piece. A text whose parentheses or quotes do not match has none. -/
def cutFrom : Reading → List Char → Option (List (List Char))
  | .code 0, [] => some [[]]
  | _, [] => none
  | .code 0, ')' :: _ => none
  | .code 0, ',' :: ' ' :: rest => (cutFrom (.code 0) rest).map ([] :: ·)
  | .code 0, ',' :: rest => (cutFrom (.code 0) rest).map ([] :: ·)
  | reading, c :: rest => (cutFrom (reading.step c) rest).map (weld [[c]])

/-- The texts between the commas of the text inside a call. -/
def argumentsIn (inside : String) : Option (List String) :=
  (cutFrom (.code 0) inside.toList).map (·.map String.ofList)

/-! ## Rows of pieces -/

theorem weld_ne_nil (row : List (List Char)) {others : List (List Char)} (h : others ≠ []) :
    weld row others ≠ [] := by
  match row, others with
  | [], others => exact h
  | [_], _ :: _ => simp [weld]
  | _ :: _ :: _, _ => simp [weld]

@[simp] theorem weld_empty {others : List (List Char)} (h : others ≠ []) :
    weld [[]] others = others := by
  cases others with
  | nil => exact absurd rfl h
  | cons first rest => rfl

theorem weld_last {row : List (List Char)} (h : row ≠ []) : weld row [[]] = row := by
  induction row with
  | nil => exact absurd rfl h
  | cons piece rest ih =>
    cases rest with
    | nil => simp [weld]
    | cons next more => rw [weld, ih (by simp)]

theorem weld_assoc (row : List (List Char)) {middle : List (List Char)} (h : middle ≠ [])
    (others : List (List Char)) :
    weld (weld row middle) others = weld row (weld middle others) := by
  induction row with
  | nil => rfl
  | cons piece rest ih =>
    cases rest with
    | nil =>
      match middle, others with
      | [last], [] => rfl
      | [last], first :: rest => simp [weld]
      | last :: next :: more, others => simp [weld]
    | cons next more =>
      have inside : weld (next :: more) middle ≠ [] := weld_ne_nil _ h
      rw [weld, weld]
      cases found : weld (next :: more) middle with
      | nil => exact absurd found inside
      | cons first rest => rw [weld, ← found, ih]

/-- A comma between two rows keeps their pieces apart. -/
theorem weld_comma {row others : List (List Char)} (h : row ≠ []) (h' : others ≠ []) :
    weld (weld row [[], []]) others = row ++ others := by
  induction row with
  | nil => exact absurd rfl h
  | cons piece rest ih =>
    cases rest with
    | nil =>
      cases others with
      | nil => exact absurd rfl h'
      | cons first rest => simp [weld]
    | cons next more =>
      have later := ih (by simp)
      have inside : weld (next :: more) [[], []] ≠ [] := weld_ne_nil _ (by simp)
      rw [weld]
      cases found : weld (next :: more) [[], []] with
      | nil => exact absurd found inside
      | cons first rest =>
        rw [weld, ← found, later]
        rfl

theorem length_weld {row : List (List Char)} (h : row ≠ []) {others : List (List Char)}
    (h' : others ≠ []) :
    (weld row others).length + 1 = row.length + others.length := by
  induction row with
  | nil => exact absurd rfl h
  | cons piece rest ih =>
    cases rest with
    | nil =>
      cases others with
      | nil => exact absurd rfl h'
      | cons first rest => simp [weld]; omega
    | cons next more =>
      have later := ih (by simp)
      simp only [weld, List.length_cons] at later ⊢
      omega

theorem cutFrom_ne_nil {reading : Reading} {text : List Char} {row : List (List Char)}
    (h : cutFrom reading text = some row) : row ≠ [] := by
  fun_induction cutFrom reading text generalizing row with
  | case1 => cases h; simp
  | case2 => cases h
  | case3 => cases h
  | case4 rest ih =>
    obtain ⟨others, _, rfl⟩ := Option.map_eq_some_iff.mp h
    simp
  | case5 rest _ ih =>
    obtain ⟨others, _, rfl⟩ := Option.map_eq_some_iff.mp h
    simp
  | case6 reading c rest _ _ _ ih =>
    obtain ⟨others, found, rfl⟩ := Option.map_eq_some_iff.mp h
    exact weld_ne_nil _ (ih found)

/-! ## Texts that are cut by themselves -/

/-- Two rows one after another, where the first piece of a row that is cut behind them goes on from
the last of theirs. -/
theorem map_weld_weld {row middle : List (List Char)} (h : middle ≠ [])
    (found : Option (List (List Char))) :
    (found.map (weld middle)).map (weld row) = found.map (weld (weld row middle)) := by
  cases found with
  | none => rfl
  | some others => simp [weld_assoc row h]

/-- A text with these pieces, whatever follows it. Inside parentheses it is not cut. -/
structure Cut (text : List Char) (row : List (List Char)) : Prop where
  nonempty : row ≠ []
  outside (rest : List Char) :
    cutFrom (.code 0) (text ++ rest) = (cutFrom (.code 0) rest).map (weld row)
  inside (depth : Nat) (rest : List Char) :
    cutFrom (.code (depth + 1)) (text ++ rest) =
      (cutFrom (.code (depth + 1)) rest).map (weld [text])

/-- A character that opens or closes something in compiled text, or parts it. -/
def isDelimiter (c : Char) : Bool := c = '(' || c = ')' || c = ',' || c = '"'

namespace Cut

theorem empty : Cut [] [[]] := by
  have same (reading : Reading) (rest : List Char) :
      cutFrom reading rest = (cutFrom reading rest).map (weld [[]]) := by
    cases found : cutFrom reading rest with
    | none => rfl
    | some row => rw [Option.map_some, weld_empty (cutFrom_ne_nil found)]
  exact ⟨by simp, fun rest => same _ rest, fun depth rest => same _ rest⟩

theorem append {text more : List Char} {row others : List (List Char)} (h : Cut text row)
    (h' : Cut more others) : Cut (text ++ more) (weld row others) where
  nonempty := weld_ne_nil _ h'.nonempty
  outside rest := by
    rw [List.append_assoc, h.outside, h'.outside, map_weld_weld h'.nonempty]
  inside depth rest := by
    rw [List.append_assoc, h.inside, h'.inside, map_weld_weld (by simp)]
    rfl

/-- A text of one piece behind another. -/
theorem append_one {text more : List Char} (h : Cut text [text]) (h' : Cut more [more]) :
    Cut (text ++ more) [text ++ more] :=
  h.append h'

theorem char {c : Char} (h : isDelimiter c = false) : Cut [c] [[c]] := by
  simp only [isDelimiter, Bool.or_eq_false_iff, decide_eq_false_iff_not] at h
  obtain ⟨⟨⟨opening, closing⟩, comma⟩, quote⟩ := h
  have stays (depth : Nat) : Reading.step c (.code depth) = .code depth := by
    simp [Reading.step, opening, closing, quote]
  constructor
  · simp
  · intro rest
    rw [List.singleton_append, cutFrom, stays] <;> simp_all
  · intro depth rest
    rw [List.singleton_append, cutFrom, stays] <;> simp

theorem plain {text : List Char} (h : ∀ c ∈ text, isDelimiter c = false) : Cut text [text] := by
  induction text with
  | nil => exact empty
  | cons c rest ih =>
    have first := char (h c List.mem_cons_self)
    exact first.append_one (ih fun d found => h d (List.mem_cons_of_mem _ found))

theorem comma : Cut [',', ' '] [[], []] where
  nonempty := by simp
  outside rest := by
    change cutFrom (.code 0) (',' :: ' ' :: rest) = _
    rw [cutFrom]
    cases found : cutFrom (.code 0) rest with
    | none => rfl
    | some row =>
      cases row with
      | nil => exact absurd rfl (cutFrom_ne_nil found)
      | cons first rest => rfl
  inside depth rest := by
    change cutFrom (.code (depth + 1)) (',' :: ' ' :: rest) = _
    rw [cutFrom, cutFrom, map_weld_weld (by simp)]
    · rfl
    all_goals simp

theorem cutFrom_opening (depth : Nat) (rest : List Char) :
    cutFrom (.code depth) ('(' :: rest) =
      (cutFrom (.code (depth + 1)) rest).map (weld [['(']]) := by
  rw [cutFrom]
  · rfl
  all_goals simp

theorem cutFrom_closing (depth : Nat) (rest : List Char) :
    cutFrom (.code (depth + 1)) (')' :: rest) =
      (cutFrom (.code depth) rest).map (weld [[')']]) := by
  rw [cutFrom]
  · rfl
  all_goals simp

/-- Parentheses make one piece of whatever stands in them. -/
theorem group {text : List Char} {row : List (List Char)} (h : Cut text row) :
    Cut ('(' :: (text ++ [')'])) ['(' :: (text ++ [')'])] := by
  have whole (depth : Nat) (rest : List Char) :
      cutFrom (.code depth) ('(' :: (text ++ [')']) ++ rest) =
        (cutFrom (.code depth) rest).map (weld ['(' :: (text ++ [')'])]) := by
    rw [List.cons_append, List.append_assoc, cutFrom_opening, h.inside, List.singleton_append,
      cutFrom_closing, map_weld_weld (by simp), map_weld_weld (by simp)]
    rfl
  exact ⟨by simp, whole 0, fun depth => whole (depth + 1)⟩

/-- Inside a string literal the text goes on to its closing quote. -/
theorem cutFrom_escape (depth : Nat) (value rest : List Char) :
    cutFrom (.quoted depth) (Fragment.escape value ++ '"' :: rest) =
      (cutFrom (.code depth) rest).map (weld [Fragment.escape value ++ ['"']]) := by
  induction value with
  | nil =>
    rw [Fragment.escape, List.nil_append, cutFrom]
    · rfl
    all_goals simp
  | cons c value ih =>
    rw [Fragment.escape]
    split
    · rw [List.cons_append, List.cons_append, cutFrom, cutFrom]
      · have back : Reading.step c (Reading.step '\\' (.quoted depth)) = .quoted depth := rfl
        rw [back, ih, map_weld_weld (by simp), map_weld_weld (by simp)]
        rfl
      all_goals simp [Reading.step]
    · rename_i other
      rw [not_or] at other
      rw [List.cons_append, cutFrom]
      · have stays : Reading.step c (.quoted depth) = .quoted depth := by
          simp [Reading.step, other]
        rw [stays, ih, map_weld_weld (by simp)]
        rfl
      all_goals simp

theorem quoted (value : String) :
    Cut (Fragment.quoted value).toList [(Fragment.quoted value).toList] := by
  have text : (Fragment.quoted value).toList = '"' :: (Fragment.escape value.toList ++ ['"']) := by
    simp [Fragment.quoted]
  have whole (depth : Nat) (rest : List Char) :
      cutFrom (.code depth) ((Fragment.quoted value).toList ++ rest) =
        (cutFrom (.code depth) rest).map (weld [(Fragment.quoted value).toList]) := by
    rw [text, List.cons_append, List.append_assoc, List.singleton_append, cutFrom]
    · have enters : Reading.step '"' (.code depth) = .quoted depth := rfl
      rw [enters, cutFrom_escape, map_weld_weld (by simp)]
      rfl
    all_goals simp
  exact ⟨by simp, whole 0, fun depth => whole (depth + 1)⟩

end Cut

/-! ## The pieces of compiled form -/

mutual

/-- The pieces that the text of a compiled form is cut into. -/
def Ir.pieces : Ir → List (List Char)
  | .between left op right false =>
    weld left.pieces (weld [(" " ++ op.text ++ " ").toList] right.pieces)
  | .before op operand false => weld [op.text.toList] operand.pieces
  | .sequence [] => [[]]
  | .sequence (item :: rest) => item.pieces ++ Ir.piecesOf rest
  | form => [form.render.toList]

/-- The pieces that the texts of several compiled forms are cut into, in order. -/
def Ir.piecesOf : List Ir → List (List Char)
  | [] => []
  | item :: rest => item.pieces ++ Ir.piecesOf rest

end

/-- A name without parentheses, commas and quotes. -/
def IsPlainName (name : String) : Prop := ∀ c ∈ name.toList, isDelimiter c = false

theorem isDelimiter_of_isNumberChar {c : Char} (h : isNumberChar c = true) :
    isDelimiter c = false := by
  cases found : isDelimiter c with
  | false => rfl
  | true =>
    simp only [isDelimiter, Bool.or_eq_true, decide_eq_true_eq] at found
    rcases found with ((rfl | rfl) | rfl) | rfl <;> revert h <;> decide

theorem isDelimiter_of_isDigit {c : Char} (h : c.isDigit = true) : isDelimiter c = false :=
  isDelimiter_of_isNumberChar (by rw [isNumberChar, h, Bool.true_or])

theorem Position.mark_plain (pos : Position) : ∀ c ∈ pos.mark.toList, isDelimiter c = false := by
  have digits (n : Nat) : ∀ c ∈ (toString n).toList, isDelimiter c = false := by
    have text : (toString n).toList = Nat.toDigits 10 n := String.toList_ofList
    rw [text]
    exact fun c found => isDelimiter_of_isDigit ((isDigits_toDigits n).2 c found)
  unfold mark
  simp only [String.toList_append, List.forall_mem_append]
  exact ⟨⟨⟨by simp [isDelimiter], digits _⟩, by simp [isDelimiter]⟩, digits _⟩

theorem Symbol.render_plain {head : Symbol} (h : IsPlainName head.name) :
    ∀ c ∈ head.render.toList, isDelimiter c = false := by
  obtain ⟨name, tag⟩ := head
  cases tag with
  | none => exact h
  | some pos =>
    change ∀ c ∈ (name ++ pos.mark).toList, _
    rw [String.toList_append]
    exact List.forall_mem_append.mpr ⟨h, pos.mark_plain⟩

theorem InfixOperator.text_plain (op : InfixOperator) :
    ∀ c ∈ (" " ++ op.text ++ " ").toList, isDelimiter c = false := by
  cases op <;> simp [text, isDelimiter]

theorem PrefixOperator.text_plain (op : PrefixOperator) :
    ∀ c ∈ op.text.toList, isDelimiter c = false := by
  cases op <;> simp [text, isDelimiter]

/-- The names of a compiled form are plain; its numbers always are. -/
def Ir.IsPlain (form : Ir) : Prop := form.Leaves IsPlainName fun _ => True

/-- The names of several compiled forms are plain. -/
def Ir.AllPlain (forms : List Ir) : Prop := Ir.AllLeaves IsPlainName (fun _ => True) forms

theorem toList_group (text : String) :
    (Fragment.group text).toList = '(' :: (text.toList ++ [')']) := by
  simp [Fragment.group]

/-- Behind the head of a call, its arguments are in parentheses. -/
theorem Cut.call {head : Symbol} (h : IsPlainName head.name) {text : String}
    {row : List (List Char)} (hargs : Cut text.toList row) :
    Cut (head.render ++ "(" ++ text ++ ")").toList
      [(head.render ++ "(" ++ text ++ ")").toList] := by
  have inside := (Cut.plain (Symbol.render_plain h)).append_one hargs.group
  simpa using inside

mutual

/-- The text of a compiled form is cut into its pieces, whatever stands beside it. -/
theorem Ir.cut : ∀ form : Ir, form.IsPlain → Cut form.render.toList form.pieces
  | .symbol head, plain => by
    rw [pieces, render]
    · exact .plain (Symbol.render_plain plain)
    all_goals simp
  | .number value, _ => by
    rw [pieces, render]
    · exact .plain fun c found => isDelimiter_of_isNumberChar (Fragment.numberChars value c found)
    all_goals simp
  | .string value, _ => by
    rw [pieces, render]
    · exact .quoted value
    all_goals simp
  | .call head args, plain => by
    obtain ⟨named, inside⟩ : IsPlainName head.name ∧ Ir.AllPlain args := plain
    rw [pieces, render]
    · exact Cut.call named (Ir.cutAll args inside)
    all_goals simp
  | .between left op right grouped, plain => by
    obtain ⟨first, second⟩ : left.IsPlain ∧ right.IsPlain := plain
    have middle := Cut.plain op.text_plain
    have inside := (left.cut first).append (middle.append (right.cut second))
    have text : (left.render ++ " " ++ op.text ++ " " ++ right.render).toList =
        left.render.toList ++ ((" " ++ op.text ++ " ").toList ++ right.render.toList) := by
      simp
    rw [← text] at inside
    cases grouped with
    | false => simpa [pieces, render, Fragment.between] using inside
    | true =>
      rw [pieces, render]
      · simpa [Fragment.between, toList_group] using inside.group
      all_goals simp
  | .before op operand grouped, plain => by
    have first := Cut.plain op.text_plain
    have inside := operand.cut plain
    cases grouped with
    | false => simpa [pieces, render, Fragment.before] using first.append inside
    | true =>
      rw [pieces, render]
      · simpa [Fragment.before, toList_group] using first.append_one inside.group
      all_goals simp
  | .group inner, plain => by
    rw [pieces, render]
    · simpa [toList_group] using (inner.cut plain).group
    all_goals simp
  | .sequence items, plain => by
    rw [render]
    exact Ir.cutAll items plain

theorem Ir.cutAll : ∀ forms : List Ir, Ir.AllPlain forms →
    Cut (Fragment.join (Ir.renderAll forms)).toList (Ir.sequence forms).pieces
  | [], _ => .empty
  | [form], plain => by
    simpa [renderAll, Fragment.join, pieces, piecesOf] using form.cut plain.1
  | form :: next :: rest, plain => by
    have first := form.cut plain.1
    have later := Ir.cutAll (next :: rest) plain.2
    have whole := (first.append .comma).append later
    rw [weld_comma first.nonempty later.nonempty] at whole
    simpa [renderAll, Fragment.join, pieces, piecesOf] using whole

end

/-- The text inside a call is cut into the pieces of its arguments. -/
theorem Ir.argumentsIn_join {forms : List Ir} (plain : Ir.AllPlain forms) :
    argumentsIn (Fragment.join (Ir.renderAll forms)) =
      some ((Ir.sequence forms).pieces.map String.ofList) := by
  have cut := (Ir.cutAll forms plain).outside []
  rw [List.append_nil] at cut
  rw [argumentsIn, cut, cutFrom, Option.map_some, Option.map_some, weld_last]
  exact (Ir.cutAll forms plain).nonempty

end CallForm

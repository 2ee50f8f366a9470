-- What taking the tags out of compiled text leaves. A tag is always closed
-- by a blank, a comma or a parenthesis, and no mark of a name or a string
-- can reach across one of these, so the text without its tags is built from
-- its parts in the same way, wherever these were placed.
import CallForm.Ir.Tags
import CallForm.Proofs.TokenText

namespace CallForm

/-! ## Dropping tags piece by piece -/

theorem dropTags_noDigit {rest : List Char} (h : startsWithDigit rest = false) (inTag : Bool) :
    dropTags inTag rest = dropTags false rest := by
  cases rest with
  | nil => rfl
  | cons c others =>
    have other : isDecimalDigit c = false := h
    simp [dropTags, other]

/-- In front of a text that does not start with a digit, tags are dropped apart from it. -/
theorem dropTags_append {rest : List Char} (h : startsWithDigit rest = false) (inTag : Bool)
    (text : List Char) :
    dropTags inTag (text ++ rest) = dropTags inTag text ++ dropTags false rest := by
  induction text generalizing inTag with
  | nil => exact dropTags_noDigit h inTag
  | cons c others ih =>
    have next : startsWithDigit (others ++ rest) = startsWithDigit others := by
      cases others with
      | nil => exact h
      | cons => rfl
    rw [List.cons_append, dropTags, dropTags, next]
    split
    · exact ih true
    · split
      · exact ih true
      · rw [ih false, List.cons_append]

theorem dropTags_digits {digits : List Char} (h : ∀ c ∈ digits, isDecimalDigit c = true) :
    dropTags true digits = [] := by
  induction digits with
  | nil => rfl
  | cons c others ih =>
    simp [dropTags, h c List.mem_cons_self,
      ih fun d found => h d (List.mem_cons_of_mem _ found)]

theorem dropTags_half {digits : List Char} (h : IsDigits digits) :
    dropTags false (tagMark :: digits) = [] := by
  have decimal (c : Char) (found : c ∈ digits) : isDecimalDigit c = true :=
    isDecimalDigit_of_isDigit c (h.2 c found)
  have starts : startsWithDigit digits = true := by
    rcases digits with _ | ⟨c, others⟩
    · exact absurd rfl h.1
    · exact decimal c List.mem_cons_self
  simp [dropTags, starts, dropTags_digits decimal]

theorem stripTags_append (text : String) {rest : String}
    (h : startsWithDigit rest.toList = false) :
    stripTags (text ++ rest) = stripTags text ++ stripTags rest := by
  simp [stripTags, dropTags_append h]

/-- The tag of a place leaves nothing, whatever stands in front of it. -/
theorem stripTags_tag (pos : Position) (name : String) :
    stripTags (pos.tag name) = stripTags name := by
  have half (number : Nat) : stripTags ("$" ++ toString number) = "" := by
    have digits := dropTags_half (isDigits_toDigits number)
    simpa [stripTags, tagMark] using digits
  have mark : stripTags pos.mark = "" := by
    rw [Position.mark, String.append_assoc, stripTags_append _ (by simp; rfl), half, half]
    rfl
  rw [Position.tag, stripTags_append _ (by simp [Position.mark]; rfl), mark, String.append_empty]

/-! ## Dropping tags around a separator -/

/-- Whether a character is neither a mark nor a digit. -/
def closesTag (c : Char) : Bool := c != tagMark && !isDecimalDigit c

/-- Whether no tag reaches into a text and none starts in it: it holds no mark and no digit. -/
def isSeparator (text : String) : Bool :=
  match text.toList with
  | [] => false
  | c :: others => closesTag c && others.all closesTag

theorem dropTags_closed {separator : List Char} (h : separator.all closesTag = true)
    (rest : List Char) : dropTags false (separator ++ rest) = separator ++ dropTags false rest := by
  induction separator with
  | nil => rfl
  | cons c others ih =>
    simp only [List.all_cons, closesTag, bne, Bool.and_eq_true, Bool.not_eq_true'] at h
    obtain ⟨⟨other, noDigit⟩, plain⟩ := h
    simp [dropTags, other, ih plain]

/-- On the two sides of a separator, tags are dropped apart. -/
theorem stripTags_separated {separator : String} (h : isSeparator separator = true)
    (text rest : String) :
    stripTags (text ++ separator ++ rest) = stripTags text ++ separator ++ stripTags rest := by
  unfold isSeparator at h
  rcases found : separator.toList with _ | ⟨c, others⟩
  · simp [found] at h
  · rw [found] at h
    have plain : (separator.toList).all closesTag = true := by
      rw [found]
      exact h
    have starts : startsWithDigit (separator ++ rest).toList = false := by
      simp only [closesTag, Bool.and_eq_true, Bool.not_eq_true'] at h
      rw [String.toList_append, found]
      exact h.1.2
    rw [String.append_assoc, stripTags_append _ starts, String.append_assoc]
    congr 1
    simp [stripTags, dropTags_closed plain]

/-- Behind a separator, tags are dropped apart from it. -/
theorem stripTags_opened {separator : String} (h : isSeparator separator = true) (rest : String) :
    stripTags (separator ++ rest) = separator ++ stripTags rest := by
  have parted := stripTags_separated h "" rest
  rwa [String.empty_append] at parted

namespace Fragment

theorem stripTags_join (items : List String) :
    stripTags (join items) = join (items.map stripTags) := by
  induction items with
  | nil => rfl
  | cons item rest ih =>
    cases rest with
    | nil => rfl
    | cons next others =>
      change stripTags (item ++ ", " ++ join (next :: others)) = _
      rw [stripTags_separated (by decide), ih]
      rfl

theorem stripTags_closed (text : String) : stripTags (text ++ ")") = stripTags text ++ ")" :=
  stripTags_append text rfl

theorem stripTags_call (head : String) (args : List String) :
    stripTags (call head args) = call (stripTags head) (args.map stripTags) := by
  rw [call, stripTags_closed, stripTags_separated (by decide), stripTags_join, call]

theorem stripTags_group (text : String) : stripTags (group text) = group (stripTags text) := by
  rw [group, stripTags_closed, stripTags_opened (by decide), group]

theorem stripTags_between (left right : String) (operator : InfixOperator) (grouped : Bool) :
    stripTags (between left operator.text right grouped) =
      between (stripTags left) operator.text (stripTags right) grouped := by
  have parts (left right : String) :
      left ++ " " ++ operator.text ++ " " ++ right =
        left ++ (" " ++ operator.text ++ " ") ++ right := by
    simp [String.append_assoc]
  have separates : isSeparator (" " ++ operator.text ++ " ") = true := by
    cases operator <;> decide
  have plain : stripTags (left ++ " " ++ operator.text ++ " " ++ right) =
      stripTags left ++ " " ++ operator.text ++ " " ++ stripTags right := by
    rw [parts, stripTags_separated separates, ← parts]
  cases grouped with
  | false => exact plain
  | true => exact (stripTags_group _).trans (congrArg group plain)

theorem stripTags_before (operator : PrefixOperator) (operand : String) (grouped : Bool) :
    stripTags (before operator.text operand grouped) =
      before operator.text (stripTags operand) grouped := by
  have plain (text : String) :
      stripTags (operator.text ++ text) = operator.text ++ stripTags text := by
    have separates : isSeparator operator.text = true := by cases operator <;> decide
    exact stripTags_opened separates text
  cases grouped with
  | false => exact plain operand
  | true => exact (plain _).trans (congrArg (operator.text ++ ·) (stripTags_group operand))

theorem startsWithDigit_escape (value : List Char) :
    startsWithDigit (escape value) = startsWithDigit value := by
  cases value with
  | nil => rfl
  | cons c rest =>
    unfold escape
    split
    · rename_i escaped
      rcases escaped with rfl | rfl <;> rfl
    · rfl

/-- A backslash in front of a character neither makes a tag nor ends one. -/
theorem dropTags_escape (inTag : Bool) (value : List Char) :
    dropTags inTag (escape value) = escape (dropTags inTag value) := by
  induction value generalizing inTag with
  | nil => rfl
  | cons c rest ih =>
    by_cases escaped : c = '"' ∨ c = '\\'
    · have plain (text : List Char) (inTag : Bool) : dropTags inTag (c :: text) =
          c :: dropTags false text := by
        rcases escaped with rfl | rfl <;> simp [dropTags, tagMark, isDecimalDigit]
      have backslash (text : List Char) : dropTags inTag ('\\' :: text) =
          '\\' :: dropTags false text := by
        simp [dropTags, tagMark, isDecimalDigit]
      rw [escape, if_pos escaped, backslash, plain, plain, escape, if_pos escaped, ih]
    · rw [escape, if_neg escaped, dropTags, dropTags, startsWithDigit_escape]
      split
      · exact ih true
      · split
        · exact ih true
        · rw [ih, escape, if_neg escaped]

theorem stripTags_quoted (value : String) :
    stripTags (quoted value) = quoted (stripTags value) := by
  have inside : stripTags (String.ofList (escape value.toList)) =
      String.ofList (escape (stripTags value).toList) := by
    simp only [stripTags, String.toList_ofList, dropTags_escape]
  rw [quoted, stripTags_append _ rfl, stripTags_opened (by decide), inside]
  rfl

theorem stripTags_number (value : Number) : stripTags (number value) = number value := by
  rw [stripTags, dropTags_untagged (number_unmarked value), String.ofList_toList]

end Fragment

/-! ## Trees with other leaves -/

mutual

/-- Compiled form with other symbols and other string literals. -/
def Ir.mapLeaves (symbol : Symbol → Symbol) (string : String → String) : Ir → Ir
  | .symbol head => .symbol (symbol head)
  | .number value => .number value
  | .string value => .string (string value)
  | .call head args => .call (symbol head) (Ir.mapLeavesAll symbol string args)
  | .between left operator right grouped =>
    .between (left.mapLeaves symbol string) operator (right.mapLeaves symbol string) grouped
  | .before operator operand grouped => .before operator (operand.mapLeaves symbol string) grouped
  | .group inner => .group (inner.mapLeaves symbol string)
  | .sequence items => .sequence (Ir.mapLeavesAll symbol string items)

/-- Several trees with other symbols and other string literals, in order. -/
def Ir.mapLeavesAll (symbol : Symbol → Symbol) (string : String → String) : List Ir → List Ir
  | [] => []
  | item :: rest => item.mapLeaves symbol string :: Ir.mapLeavesAll symbol string rest

end

/-- A symbol written bare, with a name that holds no tags either. -/
def Symbol.stripped (symbol : Symbol) : Symbol := ⟨stripTags symbol.name, none⟩

/-- Compiled form with every symbol written bare, and with no tags in names and strings either. -/
def Ir.stripped (ir : Ir) : Ir := ir.mapLeaves Symbol.stripped stripTags

theorem Symbol.stripTags_render (symbol : Symbol) :
    stripTags symbol.render = symbol.stripped.render := by
  obtain ⟨name, tag⟩ := symbol
  cases tag with
  | none => rfl
  | some pos => exact stripTags_tag pos name

mutual

/-- Compiled text without its tags is the text of the tree with these taken out of its leaves: no
tag stands anywhere else, and none reaches from one leaf into another. -/
theorem Ir.stripTags_render_eq : ∀ ir : Ir, stripTags ir.render = ir.stripped.render
  | .symbol head => head.stripTags_render
  | .number value => Fragment.stripTags_number value
  | .string value => Fragment.stripTags_quoted value
  | .call head args => by
    rw [stripped, mapLeaves, render, render, Fragment.stripTags_call, head.stripTags_render,
      Ir.stripTags_renderAll_eq args]
  | .between left operator right grouped => by
    rw [stripped, mapLeaves, render, render, Fragment.stripTags_between, left.stripTags_render_eq,
      right.stripTags_render_eq]
    rfl
  | .before operator operand grouped => by
    rw [stripped, mapLeaves, render, render, Fragment.stripTags_before,
      operand.stripTags_render_eq]
    rfl
  | .group inner => by
    rw [stripped, mapLeaves, render, render, Fragment.stripTags_group, inner.stripTags_render_eq]
    rfl
  | .sequence items => by
    rw [stripped, mapLeaves, render, render, Fragment.stripTags_join,
      Ir.stripTags_renderAll_eq items]

theorem Ir.stripTags_renderAll_eq : ∀ items : List Ir,
    (renderAll items).map stripTags = renderAll (mapLeavesAll Symbol.stripped stripTags items)
  | [] => rfl
  | item :: rest => by
    rw [mapLeavesAll, renderAll, renderAll, List.map_cons, item.stripTags_render_eq,
      Ir.stripTags_renderAll_eq rest]
    rfl

end

/-! ## Trees without tags -/

/-- A symbol written bare. -/
def Symbol.untagged (symbol : Symbol) : Symbol := ⟨symbol.name, none⟩

mutual

/-- Compiled form with every symbol written bare. -/
def Ir.untagged : Ir → Ir
  | .symbol head => .symbol head.untagged
  | .number value => .number value
  | .string value => .string value
  | .call head args => .call head.untagged (Ir.untaggedAll args)
  | .between left operator right grouped =>
    .between left.untagged operator right.untagged grouped
  | .before operator operand grouped => .before operator operand.untagged grouped
  | .group inner => .group inner.untagged
  | .sequence items => .sequence (Ir.untaggedAll items)

/-- Several trees with every symbol written bare, in order. -/
def Ir.untaggedAll : List Ir → List Ir
  | [] => []
  | item :: rest => item.untagged :: Ir.untaggedAll rest

end

@[simp] theorem Ir.untaggedAll_append (items more : List Ir) :
    untaggedAll (items ++ more) = untaggedAll items ++ untaggedAll more := by
  induction items with
  | nil => rfl
  | cons item rest ih => simp [untaggedAll, ih]

mutual

/-- A tag on a symbol does not show in what is left without any. -/
theorem Ir.stripped_untagged : ∀ ir : Ir, ir.untagged.stripped = ir.stripped
  | .symbol _ | .number _ | .string _ => rfl
  | .call head args => congrArg (Ir.call head.stripped) (Ir.stripped_untaggedAll args)
  | .between left operator right grouped => by
    have first := left.stripped_untagged
    have second := right.stripped_untagged
    unfold stripped at *
    rw [untagged, mapLeaves, mapLeaves, first, second]
  | .before operator operand grouped =>
    congrArg (Ir.before operator · grouped) operand.stripped_untagged
  | .group inner => congrArg Ir.group inner.stripped_untagged
  | .sequence items => congrArg Ir.sequence (Ir.stripped_untaggedAll items)

theorem Ir.stripped_untaggedAll : ∀ items : List Ir,
    mapLeavesAll Symbol.stripped stripTags (untaggedAll items) =
      mapLeavesAll Symbol.stripped stripTags items
  | [] => rfl
  | item :: rest => by
    have first := item.stripped_untagged
    unfold stripped at first
    rw [untaggedAll, mapLeavesAll, mapLeavesAll, first, Ir.stripped_untaggedAll rest]

end

/-- Compiled text without its tags is the text of the bare tree without its tags: only the marks
that names and strings hold by themselves are left to drop there. -/
theorem Ir.stripTags_render (ir : Ir) : stripTags ir.render = stripTags ir.untagged.render := by
  rw [ir.stripTags_render_eq, ir.untagged.stripTags_render_eq, ir.stripped_untagged]

end CallForm

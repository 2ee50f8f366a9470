-- The text of a function without its tags. It is the text that the same
-- compiled form has with every symbol written bare, except that string
-- literals lose what reads as a tag in them.
import CallForm.Proofs.Provenance
import CallForm.Proofs.Untagged

namespace CallForm

/-! ## Texts that hold no tag -/

/-- Whether somewhere in a text a mark stands in front of a digit. -/
def HoldsTag (text : List Char) : Prop :=
  ∃ before digit rest, text = before ++ tagMark :: digit :: rest ∧ isDecimalDigit digit = true

theorem holdsTag_cons {c : Char} {rest : List Char} :
    HoldsTag (c :: rest) ↔ c = tagMark ∧ startsWithDigit rest = true ∨ HoldsTag rest := by
  constructor
  · rintro ⟨before, digit, others, same, isDigit⟩
    cases before with
    | nil =>
      cases same
      exact .inl ⟨rfl, isDigit⟩
    | cons first before =>
      cases same
      exact .inr ⟨before, digit, others, rfl, isDigit⟩
  · rintro (⟨rfl, starts⟩ | ⟨before, digit, others, rfl, isDigit⟩)
    · cases rest with
      | nil => cases starts
      | cons digit others => exact ⟨[], digit, others, rfl, starts⟩
    · exact ⟨c :: before, digit, others, rfl, isDigit⟩

theorem HoldsTag.append {text : List Char} (h : HoldsTag text) (first more : List Char) :
    HoldsTag (first ++ (text ++ more)) := by
  obtain ⟨before, digit, rest, rfl, isDigit⟩ := h
  exact ⟨first ++ before, digit, rest ++ more, by simp, isDigit⟩

/-- What is left behind the mark of a tag does not start with a digit. -/
theorem startsWithDigit_dropTags_tag (text : List Char) :
    startsWithDigit (dropTags true text) = false := by
  induction text with
  | nil => rfl
  | cons c rest ih =>
    unfold dropTags
    split
    · exact ih
    · split
      · exact ih
      · rename_i noDigit _
        change isDecimalDigit c = false
        simpa using noDigit

/-- What is left of a text holds no tag: where a mark is kept, no digit comes up to it. -/
theorem not_holdsTag_dropTags (inTag : Bool) (text : List Char) :
    ¬ HoldsTag (dropTags inTag text) := by
  induction text generalizing inTag with
  | nil =>
    rintro ⟨before, _, _, same, _⟩
    cases before <;> cases same
  | cons c rest ih =>
    unfold dropTags
    split
    · exact ih true
    · split
      · exact ih true
      · rename_i kept
        rw [holdsTag_cons]
        rintro (⟨rfl, starts⟩ | later)
        -- Had a digit come up to the mark, a tag between the two would have been dropped, and
        -- nothing that is left behind a tag starts with a digit.
        · have noDigit : startsWithDigit rest = false := by simpa using kept
          rw [← dropTags_noDigit noDigit true, startsWithDigit_dropTags_tag] at starts
          cases starts
        · exact ih false later

/-- Exactly the texts without tags are left as they are. -/
theorem dropTags_eq_self_iff {text : List Char} :
    dropTags false text = text ↔ ¬ HoldsTag text := by
  constructor
  · intro same
    rw [← same]
    exact not_holdsTag_dropTags false text
  · intro plain
    induction text with
    | nil => rfl
    | cons c rest ih =>
      rw [holdsTag_cons, not_or] at plain
      have kept : (c == tagMark && startsWithDigit rest) = false := by
        simpa using plain.1
      simp [dropTags, kept, ih plain.2]

instance (text : List Char) : Decidable (HoldsTag text) :=
  decidable_of_iff (¬ dropTags false text = text) (by rw [dropTags_eq_self_iff, not_not])

theorem stripTags_eq_self_iff {text : String} :
    stripTags text = text ↔ ¬ HoldsTag text.toList := by
  rw [← dropTags_eq_self_iff, stripTags, ← String.toList_inj, String.toList_ofList]

theorem Unmarked.stripTags {text : String} (h : Unmarked text) : stripTags text = text := by
  rw [CallForm.stripTags, dropTags_untagged h, String.ofList_toList]

/-- A string that holds a tag shows it in its literal. -/
theorem HoldsTag.quoted {value : String} (h : HoldsTag value.toList) :
    HoldsTag (Fragment.quoted value).toList := by
  have escaped (text : List Char) (h : HoldsTag text) : HoldsTag (Fragment.escape text) := by
    induction text with
    | nil => exact h
    | cons c rest ih =>
      unfold Fragment.escape
      rcases holdsTag_cons.mp h with ⟨rfl, starts⟩ | later
      · rw [← Fragment.startsWithDigit_escape] at starts
        exact holdsTag_cons.mpr (.inl ⟨rfl, starts⟩)
      · have behind := ih later
        split
        · exact holdsTag_cons.mpr (.inr (holdsTag_cons.mpr (.inr behind)))
        · exact holdsTag_cons.mpr (.inr behind)
  simpa [Fragment.quoted] using (escaped _ h).append ['"'] ['"']

/-! ## Tokens with other leaves -/

/-- A token with another symbol or another string literal. -/
def CallToken.mapLeaves (symbol : Symbol → Symbol) (string : String → String) :
    CallToken → CallToken
  | .symbol head => .symbol (symbol head)
  | .string value => .string (string value)
  | token => token

namespace CallToken

variable {symbol symbol' : Symbol → Symbol} {string string' : String → String}

theorem mapLeaves_ofPrefix (op : PrefixOperator) :
    (ofPrefix op).mapLeaves symbol string = ofPrefix op := by
  cases op <;> rfl

theorem mem_commas {token : CallToken} {row : List CallToken} {rows : List (List CallToken)}
    (h : row ∈ rows) (found : token ∈ row) : token ∈ commas rows := by
  induction rows with
  | nil => cases h
  | cons first rest ih =>
    obtain ⟨more, same⟩ := commas_cons first rest
    rcases List.mem_cons.mp h with rfl | later
    · rw [same]
      exact List.mem_append_left more found
    · cases rest with
      | nil => cases later
      | cons next others =>
        exact List.mem_append_right _ (List.mem_cons_of_mem _ (ih later))

end CallToken

open CallToken

mutual

/-- The tokens of a tree with other leaves are its tokens with other leaves. -/
theorem Ir.tokens_mapLeaves (symbol : Symbol → Symbol) (string : String → String) : ∀ ir : Ir,
    (ir.mapLeaves symbol string).tokens = ir.tokens.map (CallToken.mapLeaves symbol string)
  | .symbol _ | .number _ | .string _ => rfl
  | .call head args => by
    rw [mapLeaves, tokens, tokens, Ir.row_mapLeaves symbol string args]
    simp [CallToken.mapLeaves]
  | .between left op right grouped => by
    rw [mapLeaves, tokens, tokens, left.tokens_mapLeaves, right.tokens_mapLeaves]
    cases grouped <;> simp [CallToken.mapLeaves]
  | .before op operand grouped => by
    rw [mapLeaves, tokens, tokens, operand.tokens_mapLeaves]
    rw [List.map_cons, mapLeaves_ofPrefix]
    cases grouped <;> simp [CallToken.mapLeaves]
  | .group inner => by
    rw [mapLeaves, tokens, tokens, inner.tokens_mapLeaves]
    simp [CallToken.mapLeaves]
  | .sequence items => by
    rw [mapLeaves, tokens, tokens, Ir.row_mapLeaves symbol string items]

theorem Ir.row_mapLeaves (symbol : Symbol → Symbol) (string : String → String) :
    ∀ items : List Ir, commas (tokensOf (mapLeavesAll symbol string items)) =
      (commas (tokensOf items)).map (CallToken.mapLeaves symbol string)
  | [] => rfl
  | [item] => item.tokens_mapLeaves symbol string
  | item :: next :: rest => by
    have first := item.tokens_mapLeaves symbol string
    have later := Ir.row_mapLeaves symbol string (next :: rest)
    have split (item next : Ir) (rest : List Ir) : commas (tokensOf (item :: next :: rest)) =
        item.tokens ++ .comma :: commas (tokensOf (next :: rest)) := rfl
    rw [mapLeavesAll] at later ⊢
    rw [mapLeavesAll, split, split, first, later, List.map_append, List.map_cons]
    rfl

end

section

variable {symbol symbol' : Symbol → Symbol} {string string' : String → String}

mutual

/-- Where the leaves become the same, the trees do. -/
theorem Ir.mapLeaves_congr : ∀ ir : Ir, (∀ token ∈ ir.tokens,
    token.mapLeaves symbol string = token.mapLeaves symbol' string') →
      ir.mapLeaves symbol string = ir.mapLeaves symbol' string'
  | .symbol _, h => congrArg Ir.symbol (CallToken.symbol.inj (h _ List.mem_cons_self))
  | .number _, _ => rfl
  | .string _, h => congrArg Ir.string (CallToken.string.inj (h _ List.mem_cons_self))
  | .call head args, h => by
    have first := CallToken.symbol.inj (h _ List.mem_cons_self)
    have inside := Ir.mapLeavesAll_congr args fun item listed token found =>
      h token (by
        have member := mem_commas (tokensOf_eq_map args ▸ List.mem_map_of_mem listed) found
        simp [tokens, member])
    rw [mapLeaves, mapLeaves, first, inside]
  | .between left op right grouped, h => by
    have first := left.mapLeaves_congr fun token found =>
      h token (by cases grouped <;> simp [tokens, found])
    have second := right.mapLeaves_congr fun token found =>
      h token (by cases grouped <;> simp [tokens, found])
    rw [mapLeaves, mapLeaves, first, second]
  | .before op operand grouped, h => by
    have inside := operand.mapLeaves_congr fun token found =>
      h token (by cases grouped <;> simp [tokens, found])
    rw [mapLeaves, mapLeaves, inside]
  | .group inner, h => by
    have inside := inner.mapLeaves_congr fun token found => h token (by simp [tokens, found])
    rw [mapLeaves, mapLeaves, inside]
  | .sequence items, h => by
    have inside := Ir.mapLeavesAll_congr items fun item listed token found =>
      h token (mem_commas (tokensOf_eq_map items ▸ List.mem_map_of_mem listed) found)
    rw [mapLeaves, mapLeaves, inside]

theorem Ir.mapLeavesAll_congr : ∀ items : List Ir, (∀ item ∈ items, ∀ token ∈ item.tokens,
    token.mapLeaves symbol string = token.mapLeaves symbol' string') →
      mapLeavesAll symbol string items = mapLeavesAll symbol' string' items
  | [], _ => rfl
  | item :: rest, h => by
    have first := item.mapLeaves_congr (h item List.mem_cons_self)
    have others := Ir.mapLeavesAll_congr rest fun other listed =>
      h other (List.mem_cons_of_mem _ listed)
    rw [mapLeavesAll, mapLeavesAll, first, others]

end

end

/-! ## Strings -/

/-- The value of a string literal. -/
def CallToken.string? : CallToken → Option String
  | .string value => some value
  | _ => none

/-- The string literals of compiled form, in order. -/
def Ir.strings (ir : Ir) : List String := ir.tokens.filterMap CallToken.string?

theorem Ir.mem_strings {ir : Ir} {value : String} :
    value ∈ ir.strings ↔ .string value ∈ ir.tokens := by
  rw [strings, List.mem_filterMap]
  constructor
  · rintro ⟨token, found, same⟩
    cases token <;> cases same
    exact found
  · exact fun found => ⟨_, found, rfl⟩

/-! ## Texts with other tags -/

/-- A symbol written with another kind of tag. -/
def Symbol.taggedBy (tag : Position → String → String) (symbol : Symbol) : Symbol :=
  match symbol.tag with
  | some pos => ⟨tag pos symbol.name, none⟩
  | none => symbol

/-- The text of compiled form with another kind of tag on its symbols. -/
def Ir.renderBy (tag : Position → String → String) (ir : Ir) : String :=
  (ir.mapLeaves (Symbol.taggedBy tag) id).render

theorem Symbol.render_taggedBy (symbol : Symbol) :
    (symbol.taggedBy Position.tag).render = symbol.render := by
  obtain ⟨name, tag⟩ := symbol
  cases tag <;> rfl

mutual

/-- The text of compiled form is the one with the usual tags. -/
theorem Ir.renderBy_tag : ∀ ir : Ir, ir.renderBy Position.tag = ir.render
  | .symbol head => head.render_taggedBy
  | .number _ | .string _ => rfl
  | .call head args => by
    rw [renderBy, mapLeaves, render, render, head.render_taggedBy, Ir.renderAllBy_tag args]
  | .between left op right grouped =>
    congrArg₂ (Fragment.between · op.text · grouped) left.renderBy_tag right.renderBy_tag
  | .before op operand grouped => congrArg (Fragment.before op.text · grouped) operand.renderBy_tag
  | .group inner => congrArg Fragment.group inner.renderBy_tag
  | .sequence items => congrArg Fragment.join (Ir.renderAllBy_tag items)

theorem Ir.renderAllBy_tag : ∀ items : List Ir,
    renderAll (mapLeavesAll (Symbol.taggedBy Position.tag) id items) = renderAll items
  | [] => rfl
  | item :: rest => congrArg₂ List.cons item.renderBy_tag (Ir.renderAllBy_tag rest)

end

/-- A tag that is none: the bare name. -/
def bareName (_ : Position) (name : String) : String := name

theorem Symbol.taggedBy_bareName {symbol : Symbol} (h : Unmarked symbol.name) :
    symbol.taggedBy bareName = symbol.stripped := by
  obtain ⟨name, tag⟩ := symbol
  rw [stripped, Unmarked.stripTags h]
  cases tag <;> rfl

/-! ## Names in compiled form -/

/-- What all names that a function is written with, the primitives of the reference table and the
fixed names have in common, the names in its compiled form have too. -/
theorem FunctionDef.good_names {good : String → Prop} {env : Environment}
    {definition : FunctionDef} {form : Ir} (compiled : definition.compile env = .ok form)
    (hfixed : ∀ name ∈ Primitive.fixed, good name)
    (hprimitives : ∀ member primitive, env.references.resolve? member = some primitive →
      good primitive)
    (hnames : ∀ origin ∈ definition.origins, ∀ name ∈ origin.names, good name)
    {head : Symbol} (found : .symbol head ∈ form.tokens) : good head.name :=
  Symbol.Sourced.good_name (definition.built_compile Ir.Sourced.builds compiled _ found) hfixed
    hprimitives hnames

/-! ## The law -/

theorem Ir.infix_render {ir : Ir} {token : CallToken} (found : token ∈ ir.tokens) :
    ∃ before after, ir.render.toList = before ++ (token.text.toList ++ after) := by
  have row := ir.row_render
  generalize ir.render.toList = text at row
  generalize ir.tokens = tokens at row found
  induction row with
  | nil => cases found
  | blank _ ih =>
    obtain ⟨before, after, same⟩ := ih found
    exact ⟨' ' :: before, after, congrArg (' ' :: ·) same⟩
  | @token text tokens first _ ih =>
    rcases List.mem_cons.mp found with rfl | later
    · exact ⟨[], text, rfl⟩
    · obtain ⟨before, after, rfl⟩ := ih later
      exact ⟨first.text.toList ++ before, after, by simp⟩

/-- Where no name holds a mark, taking the tags out of the text of a function leaves the text that
its compiled form has without tags, with the tags taken out of its string literals too. So it
leaves the text without tags exactly if no string literal holds a mark in front of a digit. -/
theorem tags_are_taken_out_of_symbols_and_of_strings (env : Environment) (definition : FunctionDef)
    (henv : env.IsUnmarked) (hnames : definition.IsUnmarked) (form : Ir)
    (compiled : definition.compile env = .ok form) :
    form.render = form.renderBy Position.tag ∧
      stripTags form.render = (form.mapLeaves (Symbol.taggedBy bareName) stripTags).render ∧
      (stripTags form.render = form.renderBy bareName ↔
        ∀ value ∈ form.strings, ¬ HoldsTag value.toList) := by
  have left : stripTags form.render =
      (form.mapLeaves (Symbol.taggedBy bareName) stripTags).render := by
    rw [form.stripTags_render_eq, Ir.stripped]
    congr 1
    apply form.mapLeaves_congr
    intro token found
    cases token with
    | symbol head =>
      have unmarked := definition.good_names compiled (by decide) henv hnames found
      rw [CallToken.mapLeaves, CallToken.mapLeaves, Symbol.taggedBy_bareName unmarked]
    | _ => rfl
  refine ⟨form.renderBy_tag.symm, left, ?_, ?_⟩
  · intro same value listed tagged
    have bare : CallToken.string value ∈ (form.mapLeaves (Symbol.taggedBy bareName) id).tokens := by
      rw [Ir.tokens_mapLeaves]
      exact List.mem_map_of_mem (f := CallToken.mapLeaves _ id) (Ir.mem_strings.mp listed)
    obtain ⟨before, after, text⟩ := Ir.infix_render bare
    have holds : HoldsTag (form.renderBy bareName).toList := by
      rw [Ir.renderBy, text]
      exact tagged.quoted.append before after
    rw [← same, stripTags, String.toList_ofList] at holds
    exact not_holdsTag_dropTags false _ holds
  · intro plain
    rw [left, Ir.renderBy]
    congr 1
    apply form.mapLeaves_congr
    intro token found
    cases token with
    | string value =>
      have kept := stripTags_eq_self_iff.mpr (plain value (Ir.mem_strings.mpr found))
      rw [CallToken.mapLeaves, CallToken.mapLeaves, kept]
      rfl
    | _ => rfl

/-- `def f(x): return print(x, price)`, where `price` is a string literal. -/
def FunctionDef.pricing (price : String) : FunctionDef :=
  .mk "f" [⟨"x", ⟨1, 6⟩⟩]
    [.ret ⟨2, 4⟩ (some (.call ⟨2, 11⟩ (.name ⟨2, 11⟩ "print")
      [.name ⟨2, 17⟩ "x", .string ⟨2, 20⟩ price]))] ⟨1, 0⟩

theorem a_mark_behind_a_price_is_kept :
    ∃ form, (FunctionDef.pricing "5 $").compile {} = .ok form ∧
      form.render = "define$1$0(f$1$0, x$1$6, cout$2$11(x$2$17, \"5 $\"))" ∧
      stripTags form.render = "define(f, x, cout(x, \"5 $\"))" := by
  have names : (FunctionDef.pricing "5 $").IsUnmarked := by decide +kernel
  obtain ⟨form, compiled⟩ : ∃ form, (FunctionDef.pricing "5 $").compile {} = .ok form := ⟨_, rfl⟩
  have law := tags_are_taken_out_of_symbols_and_of_strings {} (.pricing "5 $")
    Environment.isUnmarked_default names form compiled
  cases compiled
  refine ⟨_, rfl, by decide +kernel, ?_⟩
  rw [law.2.2.mpr (by decide +kernel)]
  decide +kernel

/-- A mark in front of a price is taken for the start of a tag, and the price with it. -/
theorem a_mark_in_front_of_a_price_is_taken_out :
    ∃ form, (FunctionDef.pricing "$5").compile {} = .ok form ∧
      ({} : Environment).IsUnmarked ∧ (FunctionDef.pricing "$5").IsUnmarked ∧
      form.renderBy bareName = "define(f, x, cout(x, \"$5\"))" ∧
      stripTags form.render = "define(f, x, cout(x, \"\"))" ∧
      stripTags form.render ≠ form.renderBy bareName :=
  ⟨_, rfl, Environment.isUnmarked_default, by decide +kernel, by decide +kernel, by decide +kernel,
    by decide +kernel⟩

end CallForm

-- The text of a compiled form is read as the tokens of that form, with
-- nothing left over. What it takes is that its names are identifiers. A
-- number is one token if it is plain; else its sign is a token of its own.
import CallForm.Proofs.CallTokens

namespace CallForm

namespace CallToken

/-- Rows of tokens with a comma between them. -/
def commas : List (List CallToken) → List CallToken
  | [] => []
  | [item] => item
  | item :: rest => item ++ .comma :: commas rest

theorem commas_cons (item : List CallToken) (rest : List (List CallToken)) :
    ∃ more, commas (item :: rest) = item ++ more := by
  cases rest with
  | nil => exact ⟨[], by simp [commas]⟩
  | cons next rest => exact ⟨_, rfl⟩

end CallToken

open CallToken

/-! ## The tokens of compiled form -/

mutual

/-- The tokens of compiled form. -/
def Ir.tokens : Ir → List CallToken
  | .symbol head => [.symbol head]
  | .number value => [.number (Fragment.number value)]
  | .string value => [.string value]
  | .call head args => .symbol head :: .opening :: (commas (Ir.tokensOf args) ++ [.closing])
  | .between left op right grouped =>
    let inner := left.tokens ++ .operator op :: right.tokens
    if grouped then .opening :: (inner ++ [.closing]) else inner
  | .before op operand grouped =>
    ofPrefix op ::
      (if grouped then .opening :: (operand.tokens ++ [.closing]) else operand.tokens)
  | .group inner => .opening :: (inner.tokens ++ [.closing])
  | .sequence items => commas (Ir.tokensOf items)

/-- The tokens of several compiled forms, one row for each. -/
def Ir.tokensOf : List Ir → List (List CallToken)
  | [] => []
  | item :: rest => item.tokens :: Ir.tokensOf rest

end

theorem Ir.tokensOf_eq_map (items : List Ir) : Ir.tokensOf items = items.map Ir.tokens := by
  induction items with
  | nil => rfl
  | cons item rest ih => simp [tokensOf, ih]

mutual

/-- All names and all numbers of a compiled form have the given properties. -/
def Ir.Leaves (name : String → Prop) (number : Number → Prop) : Ir → Prop
  | .symbol head => name head.name
  | .number value => number value
  | .string _ => True
  | .call head args => name head.name ∧ Ir.AllLeaves name number args
  | .between left _ right _ => left.Leaves name number ∧ right.Leaves name number
  | .before _ operand _ => operand.Leaves name number
  | .group inner => inner.Leaves name number
  | .sequence items => Ir.AllLeaves name number items

/-- All names and all numbers of several compiled forms have the given properties. -/
def Ir.AllLeaves (name : String → Prop) (number : Number → Prop) : List Ir → Prop
  | [] => True
  | item :: rest => item.Leaves name number ∧ Ir.AllLeaves name number rest

end

theorem Ir.allLeaves_iff {name : String → Prop} {number : Number → Prop} {items : List Ir} :
    Ir.AllLeaves name number items ↔ ∀ item ∈ items, item.Leaves name number := by
  induction items with
  | nil => simp [AllLeaves]
  | cons item rest ih => simp [AllLeaves, ih]

mutual

/-- Leaves that have some properties have those that follow from them. -/
theorem Ir.Leaves.imp {name name' : String → Prop} {number number' : Number → Prop}
    (hname : ∀ text, name text → name' text) (hnumber : ∀ value, number value → number' value) :
    ∀ ir : Ir, ir.Leaves name number → ir.Leaves name' number'
  | .symbol _, h => hname _ h
  | .number _, h => hnumber _ h
  | .string _, _ => trivial
  | .call _ args, h => ⟨hname _ h.1, Ir.AllLeaves.imp hname hnumber args h.2⟩
  | .between left _ right _, h =>
    ⟨Ir.Leaves.imp hname hnumber left h.1, Ir.Leaves.imp hname hnumber right h.2⟩
  | .before _ operand _, h | .group operand, h => Ir.Leaves.imp hname hnumber operand h
  | .sequence items, h => Ir.AllLeaves.imp hname hnumber items h

theorem Ir.AllLeaves.imp {name name' : String → Prop} {number number' : Number → Prop}
    (hname : ∀ text, name text → name' text) (hnumber : ∀ value, number value → number' value) :
    ∀ items : List Ir, Ir.AllLeaves name number items → Ir.AllLeaves name' number' items
  | [], _ => trivial
  | item :: rest, h =>
    ⟨Ir.Leaves.imp hname hnumber item h.1, Ir.AllLeaves.imp hname hnumber rest h.2⟩

end

/-- A compiled form whose names are identifiers. -/
def Ir.IsNamed (ir : Ir) : Prop :=
  ir.Leaves (isIdentifier · = true) fun _ => True

/-- A compiled form whose names are identifiers and whose numbers are plain. -/
def Ir.IsReadable (ir : Ir) : Prop :=
  ir.Leaves (isIdentifier · = true) (Number.isPlain · = true)

theorem Ir.IsReadable.isNamed {ir : Ir} (h : ir.IsReadable) : ir.IsNamed :=
  Ir.Leaves.imp (fun _ named => named) (fun _ _ => trivial) ir h

/-! ## The tokens of its text -/

namespace CallToken

/-- The token of a number without its sign. What stands for a number that is not finite is a
symbol. -/
def ofUnsigned (text : List Char) : CallToken :=
  if text = "NaN".toList ∨ text = "inf".toList then .symbol ⟨String.ofList text, none⟩
  else .number (String.ofList text)

/-- The tokens of a number. Its sign is one of its own. -/
def ofLexeme : List Char → List CallToken
  | '-' :: text => [.operator .sub, ofUnsigned text]
  | text => [ofUnsigned text]

/-- The tokens that the text of a token is read as. -/
def spelled : CallToken → List CallToken
  | .number lexeme => ofLexeme lexeme.toList
  | token => [token]

theorem ofUnsigned_number {text : List Char} (h : IsNumberText text) :
    ofUnsigned text = .number (String.ofList text) := by
  obtain ⟨whole, fraction, exponent, hwhole, _, _, rfl⟩ := h
  rcases whole with _ | ⟨c, others⟩
  · exact absurd rfl hwhole.1
  · have digit := hwhole.2 c List.mem_cons_self
    refine if_neg ?_
    rintro (same | same)
    all_goals
      have first := congrArg List.head? same
      simp at first
      rw [first] at digit
      cases digit

theorem ofLexeme_number {text : List Char} (h : IsNumberText text) :
    ofLexeme text = [.number (String.ofList text)] := by
  rw [← ofUnsigned_number h]
  obtain ⟨whole, fraction, exponent, hwhole, _, _, rfl⟩ := h
  rcases whole with _ | ⟨c, others⟩
  · exact absurd rfl hwhole.1
  · have digit := hwhole.2 c List.mem_cons_self
    refine ofLexeme.eq_2 _ ?_
    rintro _ ⟨⟩
    cases digit

/-- The tokens of a number with or without a sign. -/
theorem ofLexeme_signed (signed : Bool) {text : List Char}
    (h : IsNumberText text ∨ text = "NaN".toList ∨ text = "inf".toList) :
    ofLexeme ((if signed then ['-'] else []) ++ text) =
      (if signed then [.operator .sub] else []) ++ [ofUnsigned text] := by
  cases signed with
  | true => rfl
  | false =>
    rcases h with number | rfl | rfl
    · exact (ofLexeme_number number).trans (by rw [ofUnsigned_number number]; rfl)
    · rfl
    · rfl

theorem spelled_plain {value : Number} (h : value.isPlain = true) :
    spelled (.number (Fragment.number value)) = [.number (Fragment.number value)] := by
  rw [spelled, ofLexeme_number (Number.isNumberText h), String.ofList_toList]

theorem spelled_prefix (op : PrefixOperator) : spelled (ofPrefix op) = [ofPrefix op] := by
  cases op <;> rfl

theorem flatMap_commas (rows : List (List CallToken)) :
    (commas rows).flatMap spelled = commas (rows.map (·.flatMap spelled)) := by
  induction rows with
  | nil => rfl
  | cons row rest ih =>
    rcases rest with _ | ⟨next, rest⟩
    · rfl
    · simp only [commas, List.map_cons, List.flatMap_append, List.flatMap_cons] at ih ⊢
      rw [ih]
      rfl

end CallToken

namespace Ir

/-- The tokens that the text of a compiled form is read as. -/
def words (ir : Ir) : List CallToken := ir.tokens.flatMap spelled

/-- The words of several compiled forms with commas between them. -/
def row (items : List Ir) : List CallToken := commas (items.map words)

theorem flatMap_tokensOf (items : List Ir) :
    (commas (tokensOf items)).flatMap spelled = row items := by
  rw [flatMap_commas, tokensOf_eq_map, List.map_map]
  rfl

theorem words_number (value : Number) :
    (number value).words = ofLexeme (Fragment.number value).toList := by
  simp [words, tokens, spelled]

theorem words_call (head : Symbol) (args : List Ir) :
    (call head args).words = .symbol head :: .opening :: (row args ++ [.closing]) := by
  simp [words, tokens, spelled, flatMap_tokensOf]

theorem words_between (left right : Ir) (op : InfixOperator) (grouped : Bool) :
    (between left op right grouped).words =
      if grouped then .opening :: (left.words ++ .operator op :: right.words ++ [.closing])
      else left.words ++ .operator op :: right.words := by
  cases grouped <;> simp [words, tokens, spelled]

theorem words_before (op : PrefixOperator) (operand : Ir) (grouped : Bool) :
    (before op operand grouped).words =
      ofPrefix op ::
        (if grouped then .opening :: (operand.words ++ [.closing]) else operand.words) := by
  cases grouped <;> simp [words, tokens, spelled_prefix, spelled.eq_2]

theorem words_group (inner : Ir) :
    (group inner).words = .opening :: (inner.words ++ [.closing]) := by
  simp [words, tokens, spelled]

theorem words_sequence (items : List Ir) : (sequence items).words = row items :=
  flatMap_tokensOf items

end Ir

/-! ## Its text -/

namespace CallToken

/-- What can follow a compiled form in a text. -/
def Boundary (rest : List Char) : Prop :=
  ∀ c, rest.head? = some c → c = ' ' ∨ c = ')' ∨ c = ','

theorem Boundary.partsSymbol {rest : List Char} (h : Boundary rest) : PartsSymbol rest := by
  intro c first
  rcases h c first with rfl | rfl | rfl <;> exact ⟨rfl, by decide⟩

theorem Boundary.partsNumber {rest : List Char} (h : Boundary rest) : PartsNumber rest := by
  constructor
  · intro c first
    rcases h c first with rfl | rfl | rfl <;> exact ⟨rfl, by decide⟩
  · intro first
    rcases h 'e' first with same | same | same <;> cases same

theorem boundary_cons {c : Char} (h : c = ' ' ∨ c = ')' ∨ c = ',') (rest : List Char) :
    Boundary (c :: rest) := by
  rintro _ ⟨⟩
  exact h

/-- A text spells tokens: it is read as them where it ends at a boundary. It does not start with
the second half of an operator. -/
structure Spells (text : List Char) (words : List CallToken) : Prop where
  reads : ∀ rest, Boundary rest → readAll (text ++ rest) = (readAll rest).map (words ++ ·)
  starts : text.head? ≠ some '='

theorem Spells.empty : Spells [] [] := by
  constructor
  · intro rest _
    simp
  · simp

theorem Spells.symbol {head : Symbol} (h : isIdentifier head.name = true) :
    Spells head.render.toList [.symbol head] := by
  constructor
  · intro rest boundary
    exact readAll_symbol h boundary.partsSymbol
  · unfold isIdentifier at h
    rcases found : head.name.toList with _ | ⟨c, rest⟩
    · simp [found] at h
    · simp only [found, Bool.and_eq_true] at h
      have apart : c ≠ '=' := by
        rintro rfl
        exact absurd h.1 (by decide)
      cases tag : head.tag <;> simp [Symbol.render, Position.tag, tag, found, apart]

theorem Spells.digits {text : List Char} (h : IsNumberText text) :
    Spells text [.number (String.ofList text)] := by
  constructor
  · intro rest boundary
    exact readAll_number h boundary.partsNumber
  · obtain ⟨whole, fraction, exponent, hwhole, _, _, same⟩ := h
    rw [same]
    rcases whole with _ | ⟨c, others⟩
    · exact absurd rfl hwhole.1
    · have digit := hwhole.2 c List.mem_cons_self
      intro first
      cases first
      cases digit

theorem Spells.string (value : String) : Spells (Fragment.quoted value).toList [.string value] := by
  constructor
  · intro rest _
    exact readAll_string value rest
  · simp [Fragment.quoted]

theorem Spells.group {text : List Char} {words : List CallToken} (h : Spells text words) :
    Spells ('(' :: (text ++ [')'])) (.opening :: (words ++ [.closing])) := by
  constructor
  · intro rest _
    have inner := h.reads (')' :: rest) (boundary_cons (by simp) rest)
    rw [readAll_closing] at inner
    simp only [List.cons_append, List.append_assoc, List.nil_append]
    rw [readAll_opening, inner]
    cases readAll rest <;> simp
  · simp

theorem Spells.between {left right : List Char} {before after : List CallToken}
    (hl : Spells left before) (hr : Spells right after) (op : InfixOperator) :
    Spells (left ++ ' ' :: (op.text.toList ++ ' ' :: right))
      (before ++ .operator op :: after) := by
  constructor
  · intro rest boundary
    have later := readAll_operator op (right ++ rest)
    rw [hr.reads rest boundary] at later
    simp only [List.append_assoc, List.cons_append]
    rw [hl.reads _ (boundary_cons (by simp) _), later]
    cases readAll rest <;> simp
  · have := hl.starts
    cases left <;> simp_all

theorem Spells.before {text : List Char} {words : List CallToken} (h : Spells text words)
    (op : PrefixOperator) : Spells (op.text.toList ++ text) (ofPrefix op :: words) := by
  constructor
  · intro rest boundary
    have starts : (text ++ rest).head? ≠ some '=' := by
      rcases text with _ | ⟨c, text⟩
      · intro first
        rcases boundary '=' first with same | same | same <;> cases same
      · exact h.starts
    rw [List.append_assoc, readAll_prefix op starts, h.reads rest boundary]
    cases readAll rest <;> simp
  · cases op <;> simp [PrefixOperator.text]

theorem Spells.comma {first others : List Char} {before after : List CallToken}
    (hf : Spells first before) (ho : Spells others after) :
    Spells (first ++ ',' :: ' ' :: others) (before ++ .comma :: after) := by
  constructor
  · intro rest boundary
    simp only [List.append_assoc, List.cons_append]
    rw [hf.reads _ (boundary_cons (by simp) _), readAll_comma, ho.reads rest boundary]
    cases readAll rest <;> simp
  · have := hf.starts
    cases first <;> simp_all

theorem Spells.call {head : Symbol} {text : List Char} {words : List CallToken}
    (h : isIdentifier head.name = true) (hargs : Spells text words) :
    Spells (head.render.toList ++ '(' :: (text ++ [')']))
      (.symbol head :: .opening :: (words ++ [.closing])) := by
  constructor
  · intro rest boundary
    have parts : PartsSymbol ('(' :: (text ++ [')'] ++ rest)) := by
      rintro _ ⟨⟩
      exact ⟨rfl, by decide⟩
    have inner := hargs.group.reads rest boundary
    simp only [List.append_assoc, List.cons_append] at inner parts ⊢
    rw [readAll_symbol h parts, inner]
    cases readAll rest <;> simp
  · have := (Spells.symbol h).starts
    cases found : head.render.toList <;> simp_all

/-- A number is read as a token, or as two if it has a sign. -/
theorem Spells.number (value : Number) :
    Spells (Fragment.number value).toList (ofLexeme (Fragment.number value).toList) := by
  obtain ⟨text, same, htext⟩ := Fragment.number_shape value
  have unsigned : Spells text [ofUnsigned text] := by
    rcases htext with number | rfl | rfl
    · rw [ofUnsigned_number number]
      exact .digits number
    · exact .symbol (by decide : isIdentifier (Symbol.name ⟨"NaN", none⟩) = true)
    · exact .symbol (by decide : isIdentifier (Symbol.name ⟨"inf", none⟩) = true)
  rw [same, ofLexeme_signed _ htext]
  cases value.isSigned with
  | false => exact unsigned
  | true => exact unsigned.before .neg

end CallToken

mutual

/-- The text of a compiled form is read as its words. -/
theorem Ir.spells : ∀ ir : Ir, ir.IsNamed → Spells ir.render.toList ir.words
  | .symbol head, h => .symbol h
  | .number value, h => by
    rw [words_number]
    exact .number value
  | .string value, _ => .string value
  | .call head args, h => by
    have inner := Ir.spellsAll args h.2
    simpa [Ir.render, words_call, Fragment.call] using inner.call h.1
  | .between left op right grouped, h => by
    have inner := (left.spells h.1).between (right.spells h.2) op
    cases grouped with
    | false => simpa [Ir.render, words_between, Fragment.between] using inner
    | true =>
      simpa [Ir.render, words_between, Fragment.between, Fragment.group] using inner.group
  | .before op operand grouped, h => by
    have inner := operand.spells h
    cases grouped with
    | false => simpa [Ir.render, words_before, Fragment.before] using inner.before op
    | true =>
      simpa [Ir.render, words_before, Fragment.before, Fragment.group] using inner.group.before op
  | .group inner, h => by
    simpa [Ir.render, words_group, Fragment.group] using (inner.spells h).group
  | .sequence items, h => by
    simpa [Ir.render, words_sequence] using Ir.spellsAll items h

theorem Ir.spellsAll : ∀ items : List Ir,
    Ir.AllLeaves (isIdentifier · = true) (fun _ => True) items →
      Spells (Fragment.join (Ir.renderAll items)).toList (Ir.row items)
  | [], _ => .empty
  | [item], h => item.spells h.1
  | item :: next :: rest, h => by
    have later := Ir.spellsAll (next :: rest) h.2
    simpa [Ir.renderAll, Ir.row, Fragment.join, commas] using (item.spells h.1).comma later

end

/-- The text of a compiled form whose names are identifiers is read as its words. -/
theorem Ir.readAll_words (ir : Ir) (h : ir.IsNamed) : readAll ir.render.toList = some ir.words := by
  have found := (ir.spells h).reads [] (by intro c first; cases first)
  rw [List.append_nil] at found
  rw [found]
  simp [readAll]

mutual

/-- Where numbers are plain, every token is read as itself. -/
theorem Ir.words_eq_tokens : ∀ ir : Ir, ir.IsReadable → ir.words = ir.tokens
  | .symbol _, _ | .string _, _ => rfl
  | .number value, h => by
    rw [words_number, ← spelled.eq_1, spelled_plain h, tokens]
  | .call head args, h => by
    rw [words_call, tokens, Ir.row_eq_tokens args h.2]
  | .between left op right grouped, h => by
    rw [words_between, tokens, left.words_eq_tokens h.1, right.words_eq_tokens h.2]
  | .before op operand grouped, h => by
    rw [words_before, tokens, operand.words_eq_tokens h]
  | .group inner, h => by
    rw [words_group, tokens, inner.words_eq_tokens h]
  | .sequence items, h => by
    rw [words_sequence, tokens, Ir.row_eq_tokens items h]

theorem Ir.row_eq_tokens : ∀ items : List Ir,
    Ir.AllLeaves (isIdentifier · = true) (Number.isPlain · = true) items →
      Ir.row items = commas (Ir.tokensOf items)
  | [], _ => rfl
  | [item], h => item.words_eq_tokens h.1
  | item :: next :: rest, h => by
    have later := Ir.row_eq_tokens (next :: rest) h.2
    change item.words ++ .comma :: Ir.row (next :: rest) =
      item.tokens ++ .comma :: commas (Ir.tokensOf (next :: rest))
    rw [item.words_eq_tokens h.1, later]

end

/-- The text of a compiled form is read as its tokens and nothing else. -/
theorem Ir.readAll_render (ir : Ir) (h : ir.IsReadable) :
    readAll ir.render.toList = some ir.tokens := by
  rw [ir.readAll_words h.isNamed, ir.words_eq_tokens h]

end CallForm

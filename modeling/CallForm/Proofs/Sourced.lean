-- Compiled form whose tags have an origin, and results of lowering that
-- are such or fail at the place of a part. What lowering builds compiled form
-- from is told once, so that whatever all these ways keep holds of all of it.
import CallForm.Proofs.Origins
import CallForm.Proofs.TokenText
import CallForm.Lowering.Stmt

namespace CallForm

/-! ## Symbols and reports that have an origin -/

/-- A failure is reported at a place: in its line and column if it gives both, else on its line. -/
def LowerError.ReportedAt (pos : Position) : LowerError → Prop
  | .unsupportedNode _ place => place = pos
  | cause => cause.line? = some pos.line

section

variable (env : Environment) (origins : List Origin)

/-- A symbol belongs to the part that its tag points at; only a few primitives are written bare. -/
def Symbol.Sourced (symbol : Symbol) : Prop :=
  match symbol.tag with
  | some pos => ∃ origin ∈ origins, origin.pos = pos ∧ symbol.name ∈ origin.heads env
  | none => symbol.name ∈ [Primitive.set, Primitive.block, Primitive.makeList, Primitive.nil]

/-- A symbol has an origin, and a number holds no mark. -/
def CallToken.Sourced : CallToken → Prop
  | .symbol head => head.Sourced env origins
  | .number lexeme => tagMark ∉ lexeme.toList
  | _ => True

/-- Compiled form all of whose symbols have an origin. -/
def Ir.Sourced (form : Ir) : Prop := ∀ token ∈ form.tokens, token.Sourced env origins

/-- A result that is good, or a failure that is reported at the place of a part. -/
def Traced {α : Type} (good : α → Prop) : Except LowerError α → Prop
  | .ok value => good value
  | .error cause => ∃ origin ∈ origins, cause.ReportedAt origin.pos

variable {env origins}

theorem Traced.bind {α β : Type} {good : α → Prop} {after : β → Prop}
    {first : Except LowerError α} {next : α → Except LowerError β} (h : Traced origins good first)
    (hnext : ∀ value, good value → Traced origins after (next value)) :
    Traced origins after (first >>= next) := by
  cases first with
  | error cause => exact h
  | ok value => exact hnext value h

theorem Traced.done {α β : Type} {good : α → Prop} {after : β → Prop}
    {first : Except LowerError α} {made : α → β} (h : Traced origins good first)
    (hmade : ∀ value, good value → after (made value)) :
    Traced origins after (first >>= fun value => .ok (made value)) :=
  h.bind hmade

/-- What holds of all names that a symbol can have holds of the name of one with an origin. -/
theorem Symbol.Sourced.good_name {good : String → Prop} {symbol : Symbol}
    (h : symbol.Sourced env origins) (hfixed : ∀ name ∈ Primitive.fixed, good name)
    (hprimitives : ∀ member primitive, env.references.resolve? member = some primitive →
      good primitive)
    (hnames : ∀ origin ∈ origins, ∀ name ∈ origin.names, good name) : good symbol.name := by
  obtain ⟨name, tag⟩ := symbol
  cases tag with
  | some pos =>
    obtain ⟨origin, listed, _, belongs⟩ := h
    exact origin.good_heads hfixed hprimitives (hnames origin listed) name belongs
  | none =>
    have bare : ∀ name ∈ [Primitive.set, Primitive.block, Primitive.makeList, Primitive.nil],
        name ∈ Primitive.fixed := by
      decide
    exact hfixed name (bare name h)

/-! ### What lowering builds -/

/-- A property that all of several compiled forms have. -/
def AllOf (good : Ir → Prop) (forms : List Ir) : Prop := ∀ form ∈ forms, good form

namespace AllOf

variable {good : Ir → Prop}

theorem nil : AllOf good [] := by
  intro form found
  cases found

theorem cons {form : Ir} {forms : List Ir} (h : good form) (hrest : AllOf good forms) :
    AllOf good (form :: forms) := by
  intro other found
  rcases List.mem_cons.mp found with rfl | found
  · exact h
  · exact hrest other found

theorem append {forms more : List Ir} (h : AllOf good forms) (hmore : AllOf good more) :
    AllOf good (forms ++ more) := by
  intro form found
  rcases List.mem_append.mp found with found | found
  · exact h form found
  · exact hmore form found

end AllOf

/-- A property that compiled form has if its parts have it, in every way that lowering builds it:
with symbols and string literals that have an origin, and where everything is to be grouped with
parentheses around every operation. -/
structure Builds (env : Environment) (origins : List Origin) (good : Ir → Prop) : Prop where
  number (value : Number) : good (.number value)
  string {pos : Position} {value : String} : .expr (.string pos value) ∈ origins →
    good (.string value)
  symbol {head : Symbol} : head.Sourced env origins → good (.symbol head)
  call {head : Symbol} {args : List Ir} : head.Sourced env origins → AllOf good args →
    good (.call head args)
  between {left right : Ir} (operator : InfixOperator) {grouped : Bool} :
    (env.groupAggressively = true → grouped = true) → good left → good right →
      good (.between left operator right grouped)
  before {operand : Ir} (operator : PrefixOperator) {grouped : Bool} :
    (env.groupAggressively = true → grouped = true) → good operand →
      good (.before operator operand grouped)
  group {inner : Ir} : good inner → good (.group inner)
  sequence {items : List Ir} : AllOf good items → good (.sequence items)

namespace Builds

variable {good : Ir → Prop} (builds : Builds env origins good)

include builds

theorem nil : good (Ir.bare Primitive.nil) := by
  apply builds.symbol
  change Primitive.nil ∈ _
  decide

theorem tagged {origin : Origin} (h : origin ∈ origins) {name : String}
    (belongs : name ∈ origin.heads env) : good (Ir.tagged origin.pos name) :=
  builds.symbol ⟨origin, h, rfl, belongs⟩

theorem taggedCall {origin : Origin} (h : origin ∈ origins) {name : String}
    (belongs : name ∈ origin.heads env) {args : List Ir} (hargs : AllOf good args) :
    good (Ir.taggedCall origin.pos name args) :=
  builds.call ⟨origin, h, rfl, belongs⟩ hargs

theorem bareCall {name : String}
    (plain : name ∈ [Primitive.set, Primitive.block, Primitive.makeList, Primitive.nil])
    {args : List Ir} (hargs : AllOf good args) : good (Ir.bareCall name args) :=
  builds.call plain hargs

theorem block {forms : List Ir} (h : AllOf good forms) {origin : Origin}
    (hblock : origin ∈ origins) (belongs : Primitive.block ∈ origin.heads env) :
    good (blockOf origin.pos forms) := by
  match forms with
  | [form] => exact h form List.mem_cons_self
  | [] | _ :: _ :: _ => exact builds.taggedCall hblock belongs h

theorem params {params : List Param} (h : params.map Origin.param ⊆ origins) :
    AllOf good (params.map fun param => Ir.tagged param.pos param.name) := by
  intro form found
  obtain ⟨param, listed, rfl⟩ := List.mem_map.mp found
  have origin : Origin.param param ∈ origins := h (List.mem_map_of_mem listed)
  exact builds.tagged origin List.mem_cons_self

end Builds

/-! ### Symbols with an origin -/

theorem CallToken.exists_of_mem_commas {token : CallToken} {rows : List (List CallToken)}
    (h : token ∈ commas rows) : token = .comma ∨ ∃ row ∈ rows, token ∈ row := by
  induction rows with
  | nil => cases h
  | cons row rest ih =>
    cases rest with
    | nil => exact .inr ⟨row, List.mem_cons_self, h⟩
    | cons next others =>
      rw [commas, List.mem_append, List.mem_cons] at h
      · rcases h with h | rfl | h
        · exact .inr ⟨row, List.mem_cons_self, h⟩
        · exact .inl rfl
        · rcases ih h with h | ⟨found, listed, h⟩
          · exact .inl h
          · exact .inr ⟨found, List.mem_cons_of_mem _ listed, h⟩
      · simp

/-- A property that every token has that lowering writes: symbols and string literals that have an
origin, and all other tokens. -/
structure CallToken.Builds (env : Environment) (origins : List Origin) (good : CallToken → Prop) :
    Prop where
  symbol {head : Symbol} : head.Sourced env origins → good (.symbol head)
  number (value : Number) : good (.number (Fragment.number value))
  string {pos : Position} {value : String} : .expr (.string pos value) ∈ origins →
    good (.string value)
  operator (op : InfixOperator) : good (.operator op)
  not : good .not
  opening : good .opening
  closing : good .closing
  comma : good .comma

/-- Compiled form all of whose tokens have a property. -/
def Ir.AllTokens (good : CallToken → Prop) (form : Ir) : Prop := ∀ token ∈ form.tokens, good token

namespace Ir.AllTokens

variable {good : CallToken → Prop} (kept : CallToken.Builds env origins good)

theorem single {token : CallToken} (h : good token) : ∀ other ∈ [token], good other := by
  intro other found
  rw [List.mem_singleton.mp found]
  exact h

include kept

theorem row {forms : List Ir} (h : AllOf (Ir.AllTokens good) forms) :
    ∀ token ∈ CallToken.commas (Ir.tokensOf forms), good token := by
  intro token found
  rcases CallToken.exists_of_mem_commas found with rfl | ⟨words, listed, inside⟩
  · exact kept.comma
  · rw [Ir.tokensOf_eq_map, List.mem_map] at listed
    obtain ⟨form, member, rfl⟩ := listed
    exact h form member token inside

theorem parenthesized {tokens : List CallToken} (h : ∀ token ∈ tokens, good token) :
    ∀ token ∈ CallToken.opening :: (tokens ++ [.closing]), good token := by
  intro token found
  rw [List.mem_cons, List.mem_append, List.mem_singleton] at found
  rcases found with rfl | found | rfl
  · exact kept.opening
  · exact h token found
  · exact kept.closing

theorem call {head : Symbol} {args : List Ir} (h : head.Sourced env origins)
    (hargs : AllOf (Ir.AllTokens good) args) : Ir.AllTokens good (.call head args) := by
  intro token found
  rw [Ir.tokens, List.mem_cons] at found
  rcases found with rfl | found
  · exact kept.symbol h
  · exact parenthesized kept (row kept hargs) token found

theorem between {left right : Ir} (hleft : left.AllTokens good) (hright : right.AllTokens good)
    (operator : InfixOperator) (grouped : Bool) :
    Ir.AllTokens good (.between left operator right grouped) := by
  have inner : ∀ token ∈ left.tokens ++ .operator operator :: right.tokens, good token := by
    intro token found
    rw [List.mem_append, List.mem_cons] at found
    rcases found with found | rfl | found
    · exact hleft token found
    · exact kept.operator operator
    · exact hright token found
  cases grouped with
  | false => exact inner
  | true => exact parenthesized kept inner

theorem before {operand : Ir} (h : operand.AllTokens good) (operator : PrefixOperator)
    (grouped : Bool) : Ir.AllTokens good (.before operator operand grouped) := by
  intro token found
  rw [Ir.tokens, List.mem_cons] at found
  rcases found with rfl | found
  · cases operator with
    | neg => exact kept.operator .sub
    | not => exact kept.not
  · cases grouped with
    | false => exact h token found
    | true => exact parenthesized kept h token found

/-- What all such tokens have in common, all ways to build compiled form keep. -/
theorem builds : Builds env origins (Ir.AllTokens good) where
  number value := single (kept.number value)
  string h := single (kept.string h)
  symbol h := single (kept.symbol h)
  call := call kept
  between operator _ _ hleft hright := between kept hleft hright operator _
  before operator _ _ h := before kept h operator _
  group := parenthesized kept
  sequence := row kept

end Ir.AllTokens

theorem CallToken.Sourced.builds :
    CallToken.Builds env origins (CallToken.Sourced env origins) where
  symbol h := h
  number := Fragment.number_unmarked
  string _ := trivial
  operator _ := trivial
  not := trivial
  opening := trivial
  closing := trivial
  comma := trivial

theorem Ir.Sourced.builds : Builds env origins (Ir.Sourced env origins) :=
  Ir.AllTokens.builds CallToken.Sourced.builds

end

/-! ## Marks in the text -/

/-- Outside string literals, a mark in the text of a token with an origin belongs to the tag of a
symbol that holds no other. -/
theorem CallToken.Sourced.symbol_of_mark {env : Environment} {origins : List Origin}
    {token : CallToken} (h : token.Sourced env origins)
    (hheads : ∀ origin ∈ origins, ∀ name ∈ origin.heads env, Unmarked name)
    (marked : ¬ Unmarked token.text) :
    (∃ value, token = .string value) ∨
      ∃ name pos, token = .symbol ⟨name, some pos⟩ ∧ Unmarked name ∧
        ∃ origin ∈ origins, origin.pos = pos ∧ name ∈ origin.heads env := by
  cases token with
  | symbol head =>
    obtain ⟨name, tag⟩ := head
    cases tag with
    | some pos =>
      obtain ⟨origin, listed, place, belongs⟩ := h
      exact .inr ⟨name, pos, rfl, hheads origin listed name belongs, origin, listed, place, belongs⟩
    | none =>
      have plain : name ∈ [Primitive.set, Primitive.block, Primitive.makeList, Primitive.nil] := h
      have every : ∀ name ∈ [Primitive.set, Primitive.block, Primitive.makeList, Primitive.nil],
          Unmarked name := by
        decide
      exact absurd (every name plain) marked
  | number lexeme => exact absurd h marked
  | string value => exact .inl ⟨value, rfl⟩
  | operator op => exact absurd (by cases op <;> decide) marked
  | not | opening | closing | comma => exact absurd (by decide) marked

end CallForm

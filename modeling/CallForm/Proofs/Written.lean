-- Compiled form that is written for a slot: every operator in it that needs
-- parentheses there has them. Such a form reads back as the tree it means,
-- whichever other parentheses it has.
import Mathlib.Data.List.Forall2
import CallForm.Lowering.Priority
import CallForm.Proofs.CallTree

namespace CallForm

/-! ## The invariant -/

/-- The arguments that a compiled form stands for in a call. -/
def Ir.items : Ir → List Ir
  | .sequence items => items
  | ir => [ir]

/-- A compiled form is written for a slot of some priority and means a tree. -/
inductive Written : Nat → Ir → CallTree → Prop
  | symbol {slot : Nat} {head : Symbol} : isIdentifier head.name = true →
      Written slot (.symbol head) (.symbol head)
  | number {slot : Nat} {value : Number} : value.isPlain = true →
      Written slot (.number value) (.number (Fragment.number value))
  | string {slot : Nat} {value : String} : Written slot (.string value) (.string value)
  | call {slot : Nat} {head : Symbol} {args : List Ir} {parts : List (Ir × CallTree)} :
      isIdentifier head.name = true → (∀ arg ∈ args, arg.items ≠ []) →
      args.flatMap Ir.items = parts.map Prod.fst →
      (∀ part ∈ parts, Written 0 part.1 part.2) →
      Written slot (.call head args) (.call head (parts.map Prod.snd))
  | between {slot : Nat} {left right : Ir} {a b : CallTree} {op : InfixOperator}
      {grouped : Bool} : op.priority ≠ 0 → (grouped = true ∨ slot ≤ op.priority) →
      Written op.leftSlot left a → Written op.rightSlot right b →
      Written slot (.between left op right grouped) (.between a op b)
  | comparison {slot : Nat} {left right : Ir} {a b : CallTree} {op : InfixOperator} :
      op.priority = 0 → Written 0 left a → Written 0 right b →
      Written slot (.between left op right true) (.between a op b)
  | before {slot : Nat} {operand : Ir} {tree : CallTree} {op : PrefixOperator}
      {grouped : Bool} : slot ≤ PrefixOperator.priority →
      Written (if grouped then 0 else 4) operand tree →
      Written slot (.before op operand grouped) (.before op tree)
  | group {slot : Nat} {inner : Ir} {tree : CallTree} : Written 0 inner tree →
      Written slot (.group inner) tree

/-- Compiled forms that mean trees as arguments of a call, where a sequence stands for its items. -/
structure Arguments (args : List Ir) (trees : List CallTree) : Prop where
  nonempty : ∀ arg ∈ args, arg.items ≠ []
  written : List.Forall₂ (Written 0) (args.flatMap Ir.items) trees

theorem Written.items {slot : Nat} {ir : Ir} {tree : CallTree} (h : Written slot ir tree) :
    ir.items = [ir] := by
  cases h <;> rfl

theorem Arguments.nil : Arguments [] [] :=
  ⟨by simp, .nil⟩

theorem Arguments.append {args others : List Ir} {trees more : List CallTree}
    (h : Arguments args trees) (h' : Arguments others more) :
    Arguments (args ++ others) (trees ++ more) := by
  constructor
  · intro arg found
    rcases List.mem_append.mp found with found | found
    · exact h.nonempty arg found
    · exact h'.nonempty arg found
  · rw [List.flatMap_append]
    exact List.rel_append h.written h'.written

theorem Arguments.single {ir : Ir} {tree : CallTree} (h : Written 0 ir tree) :
    Arguments [ir] [tree] := by
  constructor
  · simp [h.items]
  · simpa [h.items] using h

theorem Arguments.cons {ir : Ir} {tree : CallTree} {args : List Ir} {trees : List CallTree}
    (h : Written 0 ir tree) (h' : Arguments args trees) :
    Arguments (ir :: args) (tree :: trees) :=
  (single h).append h'

theorem Arguments.of_forall₂ {args : List Ir} {trees : List CallTree}
    (h : List.Forall₂ (Written 0) args trees) : Arguments args trees := by
  induction h with
  | nil => exact .nil
  | cons h _ ih => exact .cons h ih

theorem Arguments.sequence {items : List Ir} {trees : List CallTree} (nonempty : items ≠ [])
    (h : List.Forall₂ (Written 0) items trees) : Arguments [.sequence items] trees := by
  constructor
  · simpa [Ir.items] using nonempty
  · simpa [Ir.items] using h

theorem exists_parts {related : Ir → CallTree → Prop} {irs : List Ir} {trees : List CallTree}
    (h : List.Forall₂ related irs trees) : ∃ parts : List (Ir × CallTree),
      irs = parts.map Prod.fst ∧ trees = parts.map Prod.snd ∧
        ∀ part ∈ parts, related part.1 part.2 := by
  induction h with
  | nil => exact ⟨[], rfl, rfl, by simp⟩
  | @cons ir tree irs trees first _ ih =>
    obtain ⟨parts, rfl, rfl, others⟩ := ih
    refine ⟨(ir, tree) :: parts, rfl, rfl, ?_⟩
    intro part found
    rcases List.mem_cons.mp found with rfl | found
    · exact first
    · exact others part found

/-- A call is written for every slot if its arguments are. -/
theorem Arguments.call {args : List Ir} {trees : List CallTree} (h : Arguments args trees)
    (head : Symbol) (named : isIdentifier head.name = true) (slot : Nat) :
    Written slot (.call head args) (.call head trees) := by
  obtain ⟨parts, items, rfl, written⟩ := exists_parts h.written
  exact .call named h.nonempty items written

/-! ## What is written is readable -/

theorem Written.isReadable {slot : Nat} {ir : Ir} {tree : CallTree} (h : Written slot ir tree) :
    ir.IsReadable := by
  induction h with
  | symbol h | number h => exact h
  | string => trivial
  | @call slot head args parts named nonempty items _ ih =>
    refine ⟨named, Ir.allLeaves_iff.mpr ?_⟩
    intro arg found
    have readable : ∀ item ∈ arg.items, item.IsReadable := by
      intro item inside
      have among : item ∈ parts.map Prod.fst := by
        rw [← items]
        exact List.mem_flatMap.mpr ⟨arg, found, inside⟩
      obtain ⟨part, member, rfl⟩ := List.mem_map.mp among
      exact ih part member
    cases arg with
    | sequence inner => exact Ir.allLeaves_iff.mpr readable
    | _ => exact readable _ List.mem_cons_self
  | between _ _ _ _ ihLeft ihRight | comparison _ _ _ ihLeft ihRight => exact ⟨ihLeft, ihRight⟩
  | before _ _ ih | group _ ih => exact ih

/-! ## What is written is derived -/

theorem CallToken.commas_append {first second : List (List CallToken)} (hf : first ≠ [])
    (hs : second ≠ []) : commas (first ++ second) = commas first ++ .comma :: commas second := by
  induction first with
  | nil => exact absurd rfl hf
  | cons item rest ih =>
    rcases rest with _ | ⟨next, rest⟩
    · rcases second with _ | ⟨other, second⟩
      · exact absurd rfl hs
      · rfl
    · simp only [List.cons_append] at ih ⊢
      simp [commas, ih]

theorem Ir.tokens_eq_commas (ir : Ir) : ir.tokens = CallToken.commas (ir.items.map Ir.tokens) := by
  cases ir with
  | sequence inner => rw [tokens, Ir.items, tokensOf_eq_map]
  | _ => rfl

/-- The tokens of arguments are those of the items that they stand for. -/
theorem Ir.commas_items {args : List Ir} (h : ∀ arg ∈ args, arg.items ≠ []) :
    CallToken.commas (args.map Ir.tokens) =
      CallToken.commas ((args.flatMap Ir.items).map Ir.tokens) := by
  induction args with
  | nil => rfl
  | cons arg rest ih =>
    have first := h arg List.mem_cons_self
    have others := ih fun other found => h other (List.mem_cons_of_mem _ found)
    rcases rest with _ | ⟨next, rest⟩
    · simpa [CallToken.commas] using arg.tokens_eq_commas
    · have more : (next :: rest).flatMap Ir.items ≠ [] := by
        simp [h next (by simp)]
      rw [List.flatMap_cons, List.map_append,
        CallToken.commas_append (by simpa using first) (by simpa using more), ← others,
        ← arg.tokens_eq_commas]
      rfl

namespace CallTree

theorem Derives.fits {low high : Nat} {words : List CallToken} {tree : CallTree}
    (h : Derives (.ofSlot high) words tree) (le : low ≤ high) :
    Derives (.ofSlot low) words tree :=
  Level.fits (Derives · words tree) (fun level => .loosen level) le h

theorem Derives.atom_fits {words : List CallToken} {tree : CallTree}
    (h : Derives .atom words tree) (slot : Nat) : Derives (.ofSlot slot) words tree :=
  Level.atom_fits (Derives · words tree) (fun level => .loosen level) slot h

/-- What fits some slot fits every slot inside parentheses. -/
theorem Derives.group_fits {slot : Nat} {words : List CallToken} {tree : CallTree}
    (h : Derives (.ofSlot slot) words tree) (other : Nat) :
    Derives (.ofSlot other) (.opening :: (words ++ [.closing])) tree := by
  have lowest : Derives (.ofSlot 0) words tree := h.fits (by omega)
  exact Derives.atom_fits (.group lowest) other

/-- An operation fits the slots up to the priority of its operator, if its operands fit theirs. -/
theorem Derives.operation {op : InfixOperator} (h : op.priority ≠ 0)
    {left right : List CallToken} {a b : CallTree} (hl : Derives (.ofSlot op.leftSlot) left a)
    (hr : Derives (.ofSlot op.rightSlot) right b) :
    Derives (.ofSlot op.priority) (left ++ .operator op :: right) (.between a op b) := by
  cases op with
  | add | sub => exact .chain (.inl rfl) rfl hl hr
  | mul | div | mod => exact .chain (.inr rfl) rfl hl hr
  | pow => exact .power hl hr
  | lt | gt | le | ge | eq | ne => exact absurd rfl h

end CallTree

open CallTree

theorem Written.derives {slot : Nat} {ir : Ir} {tree : CallTree} (h : Written slot ir tree) :
    Derives (.ofSlot slot) ir.tokens tree := by
  induction h with
  | @symbol slot head => exact Derives.atom_fits (.symbol head) slot
  | @number slot value => exact Derives.atom_fits (.number (Fragment.number value)) slot
  | @string slot value => exact Derives.atom_fits (.string value) slot
  | @call slot head args parts _ nonempty items _ ih =>
    have arguments : ∀ arg ∈ parts.map (fun part => (part.1.tokens, part.2)),
        Derives .sum arg.1 arg.2 := by
      intro arg found
      obtain ⟨part, member, rfl⟩ := List.mem_map.mp found
      exact ih part member
    have whole := Derives.call head arguments
    have words : CallToken.commas (Ir.tokensOf args) =
        CallToken.commas ((parts.map fun part => (part.1.tokens, part.2)).map Prod.fst) := by
      rw [Ir.tokensOf_eq_map, Ir.commas_items nonempty, items]
      simp [List.map_map, Function.comp_def]
    have trees : (parts.map fun part => (part.1.tokens, part.2)).map Prod.snd =
        parts.map Prod.snd := by
      simp [List.map_map, Function.comp_def]
    rw [← words, trees] at whole
    exact whole.atom_fits slot
  | @between slot left right a b op grouped some room _ _ ihLeft ihRight =>
    have whole := Derives.operation some ihLeft ihRight
    cases grouped with
    | true => exact whole.group_fits slot
    | false => exact whole.fits (by simpa using room)
  | @comparison slot left right a b op none _ _ ihLeft ihRight =>
    have loose : op.tightness = 0 := by
      cases op <;> first | rfl | cases none
    exact Derives.atom_fits (.comparison loose ihLeft ihRight) slot
  | @before slot operand tree op grouped room _ ih =>
    have factor : Derives (.ofSlot 3) (Ir.before op operand grouped).tokens (.before op tree) := by
      cases grouped with
      | true => exact .before op (ih.group_fits 3)
      | false => exact .before op (.loosen .factor ih)
    exact factor.fits room
  | @group slot inner tree _ ih => exact ih.group_fits slot

/-- The text of what is written for the lowest slot is read as the tree that it means. -/
theorem Written.read? {ir : Ir} {tree : CallTree} (h : Written 0 ir tree) :
    CallTree.read? ir.render = some tree :=
  h.derives.read? (ir.readAll_render h.isReadable)

end CallForm

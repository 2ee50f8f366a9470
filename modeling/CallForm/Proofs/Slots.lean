-- The argument slots of compiled text, and a reader of it that leaves open
-- what the operators of a slot do with its operands. Where one operator is
-- all that a slot has, there is nothing left to decide, and whatever reader
-- decides it reads the same.
import Mathlib.Data.List.Forall2
import CallForm.Proofs.CallTree

namespace CallForm

namespace CallToken

/-! ## Slots -/

/-- The slots of the rest of a text, with the slot at hand and those around it from the inside out.
Of a nested part in parentheses only the parentheses go into the slot around it. -/
def slotsFrom (current : List CallToken) (around : List (List CallToken)) :
    List CallToken → List (List CallToken)
  | [] => current :: around
  | .opening :: rest => slotsFrom [] ((current ++ [.opening]) :: around) rest
  | .comma :: rest => current :: slotsFrom [] around rest
  | .closing :: rest =>
    match around with
    | outer :: around => current :: slotsFrom (outer ++ [.closing]) around rest
    | [] => slotsFrom (current ++ [.closing]) [] rest
  | token :: rest => slotsFrom (current ++ [token]) around rest

/-- The argument slots of a text at all depths: what stands between two commas, or between a comma
and a parenthesis, or between two parentheses. -/
def slots (words : List CallToken) : List (List CallToken) := slotsFrom [] [] words

/-- How many operators stand between operands so far, and whether an operand was read last. Where
an operand is awaited, the operator `-` stands in front of it. -/
def countOne (counted : Nat × Bool) : CallToken → Nat × Bool
  | .operator op =>
    (if op = .sub ∧ counted.2 = false then counted.1 else counted.1 + 1, false)
  | .not | .opening | .comma => (counted.1, false)
  | .symbol _ | .number _ | .string _ | .closing => (counted.1, true)

/-- How many operators of a slot stand between operands. -/
def infixes (slot : List CallToken) : Nat := (slot.foldl countOne (0, false)).1

end CallToken

/-! ## The reader -/

/-- What the operators of a slot make of its operands: of those with the operator behind each, the
latest first, and the last one. -/
abbrev Resolver := List (CallTree × InfixOperator) → CallTree → Option CallTree

/-- What a slot holds behind its last operator. -/
inductive Operand
  | missing
  | symbol (head : Symbol)
  | whole (tree : CallTree)

/-- The tree of an operand. A missing one is read as a symbol without a name. -/
def Operand.tree : Operand → CallTree
  | .missing => .symbol ⟨"", none⟩
  | .symbol head => .symbol head
  | .whole tree => tree

/-- Whether there is an operand. -/
def Operand.isThere : Operand → Bool
  | .missing => false
  | _ => true

/-- A slot that is being read: the operands with an operator behind them, the operators in front of
the last operand, both with the latest first, and the last operand. -/
structure OpenSlot where
  settled : List (CallTree × InfixOperator) := []
  marks : List PrefixOperator := []
  operand : Operand := .missing

namespace OpenSlot

/-- The last operand with the operators in front of it, which hold it tightest. -/
def last (slot : OpenSlot) : CallTree :=
  slot.marks.foldl (fun tree op => .before op tree) slot.operand.tree

/-- The tree of a slot that has ended. -/
def finish (resolve : Resolver) (slot : OpenSlot) : Option CallTree :=
  resolve slot.settled slot.last

/-- Whether nothing was read. -/
def isBlank (slot : OpenSlot) : Bool :=
  slot.settled.isEmpty && slot.marks.isEmpty && !slot.operand.isThere

/-- The slot after an operand, which must have been missing. -/
def hold (operand : Operand) (slot : OpenSlot) : Option OpenSlot :=
  if slot.operand.isThere then none else some { slot with operand }

/-- The slot after an operator that only stands in front of an operand. -/
def mark (op : PrefixOperator) (slot : OpenSlot) : Option OpenSlot :=
  if slot.operand.isThere then none else some { slot with marks := op :: slot.marks }

/-- The slot after an operator that can stand between operands. -/
def operate (op : InfixOperator) (slot : OpenSlot) : OpenSlot :=
  if op = .sub ∧ slot.operand.isThere = false then { slot with marks := .neg :: slot.marks }
  else { settled := (slot.last, op) :: slot.settled }

end OpenSlot

/-- A parenthesis that is open: the symbol in front of it, the slots that have ended, and the one
that is being read. -/
structure Frame where
  head : Option Symbol := none
  args : List CallTree := []
  slot : OpenSlot := {}

namespace Frame

/-- The trees of all slots at the end of the last one. Nothing at all is no slot. -/
def close (resolve : Resolver) (frame : Frame) : Option (List CallTree) :=
  if frame.args.isEmpty && frame.slot.isBlank then some []
  else (frame.slot.finish resolve).map (frame.args ++ [·])

/-- The tree of what stands in parentheses. One slot stands for itself, any other number of them is
read as a call without a name. -/
def tree (frame : Frame) (args : List CallTree) : CallTree :=
  match frame.head, args with
  | some head, args => .call head args
  | none, [tree] => tree
  | none, args => .call ⟨"", none⟩ args

theorem tree_call {frame : Frame} {head : Symbol} (h : frame.head = some head)
    (args : List CallTree) : frame.tree args = .call head args := by
  unfold tree
  rw [h]

theorem tree_group {frame : Frame} (h : frame.head = none) (inner : CallTree) :
    frame.tree [inner] = inner := by
  unfold tree
  rw [h]

/-- A frame whose slot has an operand. -/
def holding (frame : Frame) (operand : Operand) : Frame :=
  { frame with slot := { frame.slot with operand } }

end Frame

namespace Resolver

variable (resolve : Resolver)

/-- The frames after one more token, from the inside out. -/
def step : List Frame → CallToken → Option (List Frame)
  | frame :: outer, .symbol head =>
    (frame.slot.hold (.symbol head)).map ({ frame with slot := · } :: outer)
  | frame :: outer, .number lexeme =>
    (frame.slot.hold (.whole (.number lexeme))).map ({ frame with slot := · } :: outer)
  | frame :: outer, .string value =>
    (frame.slot.hold (.whole (.string value))).map ({ frame with slot := · } :: outer)
  | frame :: outer, .operator op => some ({ frame with slot := frame.slot.operate op } :: outer)
  | frame :: outer, .not => (frame.slot.mark .not).map ({ frame with slot := · } :: outer)
  | frame :: outer, .opening =>
    match frame.slot.operand with
    | .missing => some ({} :: frame :: outer)
    | .symbol head => some ({ head } :: frame.holding .missing :: outer)
    | .whole _ => none
  | frame :: around :: outer, .closing =>
    (frame.close resolve).map fun args => around.holding (.whole (frame.tree args)) :: outer
  | frame :: outer, .comma =>
    (frame.slot.finish resolve).map fun tree =>
      { frame with args := frame.args ++ [tree], slot := {} } :: outer
  | [_], .closing | [], _ => none

/-- The frames after some tokens. -/
def run (frames : List Frame) (words : List CallToken) : Option (List Frame) :=
  words.foldlM (step resolve) frames

/-- The tree of some tokens, if all parentheses close. -/
def read? (words : List CallToken) : Option CallTree := do
  match ← run resolve [{}] words with
  | [frame] => (frame.close resolve).map frame.tree
  | _ => none

theorem run_append (frames : List Frame) (words more : List CallToken) :
    resolve.run frames (words ++ more) = (resolve.run frames words).bind (resolve.run · more) :=
  List.foldlM_append

theorem run_cons (frames : List Frame) (token : CallToken) (words : List CallToken) :
    resolve.run frames (token :: words) =
      (resolve.step frames token).bind (resolve.run · words) :=
  List.foldlM_cons

/-- Reads slots with at most one operator between operands, and no others. -/
def single : Resolver
  | [], last => some last
  | [(left, op)], last => some (.between left op last)
  | _ :: _ :: _, _ => none

/-- A resolver that agrees with the one for single operators wherever that gives a tree. -/
def Extends (resolve : Resolver) : Prop :=
  ∀ settled last tree, single settled last = some tree → resolve settled last = some tree

end Resolver

open Resolver

/-! ## What is read with single operators -/

theorem OpenSlot.finish_single {slot : OpenSlot} :
    (∃ tree, slot.finish single = some tree) ↔ slot.settled.length ≤ 1 := by
  unfold finish
  rcases slot.settled with _ | ⟨⟨left, op⟩, _ | ⟨other, rest⟩⟩ <;> simp [single]

theorem Frame.close_single {frame : Frame} :
    (∃ args, frame.close single = some args) ↔ frame.slot.settled.length ≤ 1 := by
  unfold close
  split
  · rename_i blank
    simp only [OpenSlot.isBlank, Bool.and_eq_true, List.isEmpty_iff] at blank
    simp [blank.2.1.1]
  · simp only [Option.map_eq_some_iff]
    rw [← OpenSlot.finish_single]
    constructor
    · rintro ⟨_, tree, found, _⟩
      exact ⟨tree, found⟩
    · rintro ⟨tree, found⟩
      exact ⟨_, tree, found, rfl⟩

section

variable {resolve : Resolver} (wider : resolve.Extends)

include wider

theorem Frame.close_extends {frame : Frame} {args : List CallTree}
    (h : frame.close single = some args) : frame.close resolve = some args := by
  unfold close at h ⊢
  split
  · rename_i blank
    rwa [if_pos blank] at h
  · rename_i more
    rw [if_neg more, Option.map_eq_some_iff] at h
    obtain ⟨tree, found, rfl⟩ := h
    rw [OpenSlot.finish, wider _ _ _ found]
    rfl

theorem Resolver.step_extends {frames after : List Frame} {token : CallToken}
    (h : single.step frames token = some after) : resolve.step frames token = some after := by
  match frames, token with
  | frame :: around :: outer, .closing =>
    obtain ⟨args, closed, rfl⟩ := Option.map_eq_some_iff.mp h
    exact Option.map_eq_some_iff.mpr ⟨args, Frame.close_extends wider closed, rfl⟩
  | frame :: outer, .comma =>
    obtain ⟨tree, ended, rfl⟩ := Option.map_eq_some_iff.mp h
    exact Option.map_eq_some_iff.mpr ⟨tree, wider _ _ _ ended, rfl⟩
  | _ :: _, .symbol _ | _ :: _, .number _ | _ :: _, .string _ | _ :: _, .operator _ | _ :: _, .not
  | _ :: _, .opening | [_], .closing | [], _ => exact h

theorem Resolver.run_extends {words : List CallToken} : ∀ {frames after : List Frame},
    single.run frames words = some after → resolve.run frames words = some after := by
  induction words with
  | nil => exact fun h => h
  | cons token rest ih =>
    intro frames after h
    rw [run_cons, Option.bind_eq_some_iff] at h ⊢
    obtain ⟨next, stepped, done⟩ := h
    exact ⟨next, step_extends wider stepped, ih done⟩

/-- What is read where every slot has a single operator is read alike by every reader. -/
theorem Resolver.read?_extends {words : List CallToken} {tree : CallTree}
    (h : single.read? words = some tree) : resolve.read? words = some tree := by
  obtain ⟨frames, ran, h⟩ := Option.bind_eq_some_iff.mp h
  refine Option.bind_eq_some_iff.mpr ⟨frames, run_extends wider ran, ?_⟩
  split at h
  · rw [Option.map_eq_some_iff] at h ⊢
    obtain ⟨args, closed, rfl⟩ := h
    exact ⟨args, Frame.close_extends wider closed, rfl⟩
  · cases h

end

/-! ## Slots that are read with single operators -/

open CallToken

/-- A slot that is being read goes with the tokens that were read of it. -/
def Frame.Follows (frame : Frame) (tokens : List CallToken) : Prop :=
  tokens.foldl countOne (0, false) = (frame.slot.settled.length, frame.slot.operand.isThere)

theorem Frame.Follows.infixes {frame : Frame} {tokens : List CallToken}
    (h : frame.Follows tokens) : CallToken.infixes tokens = frame.slot.settled.length :=
  congrArg Prod.fst h

theorem Frame.follows_nil (head : Option Symbol) (args : List CallTree) :
    Frame.Follows ⟨head, args, {}⟩ [] := rfl

theorem Frame.Follows.snoc {frame after : Frame} {tokens : List CallToken} {token : CallToken}
    (h : frame.Follows tokens)
    (one : countOne (frame.slot.settled.length, frame.slot.operand.isThere) token =
      (after.slot.settled.length, after.slot.operand.isThere)) :
    after.Follows (tokens ++ [token]) := by
  rw [Follows, List.foldl_append, h]
  exact one

/-- A frame that goes with the tokens of its slot goes with one more of them after an operand. -/
theorem Frame.Follows.hold {frame : Frame} {tokens : List CallToken} (h : frame.Follows tokens)
    {operand : Operand} {slot : OpenSlot} (held : frame.slot.hold operand = some slot)
    (there : operand.isThere = true) {token : CallToken}
    (one : ∀ counted, countOne counted token = (counted.1, true)) :
    Frame.Follows { frame with slot } (tokens ++ [token]) := by
  unfold OpenSlot.hold at held
  split at held
  · cases held
  · cases held
    exact h.snoc ((one _).trans (by rw [there]))

theorem Frame.Follows.operate {frame : Frame} {tokens : List CallToken} (h : frame.Follows tokens)
    (op : InfixOperator) :
    Frame.Follows { frame with slot := frame.slot.operate op } (tokens ++ [.operator op]) := by
  apply h.snoc
  unfold OpenSlot.operate
  split
  · rename_i mark
    simp [countOne, mark]
  · rename_i between
    rw [countOne, if_neg between]
    rfl

theorem slotsFrom_single (words : List CallToken) :
    ∀ {frame : Frame} {outer : List Frame} {current : List CallToken}
      {around : List (List CallToken)} {last : Frame},
      frame.Follows current → List.Forall₂ Frame.Follows outer around →
      single.run (frame :: outer) words = some [last] → last.slot.settled.length ≤ 1 →
      ∀ slot ∈ slotsFrom current around words, infixes slot ≤ 1 := by
  induction words with
  | nil =>
    intro frame outer current around last follows others ran few
    cases ran
    cases others
    simpa [slotsFrom, follows.infixes] using few
  | cons token rest ih =>
    intro frame outer current around last follows others ran few
    rw [run_cons, Option.bind_eq_some_iff] at ran
    obtain ⟨next, stepped, ran⟩ := ran
    have held {operand : Operand} (there : operand.isThere = true)
        (one : ∀ counted, countOne counted token = (counted.1, true))
        (stepped : (frame.slot.hold operand).map ({ frame with slot := · } :: outer) = some next) :
        ∀ slot ∈ slotsFrom (current ++ [token]) around rest, infixes slot ≤ 1 := by
      obtain ⟨slot, held, rfl⟩ := Option.map_eq_some_iff.mp stepped
      exact ih (follows.hold held there one) others ran few
    cases token with
    | symbol head => exact held rfl (fun _ => rfl) stepped
    | number lexeme => exact held rfl (fun _ => rfl) stepped
    | string value => exact held rfl (fun _ => rfl) stepped
    | operator op =>
      cases stepped
      exact ih (follows.operate op) others ran few
    | not =>
      obtain ⟨slot, marked, rfl⟩ := Option.map_eq_some_iff.mp stepped
      unfold OpenSlot.mark at marked
      split at marked
      · cases marked
      · rename_i missing
        cases marked
        rw [Bool.not_eq_true] at missing
        exact ih (follows.snoc (by simp [countOne, missing])) others ran few
    | opening =>
      rw [step] at stepped
      have entered {head : Option Symbol}
          (same : next = { head } :: frame.holding .missing :: outer) :
          ∀ slot ∈ slotsFrom [] ((current ++ [.opening]) :: around) rest, infixes slot ≤ 1 := by
        rw [same] at ran
        exact ih (Frame.follows_nil _ _) (.cons (follows.snoc rfl) others) ran few
      split at stepped
      · rename_i missing
        cases stepped
        refine @entered none ?_
        rw [Frame.holding, ← missing]
      · cases stepped
        exact entered rfl
      · cases stepped
    | closing =>
      cases others with
      | nil => cases stepped
      | @cons outside _ tokens _ along others =>
        obtain ⟨args, closed, rfl⟩ := Option.map_eq_some_iff.mp stepped
        have few' := Frame.close_single.mp ⟨args, closed⟩
        refine List.forall_mem_cons.mpr ⟨by rwa [follows.infixes], ?_⟩
        exact ih (along.snoc rfl) others ran few
    | comma =>
      obtain ⟨tree, ended, rfl⟩ := Option.map_eq_some_iff.mp stepped
      have few' := OpenSlot.finish_single.mp ⟨tree, ended⟩
      refine List.forall_mem_cons.mpr ⟨by rwa [follows.infixes], ?_⟩
      exact ih (Frame.follows_nil _ _) others ran few

/-- Where a text is read with single operators, no slot has more than one between operands. -/
theorem infixes_of_single {words : List CallToken} {tree : CallTree}
    (h : single.read? words = some tree) : ∀ slot ∈ slots words, infixes slot ≤ 1 := by
  obtain ⟨frames, ran, h⟩ := Option.bind_eq_some_iff.mp h
  split at h
  · obtain ⟨args, closed, _⟩ := Option.map_eq_some_iff.mp h
    exact slotsFrom_single words (Frame.follows_nil _ _) .nil ran
      (Frame.close_single.mp ⟨args, closed⟩)
  · cases h

end CallForm

-- Text that needs no table of operators. Where everything is grouped, no
-- slot of compiled text has two operators to choose between, so the text is
-- read as one tree whatever tightness and side the operators are given. An
-- operator in front of its operand holds tighter than all of them.
import CallForm.Proofs.Grouped
import CallForm.Proofs.Slots

namespace CallForm

open CallToken Resolver

/-! ## Words that are read with single operators -/

/-- Words that can stand wherever an operand is missing behind one operator at most: they are read
with single operators, and leave no more of them behind than there were. -/
def ReadsSingly (words : List CallToken) : Prop :=
  ∀ (frame : Frame) (outer : List Frame), frame.slot.operand = .missing →
    frame.slot.settled.length ≤ 1 →
    ∃ after, single.run (frame :: outer) words = some (after :: outer) ∧
      after.slot.settled.length ≤ frame.slot.settled.length

/-- Words that can stand in parentheses: they are read with single operators where nothing was read
before. -/
def ReadsInside (words : List CallToken) : Prop :=
  ∀ (head : Option Symbol) (outer : List Frame),
    ∃ after, single.run ({ head } :: outer) words = some (after :: outer) ∧
      after.slot.settled.length ≤ 1

theorem ReadsSingly.inside {words : List CallToken} (h : ReadsSingly words) :
    ReadsInside words := by
  intro head outer
  obtain ⟨after, ran, few⟩ := h { head } outer rfl (Nat.zero_le 1)
  exact ⟨after, ran, Nat.le_succ_of_le few⟩

theorem ReadsSingly.nil : ReadsSingly [] :=
  fun frame _ _ _ => ⟨frame, rfl, Nat.le_refl _⟩

theorem OpenSlot.hold_missing {slot : OpenSlot} (missing : slot.operand = .missing)
    (operand : Operand) : slot.hold operand = some { slot with operand } := by
  rw [hold, if_neg (by rw [missing]; decide)]

/-- The operand that a token is by itself. -/
def CallToken.operand? : CallToken → Option Operand
  | .symbol head => some (.symbol head)
  | .number lexeme => some (.whole (.number lexeme))
  | .string value => some (.whole (.string value))
  | _ => none

/-- A token that is an operand by itself is read where one is missing. -/
theorem Resolver.run_operand (resolve : Resolver) {token : CallToken} {operand : Operand}
    (h : token.operand? = some operand) {frame : Frame} (missing : frame.slot.operand = .missing)
    (outer : List Frame) :
    resolve.run (frame :: outer) [token] = some (frame.holding operand :: outer) ∧
      operand.isThere = true := by
  have held := frame.slot.hold_missing missing
  cases token with
  | symbol | number | string =>
    cases h
    refine ⟨?_, rfl⟩
    rw [run_cons, step, held]
    rfl
  | _ => cases h

theorem ReadsSingly.operand {token : CallToken} {operand : Operand}
    (h : token.operand? = some operand) : ReadsSingly [token] := by
  intro frame outer missing _
  exact ⟨frame.holding operand, (single.run_operand h missing outer).1, Nat.le_refl _⟩

/-- The frame after an operator in front of an operand that is missing. -/
def Frame.marked (frame : Frame) (op : PrefixOperator) : Frame :=
  { frame with slot := { frame.slot with marks := op :: frame.slot.marks } }

theorem Resolver.step_prefix (resolve : Resolver) {frame : Frame}
    (missing : frame.slot.operand = .missing) (op : PrefixOperator) (outer : List Frame) :
    resolve.step (frame :: outer) (.ofPrefix op) = some (frame.marked op :: outer) := by
  cases op with
  | neg =>
    rw [CallToken.ofPrefix, step, OpenSlot.operate, if_pos ⟨rfl, by rw [missing]; rfl⟩]
    rfl
  | not =>
    rw [CallToken.ofPrefix, step, OpenSlot.mark, if_neg (by rw [missing]; decide)]
    rfl

theorem ReadsSingly.before {words : List CallToken} (h : ReadsSingly words) (op : PrefixOperator) :
    ReadsSingly (.ofPrefix op :: words) := by
  intro frame outer missing few
  obtain ⟨after, ran, fewer⟩ := h (frame.marked op) outer missing few
  refine ⟨after, ?_, fewer⟩
  rw [run_cons, step_prefix _ missing]
  exact ran

theorem ReadsSingly.comma {first rest : List CallToken} (h : ReadsSingly first)
    (hrest : ReadsSingly rest) : ReadsSingly (first ++ .comma :: rest) := by
  intro frame outer missing few
  obtain ⟨after, ran, fewer⟩ := h frame outer missing few
  obtain ⟨tree, ended⟩ := OpenSlot.finish_single.mpr (fewer.trans few)
  obtain ⟨last, ran', fewest⟩ :=
    hrest ⟨after.head, after.args ++ [tree], {}⟩ outer rfl (Nat.zero_le 1)
  refine ⟨last, ?_, fewest.trans (Nat.zero_le _)⟩
  rw [run_append, ran, Option.bind_some, run_cons, step, ended]
  exact ran'

theorem ReadsSingly.between {left right : List CallToken} (hl : ReadsSingly left)
    (hr : ReadsSingly right) (op : InfixOperator) :
    ReadsInside (left ++ .operator op :: right) := by
  intro head outer
  obtain ⟨after, ran, none⟩ := hl { head } outer rfl (Nat.zero_le 1)
  have few : (after.slot.operate op).settled.length ≤ 1 := by
    unfold OpenSlot.operate
    split
    · exact Nat.le_succ_of_le none
    · exact Nat.succ_le_succ none
  have missing : (after.slot.operate op).operand = .missing := by
    unfold OpenSlot.operate
    split
    · rename_i mark
      cases found : after.slot.operand with
      | missing => rfl
      | symbol | whole =>
        rw [found] at mark
        cases mark.2
    · rfl
  obtain ⟨last, ran', fewer⟩ :=
    hr { after with slot := after.slot.operate op } outer missing few
  refine ⟨last, ?_, fewer.trans few⟩
  rw [run_append, ran, Option.bind_some, run_cons, step]
  exact ran'

/-- Parentheses close around words that can stand in them. -/
theorem ReadsInside.closes {words : List CallToken} (h : ReadsInside words) (head : Option Symbol)
    (around : Frame) (outer : List Frame) :
    ∃ tree, single.run ({ head } :: around :: outer) (words ++ [.closing]) =
      some (around.holding (.whole tree) :: outer) := by
  obtain ⟨after, ran, few⟩ := h head (around :: outer)
  obtain ⟨args, closed⟩ := Frame.close_single.mpr few
  refine ⟨after.tree args, ?_⟩
  rw [run_append, ran, Option.bind_some, run_cons, step, closed]
  rfl

theorem ReadsInside.group {words : List CallToken} (h : ReadsInside words) :
    ReadsSingly (.opening :: (words ++ [.closing])) := by
  intro frame outer missing _
  obtain ⟨tree, closed⟩ := h.closes none frame outer
  refine ⟨frame.holding (.whole tree), ?_, Nat.le_refl _⟩
  rw [run_cons, step, missing]
  exact closed

theorem ReadsInside.call {words : List CallToken} (h : ReadsInside words) (head : Symbol) :
    ReadsSingly (.symbol head :: .opening :: (words ++ [.closing])) := by
  intro frame outer missing _
  obtain ⟨tree, closed⟩ := h.closes (some head) (frame.holding .missing) outer
  refine ⟨frame.holding (.whole tree), ?_, Nat.le_refl _⟩
  rw [run_cons, step, frame.slot.hold_missing missing, Option.map_some, Option.bind_some, run_cons,
    step]
  exact closed

theorem ReadsSingly.lexeme (text : List Char) : ReadsSingly (ofLexeme text) := by
  have unsigned (text : List Char) : ReadsSingly [ofUnsigned text] := by
    unfold ofUnsigned
    split <;> exact .operand rfl
  unfold ofLexeme
  split
  · exact (unsigned _).before .neg
  · exact unsigned _

mutual

/-- Where every operation has parentheses, a compiled form is read with single operators. -/
theorem Ir.IsGrouped.readsSingly : ∀ ir : Ir, ir.IsGrouped → ReadsSingly ir.words
  | .symbol _, _ | .string _, _ => .operand rfl
  | .number value, _ => by
    rw [Ir.words_number]
    exact .lexeme _
  | .call head args, h => by
    rw [Ir.words_call]
    exact (Ir.AllGrouped.readsSingly args h).inside.call head
  | .between left op right grouped, h => by
    rw [Ir.words_between, if_pos h.1]
    exact ((Ir.IsGrouped.readsSingly left h.2.1).between
      (Ir.IsGrouped.readsSingly right h.2.2) op).group
  | .before op operand grouped, h => by
    rw [Ir.words_before, if_pos h.1]
    exact (Ir.IsGrouped.readsSingly operand h.2).inside.group.before op
  | .group inner, h => by
    rw [Ir.words_group]
    exact (Ir.IsGrouped.readsSingly inner h).inside.group
  | .sequence items, h => by
    rw [Ir.words_sequence]
    exact Ir.AllGrouped.readsSingly items h

theorem Ir.AllGrouped.readsSingly : ∀ items : List Ir, Ir.AllGrouped items →
    ReadsSingly (Ir.row items)
  | [], _ => .nil
  | [item], h => Ir.IsGrouped.readsSingly item h.1
  | item :: next :: rest, h =>
    (Ir.IsGrouped.readsSingly item h.1).comma (Ir.AllGrouped.readsSingly (next :: rest) h.2)

end

/-- What can stand in parentheses is read with single operators by itself. -/
theorem ReadsInside.read? {words : List CallToken} (h : ReadsInside words) :
    ∃ tree, single.read? words = some tree := by
  obtain ⟨after, ran, few⟩ := h none []
  obtain ⟨args, closed⟩ := Frame.close_single.mpr few
  refine ⟨after.tree args, ?_⟩
  rw [Resolver.read?, ran]
  simp [closed]

/-! ## The tree that is read -/

/-- A frame after words that stand for a tree where an operand was missing. -/
structure Frame.Holds (frame : Frame) (tree : CallTree) (after : Frame) : Prop where
  head : after.head = frame.head
  args : after.args = frame.args
  settled : after.slot.settled = frame.slot.settled
  last : after.slot.last = frame.slot.marks.foldl (fun tree op => .before op tree) tree
  there : after.slot.operand.isThere = true

/-- Words that are read as a tree wherever an operand is missing. -/
def ReadsAs (words : List CallToken) (tree : CallTree) : Prop :=
  ∀ (frame : Frame) (outer : List Frame), frame.slot.operand = .missing →
    ∃ after, single.run (frame :: outer) words = some (after :: outer) ∧ frame.Holds tree after

theorem Frame.holds_holding (frame : Frame) (tree : CallTree) :
    frame.Holds tree (frame.holding (.whole tree)) :=
  ⟨rfl, rfl, rfl, rfl, rfl⟩

theorem ReadsAs.operand {token : CallToken} {operand : Operand}
    (h : token.operand? = some operand) : ReadsAs [token] operand.tree := by
  intro frame outer missing
  obtain ⟨ran, there⟩ := single.run_operand h missing outer
  exact ⟨frame.holding operand, ran, rfl, rfl, rfl, rfl, there⟩

theorem Frame.Holds.close {frame after : Frame} {tree : CallTree} (h : frame.Holds tree after)
    (alone : frame.slot.settled = [] ∧ frame.slot.marks = []) :
    after.close single = some (frame.args ++ [tree]) := by
  have read : after.slot.finish single = some tree := by
    rw [OpenSlot.finish, h.settled, h.last, alone.1, alone.2]
    rfl
  have some : (after.args.isEmpty && after.slot.isBlank) = false := by
    simp [OpenSlot.isBlank, h.there]
  rw [Frame.close, if_neg (by rw [some]; decide), read, h.args]
  rfl

/-- Arguments are read one by one. -/
theorem ReadsAs.commas {parts : List (List CallToken × CallTree)} (nonempty : parts ≠ [])
    (h : ∀ part ∈ parts, ReadsAs part.1 part.2) (head : Option Symbol) (outer : List Frame) :
    ∀ args : List CallTree, ∃ after,
      single.run (⟨head, args, {}⟩ :: outer) (CallToken.commas (parts.map Prod.fst)) =
        some (after :: outer) ∧
      after.head = head ∧ after.close single = some (args ++ parts.map Prod.snd) := by
  induction parts with
  | nil => exact absurd rfl nonempty
  | cons part rest ih =>
    intro args
    obtain ⟨after, ran, holds⟩ := h part List.mem_cons_self ⟨head, args, {}⟩ outer rfl
    have closed := holds.close ⟨rfl, rfl⟩
    rcases rest with _ | ⟨next, rest⟩
    · exact ⟨after, ran, holds.head, closed⟩
    · have ended : after.slot.finish single = some part.2 := by
        rw [OpenSlot.finish, holds.settled, holds.last]
        rfl
      obtain ⟨last, ran', same, closed'⟩ := ih (by simp)
        (fun part found => h part (List.mem_cons_of_mem _ found)) (args ++ [part.2])
      refine ⟨last, ?_, same, ?_⟩
      · rw [List.map_cons, List.map_cons, CallToken.commas, run_append, ran, Option.bind_some,
          run_cons, step, ended, Option.map_some, Option.bind_some, holds.head, holds.args]
        · exact ran'
        · simp
      · rw [closed', List.map_cons, List.append_assoc]
        rfl

theorem ReadsAs.call {parts : List (List CallToken × CallTree)}
    (h : ∀ part ∈ parts, ReadsAs part.1 part.2) (head : Symbol) :
    ReadsAs (.symbol head :: .opening :: (CallToken.commas (parts.map Prod.fst) ++ [.closing]))
      (.call head (parts.map Prod.snd)) := by
  intro frame outer missing
  have inner : ∃ after,
      single.run ({ head := some head } :: frame.holding .missing :: outer)
        (CallToken.commas (parts.map Prod.fst)) =
          some (after :: frame.holding .missing :: outer) ∧
      after.head = some head ∧ after.close single = some (parts.map Prod.snd) := by
    cases parts with
    | nil => exact ⟨_, rfl, rfl, rfl⟩
    | cons part rest => exact ReadsAs.commas (by simp) h (some head) _ []
  obtain ⟨after, ran, same, closed⟩ := inner
  refine ⟨frame.holding (.whole (.call head (parts.map Prod.snd))), ?_, frame.holds_holding _⟩
  rw [run_cons, step, frame.slot.hold_missing missing, Option.map_some, Option.bind_some, run_cons,
    step]
  change single.run (_ :: frame.holding .missing :: outer) _ = _
  rw [run_append, ran, Option.bind_some, run_cons, step, closed, ← Frame.tree_call same]
  rfl

/-- What is read as a tree by itself in parentheses is read as it with them. -/
theorem ReadsAs.parenthesized {words : List CallToken} {tree : CallTree}
    (h : ∀ outer, ∃ after, single.run ({} :: outer) words = some (after :: outer) ∧
      after.head = none ∧ after.close single = some [tree]) :
    ReadsAs (.opening :: (words ++ [.closing])) tree := by
  intro frame outer missing
  obtain ⟨after, ran, same, closed⟩ := h (frame :: outer)
  refine ⟨frame.holding (.whole tree), ?_, frame.holds_holding tree⟩
  rw [run_cons, step, missing]
  change single.run ({} :: frame :: outer) _ = _
  rw [run_append, ran, Option.bind_some, run_cons, step, closed, Option.map_some,
    Frame.tree_group same]
  rfl

theorem ReadsAs.group {words : List CallToken} {tree : CallTree} (h : ReadsAs words tree) :
    ReadsAs (.opening :: (words ++ [.closing])) tree := by
  apply ReadsAs.parenthesized
  intro outer
  obtain ⟨after, ran, holds⟩ := h {} outer rfl
  exact ⟨after, ran, holds.head, holds.close ⟨rfl, rfl⟩⟩

theorem ReadsAs.between {left right : List CallToken} {a b : CallTree} (hl : ReadsAs left a)
    (hr : ReadsAs right b) (op : InfixOperator) :
    ReadsAs (.opening :: (left ++ .operator op :: right ++ [.closing])) (.between a op b) := by
  apply ReadsAs.parenthesized
  intro outer
  obtain ⟨first, ran, holds⟩ := hl {} outer rfl
  have operated : first.slot.operate op = ⟨[(a, op)], [], .missing⟩ := by
    rw [OpenSlot.operate, if_neg (by simp [holds.there]), holds.settled, holds.last]
    rfl
  obtain ⟨last, ran', holds'⟩ := hr ⟨first.head, first.args, ⟨[(a, op)], [], .missing⟩⟩ outer rfl
  refine ⟨last, ?_, holds'.head.trans holds.head, ?_⟩
  · rw [run_append, ran, Option.bind_some, run_cons, step, operated]
    exact ran'
  · have read : last.slot.finish single = some (.between a op b) := by
      rw [OpenSlot.finish, holds'.settled, holds'.last]
      rfl
    have some : (last.args.isEmpty && last.slot.isBlank) = false := by
      simp [OpenSlot.isBlank, holds'.there]
    rw [Frame.close, if_neg (by rw [some]; decide), read, holds'.args, holds.args]
    rfl

theorem ReadsAs.before {words : List CallToken} {tree : CallTree} (h : ReadsAs words tree)
    (op : PrefixOperator) : ReadsAs (.ofPrefix op :: words) (.before op tree) := by
  intro frame outer missing
  obtain ⟨after, ran, holds⟩ := h (frame.marked op) outer missing
  refine ⟨after, ?_, holds.head, holds.args, holds.settled, holds.last, holds.there⟩
  rw [run_cons, step_prefix _ missing]
  exact ran

theorem Ir.IsGrouped.items {ir : Ir} (h : ir.IsGrouped) : ∀ item ∈ ir.items, item.IsGrouped := by
  cases ir with
  | sequence inner => exact Ir.allGrouped_iff.mp h
  | _ =>
    intro item found
    rw [List.mem_singleton.mp found]
    exact h

/-- What is written for a slot and has parentheses around every operation is read as the tree that
it means. -/
theorem Written.readsAs {slot : Nat} {ir : Ir} {tree : CallTree} (h : Written slot ir tree)
    (grouped : ir.IsGrouped) : ReadsAs ir.tokens tree := by
  induction h with
  | symbol => exact @ReadsAs.operand (.symbol _) _ rfl
  | number => exact @ReadsAs.operand (.number _) _ rfl
  | string => exact @ReadsAs.operand (.string _) _ rfl
  | @call _ head args parts _ nonempty items _ ih =>
    have inside : ∀ part ∈ parts, part.1.IsGrouped := by
      intro part found
      have among : part.1 ∈ args.flatMap Ir.items := by
        rw [items]
        exact List.mem_map_of_mem found
      obtain ⟨arg, listed, found⟩ := List.mem_flatMap.mp among
      exact (Ir.allGrouped_iff.mp grouped arg listed).items part.1 found
    have read : ∀ part ∈ parts.map (fun part => (part.1.tokens, part.2)),
        ReadsAs part.1 part.2 := by
      intro part found
      obtain ⟨part, listed, rfl⟩ := List.mem_map.mp found
      exact ih part listed (inside part listed)
    have words : CallToken.commas (Ir.tokensOf args) =
        CallToken.commas ((parts.map fun part => (part.1.tokens, part.2)).map Prod.fst) := by
      rw [Ir.tokensOf_eq_map, Ir.commas_items nonempty, items]
      simp [List.map_map, Function.comp_def]
    have trees : (parts.map fun part => (part.1.tokens, part.2)).map Prod.snd =
        parts.map Prod.snd := by
      simp [List.map_map, Function.comp_def]
    rw [Ir.tokens, words, ← trees]
    exact ReadsAs.call read head
  | between _ _ _ _ ihLeft ihRight =>
    rw [Ir.tokens, if_pos grouped.1]
    exact (ihLeft grouped.2.1).between (ihRight grouped.2.2) _
  | comparison _ _ _ ihLeft ihRight =>
    rw [Ir.tokens, if_pos rfl]
    exact (ihLeft grouped.2.1).between (ihRight grouped.2.2) _
  | before _ _ ih =>
    rw [Ir.tokens, if_pos grouped.1]
    exact (ih grouped.2).group.before _
  | group _ ih => exact (ih grouped).group

theorem ReadsAs.read? {words : List CallToken} {tree : CallTree} (h : ReadsAs words tree) :
    single.read? words = some tree := by
  obtain ⟨after, ran, holds⟩ := h {} [] rfl
  have closed := holds.close ⟨rfl, rfl⟩
  rw [Resolver.read?, ran]
  simp [closed, Frame.tree_group holds.head]

/-! ## Tables of operators -/

/-- The side from which operators of one tightness take their operands. -/
inductive Side
  | left | right
deriving Repr, DecidableEq

/-- How tightly every operator between operands holds them, and the side that operators of one
tightness start from. -/
structure OperatorTable where
  tightness : InfixOperator → Nat
  side : Nat → Side

namespace OperatorTable

variable (table : OperatorTable)

/-- Whether the first of two operators takes the operand that stands between them. -/
def takes (op next : InfixOperator) : Bool :=
  if table.tightness op = table.tightness next then table.side (table.tightness op) = .left
  else table.tightness next < table.tightness op

/-- Lets the operators that are open, the latest first, take an operand in front of the next one. -/
def reduce (next : InfixOperator) :
    List (CallTree × InfixOperator) → CallTree → List (CallTree × InfixOperator) × CallTree
  | [], operand => ([], operand)
  | (left, op) :: waiting, operand =>
    if table.takes op next then reduce next waiting (.between left op operand)
    else ((left, op) :: waiting, operand)

/-- Lets all operators that are open take their last operand. -/
def unwind : List (CallTree × InfixOperator) → CallTree → CallTree
  | [], operand => operand
  | (left, op) :: waiting, operand => unwind waiting (.between left op operand)

/-- The tree of operands, each with the operator behind it, and a last one. -/
def arrange (waiting : List (CallTree × InfixOperator)) :
    List (CallTree × InfixOperator) → CallTree → CallTree
  | [], last => unwind waiting last
  | (operand, op) :: rest, last =>
    let (waiting, left) := table.reduce op waiting operand
    arrange ((left, op) :: waiting) rest last

/-- What a table makes of the operands of a slot. -/
def resolve : Resolver := fun settled last => some (table.arrange [] settled.reverse last)

/-- The tree of a text, if all of the text is read. -/
def read? (text : String) : Option CallTree :=
  (readAll text.toList).bind table.resolve.read?

/-- A table leaves a single operator its two operands. -/
theorem resolve_extends : table.resolve.Extends := by
  intro settled last tree h
  match settled, h with
  | [], h => exact h
  | [(left, op)], h => exact h

end OperatorTable

/-- The operators as the host language holds them: powers from the right, all others from the
left. -/
def OperatorTable.host : OperatorTable where
  tightness := InfixOperator.tightness
  side level := if level = InfixOperator.pow.tightness then .right else .left

-- With more than one operator in a slot, tables do differ.
example (a b c : CallTree) :
    OperatorTable.host.resolve [(b, .sub), (a, .sub)] c =
        some (.between (.between a .sub b) .sub c) ∧
      OperatorTable.host.resolve [(b, .pow), (a, .pow)] c =
        some (.between a .pow (.between b .pow c)) :=
  ⟨rfl, rfl⟩

/-! ## The law -/

/-- In an environment whose primitives are identifiers and that has everything grouped, no slot of
the text that a function with identifiers for names compiles to has more than one operator between
operands. The text is read as one tree, whatever tightness and side the operators are given, and
that tree is the image of the function if its text can be read back at all. -/
theorem grouped_text_needs_no_table_of_operators (env : Environment) (readable : env.IsReadable)
    (aggressively : env.groupAggressively = true) (definition : FunctionDef)
    (named : definition.IsNamed) (ir : Ir) (compiled : definition.compile env = .ok ir) :
    ∃ words tree, readAll ir.render.toList = some words ∧
      (∀ slot ∈ slots words, infixes slot ≤ 1) ∧
      (∀ table : OperatorTable, table.read? ir.render = some tree) ∧
      (definition.isPlain = true → definition.image env = .ok tree) := by
  have grouped := definition.isGrouped_compile aggressively compiled
  have read := ir.readAll_words (definition.isNamed_compile readable named compiled)
  obtain ⟨tree, found⟩ := (Ir.IsGrouped.readsSingly ir grouped).inside.read?
  refine ⟨ir.words, tree, read, infixes_of_single found, ?_, ?_⟩
  · intro table
    rw [OperatorTable.read?, read]
    exact read?_extends table.resolve_extends found
  · intro plain
    have agrees := definition.agrees true readable plain
    have same : env.grouping true = env := by
      rw [Environment.grouping, ← aggressively]
    rw [same, compiled] at agrees
    cases image : definition.image env with
    | error cause =>
      rw [image] at agrees
      cases agrees
    | ok meant =>
      rw [image] at agrees
      cases agrees with
      | gave written =>
        have back := (written.readsAs grouped).read?
        rw [← ir.words_eq_tokens written.isReadable, found] at back
        cases back
        rfl

/-- `def f(a): a += -2 ** -a` and `return a - 1 - a`, where `-2` is one number. -/
def FunctionDef.mixing : FunctionDef :=
  .mk "f" [⟨"a", ⟨1, 6⟩⟩]
    [.augment ⟨2, 4⟩ (.name ⟨2, 4⟩ "a") .add
      (.binary ⟨2, 9⟩ (.number ⟨2, 9⟩ (.int (-2))) .pow
        (.unary ⟨2, 15⟩ .minus (.name ⟨2, 16⟩ "a"))),
      .ret ⟨3, 4⟩ (some (.binary ⟨3, 11⟩
        (.binary ⟨3, 11⟩ (.name ⟨3, 11⟩ "a") .sub (.number ⟨3, 15⟩ (.int 1))) .sub
        (.name ⟨3, 19⟩ "a")))] ⟨1, 0⟩

theorem a_sum_of_powers_needs_no_table :
    ({} : Environment).IsReadable ∧ FunctionDef.mixing.IsNamed ∧
      ∃ ir, FunctionDef.mixing.compile {} = .ok ir ∧
        ir.render = "define$1$0(f$1$0, a$1$6, block$1$0(store$2$4(a$2$4, (a$2$4 + " ++
          "(-2 ** -(a$2$16)))), ((a$3$11 - 1) - a$3$19)))" ∧
        ∃ words tree, readAll ir.render.toList = some words ∧
          (∀ slot ∈ slots words, infixes slot ≤ 1) ∧
          ∀ table : OperatorTable, table.read? ir.render = some tree := by
  have named : FunctionDef.mixing.IsNamed := by decide +kernel
  refine ⟨Environment.isReadable_default, named, ?_⟩
  obtain ⟨ir, compiled⟩ : ∃ ir, FunctionDef.mixing.compile {} = .ok ir := ⟨_, rfl⟩
  obtain ⟨words, tree, read, slots, tables, _⟩ := grouped_text_needs_no_table_of_operators {}
    Environment.isReadable_default rfl .mixing named ir compiled
  refine ⟨ir, compiled, ?_, words, tree, read, slots, tables⟩
  cases compiled
  decide +kernel

end CallForm

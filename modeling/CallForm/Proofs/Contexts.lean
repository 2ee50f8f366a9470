-- The law of the context: what lowering one node may change in it. The
-- priority is restored, expressions leave everything as it is, and a
-- statement binds the names it assigns, or behind a failure those that it
-- came by.
import CallForm.Proofs.Moves
import CallForm.Proofs.Steps

namespace CallForm

/-! ## The names that moves bind -/

/-- None of the moves enters a function. -/
def EntersNone (moves : List Move) : Prop := ∀ definition, .enter definition ∉ moves

theorem entersNone_append {moves more : List Move} :
    EntersNone (moves ++ more) ↔ EntersNone moves ∧ EntersNone more := by
  simp only [EntersNone, List.mem_append, not_or, forall_and]

theorem entersNone_cons {move : Move} {rest : List Move} :
    EntersNone (move :: rest) ↔ EntersNone [move] ∧ EntersNone rest :=
  @entersNone_append [move] rest

theorem boundBy_append (moves more : List Move) :
    boundBy (moves ++ more) = boundBy moves ++ boundBy more := List.filterMap_append

/-- The names that moves bind, up to where they enter a function. `entering` tells whether they may
enter one; if they do not, the names are all that they bind. -/
structure Accounts (moves : List Move) (names : List String) (entering : Bool) : Prop where
  free : entering = false → EntersNone moves
  whole : EntersNone moves → boundBy moves = names
  part : ∀ earlier, earlier <+: moves → EntersNone earlier → boundBy earlier <+: names

namespace Accounts

theorem plain {moves : List Move} (h : EntersNone moves) :
    Accounts moves (boundBy moves) false where
  free := fun _ => h
  whole := fun _ => rfl
  part := fun _ first _ => first.filterMap _

theorem enter (definition : FunctionDef) (moves : List Move) :
    Accounts (.enter definition :: moves) [] true where
  free := fun h => nomatch h
  whole := fun h => absurd List.mem_cons_self (h definition)
  part := by
    intro earlier first free
    cases earlier with
    | nil => exact List.nil_prefix
    | cons move rest =>
      obtain ⟨rfl, -⟩ := List.cons_prefix_cons.mp first
      exact absurd List.mem_cons_self (free definition)

theorem append {moves more : List Move} {names others : List String} {entering later : Bool}
    (h : Accounts moves names entering) (h' : Accounts more others later) :
    Accounts (moves ++ more) (names ++ others) (entering || later) where
  free := by
    intro free
    rw [Bool.or_eq_false_iff] at free
    exact entersNone_append.mpr ⟨h.free free.1, h'.free free.2⟩
  whole := by
    intro free
    obtain ⟨first, second⟩ := entersNone_append.mp free
    rw [boundBy_append, h.whole first, h'.whole second]
  part := by
    intro earlier first free
    -- Either the moves end before `more` starts, or they hold all of those in front of it.
    obtain inside | ⟨rest, rfl⟩ :=
      List.prefix_or_prefix_of_prefix first (List.prefix_append moves more)
    · exact (h.part earlier inside free).trans (List.prefix_append names others)
    · obtain ⟨made, free⟩ := entersNone_append.mp free
      rw [boundBy_append, h.whole made]
      rw [List.prefix_append_right_inj] at first ⊢
      exact h'.part rest first free

theorem weaken {moves : List Move} {names : List String} {entering : Bool}
    (h : Accounts moves names entering) (more : Bool) :
    Accounts moves names (entering || more) where
  free := fun h' => h.free (Bool.or_eq_false_iff.mp h').1
  whole := h.whole
  part := h.part

/-- Moves that bind no name and enter no function account for nothing. -/
theorem silent {moves : List Move} (free : EntersNone moves) (unbound : boundBy moves = []) :
    Accounts moves [] false := unbound ▸ plain free

end Accounts

mutual

/-- Whether a function definition stands anywhere in a statement. -/
def Stmt.holdsFunction : Stmt → Bool
  | .function .. => true
  | .branch _ _ body orelse => Stmt.anyHoldsFunction body || Stmt.anyHoldsFunction orelse
  | .whileLoop _ _ body orelse => Stmt.anyHoldsFunction body || Stmt.anyHoldsFunction orelse
  | .forLoop _ _ _ body orelse => Stmt.anyHoldsFunction body || Stmt.anyHoldsFunction orelse
  | _ => false

/-- Whether a function definition stands anywhere in statements. -/
def Stmt.anyHoldsFunction : List Stmt → Bool
  | [] => false
  | stmt :: rest => stmt.holdsFunction || Stmt.anyHoldsFunction rest

end

theorem accounts_visit (walk : (Expr → String → Bool) → List (Place × Visit)) :
    Accounts [.visit walk] [] false :=
  .silent (by simp [EntersNone]) rfl

theorem Stmt.accounts_refusal (last : Bool) (stmt : Stmt) :
    Accounts (stmt.refusal last) [] false := by
  unfold refusal
  cases stmt.fault? last with
  | none => exact .silent (by simp [EntersNone]) rfl
  | some cause => exact .silent (by simp [EntersNone]) rfl

theorem accounts_assignMoves (pos : Position) (target value : Expr) :
    Accounts (assignMoves pos target value) (Stmt.assign pos target value).assigned false := by
  cases target with
  | name place id => exact .plain (by simp [EntersNone, assignMoves, Expr.visiting])
  | _ => exact accounts_visit _

mutual

/-- The names that a statement assigns account for its moves. -/
theorem Stmt.accounts_moves (last : Bool) : ∀ stmt : Stmt,
    Accounts (stmt.moves last) stmt.assigned stmt.holdsFunction
  | .function _ (.mk name params body pos) => by
    rw [Stmt.moves, FunctionDef.moves]
    exact .enter _ _
  | .assign pos target value => by
    rw [Stmt.moves]
    exact (Stmt.accounts_refusal _ _).append (accounts_assignMoves pos target value)
  | .augment pos target op value => by
    rw [Stmt.moves]
    exact (Stmt.accounts_refusal _ _).append (accounts_visit _)
  | .branch pos test body orelse => by
    have inside := (Stmt.accounts_movesIn last body).append (Stmt.accounts_movesIn last orelse)
    rw [Stmt.assignedIn, Stmt.assignedIn, ← List.map_append] at inside
    rw [Stmt.moves]
    exact (accounts_visit _).append inside
  | .whileLoop pos test body orelse => by
    rw [Stmt.moves]
    exact (Stmt.accounts_refusal _ _).append
      ((accounts_visit _).append ((Stmt.accounts_movesIn false body).weaken _))
  | .forLoop pos target iter body orelse => by
    have inside := (Stmt.accounts_movesIn false body).append
      (accounts_visit fun enters => iter.visits enters .first)
    rw [List.append_nil, Bool.or_false] at inside
    rw [Stmt.moves]
    exact (Stmt.accounts_refusal _ _).append ((accounts_visit _).append (inside.weaken _))
  | .ret pos value => by
    rw [Stmt.moves]
    exact (Stmt.accounts_refusal _ _).append (accounts_visit _)
  | .expr pos values => by
    rw [Stmt.moves]
    exact (Stmt.accounts_refusal _ _).append (accounts_visit _)
  | .unknown pos kind => by
    rw [Stmt.moves]
    exact Stmt.accounts_refusal _ _

theorem Stmt.accounts_movesIn (last : Bool) : ∀ stmts : List Stmt,
    Accounts (Stmt.movesIn last stmts) (Stmt.assignedIn stmts) (Stmt.anyHoldsFunction stmts)
  | [] => .silent (by simp [Stmt.movesIn, EntersNone]) rfl
  | stmt :: rest => by
    have both := (stmt.accounts_moves (last && rest.isEmpty)).append
      (Stmt.accounts_movesIn last rest)
    rw [Stmt.assigned, Stmt.assignedIn, ← List.map_append] at both
    rw [Stmt.movesIn]
    exact both

end

/-! ## Where moves stop -/

theorem Context.binding_binding (ctx : Context) (names more : List String) :
    (ctx.binding names).binding more = ctx.binding (names ++ more) := by
  simp [Context.binding]

/-- The moves of `earlier` are made and bind their names, and the move behind them fails. -/
structure StopsAt (ctx : Context) (moves earlier : List Move) (cause : LowerError) : Prop where
  made : ctx.follow earlier = (none, ctx.binding (boundBy earlier))
  failed : ∃ move later, moves = earlier ++ move :: later ∧
    move.run (ctx.binding (boundBy earlier)) = .error cause

theorem StopsAt.follow {ctx : Context} {moves earlier : List Move} {cause : LowerError}
    (h : StopsAt ctx moves earlier cause) :
    ctx.follow moves = (some cause, ctx.binding (boundBy earlier)) := by
  obtain ⟨move, later, rfl, failed⟩ := h.failed
  rw [Context.follow_append, h.made]
  dsimp only
  rw [Context.follow, failed]

/-- A move that enters no function leaves the context with its name bound. -/
theorem Move.run_eq_ok {ctx after : Context} {move : Move} (h : move.run ctx = .ok after)
    (stays : ctx.inFunction = true ∨ EntersNone [move]) :
    EntersNone [move] ∧ after = ctx.binding (boundBy [move]) := by
  cases move with
  | visit walk =>
    rw [run] at h
    split at h
    · cases h
      exact ⟨by simp [EntersNone], rfl⟩
    · cases h
  | bind name =>
    cases h
    exact ⟨by simp [EntersNone], rfl⟩
  | enter definition =>
    obtain inside | free := stays
    · rw [run, if_pos inside] at h
      cases h
    · exact absurd List.mem_cons_self (free definition)
  | refuse cause => cases h

/-- Moves behind one that is made go on with its name bound. -/
theorem Context.follow_cons {ctx : Context} {move : Move} {rest : List Move}
    {failure : Option LowerError} {names : List String}
    (run : move.run ctx = .ok (ctx.binding (boundBy [move])))
    (h : (ctx.binding (boundBy [move])).follow rest =
      (failure, (ctx.binding (boundBy [move])).binding names)) :
    ctx.follow (move :: rest) = (failure, ctx.binding (boundBy [move] ++ names)) := by
  rw [follow, run, ← binding_binding]
  exact h

theorem StopsAt.cons {ctx : Context} {move : Move} {rest earlier : List Move} {cause : LowerError}
    (run : move.run ctx = .ok (ctx.binding (boundBy [move])))
    (h : StopsAt (ctx.binding (boundBy [move])) rest earlier cause) :
    StopsAt ctx (move :: rest) (move :: earlier) cause := by
  have names : boundBy (move :: earlier) = boundBy [move] ++ boundBy earlier :=
    boundBy_append [move] earlier
  obtain ⟨last, later, rfl, failed⟩ := h.failed
  rw [Context.binding_binding, ← names] at failed
  refine ⟨?_, last, later, rfl, failed⟩
  rw [names]
  exact Context.follow_cons run h.made

/-- Inside a function, or without entering one, moves do nothing but to bind names: either all are
made, or they stop at the first that fails. -/
theorem Context.follow_cases (moves : List Move) (ctx : Context)
    (stays : ctx.inFunction = true ∨ EntersNone moves) :
    EntersNone moves ∧ ctx.follow moves = (none, ctx.binding (boundBy moves)) ∨
      ∃ earlier cause, EntersNone earlier ∧ StopsAt ctx moves earlier cause := by
  induction moves generalizing ctx with
  | nil => exact .inl ⟨by simp [EntersNone], rfl⟩
  | cons move rest ih =>
    have stays' : ctx.inFunction = true ∨ EntersNone [move] ∧ EntersNone rest :=
      stays.imp_right entersNone_cons.mp
    cases run : move.run ctx with
    | error cause =>
      exact .inr ⟨[], cause, by simp [EntersNone], rfl, move, rest, rfl, run⟩
    | ok after =>
      obtain ⟨first, rfl⟩ := Move.run_eq_ok run (stays'.imp_right And.left)
      obtain ⟨others, all⟩ | ⟨earlier, cause, free, stops⟩ :=
        ih (ctx.binding (boundBy [move])) (stays'.imp_right And.right)
      · left
        refine ⟨entersNone_cons.mpr ⟨first, others⟩, ?_⟩
        rw [follow_cons run all, ← boundBy_append]
        rfl
      · right
        exact ⟨move :: earlier, cause, entersNone_cons.mpr ⟨first, free⟩, stops.cons run⟩

/-! ## What lowering leaves -/

/-- Lowering does nothing to a context but to bind names: all of `assigned` if it succeeds, and
behind a failure those of the moves in front of the one that fails. A name is bound in front of
its value, so if the value fails the name is among them. -/
inductive Binds (ctx : Context) (assigned : List String) (moves : List Move) :
    Except LowerError Ir × Context → Prop
  | succeeded {form : Ir} : ctx.follow moves = (none, ctx.binding assigned) →
      Binds ctx assigned moves (.ok form, ctx.binding assigned)
  | failed {earlier : List Move} {cause : LowerError} : StopsAt ctx moves earlier cause →
      boundBy earlier <+: assigned →
        Binds ctx assigned moves (.error cause, ctx.binding (boundBy earlier))

theorem binds_of_follow {ctx : Context} {assigned : List String} {moves : List Move}
    {entering : Bool} {found : Except LowerError Ir × Context}
    (accounts : Accounts moves assigned entering)
    (stays : ctx.inFunction = true ∨ entering = false)
    (h : found.2 = (ctx.follow moves).2 ∧ Judged (ctx.follow moves).1.toList found.1) :
    Binds ctx assigned moves found := by
  obtain ⟨result, after⟩ := found
  obtain ⟨reached, judged⟩ := h
  dsimp only at reached judged
  subst reached
  obtain ⟨free, all⟩ | ⟨earlier, cause, free, stops⟩ :=
    ctx.follow_cases moves (stays.imp_right accounts.free)
  · rw [accounts.whole free] at all
    rw [all] at judged ⊢
    obtain ⟨form, rfl⟩ := judged
    exact .succeeded all
  · obtain ⟨move, later, parted, -⟩ := stops.failed
    have named := accounts.part earlier (parted ▸ List.prefix_append _ _) free
    rw [stops.follow] at judged ⊢
    cases judged
    exact .failed stops named

/-- The statement that a node stands for, and whether it may return. -/
def Node.stmt? (allowReturn : Bool) : Node → Option (Stmt × Bool)
  | .program value => value.body.head?.map (·, false)
  | .stmt value => some (value, allowReturn)
  | _ => none

/-- The function definition that a node stands for. -/
def Node.definition? : Node → Option FunctionDef
  | .program value => value.body.head?.bind Stmt.definition?
  | .function value => some value
  | .stmt value => value.definition?
  | _ => none

theorem Node.moves_of_stmt? {node : Node} {allow last : Bool} {stmt : Stmt}
    (h : node.stmt? allow = some (stmt, last)) : node.moves allow = stmt.moves last := by
  cases node with
  | program value =>
    obtain ⟨body, imports⟩ := value
    cases body with
    | nil => cases h
    | cons first rest =>
      cases h
      rfl
  | stmt value =>
    cases h
    rfl
  | _ => cases h

theorem Stmt.moves_of_definition? {stmt : Stmt} {definition : FunctionDef} (last : Bool)
    (h : stmt.definition? = some definition) : stmt.moves last = definition.moves := by
  cases stmt with
  | function pos value =>
    cases h
    rw [moves]
  | _ => cases h

theorem Node.moves_of_definition? {node : Node} {definition : FunctionDef} (allow : Bool)
    (h : node.definition? = some definition) : node.moves allow = definition.moves := by
  cases node with
  | program value =>
    obtain ⟨body, imports⟩ := value
    cases body with
    | nil => cases h
    | cons first rest => exact first.moves_of_definition? false h
  | function value =>
    cases h
    rfl
  | stmt value => exact value.moves_of_definition? allow h
  | _ => cases h

theorem FunctionDef.follow_moves (definition : FunctionDef) (ctx : Context) :
    ctx.follow definition.moves =
      if ctx.inFunction then (some (.unsupportedNode "FunctionDef" definition.pos), ctx)
      else (ctx.entering definition).follow (Stmt.movesIn true definition.body) := by
  obtain ⟨name, params, body, pos⟩ := definition
  rw [moves, Context.follow, Move.run]
  cases ctx.inFunction <;> rfl

/-- The context that nodes leave, lowered through it one after another, failures included. -/
def Context.lowering (ctx : Context) (nodes : List (Node × Bool)) : Context :=
  nodes.foldl (fun ctx (node, allow) => ((node.step allow).runOn ctx).2) ctx

/-- The context that the moves of nodes reach, one node after another. -/
def Context.following (ctx : Context) (nodes : List (Node × Bool)) : Context :=
  nodes.foldl (fun ctx (node, allow) => (ctx.follow (node.moves allow)).2) ctx

theorem Node.follows_step (allow : Bool) (node : Node) :
    (node.step allow).Follows (node.moves allow) := by
  rw [node.step_eq]
  exact node.follows_lower allow

theorem Context.lowering_eq (nodes : List (Node × Bool)) (ctx : Context) :
    ctx.lowering nodes = ctx.following nodes := by
  induction nodes generalizing ctx with
  | nil => rfl
  | cons first rest ih =>
    obtain ⟨node, allow⟩ := first
    have reached := (node.follows_step allow ctx).1
    change (((node.step allow).runOn ctx).2).lowering rest =
      (ctx.follow (node.moves allow)).2.following rest
    rw [reached]
    exact ih _

/-! ## The law -/

/-- Lowering a node with the priority kept in the context is the lowering that runs, and restores
the priority whether it fails or not. Expressions, slices and dimensions leave the whole context
as it is. A statement inside a function, or without a function in it, binds the names that it
assigns, or those that it came by if it fails. A function inside a function fails and changes
nothing; elsewhere it is entered, and its parameters and what its body binds are the new scope.
So the context behind any nodes in a row is told by their moves. -/
theorem lowering_restores_the_priority_and_binds_what_it_came_by (ctx : Context) (allow : Bool) :
    (∀ node : Node, node.step allow = node.lower allow ∧
      ((node.step allow).runOn ctx).2.env = ctx.env ∧
      ((node.step allow).runOn ctx).2.priority = ctx.priority) ∧
    (∀ value : Expr, (((Node.expr value).step allow).runOn ctx).2 = ctx) ∧
    (∀ bounds : Slice, (((Node.slice bounds).step allow).runOn ctx).2 = ctx) ∧
    (∀ (parts : List Dim) (pos : Position),
      (((Node.dims parts pos).step allow).runOn ctx).2 = ctx) ∧
    (∀ (node : Node) (stmt : Stmt) (last : Bool), node.stmt? allow = some (stmt, last) →
      ctx.inFunction = true ∨ stmt.holdsFunction = false →
        Binds ctx stmt.assigned (stmt.moves last) ((node.step allow).runOn ctx)) ∧
    (∀ (node : Node) (definition : FunctionDef), node.definition? = some definition →
      (ctx.inFunction = true → (node.step allow).runOn ctx =
        (.error (.unsupportedNode "FunctionDef" definition.pos), ctx)) ∧
      (ctx.inFunction = false →
        Binds (ctx.entering definition) (Stmt.assignedIn definition.body)
          (Stmt.movesIn true definition.body) ((node.step allow).runOn ctx))) ∧
    ∀ nodes : List (Node × Bool), ctx.lowering nodes = ctx.following nodes := by
  refine ⟨?_, ?_, ?_, ?_, ?_, ?_, ?_⟩
  · intro node
    have reached := (node.follows_step allow ctx).1
    rw [reached]
    exact ⟨node.step_eq allow, Context.env_priority_follow _ ctx⟩
  · intro value
    rw [Node.step_eq]
    rfl
  · intro bounds
    rw [Node.step_eq]
    rfl
  · intro parts pos
    rw [Node.step_eq]
    rfl
  · intro node stmt last stands stays
    have followed := node.follows_step allow ctx
    rw [Node.moves_of_stmt? stands] at followed
    exact binds_of_follow (stmt.accounts_moves last) stays followed
  · intro node definition stands
    have followed := node.follows_step allow ctx
    rw [Node.moves_of_definition? allow stands, definition.follow_moves] at followed
    constructor
    · intro inside
      rw [if_pos inside] at followed
      obtain ⟨reached, failed⟩ := followed
      exact Prod.ext failed reached
    · intro outside
      rw [if_neg (Bool.eq_false_iff.mp outside)] at followed
      exact binds_of_follow (Stmt.accounts_movesIn true definition.body) (.inl rfl) followed
  · intro nodes
    exact Context.lowering_eq nodes ctx

/-- A branch that fails in its second assignment of three, in line 5:
`if a: x = 1; else: y = z.shape; u = x`, a line each. -/
def Stmt.halfway : Stmt :=
  .branch ⟨2, 4⟩ (.name ⟨2, 7⟩ "a")
    [.assign ⟨3, 8⟩ (.name ⟨3, 8⟩ "x") (.number ⟨3, 12⟩ (.int 1))]
    [.assign ⟨5, 8⟩ (.name ⟨5, 8⟩ "y") (.attribute ⟨5, 12⟩ (.name ⟨5, 12⟩ "z") "shape"),
      .assign ⟨6, 8⟩ (.name ⟨6, 8⟩ "u") (.name ⟨6, 12⟩ "x")]

/-- A function `f(a)` of that branch. -/
def FunctionDef.halfway : FunctionDef := .mk "f" [⟨"a", ⟨1, 6⟩⟩] [.halfway] ⟨1, 0⟩

theorem a_name_is_bound_although_its_value_fails :
    Binds (.inBody {} .empty) ["x", "y", "u"] (Stmt.halfway.moves false)
        (((Node.stmt .halfway).step false).runOn (.inBody {} .empty)) ∧
      ((Node.stmt .halfway).step false).runOn (.inBody {} .empty) =
        (.error (.unresolvableReference "z" "shape" 5),
          (Context.inBody {} .empty).binding ["x", "y"]) ∧
      ((Node.function .halfway).step false).runOn (.inBody {} .empty) =
        (.error (.unsupportedNode "FunctionDef" ⟨1, 0⟩), .inBody {} .empty) ∧
      Binds (.inBody {} (.ofParams ["a"])) ["x", "y", "u"] (Stmt.movesIn true [.halfway])
        (((Node.function .halfway).step false).runOn { env := {} }) := by
  obtain ⟨-, -, -, -, stmts, functions, -⟩ :=
    lowering_restores_the_priority_and_binds_what_it_came_by (.inBody {} .empty) false
  obtain ⟨-, -, -, -, -, outside, -⟩ :=
    lowering_restores_the_priority_and_binds_what_it_came_by { env := {} } false
  refine ⟨?_, rfl, ?_, ?_⟩
  · exact stmts (.stmt .halfway) .halfway false rfl (.inl rfl)
  · exact (functions (.function .halfway) .halfway rfl).1 rfl
  · exact (outside (.function .halfway) .halfway rfl).2 rfl

end CallForm

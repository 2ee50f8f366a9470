-- Where tags come from. Every tag of compiled form is the place of a part
-- of the function that its symbol belongs to, and a failure is reported at
-- the place of a part. One walk over the tree shows both, since the parts
-- at hand are the same whether a step fails or not.
import CallForm.Proofs.Body
import CallForm.Proofs.Sourced

namespace CallForm

-- What a mutual proof only hands on to itself passes for unused.
set_option linter.unusedSectionVars false

/-! ## Expressions -/

section

variable {env : Environment} {origins : List Origin} {good : Ir → Prop}
  (builds : Builds env origins good) (scope : Scope)

theorem BinaryOperator.traced_compile (op : BinaryOperator) {origin : Origin}
    (h : origin ∈ origins) :
    Traced origins (fun _ => True) (op.compile origin.pos.line) := by
  unfold compile
  cases op.compiled? with
  | none => exact ⟨origin, h, rfl⟩
  | some operator => trivial

theorem UnaryOperator.traced_compile (op : UnaryOperator) {origin : Origin}
    (h : origin ∈ origins) :
    Traced origins (fun _ => True) (op.compile origin.pos.line) := by
  unfold compile
  cases op.compiled? with
  | none => exact ⟨origin, h, rfl⟩
  | some operator => trivial

theorem Comparison.traced_compile (op : Comparison) {origin : Origin}
    (h : origin ∈ origins) :
    Traced origins (fun _ => True) (op.compile origin.pos.line) := by
  unfold compile
  cases op.compiled? with
  | none => exact ⟨origin, h, rfl⟩
  | some operator => trivial

include builds

theorem traced_receiverOf {origin : Origin} (h : origin ∈ origins) (object : Expr)
    (member : String) (hobject : object.origins ⊆ origins) {lowered : Except LowerError Ir}
    (hlowered : Traced origins good lowered) :
    Traced origins (AllOf good)
      (receiverOf env scope origin.pos object member lowered) := by
  have self := hobject object.self_mem_origins
  unfold receiverOf
  cases object with
  | name place id =>
    dsimp only
    split
    · exact .cons (builds.tagged self List.mem_cons_self) .nil
    · split
      · exact .nil
      · exact ⟨origin, h, rfl⟩
  | «attribute» place inner middle =>
    dsimp only
    split
    · exact .nil
    · exact ⟨origin, h, rfl⟩
  | _ =>
    cases lowered with
    | error cause => exact hlowered
    | ok form => exact .cons hlowered .nil

mutual

/-- Lowering an expression tags with places of its parts and reports at places of its parts. -/
theorem Expr.traced_lower (priority : Nat) : ∀ value : Expr, value.origins ⊆ origins →
    Traced origins good (value.lower env scope priority)
  | .name pos id, h => builds.tagged (h List.mem_cons_self) List.mem_cons_self
  | .number _ value, _ => builds.number value
  | .string _ value, h => builds.string (h List.mem_cons_self)
  | .constant pos value, h => builds.tagged (h List.mem_cons_self) List.mem_cons_self
  | .binary pos left op right, h => by
    rw [Expr.origins, List.cons_subset, List.append_subset] at h
    obtain ⟨self, hleft, hright⟩ := h
    rw [Expr.lower]
    apply (op.traced_compile self).bind
    intro operator _
    apply (left.traced_lower _ hleft).bind
    intro lhs hlhs
    apply (right.traced_lower _ hright).done
    refine fun rhs hrhs => builds.between operator (fun aggressively => ?_) hlhs hrhs
    rw [aggressively, Bool.true_or]
  | .unary pos op operand, h => by
    rw [Expr.origins, List.cons_subset] at h
    obtain ⟨self, hoperand⟩ := h
    rw [Expr.lower]
    apply (op.traced_compile self).bind
    intro operator _
    apply (operand.traced_lower _ hoperand).done
    intro inner hinner
    have written :
        good (.before operator inner (env.groupAggressively || operand.isOperation)) := by
      refine builds.before operator (fun aggressively => ?_) hinner
      rw [aggressively, Bool.true_or]
    split
    · exact builds.group written
    · exact written
  | .compare pos left [op] [right], h => by
    rw [Expr.origins, List.cons_subset, List.append_subset] at h
    obtain ⟨self, hleft, hright⟩ := h
    rw [Expr.originsIn, Expr.originsIn, List.append_nil] at hright
    rw [Expr.lower]
    apply (op.traced_compile self).bind
    intro operator _
    apply (left.traced_lower _ hleft).bind
    intro lhs hlhs
    apply (right.traced_lower _ hright).done
    exact fun rhs hrhs => builds.between operator (fun _ => rfl) hlhs hrhs
  | .compare _ _ [] _, h | .compare _ _ (_ :: _ :: _) _, h | .compare _ _ [_] [], h
  | .compare _ _ [_] (_ :: _ :: _), h => ⟨_, h List.mem_cons_self, rfl⟩
  | .call pos callee args, h => by
    rw [Expr.origins, List.cons_subset, List.append_subset] at h
    obtain ⟨self, hcallee, hargs⟩ := h
    have lowered := Expr.traced_lowerAll 0 args hargs
    cases callee with
    | name place id =>
      rw [Expr.lower]
      exact lowered.done fun _ hforms => builds.taggedCall self List.mem_cons_self hforms
    | «attribute» place object member =>
      rw [Expr.origins, List.cons_subset] at hcallee
      obtain ⟨self', hobject⟩ := hcallee
      rw [Expr.lower]
      apply (traced_receiverOf builds scope self' object member hobject
        (object.traced_lower 0 hobject)).bind
      intro receiver hreceiver
      exact lowered.done fun _ hforms =>
        builds.taggedCall self' List.mem_cons_self (hreceiver.append hforms)
    | _ =>
      exact ⟨_, hcallee (Expr.self_mem_origins _), rfl⟩
  | .attribute pos object member, h => by
    rw [Expr.origins, List.cons_subset] at h
    obtain ⟨self, hobject⟩ := h
    rw [Expr.lower]
    apply (traced_receiverOf builds scope self object member hobject
      (object.traced_lower 0 hobject)).done
    exact fun _ hreceiver => builds.taggedCall self List.mem_cons_self hreceiver
  | .subscript pos base index, h => by
    rw [Expr.origins, List.cons_subset, List.append_subset] at h
    obtain ⟨self, hbase, hindex⟩ := h
    rw [Expr.lower]
    apply (base.traced_lower 0 hbase).bind
    intro base' hbase'
    apply (index.traced_lower self hindex).done
    exact fun _ hselector =>
      builds.taggedCall self List.mem_cons_self (.cons hbase' (.cons hselector .nil))
  | .list pos items, h => by
    rw [Expr.origins, List.cons_subset] at h
    rw [Expr.lower]
    apply (Expr.traced_lowerAll 0 items h.2).done
    exact fun _ hforms => builds.taggedCall h.1 List.mem_cons_self hforms
  | .tuple pos items, h => by
    rw [Expr.origins, List.cons_subset] at h
    rw [Expr.lower]
    exact (Expr.traced_lowerAll 0 items h.2).done fun _ hforms => builds.sequence hforms
  | .lambda pos params body, h => by
    rw [Expr.origins, List.cons_subset, List.append_subset] at h
    obtain ⟨self, hparams, hbody⟩ := h
    rw [Expr.lower]
    apply (body.traced_lower 0 hbody).done
    intro inner hinner
    have closed : good (Ir.bareCall Primitive.block [inner]) :=
      builds.bareCall (by decide) (.cons hinner .nil)
    exact builds.taggedCall self List.mem_cons_self
      (.append (builds.params hparams) (.cons closed .nil))
  | .unknown pos kind, h => ⟨_, h List.mem_cons_self, rfl⟩

theorem Expr.traced_lowerAll (priority : Nat) : ∀ values : List Expr,
    Expr.originsIn values ⊆ origins →
      Traced origins (AllOf good) (Expr.lowerAll env scope priority values)
  | [], _ => .nil
  | value :: rest, h => by
    rw [Expr.originsIn, List.append_subset] at h
    rw [Expr.lowerAll]
    apply (value.traced_lower _ h.1).bind
    intro first hfirst
    exact (Expr.traced_lowerAll _ rest h.2).done fun _ hforms => .cons hfirst hforms

theorem Expr.traced_lowerBound (priority : Nat) {absent : Ir}
    (habsent : good absent) : ∀ bound : Option Expr, Expr.originsOf bound ⊆ origins →
      Traced origins good (Expr.lowerBound env scope priority absent bound)
  | none, _ => habsent
  | some bound, h => bound.traced_lower priority h

theorem Index.traced_lower {origin : Origin} (place : origin ∈ origins) : ∀ index : Index,
    index.origins ⊆ origins →
      Traced origins good (index.lower env scope origin.pos)
  | .item value, h => value.traced_lower 0 h
  | .slice bounds, h => bounds.traced_lower 0 h
  | .dims [first, second], h => by
    rw [Index.origins, Dim.originsIn, Dim.originsIn, Dim.originsIn, List.append_nil,
      List.append_subset] at h
    rw [Index.lower]
    apply (first.traced_lower 0 h.1).bind
    intro row hrow
    apply (second.traced_lower 0 h.2).done
    exact fun _ hcolumn => builds.sequence (.cons hrow (.cons hcolumn .nil))
  | .dims [], _ | .dims [_], _ | .dims (_ :: _ :: _ :: _), _ => ⟨origin, place, rfl⟩

theorem Dim.traced_lower (priority : Nat) : ∀ dim : Dim, dim.origins ⊆ origins →
    Traced origins good (dim.lower env scope priority)
  | .item value, h => value.traced_lower priority h
  | .slice bounds, h => bounds.traced_lower priority h

theorem Slice.traced_lower (priority : Nat) : ∀ bounds : Slice, bounds.origins ⊆ origins →
    Traced origins good (bounds.lower env scope priority)
  | .mk lower upper none _, h => by
    rw [Slice.origins, List.append_subset, List.append_subset] at h
    rw [Slice.lower]
    apply (Expr.traced_lowerBound _ (builds.number _) lower h.1).bind
    intro low hlow
    apply (Expr.traced_lowerBound _ builds.nil upper h.2.1).done
    exact fun _ hhigh => builds.bareCall (by decide) (.cons hlow (.cons hhigh .nil))
  | .mk lower upper (some step) _, h => by
    rw [Slice.origins, List.append_subset, List.append_subset] at h
    rw [Slice.lower]
    apply (Expr.traced_lowerBound _ (builds.number _) lower h.1).bind
    intro low hlow
    apply (Expr.traced_lowerBound _ builds.nil upper h.2.1).bind
    intro high hhigh
    apply (step.traced_lower _ h.2.2).done
    exact fun _ hstep => builds.bareCall (by decide) (.cons hlow (.cons hhigh (.cons hstep .nil)))

end

theorem Index.traced_lowerTarget (priority : Nat) {origin : Origin} (place : origin ∈ origins) :
    ∀ index : Index, index.origins ⊆ origins →
      Traced origins (AllOf good)
        (index.lowerTarget env scope priority origin.pos.line)
  | .item value, h => by
    have zero : good Ir.zero := builds.number _
    cases value with
    | tuple pos items =>
      rw [Index.origins, Expr.origins, List.cons_subset] at h
      match items with
      | [row, column] =>
        rw [Expr.originsIn, Expr.originsIn, Expr.originsIn, List.append_nil,
          List.append_subset] at h
        apply (row.traced_lower builds scope priority h.2.1).bind
        intro row' hrow
        apply (column.traced_lower builds scope priority h.2.2).done
        intro column' hcolumn
        exact .cons hrow (.cons zero (.cons zero (.cons hcolumn (.cons zero (.cons zero .nil)))))
      | [] | [_] | _ :: _ :: _ :: _ => exact ⟨origin, place, rfl⟩
    | _ =>
      apply (Expr.traced_lower builds scope priority _ h).done
      intro item hitem
      exact .cons hitem (.cons zero (.cons zero (.cons zero (.cons zero (.cons zero .nil)))))
  | .slice (.mk lower upper none pos), h => by
    have zero : good Ir.zero := builds.number _
    have one : good Ir.one := builds.number _
    rw [Index.origins, Slice.origins, List.append_subset, List.append_subset] at h
    apply (Expr.traced_lowerBound builds scope priority zero lower h.1).bind
    intro low hlow
    apply (Expr.traced_lowerBound builds scope priority zero upper h.2.1).done
    intro high hhigh
    exact .cons hlow (.cons hhigh (.cons one (.cons zero (.cons zero (.cons zero .nil)))))
  | .slice (.mk _ _ (some _) _), _ => ⟨origin, place, rfl⟩
  | .dims [.slice (.mk rowLow rowHigh none pos), .slice (.mk columnLow columnHigh none pos')],
      h => by
    have zero : good Ir.zero := builds.number _
    have one : good Ir.one := builds.number _
    simp only [Index.origins, Dim.originsIn, Dim.origins, Slice.origins, Expr.originsOf,
      List.append_nil, List.append_subset] at h
    obtain ⟨⟨hrowLow, hrowHigh⟩, hcolumnLow, hcolumnHigh⟩ := h
    apply (Expr.traced_lowerBound builds scope priority zero rowLow hrowLow).bind
    intro low hlow
    apply (Expr.traced_lowerBound builds scope priority builds.nil rowHigh hrowHigh).bind
    intro high hhigh
    apply (Expr.traced_lowerBound builds scope priority zero columnLow hcolumnLow).bind
    intro left hleft
    apply (Expr.traced_lowerBound builds scope priority builds.nil columnHigh hcolumnHigh).done
    intro right hright
    exact .cons hlow (.cons hhigh (.cons one (.cons hleft (.cons hright (.cons one .nil)))))
  | .dims [], _ | .dims (.item _ :: _), _ | .dims (.slice (.mk _ _ (some _) _) :: _), _
  | .dims [.slice (.mk _ _ none _)], _ | .dims (.slice (.mk _ _ none _) :: .item _ :: _), _
  | .dims (.slice (.mk _ _ none _) :: .slice (.mk _ _ (some _) _) :: _), _
  | .dims (.slice (.mk _ _ none _) :: .slice (.mk _ _ none _) :: _ :: _), _ =>
    ⟨origin, place, rfl⟩

/-! ## Statements -/

theorem traced_assignForm (pos : Position) (target value : Expr)
    (h : (Stmt.assign pos target value).origins ⊆ origins) :
    Traced origins good (assignForm env scope pos target value) := by
  rw [Stmt.origins, List.cons_subset, List.append_subset] at h
  obtain ⟨self, htarget, hvalue⟩ := h
  cases target with
  | name place id =>
    have written := htarget (Expr.self_mem_origins (.name place id))
    have belongs : (scope.bindingOf id).primitive ∈
        (Origin.stmt (.assign pos (.name place id) value)).heads env := by
      cases scope.bindingOf id <;> simp [Binding.primitive, Origin.heads]
    apply (value.traced_lower builds (scope.bind id) 0 hvalue).done
    intro form hform
    exact builds.taggedCall self belongs
      (.cons (builds.tagged written List.mem_cons_self) (.cons hform .nil))
  | subscript place base index =>
    rw [Expr.origins, List.cons_subset, List.append_subset] at htarget
    apply (base.traced_lower builds scope 0 htarget.2.1).bind
    intro base' hbase
    apply (index.traced_lowerTarget builds scope 0 self htarget.2.2).bind
    intro parts hparts
    apply (value.traced_lower builds scope 0 hvalue).done
    intro form hform
    exact builds.bareCall (by decide) (.cons hbase (hparts.append (.cons hform .nil)))
  | _ => exact ⟨_, self, rfl⟩

theorem traced_augmentForm (pos : Position) (target : Expr) (op : BinaryOperator) (value : Expr)
    (h : (Stmt.augment pos target op value).origins ⊆ origins) :
    Traced origins good (augmentForm env scope pos target op value) := by
  rw [Stmt.origins, List.cons_subset, List.append_subset] at h
  obtain ⟨self, htarget, hvalue⟩ := h
  unfold augmentForm
  split
  · cases target with
    | name place id =>
      have written : good (Ir.tagged place id) :=
        builds.tagged (htarget (Expr.self_mem_origins (.name place id))) List.mem_cons_self
      apply (value.traced_lower builds scope _ hvalue).done
      intro form hform
      have sum : good (.between (Ir.tagged place id) .add form env.groupAggressively) :=
        builds.between .add (fun aggressively => aggressively) written hform
      exact builds.taggedCall self List.mem_cons_self (.cons written (.cons sum .nil))
    | _ => exact ⟨_, self, rfl⟩
  · exact ⟨_, self, rfl⟩

theorem traced_returnForm (pos : Position) (value : Option Expr) (allowed : Bool)
    (h : (Stmt.ret pos value).origins ⊆ origins) :
    Traced origins good (returnForm env scope pos value allowed) := by
  rw [Stmt.origins, List.cons_subset] at h
  obtain ⟨self, hvalue⟩ := h
  cases allowed with
  | false => exact ⟨_, self, rfl⟩
  | true =>
    cases value with
    | none => exact builds.tagged self List.mem_cons_self
    | some value => exact value.traced_lower builds scope 0 hvalue

theorem traced_exprForm (pos : Position) (values : List Expr)
    (h : (Stmt.expr pos values).origins ⊆ origins) :
    Traced origins good (exprForm env scope pos values) := by
  rw [Stmt.origins, List.cons_subset] at h
  obtain ⟨self, hvalues⟩ := h
  match values with
  | [value] =>
    rw [Expr.originsIn, Expr.originsIn, List.append_nil] at hvalues
    exact (value.traced_lower builds scope 0 hvalues).done fun _ hform => builds.group hform
  | [] | _ :: _ :: _ => exact ⟨_, self, rfl⟩

end

section

variable {env : Environment} {origins : List Origin} {good : Ir → Prop}
  (builds : Builds env origins good)

include builds

mutual

/-- Compiling a statement tags with places of its parts and reports at places of its parts. -/
theorem Stmt.traced_form (allow : Bool) : ∀ (stmt : Stmt) (scope : Scope),
    stmt.origins ⊆ origins →
      Traced origins good (stmt.form env scope allow)
  | .function pos definition, scope, h => by
    rw [Stmt.origins, List.cons_subset] at h
    rw [form_function]
    exact ⟨_, h.2 definition.self_mem_origins, rfl⟩
  | .assign pos target value, scope, h => by
    rw [form_assign]
    exact traced_assignForm builds scope pos target value h
  | .augment pos target op value, scope, h => by
    rw [form_augment]
    exact traced_augmentForm builds scope pos target op value h
  | .branch pos test body orelse, scope, h => by
    rw [Stmt.origins, List.cons_subset, List.append_subset, List.append_subset] at h
    obtain ⟨self, htest, hbody, horelse⟩ := h
    have belongs : Primitive.block ∈ (Origin.stmt (.branch pos test body orelse)).heads env :=
      List.mem_cons_of_mem _ List.mem_cons_self
    rw [form_branch]
    apply (test.traced_lower builds scope 0 htest).bind
    intro condition hcondition
    apply (Stmt.traced_forms allow body scope hbody).bind
    intro forms hforms
    apply (Stmt.traced_forms allow orelse _ horelse).done
    intro others hothers
    have passed := builds.block hforms self belongs
    have failed := builds.block hothers self belongs
    exact builds.taggedCall self List.mem_cons_self
      (.cons hcondition (.cons passed (.cons failed .nil)))
  | .whileLoop pos test body orelse, scope, h => by
    rw [Stmt.origins, List.cons_subset, List.append_subset, List.append_subset] at h
    obtain ⟨self, htest, hbody, horelse⟩ := h
    have belongs : Primitive.block ∈
        (Origin.stmt (.whileLoop pos test body orelse)).heads env :=
      List.mem_cons_of_mem _ List.mem_cons_self
    rw [form_whileLoop]
    split
    · apply (test.traced_lower builds scope 0 htest).bind
      intro condition hcondition
      apply (Stmt.traced_forms false body scope hbody).done
      intro forms hforms
      exact builds.taggedCall self List.mem_cons_self
        (.cons hcondition (.cons (builds.block hforms self belongs) .nil))
    · exact ⟨_, self, rfl⟩
  | .forLoop pos target iter body orelse, scope, h => by
    rw [Stmt.origins, List.cons_subset, List.cons_subset, List.append_subset, List.append_subset,
      List.append_subset] at h
    obtain ⟨self, sequence, htarget, hiter, hbody, horelse⟩ := h
    rw [form_forLoop]
    split
    · apply (target.traced_lower builds scope 0 htarget).bind
      intro item hitem
      apply (Stmt.traced_forms false body scope hbody).bind
      intro forms hforms
      apply (iter.traced_lower builds _ 0 hiter).done
      intro iterable hiterable
      have block : good (Ir.bareCall Primitive.block forms) :=
        builds.bareCall (by decide) hforms
      have closure : good (Ir.taggedCall iter.pos Primitive.lambda
          [item, Ir.bareCall Primitive.block forms]) :=
        builds.taggedCall sequence List.mem_cons_self (.cons hitem (.cons block .nil))
      exact builds.taggedCall self List.mem_cons_self (.cons closure (.cons hiterable .nil))
    · exact ⟨_, self, rfl⟩
  | .ret pos value, scope, h => by
    rw [form_ret]
    exact traced_returnForm builds scope pos value allow h
  | .expr pos values, scope, h => by
    rw [form_expr]
    exact traced_exprForm builds scope pos values h
  | .unknown pos kind, scope, h => by
    rw [form_unknown]
    exact ⟨_, h List.mem_cons_self, rfl⟩

theorem Stmt.traced_forms (allow : Bool) : ∀ (stmts : List Stmt) (scope : Scope),
    Stmt.originsIn stmts ⊆ origins →
      Traced origins (AllOf good) (Stmt.forms env scope allow stmts)
  | [], scope, _ => by
    rw [forms_nil]
    exact .nil
  | stmt :: rest, scope, h => by
    rw [Stmt.originsIn, List.append_subset] at h
    rw [forms_cons]
    apply (Stmt.traced_form _ stmt scope h.1).bind
    intro first hfirst
    exact (Stmt.traced_forms allow rest _ h.2).done fun _ hforms => .cons hfirst hforms

end

end

/-! ## Functions -/

theorem FunctionDef.traced_compile {env : Environment} {origins : List Origin} {good : Ir → Prop}
    (builds : Builds env origins good) :
    ∀ definition : FunctionDef, definition.origins ⊆ origins →
      Traced origins good (definition.compile env)
  | .mk name params body pos, h => by
    rw [FunctionDef.origins, List.cons_subset, List.append_subset] at h
    obtain ⟨self, hparams, hbody⟩ := h
    have belongs (symbol : String) (h : symbol ∈ [Primitive.define, name, Primitive.block]) :
        symbol ∈ (Origin.function (.mk name params body pos)).heads env := h
    rw [FunctionDef.compile_eq]
    apply (Stmt.traced_forms builds true body _ hbody).done
    intro forms hforms
    have head : good (Ir.tagged pos name) :=
      builds.tagged self (belongs name (by simp))
    have inner : good (blockOf pos forms) :=
      builds.block hforms self (belongs Primitive.block (by simp))
    exact builds.taggedCall self (belongs Primitive.define (by simp))
      (.cons head (.append (builds.params hparams) (.cons inner .nil)))

/-- What all ways to build compiled form keep holds of what a function compiles to. -/
theorem FunctionDef.built_compile {env : Environment} {definition : FunctionDef}
    {good : Ir → Prop} (builds : Builds env definition.origins good) {form : Ir}
    (compiled : definition.compile env = .ok form) : good form := by
  have traced := FunctionDef.traced_compile builds definition (List.Subset.refl _)
  rwa [compiled] at traced

/-- If a function compiles and its names hold no mark, its text is a row of tokens in which every
mark outside string literals belongs to the tag of a symbol, and the tag is the place of a part of
the function that the symbol belongs to. If it does not compile, the failure is reported at the
place of a part. -/
theorem a_tag_is_the_place_of_what_its_symbol_belongs_to (env : Environment)
    (definition : FunctionDef) :
    (env.IsUnmarked → definition.IsUnmarked → ∀ form, definition.compile env = .ok form →
      Row form.render.toList form.tokens ∧
        ∀ token ∈ form.tokens, ¬ Unmarked token.text →
          (∃ value, token = .string value) ∨
            ∃ name pos, token = .symbol ⟨name, some pos⟩ ∧ Unmarked name ∧
              ∃ origin ∈ definition.origins, origin.pos = pos ∧ name ∈ origin.heads env) ∧
      ∀ cause, definition.compile env = .error cause →
        ∃ origin ∈ definition.origins, cause.ReportedAt origin.pos := by
  have builds : Builds env definition.origins (Ir.Sourced env definition.origins) :=
    Ir.Sourced.builds
  have traced := FunctionDef.traced_compile builds definition (List.Subset.refl _)
  constructor
  · intro henv hnames form compiled
    rw [compiled] at traced
    refine ⟨form.row_render, ?_⟩
    intro token found
    apply (traced token found).symbol_of_mark
    intro origin listed
    exact origin.unmarked_heads henv (hnames origin listed)
  · intro cause failed
    rw [failed] at traced
    exact traced

/-- The primitives known to every compilation hold no mark. -/
theorem Environment.isUnmarked_default : ({} : Environment).IsUnmarked := by
  intro member primitive found
  have every : ReferenceTable.builtin.primitives.entries.all (decide <| Unmarked ·.2) = true := by
    decide
  have plain := List.all_eq_true.mp every _ (Registry.mem_of_find? found)
  exact of_decide_eq_true plain

/-- `def f(a): for i in prange(a.shape): a[i] = "$"`, in two lines. -/
def FunctionDef.filling : FunctionDef :=
  .mk "f" [⟨"a", ⟨1, 6⟩⟩]
    [.forLoop ⟨2, 4⟩ (.name ⟨2, 8⟩ "i")
      (.call ⟨2, 13⟩ (.name ⟨2, 13⟩ "prange") [.attribute ⟨2, 20⟩ (.name ⟨2, 20⟩ "a") "shape"])
      [.assign ⟨2, 30⟩ (.subscript ⟨2, 30⟩ (.name ⟨2, 30⟩ "a") (.item (.name ⟨2, 32⟩ "i")))
        (.string ⟨2, 37⟩ "$")] []] ⟨1, 0⟩

theorem a_loop_tags_its_closure_with_what_it_runs_over :
    ∃ form, FunctionDef.filling.compile {} = .ok form ∧
      form.render = "define$1$0(f$1$0, a$1$6, parallel_map$2$4(lambda$2$13(i$2$8, " ++
        "block(set(a$2$30, i$2$32, 0, 0, 0, 0, 0, \"$\"))), range$2$13(shape$2$20(a$2$20))))" ∧
      ∃ origin ∈ FunctionDef.filling.origins,
        origin.pos = ⟨2, 13⟩ ∧ Primitive.lambda ∈ origin.heads {} := by
  have names : FunctionDef.filling.IsUnmarked := by decide +kernel
  obtain ⟨form, compiled⟩ : ∃ form, FunctionDef.filling.compile {} = .ok form := ⟨_, rfl⟩
  have law := (a_tag_is_the_place_of_what_its_symbol_belongs_to {} .filling).1
    Environment.isUnmarked_default names form compiled
  cases compiled
  refine ⟨_, rfl, by decide +kernel, ?_⟩
  have closure := law.2 (.symbol ⟨Primitive.lambda, some ⟨2, 13⟩⟩) (by decide +kernel) (by decide)
  rcases closure with ⟨_, ⟨⟩⟩ | ⟨_, _, ⟨⟩, _, origin⟩
  exact origin

end CallForm

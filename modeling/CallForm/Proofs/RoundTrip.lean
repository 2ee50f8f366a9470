-- The serialized tree format there and back: the encoding of a tree with
-- finite numbers is one of its spellings, and so the tree that is read back
-- from it, or from any other spelling, is the one that was written.
import CallForm.Proofs.Finite
import CallForm.Proofs.Spelled
import CallForm.Session.Basic

namespace CallForm

/-! ## The encoding is a spelling -/

namespace Json

theorem valuesOf_eq_nil {entries : List (String × Json)} {name : String}
    (absent : name ∉ entries.map Prod.fst) : valuesOf name entries = [] := by
  refine List.filterMap_eq_nil_iff.mpr fun entry mem => ?_
  have other : entry.1 ≠ name := by
    rintro rfl
    exact absent (List.mem_map_of_mem mem)
  simp [other]

/-- Under different names, each field of an object is found under its own. -/
theorem holds_of_mem {entries : List (String × Json)} (distinct : (entries.map Prod.fst).Nodup)
    {entry : String × Json} (mem : entry ∈ entries) : Holds entries entry.1 (some entry.2) := by
  induction entries with
  | nil => cases mem
  | cons first rest ih =>
    obtain ⟨absent, distinct⟩ := List.nodup_cons.mp distinct
    unfold Holds valuesOf at ih ⊢
    cases mem with
    | head =>
      have none := valuesOf_eq_nil absent
      unfold valuesOf at none
      simp [none]
    | tail _ mem =>
      have other : first.1 ≠ entry.1 := by
        intro same
        rw [same] at absent
        exact absent (List.mem_map_of_mem mem)
      simpa [other] using ih distinct mem

/-- The object of some fields under different names. -/
theorem isObject_object {fields : List (String × Json)} {names : List String}
    (labels : fields.map Prod.fst = names) (distinct : names.Nodup) :
    (object fields).IsObject names (fields.map (some ·.2)) := by
  subst labels
  refine ⟨fields, rfl, ?_⟩
  rw [List.forall₂_map_left_iff, List.forall₂_map_right_iff, List.forall₂_same]
  intro entry mem
  exact holds_of_mem distinct mem

theorem isContents_object (source : TreeSource) {fields : List (String × Json)}
    {names : List String} (labels : fields.map Prod.fst = names) (distinct : names.Nodup) :
    (object fields).IsContents source names (fields.map (some ·.2)) := by
  cases source with
  | text => exact .inl (isObject_object labels distinct)
  | value => exact isObject_object labels distinct

end Json

theorem Position.spelledBy_encode (pos : Position) : pos.SpelledBy pos.encode :=
  .inl (Json.isObject_object rfl (by decide))

theorem Number.spelledBy_encode {value : Number} (finite : value.isFinite = true) :
    value.SpelledBy value.encode := by
  cases value with
  | int n => exact rfl
  | float x =>
    rw [Number.isFinite] at finite
    rw [Number.encode, if_pos finite]
    exact ⟨.float x, rfl, rfl⟩

theorem Param.spelledBy_encode (param : Param) : param.SpelledBy param.encode :=
  ⟨param.pos.encode, .inl (Json.isObject_object rfl (by decide)), param.pos.spelledBy_encode⟩

theorem Param.forall₂_spelledBy_encode (params : List Param) :
    List.Forall₂ Param.SpelledBy params (params.map Param.encode) :=
  List.forall₂_map_right_iff.mpr (List.forall₂_same.mpr fun param _ => param.spelledBy_encode)

theorem Import.spelledBy_encode (entry : Import) : entry.SpelledBy entry.encode :=
  .inl (Json.isObject_object rfl (by decide))

section

variable (source : TreeSource)

theorem Expr.spelledBy_encode_of_kind {expr : Expr}
    (spelled : expr.KindSpelledBy source expr.encodeKind) : expr.SpelledBy source expr.encode := by
  rw [Expr.SpelledBy, Expr.encode]
  exact ⟨expr.encodeKind, expr.pos.encode, .inl (Json.isObject_object rfl (by decide)), spelled,
    expr.pos.spelledBy_encode⟩

mutual

/-- The form that an expression is encoded to spells it. -/
theorem Expr.kindSpelledBy_encodeKind : ∀ (expr : Expr), expr.isFinite = true →
    expr.KindSpelledBy source expr.encodeKind
  | .name _ _, _ | .string _ _, _ | .unknown _ _, _ => by
    rw [Expr.KindSpelledBy, Expr.encodeKind]
  | .number _ value, finite => by
    rw [Expr.isFinite] at finite
    rw [Expr.KindSpelledBy, Expr.encodeKind]
    exact ⟨value.encode, rfl, Number.spelledBy_encode finite⟩
  | .constant _ value, _ => by
    rw [Expr.KindSpelledBy, Expr.encodeKind]
    exact ⟨.string value.label, rfl, .inl rfl⟩
  | .binary _ left op right, finite => by
    rw [Expr.isFinite, Bool.and_eq_true] at finite
    rw [Expr.KindSpelledBy, Expr.encodeKind]
    exact ⟨_, left.encode, .string op.label, right.encode, rfl,
      Json.isContents_object source rfl (by decide),
      Expr.spelledBy_encode_of_kind source (Expr.kindSpelledBy_encodeKind left finite.1), .inl rfl,
      Expr.spelledBy_encode_of_kind source (Expr.kindSpelledBy_encodeKind right finite.2)⟩
  | .unary _ op operand, finite => by
    rw [Expr.isFinite] at finite
    rw [Expr.KindSpelledBy, Expr.encodeKind]
    exact ⟨_, .string op.label, operand.encode, rfl,
      Json.isContents_object source rfl (by decide), .inl rfl,
      Expr.spelledBy_encode_of_kind source (Expr.kindSpelledBy_encodeKind operand finite)⟩
  | .compare _ left ops comparators, finite => by
    rw [Expr.isFinite, Bool.and_eq_true] at finite
    rw [Expr.KindSpelledBy, Expr.encodeKind]
    refine ⟨_, left.encode, _, _, rfl, Json.isContents_object source rfl (by decide),
      Expr.spelledBy_encode_of_kind source (Expr.kindSpelledBy_encodeKind left finite.1), ?_,
      Expr.allSpelledBy_encodeAll comparators finite.2⟩
    exact List.forall₂_map_right_iff.mpr (List.forall₂_same.mpr fun op _ => .inl rfl)
  | .call _ callee args, finite => by
    rw [Expr.isFinite, Bool.and_eq_true] at finite
    rw [Expr.KindSpelledBy, Expr.encodeKind]
    exact ⟨_, callee.encode, _, rfl, Json.isContents_object source rfl (by decide),
      Expr.spelledBy_encode_of_kind source (Expr.kindSpelledBy_encodeKind callee finite.1),
      Expr.allSpelledBy_encodeAll args finite.2⟩
  | .attribute _ object member, finite => by
    rw [Expr.isFinite] at finite
    rw [Expr.KindSpelledBy, Expr.encodeKind]
    exact ⟨_, object.encode, rfl, Json.isContents_object source rfl (by decide),
      Expr.spelledBy_encode_of_kind source (Expr.kindSpelledBy_encodeKind object finite)⟩
  | .subscript _ base index, finite => by
    rw [Expr.isFinite, Bool.and_eq_true] at finite
    rw [Expr.KindSpelledBy, Expr.encodeKind]
    exact ⟨_, base.encode, index.encode, rfl,
      Json.isContents_object source rfl (by decide),
      Expr.spelledBy_encode_of_kind source (Expr.kindSpelledBy_encodeKind base finite.1),
      Index.spelledBy_encode index finite.2⟩
  | .list _ items, finite | .tuple _ items, finite => by
    rw [Expr.isFinite] at finite
    rw [Expr.KindSpelledBy, Expr.encodeKind]
    exact ⟨_, rfl, Expr.allSpelledBy_encodeAll items finite⟩
  | .lambda _ params body, finite => by
    rw [Expr.isFinite] at finite
    rw [Expr.KindSpelledBy, Expr.encodeKind]
    exact ⟨_, _, body.encode, rfl, Json.isContents_object source rfl (by decide),
      Param.forall₂_spelledBy_encode params,
      Expr.spelledBy_encode_of_kind source (Expr.kindSpelledBy_encodeKind body finite)⟩

theorem Expr.allSpelledBy_encodeAll : ∀ (exprs : List Expr), Expr.allFinite exprs = true →
    Expr.AllSpelledBy source exprs (Expr.encodeAll exprs)
  | [], _ => by rw [Expr.AllSpelledBy, Expr.encodeAll]
  | expr :: rest, finite => by
    rw [Expr.allFinite, Bool.and_eq_true] at finite
    rw [Expr.AllSpelledBy, Expr.encodeAll]
    exact ⟨expr.encode,
      Expr.spelledBy_encode_of_kind source (Expr.kindSpelledBy_encodeKind expr finite.1), _,
      Expr.allSpelledBy_encodeAll rest finite.2, rfl⟩

theorem Expr.optionSpelledBy_encodeOption : ∀ (value : Option Expr),
    Expr.optionFinite value = true →
      Expr.OptionSpelledBy source value (some (Expr.encodeOption value))
  | none, _ => by
    rw [Expr.OptionSpelledBy, Expr.encodeOption]
    exact .inr rfl
  | some expr, finite => by
    rw [Expr.optionFinite] at finite
    rw [Expr.OptionSpelledBy, Expr.encodeOption]
    exact ⟨expr.encode, rfl,
      Expr.spelledBy_encode_of_kind source (Expr.kindSpelledBy_encodeKind expr finite)⟩

theorem Index.spelledBy_encode : ∀ (index : Index), index.isFinite = true →
    index.SpelledBy source index.encode
  | .item value, finite => by
    rw [Index.isFinite] at finite
    rw [Index.SpelledBy, Index.encode]
    exact ⟨value.encode, rfl,
      Expr.spelledBy_encode_of_kind source (Expr.kindSpelledBy_encodeKind value finite)⟩
  | .slice bounds, finite => by
    rw [Index.isFinite] at finite
    rw [Index.SpelledBy, Index.encode]
    exact ⟨bounds.encode, rfl, Slice.spelledBy_encode bounds finite⟩
  | .dims parts, finite => by
    rw [Index.isFinite] at finite
    rw [Index.SpelledBy, Index.encode]
    exact ⟨_, rfl, Dim.allSpelledBy_encodeAll parts finite⟩

theorem Dim.spelledBy_encode : ∀ (part : Dim), part.isFinite = true →
    part.SpelledBy source part.encode
  | .item value, finite => by
    rw [Dim.isFinite] at finite
    rw [Dim.SpelledBy, Dim.encode]
    exact ⟨value.encode, rfl,
      Expr.spelledBy_encode_of_kind source (Expr.kindSpelledBy_encodeKind value finite)⟩
  | .slice bounds, finite => by
    rw [Dim.isFinite] at finite
    rw [Dim.SpelledBy, Dim.encode]
    exact ⟨bounds.encode, rfl, Slice.spelledBy_encode bounds finite⟩

theorem Dim.allSpelledBy_encodeAll : ∀ (parts : List Dim), Dim.allFinite parts = true →
    Dim.AllSpelledBy source parts (Dim.encodeAll parts)
  | [], _ => by rw [Dim.AllSpelledBy, Dim.encodeAll]
  | part :: rest, finite => by
    rw [Dim.allFinite, Bool.and_eq_true] at finite
    rw [Dim.AllSpelledBy, Dim.encodeAll]
    exact ⟨part.encode, Dim.spelledBy_encode part finite.1, _,
      Dim.allSpelledBy_encodeAll rest finite.2, rfl⟩

theorem Slice.spelledBy_encode : ∀ (bounds : Slice), bounds.isFinite = true →
    bounds.SpelledBy source bounds.encode
  | .mk lower upper step pos, finite => by
    rw [Slice.isFinite, Bool.and_eq_true, Bool.and_eq_true] at finite
    obtain ⟨⟨hlower, hupper⟩, hstep⟩ := finite
    rw [Slice.SpelledBy, Slice.encode]
    exact ⟨_, _, _, pos.encode, .inl (Json.isObject_object rfl (by decide)),
      Expr.optionSpelledBy_encodeOption lower hlower,
      Expr.optionSpelledBy_encodeOption upper hupper,
      Expr.optionSpelledBy_encodeOption step hstep, pos.spelledBy_encode⟩

end

theorem Stmt.spelledBy_encode_of_kind {stmt : Stmt}
    (spelled : stmt.KindSpelledBy source stmt.encodeKind) : stmt.SpelledBy source stmt.encode := by
  rw [Stmt.SpelledBy, Stmt.encode]
  exact ⟨stmt.encodeKind, stmt.pos.encode, .inl (Json.isObject_object rfl (by decide)), spelled,
    stmt.pos.spelledBy_encode⟩

theorem Expr.spelledBy_encode {expr : Expr} (finite : expr.isFinite = true) :
    expr.SpelledBy source expr.encode :=
  Expr.spelledBy_encode_of_kind source (Expr.kindSpelledBy_encodeKind source expr finite)

mutual

/-- The form that a statement is encoded to spells it. -/
theorem Stmt.kindSpelledBy_encodeKind : ∀ (stmt : Stmt), stmt.isFinite = true →
    stmt.KindSpelledBy source stmt.encodeKind
  | .function _ definition, finite => by
    rw [Stmt.isFinite] at finite
    rw [Stmt.KindSpelledBy, Stmt.encodeKind]
    exact ⟨definition.encode, rfl, FunctionDef.spelledBy_encode definition finite⟩
  | .assign _ target value, finite => by
    rw [Stmt.isFinite, Bool.and_eq_true] at finite
    rw [Stmt.KindSpelledBy, Stmt.encodeKind]
    exact ⟨_, target.encode, value.encode, rfl, Json.isContents_object source rfl (by decide),
      Expr.spelledBy_encode source finite.1, Expr.spelledBy_encode source finite.2⟩
  | .augment _ target op value, finite => by
    rw [Stmt.isFinite, Bool.and_eq_true] at finite
    rw [Stmt.KindSpelledBy, Stmt.encodeKind]
    exact ⟨_, target.encode, .string op.label, value.encode, rfl,
      Json.isContents_object source rfl (by decide), Expr.spelledBy_encode source finite.1,
      .inl rfl, Expr.spelledBy_encode source finite.2⟩
  | .branch _ test body orelse, finite | .whileLoop _ test body orelse, finite => by
    rw [Stmt.isFinite, Bool.and_eq_true, Bool.and_eq_true] at finite
    obtain ⟨⟨htest, hbody⟩, horelse⟩ := finite
    rw [Stmt.KindSpelledBy, Stmt.encodeKind]
    exact ⟨_, test.encode, _, _, rfl, Json.isContents_object source rfl (by decide),
      Expr.spelledBy_encode source htest, Stmt.allSpelledBy_encodeAll body hbody,
      Stmt.allSpelledBy_encodeAll orelse horelse⟩
  | .forLoop _ target iter body orelse, finite => by
    rw [Stmt.isFinite, Bool.and_eq_true, Bool.and_eq_true, Bool.and_eq_true] at finite
    obtain ⟨⟨⟨htarget, hiter⟩, hbody⟩, horelse⟩ := finite
    rw [Stmt.KindSpelledBy, Stmt.encodeKind]
    exact ⟨_, target.encode, iter.encode, _, _, rfl, Json.isContents_object source rfl (by decide),
      Expr.spelledBy_encode source htarget, Expr.spelledBy_encode source hiter,
      Stmt.allSpelledBy_encodeAll body hbody, Stmt.allSpelledBy_encodeAll orelse horelse⟩
  | .ret _ value, finite => by
    rw [Stmt.isFinite] at finite
    rw [Stmt.KindSpelledBy, Stmt.encodeKind]
    exact ⟨_, _, rfl, Json.isContents_object source rfl (by decide),
      Expr.optionSpelledBy_encodeOption source value finite⟩
  | .expr _ values, finite => by
    rw [Stmt.isFinite] at finite
    rw [Stmt.KindSpelledBy, Stmt.encodeKind]
    exact ⟨_, _, rfl, Json.isContents_object source rfl (by decide),
      Expr.allSpelledBy_encodeAll source values finite⟩
  | .unknown _ _, _ => by
    rw [Stmt.KindSpelledBy, Stmt.encodeKind]

theorem Stmt.allSpelledBy_encodeAll : ∀ (stmts : List Stmt), Stmt.allFinite stmts = true →
    Stmt.AllSpelledBy source stmts (Stmt.encodeAll stmts)
  | [], _ => by rw [Stmt.AllSpelledBy, Stmt.encodeAll]
  | stmt :: rest, finite => by
    rw [Stmt.allFinite, Bool.and_eq_true] at finite
    rw [Stmt.AllSpelledBy, Stmt.encodeAll]
    exact ⟨stmt.encode,
      Stmt.spelledBy_encode_of_kind source (Stmt.kindSpelledBy_encodeKind stmt finite.1), _,
      Stmt.allSpelledBy_encodeAll rest finite.2, rfl⟩

theorem FunctionDef.spelledBy_encode : ∀ (definition : FunctionDef), definition.isFinite = true →
    definition.SpelledBy source definition.encode
  | .mk name params body pos, finite => by
    rw [FunctionDef.isFinite] at finite
    rw [FunctionDef.SpelledBy, FunctionDef.encode]
    exact ⟨_, _, pos.encode, .inl (Json.isObject_object rfl (by decide)),
      Param.forall₂_spelledBy_encode params, Stmt.allSpelledBy_encodeAll body finite,
      pos.spelledBy_encode⟩

end

/-- The encoding of a program with finite numbers is one of its spellings. -/
theorem Program.spelledBy_encode {program : Program} (finite : program.isFinite = true) :
    program.SpelledBy source program.encode :=
  ⟨_, some _, .inl (.inl (Json.isObject_object rfl (by decide))),
    Stmt.allSpelledBy_encodeAll source program.body finite,
    List.forall₂_map_right_iff.mpr (List.forall₂_same.mpr fun entry _ => entry.spelledBy_encode)⟩

end

/-! ## There and back -/

/-- Compiles a source text that a parser reads by way of its tree: the tree is written down, read
back from what was written, and its functions are compiled. There is no answer if it cannot be read
back. -/
def Session.compileDumped (source : TreeSource) (session : Session) (parser : SourceParser)
    (text : String) (only : Option String) (state : CompilerState) :
    Option (Except CompileError (List CompiledFunction) × CompilerState) :=
  match parser.program text with
  | .error cause => some (.error (.source cause), state)
  | .ok program =>
    (Program.decode? source program.encode).map (session.compileProgram · only state)

/-- A tree with finite numbers is decoded from its encoding. A value decodes to a tree exactly if it
spells it, so that encoding what was decoded turns all spellings into one. And a text compiles by
way of its written tree as it does at once, whatever parser reads it. -/
theorem a_tree_reads_back_from_all_its_spellings (source : TreeSource) (program : Program)
    (finite : program.isFinite = true) :
    Program.decode? source program.encode = some program ∧
    (∀ json, Program.decode? source json = some program ↔ program.SpelledBy source json) ∧
    (∀ json, program.SpelledBy source json →
      (Program.decode? source json).map Program.encode = some program.encode) ∧
    ∀ (session : Session) (parser : SourceParser) (text : String) (only : Option String)
        (state : CompilerState),
      session.compileDumped source parser text only state =
        some (session.compileText parser text only state) := by
  refine ⟨Program.decode?_eq_some_iff.mpr (Program.spelledBy_encode source finite),
    fun json => Program.decode?_eq_some_iff, ?_, ?_⟩
  · intro json spelled
    rw [Program.decode?_eq_some_iff.mpr spelled]
    rfl
  · intro session parser text only state
    unfold Session.compileDumped Session.compileText
    cases read : parser.program text with
    | error cause => rfl
    | ok dumped =>
      have back := Program.decode?_eq_some_iff.mpr
        (Program.spelledBy_encode source (SourceParser.program_isFinite read))
      simp only [back, Option.map_some]

/-- The program `x = 0.5`. -/
def Program.halving : Program where
  body := [.assign ⟨1, 0⟩ (.name ⟨1, 0⟩ "x") (.number ⟨1, 4⟩ (.float 0.5))]
  imports := []

/-- A spelling of this program without its imports: some of its structs are arrays, and the keys of
the others come in another order, one of them unknown. -/
def Program.halvingRespelled : Json :=
  .array [.array [.object
    [("pos", .array [.number (.int 1), .number (.int 0)]),
      ("kind", .labelled "Assign" (.object
        [("value", .array [.labelled "Number" (.labelled "Float" (.number (.float 0.5))),
            .object [("line", .number (.int 1)), ("column", .number (.int 4)),
              ("file", .string "half.py")]]),
          ("target", .array [.labelled "Name" (.string "x"),
            .array [.number (.int 1), .number (.int 0)]])]))]]]

theorem halving_reads_back_from_a_respelling :
    Program.halving.isFinite = true ∧
    Program.decode? .value Program.halving.encode = some Program.halving ∧
    (Program.decode? .value Program.halvingRespelled).map Program.encode =
      some Program.halving.encode := by
  have finite : Program.halving.isFinite = true := by decide
  obtain ⟨back, exactly, normal, -⟩ :=
    a_tree_reads_back_from_all_its_spellings .value Program.halving finite
  have read : Program.decode? .value Program.halvingRespelled = some Program.halving := by rfl
  exact ⟨finite, back, normal _ ((exactly _).mp read)⟩

end CallForm

-- What is spelled is decoded: every spelling of a tree decodes to this tree,
-- because the fuel outlasts the depth of the value. With the other direction,
-- a value decodes to a program exactly if it spells it.
import CallForm.Proofs.Decoded

namespace CallForm

/-! ## Depth -/

namespace Json

variable {json value : Json} {names : List String} {values : List (Option Json)}

theorem depth_lt_of_mem_array {items : List Json} (mem : value ∈ items) :
    value.depth < (array items).depth := by
  rw [depth]
  suffices value.depth ≤ depthAll items by omega
  induction items with
  | nil => cases mem
  | cons item rest ih =>
    rw [depthAll]
    cases mem with
    | head => omega
    | tail _ mem =>
      have := ih mem
      omega

theorem depth_lt_of_mem_object {entries : List (String × Json)} {name : String}
    (mem : (name, value) ∈ entries) : value.depth < (object entries).depth := by
  rw [depth]
  suffices value.depth ≤ depthEntries entries by omega
  induction entries with
  | nil => cases mem
  | cons entry rest ih =>
    rw [depthEntries]
    cases mem with
    | head => exact Nat.le_max_left ..
    | tail _ mem =>
      have := ih mem
      omega

theorem depth_lt_of_labelled {label : String} {fuel : Nat}
    (deep : (labelled label value).depth < fuel + 1) : value.depth < fuel := by
  have : value.depth < (labelled label value).depth :=
    depth_lt_of_mem_object List.mem_cons_self
  omega

theorem mem_of_mem_valuesOf {entries : List (String × Json)} {name : String}
    (mem : value ∈ valuesOf name entries) : (name, value) ∈ entries := by
  obtain ⟨⟨key, other⟩, hmem, h⟩ := List.mem_filterMap.mp mem
  obtain ⟨rfl, rfl⟩ : key = name ∧ other = value := by simpa using h
  exact hmem

/-- The fields of a struct lie deeper than the struct. -/
theorem IsStruct.depth_lt (h : json.IsStruct names values) (mem : some value ∈ values) :
    value.depth < json.depth := by
  obtain ⟨entries, rfl, each⟩ | ⟨items, rfl, -, rfl⟩ := h
  · induction each with
    | nil => cases mem
    | @cons name field _ _ holds _ ih =>
      cases mem with
      | head =>
        have mem : value ∈ valuesOf name entries := by
          rw [holds]
          exact List.mem_singleton_self value
        exact depth_lt_of_mem_object (mem_of_mem_valuesOf mem)
      | tail _ mem => exact ih mem
  · obtain ⟨item, hmem, same⟩ := List.mem_map.mp mem
    cases same
    exact depth_lt_of_mem_array hmem

/-- The fields of a form lie deeper than its contents. -/
theorem IsContents.depth_lt {source : TreeSource} {label : String} {fuel : Nat}
    (h : json.IsContents source names values)
    (deep : (labelled label json).depth < fuel + 1) (mem : some value ∈ values) :
    value.depth < fuel := by
  have struct : json.IsStruct names values := by
    cases source with
    | text => exact h
    | value => exact .inl h
  have := struct.depth_lt mem
  have := depth_lt_of_labelled deep
  omega

/-- An array is decoded if each item is decoded that is not as deep. -/
theorem arrayOf?_of_forall₂ {α : Type} {read : Json → Option α} {spelled : α → Json → Prop}
    {fuel : Nat}
    (complete : ∀ json value, json.depth < fuel → spelled value json → read json = some value)
    {items : List Json} {values : List α} (deep : (array items).depth < fuel + 1)
    (h : List.Forall₂ spelled values items) : (array items).arrayOf? read = some values := by
  refine arrayOf?_eq_some_iff.mpr ⟨items, rfl, ?_⟩
  have within : ∀ item ∈ items, item.depth < fuel := by
    intro item mem
    have := depth_lt_of_mem_array mem
    omega
  clear deep
  induction h with
  | nil => exact .nil
  | cons first _ ih =>
    refine .cons (complete _ _ (within _ List.mem_cons_self) first) (ih ?_)
    intro item mem
    exact within item (List.mem_cons_of_mem _ mem)

end Json

/-! ## What is spelled is decoded -/

section

variable (source : TreeSource)

theorem Expr.optional?_of_optionSpelledBy {read : Json → Option Expr} {fuel : Nat}
    (complete : ∀ json expr, json.depth < fuel → expr.SpelledBy source json → read json = some expr)
    {field : Option Json} {value : Option Expr}
    (deep : ∀ json, field = some json → json.depth < fuel)
    (h : Expr.OptionSpelledBy source value field) : Json.optional? read field = some value := by
  cases value with
  | none =>
    rw [Expr.OptionSpelledBy] at h
    obtain rfl | rfl := h <;> rfl
  | some expr =>
    rw [Expr.OptionSpelledBy] at h
    obtain ⟨json, rfl, spelled⟩ := h
    have present : json ≠ .null := by
      rintro rfl
      rw [Expr.SpelledBy] at spelled
      obtain ⟨kind, pos, ⟨entries, same, -⟩ | ⟨items, same, -⟩, -⟩ := spelled <;> cases same
    rw [Json.optional?, complete json expr (deep json rfl) spelled]
    · rfl
    · exact present

mutual

/-- A spelling of an expression decodes to it. -/
theorem Expr.decode?_of_spelledBy : ∀ (fuel : Nat) (json : Json) (expr : Expr),
    json.depth < fuel → expr.SpelledBy source json → Expr.decode? source fuel json = some expr
  | 0, json, expr, deep, h => by cases deep
  | fuel + 1, json, expr, deep, h => by
    rw [Expr.SpelledBy] at h
    obtain ⟨kind, pos, struct, spelled, place⟩ := h
    have small : kind.depth < json.depth := struct.depth_lt (by simp)
    obtain ⟨make, hmake, made⟩ :=
      Expr.decodeKind?_of_kindSpelledBy fuel kind expr (by omega) spelled
    rw [Expr.decode?, Json.fields?_eq_some_iff.mpr struct]
    simp [hmake, made, Position.decode?_eq_some_iff.mpr place]

theorem Expr.decodeKind?_of_kindSpelledBy : ∀ (fuel : Nat) (json : Json) (expr : Expr),
    json.depth < fuel → expr.KindSpelledBy source json →
      ∃ make, Expr.decodeKind? source fuel json = some make ∧ make expr.pos = expr
  | 0, json, expr, deep, h => by cases deep
  | fuel + 1, json, expr, deep, h => by
    have complete := Expr.decode?_of_spelledBy fuel
    cases expr with
    | name pos id =>
      rw [Expr.KindSpelledBy] at h
      subst h
      exact ⟨(.name · id), rfl, rfl⟩
    | number pos value =>
      rw [Expr.KindSpelledBy] at h
      obtain ⟨number, rfl, spelled⟩ := h
      refine ⟨(.number · value), ?_, rfl⟩
      rw [Expr.decodeKind?, Json.form?_eq_some_iff.mpr rfl]
      simp [Number.decode?_eq_some_iff.mpr spelled]
    | string pos value =>
      rw [Expr.KindSpelledBy] at h
      subst h
      exact ⟨(.string · value), rfl, rfl⟩
    | constant pos value =>
      rw [Expr.KindSpelledBy] at h
      obtain ⟨name, rfl, bare⟩ := h
      refine ⟨(.constant · value), ?_, rfl⟩
      rw [Expr.decodeKind?, Json.form?_eq_some_iff.mpr rfl]
      simp [Constant.decode?_eq_some_iff.mpr bare]
    | binary pos left op right =>
      rw [Expr.KindSpelledBy] at h
      obtain ⟨contents, lhs, operator, rhs, rfl, fields, hleft, hop, hright⟩ := h
      have hleft := complete lhs left (fields.depth_lt deep (by simp)) hleft
      have hright := complete rhs right (fields.depth_lt deep (by simp)) hright
      refine ⟨(.binary · left op right), ?_, rfl⟩
      rw [Expr.decodeKind?, Json.form?_eq_some_iff.mpr rfl]
      simp [Json.formFields?_eq_some_iff.mpr fields, hleft,
        BinaryOperator.decode?_eq_some_iff.mpr hop, hright]
    | unary pos op operand =>
      rw [Expr.KindSpelledBy] at h
      obtain ⟨contents, operator, inner, rfl, fields, hop, hoperand⟩ := h
      have hoperand := complete inner operand (fields.depth_lt deep (by simp)) hoperand
      refine ⟨(.unary · op operand), ?_, rfl⟩
      rw [Expr.decodeKind?, Json.form?_eq_some_iff.mpr rfl]
      simp [Json.formFields?_eq_some_iff.mpr fields, UnaryOperator.decode?_eq_some_iff.mpr hop,
        hoperand]
    | compare pos left ops comparators =>
      rw [Expr.KindSpelledBy] at h
      obtain ⟨contents, lhs, operators, others, rfl, fields, hleft, hops, hothers⟩ := h
      have hleft := complete lhs left (fields.depth_lt deep (by simp)) hleft
      have hops : (Json.array operators).arrayOf? Comparison.decode? = some ops :=
        Json.arrayOf?_eq_some_iff.mpr
          ⟨operators, rfl, hops.imp fun op json => Comparison.decode?_eq_some_iff.mpr⟩
      have hothers := Json.arrayOf?_of_forall₂ complete
        (Nat.lt_succ_of_lt (fields.depth_lt deep (by simp))) (Expr.allSpelledBy_iff.mp hothers)
      refine ⟨(.compare · left ops comparators), ?_, rfl⟩
      rw [Expr.decodeKind?, Json.form?_eq_some_iff.mpr rfl]
      simp [Json.formFields?_eq_some_iff.mpr fields, hleft, hops, hothers]
    | call pos callee args =>
      rw [Expr.KindSpelledBy] at h
      obtain ⟨contents, func, items, rfl, fields, hcallee, hargs⟩ := h
      have hcallee := complete func callee (fields.depth_lt deep (by simp)) hcallee
      have hargs := Json.arrayOf?_of_forall₂ complete
        (Nat.lt_succ_of_lt (fields.depth_lt deep (by simp))) (Expr.allSpelledBy_iff.mp hargs)
      refine ⟨(.call · callee args), ?_, rfl⟩
      rw [Expr.decodeKind?, Json.form?_eq_some_iff.mpr rfl]
      simp [Json.formFields?_eq_some_iff.mpr fields, hcallee, hargs]
    | «attribute» pos object member =>
      rw [Expr.KindSpelledBy] at h
      obtain ⟨contents, value, rfl, fields, hobject⟩ := h
      have hobject := complete value object (fields.depth_lt deep (by simp)) hobject
      refine ⟨(Expr.attribute · object member), ?_, rfl⟩
      rw [Expr.decodeKind?, Json.form?_eq_some_iff.mpr rfl]
      simp [Json.formFields?_eq_some_iff.mpr fields, hobject, Json.string?]
    | subscript pos base index =>
      rw [Expr.KindSpelledBy] at h
      obtain ⟨contents, value, brackets, rfl, fields, hbase, hindex⟩ := h
      have hbase := complete value base (fields.depth_lt deep (by simp)) hbase
      have hindex := Index.decode?_of_spelledBy fuel brackets index
        (fields.depth_lt deep (by simp)) hindex
      refine ⟨(.subscript · base index), ?_, rfl⟩
      rw [Expr.decodeKind?, Json.form?_eq_some_iff.mpr rfl]
      simp [Json.formFields?_eq_some_iff.mpr fields, hbase, hindex]
    | list pos exprs =>
      rw [Expr.KindSpelledBy] at h
      obtain ⟨items, rfl, hitems⟩ := h
      have hitems := Json.arrayOf?_of_forall₂ complete
        (Nat.lt_succ_of_lt (Json.depth_lt_of_labelled deep)) (Expr.allSpelledBy_iff.mp hitems)
      refine ⟨(.list · exprs), ?_, rfl⟩
      rw [Expr.decodeKind?, Json.form?_eq_some_iff.mpr rfl]
      simp [hitems]
    | tuple pos exprs =>
      rw [Expr.KindSpelledBy] at h
      obtain ⟨items, rfl, hitems⟩ := h
      have hitems := Json.arrayOf?_of_forall₂ complete
        (Nat.lt_succ_of_lt (Json.depth_lt_of_labelled deep)) (Expr.allSpelledBy_iff.mp hitems)
      refine ⟨(.tuple · exprs), ?_, rfl⟩
      rw [Expr.decodeKind?, Json.form?_eq_some_iff.mpr rfl]
      simp [hitems]
    | lambda pos params body =>
      rw [Expr.KindSpelledBy] at h
      obtain ⟨contents, names, inner, rfl, fields, hparams, hbody⟩ := h
      have hbody := complete inner body (fields.depth_lt deep (by simp)) hbody
      have hparams : (Json.array names).arrayOf? Param.decode? = some params :=
        Json.arrayOf?_eq_some_iff.mpr
          ⟨names, rfl, hparams.imp fun param json => Param.decode?_eq_some_iff.mpr⟩
      refine ⟨(.lambda · params body), ?_, rfl⟩
      rw [Expr.decodeKind?, Json.form?_eq_some_iff.mpr rfl]
      simp [Json.formFields?_eq_some_iff.mpr fields, hparams, hbody]
    | unknown pos kind =>
      rw [Expr.KindSpelledBy] at h
      subst h
      exact ⟨(.unknown · kind), rfl, rfl⟩

theorem Index.decode?_of_spelledBy : ∀ (fuel : Nat) (json : Json) (index : Index),
    json.depth < fuel → index.SpelledBy source json → Index.decode? source fuel json = some index
  | 0, json, index, deep, h => by cases deep
  | fuel + 1, json, index, deep, h => by
    cases index with
    | item value =>
      rw [Index.SpelledBy] at h
      obtain ⟨inner, rfl, hvalue⟩ := h
      rw [Index.decode?, Json.form?_eq_some_iff.mpr rfl]
      simp [Expr.decode?_of_spelledBy fuel inner value (Json.depth_lt_of_labelled deep) hvalue]
    | slice bounds =>
      rw [Index.SpelledBy] at h
      obtain ⟨inner, rfl, hbounds⟩ := h
      rw [Index.decode?, Json.form?_eq_some_iff.mpr rfl]
      simp [Slice.decode?_of_spelledBy fuel inner bounds (Json.depth_lt_of_labelled deep) hbounds]
    | dims parts =>
      rw [Index.SpelledBy] at h
      obtain ⟨items, rfl, hparts⟩ := h
      have hparts := Json.arrayOf?_of_forall₂ (Dim.decode?_of_spelledBy fuel)
        (Nat.lt_succ_of_lt (Json.depth_lt_of_labelled deep)) (Dim.allSpelledBy_iff.mp hparts)
      rw [Index.decode?, Json.form?_eq_some_iff.mpr rfl]
      simp [hparts]

theorem Dim.decode?_of_spelledBy : ∀ (fuel : Nat) (json : Json) (part : Dim),
    json.depth < fuel → part.SpelledBy source json → Dim.decode? source fuel json = some part
  | 0, json, part, deep, h => by cases deep
  | fuel + 1, json, part, deep, h => by
    cases part with
    | item value =>
      rw [Dim.SpelledBy] at h
      obtain ⟨inner, rfl, hvalue⟩ := h
      rw [Dim.decode?, Json.form?_eq_some_iff.mpr rfl]
      simp [Expr.decode?_of_spelledBy fuel inner value (Json.depth_lt_of_labelled deep) hvalue]
    | slice bounds =>
      rw [Dim.SpelledBy] at h
      obtain ⟨inner, rfl, hbounds⟩ := h
      rw [Dim.decode?, Json.form?_eq_some_iff.mpr rfl]
      simp [Slice.decode?_of_spelledBy fuel inner bounds (Json.depth_lt_of_labelled deep) hbounds]

theorem Slice.decode?_of_spelledBy : ∀ (fuel : Nat) (json : Json) (bounds : Slice),
    json.depth < fuel → bounds.SpelledBy source json → Slice.decode? source fuel json = some bounds
  | 0, json, bounds, deep, h => by cases deep
  | fuel + 1, json, .mk lower upper step pos, deep, h => by
    have complete := Expr.decode?_of_spelledBy fuel
    rw [Slice.SpelledBy] at h
    obtain ⟨low, high, stride, place, struct, hlower, hupper, hstep, hpos⟩ := h
    have within (field : Option Json) (mem : field ∈ [low, high, stride, some place]) (json : Json)
        (same : field = some json) : json.depth < fuel := by
      have := struct.depth_lt (same ▸ mem)
      omega
    have hlower := Expr.optional?_of_optionSpelledBy source complete (within low (by simp)) hlower
    have hupper := Expr.optional?_of_optionSpelledBy source complete (within high (by simp)) hupper
    have hstep := Expr.optional?_of_optionSpelledBy source complete (within stride (by simp)) hstep
    rw [Slice.decode?, Json.fields?_eq_some_iff.mpr struct]
    simp [hlower, hupper, hstep, Position.decode?_eq_some_iff.mpr hpos]

end

mutual

/-- A spelling of a statement decodes to it. -/
theorem Stmt.decode?_of_spelledBy : ∀ (fuel : Nat) (json : Json) (stmt : Stmt),
    json.depth < fuel → stmt.SpelledBy source json → Stmt.decode? source fuel json = some stmt
  | 0, json, stmt, deep, h => by cases deep
  | fuel + 1, json, stmt, deep, h => by
    rw [Stmt.SpelledBy] at h
    obtain ⟨kind, pos, struct, spelled, place⟩ := h
    have small : kind.depth < json.depth := struct.depth_lt (by simp)
    obtain ⟨make, hmake, made⟩ :=
      Stmt.decodeKind?_of_kindSpelledBy fuel kind stmt (by omega) spelled
    rw [Stmt.decode?, Json.fields?_eq_some_iff.mpr struct]
    simp [hmake, made, Position.decode?_eq_some_iff.mpr place]

theorem Stmt.decodeKind?_of_kindSpelledBy : ∀ (fuel : Nat) (json : Json) (stmt : Stmt),
    json.depth < fuel → stmt.KindSpelledBy source json →
      ∃ make, Stmt.decodeKind? source fuel json = some make ∧ make stmt.pos = stmt
  | 0, json, stmt, deep, h => by cases deep
  | fuel + 1, json, stmt, deep, h => by
    have complete := Expr.decode?_of_spelledBy source fuel
    have suite {items : List Json} {stmts : List Stmt} (deep : (Json.array items).depth < fuel)
        (h : Stmt.AllSpelledBy source stmts items) :
        (Json.array items).arrayOf? (Stmt.decode? source fuel) = some stmts :=
      Json.arrayOf?_of_forall₂ (Stmt.decode?_of_spelledBy fuel) (Nat.lt_succ_of_lt deep)
        (Stmt.allSpelledBy_iff.mp h)
    cases stmt with
    | function pos definition =>
      rw [Stmt.KindSpelledBy] at h
      obtain ⟨inner, rfl, spelled⟩ := h
      have spelled := FunctionDef.decode?_of_spelledBy fuel inner definition
        (Json.depth_lt_of_labelled deep) spelled
      refine ⟨(.function · definition), ?_, rfl⟩
      rw [Stmt.decodeKind?, Json.form?_eq_some_iff.mpr rfl]
      simp [spelled]
    | assign pos target value =>
      rw [Stmt.KindSpelledBy] at h
      obtain ⟨contents, left, right, rfl, fields, htarget, hvalue⟩ := h
      have htarget := complete left target (fields.depth_lt deep (by simp)) htarget
      have hvalue := complete right value (fields.depth_lt deep (by simp)) hvalue
      refine ⟨(.assign · target value), ?_, rfl⟩
      rw [Stmt.decodeKind?, Json.form?_eq_some_iff.mpr rfl]
      simp [Json.formFields?_eq_some_iff.mpr fields, htarget, hvalue]
    | augment pos target op value =>
      rw [Stmt.KindSpelledBy] at h
      obtain ⟨contents, left, operator, right, rfl, fields, htarget, hop, hvalue⟩ := h
      have htarget := complete left target (fields.depth_lt deep (by simp)) htarget
      have hvalue := complete right value (fields.depth_lt deep (by simp)) hvalue
      refine ⟨(.augment · target op value), ?_, rfl⟩
      rw [Stmt.decodeKind?, Json.form?_eq_some_iff.mpr rfl]
      simp [Json.formFields?_eq_some_iff.mpr fields, htarget,
        BinaryOperator.decode?_eq_some_iff.mpr hop, hvalue]
    | branch pos test body orelse =>
      rw [Stmt.KindSpelledBy] at h
      obtain ⟨contents, condition, first, second, rfl, fields, htest, hbody, horelse⟩ := h
      have htest := complete condition test (fields.depth_lt deep (by simp)) htest
      have hbody := suite (fields.depth_lt deep (by simp)) hbody
      have horelse := suite (fields.depth_lt deep (by simp)) horelse
      refine ⟨(.branch · test body orelse), ?_, rfl⟩
      rw [Stmt.decodeKind?, Json.form?_eq_some_iff.mpr rfl]
      simp [Json.formFields?_eq_some_iff.mpr fields, htest, hbody, horelse]
    | whileLoop pos test body orelse =>
      rw [Stmt.KindSpelledBy] at h
      obtain ⟨contents, condition, first, second, rfl, fields, htest, hbody, horelse⟩ := h
      have htest := complete condition test (fields.depth_lt deep (by simp)) htest
      have hbody := suite (fields.depth_lt deep (by simp)) hbody
      have horelse := suite (fields.depth_lt deep (by simp)) horelse
      refine ⟨(.whileLoop · test body orelse), ?_, rfl⟩
      rw [Stmt.decodeKind?, Json.form?_eq_some_iff.mpr rfl]
      simp [Json.formFields?_eq_some_iff.mpr fields, htest, hbody, horelse]
    | forLoop pos target iter body orelse =>
      rw [Stmt.KindSpelledBy] at h
      obtain ⟨contents, left, iterable, first, second, rfl, fields, htarget, hiter, hbody,
        horelse⟩ := h
      have htarget := complete left target (fields.depth_lt deep (by simp)) htarget
      have hiter := complete iterable iter (fields.depth_lt deep (by simp)) hiter
      have hbody := suite (fields.depth_lt deep (by simp)) hbody
      have horelse := suite (fields.depth_lt deep (by simp)) horelse
      refine ⟨(.forLoop · target iter body orelse), ?_, rfl⟩
      rw [Stmt.decodeKind?, Json.form?_eq_some_iff.mpr rfl]
      simp [Json.formFields?_eq_some_iff.mpr fields, htarget, hiter, hbody, horelse]
    | ret pos value =>
      rw [Stmt.KindSpelledBy] at h
      obtain ⟨contents, field, rfl, fields, hvalue⟩ := h
      have hvalue := Expr.optional?_of_optionSpelledBy source complete
        (fun json same => fields.depth_lt deep (by simp [same])) hvalue
      refine ⟨(.ret · value), ?_, rfl⟩
      rw [Stmt.decodeKind?, Json.form?_eq_some_iff.mpr rfl]
      simp [Json.formFields?_eq_some_iff.mpr fields, hvalue]
    | expr pos values =>
      rw [Stmt.KindSpelledBy] at h
      obtain ⟨contents, items, rfl, fields, hvalues⟩ := h
      have hvalues := Json.arrayOf?_of_forall₂ complete
        (Nat.lt_succ_of_lt (fields.depth_lt deep (by simp))) (Expr.allSpelledBy_iff.mp hvalues)
      refine ⟨(.expr · values), ?_, rfl⟩
      rw [Stmt.decodeKind?, Json.form?_eq_some_iff.mpr rfl]
      simp [Json.formFields?_eq_some_iff.mpr fields, hvalues]
    | unknown pos kind =>
      rw [Stmt.KindSpelledBy] at h
      subst h
      exact ⟨(.unknown · kind), rfl, rfl⟩

theorem FunctionDef.decode?_of_spelledBy : ∀ (fuel : Nat) (json : Json) (definition : FunctionDef),
    json.depth < fuel → definition.SpelledBy source json →
      FunctionDef.decode? source fuel json = some definition
  | 0, json, definition, deep, h => by cases deep
  | fuel + 1, json, .mk name params body pos, deep, h => by
    rw [FunctionDef.SpelledBy] at h
    obtain ⟨names, items, place, struct, hparams, hbody, hpos⟩ := h
    have hparams : (Json.array names).arrayOf? Param.decode? = some params :=
      Json.arrayOf?_eq_some_iff.mpr
        ⟨names, rfl, hparams.imp fun param json => Param.decode?_eq_some_iff.mpr⟩
    have small : (Json.array items).depth < json.depth := struct.depth_lt (by simp)
    have hbody := Json.arrayOf?_of_forall₂ (Stmt.decode?_of_spelledBy fuel) (by omega)
      (Stmt.allSpelledBy_iff.mp hbody)
    rw [FunctionDef.decode?, Json.fields?_eq_some_iff.mpr struct]
    simp [Json.string?, hparams, hbody, Position.decode?_eq_some_iff.mpr hpos]

end

variable {source}

/-- A value decodes to a program exactly if it is one of its spellings. -/
theorem Program.decode?_eq_some_iff {json : Json} {program : Program} :
    Program.decode? source json = some program ↔ program.SpelledBy source json := by
  constructor
  · exact Program.spelledBy_of_decode?
  · rintro ⟨items, imports, whole, hbody, himports⟩
    have found : Program.fields? json = some [some (.array items), imports.map .array] := by
      obtain struct | ⟨rfl, rfl⟩ := whole
      · have read := Json.fields?_eq_some_iff.mpr struct
        unfold Program.fields?
        split
        · cases read
        · exact read
      · rfl
    have hbody : (Json.array items).arrayOf? (Json.decodeWith (Stmt.decode? source)) =
        some program.body := by
      refine Json.arrayOf?_eq_some_iff.mpr ⟨items, rfl, ?_⟩
      refine (Stmt.allSpelledBy_iff.mp hbody).imp fun stmt json spelled => ?_
      exact Stmt.decode?_of_spelledBy source (2 * json.depth + 2) json stmt (by omega) spelled
    unfold Program.decode?
    rw [found]
    cases imports with
    | none =>
      cases program
      cases himports
      simp [hbody]
    | some others =>
      have himports : (Json.array others).arrayOf? Import.decode? = some program.imports :=
        Json.arrayOf?_eq_some_iff.mpr
          ⟨others, rfl, himports.imp fun entry json => Import.decode?_eq_some_iff.mpr⟩
      simp [hbody, himports]

end

end CallForm

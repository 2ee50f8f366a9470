-- What is decoded is spelled: the parts that need no fuel answer exactly on
-- the spellings of what they give, and whatever an expression, a statement
-- or a program is decoded from is one of its spellings.
import CallForm.Proofs.Spelling

namespace CallForm

/-! ## Structs and forms -/

theorem mapM_eq_some_iff {α β : Type} {read : α → Option β} {items : List α} {values : List β} :
    items.mapM read = some values ↔
      List.Forall₂ (fun item value => read item = some value) items values := by
  induction items generalizing values with
  | nil => cases values <;> simp
  | cons item rest ih =>
    rw [List.mapM_cons]
    constructor
    · intro h
      obtain ⟨first, hfirst, h⟩ := Option.bind_eq_some_iff.mp h
      obtain ⟨others, hothers, h⟩ := Option.bind_eq_some_iff.mp h
      cases h
      exact .cons hfirst (ih.mp hothers)
    · rintro (_ | ⟨hfirst, hothers⟩)
      rw [hfirst, ih.mpr hothers]
      rfl

namespace Json

variable {json payload : Json} {names : List String} {values : List (Option Json)} {label : String}

theorem field?_eq_some_iff {entries : List (String × Json)} {name : String}
    {value : Option Json} : field? entries name = some value ↔ Holds entries name value := by
  unfold field? Holds
  match valuesOf name entries with
  | [] | [_] | _ :: _ :: _ => cases value <;> simp

theorem namedFields?_eq_some_iff :
    json.namedFields? names = some values ↔ json.IsObject names values := by
  unfold namedFields? IsObject
  cases json with
  | object entries => simp [mapM_eq_some_iff, field?_eq_some_iff]
  | _ => simp

theorem fields?_eq_some_iff :
    json.fields? names = some values ↔ json.IsStruct names values := by
  unfold fields? IsStruct
  cases json with
  | array items => simp [IsObject, eq_comm]
  | _ => simp [namedFields?_eq_some_iff]

theorem formFields?_eq_some_iff {source : TreeSource} :
    json.formFields? source names = some values ↔ json.IsContents source names values := by
  cases source with
  | text => exact fields?_eq_some_iff
  | value => exact namedFields?_eq_some_iff

theorem form?_bare_iff : json.form? = some (label, none) ↔ json = .string label := by
  unfold form?
  split <;> simp_all

theorem form?_eq_some_iff :
    json.form? = some (label, some payload) ↔ json = .labelled label payload := by
  unfold form? labelled
  split <;> simp_all

theorem bareLabel?_eq_some_iff : json.bareLabel? = some label ↔ json.IsBare label := by
  unfold bareLabel? IsBare
  constructor
  · intro h
    split at h
    · rename_i found
      cases h
      exact .inl (form?_bare_iff.mp found)
    · rename_i found
      cases h
      exact .inr (form?_eq_some_iff.mp found)
    · cases h
  · rintro (rfl | rfl) <;> rfl

theorem arrayOf?_eq_some_iff {α : Type} {read : Json → Option α} {values : List α} :
    json.arrayOf? read = some values ↔ ∃ items, json = .array items ∧
      List.Forall₂ (fun value item => read item = some value) values items := by
  unfold arrayOf? items?
  cases json with
  | array items =>
    simp only [Option.bind_some, mapM_eq_some_iff]
    constructor
    · intro h
      exact ⟨items, rfl, h.flip⟩
    · rintro ⟨_, same, h⟩
      cases same
      exact h.flip
  | _ => simp

theorem string?_eq_some_iff {value : String} :
    json.string? = some value ↔ json = .string value := by
  cases json <;> simp [string?]

theorem word32?_eq_some_iff {value : UInt32} : json.word32? = some value ↔ json = .word value := by
  unfold word32? word
  split
  · rw [Word.unsigned32?_eq_some_iff]
    simp
  · simp_all

theorem int64?_eq_some_iff {value : Int64} :
    json.int64? = some value ↔ json = .number (.int value.toInt) := by
  unfold int64?
  split
  · rw [Word.signed64?_eq_some_iff]
    simp
  · simp_all

theorem double?_eq_some_iff {value : Float} :
    json.double? = some value ↔
      ∃ number : JsonNumber, json = .number number ∧ number.toDouble = value := by
  cases json with
  | number n => cases n <;> simp [double?, JsonNumber.toDouble]
  | _ => simp [double?]

end Json

/-! ## Leaves -/

theorem Position.decode?_eq_some_iff {json : Json} {pos : Position} :
    Position.decode? json = some pos ↔ pos.SpelledBy json := by
  unfold Position.decode? Position.SpelledBy
  rw [← Json.fields?_eq_some_iff]
  constructor
  · intro h
    split at h
    · rename_i line column found
      obtain ⟨line', hline, h⟩ := Option.bind_eq_some_iff.mp h
      obtain ⟨column', hcolumn, h⟩ := Option.bind_eq_some_iff.mp h
      cases h
      rw [found, Json.word32?_eq_some_iff.mp hline, Json.word32?_eq_some_iff.mp hcolumn]
    · cases h
  · intro found
    have line := Json.word32?_eq_some_iff.mpr (rfl : Json.word pos.line = _)
    have column := Json.word32?_eq_some_iff.mpr (rfl : Json.word pos.column = _)
    rw [found]
    simp [line, column]

theorem Number.decode?_eq_some_iff {json : Json} {value : Number} :
    Number.decode? json = some value ↔ value.SpelledBy json := by
  unfold Number.decode?
  constructor
  · intro h
    split at h
    · rename_i payload found
      rw [Json.form?_eq_some_iff.mp found]
      obtain ⟨n, hn, rfl⟩ := Option.map_eq_some_iff.mp h
      rw [Json.int64?_eq_some_iff.mp hn]
      exact rfl
    · rename_i payload found
      rw [Json.form?_eq_some_iff.mp found]
      obtain ⟨x, hx, rfl⟩ := Option.map_eq_some_iff.mp h
      obtain ⟨number, rfl, same⟩ := Json.double?_eq_some_iff.mp hx
      exact ⟨number, rfl, same⟩
    · cases h
  · intro h
    cases value with
    | int n =>
      cases h
      simp [Json.form?, Json.labelled, Json.int64?_eq_some_iff]
    | float x =>
      obtain ⟨number, rfl, same⟩ := h
      have read := Json.double?_eq_some_iff.mpr ⟨number, rfl, same⟩
      simp [Json.form?, Json.labelled, read]

/-- A bare label is decoded by looking it up among the labels of all values. -/
theorem labelled_eq_some_iff {α : Type} {label : α → String} {all : List α}
    (known : ∀ value, all.find? (label · == label value) = some value) {json : Json} {value : α} :
    (json.bareLabel?.bind fun name => all.find? (label · == name)) = some value ↔
      json.IsBare (label value) := by
  constructor
  · intro h
    obtain ⟨name, bare, h⟩ := Option.bind_eq_some_iff.mp h
    have same : label value = name := eq_of_beq (List.find?_some (p := (label · == name)) h)
    rw [same]
    exact Json.bareLabel?_eq_some_iff.mp bare
  · intro bare
    rw [Json.bareLabel?_eq_some_iff.mpr bare]
    exact known value

variable {json : Json}

theorem Constant.decode?_eq_some_iff {value : Constant} :
    Constant.decode? json = some value ↔ json.IsBare value.label :=
  labelled_eq_some_iff Constant.ofLabel?_label

theorem BinaryOperator.decode?_eq_some_iff {op : BinaryOperator} :
    BinaryOperator.decode? json = some op ↔ json.IsBare op.label :=
  labelled_eq_some_iff BinaryOperator.ofLabel?_label

theorem UnaryOperator.decode?_eq_some_iff {op : UnaryOperator} :
    UnaryOperator.decode? json = some op ↔ json.IsBare op.label :=
  labelled_eq_some_iff UnaryOperator.ofLabel?_label

theorem Comparison.decode?_eq_some_iff {op : Comparison} :
    Comparison.decode? json = some op ↔ json.IsBare op.label :=
  labelled_eq_some_iff Comparison.ofLabel?_label

theorem Param.decode?_eq_some_iff {param : Param} :
    Param.decode? json = some param ↔ param.SpelledBy json := by
  unfold Param.decode? Param.SpelledBy
  simp only [← Json.fields?_eq_some_iff]
  constructor
  · intro h
    split at h
    · rename_i name pos found
      obtain ⟨name', hname, h⟩ := Option.bind_eq_some_iff.mp h
      obtain ⟨pos', hpos, h⟩ := Option.bind_eq_some_iff.mp h
      cases h
      rw [Json.string?_eq_some_iff.mp hname] at found
      exact ⟨pos, found, Position.decode?_eq_some_iff.mp hpos⟩
    · cases h
  · rintro ⟨pos, found, hpos⟩
    rw [found]
    simp [Json.string?, Position.decode?_eq_some_iff.mpr hpos]

theorem Import.decode?_eq_some_iff {entry : Import} :
    Import.decode? json = some entry ↔ entry.SpelledBy json := by
  unfold Import.decode? Import.SpelledBy
  rw [← Json.fields?_eq_some_iff]
  constructor
  · intro h
    split at h
    · rename_i name binding found
      obtain ⟨name', hname, h⟩ := Option.bind_eq_some_iff.mp h
      obtain ⟨binding', hbinding, h⟩ := Option.bind_eq_some_iff.mp h
      cases h
      rw [found, Json.string?_eq_some_iff.mp hname, Json.string?_eq_some_iff.mp hbinding]
    · cases h
  · intro found
    rw [found]
    simp [Json.string?]

/-! ## Lists -/

section

variable {source : TreeSource}

theorem Expr.allSpelledBy_iff {exprs : List Expr} {items : List Json} :
    Expr.AllSpelledBy source exprs items ↔
      List.Forall₂ (Expr.SpelledBy source) exprs items := by
  induction exprs generalizing items with
  | nil => simp [Expr.AllSpelledBy]
  | cons expr rest ih => simp [Expr.AllSpelledBy, List.forall₂_cons_left_iff, ih]

theorem Dim.allSpelledBy_iff {parts : List Dim} {items : List Json} :
    Dim.AllSpelledBy source parts items ↔ List.Forall₂ (Dim.SpelledBy source) parts items := by
  induction parts generalizing items with
  | nil => simp [Dim.AllSpelledBy]
  | cons part rest ih => simp [Dim.AllSpelledBy, List.forall₂_cons_left_iff, ih]

theorem Stmt.allSpelledBy_iff {stmts : List Stmt} {items : List Json} :
    Stmt.AllSpelledBy source stmts items ↔ List.Forall₂ (Stmt.SpelledBy source) stmts items := by
  induction stmts generalizing items with
  | nil => simp [Stmt.AllSpelledBy]
  | cons stmt rest ih => simp [Stmt.AllSpelledBy, List.forall₂_cons_left_iff, ih]

end

/-! ## What is decoded is spelled -/

section

variable (source : TreeSource)

theorem Expr.allSpelledBy_of_arrayOf? {read : Json → Option Expr}
    (sound : ∀ json expr, read json = some expr → expr.SpelledBy source json) {json : Json}
    {exprs : List Expr} (h : json.arrayOf? read = some exprs) :
    ∃ items, json = .array items ∧ Expr.AllSpelledBy source exprs items := by
  obtain ⟨items, same, each⟩ := Json.arrayOf?_eq_some_iff.mp h
  exact ⟨items, same, Expr.allSpelledBy_iff.mpr (each.imp fun expr item => sound item expr)⟩

theorem Stmt.allSpelledBy_of_arrayOf? {read : Json → Option Stmt}
    (sound : ∀ json stmt, read json = some stmt → stmt.SpelledBy source json) {json : Json}
    {stmts : List Stmt} (h : json.arrayOf? read = some stmts) :
    ∃ items, json = .array items ∧ Stmt.AllSpelledBy source stmts items := by
  obtain ⟨items, same, each⟩ := Json.arrayOf?_eq_some_iff.mp h
  exact ⟨items, same, Stmt.allSpelledBy_iff.mpr (each.imp fun stmt item => sound item stmt)⟩

theorem Expr.optionSpelledBy_of_optional? {read : Json → Option Expr}
    (sound : ∀ json expr, read json = some expr → expr.SpelledBy source json)
    {field : Option Json} {value : Option Expr} (h : Json.optional? read field = some value) :
    Expr.OptionSpelledBy source value field := by
  unfold Json.optional? at h
  split at h
  · cases h
    rw [Expr.OptionSpelledBy]
    exact .inl rfl
  · cases h
    rw [Expr.OptionSpelledBy]
    exact .inr rfl
  · rename_i json _
    obtain ⟨expr, hexpr, rfl⟩ := Option.map_eq_some_iff.mp h
    rw [Expr.OptionSpelledBy]
    exact ⟨json, rfl, sound json expr hexpr⟩

mutual

/-- A value that decodes to an expression spells it. -/
theorem Expr.spelledBy_of_decode? : ∀ (fuel : Nat) (json : Json) (expr : Expr),
    Expr.decode? source fuel json = some expr → expr.SpelledBy source json
  | 0, json, expr, h => by cases h
  | fuel + 1, json, expr, h => by
    rw [Expr.decode?] at h
    split at h
    · rename_i kind pos found
      obtain ⟨make, hmake, h⟩ := Option.bind_eq_some_iff.mp h
      obtain ⟨place, hplace, h⟩ := Option.bind_eq_some_iff.mp h
      cases h
      obtain ⟨spelled, at'⟩ := Expr.kindSpelledBy_of_decodeKind? fuel kind make hmake place
      rw [Expr.SpelledBy, at']
      exact ⟨kind, pos, Json.fields?_eq_some_iff.mp found, spelled,
        Position.decode?_eq_some_iff.mp hplace⟩
    · cases h

theorem Expr.kindSpelledBy_of_decodeKind? : ∀ (fuel : Nat) (json : Json) (make : Position → Expr),
    Expr.decodeKind? source fuel json = some make →
      ∀ pos, (make pos).KindSpelledBy source json ∧ (make pos).pos = pos
  | 0, json, make, h, pos => by cases h
  | fuel + 1, json, make, h, pos => by
    have sound := Expr.spelledBy_of_decode? fuel
    rw [Expr.decodeKind?] at h
    split at h
    · rename_i payload form
      obtain ⟨id, hid, h⟩ := Option.bind_eq_some_iff.mp h
      cases h
      rw [Json.string?_eq_some_iff.mp hid] at form
      refine ⟨?_, rfl⟩
      rw [Expr.KindSpelledBy]
      exact Json.form?_eq_some_iff.mp form
    · rename_i payload form
      obtain ⟨value, hvalue, h⟩ := Option.bind_eq_some_iff.mp h
      cases h
      refine ⟨?_, rfl⟩
      rw [Expr.KindSpelledBy]
      exact ⟨payload, Json.form?_eq_some_iff.mp form, Number.decode?_eq_some_iff.mp hvalue⟩
    · rename_i payload form
      obtain ⟨value, hvalue, h⟩ := Option.bind_eq_some_iff.mp h
      cases h
      rw [Json.string?_eq_some_iff.mp hvalue] at form
      refine ⟨?_, rfl⟩
      rw [Expr.KindSpelledBy]
      exact Json.form?_eq_some_iff.mp form
    · rename_i payload form
      obtain ⟨value, hvalue, h⟩ := Option.bind_eq_some_iff.mp h
      cases h
      refine ⟨?_, rfl⟩
      rw [Expr.KindSpelledBy]
      exact ⟨payload, Json.form?_eq_some_iff.mp form, Constant.decode?_eq_some_iff.mp hvalue⟩
    · rename_i payload form
      split at h
      · rename_i lhs operator rhs found
        obtain ⟨left, hleft, h⟩ := Option.bind_eq_some_iff.mp h
        obtain ⟨op, hop, h⟩ := Option.bind_eq_some_iff.mp h
        obtain ⟨right, hright, h⟩ := Option.bind_eq_some_iff.mp h
        cases h
        refine ⟨?_, rfl⟩
        rw [Expr.KindSpelledBy]
        exact ⟨payload, lhs, operator, rhs, Json.form?_eq_some_iff.mp form,
          Json.formFields?_eq_some_iff.mp found, sound lhs left hleft,
          BinaryOperator.decode?_eq_some_iff.mp hop,
          sound rhs right hright⟩
      · cases h
    · rename_i payload form
      split at h
      · rename_i operator inner found
        obtain ⟨op, hop, h⟩ := Option.bind_eq_some_iff.mp h
        obtain ⟨operand, hoperand, h⟩ := Option.bind_eq_some_iff.mp h
        cases h
        refine ⟨?_, rfl⟩
        rw [Expr.KindSpelledBy]
        exact ⟨payload, operator, inner, Json.form?_eq_some_iff.mp form,
          Json.formFields?_eq_some_iff.mp found, UnaryOperator.decode?_eq_some_iff.mp hop,
          sound inner operand hoperand⟩
      · cases h
    · rename_i payload form
      split at h
      · rename_i lhs operators others found
        obtain ⟨left, hleft, h⟩ := Option.bind_eq_some_iff.mp h
        obtain ⟨ops, hops, h⟩ := Option.bind_eq_some_iff.mp h
        obtain ⟨comparators, hcomparators, h⟩ := Option.bind_eq_some_iff.mp h
        cases h
        obtain ⟨labels, rfl, each⟩ := Json.arrayOf?_eq_some_iff.mp hops
        obtain ⟨items, rfl, spelled⟩ := Expr.allSpelledBy_of_arrayOf? source sound hcomparators
        refine ⟨?_, rfl⟩
        rw [Expr.KindSpelledBy]
        exact ⟨payload, lhs, labels, items, Json.form?_eq_some_iff.mp form,
          Json.formFields?_eq_some_iff.mp found, sound lhs left hleft,
          each.imp fun op label => Comparison.decode?_eq_some_iff.mp, spelled⟩
      · cases h
    · rename_i payload form
      split at h
      · rename_i func others found
        obtain ⟨callee, hcallee, h⟩ := Option.bind_eq_some_iff.mp h
        obtain ⟨args, hargs, h⟩ := Option.bind_eq_some_iff.mp h
        cases h
        obtain ⟨items, rfl, spelled⟩ := Expr.allSpelledBy_of_arrayOf? source sound hargs
        refine ⟨?_, rfl⟩
        rw [Expr.KindSpelledBy]
        exact ⟨payload, func, items, Json.form?_eq_some_iff.mp form,
          Json.formFields?_eq_some_iff.mp found,
          sound func callee hcallee, spelled⟩
      · cases h
    · rename_i payload form
      split at h
      · rename_i value attr found
        obtain ⟨object, hobject, h⟩ := Option.bind_eq_some_iff.mp h
        obtain ⟨member, hmember, h⟩ := Option.bind_eq_some_iff.mp h
        cases h
        rw [Json.string?_eq_some_iff.mp hmember] at found
        refine ⟨?_, rfl⟩
        rw [Expr.KindSpelledBy]
        exact ⟨payload, value, Json.form?_eq_some_iff.mp form,
          Json.formFields?_eq_some_iff.mp found,
          sound value object hobject⟩
      · cases h
    · rename_i payload form
      split at h
      · rename_i value brackets found
        obtain ⟨base, hbase, h⟩ := Option.bind_eq_some_iff.mp h
        obtain ⟨index, hindex, h⟩ := Option.bind_eq_some_iff.mp h
        cases h
        refine ⟨?_, rfl⟩
        rw [Expr.KindSpelledBy]
        exact ⟨payload, value, brackets, Json.form?_eq_some_iff.mp form,
          Json.formFields?_eq_some_iff.mp found, sound value base hbase,
          Index.spelledBy_of_decode? fuel brackets index hindex⟩
      · cases h
    · rename_i payload form
      obtain ⟨exprs, hexprs, h⟩ := Option.bind_eq_some_iff.mp h
      cases h
      obtain ⟨items, rfl, spelled⟩ := Expr.allSpelledBy_of_arrayOf? source sound hexprs
      refine ⟨?_, rfl⟩
      rw [Expr.KindSpelledBy]
      exact ⟨items, Json.form?_eq_some_iff.mp form, spelled⟩
    · rename_i payload form
      obtain ⟨exprs, hexprs, h⟩ := Option.bind_eq_some_iff.mp h
      cases h
      obtain ⟨items, rfl, spelled⟩ := Expr.allSpelledBy_of_arrayOf? source sound hexprs
      refine ⟨?_, rfl⟩
      rw [Expr.KindSpelledBy]
      exact ⟨items, Json.form?_eq_some_iff.mp form, spelled⟩
    · rename_i payload form
      split at h
      · rename_i names inner found
        obtain ⟨params, hparams, h⟩ := Option.bind_eq_some_iff.mp h
        obtain ⟨body, hbody, h⟩ := Option.bind_eq_some_iff.mp h
        cases h
        obtain ⟨items, rfl, each⟩ := Json.arrayOf?_eq_some_iff.mp hparams
        refine ⟨?_, rfl⟩
        rw [Expr.KindSpelledBy]
        exact ⟨payload, items, inner, Json.form?_eq_some_iff.mp form,
          Json.formFields?_eq_some_iff.mp found,
          each.imp fun param item => Param.decode?_eq_some_iff.mp,
          sound inner body hbody⟩
      · cases h
    · rename_i payload form
      obtain ⟨kind, hkind, h⟩ := Option.bind_eq_some_iff.mp h
      cases h
      rw [Json.string?_eq_some_iff.mp hkind] at form
      refine ⟨?_, rfl⟩
      rw [Expr.KindSpelledBy]
      exact Json.form?_eq_some_iff.mp form
    · cases h

theorem Index.spelledBy_of_decode? : ∀ (fuel : Nat) (json : Json) (index : Index),
    Index.decode? source fuel json = some index → index.SpelledBy source json
  | 0, json, index, h => by cases h
  | fuel + 1, json, index, h => by
    rw [Index.decode?] at h
    split at h
    · rename_i payload form
      obtain ⟨value, hvalue, rfl⟩ := Option.map_eq_some_iff.mp h
      rw [Index.SpelledBy]
      exact ⟨payload, Json.form?_eq_some_iff.mp form,
        Expr.spelledBy_of_decode? fuel payload value hvalue⟩
    · rename_i payload form
      obtain ⟨bounds, hbounds, rfl⟩ := Option.map_eq_some_iff.mp h
      rw [Index.SpelledBy]
      exact ⟨payload, Json.form?_eq_some_iff.mp form,
        Slice.spelledBy_of_decode? fuel payload bounds hbounds⟩
    · rename_i payload form
      obtain ⟨parts, hparts, rfl⟩ := Option.map_eq_some_iff.mp h
      obtain ⟨items, rfl, each⟩ := Json.arrayOf?_eq_some_iff.mp hparts
      rw [Index.SpelledBy]
      exact ⟨items, Json.form?_eq_some_iff.mp form, Dim.allSpelledBy_iff.mpr
        (each.imp fun part item => Dim.spelledBy_of_decode? fuel item part)⟩
    · cases h

theorem Dim.spelledBy_of_decode? : ∀ (fuel : Nat) (json : Json) (part : Dim),
    Dim.decode? source fuel json = some part → part.SpelledBy source json
  | 0, json, part, h => by cases h
  | fuel + 1, json, part, h => by
    rw [Dim.decode?] at h
    split at h
    · rename_i payload form
      obtain ⟨value, hvalue, rfl⟩ := Option.map_eq_some_iff.mp h
      rw [Dim.SpelledBy]
      exact ⟨payload, Json.form?_eq_some_iff.mp form,
        Expr.spelledBy_of_decode? fuel payload value hvalue⟩
    · rename_i payload form
      obtain ⟨bounds, hbounds, rfl⟩ := Option.map_eq_some_iff.mp h
      rw [Dim.SpelledBy]
      exact ⟨payload, Json.form?_eq_some_iff.mp form,
        Slice.spelledBy_of_decode? fuel payload bounds hbounds⟩
    · cases h

theorem Slice.spelledBy_of_decode? : ∀ (fuel : Nat) (json : Json) (bounds : Slice),
    Slice.decode? source fuel json = some bounds → bounds.SpelledBy source json
  | 0, json, bounds, h => by cases h
  | fuel + 1, json, bounds, h => by
    rw [Slice.decode?] at h
    split at h
    · rename_i low high stride place found
      obtain ⟨lower, hlower, h⟩ := Option.bind_eq_some_iff.mp h
      obtain ⟨upper, hupper, h⟩ := Option.bind_eq_some_iff.mp h
      obtain ⟨step, hstep, h⟩ := Option.bind_eq_some_iff.mp h
      obtain ⟨pos, hpos, h⟩ := Option.bind_eq_some_iff.mp h
      cases h
      have sound := Expr.spelledBy_of_decode? fuel
      rw [Slice.SpelledBy]
      exact ⟨low, high, stride, place, Json.fields?_eq_some_iff.mp found,
        Expr.optionSpelledBy_of_optional? source sound hlower,
        Expr.optionSpelledBy_of_optional? source sound hupper,
        Expr.optionSpelledBy_of_optional? source sound hstep,
        Position.decode?_eq_some_iff.mp hpos⟩
    · cases h

end

mutual

/-- A value that decodes to a statement spells it. -/
theorem Stmt.spelledBy_of_decode? : ∀ (fuel : Nat) (json : Json) (stmt : Stmt),
    Stmt.decode? source fuel json = some stmt → stmt.SpelledBy source json
  | 0, json, stmt, h => by cases h
  | fuel + 1, json, stmt, h => by
    rw [Stmt.decode?] at h
    split at h
    · rename_i kind pos found
      obtain ⟨make, hmake, h⟩ := Option.bind_eq_some_iff.mp h
      obtain ⟨place, hplace, h⟩ := Option.bind_eq_some_iff.mp h
      cases h
      obtain ⟨spelled, at'⟩ := Stmt.kindSpelledBy_of_decodeKind? fuel kind make hmake place
      rw [Stmt.SpelledBy, at']
      exact ⟨kind, pos, Json.fields?_eq_some_iff.mp found, spelled,
        Position.decode?_eq_some_iff.mp hplace⟩
    · cases h

theorem Stmt.kindSpelledBy_of_decodeKind? : ∀ (fuel : Nat) (json : Json) (make : Position → Stmt),
    Stmt.decodeKind? source fuel json = some make →
      ∀ pos, (make pos).KindSpelledBy source json ∧ (make pos).pos = pos
  | 0, json, make, h, pos => by cases h
  | fuel + 1, json, make, h, pos => by
    have sound := Expr.spelledBy_of_decode? source fuel
    have stmts := Stmt.spelledBy_of_decode? fuel
    rw [Stmt.decodeKind?] at h
    split at h
    · rename_i payload form
      obtain ⟨definition, hdefinition, h⟩ := Option.bind_eq_some_iff.mp h
      cases h
      refine ⟨?_, rfl⟩
      rw [Stmt.KindSpelledBy]
      exact ⟨payload, Json.form?_eq_some_iff.mp form,
        FunctionDef.spelledBy_of_decode? fuel payload definition hdefinition⟩
    · rename_i payload form
      split at h
      · rename_i left right found
        obtain ⟨target, htarget, h⟩ := Option.bind_eq_some_iff.mp h
        obtain ⟨value, hvalue, h⟩ := Option.bind_eq_some_iff.mp h
        cases h
        refine ⟨?_, rfl⟩
        rw [Stmt.KindSpelledBy]
        exact ⟨payload, left, right, Json.form?_eq_some_iff.mp form,
          Json.formFields?_eq_some_iff.mp found, sound left target htarget,
          sound right value hvalue⟩
      · cases h
    · rename_i payload form
      split at h
      · rename_i left operator right found
        obtain ⟨target, htarget, h⟩ := Option.bind_eq_some_iff.mp h
        obtain ⟨op, hop, h⟩ := Option.bind_eq_some_iff.mp h
        obtain ⟨value, hvalue, h⟩ := Option.bind_eq_some_iff.mp h
        cases h
        refine ⟨?_, rfl⟩
        rw [Stmt.KindSpelledBy]
        exact ⟨payload, left, operator, right, Json.form?_eq_some_iff.mp form,
          Json.formFields?_eq_some_iff.mp found, sound left target htarget,
          BinaryOperator.decode?_eq_some_iff.mp hop, sound right value hvalue⟩
      · cases h
    · rename_i payload form
      split at h
      · rename_i condition first second found
        obtain ⟨test, htest, h⟩ := Option.bind_eq_some_iff.mp h
        obtain ⟨body, hbody, h⟩ := Option.bind_eq_some_iff.mp h
        obtain ⟨orelse, horelse, h⟩ := Option.bind_eq_some_iff.mp h
        cases h
        obtain ⟨items, rfl, each⟩ := Stmt.allSpelledBy_of_arrayOf? source stmts hbody
        obtain ⟨others, rfl, rest⟩ := Stmt.allSpelledBy_of_arrayOf? source stmts horelse
        refine ⟨?_, rfl⟩
        rw [Stmt.KindSpelledBy]
        exact ⟨payload, condition, items, others, Json.form?_eq_some_iff.mp form,
          Json.formFields?_eq_some_iff.mp found, sound condition test htest, each, rest⟩
      · cases h
    · rename_i payload form
      split at h
      · rename_i condition first second found
        obtain ⟨test, htest, h⟩ := Option.bind_eq_some_iff.mp h
        obtain ⟨body, hbody, h⟩ := Option.bind_eq_some_iff.mp h
        obtain ⟨orelse, horelse, h⟩ := Option.bind_eq_some_iff.mp h
        cases h
        obtain ⟨items, rfl, each⟩ := Stmt.allSpelledBy_of_arrayOf? source stmts hbody
        obtain ⟨others, rfl, rest⟩ := Stmt.allSpelledBy_of_arrayOf? source stmts horelse
        refine ⟨?_, rfl⟩
        rw [Stmt.KindSpelledBy]
        exact ⟨payload, condition, items, others, Json.form?_eq_some_iff.mp form,
          Json.formFields?_eq_some_iff.mp found, sound condition test htest, each, rest⟩
      · cases h
    · rename_i payload form
      split at h
      · rename_i left iterable first second found
        obtain ⟨target, htarget, h⟩ := Option.bind_eq_some_iff.mp h
        obtain ⟨iter, hiter, h⟩ := Option.bind_eq_some_iff.mp h
        obtain ⟨body, hbody, h⟩ := Option.bind_eq_some_iff.mp h
        obtain ⟨orelse, horelse, h⟩ := Option.bind_eq_some_iff.mp h
        cases h
        obtain ⟨items, rfl, each⟩ := Stmt.allSpelledBy_of_arrayOf? source stmts hbody
        obtain ⟨others, rfl, rest⟩ := Stmt.allSpelledBy_of_arrayOf? source stmts horelse
        refine ⟨?_, rfl⟩
        rw [Stmt.KindSpelledBy]
        exact ⟨payload, left, iterable, items, others, Json.form?_eq_some_iff.mp form,
          Json.formFields?_eq_some_iff.mp found, sound left target htarget,
          sound iterable iter hiter, each, rest⟩
      · cases h
    · rename_i payload form
      split at h
      · rename_i field found
        obtain ⟨value, hvalue, h⟩ := Option.bind_eq_some_iff.mp h
        cases h
        refine ⟨?_, rfl⟩
        rw [Stmt.KindSpelledBy]
        exact ⟨payload, field, Json.form?_eq_some_iff.mp form,
          Json.formFields?_eq_some_iff.mp found,
          Expr.optionSpelledBy_of_optional? source sound hvalue⟩
      · cases h
    · rename_i payload form
      split at h
      · rename_i array found
        obtain ⟨values, hvalues, h⟩ := Option.bind_eq_some_iff.mp h
        cases h
        obtain ⟨items, rfl, spelled⟩ := Expr.allSpelledBy_of_arrayOf? source sound hvalues
        refine ⟨?_, rfl⟩
        rw [Stmt.KindSpelledBy]
        exact ⟨payload, items, Json.form?_eq_some_iff.mp form,
          Json.formFields?_eq_some_iff.mp found, spelled⟩
      · cases h
    · rename_i payload form
      obtain ⟨kind, hkind, h⟩ := Option.bind_eq_some_iff.mp h
      cases h
      rw [Json.string?_eq_some_iff.mp hkind] at form
      refine ⟨?_, rfl⟩
      rw [Stmt.KindSpelledBy]
      exact Json.form?_eq_some_iff.mp form
    · cases h

theorem FunctionDef.spelledBy_of_decode? : ∀ (fuel : Nat) (json : Json) (definition : FunctionDef),
    FunctionDef.decode? source fuel json = some definition → definition.SpelledBy source json
  | 0, json, definition, h => by cases h
  | fuel + 1, json, definition, h => by
    rw [FunctionDef.decode?] at h
    split at h
    · rename_i label names items place found
      obtain ⟨name, hname, h⟩ := Option.bind_eq_some_iff.mp h
      obtain ⟨params, hparams, h⟩ := Option.bind_eq_some_iff.mp h
      obtain ⟨body, hbody, h⟩ := Option.bind_eq_some_iff.mp h
      obtain ⟨pos, hpos, h⟩ := Option.bind_eq_some_iff.mp h
      cases h
      rw [Json.string?_eq_some_iff.mp hname] at found
      obtain ⟨names, rfl, each⟩ := Json.arrayOf?_eq_some_iff.mp hparams
      obtain ⟨items, rfl, spelled⟩ :=
        Stmt.allSpelledBy_of_arrayOf? source (Stmt.spelledBy_of_decode? fuel) hbody
      rw [FunctionDef.SpelledBy]
      exact ⟨names, items, place, Json.fields?_eq_some_iff.mp found,
        each.imp fun param item => Param.decode?_eq_some_iff.mp, spelled,
        Position.decode?_eq_some_iff.mp hpos⟩
    · cases h

end

/-! ## Programs -/

variable {source}

/-- A value that decodes to a program spells it. -/
theorem Program.spelledBy_of_decode? {json : Json} {program : Program}
    (h : Program.decode? source json = some program) : program.SpelledBy source json := by
  unfold Program.decode? at h
  split at h
  · rename_i body imports found
    obtain ⟨stmts, hstmts, made⟩ := Option.bind_eq_some_iff.mp h
    obtain ⟨items, rfl, spelled⟩ := Stmt.allSpelledBy_of_arrayOf? source
      (fun item stmt => Stmt.spelledBy_of_decode? source _ item stmt) hstmts
    have struct : json.IsStruct ["body", "imports"] [some (.array items), imports] ∨
        json = .array [.array items] ∧ imports = none := by
      unfold Program.fields? at found
      split at found
      · cases found
        exact .inr ⟨rfl, rfl⟩
      · exact .inl (Json.fields?_eq_some_iff.mp found)
    cases imports with
    | none =>
      cases made
      exact ⟨items, none, struct.imp_right (fun whole => ⟨whole.1, rfl⟩), spelled, .nil⟩
    | some field =>
      obtain ⟨entries, hentries, made⟩ := Option.bind_eq_some_iff.mp made
      cases made
      obtain ⟨others, rfl, each⟩ := Json.arrayOf?_eq_some_iff.mp hentries
      exact ⟨items, some others, struct.imp_right (fun whole => by cases whole.2), spelled,
        each.imp fun entry item => Import.decode?_eq_some_iff.mp⟩
  · cases h

end

end CallForm

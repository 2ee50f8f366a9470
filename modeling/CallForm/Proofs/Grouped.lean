-- What every compiled form keeps that a function compiles to: the names are
-- identifiers if those of the function are, and where everything is to be
-- grouped every operation has parentheses.
import CallForm.Proofs.Grouping
import CallForm.Proofs.Provenance

namespace CallForm

/-! ## Names -/

/-- A function that is written with identifiers for names. -/
def FunctionDef.IsNamed (definition : FunctionDef) : Prop :=
  ∀ origin ∈ definition.origins, ∀ name ∈ origin.names, isIdentifier name = true

instance (definition : FunctionDef) : Decidable definition.IsNamed :=
  inferInstanceAs (Decidable (∀ origin ∈ definition.origins, _))

section

variable {env : Environment} {origins : List Origin}

theorem Ir.IsNamed.builds (readable : env.IsReadable)
    (hnames : ∀ origin ∈ origins, ∀ name ∈ origin.names, isIdentifier name = true) :
    Builds env origins Ir.IsNamed where
  number _ := trivial
  string _ := trivial
  symbol h := h.good_name (by decide) readable hnames
  call h hargs := ⟨h.good_name (by decide) readable hnames, Ir.allLeaves_iff.mpr hargs⟩
  between _ _ _ hleft hright := ⟨hleft, hright⟩
  before _ _ _ h := h
  group h := h
  sequence h := Ir.allLeaves_iff.mpr h

theorem FunctionDef.isNamed_compile {definition : FunctionDef} (readable : env.IsReadable)
    (named : definition.IsNamed) {ir : Ir} (compiled : definition.compile env = .ok ir) :
    ir.IsNamed :=
  definition.built_compile (Ir.IsNamed.builds readable named) compiled

/-! ## Parentheses -/

mutual

/-- Every operation in a compiled form has parentheses: around itself if it stands between two
operands, around its operand if it stands in front of one. -/
def Ir.IsGrouped : Ir → Prop
  | .symbol _ | .number _ | .string _ => True
  | .call _ args => Ir.AllGrouped args
  | .between left _ right grouped => grouped = true ∧ left.IsGrouped ∧ right.IsGrouped
  | .before _ operand grouped => grouped = true ∧ operand.IsGrouped
  | .group inner => inner.IsGrouped
  | .sequence items => Ir.AllGrouped items

/-- Every operation in several compiled forms has parentheses. -/
def Ir.AllGrouped : List Ir → Prop
  | [] => True
  | item :: rest => item.IsGrouped ∧ Ir.AllGrouped rest

end

theorem Ir.allGrouped_iff {items : List Ir} :
    Ir.AllGrouped items ↔ ∀ item ∈ items, item.IsGrouped := by
  induction items with
  | nil => simp [AllGrouped]
  | cons item rest ih => simp [AllGrouped, ih]

theorem Ir.IsGrouped.builds (aggressively : env.groupAggressively = true) :
    Builds env origins Ir.IsGrouped where
  number _ := trivial
  string _ := trivial
  symbol _ := trivial
  call _ hargs := Ir.allGrouped_iff.mpr hargs
  between _ _ grouped hleft hright := ⟨grouped aggressively, hleft, hright⟩
  before _ _ grouped h := ⟨grouped aggressively, h⟩
  group h := h
  sequence h := Ir.allGrouped_iff.mpr h

theorem FunctionDef.isGrouped_compile {definition : FunctionDef}
    (aggressively : env.groupAggressively = true) {ir : Ir}
    (compiled : definition.compile env = .ok ir) : ir.IsGrouped :=
  definition.built_compile (Ir.IsGrouped.builds aggressively) compiled

end

end CallForm

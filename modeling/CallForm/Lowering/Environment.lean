-- What a compilation reads and never changes: the primitives that members
-- stand for, the modules in sight, and how much to parenthesize.
import CallForm.Registry

namespace CallForm

/-! ## References -/

/-- The primitives that the members of numeric libraries stand for. -/
structure ReferenceTable where
  primitives : Registry String

namespace ReferenceTable

/-- The members known to every compilation. -/
def builtinEntries : List (String × String) :=
  [("argmax", "argmax"), ("argmin", "argmin"), ("cross", "cross"), ("det", "determinant"),
    ("diagonal", "diag"), ("dot", "dot"), ("exp", "exp"), ("hstack", "hstack"),
    ("identity", "identity"), ("inverse", "inverse"), ("linspace", "linspace"),
    ("power", "power"), ("random", "random"), ("shape", "shape"), ("sqrt", "square_root"),
    ("transpose", "transpose"), ("vstack", "vstack")]

/-- The table known to every compilation. -/
def builtin : ReferenceTable := ⟨Registry.ofList builtinEntries⟩

/-- The built-in table with more entries; on a conflict the later entry wins. -/
def extended (extra : List (String × String)) : ReferenceTable :=
  ⟨builtin.primitives.insertAll extra⟩

/-- The primitive a member stands for. -/
def resolve? (table : ReferenceTable) (member : String) : Option String :=
  table.primitives.get? member

/-- The name emitted for a member: its primitive, or itself if it has none. -/
def head (table : ReferenceTable) (member : String) : String :=
  (table.resolve? member).getD member

end ReferenceTable

/-! ## Modules -/

/-- The names that stand for modules, each with the members it exposes. -/
structure ModuleBindings where
  members : Registry (List String)

namespace ModuleBindings

/-- No name stands for a module. -/
def empty : ModuleBindings := ⟨Registry.empty⟩

/-- Binds a name to a module with these members, beside those it exposes already. -/
def bind (bindings : ModuleBindings) (binding : String) (members : List String) :
    ModuleBindings :=
  ⟨bindings.members.insert binding ((bindings.members.get? binding).getD [] ++ members)⟩

/-- Whether a name stands for a module that exposes a member. -/
def exposes (bindings : ModuleBindings) (binding member : String) : Bool :=
  match bindings.members.get? binding with
  | some members => decide (member ∈ members)
  | none => false

end ModuleBindings

/-! ## The environment -/

/-- Everything a compilation reads. With `groupAggressively` every compound expression is put in
parentheses; without it only where priorities ask for them. -/
structure Environment where
  references : ReferenceTable := ReferenceTable.builtin
  modules : ModuleBindings := ModuleBindings.empty
  groupAggressively : Bool := true

instance : Inhabited Environment := ⟨{}⟩

end CallForm

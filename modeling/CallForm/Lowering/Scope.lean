-- The names bound so far in the function being compiled. The scope is
-- flat: a name bound anywhere stays bound to the end of the function.
import CallForm.Ir.Primitive

namespace CallForm

/-- What an assignment to a name does: the first one defines it, later ones store to it. -/
inductive Binding
  | define | store
deriving Repr, DecidableEq

/-- The primitive that stands for a binding. -/
def Binding.primitive : Binding → String
  | .define => Primitive.define
  | .store => Primitive.store

/-- The bound names, newest first; none stands twice. -/
structure Scope where
  names : List String
  nodup : names.Nodup

namespace Scope

/-- Nothing is bound. -/
def empty : Scope := ⟨[], List.nodup_nil⟩

instance : Inhabited Scope := ⟨empty⟩

/-- Whether a name is bound. -/
def isBound (scope : Scope) (name : String) : Bool := decide (name ∈ scope.names)

/-- Binds a name. -/
def bind (scope : Scope) (name : String) : Scope :=
  if h : name ∈ scope.names then scope
  else ⟨name :: scope.names, List.nodup_cons.mpr ⟨h, scope.nodup⟩⟩

/-- What an assignment to a name does in this scope. -/
def bindingOf (scope : Scope) (name : String) : Binding :=
  if scope.isBound name then .store else .define

/-- The scope of a function that has only bound its parameters. -/
def ofParams (names : List String) : Scope :=
  names.foldl bind empty

/-- How many names are bound. -/
def size (scope : Scope) : Nat := scope.names.length

/-- Whether nothing is bound. -/
def isEmpty (scope : Scope) : Bool := scope.names.isEmpty

theorem mem_names_bind (scope : Scope) (name other : String) :
    other ∈ (scope.bind name).names ↔ other = name ∨ other ∈ scope.names := by
  unfold bind
  split
  · rename_i bound
    constructor
    · exact Or.inr
    · rintro (rfl | h)
      · exact bound
      · exact h
  · exact List.mem_cons

theorem isBound_bind (scope : Scope) (name other : String) :
    (scope.bind name).isBound other = (decide (other = name) || scope.isBound other) := by
  simp [isBound, mem_names_bind]

end Scope

end CallForm

-- The walk of lowering over a function: every statement and expression it
-- comes by, in the order in which it does, with what is bound there. Each
-- one can be at fault by itself, and a function fails with the first fault
-- of its walk or compiles if there is none.
import CallForm.Proofs.Body

namespace CallForm

/-! ## What is visited -/

/-- A stop of the walk: an expression or a statement, or the index of a subscript that is read or
written. Names and attributes that are called, names whose members are read and targets that are
written belong to the stop they stand in. -/
inductive Visit
  | expr (value : Expr)
  | selector (pos : Position) (index : Index)
  | target (line : UInt32) (index : Index)
  | stmt (last : Bool) (value : Stmt)

/-- An attribute `object.member` that is read, or called with arguments. -/
structure Access where
  pos : Position
  object : Expr
  member : String
  args : List Expr

/-- An expression as an attribute that is read or called, if it is one. -/
def Expr.access? : Expr → Option Access
  | .attribute pos object member => some ⟨pos, object, member, []⟩
  | .call _ (.attribute pos object member) args => some ⟨pos, object, member, args⟩
  | _ => none

/-- Where a stop is made: the names that complete statements in front of it assign, and those
that are bound besides although their assignment is not complete yet, or stands behind. -/
structure Place where
  before : List String
  early : List String := []
deriving Repr, DecidableEq

/-- The scope of a place in a function that starts with the names of `start` bound. -/
def Place.scope (start : Scope) (place : Place) : Scope :=
  (start.bindAll place.before).bindAll place.early

/-- The walk inside the object of an attribute. A name is no stop of its own, and any other
object is passed over unless it is entered. -/
def objectVisits (enters : Expr → String → Bool) (object : Expr) (member : String)
    (inside : List (Place × Visit)) : List (Place × Visit) :=
  match object with
  | .name .. => []
  | _ => if enters object member then inside else []

section

variable (enters : Expr → String → Bool) (place : Place)

mutual

/-- The walk over an expression. `enters` tells for the object of an attribute and the member
whether the walk goes inside. -/
def Expr.visits : Expr → List (Place × Visit)
  | .binary pos left op right =>
    (place, .expr (.binary pos left op right)) :: (left.visits ++ right.visits)
  | .unary pos op operand => (place, .expr (.unary pos op operand)) :: operand.visits
  | .compare pos left ops comparators =>
    (place, .expr (.compare pos left ops comparators)) ::
      (left.visits ++ Expr.visitsAll comparators)
  | .call pos (.name at' id) args =>
    (place, .expr (.call pos (.name at' id) args)) :: Expr.visitsAll args
  | .call pos (.attribute at' object member) args =>
    (place, .expr (.call pos (.attribute at' object member) args)) ::
      (objectVisits enters object member object.visits ++ Expr.visitsAll args)
  | .call pos callee args =>
    (place, .expr (.call pos callee args)) :: (callee.visits ++ Expr.visitsAll args)
  | .attribute pos object member =>
    (place, .expr (.attribute pos object member)) ::
      objectVisits enters object member object.visits
  | .subscript pos base index =>
    (place, .expr (.subscript pos base index)) ::
      (base.visits ++ (place, .selector pos index) :: index.visits)
  | .list pos items => (place, .expr (.list pos items)) :: Expr.visitsAll items
  | .tuple pos items => (place, .expr (.tuple pos items)) :: Expr.visitsAll items
  | .lambda pos params body => (place, .expr (.lambda pos params body)) :: body.visits
  | value => [(place, .expr value)]

/-- The walk over several expressions, in order. -/
def Expr.visitsAll : List Expr → List (Place × Visit)
  | [] => []
  | value :: rest => value.visits ++ Expr.visitsAll rest

/-- The walk over an expression that may be missing. -/
def Expr.visitsOf : Option Expr → List (Place × Visit)
  | none => []
  | some value => value.visits

/-- The walk over what stands between the brackets of a subscript. -/
def Index.visits : Index → List (Place × Visit)
  | .item value => value.visits
  | .slice bounds => bounds.visits
  | .dims parts => Dim.visitsAll parts

/-- The walk over one dimension. -/
def Dim.visits : Dim → List (Place × Visit)
  | .item value => value.visits
  | .slice bounds => bounds.visits

/-- The walk over several dimensions, in order. -/
def Dim.visitsAll : List Dim → List (Place × Visit)
  | [] => []
  | part :: rest => part.visits ++ Dim.visitsAll rest

/-- The walk over the bounds of a slice. -/
def Slice.visits : Slice → List (Place × Visit)
  | .mk lower upper step _ =>
    Expr.visitsOf lower ++ (Expr.visitsOf upper ++ Expr.visitsOf step)

end

/-- The walk over the index of a subscript that is written. A tuple there is no stop of its own. -/
def Index.targetVisits : Index → List (Place × Visit)
  | .item (.tuple _ items) => Expr.visitsAll enters place items
  | index => index.visits enters place

end

section

variable (enters : Expr → String → Bool)

/-- The walk over the target and the value of an assignment. A name is bound while its value is
lowered. -/
def assignVisits (before : List String) (pos : Position) (target value : Expr) :
    List (Place × Visit) :=
  match target with
  | .name _ id => value.visits enters ⟨before, [id]⟩
  | .subscript _ base index =>
    base.visits enters ⟨before, []⟩ ++ (⟨before, []⟩, .target pos.line index) ::
      (index.targetVisits enters ⟨before, []⟩ ++ value.visits enters ⟨before, []⟩)
  | _ => target.visits enters ⟨before, []⟩ ++ value.visits enters ⟨before, []⟩

/-- The walk over the target and the value of an augmented assignment. -/
def augmentVisits (before : List String) (target value : Expr) : List (Place × Visit) :=
  match target with
  | .name .. => value.visits enters ⟨before, []⟩
  | _ => target.visits enters ⟨before, []⟩ ++ value.visits enters ⟨before, []⟩

mutual

/-- The walk over a statement in front of which `before` is assigned. `last` says that nothing of
the function runs after it. A loop over a sequence comes by its body before the sequence. -/
def Stmt.visits (before : List String) (last : Bool) : Stmt → List (Place × Visit)
  | .function pos (.mk name params body place) =>
    (⟨before, []⟩, .stmt last (.function pos (.mk name params body place))) ::
      Stmt.visitsAll before false body
  | .assign pos target value =>
    (⟨before, []⟩, .stmt last (.assign pos target value)) ::
      assignVisits enters before pos target value
  | .augment pos target op value =>
    (⟨before, []⟩, .stmt last (.augment pos target op value)) ::
      augmentVisits enters before target value
  | .branch pos test body orelse =>
    (⟨before, []⟩, .stmt last (.branch pos test body orelse)) ::
      (test.visits enters ⟨before, []⟩ ++ (Stmt.visitsAll before last body ++
        Stmt.visitsAll (before ++ Stmt.assignedIn body) last orelse))
  | .whileLoop pos test body orelse =>
    (⟨before, []⟩, .stmt last (.whileLoop pos test body orelse)) ::
      (test.visits enters ⟨before, []⟩ ++ (Stmt.visitsAll before false body ++
        Stmt.visitsAll (before ++ Stmt.assignedIn body) false orelse))
  | .forLoop pos target iter body orelse =>
    (⟨before, []⟩, .stmt last (.forLoop pos target iter body orelse)) ::
      (target.visits enters ⟨before, []⟩ ++ (Stmt.visitsAll before false body ++
        (iter.visits enters ⟨before, Stmt.assignedIn body⟩ ++
          Stmt.visitsAll (before ++ Stmt.assignedIn body) false orelse)))
  | .ret pos value =>
    (⟨before, []⟩, .stmt last (.ret pos value)) :: Expr.visitsOf enters ⟨before, []⟩ value
  | .expr pos values =>
    (⟨before, []⟩, .stmt last (.expr pos values)) :: Expr.visitsAll enters ⟨before, []⟩ values
  | .unknown pos kind => [(⟨before, []⟩, .stmt last (.unknown pos kind))]

/-- The walk over statements, one after another. -/
def Stmt.visitsAll (before : List String) (last : Bool) : List Stmt → List (Place × Visit)
  | [] => []
  | stmt :: rest =>
    stmt.visits before (last && rest.isEmpty) ++
      Stmt.visitsAll (before ++ stmt.assigned) last rest

end

/-- The walk over the body of a function. -/
def FunctionDef.visits (definition : FunctionDef) : List (Place × Visit) :=
  Stmt.visitsAll enters [] true definition.body

end

end CallForm

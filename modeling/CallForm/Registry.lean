-- Values under names, in the order in which the names first came.
namespace CallForm

namespace Registry

/-! ## The entries -/

/-- The value of the first entry under a name. -/
def find? {α : Type} (name : String) : List (String × α) → Option α
  | [] => none
  | (key, value) :: rest => if key = name then some value else find? name rest

/-- The entries with a value under a name: in the name's own place if it has one, else last. -/
def put {α : Type} (name : String) (value : α) : List (String × α) → List (String × α)
  | [] => [(name, value)]
  | (key, old) :: rest =>
    if key = name then (key, value) :: rest else (key, old) :: put name value rest

theorem mem_of_find? {α : Type} {name : String} {value : α}
    {entries : List (String × α)} (h : find? name entries = some value) :
    (name, value) ∈ entries := by
  induction entries with
  | nil => cases h
  | cons entry rest ih =>
    obtain ⟨key, old⟩ := entry
    rw [find?] at h
    split at h
    · rename_i same
      cases h
      rw [same]
      exact List.mem_cons_self
    · exact List.mem_cons_of_mem _ (ih h)

theorem keys_put {α : Type} (name : String) (value : α) (entries : List (String × α)) :
    (put name value entries).map Prod.fst =
      if name ∈ entries.map Prod.fst then entries.map Prod.fst
      else entries.map Prod.fst ++ [name] := by
  induction entries with
  | nil => simp [put]
  | cons entry rest ih =>
    obtain ⟨key, old⟩ := entry
    by_cases same : key = name
    · simp [put, same]
    · have other : ¬ name = key := fun h => same h.symm
      simp only [put, same, if_false, List.map_cons, ih, List.mem_cons, other, false_or]
      split <;> simp

theorem nodup_put {α : Type} (name : String) (value : α) (entries : List (String × α))
    (h : (entries.map Prod.fst).Nodup) : ((put name value entries).map Prod.fst).Nodup := by
  rw [keys_put]
  split
  · exact h
  · rename_i fresh
    rw [List.nodup_append]
    refine ⟨h, List.nodup_cons.mpr ⟨List.not_mem_nil, List.nodup_nil⟩, ?_⟩
    intro a old b new eq
    rw [List.mem_singleton] at new
    exact fresh (new ▸ eq ▸ old)

theorem find?_put {α : Type} (name other : String) (value : α) (entries : List (String × α)) :
    find? other (put name value entries) =
      if name = other then some value else find? other entries := by
  induction entries with
  | nil => simp [put, find?]
  | cons entry rest ih =>
    obtain ⟨key, old⟩ := entry
    by_cases same : key = name
    · by_cases here : name = other <;> simp [put, find?, same, here]
    · by_cases here : key = other
      · have apart : ¬ other = name := fun h => same (here.trans h)
        have apart' : ¬ name = other := fun h => apart h.symm
        simp [put, find?, here, apart, apart']
      · simp [put, find?, same, here, ih]

end Registry

/-! ## The type -/

/-- Values under names; no name has two. -/
structure Registry (α : Type) where
  entries : List (String × α)
  nodup : (entries.map Prod.fst).Nodup

namespace Registry

variable {α : Type}

/-- Nothing under any name. -/
def empty : Registry α := ⟨[], List.nodup_nil⟩

instance : Inhabited (Registry α) := ⟨empty⟩

/-- The value under a name. -/
def get? (registry : Registry α) (name : String) : Option α :=
  find? name registry.entries

/-- Puts a value under a name; a name that has one keeps its place. -/
def insert (registry : Registry α) (name : String) (value : α) : Registry α :=
  ⟨put name value registry.entries, nodup_put name value registry.entries registry.nodup⟩

/-- Puts values under names one after another. -/
def insertAll (registry : Registry α) (entries : List (String × α)) : Registry α :=
  entries.foldl (fun found (name, value) => found.insert name value) registry

/-- A registry made by putting values under names one after another. -/
def ofList (entries : List (String × α)) : Registry α :=
  empty.insertAll entries

/-- How many names have a value. -/
def size (registry : Registry α) : Nat := registry.entries.length

/-- Whether no name has a value. -/
def isEmpty (registry : Registry α) : Bool := registry.entries.isEmpty

theorem get?_insert (registry : Registry α) (name other : String) (value : α) :
    (registry.insert name value).get? other =
      if name = other then some value else registry.get? other :=
  find?_put name other value registry.entries

end Registry

end CallForm

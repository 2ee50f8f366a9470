-- Which paths are taken for source files.
namespace CallForm

/-- The last name on a path, if the path does not end in a step up. A step that stays where it is
does not count. -/
def fileName? (path : String) : Option String :=
  match ((path.splitOn "/").filter fun step => step != "" && step != ".").getLast? with
  | some ".." | none => none
  | some name => some name

/-- The part of a file name after its last dot. A dot that only opens the name does not count. -/
def extension? (name : String) : Option String :=
  let backwards := name.toList.reverse
  match backwards.dropWhile (· != '.') with
  | [] | [_] => none
  | _ :: _ :: _ => some (String.ofList (backwards.takeWhile (· != '.')).reverse)

/-- The extension of a name is what stands behind its last dot, if something stands in front of
that dot. -/
theorem extension?_eq_some_iff {name ext : String} :
    extension? name = some ext ↔
      ∃ stem, stem ≠ [] ∧ name.toList = stem ++ '.' :: ext.toList ∧ '.' ∉ ext.toList := by
  unfold extension?
  dsimp only
  constructor
  · intro h
    have split := List.takeWhile_append_dropWhile (p := (· != '.')) (l := name.toList.reverse)
    have before : ∀ c ∈ name.toList.reverse.takeWhile (· != '.'), (c != '.') = true :=
      List.all_eq_true.mp List.all_takeWhile
    have dot := List.head?_dropWhile_not (· != '.') name.toList.reverse
    revert h split before dot
    generalize name.toList.reverse.takeWhile (· != '.') = after
    generalize name.toList.reverse.dropWhile (· != '.') = rest
    intro h split before dot
    rcases rest with _ | ⟨c, _ | ⟨d, others⟩⟩
    · cases h
    · cases h
    · cases h
      obtain rfl : c = '.' := by simpa using dot
      refine ⟨(d :: others).reverse, by simp, ?_, ?_⟩
      · rw [String.toList_ofList, ← List.reverse_reverse name.toList, ← split]
        simp
      · rw [String.toList_ofList, List.mem_reverse]
        exact fun found => absurd (before '.' found) (by decide)
  · rintro ⟨stem, nonempty, split, clean⟩
    have reversed : name.toList.reverse = ext.toList.reverse ++ '.' :: stem.reverse := by
      rw [split]
      simp
    have before : ∀ c ∈ ext.toList.reverse, (c != '.') = true := by
      intro c found
      have : c ≠ '.' := by
        rintro rfl
        exact clean (List.mem_reverse.mp found)
      simpa using this
    rw [reversed, List.takeWhile_append_of_pos before, List.dropWhile_append_of_pos before]
    obtain ⟨c, others, shape⟩ := List.exists_cons_of_ne_nil
      (fun empty => nonempty (List.reverse_eq_nil_iff.mp empty) : stem.reverse ≠ [])
    rw [shape]
    simp

/-- Whether a path is that of a source file. -/
def isSourcePath (path : String) : Bool :=
  ((fileName? path).bind extension?) == some "py"

/-- A path is that of a source file if its last name is a stem with `.py` behind it. -/
theorem isSourcePath_iff (path : String) :
    isSourcePath path = true ↔
      ∃ name stem, fileName? path = some name ∧ stem ≠ [] ∧
        name.toList = stem ++ ['.', 'p', 'y'] := by
  unfold isSourcePath
  rw [beq_iff_eq, Option.bind_eq_some_iff]
  constructor
  · rintro ⟨name, last, extended⟩
    obtain ⟨stem, nonempty, split, _⟩ := extension?_eq_some_iff.mp extended
    exact ⟨name, stem, last, nonempty, split⟩
  · rintro ⟨name, stem, last, nonempty, split⟩
    exact ⟨name, last, extension?_eq_some_iff.mpr ⟨stem, nonempty, split, by decide⟩⟩

end CallForm

-- Reading a source text: a parser makes nodes of it, and what the nodes say
-- becomes a tree, unless one of them is an error.
import CallForm.Source.Converter
import CallForm.Source.Statements

namespace CallForm

/-! ## Nodes that stand too far -/

namespace Converter

variable {source : String} {info : NodeInfo} {children : List SyntaxNode} {cause : SourceError}

/-- An expression whose point does not fit 32 bits is refused for that, whatever else it holds. -/
theorem expr_overflow (h : info.span.point.position = .error cause) :
    expr source (.mk info children) = .error cause := by
  rw [expr, h]
  rfl

/-- A statement whose point does not fit 32 bits is refused for that. -/
theorem stmt_overflow (h : info.span.point.position = .error cause) :
    stmt source (.mk info children) = .error cause := by
  rw [stmt, h]
  rfl

/-- A parameter whose point does not fit 32 bits is refused for that. -/
theorem param_overflow (h : info.span.point.position = .error cause) :
    param source (.mk info children) = .error cause := by
  unfold param
  rw [SyntaxNode.info, h]
  rfl

end Converter

/-! ## Whole texts -/

namespace SourceParser

/-- The program of a source text. The first error in the nodes of the text is reported, and the
nodes are read only if there is none. -/
def program (parser : SourceParser) (text : String) : Except SourceError Program := do
  let root ← parser.root text
  match root.firstError? with
  | some found => .error (found.report text)
  | none => Converter.program text root

variable {parser : SourceParser} {text : String}

/-- A text is read as a program exactly if its nodes hold no error and say the program. -/
theorem program_eq_ok_iff {program : Program} :
    parser.program text = .ok program ↔ ∃ root, parser.root text = .ok root ∧
      root.hasError = false ∧ Converter.program text root = .ok program := by
  unfold SourceParser.program
  cases parser.root text with
  | error cause =>
    constructor
    · intro h
      cases h
    · rintro ⟨_, h, _⟩
      cases h
  | ok root =>
    have errors := root.isSome_firstError?
    dsimp only [bind, Except.bind]
    cases found : root.firstError? with
    | some node =>
      rw [found, Option.isSome_some] at errors
      constructor
      · intro h
        cases h
      · rintro ⟨_, ⟨⟩, clean, _⟩
        rw [clean] at errors
        cases errors
    | none =>
      rw [found, Option.isSome_none] at errors
      constructor
      · intro h
        exact ⟨root, rfl, errors.symm, h⟩
      · rintro ⟨_, ⟨⟩, _, h⟩
        exact h

/-- If the nodes of a text hold an error, the first one is reported. -/
theorem program_of_hasError {root : SyntaxNode} (h : parser.root text = .ok root)
    (broken : root.hasError = true) :
    ∃ found, root.firstError? = some found ∧
      parser.program text = .error (found.report text) := by
  rw [← root.isSome_firstError?] at broken
  obtain ⟨found, first⟩ := Option.isSome_iff_exists.mp broken
  refine ⟨found, first, ?_⟩
  unfold SourceParser.program
  rw [h]
  dsimp only [bind, Except.bind]
  rw [first]

end SourceParser

/-- The program of a source text that the grammars of this library read. -/
def Program.ofSource (text : String) : Except SourceError Program := grammarParser.program text

end CallForm

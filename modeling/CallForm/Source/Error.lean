-- Why a source text does not become a tree, and how that is told.
import CallForm.Position

namespace CallForm

/-- The reasons for a source text not to become a tree. -/
inductive SourceError
  | language (reason : String)
  | failed
  | syntaxError (pos : Position) (found : String)
  | unsupportedParameter (kind : String) (pos : Position)
  | invalidLiteral (literal : String) (line : UInt32)
  | positionOverflow (row column : Nat)
  | malformed (kind : String) (pos : Position)
deriving Repr, DecidableEq

namespace SourceError

/-- The sentence that tells the cause. -/
def message : SourceError → String
  | .language reason => "failed to load the Python grammar: " ++ reason
  | .failed => "tree-sitter parse failed"
  | .syntaxError pos found =>
    "syntax error at line " ++ toString pos.line.toNat ++ ", column " ++
      toString pos.column.toNat ++ ": " ++ found
  | .unsupportedParameter kind pos =>
    "unsupported parameter form `" ++ kind ++ "` at line " ++ toString pos.line.toNat ++
      ", column " ++ toString pos.column.toNat
  | .invalidLiteral literal line =>
    "invalid numeric literal `" ++ literal ++ "` at line " ++ toString line.toNat
  | .positionOverflow row column =>
    "source position row " ++ toString row ++ ", column " ++ toString column ++
      " is out of range"
  | .malformed kind pos =>
    "malformed `" ++ kind ++ "` node at line " ++ toString pos.line.toNat ++ ", column " ++
      toString pos.column.toNat

/-- The short name of the cause. -/
def code : SourceError → String
  | .language .. => "parse::language"
  | .failed => "parse::failed"
  | .syntaxError .. => "parse::syntax"
  | .unsupportedParameter .. => "parse::unsupported_parameter"
  | .invalidLiteral .. => "parse::invalid_literal"
  | .positionOverflow .. => "parse::position_overflow"
  | .malformed .. => "parse::malformed"

/-- Advice on what to write instead, where there is any. -/
def help? : SourceError → Option String
  | .unsupportedParameter .. =>
    some "only positional parameters without defaults can be compiled"
  | .invalidLiteral .. => some "integers must fit in 64 bits and floats must be finite"
  | _ => none

end SourceError

end CallForm

-- Logical lines and blocks: the ends of lines inside brackets do not
-- count, a deeper line opens a block only after a colon, and a shallower
-- one closes every block that is deeper than it.
import CallForm.Source.Scan

namespace CallForm

namespace Lines

/-- Where the arrangement of lines stands: the indentations of the open blocks, innermost first,
the indentation of the current line, the number of open brackets, whether the line has a token
yet, and whether the last token was a colon outside of brackets. -/
structure State where
  blocks : List Nat := []
  indent : Nat := 0
  depth : Nat := 0
  started : Bool := false
  afterColon : Bool := false

/-- The indentation of the innermost open block. -/
def State.innermost (state : State) : Nat := state.blocks.head?.getD 0

/-- How many of the open blocks are deeper than an indentation, and the others. -/
def closedBlocks (indent : Nat) : List Nat → Nat × List Nat
  | [] => (0, [])
  | block :: rest =>
    if indent < block then
      let (count, open_) := closedBlocks indent rest
      (count + 1, open_)
    else (0, block :: rest)

/-- The lexemes that open and close blocks in front of the first token of a line, and the blocks
open after them. -/
def blockMarks (state : State) : List Lexeme × List Nat :=
  if state.afterColon && state.innermost < state.indent then
    ([.indent], state.indent :: state.blocks)
  else
    let (count, blocks) := closedBlocks state.indent state.blocks
    (List.replicate count .dedent, blocks)

/-- Whether a lexeme is a colon outside of brackets. -/
def isBareColon (depth : Nat) : Lexeme → Bool
  | .mark .colon => depth == 0
  | _ => false

/-- The state after a token that stands where `blocks` are open. -/
def State.afterToken (state : State) (blocks : List Nat) (lexeme : Lexeme) : State :=
  { state with
    blocks := blocks
    depth := Scan.depthAfter state.depth lexeme
    started := true
    afterColon := isBareColon state.depth lexeme }

/-- The tokens of a text with line ends and blocks marked. -/
def arrange (state : State) (last : Span) : List Scan.Piece → List Token
  | [] =>
    (if state.started then [⟨.newline, last⟩] else []) ++
      state.blocks.map fun _ => ⟨.dedent, last⟩
  | .line indent :: rest =>
    if state.depth > 0 then arrange state last rest
    else if state.started then
      ⟨.newline, last⟩ :: arrange { state with indent, started := false } last rest
    else arrange { state with indent } last rest
  | .token token :: rest =>
    if state.started then
      token :: arrange (state.afterToken state.blocks token.lexeme) token.span rest
    else
      let (marks, blocks) := blockMarks state
      marks.map (⟨·, token.span⟩) ++
        token :: arrange (state.afterToken blocks token.lexeme) token.span rest

end Lines

/-- The tokens of a source text; nothing if some part of it is no token. -/
def tokensOf? (text : String) : Option (List Token) :=
  (Scan.pieces? text.toList.length Cursor.start text.toList).map
    (Lines.arrange {} (Cursor.start.span []))

end CallForm

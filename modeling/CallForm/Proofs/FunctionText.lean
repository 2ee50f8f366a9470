-- The parser of this library on the text of a function that returns an
-- arithmetic expression: it makes the tree with whatever node the grammar
-- derives from the expression. So it goes by the grammar, and the grammar
-- derives only one node from a text.
import CallForm.Proofs.Scanning
import CallForm.Source.Statements

namespace CallForm

/-! ## Lines -/

namespace Lines

/-- The state after several tokens of a line that has already started. -/
def State.afterAll (state : State) (tokens : List Token) : State :=
  tokens.foldl (fun before token => before.afterToken before.blocks token.lexeme) state

/-- Tokens of a line that has started stay as they are. -/
theorem arrange_tokens (state : State) (h : state.started = true) (last : Span)
    (tokens : List Token) (rest : List Scan.Piece) :
    ∃ span, arrange state last (tokens.map .token ++ rest) =
      tokens ++ arrange (state.afterAll tokens) span rest := by
  induction tokens generalizing state last with
  | nil => exact ⟨last, rfl⟩
  | cons token others ih =>
    have started : (state.afterToken state.blocks token.lexeme).started = true := rfl
    obtain ⟨span, found⟩ := ih _ started token.span
    refine ⟨span, ?_⟩
    rw [List.map_cons, List.cons_append, arrange, if_pos h, found]
    rfl

end Lines

/-- What is derived closes every bracket that it opens. -/
theorem Grammar.Phrase.balanced {level : Level} {words : List Token} {node : SyntaxNode}
    (h : Grammar.Phrase level words node) (state : Lines.State) :
    state.afterAll words = { state with started := true, afterColon := false } := by
  induction h generalizing state with
  | integer => rfl
  | parenthesized opening closing _ ih =>
    simp only [Lines.State.afterAll, List.foldl_cons, List.foldl_append, List.foldl_nil] at ih ⊢
    rw [ih]
    rfl
  | unary span _ ih => exact ih _
  | binary span _ _ _ ihLeft ihRight =>
    simp only [Lines.State.afterAll, List.foldl_cons, List.foldl_append] at ihLeft ihRight ⊢
    rw [ihLeft, ihRight]
    rfl
  | tighter level _ ih => exact ih state

/-! ## The tokens of the function -/

/-- The place after characters of the same line. -/
theorem Cursor.afterAll_line (place : Cursor) {text : List Char} (oneLine : '\n' ∉ text) :
    place.afterAll text =
      ⟨place.row, place.column + byteCount text, place.byte + byteCount text⟩ := by
  induction text generalizing place with
  | nil => rfl
  | cons c rest ih =>
    simp only [List.mem_cons, not_or] at oneLine
    have one : place.after c = ⟨place.row, place.column + c.utf8Size, place.byte + c.utf8Size⟩ :=
      if_neg (Ne.symm oneLine.1)
    change (place.after c).afterAll rest = _
    rw [one, ih _ oneLine.2, byteCount_cons, Nat.add_assoc, Nat.add_assoc]

/-- The points of the bytes of a function whose first line has nine of them, and whose second line
is its last. -/
def functionPoint (start : Nat) : Point :=
  if start < 9 then ⟨0, start⟩ else ⟨1, (start - 9) % UInt32.size⟩

theorem pointsFit_functionPoint : Grammar.PointsFit functionPoint := by
  intro start
  unfold functionPoint
  split
  · simp only [UInt32.size]
    omega
  · exact ⟨(by decide : 1 + 1 < UInt32.size), Nat.mod_lt _ (by decide)⟩

namespace Scan

open Grammar

/-- The place where the second line starts. -/
theorem tells_functionPoint : Tells functionPoint ⟨1, 0, 9⟩ := by
  intro text oneLine
  rw [Cursor.afterAll_line _ oneLine, functionPoint, if_neg (by simp), Nat.add_sub_cancel_left,
    Cursor.point, Nat.zero_add]
  rfl

/-- The tokens of `def f():`. -/
def header : List Token :=
  [⟨.keyword "def", ⟨⟨0, 0⟩, 0, 3⟩⟩, ⟨.name "f", ⟨⟨0, 4⟩, 4, 5⟩⟩,
    ⟨.mark (.opening .round), ⟨⟨0, 5⟩, 5, 6⟩⟩, ⟨.mark (.closing .round), ⟨⟨0, 6⟩, 6, 7⟩⟩,
    ⟨.mark .colon, ⟨⟨0, 7⟩, 7, 8⟩⟩]

/-- The span of the word `return` in the second line. -/
def returnSpan : Span := ⟨⟨1, 4⟩, 13, 19⟩

theorem cuts_header (rest : List Char) :
    Cuts Cursor.start "def f():".toList ('\n' :: rest) header := by
  have colon : Cuts ⟨0, 7, 7⟩ [':'] ('\n' :: rest) [⟨.mark .colon, ⟨⟨0, 7⟩, 7, 8⟩⟩] :=
    .mark (by decide) (by decide) rfl _
  have brackets := (Cuts.opening (([')'] ++ [':']) ++ '\n' :: rest) ⟨0, 5, 5⟩).trans
    ((Cuts.closing ([':'] ++ '\n' :: rest) ⟨0, 6, 6⟩).trans colon)
  have name : Cuts ⟨0, 4, 4⟩ ['f'] (['(', ')', ':'] ++ '\n' :: rest)
      [⟨.name "f", ⟨⟨0, 4⟩, 4, 5⟩⟩] :=
    .word _ rfl (by decide) (by decide) (by decide) _
  have keyword : Cuts Cursor.start ['d', 'e', 'f'] ([' ', 'f', '(', ')', ':'] ++ '\n' :: rest)
      [⟨.keyword "def", ⟨⟨0, 0⟩, 0, 3⟩⟩] :=
    .word _ rfl (by decide) (by decide) (by decide) _
  have blank := Cuts.blank (['f', '(', ')', ':'] ++ '\n' :: rest) ⟨0, 3, 3⟩
  exact keyword.trans (blank.trans (name.trans brackets))

theorem cuts_return {text : List Char} {node : SyntaxNode}
    (h : Expression functionPoint .sum 20 text node) :
    ∃ words, Phrase .sum words node ∧
      Cuts ⟨1, 0, 9⟩ ("    return ".toList ++ text) ['\n']
        (⟨.keyword "return", returnSpan⟩ :: words) := by
  have start : Cursor.afterAll ⟨1, 0, 9⟩ "    return ".toList = ⟨1, 11, 20⟩ := rfl
  have tells : Tells functionPoint ⟨1, 11, 20⟩ := by
    rw [← start]
    exact tells_functionPoint.afterAll (by decide)
  obtain ⟨words, phrase, cuts⟩ := cuts_expression h tells rfl (.line [])
  have keyword : Cuts ⟨1, 4, 13⟩ ['r', 'e', 't', 'u', 'r', 'n'] (([' '] ++ text) ++ ['\n'])
      [⟨.keyword "return", returnSpan⟩] :=
    .word _ rfl (by decide) (by decide) (by decide) _
  have returned := keyword.trans ((Cuts.blank (text ++ ['\n']) ⟨1, 10, 19⟩).trans cuts)
  have indent (shift : Nat) (others : List Char) :=
    Cuts.blank (others ++ ['\n']) ⟨1, shift, 9 + shift⟩
  exact ⟨words, phrase, (indent 0 _).trans ((indent 1 _).trans ((indent 2 _).trans
    ((indent 3 _).trans returned)))⟩

/-- The tokens of a function that returns an expression. -/
theorem pieces?_function {text : List Char} {node : SyntaxNode}
    (h : Expression functionPoint .sum 20 text node) :
    ∃ words, Phrase .sum words node ∧
      pieces? (functionText text).toList.length Cursor.start (functionText text).toList =
        some (header.map .token ++
          .line 4 :: ((⟨.keyword "return", returnSpan⟩ :: words).map .token ++ [.line 0])) := by
  obtain ⟨words, phrase, cuts⟩ := cuts_return h
  refine ⟨words, phrase, ?_⟩
  have shape : (functionText text).toList =
      "def f():".toList ++ '\n' :: ("    return ".toList ++ text ++ ['\n']) := by
    unfold functionText
    simp
  obtain ⟨fuel, enough, found⟩ := cuts_header ("    return ".toList ++ text ++ ['\n'])
    (functionText text).toList.length (Nat.le_of_eq (congrArg List.length shape.symm))
  rw [List.length_cons] at enough
  obtain ⟨fuel, rfl⟩ : ∃ less, fuel = less + 1 := ⟨fuel - 1, by omega⟩
  obtain ⟨fuel', enough', found'⟩ := cuts fuel (by omega)
  obtain ⟨fuel', rfl⟩ : ∃ less, fuel' = less + 1 := ⟨fuel' - 1, by simp at enough'; omega⟩
  have line : (Cursor.start.afterAll "def f():".toList).after '\n' = ⟨1, 0, 9⟩ := rfl
  rw [← shape] at found
  have indented : indentation 0 ("    return ".toList ++ text ++ ['\n']) = 4 := rfl
  rw [found, pieces?_line, line, found', pieces?_line, pieces?, indented]
  rfl

end Scan

namespace Lines

open Scan

/-- The tokens of the function in their lines. -/
theorem arrange_function {words : List Token} {node : SyntaxNode}
    (phrase : Grammar.Phrase .sum words node) (first : Span) :
    ∃ last, arrange {} first (header.map .token ++
        .line 4 :: ((⟨.keyword "return", returnSpan⟩ :: words).map .token ++ [.line 0])) =
      header ++ ⟨.newline, ⟨⟨0, 7⟩, 7, 8⟩⟩ :: ⟨.indent, returnSpan⟩ ::
        ⟨.keyword "return", returnSpan⟩ :: (words ++ [⟨.newline, last⟩, ⟨.dedent, last⟩]) := by
  obtain ⟨last, found⟩ := arrange_tokens ⟨[4], 4, 0, true, false⟩ rfl returnSpan words [.line 0]
  rw [phrase.balanced] at found
  refine ⟨last, ?_⟩
  have front : arrange {} first (header.map .token ++
        .line 4 :: ((⟨.keyword "return", returnSpan⟩ :: words).map .token ++ [.line 0])) =
      header ++ ⟨.newline, ⟨⟨0, 7⟩, 7, 8⟩⟩ :: ⟨.indent, returnSpan⟩ ::
        ⟨.keyword "return", returnSpan⟩ ::
          arrange ⟨[4], 4, 0, true, false⟩ returnSpan (words.map .token ++ [.line 0]) := rfl
  rw [front, found]
  rfl

end Lines

/-! ## Statements -/

namespace Grammar

/-- A `return` with a value. -/
def returnNode (span : Span) (value : SyntaxNode) : SyntaxNode :=
  .form "return_statement" (span.to value.info.span) [.sign "return" span, value]

/-- A line that returns an expression is one statement. -/
theorem Phrase.simpleLine {words : List Token} {node : SyntaxNode} (h : Phrase .sum words node)
    (span last : Span) (rest : List Token) {fuel : Nat}
    (enough : 16 * (words.length + rest.length) + 40 ≤ fuel) :
    Grammar.simpleLine fuel (⟨.keyword "return", span⟩ :: (words ++ ⟨.newline, last⟩ :: rest)) =
      some ([returnNode span node], rest) := by
  have reads : Reads .sum words node := h.reads
  obtain ⟨lexeme, start, tail, rfl, starts⟩ := h.head
  obtain ⟨fuel, rfl⟩ : ∃ less, fuel = less + 9 := ⟨fuel - 9, by omega⟩
  have stop : EndsBelow 0 (⟨.newline, last⟩ :: rest) := .newline _ _
  obtain ⟨left, enough', whole⟩ := reads _ (fuel + 1) (stop.mono (by omega))
    (by simp only [List.length_append, List.length_cons] at enough ⊢; omega)
  obtain ⟨left, rfl⟩ : ∃ less, left = less + 1 := ⟨left - 1, by omega⟩
  have summed := whole 0 (by omega)
  rw [stop.binaryRest (by omega) node left, List.cons_append] at summed
  have found := item_of_binary starts stop summed
  have listed : expressions (fuel + 8) (⟨lexeme, start⟩ :: (tail ++ ⟨.newline, last⟩ :: rest)) =
      some ([node], false, ⟨.newline, last⟩ :: rest) := by
    rw [expressions, found]
    rfl
  have begins : startsExpression (⟨lexeme, start⟩ :: (tail ++ ⟨.newline, last⟩ :: rest)) = true :=
    by cases starts <;> rfl
  have returned : simpleStmt (fuel + 8)
      (⟨.keyword "return", span⟩ :: ⟨lexeme, start⟩ :: (tail ++ ⟨.newline, last⟩ :: rest)) =
        returnStmt span (fuel + 8) (⟨lexeme, start⟩ :: (tail ++ ⟨.newline, last⟩ :: rest)) := rfl
  rw [List.cons_append, Grammar.simpleLine, returned, returnStmt, if_pos begins, listed]
  rfl

/-- Statements that start with a keyword: the first one, and those behind it. -/
theorem statements_keyword (fuel : Nat) (word : String) (span : Span) (rest : List Token) :
    statements (fuel + 1) (⟨.keyword word, span⟩ :: rest) =
      (statement fuel (⟨.keyword word, span⟩ :: rest)).bind
        fun first => (statements fuel first.2).bind
          fun others => some (first.1 ++ others.1, others.2) := rfl

/-- The block of a function that returns an expression. -/
theorem Phrase.suite {words : List Token} {node : SyntaxNode} (h : Phrase .sum words node)
    (colon line indent span last dedent : Span) {fuel : Nat}
    (enough : 16 * words.length + 80 ≤ fuel) :
    Grammar.suite fuel (⟨.mark .colon, colon⟩ :: ⟨.newline, line⟩ :: ⟨.indent, indent⟩ ::
        ⟨.keyword "return", span⟩ :: (words ++ [⟨.newline, last⟩, ⟨.dedent, dedent⟩])) =
      some (blockNode indent [returnNode span node], []) := by
  obtain ⟨fuel, rfl⟩ : ∃ less, fuel = less + 4 := ⟨fuel - 4, by omega⟩
  have lined : Grammar.simpleLine (fuel + 1)
      (⟨.keyword "return", span⟩ :: (words ++ [⟨.newline, last⟩, ⟨.dedent, dedent⟩])) =
        some ([returnNode span node], [⟨.dedent, dedent⟩]) :=
    h.simpleLine span last [⟨.dedent, dedent⟩]
      (by rw [List.length_cons, List.length_nil]; omega)
  have simple (tokens : List Token) : statement (fuel + 2) (⟨.keyword "return", span⟩ :: tokens) =
      Grammar.simpleLine (fuel + 1) (⟨.keyword "return", span⟩ :: tokens) := rfl
  have body : statements (fuel + 3)
      (⟨.keyword "return", span⟩ :: (words ++ [⟨.newline, last⟩, ⟨.dedent, dedent⟩])) =
        some ([returnNode span node], [⟨.dedent, dedent⟩]) := by
    rw [statements_keyword, simple, lined]
    rfl
  rw [Grammar.suite, body]
  rfl

/-- A definition of a function without parameters is a statement with the block behind it. -/
theorem statement_function (keyword name opening closing colon : Span) {rest : List Token}
    {fuel : Nat} {body : SyntaxNode}
    (block : Grammar.suite (fuel + 1) (⟨.mark .colon, colon⟩ :: rest) = some (body, [])) :
    statement (fuel + 3) (⟨.keyword "def", keyword⟩ :: ⟨.name "f", name⟩ ::
        ⟨.mark (.opening .round), opening⟩ :: ⟨.mark (.closing .round), closing⟩ ::
          ⟨.mark .colon, colon⟩ :: rest) =
      some ([.form "function_definition" (keyword.to body.info.span)
        [.sign "def" keyword, (SyntaxNode.leaf "identifier" name).within "name",
          (SyntaxNode.parameters opening closing []).within "parameters", .sign ":" colon,
          body.within "body"]], []) := by
  have opened : function keyword [.sign "def" keyword] (fuel + 2) (⟨.name "f", name⟩ ::
      ⟨.mark (.opening .round), opening⟩ :: ⟨.mark (.closing .round), closing⟩ ::
        ⟨.mark .colon, colon⟩ :: rest) =
      (Grammar.suite (fuel + 1) (⟨.mark .colon, colon⟩ :: rest)).bind
        fun body => some (.form "function_definition" (keyword.to body.1.info.span)
          [.sign "def" keyword, (SyntaxNode.leaf "identifier" name).within "name",
            (SyntaxNode.parameters opening closing []).within "parameters", .sign ":" colon,
            body.1.within "body"], body.2) := rfl
  have stated (tokens : List Token) :
      statement (fuel + 3) (⟨.keyword "def", keyword⟩ :: tokens) =
        (function keyword [.sign "def" keyword] (fuel + 2) tokens).bind
          fun found => some ([found.1], found.2) := rfl
  rw [stated, opened, block]
  rfl

theorem length_lt_sizeOfField (lexemes : List Lexeme) :
    lexemes.length < Lexeme.sizeOfField lexemes := by
  induction lexemes with
  | nil => decide
  | cons lexeme rest ih =>
    have positive : 0 < lexeme.size := by
      cases lexeme <;> simp only [Lexeme.size] <;> omega
    rw [List.length_cons, Lexeme.sizeOfField]
    omega

/-- The fuel of a file is enough for whatever takes sixteen steps for a token. -/
theorem nodesOf?_eq_some {tokens : List Token} {found : List SyntaxNode}
    (h : ∀ fuel, 16 * tokens.length ≤ fuel → statements fuel tokens = some (found, [])) :
    nodesOf? tokens = some found := by
  have large := length_lt_sizeOfField (tokens.map (·.lexeme))
  rw [List.length_map] at large
  unfold nodesOf?
  dsimp only
  rw [h _ (by omega)]

/-! ## The parser -/

/-- The tokens of the function are one statement. -/
theorem statements_function {words : List Token} {text : List Char} {node : SyntaxNode}
    (phrase : Phrase .sum words node) (span : node.info.span = spanAt functionPoint 20 text)
    (last : Span) {fuel : Nat} (enough : 16 * words.length + 120 ≤ fuel) :
    statements fuel (Scan.header ++ ⟨.newline, ⟨⟨0, 7⟩, 7, 8⟩⟩ :: ⟨.indent, Scan.returnSpan⟩ ::
        ⟨.keyword "return", Scan.returnSpan⟩ :: (words ++ [⟨.newline, last⟩, ⟨.dedent, last⟩])) =
      some ([functionNode functionPoint text node], []) := by
  obtain ⟨fuel, rfl⟩ : ∃ less, fuel = less + 4 := ⟨fuel - 4, by omega⟩
  have large : 16 * words.length + 80 ≤ fuel + 1 := by omega
  have block := phrase.suite ⟨⟨0, 7⟩, 7, 8⟩ ⟨⟨0, 7⟩, 7, 8⟩ Scan.returnSpan Scan.returnSpan last
    last large
  have covered : returnNode Scan.returnSpan node = .form "return_statement"
      ⟨functionPoint 13, 13, 20 + byteCount text⟩ [.sign "return" Scan.returnSpan, node] := by
    rw [returnNode, span]
    rfl
  simp only [Scan.header, List.cons_append, List.nil_append]
  rw [statements_keyword, statement_function _ _ _ _ _ block, covered]
  rfl

/-- The parser of this library makes the tree of a function that returns an expression. -/
theorem grammarTree_function {text : List Char} {node : SyntaxNode}
    (h : Expression functionPoint .sum 20 text node) :
    grammarTree (functionText text) = functionTree functionPoint text node := by
  obtain ⟨words, phrase, pieces⟩ := Scan.pieces?_function h
  obtain ⟨last, arranged⟩ := Lines.arrange_function phrase (Cursor.start.span [])
  have nodes : (tokensOf? (functionText text)).bind nodesOf? =
      some [functionNode functionPoint text node] := by
    rw [tokensOf?, pieces, Option.map_some, arranged, Option.bind_some]
    refine nodesOf?_eq_some fun fuel enough => ?_
    refine statements_function phrase h.span_eq last ?_
    simp only [Scan.header, List.length_append, List.length_cons, List.length_nil] at enough
    omega
  have size : byteCount (functionText text).toList = 21 + byteCount text := by
    have front : byteCount "def f():\n    return ".toList = 20 := by decide
    have line : byteCount "\n".toList = 1 := by decide
    unfold functionText
    rw [String.toList_append, String.toList_append, byteCount_append, byteCount_append, front,
      line, String.toList_ofList]
    omega
  have whole : Cursor.start.span (functionText text).toList =
      ⟨functionPoint 0, 0, 21 + byteCount text⟩ := by
    rw [Cursor.span, size]
    exact congrArg (Span.mk _ _) (Nat.zero_add _)
  rw [grammarTree, nodes]
  dsimp only
  rw [whole]
  rfl

/-- The parser of this library goes by the grammar. -/
theorem goesBy_grammarParser : GoesBy grammarParser where
  loads := rfl
  parses h :=
    ⟨functionPoint, _, pointsFit_functionPoint, h.repoint functionPoint,
      congrArg some (grammarTree_function (h.repoint functionPoint))⟩

/-- The grammar derives one node from a text: the one that this parser makes. -/
theorem Expression.unique {point : Nat → Point} {text : List Char} {node other : SyntaxNode}
    (h : Expression point .sum 20 text node) (h' : Expression point .sum 20 text other) :
    node = other := by
  have first := grammarTree_function (h.repoint functionPoint)
  have second := grammarTree_function (h'.repoint functionPoint)
  have same := functionTree_injective (first.symm.trans second)
  rw [← h.repoint_back functionPoint, same, h'.repoint_back functionPoint]

end Grammar

end CallForm

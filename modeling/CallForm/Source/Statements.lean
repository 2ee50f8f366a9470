-- The grammar of statements: from the tokens of a file to its nodes, and
-- the parser that reads a text by both grammars.
import CallForm.Source.Grammar
import CallForm.Source.Lines

namespace CallForm

namespace Grammar

/-! ## Imports -/

/-- Names with dots between them. -/
def dottedNames (fuel : Nat) (tokens : List Token) : Option (List SyntaxNode × List Token) :=
  match fuel with
  | 0 => none
  | fuel + 1 => do
    let (first, rest) ← name? tokens
    match skipMark? .dot rest with
    | none => some ([first], rest)
    | some rest => do
      let (others, rest) ← dottedNames fuel rest
      some (first :: others, rest)

/-- A name with dots. -/
def dottedName (fuel : Nat) (tokens : List Token) : Option (SyntaxNode × List Token) := do
  let (parts, rest) ← dottedNames fuel tokens
  let name ← asOne "dotted_name" parts true
  some (name, rest)

/-- An imported module, maybe with another name that it is bound to. -/
def importEntry (fuel : Nat) (tokens : List Token) : Option (SyntaxNode × List Token) := do
  let (imported, rest) ← dottedName fuel tokens
  match skipKeyword? "as" rest with
  | some rest => do
    let (other, rest) ← name? rest
    some (.form "aliased_import" (imported.info.span.to other.info.span)
      [imported.within "name", other.within "alias"], rest)
  | none => some (imported, rest)

/-- Imported modules with commas between and maybe behind them. -/
def importEntries (fuel : Nat) (tokens : List Token) : Option (List SyntaxNode × List Token) :=
  match fuel with
  | 0 => none
  | fuel + 1 => do
    let (first, rest) ← importEntry fuel tokens
    match skipMark? .comma rest with
    | none => some ([first], rest)
    | some rest =>
      if (name? rest).isSome then do
        let (others, rest) ← importEntries fuel rest
        some (first :: others, rest)
      else some ([first], rest)

/-- The dots in front of a relative module name: whether there are any. -/
def leadingDots : List Token → Bool × List Token
  | ⟨.mark .dot, _⟩ :: rest | ⟨.mark .ellipsis, _⟩ :: rest => (true, (leadingDots rest).2)
  | tokens => (false, tokens)

/-- What `from ... import` imports, after the word `import`. -/
def importedNames (fuel : Nat) (tokens : List Token) : Option (List Token) :=
  match tokens with
  | ⟨.mark (.binary .mult), _⟩ :: rest => some rest
  | ⟨.mark (.opening .round), _⟩ :: rest => do
    let (_, rest) ← importEntries fuel rest
    skipMark? (.closing .round) rest
  | _ => (importEntries fuel tokens).map (·.2)

/-- An import of names out of a module, after the word `from`. -/
def importFrom (span : Span) (fuel : Nat) (tokens : List Token) :
    Option (SyntaxNode × List Token) := do
  let (relative, afterDots) := leadingDots tokens
  let rest ←
    match dottedName fuel afterDots with
    | some (_, rest) => some rest
    | none => if relative then some afterDots else none
  let rest ← skipKeyword? "import" rest
  let rest ← importedNames fuel rest
  let kind :=
    match tokens with
    | ⟨.name "__future__", _⟩ :: ⟨.keyword "import", _⟩ :: _ => "future_import_statement"
    | _ => "import_from_statement"
  some (.leaf kind span, rest)

/-! ## Simple statements -/

/-- Names with commas between them. -/
def nameList (fuel : Nat) (tokens : List Token) : Option (List Token) :=
  match fuel with
  | 0 => none
  | fuel + 1 => do
    let (_, rest) ← name? tokens
    match skipMark? .comma rest with
    | none => some rest
    | some rest => nameList fuel rest

/-- An assignment to a target, from after its equals sign on. A chain of them is an assignment of
an assignment. -/
def assignment (target : SyntaxNode) (fuel : Nat) (tokens : List Token) :
    Option (SyntaxNode × List Token) :=
  match fuel with
  | 0 => none
  | fuel + 1 => do
    let (value, rest) ← valueList fuel tokens
    let (value, rest) ←
      match skipMark? .equals rest with
      | none => some (value, rest)
      | some rest => do
        let next ← asTarget? value
        assignment next fuel rest
    some (.form "assignment" (target.info.span.to value.info.span)
      [target.within "left", value.within "right"], rest)

/-- A statement that is an assignment. -/
def assigned (assignment : SyntaxNode) : SyntaxNode :=
  .form "expression_statement" assignment.info.span [assignment]

/-- A statement that starts with an expression: the expression itself, or an assignment to it. -/
def expressionStmt (span : Span) (fuel : Nat) (tokens : List Token) :
    Option (SyntaxNode × List Token) :=
  if startsWithKeyword "yield" tokens then do
    let (value, rest) ← valueList fuel tokens
    some (.form "expression_statement" value.info.span [value], rest)
  else do
    let (values, trailing, rest) ← expressions fuel tokens
    match rest with
    | ⟨.mark .equals, _⟩ :: rest => do
      let target ← asTarget? (← asOne "expression_list" values trailing)
      let (assignment, rest) ← assignment target fuel rest
      some (assigned assignment, rest)
    | ⟨.mark (.augment op), sign⟩ :: rest => do
      let target ← asTarget? (← asOne "expression_list" values trailing)
      let (value, rest) ← valueList fuel rest
      let operator := SyntaxNode.sign (op.text ++ "=") sign
      some (assigned (.form "augmented_assignment" (target.info.span.to value.info.span)
        [target.within "left", operator.within "operator", value.within "right"]), rest)
    | ⟨.mark .colon, _⟩ :: rest => do
      let target ← asTarget? (← asOne "expression_list" values trailing)
      let (type, rest) ← item fuel rest
      match skipMark? .equals rest with
      | none =>
        some (assigned (.form "assignment" (target.info.span.to type.info.span)
          [target.within "left", (SyntaxNode.leaf "type" type.info.span).within "type"]), rest)
      | some rest => do
        let (assignment, rest) ← assignment target fuel rest
        some (assigned assignment, rest)
    | _ => some (.form "expression_statement" span values, rest)

/-- A `return`, after its word. -/
def returnStmt (span : Span) (fuel : Nat) (tokens : List Token) :
    Option (SyntaxNode × List Token) :=
  if startsExpression tokens then do
    let (found, trailing, rest) ← expressions fuel tokens
    let value ← asOne "expression_list" found trailing
    some (.form "return_statement" (span.to value.info.span) [.sign "return" span, value], rest)
  else some (.form "return_statement" span [.sign "return" span], tokens)

/-- A `raise`, after its word. -/
def raiseStmt (span : Span) (fuel : Nat) (tokens : List Token) :
    Option (SyntaxNode × List Token) := do
  let rest ←
    if startsExpression tokens then do
      let (_, _, rest) ← expressions fuel tokens
      some rest
    else some tokens
  match skipKeyword? "from" rest with
  | none => some (.leaf "raise_statement" span, rest)
  | some rest => do
    let (_, rest) ← test fuel rest
    some (.leaf "raise_statement" span, rest)

/-- The definition of a type by another name, after its word. -/
def typeAlias (span : Span) (fuel : Nat) (tokens : List Token) :
    Option (SyntaxNode × List Token) := do
  let (_, rest) ← primary fuel tokens
  let rest ← skipMark? .equals rest
  let (_, rest) ← test fuel rest
  some (.leaf "type_alias_statement" span, rest)

/-- A statement that holds no other. -/
def simpleStmt (fuel : Nat) (tokens : List Token) : Option (SyntaxNode × List Token) :=
  match tokens with
  | ⟨.keyword "pass", span⟩ :: rest => some (.leaf "pass_statement" span, rest)
  | ⟨.keyword "break", span⟩ :: rest => some (.leaf "break_statement" span, rest)
  | ⟨.keyword "continue", span⟩ :: rest => some (.leaf "continue_statement" span, rest)
  | ⟨.keyword "return", span⟩ :: rest => returnStmt span fuel rest
  | ⟨.keyword "raise", span⟩ :: rest => raiseStmt span fuel rest
  | ⟨.keyword "del", span⟩ :: rest => do
    let (_, _, rest) ← expressions fuel rest
    some (.leaf "delete_statement" span, rest)
  | ⟨.keyword "assert", span⟩ :: rest => do
    let (_, rest) ← test fuel rest
    match skipMark? .comma rest with
    | none => some (.leaf "assert_statement" span, rest)
    | some rest => do
      let (_, rest) ← test fuel rest
      some (.leaf "assert_statement" span, rest)
  | ⟨.keyword "global", span⟩ :: rest => do
    let rest ← nameList fuel rest
    some (.leaf "global_statement" span, rest)
  | ⟨.keyword "nonlocal", span⟩ :: rest => do
    let rest ← nameList fuel rest
    some (.leaf "nonlocal_statement" span, rest)
  | ⟨.keyword "import", span⟩ :: rest => do
    let (entries, rest) ← importEntries fuel rest
    some (.form "import_statement" span entries, rest)
  | ⟨.keyword "from", span⟩ :: rest => importFrom span fuel rest
  | ⟨.name "type", span⟩ :: ⟨.name next, place⟩ :: rest =>
    typeAlias span fuel (⟨.name next, place⟩ :: rest)
  | ⟨_, span⟩ :: _ => expressionStmt span fuel tokens
  | [] => none

/-- Simple statements on one line, with semicolons between and maybe behind them. -/
def simpleLine (fuel : Nat) (tokens : List Token) : Option (List SyntaxNode × List Token) :=
  match fuel with
  | 0 => none
  | fuel + 1 => do
    let (first, rest) ← simpleStmt fuel tokens
    match rest with
    | ⟨.newline, _⟩ :: rest => some ([first], rest)
    | ⟨.mark .semicolon, _⟩ :: ⟨.newline, _⟩ :: rest => some ([first], rest)
    | ⟨.mark .semicolon, _⟩ :: rest => do
      let (others, rest) ← simpleLine fuel rest
      some (first :: others, rest)
    | _ => none

/-! ## Patterns -/

/-- A pattern of a `case`, maybe with a name for it. -/
def pattern (fuel : Nat) (tokens : List Token) : Option (List Token) := do
  let tokens := (skipMark? (.binary .mult) tokens).getD tokens
  let (_, rest) ← binary 0 fuel tokens
  match skipKeyword? "as" rest with
  | none => some rest
  | some rest => (name? rest).map (·.2)

/-- Patterns with commas between and maybe behind them. -/
def patterns (fuel : Nat) (tokens : List Token) : Option (List Token) :=
  match fuel with
  | 0 => none
  | fuel + 1 => do
    let rest ← pattern fuel tokens
    match skipMark? .comma rest with
    | none => some rest
    | some rest => if startsExpression rest then patterns fuel rest else some rest

/-! ## Compound statements -/

/-- The pieces of a `with` statement: values, each maybe with a name for it. -/
def withItems (fuel : Nat) (tokens : List Token) : Option (List Token) :=
  match skipMark? (.opening .round) tokens with
  | some rest =>
    match (do
      let (_, rest) ← items .round fuel rest
      skipMark? .colon rest) with
    | some rest => some rest
    | none => do
      let (_, _, rest) ← expressions fuel tokens
      skipMark? .colon rest
  | none => do
    let (_, _, rest) ← expressions fuel tokens
    skipMark? .colon rest

/-- A block of statements. -/
def blockNode (span : Span) (statements : List SyntaxNode) : SyntaxNode :=
  .form "block" (statements.head?.elim span fun first => spanFrom first statements) statements

/-- The clause of a statement that is taken when its condition does not hold. -/
def elseNode (span : Span) (body : SyntaxNode) : SyntaxNode :=
  (SyntaxNode.form "else_clause" (span.to body.info.span) [body.within "body"]).within "alternative"

/-- A conditional, or one of its clauses with a condition. -/
def branchNode (kind : String) (span : Span) (condition body : SyntaxNode)
    (others : List SyntaxNode) : SyntaxNode :=
  .form kind (span.to body.info.span)
    (condition.within "condition" :: body.within "consequence" :: others)

mutual

/-- The statements up to the end of a block or of the file. -/
def statements : Nat → List Token → Option (List SyntaxNode × List Token)
  | 0, _ => none
  | fuel + 1, tokens =>
    match tokens with
    | [] => some ([], [])
    | ⟨.dedent, _⟩ :: _ => some ([], tokens)
    | _ => do
      let (first, rest) ← statement fuel tokens
      let (others, rest) ← statements fuel rest
      some (first ++ others, rest)

/-- The block after a colon: indented, empty, or the rest of the line. -/
def suite : Nat → List Token → Option (SyntaxNode × List Token)
  | 0, _ => none
  | fuel + 1, tokens =>
    match tokens with
    | ⟨.mark .colon, _⟩ :: ⟨.newline, _⟩ :: ⟨.indent, span⟩ :: rest => do
      let (body, rest) ← statements fuel rest
      match rest with
      | ⟨.dedent, _⟩ :: rest => some (blockNode span body, rest)
      | _ => none
    | ⟨.mark .colon, _⟩ :: ⟨.newline, span⟩ :: rest => some (blockNode span [], rest)
    | ⟨.mark .colon, span⟩ :: rest => do
      let (body, rest) ← simpleLine fuel rest
      some (blockNode span body, rest)
    | _ => none

/-- The statements that start with the next token: one compound statement, or a line of simple
ones. -/
def statement : Nat → List Token → Option (List SyntaxNode × List Token)
  | 0, _ => none
  | fuel + 1, tokens =>
    match tokens with
    | ⟨.keyword "if", span⟩ :: rest => do
      let (condition, rest) ← namedTest fuel rest
      let (body, rest) ← suite fuel rest
      let (others, rest) ← alternatives fuel rest
      some ([branchNode "if_statement" span condition body others], rest)
    | ⟨.keyword "while", span⟩ :: rest => do
      let (condition, rest) ← namedTest fuel rest
      let (body, rest) ← suite fuel rest
      let (others, rest) ← elseSuite fuel rest
      some ([.form "while_statement" (span.to body.info.span)
        (condition.within "condition" :: body.within "body" :: others)], rest)
    | ⟨.keyword "for", span⟩ :: rest => do
      let (found, rest) ← forLoop span fuel rest
      some ([found], rest)
    | ⟨.keyword "def", span⟩ :: rest => do
      let (found, rest) ← function span [.sign "def" span] fuel rest
      some ([found], rest)
    | ⟨.keyword "async", span⟩ :: ⟨.keyword "for", _⟩ :: rest => do
      let (found, rest) ← forLoop span fuel rest
      some ([found], rest)
    | ⟨.keyword "async", span⟩ :: ⟨.keyword "def", place⟩ :: rest => do
      let (found, rest) ← function span [.sign "async" span, .sign "def" place] fuel rest
      some ([found], rest)
    | ⟨.keyword "async", span⟩ :: ⟨.keyword "with", _⟩ :: rest
    | ⟨.keyword "with", span⟩ :: rest => do
      let rest ← withItems fuel rest
      let (_, rest) ← suite fuel (⟨.mark .colon, span⟩ :: rest)
      some ([.leaf "with_statement" span], rest)
    | ⟨.keyword "class", span⟩ :: rest => do
      let (_, rest) ← name? rest
      let rest ← typeParams fuel rest
      let rest ←
        match rest with
        | ⟨.mark (.opening .round), opening⟩ :: rest => (arguments opening fuel rest).map (·.2)
        | _ => some rest
      let (_, rest) ← suite fuel rest
      some ([.leaf "class_definition" span], rest)
    | ⟨.keyword "try", span⟩ :: rest => do
      let (_, rest) ← suite fuel rest
      let rest ← handlers true fuel rest
      some ([.leaf "try_statement" span], rest)
    | ⟨.mark (.binary .matMult), span⟩ :: rest => do
      let (_, rest) ← namedTest fuel rest
      match rest with
      | ⟨.newline, _⟩ :: rest => do
        let (definition, rest) ← decorated fuel rest
        some ([.form "decorated_definition" span [definition.within "definition"]], rest)
      | _ => none
    | ⟨.name "match", span⟩ :: rest =>
      match matchStmt fuel rest with
      | some rest => some ([.leaf "match_statement" span], rest)
      | none => simpleLine fuel tokens
    | _ => simpleLine fuel tokens

/-- The definition behind a decorator, or behind several of them. -/
def decorated : Nat → List Token → Option (SyntaxNode × List Token)
  | 0, _ => none
  | fuel + 1, tokens =>
    match tokens with
    | ⟨.mark (.binary .matMult), _⟩ :: rest => do
      let (_, rest) ← namedTest fuel rest
      match rest with
      | ⟨.newline, _⟩ :: rest => decorated fuel rest
      | _ => none
    | ⟨.keyword "def", _⟩ :: _ | ⟨.keyword "class", _⟩ :: _
    | ⟨.keyword "async", _⟩ :: ⟨.keyword "def", _⟩ :: _ => do
      let (found, rest) ← statement fuel tokens
      let definition ← found.head?
      some (definition, rest)
    | _ => none

/-- The clauses of a conditional after its first block. -/
def alternatives : Nat → List Token → Option (List SyntaxNode × List Token)
  | 0, _ => none
  | fuel + 1, tokens =>
    match tokens with
    | ⟨.keyword "elif", span⟩ :: rest => do
      let (condition, rest) ← namedTest fuel rest
      let (body, rest) ← suite fuel rest
      let (others, rest) ← alternatives fuel rest
      some ((branchNode "elif_clause" span condition body []).within "alternative" :: others, rest)
    | _ => elseSuite fuel tokens

/-- The `else` clause of a statement, if there is one. -/
def elseSuite : Nat → List Token → Option (List SyntaxNode × List Token)
  | 0, _ => none
  | fuel + 1, tokens =>
    match tokens with
    | ⟨.keyword "else", span⟩ :: rest => do
      let (body, rest) ← suite fuel rest
      some ([elseNode span body], rest)
    | _ => some ([], tokens)

/-- A `for` loop after its word. -/
def forLoop (span : Span) : Nat → List Token → Option (SyntaxNode × List Token)
  | 0, _ => none
  | fuel + 1, tokens => do
    let (target, rest) ← targets fuel tokens
    let rest ← skipKeyword? "in" rest
    let (found, trailing, rest) ← expressions fuel rest
    let iter ← asOne "expression_list" found trailing
    let (body, rest) ← suite fuel rest
    let (others, rest) ← elseSuite fuel rest
    some (.form "for_statement" (span.to body.info.span)
      (target.within "left" :: iter.within "right" :: body.within "body" :: others), rest)

/-- A function definition after its keywords, which are the signs that it starts with. -/
def function (span : Span) (keywords : List SyntaxNode) :
    Nat → List Token → Option (SyntaxNode × List Token)
  | 0, _ => none
  | fuel + 1, tokens => do
    let (name, rest) ← name? tokens
    let rest ← typeParams fuel rest
    match rest with
    | ⟨.mark (.opening .round), opening⟩ :: rest => do
      let (found, closing, rest) ← params true (.closing .round) fuel rest
      let rest ←
        match skipMark? .arrow rest with
        | none => some rest
        | some rest => (test fuel rest).map (·.2)
      let (colon, _) ← mark? .colon rest
      let (body, rest) ← suite fuel rest
      some (.form "function_definition" (span.to body.info.span)
        (keywords ++ [name.within "name",
          (SyntaxNode.parameters opening closing found).within "parameters", .sign ":" colon,
          body.within "body"]), rest)
    | _ => none

/-- The type parameters of a definition, if it has any. -/
def typeParams : Nat → List Token → Option (List Token)
  | 0, _ => none
  | fuel + 1, tokens =>
    match skipMark? (.opening .square) tokens with
    | none => some tokens
    | some rest => (parts fuel rest).map (·.2)

/-- The clauses of a `try` statement after its body; `first` says that none came before. -/
def handlers (first : Bool) : Nat → List Token → Option (List Token)
  | 0, _ => none
  | fuel + 1, tokens =>
    match tokens with
    | ⟨.keyword "except", _⟩ :: rest => do
      let rest := (skipMark? (.binary .mult) rest).getD rest
      let rest ←
        if startsExpression rest then do
          let (_, _, rest) ← expressions fuel rest
          some rest
        else some rest
      let (_, rest) ← suite fuel rest
      handlers false fuel rest
    | ⟨.keyword "finally", _⟩ :: rest => (suite fuel rest).map (·.2)
    | ⟨.keyword "else", _⟩ :: rest =>
      if first then none
      else do
        let (_, rest) ← suite fuel rest
        match skipKeyword? "finally" rest with
        | none => some rest
        | some rest => (suite fuel rest).map (·.2)
    | _ => if first then none else some tokens

/-- A `match` statement after its word. -/
def matchStmt : Nat → List Token → Option (List Token)
  | 0, _ => none
  | fuel + 1, tokens => do
    let (_, _, rest) ← expressions fuel tokens
    let rest ← skipMark? .colon rest
    match rest with
    | ⟨.newline, _⟩ :: ⟨.indent, _⟩ :: rest => cases fuel rest
    | _ => none

/-- The cases of a `match` statement up to the end of its block. -/
def cases : Nat → List Token → Option (List Token)
  | 0, _ => none
  | fuel + 1, tokens =>
    match tokens with
    | ⟨.dedent, _⟩ :: rest => some rest
    | ⟨.name "case", _⟩ :: rest => do
      let rest ← patterns fuel rest
      let rest ←
        match skipKeyword? "if" rest with
        | none => some rest
        | some rest => (namedTest fuel rest).map (·.2)
      let (_, rest) ← suite fuel rest
      cases fuel rest
    | _ => none

end

end Grammar

/-- The nodes of the tokens of a whole file; nothing if they are not a file. No rule takes more
than sixteen steps for a token. -/
def nodesOf? (tokens : List Token) : Option (List SyntaxNode) :=
  let size := Lexeme.sizeOfField (tokens.map (·.lexeme))
  match Grammar.statements (16 * (size + 1)) tokens with
  | some (statements, []) => some statements
  | _ => none

/-- The tree of a text. A text that is no file is one error as a whole. -/
def grammarTree (text : String) : SyntaxNode :=
  let span := Cursor.start.span text.toList
  match (tokensOf? text).bind nodesOf? with
  | some statements => .form "module" span statements
  | none => .mk { kind := "ERROR", error := true, span } []

/-- The parser that reads texts by these grammars. -/
def grammarParser : SourceParser where
  parse? text := some (grammarTree text)

end CallForm

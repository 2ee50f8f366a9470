-- The grammar of expressions: from tokens to nodes. A form that the tree of
-- a program has no place for becomes a node of its kind without children.
import CallForm.Source.Token

namespace CallForm

namespace Grammar

/-! ## Tokens -/

/-- Drops a mark that the tokens start with. -/
def skipMark? (mark : Mark) : List Token → Option (List Token)
  | ⟨.mark found, _⟩ :: rest => if found = mark then some rest else none
  | _ => none

/-- The span of a mark that the tokens start with, and the tokens behind it. -/
def mark? (mark : Mark) : List Token → Option (Span × List Token)
  | ⟨.mark found, span⟩ :: rest => if found = mark then some (span, rest) else none
  | _ => none

/-- Drops a keyword that the tokens start with. -/
def skipKeyword? (word : String) : List Token → Option (List Token)
  | ⟨.keyword found, _⟩ :: rest => if found = word then some rest else none
  | _ => none

/-- Whether the tokens start with a keyword. -/
def startsWithKeyword (word : String) (tokens : List Token) : Bool :=
  (skipKeyword? word tokens).isSome

/-- A name. -/
def name? : List Token → Option (SyntaxNode × List Token)
  | ⟨.name _, span⟩ :: rest => some (.leaf "identifier" span, rest)
  | _ => none

/-- Whether an expression can start with the first of the tokens. -/
def startsExpression : List Token → Bool
  | ⟨lexeme, _⟩ :: _ =>
    match lexeme with
    | .name _ | .integer _ | .float _ | .string .. => true
    | .keyword word => ["None", "True", "False", "not", "lambda", "await", "yield"].contains word
    | .mark mark =>
      match mark with
      | .opening _ | .invert | .ellipsis | .binary .add | .binary .sub | .binary .mult => true
      | _ => false
    | _ => false
  | [] => false

/-! ## Operators -/

/-- How tightly a binary operator holds its operands, from the bit operators up to the products;
a power holds its operands by itself. -/
def levelOf? : BinaryOperator → Option Nat
  | .bitOr => some 0
  | .bitXor => some 1
  | .bitAnd => some 2
  | .leftShift | .rightShift => some 3
  | .add | .sub => some 4
  | .mult | .div | .mod | .floorDiv | .matMult => some 5
  | .pow => none

/-- The sign of a comparison that the tokens start with. -/
def comparison? : List Token → Option (SyntaxNode × List Token)
  | ⟨.mark (.compare op), span⟩ :: rest => some (.sign op.text span, rest)
  | ⟨.keyword "is", span⟩ :: ⟨.keyword "not", last⟩ :: rest =>
    some (.sign "is not" (span.to last), rest)
  | ⟨.keyword "is", span⟩ :: rest => some (.sign "is" span, rest)
  | ⟨.keyword "in", span⟩ :: rest => some (.sign "in" span, rest)
  | ⟨.keyword "not", span⟩ :: ⟨.keyword "in", last⟩ :: rest =>
    some (.sign "not in" (span.to last), rest)
  | _ => none

/-- The sign in front of an operand that the tokens start with. -/
def unaryMark? : List Token → Option (SyntaxNode × List Token)
  | ⟨.mark (.binary .sub), span⟩ :: rest => some (.sign "-" span, rest)
  | ⟨.mark (.binary .add), span⟩ :: rest => some (.sign "+" span, rest)
  | ⟨.mark .invert, span⟩ :: rest => some (.sign "~" span, rest)
  | _ => none

/-- The string literals that the tokens start with, and the fields of all of them. -/
def stringRun : List Token → List SyntaxNode × List (List Lexeme) × List Token
  | ⟨.string _ fields, span⟩ :: rest =>
    let (literals, others, left) := stringRun rest
    (.leaf "string" span :: literals, fields ++ others, left)
  | tokens => ([], [], tokens)

/-! ## Nodes -/

/-- The span of nodes in a row, from the first on. -/
def spanFrom (first : SyntaxNode) (others : List SyntaxNode) : Span :=
  first.info.span.to (others.getLastD first).info.span

/-- Several nodes as one of a kind. A single one without a comma after it is itself. -/
def asOne (kind : String) (nodes : List SyntaxNode) (trailing : Bool) : Option SyntaxNode :=
  match nodes with
  | [] => none
  | [node] => some (if trailing then .form kind node.info.span [node] else node)
  | node :: others => some (.form kind (spanFrom node others) (node :: others))

/-- A parameter, with or without a type. -/
def asTyped (typed : Bool) (node : SyntaxNode) : SyntaxNode :=
  if typed then .form "typed_parameter" node.info.span [node] else node

/-- Whether a kind of node can be assigned to as it is. -/
def isPlace (kind : String) : Bool := ["identifier", "attribute", "subscript"].contains kind

mutual

/-- An expression as the target of an assignment, if it can be one. Parentheses around a target
make it a tuple, whatever they hold. -/
def asTarget? : SyntaxNode → Option SyntaxNode
  | .mk info children =>
    match info.kind with
    | "parenthesized_expression" | "tuple" =>
      (asTargets? children).map (.mk { info with kind := "tuple_pattern" })
    | "expression_list" => (asTargets? children).map (.mk { info with kind := "pattern_list" })
    | "list" => (asTargets? children).map (.mk { info with kind := "list_pattern" })
    | "list_splat" =>
      if children.all fun operand => isPlace operand.info.kind then
        some (.mk { info with kind := "list_splat_pattern" } children)
      else none
    | kind => if isPlace kind then some (.mk info children) else none

/-- Several expressions as targets; the signs between them stay. -/
def asTargets? : List SyntaxNode → Option (List SyntaxNode)
  | [] => some []
  | child :: rest => do
    let first ← if child.info.named then asTarget? child else some child
    let others ← asTargets? rest
    some (first :: others)

end

/-! ## Expressions -/

mutual

/-- An expression without a comma. The fuel bounds the depth of the grammar's rules; it goes down
by at most sixteen for each token. -/
def test : Nat → List Token → Option (SyntaxNode × List Token)
  | 0, _ => none
  | fuel + 1, tokens =>
    match tokens with
    | ⟨.keyword "lambda", span⟩ :: rest => do
      let (params, _, rest) ← params false .colon fuel rest
      let (body, rest) ← test fuel rest
      let formal := asOne "lambda_parameters" params true
      some (.form "lambda" (span.to body.info.span)
        ((formal.map (·.within "parameters")).toList ++ [body.within "body"]), rest)
    | _ => do
      let (value, rest) ← disjunction fuel tokens
      match skipKeyword? "if" rest with
      | none => some (value, rest)
      | some rest => do
        let (_, rest) ← disjunction fuel rest
        let rest ← skipKeyword? "else" rest
        let (other, rest) ← test fuel rest
        some (.leaf "conditional_expression" (value.info.span.to other.info.span), rest)

/-- An expression that may name its value. -/
def namedTest : Nat → List Token → Option (SyntaxNode × List Token)
  | 0, _ => none
  | fuel + 1, tokens =>
    match tokens with
    | ⟨.name _, span⟩ :: ⟨.mark .walrus, _⟩ :: rest => do
      let (value, rest) ← test fuel rest
      some (.leaf "named_expression" (span.to value.info.span), rest)
    | _ => test fuel tokens

/-- Operands joined by `or`. -/
def disjunction : Nat → List Token → Option (SyntaxNode × List Token)
  | 0, _ => none
  | fuel + 1, tokens => do
    let (left, rest) ← conjunction fuel tokens
    match skipKeyword? "or" rest with
    | none => some (left, rest)
    | some rest => do
      let (right, rest) ← disjunction fuel rest
      some (.leaf "boolean_operator" (left.info.span.to right.info.span), rest)

/-- Operands joined by `and`. -/
def conjunction : Nat → List Token → Option (SyntaxNode × List Token)
  | 0, _ => none
  | fuel + 1, tokens => do
    let (left, rest) ← inversion fuel tokens
    match skipKeyword? "and" rest with
    | none => some (left, rest)
    | some rest => do
      let (right, rest) ← conjunction fuel rest
      some (.leaf "boolean_operator" (left.info.span.to right.info.span), rest)

/-- A comparison, with any number of `not` in front. -/
def inversion : Nat → List Token → Option (SyntaxNode × List Token)
  | 0, _ => none
  | fuel + 1, tokens =>
    match tokens with
    | ⟨.keyword "not", span⟩ :: rest => do
      let (operand, rest) ← inversion fuel rest
      some (.form "not_operator" (span.to operand.info.span)
        [.sign "not" span, operand.within "argument"], rest)
    | _ => do
      let (left, rest) ← binary 0 fuel tokens
      let (others, rest) ← comparisons fuel rest
      if others.isEmpty then some (left, rest)
      else some (.form "comparison_operator" (spanFrom left others) (left :: others), rest)

/-- The comparisons that follow an operand: each sign with the operand behind it. -/
def comparisons : Nat → List Token → Option (List SyntaxNode × List Token)
  | 0, _ => none
  | fuel + 1, tokens =>
    match comparison? tokens with
    | none => some ([], tokens)
    | some (operator, rest) => do
      let (operand, rest) ← binary 0 fuel rest
      let (others, rest) ← comparisons fuel rest
      some (operator :: operand :: others, rest)

/-- Operands joined by binary operators that hold at least as tightly as `level`. -/
def binary (level : Nat) : Nat → List Token → Option (SyntaxNode × List Token)
  | 0, _ => none
  | fuel + 1, tokens => do
    let (left, rest) ← unary fuel tokens
    binaryRest level left fuel rest

/-- A left operand with the operators that follow it. -/
def binaryRest (level : Nat) (left : SyntaxNode) :
    Nat → List Token → Option (SyntaxNode × List Token)
  | 0, _ => none
  | fuel + 1, tokens =>
    match tokens with
    | ⟨.mark (.binary op), span⟩ :: rest =>
      match levelOf? op with
      | none => some (left, tokens)
      | some found =>
        if level ≤ found then do
          let (right, rest) ← binary (found + 1) fuel rest
          binaryRest level (.binary left (.sign op.text span) right) fuel rest
        else some (left, tokens)
    | _ => some (left, tokens)

/-- A power, with any number of signs in front. -/
def unary : Nat → List Token → Option (SyntaxNode × List Token)
  | 0, _ => none
  | fuel + 1, tokens =>
    match unaryMark? tokens with
    | some (operator, rest) => do
      let (operand, rest) ← unary fuel rest
      some (.unary operator operand, rest)
    | none => do
      let (base, rest) ← primary fuel tokens
      match rest with
      | ⟨.mark (.binary .pow), span⟩ :: rest => do
        let (exponent, rest) ← unary fuel rest
        some (.binary base (.sign "**" span) exponent, rest)
      | _ => some (base, rest)

/-- An atom with all its calls, subscripts and members. -/
def primary : Nat → List Token → Option (SyntaxNode × List Token)
  | 0, _ => none
  | fuel + 1, tokens =>
    match tokens with
    | ⟨.keyword "await", span⟩ :: rest => do
      let (awaited, rest) ← primary fuel rest
      some (.leaf "await" (span.to awaited.info.span), rest)
    | _ => do
      let (base, rest) ← atom fuel tokens
      trailers base fuel rest

/-- The calls, subscripts and members that follow a value. -/
def trailers (value : SyntaxNode) : Nat → List Token → Option (SyntaxNode × List Token)
  | 0, _ => none
  | fuel + 1, tokens =>
    match tokens with
    | ⟨.mark .dot, _⟩ :: rest => do
      let (member, rest) ← name? rest
      trailers (.form "attribute" (value.info.span.to member.info.span)
        [value.within "object", member.within "attribute"]) fuel rest
    | ⟨.mark (.opening .round), span⟩ :: rest => do
      let (args, rest) ← arguments span fuel rest
      trailers (.form "call" (value.info.span.to args.info.span)
        [value.within "function", args.within "arguments"]) fuel rest
    | ⟨.mark (.opening .square), _⟩ :: rest => do
      let (parts, rest) ← parts fuel rest
      if parts.isEmpty then none
      else
        trailers (.form "subscript" (spanFrom value parts)
          (value.within "value" :: parts.map (·.within "subscript"))) fuel rest
    | _ => some (value, tokens)

/-- The smallest expressions. -/
def atom : Nat → List Token → Option (SyntaxNode × List Token)
  | 0, _ => none
  | fuel + 1, tokens =>
    match tokens with
    | ⟨.name _, span⟩ :: rest => some (.leaf "identifier" span, rest)
    | ⟨.integer _, span⟩ :: rest => some (.leaf "integer" span, rest)
    | ⟨.float _, span⟩ :: rest => some (.leaf "float" span, rest)
    | ⟨.string .., _⟩ :: _ => do
      let (literals, allFields, rest) := stringRun tokens
      fields fuel allFields
      let value ← asOne "concatenated_string" literals false
      some (value, rest)
    | ⟨.keyword "None", span⟩ :: rest => some (.leaf "none" span, rest)
    | ⟨.keyword "True", span⟩ :: rest => some (.leaf "true" span, rest)
    | ⟨.keyword "False", span⟩ :: rest => some (.leaf "false" span, rest)
    | ⟨.mark .ellipsis, span⟩ :: rest => some (.leaf "ellipsis" span, rest)
    | ⟨.mark (.opening .round), span⟩ :: rest => parenthesized span fuel rest
    | ⟨.mark (.opening .square), span⟩ :: rest => do
      let (found, rest) ← collection .square fuel rest
      match found with
      | some items => some (.form "list" span items, rest)
      | none => some (.leaf "list_comprehension" span, rest)
    | ⟨.mark (.opening .curly), span⟩ :: rest => do
      let (kind, rest) ← braced fuel rest
      some (.leaf kind span, rest)
    | _ => none

/-- The replacement fields of format strings: each has to hold an expression. -/
def fields : Nat → List (List Lexeme) → Option Unit
  | _, [] => some ()
  | 0, _ => none
  | fuel + 1, field :: rest => do
    let (_, left) ← valueList fuel (field.map (⟨·, default⟩))
    if left.isEmpty then fields fuel rest else none

/-- What follows an opening parenthesis that does not start a call. -/
def parenthesized (opening : Span) : Nat → List Token → Option (SyntaxNode × List Token)
  | 0, _ => none
  | fuel + 1, tokens =>
    match tokens with
    | ⟨.mark (.closing .round), closing⟩ :: rest => some (.leaf "tuple" (opening.to closing), rest)
    | ⟨.keyword "yield", _⟩ :: _ => do
      let (inner, rest) ← valueList fuel tokens
      match rest with
      | ⟨.mark (.closing .round), closing⟩ :: rest =>
        some (.parenthesized opening closing inner, rest)
      | _ => none
    | _ => do
      let (first, rest) ← item fuel tokens
      match rest with
      | ⟨.mark (.closing .round), closing⟩ :: rest =>
        some (.parenthesized opening closing first, rest)
      | ⟨.mark .comma, _⟩ :: rest => do
        let (others, rest) ← items .round fuel rest
        some (.form "tuple" opening (first :: others), rest)
      | _ => do
        let rest ← comprehension fuel rest
        let rest ← skipMark? (.closing .round) rest
        some (.leaf "generator_expression" opening, rest)

/-- The items of a bracketed collection up to its end, or nothing for a comprehension. -/
def collection (bracket : Bracket) :
    Nat → List Token → Option (Option (List SyntaxNode) × List Token)
  | 0, _ => none
  | fuel + 1, tokens =>
    match skipMark? (.closing bracket) tokens with
    | some rest => some (some [], rest)
    | none => do
      let (first, rest) ← item fuel tokens
      collectionFrom bracket first fuel rest

/-- The items of a bracketed collection after its first one, or nothing for a comprehension. -/
def collectionFrom (bracket : Bracket) (first : SyntaxNode) :
    Nat → List Token → Option (Option (List SyntaxNode) × List Token)
  | 0, _ => none
  | fuel + 1, tokens =>
    match skipMark? (.closing bracket) tokens with
    | some rest => some (some [first], rest)
    | none =>
      match skipMark? .comma tokens with
      | some rest => do
        let (others, rest) ← items bracket fuel rest
        some (some (first :: others), rest)
      | none => do
        let rest ← comprehension fuel tokens
        let rest ← skipMark? (.closing bracket) rest
        some (none, rest)

/-- The kind of what stands in braces. -/
def braced : Nat → List Token → Option (String × List Token)
  | 0, _ => none
  | fuel + 1, tokens =>
    match tokens with
    | ⟨.mark (.closing .curly), _⟩ :: rest => some ("dictionary", rest)
    | ⟨.mark (.binary .pow), _⟩ :: rest => do
      let (_, rest) ← binary 0 fuel rest
      let rest ← pairs fuel rest
      some ("dictionary", rest)
    | _ => do
      let (first, rest) ← item fuel tokens
      match skipMark? .colon rest with
      | some rest => do
        let (_, rest) ← test fuel rest
        if startsWithKeyword "for" rest || startsWithKeyword "async" rest then do
          let rest ← comprehension fuel rest
          let rest ← skipMark? (.closing .curly) rest
          some ("dictionary_comprehension", rest)
        else do
          let rest ← pairs fuel rest
          some ("dictionary", rest)
      | none => do
        let (found, rest) ← collectionFrom .curly first fuel rest
        some (if found.isSome then "set" else "set_comprehension", rest)

/-- The rest of a dictionary after one of its pairs, up to its end. -/
def pairs : Nat → List Token → Option (List Token)
  | 0, _ => none
  | fuel + 1, tokens =>
    match tokens with
    | ⟨.mark (.closing .curly), _⟩ :: rest => some rest
    | ⟨.mark .comma, _⟩ :: ⟨.mark (.closing .curly), _⟩ :: rest => some rest
    | ⟨.mark .comma, _⟩ :: ⟨.mark (.binary .pow), _⟩ :: rest => do
      let (_, rest) ← binary 0 fuel rest
      pairs fuel rest
    | ⟨.mark .comma, _⟩ :: rest => do
      let (_, rest) ← test fuel rest
      let rest ← skipMark? .colon rest
      let (_, rest) ← test fuel rest
      pairs fuel rest
    | _ => none

/-- One item of a collection. -/
def item : Nat → List Token → Option (SyntaxNode × List Token)
  | 0, _ => none
  | fuel + 1, tokens =>
    match tokens with
    | ⟨.mark (.binary .mult), span⟩ :: rest => do
      let (operand, rest) ← binary 0 fuel rest
      some (.form "list_splat" (span.to operand.info.span) [operand], rest)
    | _ => do
      let (value, rest) ← namedTest fuel tokens
      match skipKeyword? "as" rest with
      | none => some (value, rest)
      | some rest => do
        let (name, rest) ← primary fuel rest
        some (.leaf "as_pattern" (value.info.span.to name.info.span), rest)

/-- Items up to a closing bracket, which may have a comma in front. -/
def items (bracket : Bracket) : Nat → List Token → Option (List SyntaxNode × List Token)
  | 0, _ => none
  | fuel + 1, tokens =>
    match skipMark? (.closing bracket) tokens with
    | some rest => some ([], rest)
    | none => do
      let (first, rest) ← item fuel tokens
      match skipMark? (.closing bracket) rest with
      | some rest => some ([first], rest)
      | none => do
        let rest ← skipMark? .comma rest
        let (others, rest) ← items bracket fuel rest
        some (first :: others, rest)

/-- The arguments of a call after its parenthesis, up to its end: a list, or a lone generator. -/
def arguments (opening : Span) : Nat → List Token → Option (SyntaxNode × List Token)
  | 0, _ => none
  | fuel + 1, tokens =>
    match skipMark? (.closing .round) tokens with
    | some rest => some (.leaf "argument_list" opening, rest)
    | none => do
      let (arg, rest) ← argument fuel tokens
      match rest with
      | ⟨.mark (.closing .round), closing⟩ :: rest =>
        some (.form "argument_list" (opening.to closing) [arg], rest)
      | ⟨.mark .comma, _⟩ :: rest => do
        let (others, rest) ← argumentsFrom fuel rest
        some (.form "argument_list" opening (arg :: others), rest)
      | _ => do
        let rest ← comprehension fuel rest
        let rest ← skipMark? (.closing .round) rest
        some (.leaf "generator_expression" opening, rest)

/-- The arguments of a call after a comma, up to its end. -/
def argumentsFrom : Nat → List Token → Option (List SyntaxNode × List Token)
  | 0, _ => none
  | fuel + 1, tokens =>
    match skipMark? (.closing .round) tokens with
    | some rest => some ([], rest)
    | none => do
      let (arg, rest) ← argument fuel tokens
      match skipMark? (.closing .round) rest with
      | some rest => some ([arg], rest)
      | none => do
        let rest ← skipMark? .comma rest
        let (others, rest) ← argumentsFrom fuel rest
        some (arg :: others, rest)

/-- One argument of a call. -/
def argument : Nat → List Token → Option (SyntaxNode × List Token)
  | 0, _ => none
  | fuel + 1, tokens =>
    match tokens with
    | ⟨.mark (.binary .mult), span⟩ :: rest => do
      let (operand, rest) ← test fuel rest
      some (.form "list_splat" (span.to operand.info.span) [operand], rest)
    | ⟨.mark (.binary .pow), span⟩ :: rest => do
      let (operand, rest) ← test fuel rest
      some (.leaf "dictionary_splat" (span.to operand.info.span), rest)
    | ⟨.name _, span⟩ :: ⟨.mark .equals, _⟩ :: rest => do
      let (value, rest) ← test fuel rest
      some (.leaf "keyword_argument" (span.to value.info.span), rest)
    | _ => item fuel tokens

/-- The parts of a subscript up to its end. -/
def parts : Nat → List Token → Option (List SyntaxNode × List Token)
  | 0, _ => none
  | fuel + 1, tokens =>
    match skipMark? (.closing .square) tokens with
    | some rest => some ([], rest)
    | none => do
      let (first, rest) ← part fuel tokens
      match skipMark? (.closing .square) rest with
      | some rest => some ([first], rest)
      | none => do
        let rest ← skipMark? .comma rest
        let (others, rest) ← parts fuel rest
        some (first :: others, rest)

/-- One part of a subscript. -/
def part : Nat → List Token → Option (SyntaxNode × List Token)
  | 0, _ => none
  | fuel + 1, tokens =>
    match tokens with
    | ⟨.mark .colon, colon⟩ :: rest => sliceFrom (.sign ":" colon) [] fuel rest
    | ⟨.mark (.binary .mult), span⟩ :: rest => do
      let (operand, rest) ← test fuel rest
      some (.form "list_splat" (span.to operand.info.span) [operand], rest)
    | _ => do
      let (value, rest) ← item fuel tokens
      match rest with
      | ⟨.mark .colon, colon⟩ :: rest => sliceFrom value [.sign ":" colon] fuel rest
      | _ => some (value, rest)

/-- The rest of a slice after its first colon; `first` and `others` come before. -/
def sliceFrom (first : SyntaxNode) (others : List SyntaxNode) :
    Nat → List Token → Option (SyntaxNode × List Token)
  | 0, _ => none
  | fuel + 1, tokens => do
    let (upper, rest) ← bound fuel tokens
    match rest with
    | ⟨.mark .colon, colon⟩ :: rest => do
      let (step, rest) ← bound fuel rest
      let others := others ++ upper ++ .sign ":" colon :: step
      some (.form "slice" (spanFrom first others) (first :: others), rest)
    | _ =>
      let others := others ++ upper
      some (.form "slice" (spanFrom first others) (first :: others), rest)

/-- A bound of a slice, if there is one. -/
def bound : Nat → List Token → Option (List SyntaxNode × List Token)
  | 0, _ => none
  | fuel + 1, tokens =>
    if startsExpression tokens then do
      let (value, rest) ← test fuel tokens
      some ([value], rest)
    else some ([], tokens)

/-- The clauses of a comprehension, of which there is at least one. -/
def comprehension : Nat → List Token → Option (List Token)
  | 0, _ => none
  | fuel + 1, tokens => do
    let tokens := (skipKeyword? "async" tokens).getD tokens
    let rest ← skipKeyword? "for" tokens
    let (_, rest) ← targets fuel rest
    let rest ← skipKeyword? "in" rest
    let (_, rest) ← disjunction fuel rest
    clauses fuel rest

/-- The further clauses of a comprehension. -/
def clauses : Nat → List Token → Option (List Token)
  | 0, _ => none
  | fuel + 1, tokens =>
    match skipKeyword? "if" tokens with
    | some rest => do
      let (_, rest) ← disjunction fuel rest
      clauses fuel rest
    | none =>
      if startsWithKeyword "for" tokens || startsWithKeyword "async" tokens then
        comprehension fuel tokens
      else some tokens

/-- The target of a loop: one, or several with commas between and maybe behind them. -/
def targets : Nat → List Token → Option (SyntaxNode × List Token)
  | 0, _ => none
  | fuel + 1, tokens => do
    let (found, trailing, rest) ← targetList fuel tokens
    let target ← asOne "expression_list" found trailing
    let target ← asTarget? target
    some (target, rest)

/-- The parts of a loop's target, and whether a comma comes after the last one. -/
def targetList : Nat → List Token → Option (List SyntaxNode × Bool × List Token)
  | 0, _ => none
  | fuel + 1, tokens => do
    let (first, rest) ← target fuel tokens
    match skipMark? .comma rest with
    | none => some ([first], false, rest)
    | some rest =>
      if startsExpression rest then do
        let (others, trailing, rest) ← targetList fuel rest
        some (first :: others, trailing, rest)
      else some ([first], true, rest)

/-- One part of a loop's target. -/
def target : Nat → List Token → Option (SyntaxNode × List Token)
  | 0, _ => none
  | fuel + 1, tokens =>
    match tokens with
    | ⟨.mark (.binary .mult), span⟩ :: rest => do
      let (operand, rest) ← primary fuel rest
      some (.form "list_splat" (span.to operand.info.span) [operand], rest)
    | _ => primary fuel tokens

/-- Expressions with commas between and maybe behind them, and whether there is one behind. -/
def expressions : Nat → List Token → Option (List SyntaxNode × Bool × List Token)
  | 0, _ => none
  | fuel + 1, tokens => do
    let (first, rest) ← item fuel tokens
    match skipMark? .comma rest with
    | none => some ([first], false, rest)
    | some rest =>
      if startsExpression rest then do
        let (others, trailing, rest) ← expressions fuel rest
        some (first :: others, trailing, rest)
      else some ([first], true, rest)

/-- A value that may be a tuple without parentheses, or a `yield`. -/
def valueList : Nat → List Token → Option (SyntaxNode × List Token)
  | 0, _ => none
  | fuel + 1, tokens =>
    match tokens with
    | ⟨.keyword "yield", span⟩ :: rest =>
      match skipKeyword? "from" rest with
      | some rest => do
        let (value, rest) ← test fuel rest
        some (.leaf "yield" (span.to value.info.span), rest)
      | none =>
        if startsExpression rest then do
          let (_, _, rest) ← expressions fuel rest
          some (.leaf "yield" span, rest)
        else some (.leaf "yield" span, rest)
    | _ => do
      let (found, trailing, rest) ← expressions fuel tokens
      let value ← asOne "expression_list" found trailing
      some (value, rest)

/-- Formal parameters up to a closing mark, and its span. Only those of a definition can be
`annotated`. -/
def params (annotated : Bool) (closing : Mark) :
    Nat → List Token → Option (List SyntaxNode × Span × List Token)
  | 0, _ => none
  | fuel + 1, tokens =>
    match mark? closing tokens with
    | some (last, rest) => some ([], last, rest)
    | none => do
      let (first, rest) ← param annotated fuel tokens
      match mark? closing rest with
      | some (last, rest) => some ([first], last, rest)
      | none => do
        let rest ← skipMark? .comma rest
        let (others, last, rest) ← params annotated closing fuel rest
        some (first :: others, last, rest)

/-- One formal parameter. -/
def param (annotated : Bool) : Nat → List Token → Option (SyntaxNode × List Token)
  | 0, _ => none
  | fuel + 1, tokens =>
    match tokens with
    | ⟨.mark (.binary .div), span⟩ :: rest => some (.leaf "positional_separator" span, rest)
    | ⟨.mark (.binary .mult), span⟩ :: rest =>
      if startsExpression rest then do
        let (operand, rest) ← primary fuel rest
        let (typed, rest) ← annotation annotated fuel rest
        some (asTyped typed (.leaf "list_splat_pattern" (span.to operand.info.span)), rest)
      else some (.leaf "keyword_separator" span, rest)
    | ⟨.mark (.binary .pow), span⟩ :: rest => do
      let (operand, rest) ← primary fuel rest
      let (typed, rest) ← annotation annotated fuel rest
      some (asTyped typed (.leaf "dictionary_splat_pattern" (span.to operand.info.span)), rest)
    | ⟨.mark (.opening .round), _⟩ :: _ => do
      let (found, rest) ← atom fuel tokens
      let target ← asTarget? found
      match skipMark? .equals rest with
      | none => some (target, rest)
      | some rest => do
        let (value, rest) ← test fuel rest
        some (.leaf "default_parameter" (target.info.span.to value.info.span), rest)
    | ⟨.name _, span⟩ :: rest => do
      let (typed, rest) ← annotation annotated fuel rest
      match skipMark? .equals rest with
      | none => some (asTyped typed (.leaf "identifier" span), rest)
      | some rest => do
        let (value, rest) ← test fuel rest
        let kind := if typed then "typed_default_parameter" else "default_parameter"
        some (.leaf kind (span.to value.info.span), rest)
    | _ => none

/-- The annotation of a parameter: whether there is one. -/
def annotation (annotated : Bool) : Nat → List Token → Option (Bool × List Token)
  | 0, _ => none
  | fuel + 1, tokens =>
    if annotated then
      match skipMark? .colon tokens with
      | none => some (false, tokens)
      | some rest => do
        let (_, rest) ← item fuel rest
        some (true, rest)
    else some (false, tokens)

end

end Grammar

end CallForm

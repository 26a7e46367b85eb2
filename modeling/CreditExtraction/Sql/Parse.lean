import CreditExtraction.Sql.Expr

/-!
# Reading statements: names and expressions

Statements are read from their tokens by a reader that consumes them from the front and
refuses, where the tokens do not fit, with `near "<token>": syntax error`, or with
`incomplete input` where they end too early. Keywords are read regardless of case, and a few
of them cannot be names.

Operators bind as usual for SQL, loosest first: `OR`, `AND`, `NOT`, equality (`=`, `==`,
`<>`, `!=`, `IS [NOT]`, `[NOT] IN`), order (`<`, `<=`, `>`, `>=`), `+` and `-`, `*`, `/` and
`%`, concatenation `||`, then the signs. A function is called with its arguments in brackets
(`count(*)` with none). The reading of an expression is bounded by a fuel argument that the
length of the text gives: each step down into an operand consumes one.

The parts of a definition that are kept as written (a declared type, the text of a `CHECK`
constraint) are cut from the text by the places of the tokens (`Source`).
-/

namespace CreditExtraction.Sql

/-- The refusal of a statement that does not read at the given tokens. -/
def syntaxError : List Token → SqlError
  | [] => SqlError.logic "incomplete input"
  | t :: _ => SqlError.logic ("near " ++ Text.Quoted.quote t.text ++ ": syntax error")

/-- A reader of tokens. -/
abbrev Reader := StateT (List Token) (Except SqlError)

/-- Refuses at the current token. -/
def failHere {α : Type} : Reader α := do throw (syntaxError (← get))

/-- The next token, if any, without taking it. -/
def peek : Reader (Option Token) := do return (← get).head?

/-- Takes the next token. -/
def advance : Reader Unit := modify List.tail

/-- Takes the keyword `k` if it comes next. -/
def acceptKw (k : String) : Reader Bool := do
  match ← peek with
  | some t => if t.isKw k then advance; return true else return false
  | none => return false

/-- Takes the symbol `k` if it comes next. -/
def acceptSym (k : String) : Reader Bool := do
  match ← peek with
  | some t => if t.isSym k then advance; return true else return false
  | none => return false

/-- Requires the keyword `k`. -/
def expectKw (k : String) : Reader Unit := do
  if !(← acceptKw k) then failHere

/-- Requires the symbol `k`. -/
def expectSym (k : String) : Reader Unit := do
  if !(← acceptSym k) then failHere

/-- The keywords that cannot be names. -/
def reserved : List String :=
  ["SELECT", "FROM", "WHERE", "SET", "AND", "OR", "NOT", "IS", "IN", "NULL", "ON", "BEGIN",
   "END", "WHEN", "VALUES", "INTO", "TABLE", "TRIGGER", "CREATE", "DROP", "ALTER", "UPDATE",
   "DELETE", "INSERT"]

/-- Reads a name. -/
def name : Reader String := do
  match ← peek with
  | some (.word s) => if reserved.contains s.toUpper then failHere else advance; return s
  | some (.ident s _) => advance; return s
  | _ => failHere

/-- The value of a number literal. -/
def numberValue (s : String) : Value :=
  match Value.scanNumber s.toList with
  | some t => t.value
  | none => .int 0

/-- The binding power of an infix operator at the front, and the operator. -/
def infixOp : Token → Option (Nat × BinOp)
  | .word s =>
    match s.toUpper with
    | "OR" => some (1, .or)
    | "AND" => some (2, .and)
    | _ => none
  | .sym s =>
    match s with
    | "=" | "==" => some (4, .eq)
    | "<>" | "!=" => some (4, .ne)
    | "<" => some (5, .lt)
    | "<=" => some (5, .le)
    | ">" => some (5, .gt)
    | ">=" => some (5, .ge)
    | "+" => some (7, .add)
    | "-" => some (7, .sub)
    | "*" => some (8, .mul)
    | "/" => some (8, .div)
    | "%" => some (8, .mod)
    | "||" => some (9, .concat)
    | _ => none
  | _ => none

mutual
/-- Reads an expression whose operators bind at least as tightly as `minPower`; `fuel`
bounds the depth of the reading. -/
def expr : Nat → Nat → Reader Expr
  | 0, _ => failHere
  | fuel + 1, minPower => do
    let lhs ← prefixExpr fuel
    infixes fuel minPower lhs

/-- Reads the operators that follow a left operand. -/
def infixes : Nat → Nat → Expr → Reader Expr
  | 0, _, lhs => pure lhs
  | fuel + 1, minPower, lhs => do
    match ← peek with
    | none => pure lhs
    | some t =>
      if t.isKw "IS" && minPower ≤ 4 then
        advance
        let negated ← acceptKw "NOT"
        if ← acceptKw "NULL" then infixes fuel minPower (.isNull lhs negated)
        else
          let rhs ← expr fuel 5
          infixes fuel minPower (.bin (if negated then .isNot else .is) lhs rhs)
      else if (t.isKw "NOT" || t.isKw "IN") && minPower ≤ 4 then
        let negated ← acceptKw "NOT"
        expectKw "IN"
        expectSym "("
        let items ← exprList fuel
        expectSym ")"
        infixes fuel minPower (.inList lhs items negated)
      else if t.isKw "ISNULL" && minPower ≤ 4 then
        advance; infixes fuel minPower (.isNull lhs false)
      else if t.isKw "NOTNULL" && minPower ≤ 4 then
        advance; infixes fuel minPower (.isNull lhs true)
      else match infixOp t with
        | some (power, op) =>
          if power < minPower then pure lhs
          else
            advance
            let rhs ← expr fuel (power + 1)
            infixes fuel minPower (.bin op lhs rhs)
        | none => pure lhs

/-- Reads an operand with its prefix operators. -/
def prefixExpr : Nat → Reader Expr
  | 0 => failHere
  | fuel + 1 => do
    match ← peek with
    | none => failHere
    | some t =>
      match t with
      | .num s => advance; pure (.lit (numberValue s))
      | .str s => advance; pure (.lit (.text s))
      | .sym "-" => advance; pure (.neg (← prefixExpr fuel))
      | .sym "+" => advance; prefixExpr fuel
      | .sym "(" =>
        advance
        let e ← expr fuel 0
        expectSym ")"
        pure e
      | .word w =>
        let up := w.toUpper
        if up == "NOT" then advance; pure (.not (← expr fuel 3))
        else if up == "NULL" then advance; pure (.lit .null)
        else namedOperand fuel
      | .ident _ _ => namedOperand fuel
      | _ => failHere

/-- Reads an operand that starts with a name: a call of a function, a column qualified by its
row or table, or a column. -/
def namedOperand : Nat → Reader Expr
  | 0 => failHere
  | fuel + 1 => do
    let n ← name
    if ← acceptSym "(" then
      let args ← if ← acceptSym ")" then pure [] else if ← acceptSym "*" then do
          expectSym ")"
          pure []
        else do
          let _ ← acceptKw "DISTINCT"
          let a ← exprList fuel
          expectSym ")"
          pure a
      pure (.call n args)
    else if ← acceptSym "." then
      let c ← name
      let side : Side := if n.toUpper == "NEW" then .new else if n.toUpper == "OLD" then .old
        else .table n
      pure (.col side c)
    else pure (.col .current n)

/-- Reads expressions separated by commas. -/
def exprList : Nat → Reader (List Expr)
  | 0 => failHere
  | fuel + 1 => do
    let e ← expr fuel 0
    if ← acceptSym "," then
      let rest ← exprList fuel
      pure (e :: rest)
    else pure [e]
end

/-- Reads names separated by commas. -/
def nameList : Nat → Reader (List String)
  | 0 => failHere
  | fuel + 1 => do
    let n ← name
    if ← acceptSym "," then
      let rest ← nameList fuel
      pure (n :: rest)
    else pure [n]

/-- Reads `c = e` assignments separated by commas. -/
def assignments : Nat → Reader (List (String × Expr))
  | 0 => failHere
  | fuel + 1 => do
    let c ← name
    expectSym "="
    let e ← expr fuel 0
    if ← acceptSym "," then
      let rest ← assignments fuel
      pure ((c, e) :: rest)
    else pure [(c, e)]

/-- Reads a text literal. -/
def textLiteral : Reader String := do
  match ← peek with
  | some (.str s) => advance; pure s
  | _ => failHere

/-- The text a statement was read from, by character, and where each of its tokens lies: the
parts of a definition that are kept as written (a column's declared type, the text of a
`CHECK` constraint) are cut from it. -/
structure Source where
  chars : Array Char
  spans : Array Located

namespace Source

/-- The text from one character up to another. -/
def slice (src : Source) (a b : Nat) : String := String.ofList (src.chars.extract a b).toList

/-- The text of the tokens from the `i`-th to the `j`-th, both included. -/
def span (src : Source) (i j : Nat) : String :=
  src.slice (src.spans.getD i default).start (src.spans.getD j default).stop

/-- The text between the `i`-th and the `j`-th token, without the blanks at its ends. -/
def between (src : Source) (i j : Nat) : String :=
  trimBlanks (src.slice (src.spans.getD i default).stop (src.spans.getD j default).start)

end Source

/-- The place of the next token in the statement. -/
def place (src : Source) : Reader Nat := do return src.spans.size - (← get).length

/-- Takes one of the keywords if it comes next; whether it did. -/
def acceptAnyKw (ks : List String) : Reader Bool := do
  match ← peek with
  | some t => if ks.any (t.isKw ·) then advance; return true else return false
  | none => return false

/-- Takes `IF NOT EXISTS` if it comes next; whether it did. -/
def ifNotExistsClause : Reader Bool := do
  if ← acceptKw "IF" then
    expectKw "NOT"
    expectKw "EXISTS"
    return true
  return false

/-- Reads a name, which may follow the name of its schema and a dot. -/
def qualifiedName : Reader String := do
  let n ← name
  if ← acceptSym "." then name else pure n

/-- Takes a number with an optional sign. -/
def signedNumber : Reader Unit := do
  if !(← acceptSym "+") then
    let _ ← acceptSym "-"
  match ← peek with
  | some (.num _) => advance
  | _ => failHere

end CreditExtraction.Sql

import PrimitiveDesk.Template.Expr
import PrimitiveDesk.Template.Token

/-!
# Reading templates

`Template.parse` gives the statements of a template. Expressions bind, from loose to tight: choices,
`or`, `and`, `not`, comparisons, sums, `~`, products, powers, and then what stands behind an
operand: members, items, calls, filters and tests. All functions take the tokens that are left and
give what they read with the tokens behind it, or the fault of the first token that does not fit.

Statements, expressions and operands inside each other may only be so deep (`depthLimit`); `depth`
is how much deeper they may get. Apart from that, the number of tokens bounds how often the
functions call each other.
-/

namespace PrimitiveDesk.Template

/-- A reading function: what it reads, with the tokens behind it. -/
abbrev Reading (α : Type) := List Token → Except Fault (α × List Token)

/-- The fault of a token that does not fit. -/
def unexpected {α : Type} : Reading α
  | .fault f :: _ => .error f
  | _ => .error .badSource

/-- How deep statements, expressions and operands may stand inside each other. -/
def depthLimit : Nat := 150

/-- Names that stand for constants or cannot be assigned to. -/
def reservedNames : List String :=
  ["true", "True", "false", "False", "none", "None", "loop", "self"]

/-- The constant of a name. -/
def constant? : String → Option Value
  | "true" => some (.bool true)
  | "True" => some (.bool true)
  | "false" => some (.bool false)
  | "False" => some (.bool false)
  | "none" => some .none
  | "None" => some .none
  | _ => none

/-- Reads a given token. -/
def expect (t : Token) : Reading Unit
  | u :: rest => if t = u then .ok ((), rest) else unexpected (u :: rest)
  | [] => unexpected []

/-- The comparison at the front. -/
def comparison? : List Token → Option (Comparison × List Token)
  | .symbol "==" :: rest => some (.eq, rest)
  | .symbol "!=" :: rest => some (.ne, rest)
  | .symbol "<" :: rest => some (.lt, rest)
  | .symbol "<=" :: rest => some (.le, rest)
  | .symbol ">" :: rest => some (.gt, rest)
  | .symbol ">=" :: rest => some (.ge, rest)
  | .ident "in" :: rest => some (.contained, rest)
  | .ident "not" :: .ident "in" :: rest => some (.notContained, rest)
  | _ => none

/-- The levels of operators between two operands, loose to tight. -/
inductive OperatorLevel where
  | sum
  | concat
  | product
  | power
deriving DecidableEq, Repr

namespace OperatorLevel

/-- The operator of a level at the front. -/
def operator? : OperatorLevel → List Token → Option (BinaryOp × List Token)
  | sum, .symbol "+" :: rest => some (.add, rest)
  | sum, .symbol "-" :: rest => some (.sub, rest)
  | concat, .symbol "~" :: rest => some (.concat, rest)
  | product, .symbol "*" :: rest => some (.mul, rest)
  | product, .symbol "/" :: rest => some (.div, rest)
  | product, .symbol "//" :: rest => some (.floorDiv, rest)
  | product, .symbol "%" :: rest => some (.rem, rest)
  | power, .symbol "**" :: rest => some (.pow, rest)
  | _, _ => none

/-- The next tighter level; none above powers. -/
def tighter? : OperatorLevel → Option OperatorLevel
  | sum => some concat
  | concat => some product
  | product => some power
  | power => none

end OperatorLevel

/-- Whether a test goes on with an argument without brackets. -/
def startsTestArgument : List Token → Bool
  | .ident n :: _ => !(["and", "or", "else", "is"].contains n)
  | .str _ :: _ => true
  | .int _ :: _ => true
  | .float _ :: _ => true
  | .symbol s :: _ => ["+", "-", "[", "\x7b"].contains s
  | _ => false

/-- Reads further parts of a name behind points. -/
def moreNameParts (name : String) : Reading String
  | .symbol "." :: .ident n :: ts => moreNameParts (name ++ "." ++ n) ts
  | .symbol "." :: ts => unexpected ts
  | ts => .ok (name, ts)

/-- Reads the name of a filter or a test, which may have several parts with points between them. -/
def readDottedName : Reading String
  | .ident n :: ts => moreNameParts n ts
  | ts => unexpected ts

/-- String literals behind each other make one. -/
def readStrings (acc : String) : List Token → String × List Token
  | .str s :: ts => readStrings (acc ++ s) ts
  | ts => (acc, ts)

mutual

/-- Reads an expression. -/
def readExpr : Nat → Nat → Reading Expr
  | 0, _, ts => unexpected ts
  | _ + 1, 0, ts => unexpected ts
  | fuel + 1, depth + 1, ts => readChoice fuel depth ts

/-- Reads an operand of `or` and the choices behind it. -/
def readChoice : Nat → Nat → Reading Expr
  | 0, _, ts => unexpected ts
  | fuel + 1, depth, ts => do
    let (e, ts) ← readOr fuel depth ts
    moreChoices fuel depth e ts

/-- Reads the choices behind an expression. -/
def moreChoices : Nat → Nat → Expr → Reading Expr
  | 0, _, _, ts => unexpected ts
  | fuel + 1, depth, e, .ident "if" :: ts => do
    match ← readOr fuel depth ts with
    | (test, .ident "else" :: ts) =>
      let (other, ts) ← readChoice fuel depth ts
      moreChoices fuel depth (.cond test e (some other)) ts
    | (test, ts) => moreChoices fuel depth (.cond test e none) ts
  | _ + 1, _, e, ts => .ok (e, ts)

/-- Reads operands of `or`. -/
def readOr : Nat → Nat → Reading Expr
  | 0, _, ts => unexpected ts
  | fuel + 1, depth, ts => do
    let (e, ts) ← readAnd fuel depth ts
    moreOr fuel depth e ts

/-- Reads further operands of `or`. -/
def moreOr : Nat → Nat → Expr → Reading Expr
  | 0, _, _, ts => unexpected ts
  | fuel + 1, depth, l, .ident "or" :: ts => do
    let (r, ts) ← readAnd fuel depth ts
    moreOr fuel depth (.or l r) ts
  | _ + 1, _, l, ts => .ok (l, ts)

/-- Reads operands of `and`. -/
def readAnd : Nat → Nat → Reading Expr
  | 0, _, ts => unexpected ts
  | fuel + 1, depth, ts => do
    let (e, ts) ← readNot fuel depth ts
    moreAnd fuel depth e ts

/-- Reads further operands of `and`. -/
def moreAnd : Nat → Nat → Expr → Reading Expr
  | 0, _, _, ts => unexpected ts
  | fuel + 1, depth, l, .ident "and" :: ts => do
    let (r, ts) ← readNot fuel depth ts
    moreAnd fuel depth (.and l r) ts
  | _ + 1, _, l, ts => .ok (l, ts)

/-- Reads a negation or comparisons. -/
def readNot : Nat → Nat → Reading Expr
  | 0, _, ts => unexpected ts
  | fuel + 1, depth, .ident "not" :: ts => do
    let (e, ts) ← readNot fuel depth ts
    return (.not e, ts)
  | fuel + 1, depth, ts => do
    let (e, ts) ← readLevel fuel depth .sum ts
    let (rest, ts) ← moreCompared fuel depth [] ts
    return (if rest.isEmpty then e else .compared e rest, ts)

/-- Reads further operands of comparisons; `acc` holds those read, latest first. -/
def moreCompared : Nat → Nat → List (Comparison × Expr) → Reading (List (Comparison × Expr))
  | 0, _, _, ts => unexpected ts
  | fuel + 1, depth, acc, ts =>
    match comparison? ts with
    | none => .ok (acc.reverse, ts)
    | some (op, ts) => do
      let (e, ts) ← readLevel fuel depth .sum ts
      moreCompared fuel depth ((op, e) :: acc) ts

/-- Reads operands of a level of operators. -/
def readLevel : Nat → Nat → OperatorLevel → Reading Expr
  | 0, _, _, ts => unexpected ts
  | fuel + 1, depth, level, ts => do
    let (e, ts) ← readOperand fuel depth level ts
    moreLevel fuel depth level e ts

/-- Reads an operand of a level of operators. -/
def readOperand : Nat → Nat → OperatorLevel → Reading Expr
  | 0, _, _, ts => unexpected ts
  | fuel + 1, depth, level, ts =>
    match level.tighter? with
    | some tighter => readLevel fuel depth tighter ts
    | none => readUnary fuel depth ts

/-- Reads further operands of a level of operators. -/
def moreLevel : Nat → Nat → OperatorLevel → Expr → Reading Expr
  | 0, _, _, _, ts => unexpected ts
  | fuel + 1, depth, level, l, ts =>
    match level.operator? ts with
    | none => .ok (l, ts)
    | some (op, ts) => do
      let (r, ts) ← readOperand fuel depth level ts
      moreLevel fuel depth level (.binary op l r) ts

/-- Reads an operand with its sign and all that stands behind it. -/
def readUnary : Nat → Nat → Reading Expr
  | 0, _, ts => unexpected ts
  | fuel + 1, depth, ts => do
    let (e, ts) ← readSigned fuel depth ts
    let (e, ts) ← readPostfix fuel depth e ts
    readFilters fuel depth e ts

/-- Reads an operand with its signs. -/
def readSigned : Nat → Nat → Reading Expr
  | 0, _, ts => unexpected ts
  | fuel + 1, depth, .symbol "-" :: ts => do
    let (e, ts) ← readSigned fuel depth ts
    return (.neg e, ts)
  | _ + 1, 0, ts => unexpected ts
  | fuel + 1, depth + 1, ts => readPrimary fuel depth ts

/-- Reads a name, a literal or an expression in brackets. -/
def readPrimary : Nat → Nat → Reading Expr
  | 0, _, ts => unexpected ts
  | _ + 1, _, .ident n :: ts =>
    match constant? n with
    | some v => .ok (.literal v, ts)
    | none => .ok (.var n, ts)
  | _ + 1, _, .str s :: ts =>
    let (s, ts) := readStrings s ts
    .ok (.literal (.str s), ts)
  | _ + 1, _, .int n :: ts => .ok (.literal (.ofNat n), ts)
  | _ + 1, _, .float x :: ts => .ok (.literal (.float x), ts)
  | fuel + 1, depth, .symbol "[" :: ts => do
    let (items, ts) ← readItems fuel depth "]" [] ts
    return (.list items, ts)
  | fuel + 1, depth, .symbol "\x7b" :: ts => do
    let (entries, ts) ← readEntries fuel depth [] ts
    return (.map entries, ts)
  | _ + 1, _, .symbol "(" :: .symbol ")" :: ts => .ok (.list [], ts)
  | fuel + 1, depth, .symbol "(" :: ts => do
    match ← readExpr fuel depth ts with
    | (e, .symbol ")" :: ts) => return (e, ts)
    | (e, .symbol "," :: ts) =>
      let (items, ts) ← readItems fuel depth ")" [e] ts
      return (.list items, ts)
    | (_, ts) => unexpected ts
  | _ + 1, _, ts => unexpected ts

/-- Reads the items up to a closing bracket; `acc` holds those read, latest first. -/
def readItems : Nat → Nat → String → List Expr → Reading (List Expr)
  | 0, _, _, _, ts => unexpected ts
  | fuel + 1, depth, close, acc, ts =>
    if ts.head? = some (.symbol close) then .ok (acc.reverse, ts.tail)
    else do
      match ← readExpr fuel depth ts with
      | (e, .symbol "," :: ts) => readItems fuel depth close (e :: acc) ts
      | (e, ts) =>
        let (_, ts) ← expect (.symbol close) ts
        return ((e :: acc).reverse, ts)

/-- Reads the entries of a map; `acc` holds those read, latest first. -/
def readEntries : Nat → Nat → List (Expr × Expr) → Reading (List (Expr × Expr))
  | 0, _, _, ts => unexpected ts
  | _ + 1, _, acc, .symbol "\x7d" :: ts => .ok (acc.reverse, ts)
  | fuel + 1, depth, acc, ts => do
    let (k, ts) ← readExpr fuel depth ts
    let (_, ts) ← expect (.symbol ":") ts
    match ← readExpr fuel depth ts with
    | (v, .symbol "," :: ts) => readEntries fuel depth ((k, v) :: acc) ts
    | (v, ts) =>
      let (_, ts) ← expect (.symbol "\x7d") ts
      return (((k, v) :: acc).reverse, ts)

/-- Reads members, items and calls behind an operand. -/
def readPostfix : Nat → Nat → Expr → Reading Expr
  | 0, _, _, ts => unexpected ts
  | fuel + 1, depth, e, .symbol "." :: .ident n :: .symbol "(" :: ts => do
    let (args, ts) ← readItems fuel depth ")" [] ts
    readPostfix fuel depth (.method e n args) ts
  | fuel + 1, depth, e, .symbol "." :: .ident n :: ts => readPostfix fuel depth (.member e n) ts
  | fuel + 1, depth, e, .symbol "." :: .int n :: ts =>
    readPostfix fuel depth (.item e (.literal (.ofNat n))) ts
  | _ + 1, _, _, .symbol "." :: ts => unexpected ts
  | fuel + 1, depth, e, .symbol "[" :: ts => do
    let (index, ts) ← readExpr fuel depth ts
    let (_, ts) ← expect (.symbol "]") ts
    readPostfix fuel depth (.item e index) ts
  | fuel + 1, depth, e, .symbol "(" :: ts => do
    let (args, ts) ← readItems fuel depth ")" [] ts
    readPostfix fuel depth (match e with | .var n => .call n args | e => .apply e args) ts
  | _ + 1, _, e, ts => .ok (e, ts)

/-- Reads filters and tests behind an operand. -/
def readFilters : Nat → Nat → Expr → Reading Expr
  | 0, _, _, ts => unexpected ts
  | fuel + 1, depth, e, .symbol "|" :: ts => do
    let (n, ts) ← readDottedName ts
    let (args, ts) ← readArguments fuel depth ts
    readFilters fuel depth (.filter e n args) ts
  | fuel + 1, depth, e, .ident "is" :: .ident "not" :: ts => do
    let (t, ts) ← readTest fuel depth e ts
    readFilters fuel depth (.not t) ts
  | fuel + 1, depth, e, .ident "is" :: ts => do
    let (t, ts) ← readTest fuel depth e ts
    readFilters fuel depth t ts
  | _ + 1, _, e, ts => .ok (e, ts)

/-- Reads arguments in brackets, if there are any. -/
def readArguments : Nat → Nat → Reading (List Expr)
  | 0, _, ts => unexpected ts
  | fuel + 1, depth, .symbol "(" :: ts => readItems fuel depth ")" [] ts
  | _ + 1, _, ts => .ok ([], ts)

/-- Reads the name and the arguments of a test. -/
def readTest : Nat → Nat → Expr → Reading Expr
  | 0, _, _, ts => unexpected ts
  | fuel + 1, depth, e, ts => do
    let (n, ts) ← readDottedName ts
    if startsTestArgument ts then
      let (arg, ts) ← readSigned fuel depth ts
      let (arg, ts) ← readPostfix fuel depth arg ts
      return (.test e n [arg], ts)
    else
      let (args, ts) ← readArguments fuel depth ts
      return (.test e n args, ts)

end

/-- How often the functions that read an expression may call each other. -/
def exprFuel (ts : List Token) : Nat := 16 * ts.length + 16

/-! ## Statements -/

/-- Reads the names of members behind what they are members of. -/
def readMembers (t : Target) (e : Expr) : Reading Target
  | .symbol "." :: .ident n :: ts => readMembers (.member e n) (.member e n) ts
  | .symbol "." :: ts => unexpected ts
  | ts => .ok (t, ts)

/-- Reads a name that may be assigned to; `members` tells whether it may be that of a member. -/
def readTargetName (members : Bool) : Reading Target
  | .ident n :: ts =>
    if reservedNames.contains n then unexpected ts
    else if members then readMembers (.name n) (.var n) ts
    else .ok (.name n, ts)
  | ts => unexpected ts

mutual

/-- Reads the names of an assignment, separated by commas; `acc` holds those read, latest first. -/
def readTargets (members : Bool) : Nat → List Target → Bool → Reading Target
  | 0, _, _, ts => unexpected ts
  | fuel + 1, acc, isList, ts =>
    let done : Target :=
      match acc with
      | [t] => if isList then .parts [t] else t
      | acc => .parts acc.reverse
    match ts with
    | .symbol ")" :: _ => .ok (done, ts)
    | .emitEnd :: _ => .ok (done, ts)
    | .blockEnd :: _ => .ok (done, ts)
    | .ident "in" :: _ => .ok (done, ts)
    | ts => do
      match ← readTarget members fuel ts with
      | (t, .symbol "," :: ts) => readTargets members fuel (t :: acc) true ts
      | (t, ts) =>
        match acc with
        | [] => return (t, ts)
        | acc => return (.parts (t :: acc).reverse, ts)

/-- Reads one name of an assignment, or several in brackets. -/
def readTarget (members : Bool) : Nat → Reading Target
  | 0, ts => unexpected ts
  | fuel + 1, .symbol "(" :: ts => do
    let (t, ts) ← readTargets members fuel [] false ts
    let (_, ts) ← expect (.symbol ")") ts
    return (t, ts)
  | _ + 1, ts => readTargetName members ts

end

/-- Reads filters with their arguments up to the end of a statement; `acc` holds those read, latest
first. -/
def readFilterRow (depth : Nat) :
    Nat → List (String × List Expr) → Reading (List (String × List Expr))
  | 0, _, ts => unexpected ts
  | fuel + 1, acc, ts => do
    let (n, ts) ← readDottedName ts
    let (args, ts) ← readArguments (exprFuel ts) depth ts
    match ts with
    | .symbol "|" :: ts => readFilterRow depth fuel ((n, args) :: acc) ts
    | ts => return (((n, args) :: acc).reverse, ts)

/-- Reads the words that ignore a missing template. -/
def readIgnoreMissing : Reading Bool
  | .ident "ignore" :: ts => do
    let (_, ts) ← expect (.ident "missing") ts
    return (true, ts)
  | ts => .ok (false, ts)

/-- Passes over the words that say whether an included template sees the names that are set; it
always does. -/
def skipContext : Reading Unit
  | .ident "with" :: ts => expect (.ident "context") ts
  | .ident "without" :: ts => expect (.ident "context") ts
  | ts => .ok ((), ts)

/-- Reads the template that is included. -/
def readEmbed (depth : Nat) : Reading Statement := fun ts => do
  let (e, ts) ← readExpr (exprFuel ts) depth ts
  let (ignoreMissing, ts) ← readIgnoreMissing ts
  let (_, ts) ← skipContext ts
  return (.embed e ignoreMissing, ts)

/-- Reads the value of an assignment: an expression, or a list of several without brackets. -/
def readAssigned (depth : Nat) : Reading Expr := fun ts => do
  match ← readExpr (exprFuel ts) depth ts with
  | (e, .symbol "," :: ts) => moreAssigned depth (ts.length + 1) [e] ts
  | (e, ts) => return (e, ts)
where
  /-- Reads further items behind a comma; `acc` holds those read, latest first. -/
  moreAssigned (depth : Nat) : Nat → List Expr → Reading Expr
    | 0, _, ts => unexpected ts
    | _ + 1, acc, .blockEnd :: ts => .ok (.list acc.reverse, .blockEnd :: ts)
    | fuel + 1, acc, ts => do
      match ← readExpr (exprFuel ts) depth ts with
      | (e, .symbol "," :: ts) => moreAssigned depth fuel (e :: acc) ts
      | (e, ts) => return (.list (e :: acc).reverse, ts)

/-- Reads the filter of a loop. -/
def readLoopFilter (depth : Nat) : Reading (Option Expr)
  | .ident "if" :: ts => do
    let (e, ts) ← readExpr (exprFuel ts) depth ts
    return (some e, ts)
  | ts => .ok (none, ts)

/-- Whether a word ends the body of a statement. -/
def endsBody (words : List String) : List Token → Bool
  | .blockStart :: .ident n :: _ => words.contains n
  | _ => false

mutual

/-- Reads statements up to one of the given words, or to the end of the template; `acc` holds those
read, latest first. -/
def readBody : Nat → Nat → List String → List Statement → Reading (List Statement)
  | 0, _, _, _, ts => unexpected ts
  | fuel + 1, depth, words, acc, ts =>
    if endsBody words ts then .ok (acc.reverse, ts.tail)
    else
      match ts with
      | [] => .ok (acc.reverse, [])
      | .text s :: ts => readBody fuel depth words (.text s :: acc) ts
      | .emitStart :: ts => do
        let (e, ts) ← readExpr (exprFuel ts) depth ts
        let (_, ts) ← expect .emitEnd ts
        readBody fuel depth words (.emit e :: acc) ts
      | .blockStart :: ts => do
        let (s, ts) ← readStatement fuel depth ts
        let (_, ts) ← expect .blockEnd ts
        readBody fuel depth words (s :: acc) ts
      | ts => unexpected ts

/-- Reads a statement behind its start. -/
def readStatement : Nat → Nat → Reading Statement
  | 0, _, ts => unexpected ts
  | _ + 1, 0, ts => unexpected ts
  | fuel + 1, depth + 1, .ident "if" :: ts => readChoose fuel depth ts
  | fuel + 1, depth + 1, .ident "for" :: ts => readLoop fuel depth ts
  | fuel + 1, depth + 1, .ident "set" :: ts => readAssign fuel depth ts
  | _ + 1, depth + 1, .ident "include" :: ts => readEmbed depth ts
  | _ + 1, _ + 1, ts => unexpected ts

/-- Reads a choice behind its word. -/
def readChoose : Nat → Nat → Reading Statement
  | 0, _, ts => unexpected ts
  | fuel + 1, depth, ts => do
    let (test, ts) ← readOr (exprFuel ts) depth ts
    let (_, ts) ← expect .blockEnd ts
    match ← readBody fuel depth ["endif", "else", "elif"] [] ts with
    | (yes, .ident "else" :: ts) =>
      let (_, ts) ← expect .blockEnd ts
      let (no, ts) ← readBody fuel depth ["endif"] [] ts
      let (_, ts) ← expect (.ident "endif") ts
      return (.choose test yes no, ts)
    | (yes, .ident "elif" :: ts) =>
      let (s, ts) ← readChoose fuel depth ts
      return (.choose test yes [s], ts)
    | (yes, ts) =>
      let (_, ts) ← expect (.ident "endif") ts
      return (.choose test yes [], ts)

/-- Reads a loop behind its word. -/
def readLoop : Nat → Nat → Reading Statement
  | 0, _, ts => unexpected ts
  | fuel + 1, depth, ts => do
    let (target, ts) ← readTargets false (ts.length + 1) [] false ts
    let (_, ts) ← expect (.ident "in") ts
    let (items, ts) ← readOr (exprFuel ts) depth ts
    let (filter?, ts) ← readLoopFilter depth ts
    let (_, ts) ← expect .blockEnd ts
    match ← readBody fuel depth ["endfor", "else"] [] ts with
    | (body, .ident "else" :: ts) =>
      let (_, ts) ← expect .blockEnd ts
      let (otherwise, ts) ← readBody fuel depth ["endfor"] [] ts
      let (_, ts) ← expect (.ident "endfor") ts
      return (.loop target items filter? body otherwise, ts)
    | (body, ts) =>
      let (_, ts) ← expect (.ident "endfor") ts
      return (.loop target items filter? body [], ts)

/-- Reads an assignment behind its word. -/
def readAssign : Nat → Nat → Reading Statement
  | 0, _, ts => unexpected ts
  | fuel + 1, depth, ts => do
    match ← readTargets true (ts.length + 1) [] false ts with
    | (target, .symbol "|" :: ts) =>
      let (filters, ts) ← readFilterRow depth (ts.length + 1) [] ts
      readCapture fuel depth target filters ts
    | (target, .blockEnd :: ts) => readCapture fuel depth target [] (.blockEnd :: ts)
    | (target, ts) =>
      let (_, ts) ← expect (.symbol "=") ts
      let (e, ts) ← readAssigned depth ts
      return (.assign target e, ts)

/-- Reads the body of an assignment. -/
def readCapture : Nat → Nat → Target → List (String × List Expr) → Reading Statement
  | 0, _, _, _, ts => unexpected ts
  | fuel + 1, depth, target, filters, ts => do
    let (_, ts) ← expect .blockEnd ts
    let (body, ts) ← readBody fuel depth ["endset"] [] ts
    let (_, ts) ← expect (.ident "endset") ts
    return (.capture target filters body, ts)

end

/-- The statements of a template. -/
def parse (source : String) : Except Fault (List Statement) := do
  let ts := tokens source
  let (body, ts) ← readBody (3 * ts.length + 3) depthLimit [] [] ts
  match ts with
  | [] => return body
  | ts => (·.1) <$> unexpected ts

end PrimitiveDesk.Template

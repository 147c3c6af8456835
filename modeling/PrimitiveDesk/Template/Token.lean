import PrimitiveDesk.Template.Literal
import PrimitiveDesk.Text.Blank

/-!
# Template tokens

A template is text with expressions between double braces, statements between braces with percent
signs, and comments between braces with number signs. A minus sign inside a mark removes the blanks
next to it, and a plus sign keeps them. One line break at the end of a template does not count.

What cannot be read stands as a token of its own behind those before it (`Token.fault`), so that a
reader of tokens meets it only when it gets there.
-/

namespace PrimitiveDesk.Template

open Text

/-- A token of a template. -/
inductive Token where
  | text (s : String)
  | emitStart
  | emitEnd
  | blockStart
  | blockEnd
  | ident (name : String)
  | str (s : String)
  | int (n : Nat)
  | float (x : Extended)
  /-- Any other token, by its spelling. -/
  | symbol (s : String)
  /-- What cannot be read. -/
  | fault (f : Fault)
deriving DecidableEq, Repr, Inhabited

/-- The three kinds of marks. -/
inductive Mark where
  | emit
  | block
  | comment
deriving DecidableEq, Repr

namespace Mark

/-- The mark behind an opening brace. -/
def ofChar? : Char → Option Mark
  | '\x7b' => some emit
  | '%' => some block
  | '#' => some comment
  | _ => none

/-- The character before the closing brace. -/
def closing : Mark → Char
  | emit => '\x7d'
  | block => '%'
  | comment => '#'

end Mark

/-- The text up to the first mark, the mark and what follows it. -/
def splitAtMark : List Char → List Char × Option (Mark × List Char)
  | [] => ([], none)
  | c :: cs =>
    let mark? := match c, cs with
      | '\x7b', d :: rest => (Mark.ofChar? d).map fun m => (m, rest)
      | _, _ => none
    match mark? with
    | some m => ([], some m)
    | none =>
      let (text, found) := splitAtMark cs
      (c :: text, found)

/-- Whether a blank control stands here, and what follows it: a minus sign removes blanks and a plus
sign keeps them. -/
def blankControl : List Char → Bool × List Char
  | '-' :: rest => (true, rest)
  | '+' :: rest => (false, rest)
  | rest => (false, rest)

/-- A comment's end: whether blanks behind it are removed, and what follows. `before` is the
character before. -/
def skipComment (before : Char) : List Char → Option (Bool × List Char)
  | '#' :: '\x7d' :: rest => some (before == '-', rest)
  | c :: rest => skipComment c rest
  | [] => none

/-- Whether a character may stand between tokens. -/
def isTokenSpace (c : Char) : Bool :=
  c == ' ' || c == '\t' || c == '\n' || c == '\r' || c == '\x0c'

/-- A statement that consists of a word only, behind its start and its blank control: whether blanks
behind it are removed, and what follows. -/
def skipWord? (word : List Char) (cs : List Char) : Option (Bool × List Char) :=
  let cs := cs.dropWhile isTokenSpace
  if word.isPrefixOf cs then
    match blankControl ((cs.drop word.length).dropWhile isTokenSpace) with
    | (trim, '%' :: '\x7d' :: rest) => some (trim, rest)
    | _ => none
  else none

/-- Literal text up to the statement that ends it; `acc` holds what was read, latest first. Gives
the text, whether blanks behind are removed, and what follows. -/
def readRaw? (acc : List Char) : List Char → Option (List Char × Bool × List Char)
  | [] => none
  | c :: cs =>
    let end? := match c, cs with
      | '\x7b', '%' :: rest =>
        let (trimBefore, behind) := blankControl rest
        (skipWord? "endraw".toList behind).map fun r => (trimBefore, r)
      | _, _ => none
    match end? with
    | some (trimBefore, trimBehind, rest) =>
      let text := acc.reverse
      some (if trimBefore then trimEnd text else text, trimBehind, rest)
    | none => readRaw? (c :: acc) cs

/-! ## Tokens of expressions -/

/-- The characters of a name. -/
def isNameChar (c : Char) : Bool :=
  c.isAlphanum || c == '_'

/-- Tokens of two characters. -/
def doubleSymbols : List String := ["//", "**", "==", "!=", ">=", "<="]

/-- Tokens of one character. -/
def singleSymbols : List Char :=
  ['+', '-', '*', '/', '%', '.', ',', ':', '~', '|', '=', '<', '>', '(', ')', '[', ']', '\x7b',
    '\x7d']

/-- How a token changes the number of open brackets. -/
def bracketChange (s : String) : Int :=
  if s == "(" || s == "[" || s == "\x7b" then 1
  else if s == ")" || s == "]" || s == "\x7d" then -1
  else 0

/-- Reads one token of an expression, which does not start with a blank. -/
def readToken (cs : List Char) : Except Fault (Token × List Char) :=
  match cs with
  | [] => .error .badSource
  | c :: rest =>
    if c == '"' || c == '\'' then
      match splitAtQuote c rest with
      | some (body, rest) => (unescape body).map fun s => (.str s, rest)
      | none => .error .badSource
    else if isAsciiDigit c then
      match readNumeral cs with
      | (some (.whole n), rest) => .ok (.int n, rest)
      | (some (.double x), rest) => .ok (.float x, rest)
      | (none, _) => .error .badSource
    else if isNameStart c then
      .ok (.ident (String.ofList (cs.takeWhile isNameChar)), cs.dropWhile isNameChar)
    else
      let two := String.ofList (cs.take 2)
      if doubleSymbols.contains two then .ok (.symbol two, cs.drop 2)
      else if singleSymbols.contains c then .ok (.symbol (String.singleton c), rest)
      else .error .badSource

/-- Whether the mark ends here: whether blanks behind it are removed, and what follows. -/
def markEnd? (mark : Mark) (cs : List Char) : Option (Bool × List Char) :=
  match blankControl cs with
  | (trim, a :: '\x7d' :: rest) => if a == mark.closing then some (trim, rest) else none
  | _ => none

/-- The tokens up to the end of a mark, latest first, with whether blanks behind it are removed and
what follows; or the tokens up to what cannot be read. The mark cannot end inside brackets. Each
step reads a character. -/
def readMark (mark : Mark) :
    Nat → Int → List Token → List Char → List Token × Option (Bool × List Char)
  | 0, _, acc, _ => (.fault .badSource :: acc, none)
  | fuel + 1, open_, acc, cs =>
    let cs := cs.dropWhile isTokenSpace
    match if open_ == 0 then markEnd? mark cs else none with
    | some (trim, rest) => (acc, some (trim, rest))
    | none =>
      match readToken cs with
      | .error e => (.fault e :: acc, none)
      | .ok (t, rest) =>
        let change := match t with
          | .symbol s => bracketChange s
          | _ => 0
        readMark mark fuel (open_ + change) (t :: acc) rest

/-! ## Whole templates -/

/-- A text token in front of others, unless it is empty. -/
def pushText (text : List Char) (acc : List Token) : List Token :=
  if text.isEmpty then acc else .text (String.ofList text) :: acc

/-- Reads a template; `acc` holds the tokens read, latest first, and `trim` tells to remove blanks
first. Gives all tokens, latest first. Each step reads a mark. -/
def readTemplate : Nat → Bool → List Token → List Char → List Token
  | 0, _, acc, _ => .fault .badSource :: acc
  | fuel + 1, trim, acc, cs =>
    let cs := if trim then trimStart cs else cs
    match splitAtMark cs with
    | (text, none) => pushText text acc
    | (text, some (mark, rest)) =>
      let (trimBefore, behind) := blankControl rest
      let acc := pushText (if trimBefore then trimEnd text else text) acc
      match mark with
      | .comment =>
        match skipComment ' ' behind with
        | some (trim, rest) => readTemplate fuel trim acc rest
        | none => .fault .badSource :: acc
      | .emit =>
        match readMark .emit (behind.length + 1) 0 (.emitStart :: acc) behind with
        | (acc, some (trim, rest)) => readTemplate fuel trim (.emitEnd :: acc) rest
        | (acc, none) => acc
      | .block =>
        match skipWord? "raw".toList behind with
        | some (trimRaw, rest) =>
          match readRaw? [] rest with
          | some (text, trim, rest) =>
            readTemplate fuel trim
              (pushText (if trimRaw then trimStart text else text) acc) rest
          | none => .fault .badSource :: acc
        | none =>
          match readMark .block (behind.length + 1) 0 (.blockStart :: acc) behind with
          | (acc, some (trim, rest)) => readTemplate fuel trim (.blockEnd :: acc) rest
          | (acc, none) => acc

/-- A template without the line break at its end. -/
def dropLastBreak (cs : List Char) : List Char :=
  let dropOne (c : Char) (reversed : List Char) : List Char :=
    match reversed with
    | d :: rest => if d == c then rest else reversed
    | [] => []
  (dropOne '\r' (dropOne '\n' cs.reverse)).reverse

/-- The tokens of a template, up to the first that cannot be read. -/
def tokens (source : String) : List Token :=
  let cs := dropLastBreak source.toList
  (readTemplate (cs.length + 1) false [] cs).reverse

end PrimitiveDesk.Template

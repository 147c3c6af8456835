import PrimitiveDesk.Script.Basic
import PrimitiveDesk.Text.Digit

/-!
# Reading scripts

`Script.parse` gives the statements of a script, or the line of the first one that cannot be read.
The functions take what is left of the source and give what they read with the source behind it; the
size of the source bounds how deep they call each other.
-/

namespace PrimitiveDesk.Script

open Text

/-- What is left of a source, at a line. -/
structure Source where
  rest : List Char
  line : Nat
deriving Repr, Inhabited

namespace Source

/-- The source behind some characters. -/
def drop (s : Source) (n : Nat) : Source :=
  ⟨s.rest.drop n, s.line + (s.rest.take n).count '\n'⟩

/-- Whether the source goes on with a text. -/
def startsWith (s : Source) (t : String) : Bool :=
  t.toList.isPrefixOf s.rest

/-- The source behind blanks, joined lines and a comment. -/
def skipBlanks (s : Source) : Nat → Source
  | 0 => s
  | fuel + 1 =>
    match s.rest with
    | ' ' :: _ => (s.drop 1).skipBlanks fuel
    | '\t' :: _ => (s.drop 1).skipBlanks fuel
    | '\\' :: '\n' :: _ => (s.drop 2).skipBlanks fuel
    | '#' :: _ => s.drop (s.rest.takeWhile (· != '\n')).length
    | _ => s

/-- The source behind blanks. -/
def blanks (s : Source) : Source :=
  s.skipBlanks (s.rest.length + 1)

/-- The source behind blanks and line breaks. -/
def skipLines (s : Source) : Nat → Source
  | 0 => s
  | fuel + 1 =>
    let s := s.blanks
    match s.rest with
    | '\n' :: _ => (s.drop 1).skipLines fuel
    | _ => s

/-- The source behind blanks and line breaks. -/
def breaks (s : Source) : Source :=
  s.skipLines (s.rest.length + 1)

end Source

/-- Whether a character ends a word. -/
def endsWord (c : Char) : Bool :=
  [' ', '\t', '\n', ';', '&', '|', '<', '>', '(', ')'].contains c

/-- Whether a character may stand in the name of a parameter. -/
def isParameterChar (c : Char) : Bool :=
  c.isAlphanum || c == '_'

/-- The characters up to the bracket that closes an open one; `depth` counts those that are open. -/
def closing (open_ close : Char) : Nat → List Char → Option (List Char)
  | _, [] => none
  | depth, c :: cs =>
    if c == close then
      match depth with
      | 0 => some []
      | depth + 1 => (closing open_ close depth cs).map (c :: ·)
    else if c == open_ then (closing open_ close (depth + 1) cs).map (c :: ·)
    else (closing open_ close depth cs).map (c :: ·)

/-- The unquoted text at the front of a source that could be a reserved word. -/
def plainWord (s : Source) : String :=
  let word := s.rest.takeWhile fun c => !endsWord c
  if word.all fun c => c.isAlpha || ['!', '\x7b', '\x7d'].contains c then String.ofList word else ""

/-- A name with an equals sign at the front of a source. -/
def assignedName? (s : Source) : Option String :=
  let name := s.rest.takeWhile isParameterChar
  match name, s.rest.drop name.length with
  | c :: _, '=' :: _ => if c.isDigit then none else some (String.ofList name)
  | _, _ => none

/-- A redirection sign: its descriptor, its mode and its length. -/
def redirectSign? (s : Source) : Option (Nat × RedirectMode × Nat) :=
  let digits := s.rest.takeWhile isAsciiDigit
  let fd? := readNat? 10 digits
  match s.rest.drop digits.length with
  | '>' :: '>' :: _ => some (fd?.getD 1, .append, digits.length + 2)
  | '>' :: '&' :: _ => some (fd?.getD 1, .duplicate, digits.length + 2)
  | '>' :: '|' :: _ => some (fd?.getD 1, .write, digits.length + 2)
  | '>' :: _ => some (fd?.getD 1, .write, digits.length + 1)
  | '<' :: '&' :: _ => some (fd?.getD 0, .duplicate, digits.length + 2)
  | '<' :: '<' :: _ => none
  | '<' :: _ => some (fd?.getD 0, .read, digits.length + 1)
  | _ => none

/-- The name of a function that is defined at the front of a source, and what follows its
brackets. -/
def definedName? (s : Source) : Option (String × Source) :=
  let name := s.rest.takeWhile isParameterChar
  let behind := (s.drop name.length).blanks
  match name, behind.rest with
  | c :: _, '(' :: rest =>
    let inner := rest.takeWhile fun c => c == ' '
    match rest.drop inner.length with
    | ')' :: _ =>
      if c.isDigit then none else some (String.ofList name, behind.drop (inner.length + 2))
    | _ => none
  | _, _ => none

mutual

/-- Reads the pieces of a word; `acc` holds those read, latest first. -/
def readPieces : Nat → List Piece → Source → Option (List Piece × Source)
  | 0, _, _ => none
  | fuel + 1, acc, s =>
    match s.rest with
    | [] => some (acc.reverse, s)
    | '\'' :: rest =>
      let text := rest.takeWhile (· != '\'')
      if text.length == rest.length then none
      else readPieces fuel (.text (String.ofList text) true :: acc) (s.drop (text.length + 2))
    | '"' :: _ =>
      match readQuoted fuel (.text "" true :: acc) (s.drop 1) with
      | some (acc, s) => readPieces fuel acc s
      | none => none
    | '\\' :: '\n' :: _ => readPieces fuel acc (s.drop 2)
    | '\\' :: c :: _ => readPieces fuel (.text (String.singleton c) true :: acc) (s.drop 2)
    | '$' :: _ =>
      match readDollar fuel false s with
      | some (p, s) => readPieces fuel (p :: acc) s
      | none => none
    | '\x60' :: rest =>
      let text := rest.takeWhile (· != '\x60')
      match readScript fuel ⟨text, s.line⟩ with
      | some body => readPieces fuel (.output body false :: acc) (s.drop (text.length + 2))
      | none => none
    | c :: _ =>
      if endsWord c then some (acc.reverse, s)
      else
        let plain := s.rest.takeWhile fun c =>
          !endsWord c && !(['\'', '"', '\\', '$', '\x60'].contains c)
        readPieces fuel (.text (String.ofList plain) false :: acc) (s.drop plain.length)

/-- Reads pieces up to a closing double quote; `acc` holds those read, latest first. -/
def readQuoted : Nat → List Piece → Source → Option (List Piece × Source)
  | 0, _, _ => none
  | fuel + 1, acc, s =>
    match s.rest with
    | [] => none
    | '"' :: _ => some (acc, s.drop 1)
    | '\\' :: '\n' :: _ => readQuoted fuel acc (s.drop 2)
    | '\\' :: c :: _ =>
      if ['$', '"', '\\', '\x60'].contains c then
        readQuoted fuel (.text (String.singleton c) true :: acc) (s.drop 2)
      else readQuoted fuel (.text (String.ofList ['\\', c]) true :: acc) (s.drop 2)
    | '$' :: _ =>
      match readDollar fuel true s with
      | some (p, s) => readQuoted fuel (p :: acc) s
      | none => none
    | '\x60' :: rest =>
      let text := rest.takeWhile (· != '\x60')
      match readScript fuel ⟨text, s.line⟩ with
      | some body => readQuoted fuel (.output body true :: acc) (s.drop (text.length + 2))
      | none => none
    | _ =>
      let plain := s.rest.takeWhile fun c => !(['"', '\\', '$', '\x60'].contains c)
      readQuoted fuel (.text (String.ofList plain) true :: acc) (s.drop plain.length)

/-- Reads what stands behind a dollar sign. -/
def readDollar : Nat → Bool → Source → Option (Piece × Source)
  | 0, _, _ => none
  | fuel + 1, quoted, s =>
    match s.rest.drop 1 with
    | '(' :: '(' :: rest =>
      match closing '(' ')' 1 rest with
      | some inner =>
        let sum := inner.dropLast
        match readQuoted fuel [] ⟨sum ++ ['"'], s.line⟩ with
        | some (pieces, _) => some (.number pieces.reverse, s.drop (inner.length + 4))
        | none => none
      | none => none
    | '(' :: rest =>
      match closing '(' ')' 0 rest with
      | some inner =>
        match readScript fuel ⟨inner, s.line⟩ with
        | some body => some (.output body quoted, s.drop (inner.length + 3))
        | none => none
      | none => none
    | '\x7b' :: rest =>
      match closing '\x7b' '\x7d' 0 rest with
      | some inner =>
        let behind := s.drop (inner.length + 3)
        match inner with
        | '#' :: c :: cs => some (.size (String.ofList (c :: cs)), behind)
        | inner =>
          let name := match inner with
            | c :: cs => if isParameterChar c then (c :: cs).takeWhile isParameterChar else [c]
            | [] => []
          let fallback := match inner.drop name.length with
            | ':' :: '-' :: word => some (false, word)
            | '-' :: word => some (false, word)
            | ':' :: '=' :: word => some (true, word)
            | '=' :: word => some (true, word)
            | _ => none
          match fallback with
          | some (kept, word) =>
            match readQuoted fuel [] ⟨word ++ ['"'], s.line⟩ with
            | some (pieces, _) =>
              let name := String.ofList name
              some (if kept then .assigned name pieces.reverse quoted
                else .parameter name (some pieces.reverse) quoted, behind)
            | none => none
          | none => some (.parameter (String.ofList name) none quoted, behind)
      | none => none
    | c :: _ =>
      if c.isDigit || ['@', '*', '#', '?', '$', '!', '-'].contains c then
        some (.parameter (String.singleton c) none quoted, s.drop 2)
      else
        let name := (s.rest.drop 1).takeWhile isParameterChar
        if name.isEmpty then some (.text "$" quoted, s.drop 1)
        else some (.parameter (String.ofList name) none quoted, s.drop (name.length + 1))
    | [] => some (.text "$" quoted, s.drop 1)

/-- Reads a word, which must not be empty. -/
def readWord : Nat → Source → Option (Word × Source)
  | 0, _ => none
  | fuel + 1, s =>
    match readPieces fuel [] s with
    | some ([], _) => none
    | r => r

/-- Reads a redirection behind its sign. -/
def readRedirect : Nat → Nat → RedirectMode → Source → Option (Redirect × Source)
  | 0, _, _, _ => none
  | fuel + 1, fd, mode, s =>
    match readWord fuel s.blanks with
    | some (word, s) => some (.mk fd mode word, s)
    | none => none

/-- Reads redirections; `acc` holds those read, latest first. -/
def readRedirects : Nat → List Redirect → Source → Option (List Redirect × Source)
  | 0, _, _ => none
  | fuel + 1, acc, s =>
    let s := s.blanks
    match redirectSign? s with
    | some (fd, mode, size) =>
      match readRedirect fuel fd mode (s.drop size) with
      | some (r, s) => readRedirects fuel (r :: acc) s
      | none => none
    | none => some (acc.reverse, s)

/-- Reads a simple command. -/
def readSimple : Nat → Nat → List (String × Word) → List Word → List Redirect → Source →
    Option (Statement × Source)
  | 0, _, _, _, _, _ => none
  | fuel + 1, line, assignments, words, redirects, s =>
    let s := s.blanks
    match redirectSign? s with
    | some (fd, mode, size) =>
      match readRedirect fuel fd mode (s.drop size) with
      | some (r, s) => readSimple fuel line assignments words (r :: redirects) s
      | none => none
    | none =>
      let done : Option (Statement × Source) :=
        if assignments.isEmpty && words.isEmpty && redirects.isEmpty then none
        else
          some (.simple line assignments.reverse words.reverse redirects.reverse, s)
      match s.rest with
      | [] => done
      | c :: _ =>
        if endsWord c then done
        else
          match if words.isEmpty then assignedName? s else none with
          | some name =>
            match readPieces fuel [] (s.drop (name.length + 1)) with
            | some (value, s) =>
              readSimple fuel line ((name, value) :: assignments) words redirects s
            | none => none
          | none =>
            match readWord fuel s with
            | some (w, s) => readSimple fuel line assignments (w :: words) redirects s
            | none => none

/-- Reads words up to the end of a list. -/
def readWords : Nat → List Word → Source → Option (List Word × Source)
  | 0, _, _ => none
  | fuel + 1, acc, s =>
    let s := s.blanks
    match s.rest with
    | [] => some (acc.reverse, s)
    | c :: _ =>
      if endsWord c then some (acc.reverse, s)
      else
        match readWord fuel s with
        | some (w, s) => readWords fuel (w :: acc) s
        | none => none

/-- Reads a reserved word. -/
def readReserved (word : String) (s : Source) : Option Source :=
  let s := s.breaks
  if plainWord s == word then some (s.drop word.length) else none

/-- Reads the branches of a choice behind a test word. -/
def readBranches : Nat → Source → Option (List Statement × List Statement × List Statement × Source)
  | 0, _ => none
  | fuel + 1, s =>
    match readList fuel ["then"] [] s with
    | none => none
    | some (test, s) =>
      match readReserved "then" s with
      | none => none
      | some s =>
        match readList fuel ["elif", "else", "fi"] [] s with
        | none => none
        | some (yes, s) =>
          match plainWord s.breaks with
          | "fi" => some (test, yes, [], s.breaks.drop 2)
          | "else" =>
            match readList fuel ["fi"] [] (s.breaks.drop 4) with
            | some (no, s) => (readReserved "fi" s).map fun s => (test, yes, no, s)
            | none => none
          | "elif" =>
            match readBranches fuel (s.breaks.drop 4) with
            | some (t, y, n, s) => some (test, yes, [.choose t y n []], s)
            | none => none
          | _ => none

/-- Reads the arms of a match; `acc` holds those read, latest first. -/
def readArms : Nat → List (List Word × List Statement) → Source →
    Option (List (List Word × List Statement) × Source)
  | 0, _, _ => none
  | fuel + 1, acc, s =>
    let s := s.breaks
    if plainWord s == "esac" then some (acc.reverse, s.drop 4)
    else
      let s := if s.startsWith "(" then s.drop 1 else s
      match readPatterns fuel [] s with
      | none => none
      | some (patterns, s) =>
        match readList fuel ["esac"] [] s with
        | none => none
        | some (body, s) =>
          let s := s.breaks
          readArms fuel ((patterns, body) :: acc) (if s.startsWith ";;" then s.drop 2 else s)

/-- Reads the patterns of an arm up to the bracket behind them. -/
def readPatterns : Nat → List Word → Source → Option (List Word × Source)
  | 0, _, _ => none
  | fuel + 1, acc, s =>
    match readWord fuel s.blanks with
    | none => none
    | some (w, s) =>
      let s := s.blanks
      match s.rest with
      | '|' :: _ => readPatterns fuel (w :: acc) (s.drop 1)
      | ')' :: _ => some ((w :: acc).reverse, s.drop 1)
      | _ => none

/-- Reads one command of a pipe. -/
def readCommand : Nat → Source → Option (Statement × Source)
  | 0, _ => none
  | fuel + 1, s =>
    let s := s.blanks
    if s.startsWith "(" then
      match readList fuel [] [] (s.drop 1) with
      | some (body, s) =>
        let s := s.breaks
        if s.startsWith ")" then
          (readRedirects fuel [] (s.drop 1)).map fun (rs, s) => (.subshell body rs, s)
        else none
      | none => none
    else
      match plainWord s with
      | "\x7b" =>
        match readList fuel ["\x7d"] [] (s.drop 1) with
        | some (body, s) =>
          match readReserved "\x7d" s with
          | some s => (readRedirects fuel [] s).map fun (rs, s) => (.group body rs, s)
          | none => none
        | none => none
      | "if" =>
        match readBranches fuel (s.drop 2) with
        | some (test, yes, no, s) =>
          (readRedirects fuel [] s).map fun (rs, s) => (.choose test yes no rs, s)
        | none => none
      | "while" => readLoop fuel true (s.drop 5)
      | "until" => readLoop fuel false (s.drop 5)
      | "for" =>
        let s := (s.drop 3).blanks
        let name := s.rest.takeWhile isParameterChar
        let s := (s.drop name.length).breaks
        let words :=
          if plainWord s == "in" then readWords fuel [] (s.drop 2)
          else some ([[.parameter "@" none true]], s)
        match words with
        | some (words, s) =>
          let s := s.blanks
          let s := if s.startsWith ";" then s.drop 1 else s
          match readBody fuel s with
          | some (body, s) =>
            (readRedirects fuel [] s).map fun (rs, s) =>
              (.each (String.ofList name) words body rs, s)
          | none => none
        | none => none
      | "case" =>
        match readWord fuel (s.drop 4).blanks with
        | some (w, s) =>
          match readReserved "in" s with
          | some s => (readArms fuel [] s).map fun (arms, s) => (.match_ w arms, s)
          | none => none
        | none => none
      | _ =>
        match definedName? s with
        | some (name, s) =>
          (readCommand fuel s.breaks).map fun (body, s) => (.define name [body], s)
        | none => readSimple fuel s.line [] [] [] s

/-- Reads a loop behind its word. -/
def readLoop : Nat → Bool → Source → Option (Statement × Source)
  | 0, _, _ => none
  | fuel + 1, whileSuccess, s =>
    match readList fuel ["do"] [] s with
    | some (test, s) =>
      match readBody fuel s with
      | some (body, s) =>
        (readRedirects fuel [] s).map fun (rs, s) => (.loop whileSuccess test body rs, s)
      | none => none
    | none => none

/-- Reads the body of a loop between its words. -/
def readBody : Nat → Source → Option (List Statement × Source)
  | 0, _ => none
  | fuel + 1, s =>
    match readReserved "do" s with
    | some s =>
      match readList fuel ["done"] [] s with
      | some (body, s) => (readReserved "done" s).map fun s => (body, s)
      | none => none
    | none => none

/-- Reads the commands of a pipe; `acc` holds those read, latest first. -/
def readPipe : Nat → List Statement → Source → Option (List Statement × Source)
  | 0, _, _ => none
  | fuel + 1, acc, s =>
    match readCommand fuel s with
    | none => none
    | some (c, s) =>
      let s := s.blanks
      match s.rest with
      | '|' :: '|' :: _ => some ((c :: acc).reverse, s)
      | '|' :: _ => readPipe fuel (c :: acc) (s.drop 1).breaks
      | _ => some ((c :: acc).reverse, s)

/-- Reads a pipe, which may be negated. -/
def readPipeline : Nat → Source → Option (Statement × Source)
  | 0, _ => none
  | fuel + 1, s =>
    let s := s.blanks
    let negated := plainWord s == "!"
    match readPipe fuel [] (if negated then s.drop 1 else s) with
    | some ([c], s) => some (if negated then .pipe true [c] else c, s)
    | some (cs, s) => some (.pipe negated cs, s)
    | none => none

/-- Reads statements joined by conditions, behind the first one. -/
def readConditions : Nat → Statement → Source → Option (Statement × Source)
  | 0, _, _ => none
  | fuel + 1, first, s =>
    let s := s.blanks
    match s.rest with
    | '&' :: '&' :: _ =>
      match readPipeline fuel (s.drop 2).breaks with
      | some (second, s) => readConditions fuel (.both first second) s
      | none => none
    | '|' :: '|' :: _ =>
      match readPipeline fuel (s.drop 2).breaks with
      | some (second, s) => readConditions fuel (.either first second) s
      | none => none
    | _ => some (first, s)

/-- Reads statements up to a reserved word, a closing bracket or the end; `acc` holds those read,
latest first. -/
def readList : Nat → List String → List Statement → Source → Option (List Statement × Source)
  | 0, _, _, _ => none
  | fuel + 1, stops, acc, s =>
    let s := s.breaks
    if s.rest.isEmpty || s.startsWith ")" || s.startsWith ";;" || stops.contains (plainWord s) then
      some (acc.reverse, s)
    else
      match readPipeline fuel s with
      | none => none
      | some (first, s) =>
        match readConditions fuel first s with
        | none => none
        | some (st, s) =>
          let s := s.blanks
          match s.rest with
          | ';' :: ';' :: _ => readList fuel stops (st :: acc) s
          | ';' :: _ => readList fuel stops (st :: acc) (s.drop 1)
          | '&' :: _ => readList fuel stops (.background st :: acc) (s.drop 1)
          | '\n' :: _ => readList fuel stops (st :: acc) s
          | [] => readList fuel stops (st :: acc) s
          | ')' :: _ => readList fuel stops (st :: acc) s
          | _ => none

/-- Reads a whole script. -/
def readScript : Nat → Source → Option (List Statement)
  | 0, _ => none
  | fuel + 1, s =>
    match readList fuel [] [] s with
    | some (body, s) => if s.rest.isEmpty then some body else none
    | none => none

end

/-- The statements of a script; none if it cannot be read. -/
def parse (text : String) : Option (List Statement) :=
  readScript (20 * text.length + 40) ⟨text.toList, 1⟩

end PrimitiveDesk.Script

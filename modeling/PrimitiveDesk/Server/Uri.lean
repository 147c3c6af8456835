import PrimitiveDesk.Files.Path
import PrimitiveDesk.Server.WebHost

/-!
# Addresses of documents

Clients name documents by URIs. An address is kept in its normal form: the scheme in small letters,
the host in normal form, dot segments resolved, and characters encoded that it cannot hold. Two
addresses are the same if their texts are. An address without a foreign host leads to a file
(`Uri.file?`).
-/

namespace PrimitiveDesk

/-- An address in its normal form. -/
structure Uri where
  scheme : String
  /-- User, host and port, if the address has a place for them. -/
  authority? : Option String
  host? : Option String
  /-- The path with its slashes. -/
  path : String
  /-- Query and fragment with the marks in front of them. -/
  suffix : String
deriving DecidableEq, Repr, Inhabited

namespace Uri

open Text

/-- The text of an address. A path that starts with two slashes must not be taken for a host. -/
def text (u : Uri) : String :=
  let authority := match u.authority? with
    | some a => "//" ++ a
    | none => if u.path.startsWith "//" then "/." else ""
  u.scheme ++ ":" ++ authority ++ u.path ++ u.suffix

/-- The file that an address leads to. Its scheme does not matter, but it has no foreign host. -/
def file? (u : Uri) : Option Path :=
  if u.path.startsWith "/" && (u.host? == none || u.host? == some "localhost") then
    some (.ofText (decodeLossy (percentDecode u.path.toList)))
  else none

/-! ## Parts -/

/-- Whether a character is left out wherever it stands: a tab or a line break. -/
def isBreak (c : Char) : Bool :=
  c == '\t' || c == '\n' || c == '\r'

/-- A text without breaks. -/
def joined (cs : List Char) : List Char :=
  cs.filter fun c => !isBreak c

/-- The part up to one of some characters, and what starts with it. -/
def cutAt (stops : List Char) (cs : List Char) : List Char × List Char :=
  cs.span fun c => !stops.contains c

/-- Whether a character can stand in a scheme. -/
def isSchemeChar (c : Char) : Bool :=
  c.isAlphanum || c == '+' || c == '-' || c == '.'

/-- The scheme in small letters, and what follows its colon. -/
def scheme? (cs : List Char) : Option (List Char × List Char) :=
  match cs.span isSchemeChar with
  | (c :: name, ':' :: rest) =>
    if c.isAlpha then some ((c :: name).map Char.toLower, rest) else none
  | _ => none

/-- Schemes whose addresses have a host, with the port that is left out. -/
def hostSchemes : List (String × Nat) :=
  [("http", 80), ("https", 443), ("ws", 80), ("wss", 443), ("ftp", 21)]

/-- Characters encoded in a path. -/
def pathReserved : List Char := [' ', '"', '<', '>', '\x60', '#', '?', '\x7b', '\x7d']

/-- Characters encoded in a query. -/
def queryReserved : List Char := [' ', '"', '<', '>', '#']

/-- Characters encoded in a fragment. -/
def fragmentReserved : List Char := [' ', '"', '<', '>', '\x60']

/-- Query and fragment in normal form. -/
def suffixOf (special : Bool) (cs : List Char) : List Char :=
  let fragment (cs : List Char) : List Char :=
    match cs with
    | '#' :: rest => '#' :: percentEncode fragmentReserved rest
    | _ => []
  match cs with
  | '?' :: rest =>
    let (query, rest) := cutAt ['#'] rest
    '?' :: percentEncode (if special then '\'' :: queryReserved else queryReserved) query ++
      fragment rest
  | cs => fragment cs

/-! ## Paths -/

/-- The characters that divide the segments of a path. -/
def slashes (special : Bool) : List Char :=
  if special then ['/', '\\'] else ['/']

/-- Whether a segment stays where it is. -/
def isDot (s : List Char) : Bool :=
  [".", "%2e"].contains (String.ofList (s.map Char.toLower))

/-- Whether a segment goes up. -/
def isDoubleDot (s : List Char) : Bool :=
  ["..", ".%2e", "%2e.", "%2e%2e"].contains (String.ofList (s.map Char.toLower))

/-- Whether a segment is the letter of a drive with its mark. -/
def isDrive : List Char → Bool
  | [c, mark] => c.isAlpha && (mark == ':' || mark == '|')
  | _ => false

/-- Segments, latest first, without the last one. The letter of a drive stays. -/
def goUp : List (List Char) → List (List Char)
  | s :: rest => if isDrive s then s :: rest else rest
  | [] => []

/-- A drive and what follows it, of a segment where a break divides them. -/
def brokenDrive? (s : List Char) : Option (List Char × List Char) :=
  match s.span (· != ':') with
  | (letter, ':' :: c :: behind) =>
    let drive := joined letter ++ [':']
    if isDrive drive && isBreak c && !(joined behind).isEmpty then some (drive, joined behind)
    else none
  | _ => none

/-- The segments of a path. -/
structure Segments where
  list : List (List Char)
  /-- Whether the path of a file starts with a folder that is a drive. -/
  onDrive : Bool
deriving DecidableEq, Repr, Inhabited

/-- Resolves dot segments; `reversed` holds the segments before, latest first. A dot segment at the
end leaves an empty one. At the front of a file's path, a folder that is a drive is marked by a
colon, and a drive with a break behind it becomes a folder. -/
def resolveDots (isFile onDrive : Bool) (reversed : List (List Char)) :
    List (List Char) → Segments
  | [] => ⟨reversed.reverse, onDrive⟩
  | raw :: rest =>
    let s := percentEncode pathReserved (joined raw)
    let ending := if rest.isEmpty then [[]] else []
    let inFront := isFile && reversed.isEmpty
    match if inFront then brokenDrive? raw else none with
    | some (drive, behind) =>
      resolveDots isFile onDrive (percentEncode pathReserved behind :: [drive]) rest
    | none =>
      if isDoubleDot s then resolveDots isFile onDrive (ending ++ goUp reversed) rest
      else if isDot s then resolveDots isFile onDrive (ending ++ reversed) rest
      else if inFront && isDrive s && !rest.isEmpty then
        resolveDots isFile true [s.take 1 ++ [':']] rest
      else resolveDots isFile onDrive (s :: reversed) rest

/-- The segments of a path from the root in normal form; `cs` is what follows its first slash. -/
def rootedPath (special isFile : Bool) (cs : List Char) : Segments :=
  resolveDots isFile false [] (cs.splitOnP (slashes special).contains)

/-- The text of a path from the root. -/
def pathText (segments : List (List Char)) : String :=
  String.ofList (segments.flatMap ('/' :: ·))

/-! ## Users, hosts and ports -/

/-- Characters encoded in the name of a user. -/
def userReserved : List Char :=
  pathReserved ++ ['/', ':', ';', '=', '@', '[', '\\', ']', '^', '|']

/-- User and password in normal form, with the mark behind them. An empty password is left out. -/
def userText (cs : List Char) : List Char :=
  let (name, behind) := cutAt [':'] cs
  let password := match behind.drop 1 with
    | [] => []
    | password => ':' :: percentEncode userReserved password
  let user := percentEncode userReserved name ++ password
  if user.isEmpty then [] else user ++ ['@']

/-- Cuts off what stands behind the last of some character, if there is one. -/
def cutLast (mark : Char) (cs : List Char) : List Char × Option (List Char) :=
  let tail := (cs.reverse.takeWhile (· != mark)).reverse
  if tail.length < cs.length then (cs.take (cs.length - tail.length - 1), some tail) else (cs, none)

/-- The host at the front, and what follows. A colon in brackets belongs to the host. -/
def cutHost (inside : Bool) : List Char → List Char × List Char
  | [] => ([], [])
  | c :: cs =>
    if c == ':' && !inside then ([], c :: cs)
    else
      let (host, rest) := cutHost (c == '[' || (inside && c != ']')) cs
      (c :: host, rest)

/-- The port behind a host in normal form, and the rest, which starts with the backslash that ends
the port. The port `standard?` is left out, and one without digits is none. -/
def portText (standard? : Option Nat) : List Char → Except UriError (List Char × List Char)
  | ':' :: cs =>
    let (digits, rest) := cs.span isAsciiDigit
    if !(rest.isEmpty || rest.head? == some '\\') then .error .invalidPort
    else
      match readNat? 10 digits with
      | none => .ok ([], rest)
      | some n =>
        if 65535 < n then .error .invalidPort
        else .ok (if some n = standard? then [] else ':' :: (decimal n).toList, rest)
  | _ => .ok ([], [])

/-- Who and where, in front of a path. -/
structure Authority where
  /-- User, host and port in normal form. -/
  text : String
  host? : Option String
  /-- What stands behind the port and belongs to the path. -/
  rest : List Char
deriving DecidableEq, Repr, Inhabited

/-- User, host and port, by how hosts are read. Only where a host may be missing, and nothing else
stands there, is an empty one right; `followed` tells whether more of the address comes behind, in
which case the mark of a user must not stand alone. -/
def authorityOf (readHost : List Char → Except UriError WebHost) (mayBeEmpty followed : Bool)
    (standard? : Option Nat) (cs : List Char) : Except UriError Authority := do
  let (user, place) := match cutLast '@' cs with
    | (user, some place) => (userText user, place)
    | (place, none) => ([], place)
  let (name, behind) := cutHost false place
  if name.isEmpty then
    if mayBeEmpty && user.isEmpty && behind.isEmpty && !(followed && cs == ['@']) then
      return ⟨"", none, []⟩
    else throw .emptyHost
  let host := (← readHost name).text
  let (port, rest) ← portText standard? behind
  return ⟨String.ofList user ++ host ++ String.ofList port, some host, rest⟩

/-! ## Reading -/

/-- What follows a slash at the front, behind breaks. -/
def afterSlash? (cs : List Char) : Option (List Char) :=
  match cs.dropWhile isBreak with
  | c :: rest => if (slashes true).contains c then some rest else none
  | [] => none

/-- The address of a file, from what follows the scheme, with its breaks. Empty segments at the
front of its path are left out, and a host in front of a drive is, too. -/
def fileUri (cs : List Char) : Except UriError Uri := do
  let (place, suffix) := cutAt ['?', '#'] cs
  let finish (host : String) (path : List Char) : Uri :=
    let segments := rootedPath true true path
    let hosted := !host.isEmpty && !segments.onDrive
    let trimmed := segments.list.dropWhile (·.isEmpty)
    ⟨"file", some (if hosted then host else ""), if hosted then some host else none,
      pathText (if trimmed.isEmpty then [[]] else trimmed),
      String.ofList (suffixOf true (joined suffix))⟩
  match afterSlash? place with
  | none => return finish "" place
  | some path =>
    match afterSlash? path with
    | none => return finish "" path
    | some rest =>
      let (name, path) := cutAt (slashes true) rest
      let name := joined name
      if isDrive name then return finish "" rest
      else if name.isEmpty then return finish "" (path.drop 1)
      else
        let host := (← WebHost.ofName name).text
        return finish (if host == "localhost" then "" else host) (path.drop 1)

/-- The address of something at a host, from what follows the scheme. -/
def hostUri (scheme : String) (port : Nat) (cs : List Char) : Except UriError Uri := do
  let (place, suffix) := cutAt ['?', '#'] (cs.dropWhile (slashes true).contains)
  let (authority, path) := cutAt (slashes true) place
  let authority ← authorityOf WebHost.ofName false true (some port) authority
  return ⟨scheme, some authority.text, authority.host?,
    pathText (rootedPath true false (path.drop 1)).list, String.ofList (suffixOf true suffix)⟩

/-- An address of any other scheme, from what follows the scheme. -/
def otherUri (scheme : String) (cs : List Char) : Except UriError Uri := do
  let (place, suffix) := cutAt ['?', '#'] cs
  let suffix := String.ofList (suffixOf false suffix)
  match place with
  | '/' :: '/' :: rest =>
    let (authority, path) := cutAt ['/'] rest
    let followed := !(path.isEmpty && suffix.isEmpty)
    let authority ← authorityOf WebHost.ofOpaque true followed none authority
    let path := if authority.rest.isEmpty then path else '/' :: authority.rest ++ path
    let path := if path.isEmpty then "" else pathText (rootedPath false false (path.drop 1)).list
    return ⟨scheme, some authority.text, authority.host?, path, suffix⟩
  | '/' :: rest => return ⟨scheme, none, none, pathText (rootedPath false false rest).list, suffix⟩
  | place => return ⟨scheme, none, none, String.ofList (percentEncode [] place), suffix⟩

/-- Whether a character is left out at the ends of an address. -/
def isPadding (c : Char) : Bool := c ≤ ' '

/-- The address that a text writes. -/
def ofText (s : String) : Except UriError Uri :=
  let cs := ((s.toList.dropWhile isPadding).reverse.dropWhile isPadding).reverse
  match scheme? (joined cs) with
  | none => .error .noScheme
  | some (scheme, rest) =>
    let scheme := String.ofList scheme
    if scheme == "file" then fileUri ((cs.dropWhile (· != ':')).drop 1)
    else
      match hostSchemes.lookup scheme with
      | some port => hostUri scheme port rest
      | none => otherUri scheme rest

end Uri

end PrimitiveDesk

import PrimitiveDesk.Script.Machine

/-!
# Utilities

The programs that every machine has: printing, listing and changing files, counting and filtering
text, tests, and sleeping.
-/

namespace PrimitiveDesk.Script

open Text

/-- The message that a program gives about a file. -/
def fileMessage (program path : String) (e : SystemError) : String :=
  program ++ ": " ++ path ++ ": " ++ e.text

/-- A name in the quotes of a message. -/
def quotedName (s : String) : String :=
  "'" ++ s ++ "'"

/-! ## Printing -/

/-- The value of up to `count` octal digits at the front, and what follows. -/
def octal (count : Nat) (cs : List Char) : Nat × List Char :=
  let digits := (cs.take count).takeWhile fun c => '0' ≤ c && c ≤ '7'
  ((readDigits? 8 0 digits).getD 0, cs.drop digits.length)

/-- The byte of an escape that both ways of printing know. -/
def escapeByte? : Char → Option UInt8
  | 'a' => some 7
  | 'b' => some 8
  | 'f' => some 12
  | 'n' => some 10
  | 'r' => some 13
  | 't' => some 9
  | 'v' => some 11
  | '\\' => some 92
  | _ => none

/-- The bytes of a text with escapes, as `echo` prints it; an escape `\c` ends all printing. -/
def echoBytes : Nat → List Char → Bytes × Bool
  | 0, _ => ([], false)
  | _ + 1, [] => ([], false)
  | _ + 1, '\\' :: 'c' :: _ => ([], true)
  | fuel + 1, '\\' :: '0' :: rest =>
    let (n, rest) := octal 3 rest
    let (bs, stop) := echoBytes fuel rest
    (n.toUInt8 :: bs, stop)
  | fuel + 1, '\\' :: c :: rest =>
    match escapeByte? c with
    | some b =>
      let (bs, stop) := echoBytes fuel rest
      (b :: bs, stop)
    | none =>
      let (bs, stop) := echoBytes fuel (c :: rest)
      (92 :: bs, stop)
  | fuel + 1, c :: rest =>
    let (bs, stop) := echoBytes fuel rest
    (encodeChar c ++ bs, stop)

/-- What `echo` prints. -/
def echo (args : List String) : Bytes :=
  let (quiet, args) := match args with
    | "-n" :: rest => (true, rest)
    | args => (false, args)
  let text := (String.intercalate " " args).toList
  let (bs, stop) := echoBytes (text.length + 1) text
  if quiet || stop then bs else bs ++ [10]

/-- What `echo` prints as a program of its own, where escapes stand for themselves. -/
def plainEcho (args : List String) : Bytes :=
  match args with
  | "-n" :: rest => encode (String.intercalate " " rest)
  | "-e" :: rest => echo rest
  | args => encode (String.intercalate " " args ++ "\n")

/-- The number that an argument writes. -/
def numberOf (s : String) : Int :=
  match (trimString s).toList with
  | '-' :: ds => -((readDigits? 10 0 ds).getD 0 : Int)
  | '+' :: ds => (readDigits? 10 0 ds).getD 0
  | ds => (readDigits? 10 0 ds).getD 0

/-- Fills a text up to a width; a flag puts the text first. -/
def pad (width : Nat) (left : Bool) (fill : Char) (s : String) : String :=
  let space := String.ofList (List.replicate (width - s.length) fill)
  if left then s ++ space else space ++ s

/-- One pass of a format over arguments: the bytes, the arguments left, and whether it took any. -/
def formatOnce : Nat → List Char → List String → Bytes × List String × Bool
  | 0, _, args => ([], args, false)
  | _ + 1, [], args => ([], args, false)
  | fuel + 1, '\\' :: c :: rest, args =>
    if '0' ≤ c && c ≤ '7' then
      let (n, rest) := octal 3 (c :: rest)
      let (bs, args, took) := formatOnce fuel rest args
      (n.toUInt8 :: bs, args, took)
    else
      match if c == '"' || c == '\'' then some c.toNat.toUInt8 else escapeByte? c with
      | some b =>
        let (bs, args, took) := formatOnce fuel rest args
        (b :: bs, args, took)
      | none =>
        let (bs, args, took) := formatOnce fuel (c :: rest) args
        (92 :: bs, args, took)
  | fuel + 1, '%' :: '%' :: rest, args =>
    let (bs, args, took) := formatOnce fuel rest args
    (37 :: bs, args, took)
  | fuel + 1, '%' :: rest, args =>
    let flags := rest.takeWhile fun c => c == '-' || c == '0' || c == '+' || c == ' '
    let rest := rest.drop flags.length
    let digits := rest.takeWhile isAsciiDigit
    let width := (readDigits? 10 0 digits).getD 0
    let rest := rest.drop digits.length
    let arg := args.headD ""
    let left := flags.contains '-'
    let fill := if flags.contains '0' && !left then '0' else ' '
    let inBase (base : Nat) : String :=
      String.ofList (Nat.toDigits base (numberOf arg).toNat)
    let bytes : Bytes := match rest with
      | 's' :: _ => encode (pad width left ' ' arg)
      | 'b' :: _ => (echoBytes (arg.length + 1) arg.toList).1
      | 'c' :: _ => encode (pad width left ' ' (String.ofList (arg.toList.take 1)))
      | 'x' :: _ => encode (pad width left fill (inBase 16))
      | 'o' :: _ => encode (pad width left fill (inBase 8))
      | _ :: _ => encode (pad width left fill (decimalInt (numberOf arg)))
      | [] => encode "%"
    let (bs, args, _) := formatOnce fuel (rest.drop 1) args.tail
    (bytes ++ bs, args, true)
  | fuel + 1, c :: rest, args =>
    let (bs, args, took) := formatOnce fuel rest args
    (encodeChar c ++ bs, args, took)

/-- What `printf` prints: the format is used again as long as arguments are left. -/
def format : Nat → String → List String → Bytes
  | 0, _, _ => []
  | fuel + 1, f, args =>
    let (bs, rest, took) := formatOnce (f.length + 1) f.toList args
    if rest.isEmpty || !took then bs else bs ++ format fuel f rest

/-! ## Matching -/

/-- Whether a text matches a pattern with wildcards. -/
def matchesPattern : List Char → List Char → Bool
  | [], cs => cs.isEmpty
  | '*' :: ps, cs => matchesRest ps cs
  | '?' :: ps, _ :: cs => matchesPattern ps cs
  | p :: ps, c :: cs => p == c && matchesPattern ps cs
  | _ :: _, [] => false
where
  /-- Whether some end of a text matches. -/
  matchesRest (ps : List Char) : List Char → Bool
    | [] => matchesPattern ps []
    | c :: cs => matchesPattern ps (c :: cs) || matchesRest ps cs

/-! ## Tests -/

/-- The value of a test of one operand. -/
def testOne (m : Machine) (op operand : String) : Bool :=
  match op with
  | "-n" => operand != ""
  | "-z" => operand == ""
  | "-e" => (m.tree.find (m.names operand)).toOption.isSome
  | "-f" => m.tree.isFile (m.names operand)
  | "-d" =>
    match m.tree.find (m.names operand) with
    | .ok t => t.isFolder
    | .error _ => false
  | "-x" =>
    match m.tree.find (m.names operand) with
    | .ok (.file _ x) => x
    | .ok _ => true
    | .error _ => false
  | "-r" => (m.tree.find (m.names operand)).toOption.isSome
  | "-w" => (m.tree.find (m.names operand)).toOption.isSome
  | "-s" =>
    match m.tree.read (m.names operand) with
    | .ok content => !content.isEmpty
    | .error _ => false
  | _ => false

/-- The value of a test of two operands; none if there is no such test. -/
def testTwo? (left op right : String) : Option Bool :=
  match op with
  | "=" => some (left == right)
  | "==" => some (left == right)
  | "!=" => some (left != right)
  | "-eq" => some (numberOf left == numberOf right)
  | "-ne" => some (numberOf left != numberOf right)
  | "-lt" => some (numberOf left < numberOf right)
  | "-le" => some (numberOf left ≤ numberOf right)
  | "-gt" => some (numberOf left > numberOf right)
  | "-ge" => some (numberOf left ≥ numberOf right)
  | _ => none

/-- The value of a test. -/
def evalTest (m : Machine) : List String → Bool
  | [] => false
  | [a] => a != ""
  | ["!", a] => a == ""
  | [op, a] => testOne m op a
  | "!" :: a :: b :: c :: rest => !evalTest m (a :: b :: c :: rest)
  | [a, op, b] =>
    match testTwo? a op b with
    | some v => v
    | none =>
      if op == "-a" then a != "" && b != ""
      else if op == "-o" then a != "" || b != ""
      else if a == "!" then !testOne m op b
      else false
  | a :: op :: b :: "-a" :: rest => (testTwo? a op b).getD false && evalTest m rest
  | a :: op :: b :: "-o" :: rest => (testTwo? a op b).getD false || evalTest m rest
  | _ => false

/-! ## Text filters -/

/-- The lines of bytes, each with its line break. -/
def byteLines : Nat → Bytes → List Bytes
  | 0, _ => []
  | _ + 1, [] => []
  | fuel + 1, bs =>
    match Machine.splitLine bs with
    | (line, true, rest) => (line ++ [Machine.newline]) :: byteLines fuel rest
    | (line, false, _) => [line]

/-- The lines of bytes, each with its line break. -/
def linesOf (bs : Bytes) : List Bytes :=
  byteLines (bs.length + 1) bs

/-- The number of words in bytes. -/
def wordCount (bs : Bytes) : Nat :=
  ((decodeLossy bs).toList.splitOnP isBlank).countP fun w => !w.isEmpty

/-- Expands ranges and escapes of a set of characters. -/
def characterSet : Nat → List Char → List Char
  | 0, _ => []
  | _ + 1, [] => []
  | fuel + 1, '\\' :: c :: rest =>
    (match escapeByte? c with | some b => Char.ofNat b.toNat | none => c) :: characterSet fuel rest
  | fuel + 1, a :: '-' :: b :: rest =>
    if a ≤ b then
      (List.range (b.toNat - a.toNat + 1)).map (fun i => Char.ofNat (a.toNat + i)) ++
        characterSet fuel rest
    else characterSet fuel rest
  | fuel + 1, c :: rest => c :: characterSet fuel rest

/-- Replaces characters by those at the same place of another set, whose last one is repeated. -/
def replaceChars (source target : List Char) (cs : List Char) : List Char :=
  cs.map fun c =>
    match source.idxOf? c with
    | some i => target[i]?.getD (target.getLast?.getD c)
    | none => c

/-- What programs do that read all their input before they print. -/
def filterText (program : String) (args : List String) (input : Bytes) : Option (Bytes × Nat) :=
  let set (s : String) : List Char := characterSet (s.length + 1) s.toList
  match program, args with
  | "tr", ["-d", chars] =>
    let drop := set chars
    some (encode (String.ofList ((decodeLossy input).toList.filter fun c => !drop.contains c)), 0)
  | "tr", [source, target] =>
    let replaced := replaceChars (set source) (set target) (decodeLossy input).toList
    some (encode (String.ofList replaced), 0)
  | "wc", ["-l"] => some (encode (decimal (input.count Machine.newline) ++ "\n"), 0)
  | "wc", ["-c"] => some (encode (decimal input.length ++ "\n"), 0)
  | "wc", ["-w"] => some (encode (decimal (wordCount input) ++ "\n"), 0)
  | "sort", [] =>
    some (((linesOf input).mergeSort fun a b => decodeLossy a ≤ decodeLossy b).flatten, 0)
  | "uniq", [] => some ((linesOf input).eraseReps.flatten, 0)
  | "tail", ["-n", n] =>
    let ls := linesOf input
    some ((ls.drop (ls.length - (numberOf n).toNat)).flatten, 0)
  | "grep", ["-q", pattern] =>
    let hits := (linesOf input).filter fun l => occursIn pattern.toList (decodeLossy l).toList
    some ([], if hits.isEmpty then 1 else 0)
  | "grep", ["-c", pattern] =>
    let hits := (linesOf input).filter fun l => occursIn pattern.toList (decodeLossy l).toList
    some (encode (decimal hits.length ++ "\n"), if hits.isEmpty then 1 else 0)
  | "grep", [pattern] =>
    let hits := (linesOf input).filter fun l => occursIn pattern.toList (decodeLossy l).toList
    some (hits.flatten, if hits.isEmpty then 1 else 0)
  | _, _ => none

/-! ## Programs -/

/-- Does something with each of several files; a failure is told and the rest goes on. -/
def forEachFile (act : Machine → String → Except String Machine) (m : Machine)
    (paths : List String) : Flow × Machine :=
  let (m, failed) := paths.foldl (fun (m, failed) p =>
    match act m p with
    | .ok m => (m, failed)
    | .error message => (m.complain message, true)) (m, false)
  m.done (if failed then 1 else 0)

/-- Arguments that are options, and the others. -/
def splitOptions (args : List String) : List String × List String :=
  args.partition fun a => a.startsWith "-" && a != "-"

/-- Copies the input to the output as it comes. -/
def copyInput (m : Machine) : Flow × Machine :=
  let (content, more, m) := m.takeInput
  let m := if content.isEmpty then m else m.print content
  if more then (.awaitInput, m) else m.done 0

/-- Prints files one after another. -/
def catFiles (m : Machine) (paths : List String) : Flow × Machine :=
  forEachFile (fun m p =>
    match m.readFile p with
    | .ok content => .ok (m.print content)
    | .error e => .error (fileMessage "cat" p e)) m paths

/-- The names in a folder, in order. -/
def listing (m : Machine) (path : String) (hidden : Bool) : Except SystemError (List String) :=
  match m.tree.find (m.names path) with
  | .ok (.folder entries) =>
    .ok (((entries.map (·.1)).filter fun n => hidden || !n.startsWith ".").mergeSort (· ≤ ·))
  | .ok (.file _ _) => .ok [path]
  | .error e => .error e

/-- Lists folders. -/
def listFolders (m : Machine) (args : List String) : Flow × Machine :=
  let (options, paths) := splitOptions args
  let hidden := options.any fun o => o.contains 'A' || o.contains 'a'
  let (flow, m) := forEachFile (fun m p =>
    match listing m p hidden with
    | .ok names => .ok (m.printText (String.join (names.map (· ++ "\n"))))
    | .error e => .error ("ls: cannot access " ++ quotedName p ++ ": " ++ e.text)) m
    (if paths.isEmpty then ["."] else paths)
  (flow, if m.status == 0 then m else { m with status := 2 })

/-- Makes sure that files are there. -/
def touchFiles (m : Machine) (paths : List String) : Flow × Machine :=
  forEachFile (fun m p =>
    if (m.tree.find (m.names p)).toOption.isSome then .ok m
    else
      match m.change (.write (m.names p) []) with
      | .ok m => .ok m
      | .error e => .error ("touch: cannot touch " ++ quotedName p ++ ": " ++ e.text)) m paths

/-- Makes folders. -/
def makeFolders (m : Machine) (args : List String) : Flow × Machine :=
  let (options, paths) := splitOptions args
  let all := options.any fun o => o.contains 'p'
  forEachFile (fun m p =>
    match m.change (if all then .makeFolders (m.names p) else .makeFolder (m.names p)) with
    | .ok m => .ok m
    | .error e => .error ("mkdir: cannot create directory " ++ quotedName p ++ ": " ++ e.text))
    m paths

/-- Removes files, and folders if asked. -/
def removeFiles (m : Machine) (args : List String) : Flow × Machine :=
  let (options, paths) := splitOptions args
  let force := options.any fun o => o.contains 'f'
  let deep := options.any fun o => o.contains 'r' || o.contains 'R'
  forEachFile (fun m p =>
    match m.tree.find (m.names p) with
    | .ok (.folder _) =>
      if deep then
        let below := (m.tree.contentsOf (m.names p)).filter fun e => !e.2.isFolder
        .ok (below.foldl (fun m e => (m.change (.remove e.1)).toOption.getD m) m)
      else .error ("rm: cannot remove " ++ quotedName p ++ ": Is a directory")
    | .ok (.file _ _) =>
      match m.change (.remove (m.names p)) with
      | .ok m => .ok m
      | .error e => .error ("rm: cannot remove " ++ quotedName p ++ ": " ++ e.text)
    | .error e =>
      if force then .ok m else .error ("rm: cannot remove " ++ quotedName p ++ ": " ++ e.text))
    m paths

/-- Makes files executable. -/
def makeExecutable (m : Machine) (args : List String) : Flow × Machine :=
  forEachFile (fun m p =>
    match m.change (.makeExecutable (m.names p)) with
    | .ok m => .ok m
    | .error e => .error ("chmod: cannot access " ++ quotedName p ++ ": " ++ e.text)) m args.tail

/-- Copies a file, and removes the old one if asked. -/
def copyFile (m : Machine) (program source target : String) (move : Bool) : Flow × Machine :=
  let goal := match m.tree.find (m.names target) with
    | .ok (.folder _) => m.names target ++ ((m.names source).getLast?.map ([·])).getD []
    | _ => m.names target
  match m.tree.read (m.names source) with
  | .error e => m.fail (program ++ ": cannot stat " ++ quotedName source ++ ": " ++ e.text) 1
  | .ok content =>
    match m.change (.write goal content) with
    | .ok m =>
      if move then
        match m.change (.remove (m.names source)) with
        | .ok m => m.done 0
        | .error _ => m.done 1
      else m.done 0
    | .error e =>
      let place := quotedName target
      m.fail (program ++ ": cannot create regular file " ++ place ++ ": " ++ e.text) 1

/-- Copies the input to the output and to files as it comes. -/
def teeInput (m : Machine) (args : List String) : Flow × Machine :=
  let (options, paths) := splitOptions args
  let (content, more, m) := m.takeInput
  let (_, m) := forEachFile (fun m p =>
    let names := m.names p
    match m.change (if options.isEmpty then .write names content else .append names content) with
    | .ok m => .ok m
    | .error e => .error (fileMessage "tee" p e)) m paths
  let m := m.print content
  if more then (.awaitInput, m) else m.done m.status

/-- Prints the first lines of the input. -/
def firstLines : Nat → Machine → Flow × Machine
  | 0, m => m.done 0
  | count + 1, m =>
    match m.readLine with
    | (.wait, m) => (.awaitInput, m)
    | (.ended, m) => m.done 0
    | (.line l complete, m) =>
      firstLines count (m.print (if complete then l ++ [Machine.newline] else l))

/-- Runs a filter on the input, or on a file that is named last. -/
def runFilter (m : Machine) (program : String) (args : List String) : Flow × Machine :=
  match filterText program args [] with
  | some _ =>
    let (content, more, m') := m.takeInput
    if more then (.awaitInput, m)
    else
      match filterText program args content with
      | some (bs, status) => (m'.print bs).done status
      | none => m.done 2
  | none =>
    match args.getLast? with
    | none => m.fail (program ++ ": missing operand") 1
    | some path =>
      match m.readFile path with
      | .error e => m.fail (fileMessage program path e) 1
      | .ok content =>
        match filterText program args.dropLast content with
        | some (bs, status) =>
          let bs := if program == "wc" then bs.dropLast ++ encode (" " ++ path ++ "\n") else bs
          (m.print bs).done status
        | none => m.done 2

/-- The last step of a path. -/
def lastStep (path : String) : String :=
  ((Path.ofText path).steps.getLast?).getD "/"

/-- Runs a utility; none if there is none of that name. -/
def runUtility (program : String) (args : List String) (m : Machine) : Option (Flow × Machine) :=
  match program with
  | "true" | ":" => some (m.done 0)
  | "false" => some (m.done 1)
  | "echo" => some ((m.print (echo args)).done 0)
  | "/bin/echo" => some ((m.print (plainEcho args)).done 0)
  | "printf" =>
    match args with
    | f :: rest => some ((m.print (format (rest.length + 1) f rest)).done 0)
    | [] => some (m.fail "printf: usage: printf format [arg ...]" 2)
  | "test" => some (m.done (if evalTest m args then 0 else 1))
  | "[" => some (m.done (if evalTest m args.dropLast then 0 else 1))
  | "pwd" => some ((m.printText (m.folder.text ++ "\n")).done 0)
  | "cat" =>
    match args.filter (· != "-") with
    | [] => some (copyInput m)
    | paths => some (catFiles m paths)
  | "tee" => some (teeInput m args)
  | "ls" => some (listFolders m args)
  | "touch" => some (touchFiles m args)
  | "mkdir" => some (makeFolders m args)
  | "rm" => some (removeFiles m args)
  | "chmod" => some (makeExecutable m args)
  | "cp" =>
    match (splitOptions args).2 with
    | [source, target] => some (copyFile m "cp" source target false)
    | _ => some (m.fail "cp: missing file operand" 1)
  | "mv" =>
    match (splitOptions args).2 with
    | [source, target] => some (copyFile m "mv" source target true)
    | _ => some (m.fail "mv: missing file operand" 1)
  | "basename" => some ((m.printText (lastStep (args.headD "") ++ "\n")).done 0)
  | "dirname" =>
    let parent := ((Path.ofText (args.headD "")).parent?.map (·.text)).getD "/"
    some ((m.printText ((if parent == "" then "." else parent) ++ "\n")).done 0)
  | "seq" =>
    let (first, last) := match args with
      | [n] => (1, numberOf n)
      | a :: b :: _ => (numberOf a, numberOf b)
      | [] => (1, 0)
    let values := (List.range (last - first + 1).toNat).map fun (i : Nat) => decimalInt (first + i)
    some ((m.printText (String.join (values.map (· ++ "\n")))).done 0)
  | "head" =>
    match args with
    | ["-n", n] => some (firstLines (numberOf n).toNat m)
    | [n] => some (firstLines (numberOf (String.ofList (n.toList.drop 1))).toNat m)
    | _ => some (firstLines 10 m)
  | "sleep" =>
    if args.all fun a => a.toList.all fun c => c == '0' || c == '.' then some (m.done 0)
    else
      match m.naps with
      | 0 => some (.asleep, m)
      | naps + 1 => some ({ m with naps }.done 0)
  | "tr" | "wc" | "sort" | "uniq" | "tail" | "grep" => some (runFilter m program args)
  | _ => none

/-- The names of all utilities. -/
def utilityNames : List String :=
  ["true", "false", "echo", "printf", "test", "[", "pwd", "cat", "tee", "ls", "touch", "mkdir",
    "rm", "chmod", "cp", "mv", "basename", "dirname", "seq", "head", "sleep", "tr", "wc", "sort",
    "uniq", "tail", "grep"]

/-- The names of the shell. -/
def shellNames : List String := ["sh", "dash", "bash"]

end PrimitiveDesk.Script

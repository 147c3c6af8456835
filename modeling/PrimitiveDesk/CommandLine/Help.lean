import PrimitiveDesk.CommandLine.Arguments

/-!
# Help pages

What the program and its commands say about themselves. A page has what it is about, how the program
is called, and tables of names with their meanings, in sections that are set apart by empty lines.
-/

namespace PrimitiveDesk.CommandLine

/-- Names with their meanings under a title. -/
structure HelpSection where
  title : String
  rows : List (String × String)
deriving DecidableEq, Repr, Inhabited

namespace HelpSection

/-- The width of the column of names. -/
def width (s : HelpSection) : Nat :=
  s.rows.foldl (fun w r => max w r.1.length) 0

/-- The text of a row: its name, filled up to a width, and its meaning. -/
def rowText (width : Nat) (row : String × String) : String :=
  "\n  " ++ row.1 ++ String.ofList (List.replicate (width - row.1.length + 2) ' ') ++ row.2

/-- The text of a section, with the empty line in front of it; none for a section without rows. -/
def text (s : HelpSection) : String :=
  if s.rows.isEmpty then ""
  else "\n\n" ++ s.title ++ ":" ++ String.join (s.rows.map (rowText s.width))

end HelpSection

/-- What is said about the program or one of its commands. -/
structure HelpPage where
  purpose : String
  /-- What stands behind the name of the program. -/
  usage : String
  sections : List HelpSection
deriving DecidableEq, Repr, Inhabited

/-- The text of a page. -/
def HelpPage.text (p : HelpPage) : String :=
  p.purpose ++ "\n\nUsage: tslgen " ++ p.usage ++ String.join (p.sections.map HelpSection.text) ++
    "\n"

namespace Command

/-- What a command is for. -/
def purpose : Command → String
  | lsp => "Start language server (stdio)"
  | check => "Check data files and report problems"
  | outline => "Show the outline of a data file"
  | schema => "Print a generator schema after transformation, as JSON"
  | help => "Print this message or the help of the given subcommand(s)"

/-- What a command takes: the name of the parameter with its meaning. -/
def parameter? : Command → Option (String × String)
  | lsp => none
  | check => some ("<FILES>...", "Data files to check")
  | outline => some ("<FILE>", "Data file")
  | schema => some ("<SCHEMA>", "Generator schema file")
  | help => some ("[COMMAND]...", "Print help for the subcommand(s)")

/-- The options of a command. -/
def options : Command → List (String × String)
  | help => []
  | _ => [("-h, --help", "Print help")]

/-- The page of a command. -/
def page (c : Command) : HelpPage :=
  { purpose := c.purpose
    usage := c.name ++ (c.parameter?.map fun p => " " ++ p.1).getD ""
    sections := [⟨"Arguments", c.parameter?.toList⟩, ⟨"Options", c.options⟩] }

end Command

/-- The page of the program. -/
def programPage : HelpPage :=
  { purpose := "Tooling for tslgen primitive and extension data files"
    usage := "<COMMAND>"
    sections :=
      [⟨"Commands", Command.all.map fun c => (c.name, c.purpose)⟩,
       ⟨"Options", [("-h, --help", "Print help"), ("-V, --version", "Print version")]⟩] }

/-- The page about a command, or about the program. -/
def helpPage : Option Command → HelpPage
  | some c => c.page
  | none => programPage

end PrimitiveDesk.CommandLine

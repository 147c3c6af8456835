/-!
# System errors

The errors of files and programs, with the system's wording.
-/

namespace PrimitiveDesk

/-- Why the system refuses something. -/
inductive SystemError where
  | notFound
  | argumentsTooLong
  | badFormat
  | permissionDenied
  | alreadyThere
  | notFolder
  | isFolder
  | brokenPipe
  | nameTooLong
  | folderNotEmpty
  /-- A name holds a character that no name can hold. -/
  | badName
  /-- The name or an argument of a program holds a character that none can hold. -/
  | badArgument
  /-- A file that was read as text holds something else. -/
  | notText
deriving DecidableEq, Repr, Inhabited

namespace SystemError

/-- The wording of an error without its number. -/
def text : SystemError → String
  | notFound => "No such file or directory"
  | argumentsTooLong => "Argument list too long"
  | badFormat => "Exec format error"
  | permissionDenied => "Permission denied"
  | alreadyThere => "File exists"
  | notFolder => "Not a directory"
  | isFolder => "Is a directory"
  | brokenPipe => "Broken pipe"
  | nameTooLong => "File name too long"
  | folderNotEmpty => "Directory not empty"
  | badName => "file name contained an unexpected NUL byte"
  | badArgument => "nul byte found in provided data"
  | notText => "stream did not contain valid UTF-8"

/-- The number of an error. -/
def number? : SystemError → Option String
  | notFound => some "2"
  | argumentsTooLong => some "7"
  | badFormat => some "8"
  | permissionDenied => some "13"
  | alreadyThere => some "17"
  | notFolder => some "20"
  | isFolder => some "21"
  | brokenPipe => some "32"
  | nameTooLong => some "36"
  | folderNotEmpty => some "39"
  | badName => none
  | badArgument => none
  | notText => none

/-- The wording of an error. -/
def message (e : SystemError) : String :=
  match e.number? with
  | some n => e.text ++ " (os error " ++ n ++ ")"
  | none => e.text

end SystemError

end PrimitiveDesk

/-!
# Scripts

The parts of a shell script: words, which are expanded to arguments, and statements, which run
programs, redirect what they read and write, and choose and repeat.
-/

namespace PrimitiveDesk.Script

/-- How a redirection opens its target. -/
inductive RedirectMode where
  | read
  | write
  | append
  /-- Takes over another descriptor, or closes it. -/
  | duplicate
deriving DecidableEq, Repr, Inhabited

mutual

/-- A piece of a word. What is quoted is neither split nor matched against file names. -/
inductive Piece where
  | text (s : String) (quoted : Bool)
  /-- The value of a parameter; the fallback stands for one that is unset or empty. -/
  | parameter (name : String) (fallback? : Option (List Piece)) (quoted : Bool)
  /-- The value of a parameter, which is set first if it is unset or empty. -/
  | assigned (name : String) (value : List Piece) (quoted : Bool)
  /-- The number of characters of a parameter. -/
  | size (name : String)
  /-- What a script prints. -/
  | output (body : List Statement) (quoted : Bool)
  /-- The value of a sum. -/
  | number (sum : List Piece)

/-- A redirection of a descriptor. -/
inductive Redirect where
  | mk (descriptor : Nat) (mode : RedirectMode) (target : List Piece)

/-- A statement of a script. -/
inductive Statement where
  /-- Assignments and a command with its arguments, at a line of the script. -/
  | simple (line : Nat) (assignments : List (String × List Piece)) (words : List (List Piece))
      (redirects : List Redirect)
  /-- Statements that each read what the one before prints. -/
  | pipe (negated : Bool) (parts : List Statement)
  | both (first second : Statement)
  | either (first second : Statement)
  | background (body : Statement)
  | group (body : List Statement) (redirects : List Redirect)
  | subshell (body : List Statement) (redirects : List Redirect)
  | choose (test yes no : List Statement) (redirects : List Redirect)
  /-- Repeats its body as long as the test succeeds, or as long as it fails. -/
  | loop (whileSuccess : Bool) (test body : List Statement) (redirects : List Redirect)
  | each (name : String) (words : List (List Piece)) (body : List Statement)
      (redirects : List Redirect)
  /-- Runs the body of the first pattern that a word matches. -/
  | match_ (word : List Piece) (arms : List (List (List Piece) × List Statement))
  /-- Gives statements a name. -/
  | define (name : String) (body : List Statement)

end

/-- A word: pieces without blanks between them. -/
abbrev Word := List Piece

end PrimitiveDesk.Script

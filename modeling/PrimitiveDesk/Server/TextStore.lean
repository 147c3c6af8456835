import PrimitiveDesk.Server.Uri

/-!
# Open documents

The texts of the documents that are open at the client, by their addresses.
-/

namespace PrimitiveDesk

/-- The text of an open document. -/
structure OpenText where
  content : String
  version : Int
deriving DecidableEq, Repr, Inhabited

/-- The texts of all open documents, in the order in which they were opened. -/
structure TextStore where
  entries : List (Uri × OpenText)
deriving DecidableEq, Repr, Inhabited

namespace TextStore

/-- Nothing is open. -/
def empty : TextStore := ⟨[]⟩

/-- The text of a document. -/
def get? (s : TextStore) (uri : Uri) : Option OpenText :=
  (s.entries.find? fun e => e.1 = uri).map (·.2)

/-- Puts a text into entries, in place of the one that the document has. -/
def put (uri : Uri) (t : OpenText) : List (Uri × OpenText) → List (Uri × OpenText)
  | [] => [(uri, t)]
  | e :: rest => if e.1 = uri then (uri, t) :: rest else e :: put uri t rest

/-- Sets the text of a document. -/
def insert (s : TextStore) (uri : Uri) (t : OpenText) : TextStore :=
  ⟨put uri t s.entries⟩

/-- Removes a document. -/
def erase (s : TextStore) (uri : Uri) : TextStore :=
  ⟨s.entries.filter fun e => ¬ e.1 = uri⟩

end TextStore

end PrimitiveDesk

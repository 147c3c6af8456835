import PrimitiveDesk.Assoc
import PrimitiveDesk.Files.Error
import PrimitiveDesk.Files.Path
import PrimitiveDesk.Text.Utf8

/-!
# File trees

The files that a session works on, as a value: folders of named files and folders. Paths lead from
the root of a tree, and going up from the root stays there.
-/

namespace PrimitiveDesk

/-- A file or a folder. -/
inductive FileTree where
  | file (content : Bytes) (executable : Bool)
  | folder (entries : List (String × FileTree))
deriving Inhabited, Repr

namespace FileTree

/-- A tree without files. -/
def empty : FileTree := folder []

/-- Whether this is a folder. -/
def isFolder : FileTree → Bool
  | folder _ => true
  | file _ _ => false

/-- The names to go by from the root of a tree; `reversed` holds those gone already, latest
first. -/
def climb (reversed : List String) : List String → List String
  | [] => reversed.reverse
  | ".." :: rest => climb reversed.tail rest
  | "." :: rest => climb reversed rest
  | s :: rest => climb (s :: reversed) rest

/-- The names to go by from the root of a tree to a path, which starts at `base` unless it is
rooted. -/
def namesOf (base : Path) (p : Path) : List String :=
  climb [] (base.join p).steps

/-- How many bytes the name of a file may have. -/
def nameLimit : Nat := 255

/-- How many bytes a path may have. -/
def pathLimit : Nat := 4095

/-- The file or folder of a name in a folder. -/
def entry (entries : List (String × FileTree)) (name : String) : Except SystemError FileTree :=
  match Assoc.find? entries name with
  | some t => .ok t
  | none => .error (if nameLimit < name.utf8ByteSize then .nameTooLong else .notFound)

/-- The file or folder that names lead to. -/
def find (tree : FileTree) : List String → Except SystemError FileTree
  | [] => .ok tree
  | name :: rest =>
    match tree with
    | file _ _ => .error .notFolder
    | folder entries =>
      match entry entries name with
      | .ok t => t.find rest
      | .error e => .error e

/-- Changes what names lead to: `change` gives the new file or folder, or nothing to remove it. All
folders on the way must be there. -/
def update (change : Option FileTree → Except SystemError (Option FileTree)) (tree : FileTree) :
    List String → Except SystemError FileTree
  | [] => (change (some tree)).map fun t => t.getD empty
  | [name] =>
    match tree with
    | file _ _ => .error .notFolder
    | folder entries =>
      match change (Assoc.find? entries name) with
      | .ok (some t) => .ok (folder (Assoc.set entries name t))
      | .ok none => .ok (folder (Assoc.erase entries name))
      | .error e => .error e
  | name :: rest =>
    match tree with
    | file _ _ => .error .notFolder
    | folder entries =>
      match entry entries name with
      | .error e => .error e
      | .ok t =>
        match t.update change rest with
        | .ok t => .ok (folder (Assoc.set entries name t))
        | .error e => .error e

/-- Whether names lead to a file. -/
def isFile (tree : FileTree) (names : List String) : Bool :=
  match tree.find names with
  | .ok (file _ _) => true
  | _ => false

/-- The content of a file. -/
def read (tree : FileTree) (names : List String) : Except SystemError Bytes :=
  if names.any (·.contains '\x00') then .error .badName else
  match tree.find names with
  | .ok (file content _) => .ok content
  | .ok (folder _) => .error .isFolder
  | .error e => .error e

/-- The content of a file as text. -/
def readText (tree : FileTree) (names : List String) : Except SystemError String :=
  match tree.read names with
  | .ok content =>
    match Text.decode? content with
    | some s => .ok s
    | none => .error .notText
  | .error e => .error e

/-- Replaces the content of a file, which is made if it is not there. -/
def write (tree : FileTree) (names : List String) (content : Bytes) : Except SystemError FileTree :=
  tree.update (fun
    | some (folder _) => .error .isFolder
    | some (file _ x) => .ok (some (file content x))
    | none => .ok (some (file content false))) names

/-- Adds to the end of a file, which is made if it is not there. -/
def append (tree : FileTree) (names : List String) (content : Bytes) :
    Except SystemError FileTree :=
  tree.update (fun
    | some (folder _) => .error .isFolder
    | some (file old x) => .ok (some (file (old ++ content) x))
    | none => .ok (some (file content false))) names

/-- Makes a file executable. -/
def makeExecutable (tree : FileTree) (names : List String) : Except SystemError FileTree :=
  tree.update (fun
    | some (file content _) => .ok (some (file content true))
    | some (folder entries) => .ok (some (folder entries))
    | none => .error .notFound) names

/-- Makes a folder in a folder that is there. -/
def makeFolder (tree : FileTree) (names : List String) : Except SystemError FileTree :=
  tree.update (fun
    | some _ => .error .alreadyThere
    | none => .ok (some empty)) names

/-- Removes a file. -/
def remove (tree : FileTree) (names : List String) : Except SystemError FileTree :=
  tree.update (fun
    | some (file _ _) => .ok none
    | some (folder _) => .error .isFolder
    | none => .error .notFound) names

/-- Makes a folder with all folders above it; those that are there stay. -/
def makeFolders (tree : FileTree) : List String → Except SystemError FileTree
  | [] => if tree.isFolder then .ok tree else .error .alreadyThere
  | name :: rest =>
    match tree with
    | file _ _ => .error .notFolder
    | folder entries =>
      match Assoc.find? entries name with
      | some (file _ _) => .error (if rest.isEmpty then .alreadyThere else .notFolder)
      | t? =>
        match (t?.getD empty).makeFolders rest with
        | .ok t => .ok (folder (Assoc.set entries name t))
        | .error e => .error e

/-- Puts a file at its place, with the folders above it. A text that starts with `#!` is
executable. -/
def place (tree : FileTree) (names : List String) (content : String) :
    Except SystemError FileTree :=
  match tree.makeFolders names.dropLast with
  | .error e => .error e
  | .ok tree =>
    tree.update (fun
      | some (folder _) => .error .isFolder
      | _ => .ok (some (file (Text.encode content) ("#!".isPrefixOf content)))) names

mutual

/-- The files at and below a tree with the names that lead to them, in order of the names of each
folder. A folder comes before what it holds. -/
def walk (names : List String) : FileTree → List (List String × FileTree)
  | file content x => [(names, file content x)]
  | folder entries =>
    (names, folder entries) ::
      ((walkEntries names entries).mergeSort fun a b => a.1 ≤ b.1).flatMap (·.2)

/-- What stands at and below each entry of a folder. -/
def walkEntries (names : List String) :
    List (String × FileTree) → List (String × List (List String × FileTree))
  | [] => []
  | (n, t) :: rest => (n, walk (names ++ [n]) t) :: walkEntries names rest

end

/-- The files and folders below a folder, in order. -/
def contentsOf (tree : FileTree) (names : List String) : List (List String × FileTree) :=
  match tree.find names with
  | .ok t => (walk names t).drop 1
  | .error _ => []

/-- The names that lead to a path, which starts at the root of the tree. -/
def namesAt (p : Path) : List String :=
  namesOf (.ofText "/") p

/-- Goes along the segments of a path, with the names gone so far, latest first. What a segment
follows must be a folder, also where the segment stays there or goes up. -/
def follow (tree : FileTree) (reversed : List String) :
    List String → Except SystemError (List String)
  | [] => .ok reversed.reverse
  | s :: rest =>
    match tree.find reversed.reverse with
    | .error e => .error e
    | .ok (file _ _) => .error .notFolder
    | .ok (folder _) =>
      if s == "" || s == "." then tree.follow reversed rest
      else if s == ".." then tree.follow reversed.tail rest
      else tree.follow (s :: reversed) rest

/-- The names that lead to a path when it is followed through the tree from `base`. -/
def resolve (tree : FileTree) (base p : Path) : Except SystemError (List String) :=
  if pathLimit < p.text.utf8ByteSize then .error .nameTooLong
  else tree.follow [] (base.join p).segments

/-- The text of the file that a path leads to from `base`. -/
def textFrom (tree : FileTree) (base p : Path) : Except SystemError String :=
  match tree.resolve base p with
  | .ok names => tree.readText names
  | .error e => .error e

/-- Whether there is a file at a path. -/
def hasFile (tree : FileTree) (p : Path) : Bool :=
  match tree.resolve (.ofText "/") p with
  | .ok names => tree.isFile names
  | .error _ => false

/-- The text of the file at a path. -/
def textAt (tree : FileTree) (p : Path) : Except SystemError String :=
  tree.textFrom (.ofText "/") p

end FileTree

end PrimitiveDesk

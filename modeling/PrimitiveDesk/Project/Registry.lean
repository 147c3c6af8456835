import PrimitiveDesk.Project.Basic

/-!
# The registry of projects

All projects of a session by their roots. A root gets a cell when its project is first asked for;
the cell is filled when the project is loaded, and once. A load that fails leaves the cell empty, so
that the next one who asks tries again. A schema is replaced only by one that could be read.

Each operation consists of steps that do not touch the files (`reserve`, `settle`, `storeSchema`)
and of reads of the files between them.
-/

namespace PrimitiveDesk

/-- The projects of a session. -/
structure Registry where
  /-- One cell for each root, in order of their first use. -/
  cells : List (Path × Option Project)
deriving Inhabited

namespace Registry

/-- A registry without projects. -/
def empty : Registry := ⟨[]⟩

/-- The cell of a root. -/
def cell? (r : Registry) (root : Path) : Option (Option Project) :=
  (r.cells.find? fun c => c.1.same root).map (·.2)

/-- A project that is loaded. -/
def get? (r : Registry) (root : Path) : Option Project :=
  (r.cell? root).join

/-- All projects that are loaded. -/
def projects (r : Registry) : List Project :=
  r.cells.filterMap (·.2)

/-- Gives a root a cell, unless it has one. -/
def reserve (r : Registry) (root : Path) : Registry :=
  if (r.cell? root).isSome then r else ⟨r.cells ++ [(root, none)]⟩

/-- Changes the project in the cell of a root. -/
def modify (r : Registry) (root : Path) (f : Option Project → Option Project) : Registry :=
  ⟨r.cells.map fun c => if c.1.same root then (c.1, f c.2) else c⟩

/-- Fills the cell of a root, unless it is filled. -/
def settle (r : Registry) (root : Path) (p : Project) : Registry :=
  r.modify root fun
    | some old => some old
    | none => some p

/-- Replaces the schema of a project that is loaded. -/
def storeSchema (r : Registry) (root : Path) (s : ProjectSchema) : Registry :=
  r.modify root (·.map fun p => { p with schema := s })

/-- The project at given places, which is loaded on first use. -/
def getOrLoad (r : Registry) (read : Path → Except SystemError String) (places : ProjectPlaces) :
    Except ProjectError Project × Registry :=
  let r := r.reserve places.root
  match r.get? places.root with
  | some p => (.ok p, r)
  | none =>
    match places.readSchema read with
    | .ok s => (.ok ⟨places, s⟩, r.settle places.root ⟨places, s⟩)
    | .error e => (.error e, r)

/-- The project of a data file, if it has one that loads. -/
def projectFor? (r : Registry) (isFile : Path → Bool) (read : Path → Except SystemError String)
    (file : Path) : Option Project × Registry :=
  match ProjectPlaces.discover? isFile file with
  | none => (none, r)
  | some places =>
    match r.getOrLoad read places with
    | (.ok p, r) => (some p, r)
    | (.error _, r) => (none, r)

/-- Reads the schema of a loaded project again; if that fails, the schema stays. -/
def reload (r : Registry) (read : Path → Except SystemError String) (root : Path) :
    Except ProjectError Registry :=
  match r.get? root with
  | none => .error (.notLoaded root)
  | some p =>
    match p.places.readSchema read with
    | .ok s => .ok (r.storeSchema root s)
    | .error e => .error e

end Registry

end PrimitiveDesk

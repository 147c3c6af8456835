import PrimitiveDesk.Project.Basic
import PrimitiveDesk.Proofs.Files.SamePlace

/-!
# Different ways to write a root

The roots of two data files can be paths that are written differently and have the same steps. If
`ProjectPlaces.discover?` finds a project at both, it has the same profile at both, and
`ProjectPlaces.readSchema` reads the same source (`toOption_readSchema_of_same`). Only the last
segment of a schema source depends on the profile (`Profile.exists_schemaFile_eq`).
-/

namespace PrimitiveDesk

namespace Profile

/-- The name of the schema source in its folder. -/
def schemaName (p : Profile) : String := p.name ++ "_generator_schema.yaml"

/-- The schema sources of a root differ in their last segment only, and the steps in front of it are
those of the root and of the folder below it. -/
theorem exists_schemaFile_eq (root : Path) :
    ∃ front : List String,
      front.filter Path.isStep =
        root.segments.filter Path.isStep ++ ["generator", "config", "generator"] ∧
      ∀ p : Profile, p.schemaFile root = ⟨root.rooted, front ++ [p.schemaName]⟩ := by
  obtain ⟨rootFront, hroot, hconfig⟩ := root.exists_join_eq
  obtain ⟨front, hfront, hschema⟩ := (configFolder root).exists_join_eq
  -- all segments of the folder and of the names are steps
  have hfolder : Path.ofText "generator/config/generator" =
      ⟨false, ["generator", "config", "generator"]⟩ := by decide
  have hname (p : Profile) : Path.ofText p.schemaName = ⟨false, [p.schemaName]⟩ := by
    cases p <;> decide
  have hconfig' : configFolder root =
      ⟨root.rooted, rootFront ++ ["generator", "config", "generator"]⟩ := by
    rw [configFolder, Path.joinText, hfolder, hconfig _ rfl]
  refine ⟨front, ?_, fun p => ?_⟩
  · have hsteps : ["generator", "config", "generator"].filter Path.isStep =
        ["generator", "config", "generator"] := by decide
    rw [hfront, hconfig', List.filter_append, hroot, hsteps]
  · show (configFolder root).join (.ofText p.schemaName) = _
    rw [hname, hschema _ rfl, hconfig']

/-- The schema sources of a root have paths of the same length. -/
private theorem utf8ByteSize_schemaFile (p q : Profile) (root : Path) :
    (p.schemaFile root).text.utf8ByteSize = (q.schemaFile root).text.utf8ByteSize := by
  have hname : p.schemaName.utf8ByteSize = q.schemaName.utf8ByteSize := by
    cases p <;> cases q <;> decide
  obtain ⟨front, -, hschema⟩ := exists_schemaFile_eq root
  rw [hschema, hschema, Path.text, Path.text]
  -- the names stand behind the same text, if there is any
  by_cases hfront : front = []
  · rw [hfront, List.nil_append, List.nil_append, String.intercalate_singleton,
      String.intercalate_singleton, String.utf8ByteSize_append, String.utf8ByteSize_append, hname]
  · rw [String.intercalate_append_of_ne_nil hfront (by simp),
      String.intercalate_append_of_ne_nil hfront (by simp), String.intercalate_singleton,
      String.intercalate_singleton]
    simp only [String.utf8ByteSize_append, hname]

end Profile

namespace ProjectPlaces

variable {tree : FileTree} {root root' file file' : Path} {places places' : ProjectPlaces}

/-- A project is found at the root that the place of the file tells, and there is its schema
source. -/
theorem of_discover? {isFile : Path → Bool} (h : discover? isFile file = some places) :
    rootOf? file = some places.root ∧
      Profile.all.find? (fun p => isFile (p.schemaFile places.root)) = some places.profile := by
  unfold discover? at h
  cases hroot : rootOf? file with
  | none => simp [hroot] at h
  | some root =>
    simp only [hroot] at h
    obtain ⟨p, hp, rfl⟩ := Option.map_eq_some_iff.mp h
    exact ⟨rfl, hp⟩

/-- Where a file is, the path that leads there is not too long. -/
private theorem size_le_of_hasFile (h : tree.hasFile file = true) :
    file.text.utf8ByteSize ≤ FileTree.pathLimit := by
  unfold FileTree.hasFile FileTree.resolve at h
  split at h
  · next hresolve =>
    split at hresolve
    · cases hresolve
    · omega
  · cases h

/-- Where a project is found, no schema source has a path that is too long. -/
private theorem size_schemaFile_of_discover? (h : discover? tree.hasFile file = some places)
    (p : Profile) : (p.schemaFile places.root).text.utf8ByteSize ≤ FileTree.pathLimit := by
  have hfile : tree.hasFile (places.profile.schemaFile places.root) = true := by
    simpa using List.find?_some (of_discover? h).2
  rw [p.utf8ByteSize_schemaFile places.profile]
  exact size_le_of_hasFile hfile

/-- Two spellings of a root have their schema sources at the same places, unless the path of one is
too long. -/
private theorem resolve_schemaFile_of_same (tree : FileTree) (h : root.same root' = true)
    (p : Profile) (hsize : (p.schemaFile root).text.utf8ByteSize ≤ FileTree.pathLimit)
    (hsize' : (p.schemaFile root').text.utf8ByteSize ≤ FileTree.pathLimit) :
    tree.resolve (.ofText "/") (p.schemaFile root) =
      tree.resolve (.ofText "/") (p.schemaFile root') := by
  obtain ⟨front, hfront, hschema⟩ := Profile.exists_schemaFile_eq root
  obtain ⟨front', hfront', hschema'⟩ := Profile.exists_schemaFile_eq root'
  unfold FileTree.resolve
  rw [if_neg (by omega), if_neg (by omega), FileTree.segments_join_root,
    FileTree.segments_join_root, hschema, hschema', tree.follow_append_singleton [] front,
    tree.follow_append_singleton [] front', hfront, hfront', Path.filter_isStep_of_same h]

/-- If a project is found at two spellings of a root, it has the same profile and the same schema
source at both. -/
private theorem resolve_of_discover? (h : discover? tree.hasFile file = some places)
    (h' : discover? tree.hasFile file' = some places')
    (hsame : places.root.same places'.root = true) :
    places.profile = places'.profile ∧
      tree.resolve (.ofText "/") places.schemaFile =
        tree.resolve (.ofText "/") places'.schemaFile := by
  obtain ⟨-, hfind⟩ := of_discover? h
  obtain ⟨-, hfind'⟩ := of_discover? h'
  -- a project is found by the sources that are there, and these are at the same places
  have hresolve (p : Profile) := resolve_schemaFile_of_same tree hsame p
    (size_schemaFile_of_discover? h p) (size_schemaFile_of_discover? h' p)
  have hfile (p : Profile) :
      tree.hasFile (p.schemaFile places.root) = tree.hasFile (p.schemaFile places'.root) := by
    rw [FileTree.hasFile, FileTree.hasFile, hresolve]
  have hprofile : places.profile = places'.profile := by
    simp only [hfile] at hfind
    exact Option.some_inj.mp (hfind.symm.trans hfind')
  refine ⟨hprofile, ?_⟩
  rw [schemaFile, schemaFile, ← hprofile]
  exact hresolve _

/-- The schema that a source text gives, if it is valid. -/
theorem toOption_ofSource (places : ProjectPlaces) (source : String) :
    (ProjectSchema.ofSource places source).toOption =
      (Schemata.ofSource source).toOption.map (ProjectSchema.ofSchemata places.profile) := by
  delta ProjectSchema.ofSource
  cases Schemata.ofSource source <;> rfl

/-- If a project is found at two spellings of a root, the same schema is read at both. Only the
errors tell which path was taken. -/
theorem toOption_readSchema_of_same (h : discover? tree.hasFile file = some places)
    (h' : discover? tree.hasFile file' = some places')
    (hsame : places.root.same places'.root = true) :
    (places.readSchema tree.textAt).toOption = (places'.readSchema tree.textAt).toOption := by
  obtain ⟨hprofile, hresolve⟩ := resolve_of_discover? h h' hsame
  have htext : tree.textAt places.schemaFile = tree.textAt places'.schemaFile := by
    rw [FileTree.textAt, FileTree.textAt, FileTree.textFrom, FileTree.textFrom, hresolve]
  unfold readSchema
  rw [htext]
  cases tree.textAt places'.schemaFile with
  | error e => rfl
  | ok source =>
    show (ProjectSchema.ofSource places source).toOption =
      (ProjectSchema.ofSource places' source).toOption
    rw [toOption_ofSource, toOption_ofSource, hprofile]

end ProjectPlaces

end PrimitiveDesk

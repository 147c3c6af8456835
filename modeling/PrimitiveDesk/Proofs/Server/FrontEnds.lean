import PrimitiveDesk.CommandLine.Run
import PrimitiveDesk.Server.Workspace

/-!
# Both front ends find the same

The command line and the server check a file by the same schema but choose its kind differently: the
command line falls back on the content where the place tells no kind (`DataFileKind.ofFile`), the
server does not (`DataFileKind.ofLocation`). The difference never shows. A file that has a project
lies below a folder for its kind, so that its place tells the kind; and without a project nobody
asks for the kind (`check_ofFile_eq_ofLocation`). So what the server publishes is what the command
line finds (`Workspace.publish_eq_checkFile`).
-/

namespace PrimitiveDesk

/-! ## The two walks up from a file -/

/-- A folder for data files by `isKindFolder` is one whose name tells a kind. -/
private theorem ProjectPlaces.isKindFolder_eq (folder : Path) :
    isKindFolder folder = (folder.name?.bind DataFileKind.ofFolderName?).isSome := by
  unfold isKindFolder DataFileKind.ofFolderName?
  cases folder.name? with
  | none => rfl
  | some n =>
    simp only [Option.bind_some]
    split
    · next hp => simp [hp]
    · next hp =>
      split
      · next he => simp [he]
      · next he => simp [hp, he]

namespace DataFileKind

/-- No folder name stands for the unknown kind. -/
private theorem ofFolderName?_ne_unknown (folder : String) :
    ofFolderName? folder ≠ some unknown := by
  unfold ofFolderName?
  split
  · simp
  · split <;> simp

/-- The place of a file that belongs to a root by `rootOf?` tells its kind. -/
private theorem ofLocation_ne_unknown {file root : Path}
    (h : ProjectPlaces.rootOf? file = some root) :
    ofLocation file ≠ unknown := by
  -- the walk to the root passed a folder for data files
  have hfound : (file.folders.find? ProjectPlaces.isKindFolder).isSome := by
    unfold ProjectPlaces.rootOf? at h
    split at h
    · cases h
    · next folder hfolder => rw [hfolder]; rfl
  obtain ⟨folder, hmem, hkind⟩ := List.find?_isSome.mp hfound
  -- so the walk to the kind ends at one as well
  have hsome : (file.folders.findSome? fun f => f.name?.bind ofFolderName?).isSome := by
    rw [ProjectPlaces.isKindFolder_eq] at hkind
    rw [List.isSome_findSome?]
    exact List.any_eq_true.mpr ⟨folder, hmem, hkind⟩
  obtain ⟨kind, hk⟩ := Option.isSome_iff_exists.mp hsome
  obtain ⟨f, -, hf⟩ := List.exists_of_findSome?_eq_some hk
  obtain ⟨name, -, hname⟩ := Option.bind_eq_some_iff.mp hf
  have hlocation : ofLocation file = kind := by rw [ofLocation, hk]; rfl
  rw [hlocation]
  intro hunknown
  exact ofFolderName?_ne_unknown name (hunknown ▸ hname)

/-- Where the place tells a kind, the content does not count. -/
private theorem ofFile_of_ofLocation_ne_unknown {file : Path} (h : ofLocation file ≠ unknown)
    (s : Yaml.Stream) : ofFile file s = ofLocation file := by
  unfold ofFile
  cases hkind : ofLocation file with
  | unknown => exact absurd hkind h
  | primitive => rfl
  | extension => rfl

end DataFileKind

/-! ## Projects -/

/-- A file with a project belongs to a root. -/
private theorem Registry.exists_rootOf?_of_projectFor? {r : Registry} {isFile : Path → Bool}
    {read : Path → Except SystemError String} {file : Path} {p : Project}
    (h : (r.projectFor? isFile read file).1 = some p) :
    ∃ root, ProjectPlaces.rootOf? file = some root := by
  unfold Registry.projectFor? ProjectPlaces.discover? at h
  cases hroot : ProjectPlaces.rootOf? file with
  | none => simp [hroot] at h
  | some root => exact ⟨root, rfl⟩

/-- The fallback on the content changes no finding, whatever the registry and the files are. -/
theorem check_ofFile_eq_ofLocation (r : Registry) (isFile : Path → Bool)
    (read : Path → Except SystemError String) (file : Path) (s : Yaml.Stream) :
    check s (.ofFile file s) ((r.projectFor? isFile read file).1.map (·.schema.schemata)) =
      check s (.ofLocation file) ((r.projectFor? isFile read file).1.map (·.schema.schemata)) := by
  cases hproject : (r.projectFor? isFile read file).1 with
  | none => rfl
  | some p =>
    obtain ⟨root, hroot⟩ := Registry.exists_rootOf?_of_projectFor? hproject
    rw [DataFileKind.ofFile_of_ofLocation_ne_unknown (DataFileKind.ofLocation_ne_unknown hroot)]

/-! ## The front ends -/

/-- For an address that leads to a file, the server computes the findings that the command line
computes for that file and the same content, publishes them and nothing else, and leaves the
registry as the command line does. -/
theorem Workspace.publish_eq_checkFile (w : Workspace) (files : FileTree) {uri : Uri} {path : Path}
    (huri : uri.file? = some path) (content : String) (version : Int) :
    (w.findings files uri content).1 =
        (CommandLine.checkFile w.registry files path content).1 ∧
      w.publish files uri ⟨content, version⟩ =
        (.diagnostics uri
            ((CommandLine.checkFile w.registry files path content).1.map
              (Finding.diagnostic (LineIndex.ofText content)))
            (some version),
          { w with registry := (CommandLine.checkFile w.registry files path content).2 }) := by
  have hfindings : w.findings files uri content =
      ((CommandLine.checkFile w.registry files path content).1,
        { w with registry := (CommandLine.checkFile w.registry files path content).2 }) := by
    have hkind := check_ofFile_eq_ofLocation w.registry files.hasFile files.textAt path
      (Yaml.Stream.ofText content)
    simp only [Workspace.findings, Workspace.project?, CommandLine.checkFile, huri, hkind,
      Option.map_some, Option.getD_some]
  refine ⟨by rw [hfindings], ?_⟩
  simp only [Workspace.publish, hfindings]

/-- The address of a file outside of all data folders. -/
def notesUri : Uri := ⟨"file", some "", none, "/docs/notes.yaml", ""⟩

/-- The file of `notesUri`. -/
def notesPath : Path := ⟨true, ["docs", "notes.yaml"]⟩

/-- The front ends agree on a file whose kind they see differently: its place tells none, but its
content names a primitive. -/
theorem Workspace.publish_notesUri :
    DataFileKind.ofLocation notesPath = .unknown ∧
      DataFileKind.ofFile notesPath (Yaml.Stream.ofText "primitive_name: add\n") = .primitive ∧
      notesUri.file? = some notesPath ∧
      (Workspace.ofSettings .default).publish .empty notesUri ⟨"primitive_name: add\n", 1⟩ =
        (.diagnostics notesUri
            ((CommandLine.checkFile .empty .empty notesPath "primitive_name: add\n").1.map
              (Finding.diagnostic (LineIndex.ofText "primitive_name: add\n")))
            (some 1),
          { Workspace.ofSettings .default with
            registry :=
              (CommandLine.checkFile .empty .empty notesPath "primitive_name: add\n").2 }) := by
  have huri : notesUri.file? = some notesPath := by decide +kernel
  refine ⟨by decide +kernel, by decide +kernel, huri, ?_⟩
  exact ((Workspace.ofSettings .default).publish_eq_checkFile .empty huri _ 1).2

end PrimitiveDesk

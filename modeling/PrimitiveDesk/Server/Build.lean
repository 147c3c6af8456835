import PrimitiveDesk.Generator.Build
import PrimitiveDesk.Preview.Basic
import PrimitiveDesk.Server.Workspace

/-!
# Commands of the editor

Showing the code for the entry under the cursor, and building and running its tests.
-/

namespace PrimitiveDesk

/-- The machine that the server runs on. -/
structure Host where
  files : FileTree
  /-- Folders in which programs are looked up first. -/
  searchPath : List Path
  cpuFlags : List String
deriving Inhabited

/-- Why the definition under the cursor is not built. -/
inductive BuildError where
  | disabled
  | noProject (uri : Uri)
  | notOpen (uri : Uri)
  | nothingToBuild (cause : SelectionError)
  | noFolder (folder : Path) (cause : SystemError)
  | failed (cause : GeneratorError)
deriving Inhabited

/-- The message for a document outside of projects. -/
def Uri.noProjectMessage (uri : Uri) : String :=
  uri.text ++ " is not part of a generator project."

/-- The wording of an error. -/
def BuildError.message : BuildError → String
  | disabled => "The generator daemon is disabled."
  | noProject uri => uri.noProjectMessage
  | notOpen uri => uri.text ++ " is not open."
  | nothingToBuild cause => cause.message
  | noFolder folder cause => "Could not create " ++ folder.text ++ ": " ++ cause.message
  | failed cause => cause.message

/-- How a build ends. -/
inductive BuildStatus where
  | passed (log : String)
  | alreadyActive
  | failed (message : String)
deriving DecidableEq, Repr, Inhabited

namespace Workspace

/-! ## Previews -/

/-- A preview that only tells why there is none. -/
def reported (message : String) : Preview × List Notice :=
  (⟨message, [], []⟩, [.display .warning message])

/-- The preview at a position of a document. -/
def preview (w : Workspace) (files : FileTree) (uri : Uri) (position : Position) :
    (Preview × List Notice) × Workspace :=
  match w.project? files uri with
  | (none, w) => (reported uri.noProjectMessage, w)
  | (some project, w) =>
    match w.content? uri with
    | none => ((.empty, []), w)
    | some content =>
      let offset := (LineIndex.ofText content).offset position
      let stream := Yaml.Stream.ofText content
      match files.preview project.places project.schema.defaults stream offset with
      | .ok p => ((p, p.messages.map (.display .error)), w)
      | .error e => (reported e.message, w)

/-! ## Builds -/

/-- The folder in which a project is built. -/
def buildFolder (w : Workspace) (places : ProjectPlaces) : Path :=
  places.root.joinText (w.settings.buildFolder?.getD places.profile.buildFolderName)

/-- The running generator of a project. -/
def daemon? (w : Workspace) (root : Path) : Option Daemon :=
  (w.daemons.find? fun d => d.1.same root).map (·.2)

/-- Keeps the generator of a project. -/
def keepDaemon (w : Workspace) (root : Path) (d : Daemon) : Workspace :=
  { w with daemons := (root, d) :: w.daemons.filter fun d => !d.1.same root }

/-- The generator of a project. The first use makes the folder of the build, starts the generator
and waits until it is ready. -/
def startDaemon (w : Workspace) (host : Host) (places : ProjectPlaces) :
    Except BuildError Daemon × FileTree :=
  match w.daemon? places.root with
  | some d => (.ok d, host.files)
  | none =>
    let folder := w.buildFolder places
    match host.files.makeFolders (FileTree.namesAt folder) with
    | .error e => (.error (.noFolder folder e), host.files)
    | .ok files =>
      let command := places.profile.generator w.settings.interpreter places.root folder
      match Daemon.spawn files host.searchPath places.root command with
      | .error e => (.error (.failed e), files)
      | .ok (d, files) =>
        let (d, files) := d.ready files
        (.ok d, files)

/-- Generates, builds and runs the tests of a target of a project. -/
def buildProject (w : Workspace) (host : Host) (places : ProjectPlaces) (target : BuildTarget) :
    Except BuildError BuildStatus × Workspace × FileTree :=
  match w.startDaemon host places with
  | (.error e, files) => (.error e, w, files)
  | (.ok d, files) =>
    let (outcome, d, files) := d.generate files ⟨host.cpuFlags, [target.primitive]⟩
    let w := w.keepDaemon places.root d
    match outcome with
    | .error e => (.error (.failed e), w, files)
    | .ok .alreadyActive => (.ok .alreadyActive, w, files)
    | .ok .generated =>
      let folder := w.buildFolder places
      let steps := places.profile.buildSteps folder target.extension target.primitive
      match runBuild host.searchPath folder files steps with
      | (.error e, files) => (.error (.failed e), w, files)
      | (.ok log, files) => (.ok (.passed log), w, files)

/-- Builds what stands at a position of a document: how that ends, and for which target. -/
def tryBuild (w : Workspace) (host : Host) (uri : Uri) (position : Position) :
    Except BuildError (BuildStatus × BuildTarget) × Workspace × FileTree :=
  if !w.settings.daemonEnabled then (.error .disabled, w, host.files)
  else
    match w.project? host.files uri with
    | (none, w) => (.error (.noProject uri), w, host.files)
    | (some project, w) =>
      match w.content? uri with
      | none => (.error (.notOpen uri), w, host.files)
      | some content =>
        let offset := (LineIndex.ofText content).offset position
        match buildTarget (Yaml.Stream.ofText content) offset with
        | .error e => (.error (.nothingToBuild e), w, host.files)
        | .ok target =>
          let (r, w, files) := w.buildProject host project.places target
          (r.map fun status => (status, target), w, files)

/-- Builds what stands at a position of a document, and tells the user how that ends. -/
def build (w : Workspace) (host : Host) (uri : Uri) (position : Position) :
    (BuildStatus × List Notice) × Workspace × FileTree :=
  let (r, rest) := w.tryBuild host uri position
  let told := match r with
    | .error e => (.failed e.message, [.display .error e.message])
    | .ok (.alreadyActive, _) =>
      (.alreadyActive, [.display .info "Build already active, please wait for it to finish."])
    | .ok (status, target) =>
      (status, [.display .info
        ("Tests of " ++ target.primitive ++ " on " ++ target.extension ++ " passed.")])
  (told, rest)

end Workspace

end PrimitiveDesk

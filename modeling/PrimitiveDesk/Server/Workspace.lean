import PrimitiveDesk.Editor.Completion
import PrimitiveDesk.Editor.Outline
import PrimitiveDesk.Generator.Daemon
import PrimitiveDesk.Project.Registry
import PrimitiveDesk.Server.Notice
import PrimitiveDesk.Server.Settings
import PrimitiveDesk.Server.TextStore

/-!
# The workspace of the server

Everything that the server knows: its settings, the open documents, the projects and the generators
that run. Each event changes the workspace and may lead to notices.
-/

namespace PrimitiveDesk

/-- What the server knows. -/
structure Workspace where
  settings : Settings
  registry : Registry
  texts : TextStore
  /-- The running generators by the roots of their projects. -/
  daemons : List (Path × Daemon)
deriving Inhabited

/-- The kind of a document: by its place, or else by its content. -/
def Uri.kind (uri : Uri) (stream : Yaml.Stream) : DataFileKind :=
  match uri.file? with
  | some file => DataFileKind.ofFile file stream
  | none => DataFileKind.ofContent stream

namespace Workspace

/-- A workspace in which nothing has happened. -/
def ofSettings (s : Settings) : Workspace := ⟨s, .empty, .empty, []⟩

/-- Takes over the options of a client; options that do not fit are ignored. -/
def configure (w : Workspace) (options? : Option Json) : Workspace :=
  match options?.map w.settings.overriddenBy with
  | some (.ok settings) => { w with settings }
  | _ => w

/-- The text of an open document. -/
def content? (w : Workspace) (uri : Uri) : Option String :=
  (w.texts.get? uri).map (·.content)

/-- The project of a document, which is loaded on first use. -/
def project? (w : Workspace) (files : FileTree) (uri : Uri) : Option Project × Workspace :=
  match uri.file? with
  | none => (none, w)
  | some file =>
    let (p, registry) := w.registry.projectFor? files.hasFile files.textAt file
    (p, { w with registry })

/-! ## Diagnostics -/

/-- What is found in a text of a document. Only the document's place tells its kind. -/
def findings (w : Workspace) (files : FileTree) (uri : Uri) (content : String) :
    List Finding × Workspace :=
  let kind := (uri.file?.map DataFileKind.ofLocation).getD .unknown
  let (project, w) := w.project? files uri
  (check (Yaml.Stream.ofText content) kind (project.map (·.schema.schemata)), w)

/-- Publishes the diagnostics of a text. -/
def publish (w : Workspace) (files : FileTree) (uri : Uri) (t : OpenText) : Notice × Workspace :=
  let (found, w) := w.findings files uri t.content
  let ix := LineIndex.ofText t.content
  (.diagnostics uri (found.map (Finding.diagnostic ix)) (some t.version), w)

/-- Publishes the diagnostics of a new text and then stores it. -/
def store (w : Workspace) (files : FileTree) (uri : Uri) (t : OpenText) : Notice × Workspace :=
  let (notice, w) := w.publish files uri t
  (notice, { w with texts := w.texts.insert uri t })

/-- Publishes the diagnostics of several texts. -/
def publishAll (w : Workspace) (files : FileTree) : List (Uri × OpenText) → List Notice × Workspace
  | [] => ([], w)
  | (uri, t) :: rest =>
    let (notice, w) := w.publish files uri t
    let (notices, w) := w.publishAll files rest
    (notice :: notices, w)

/-! ## Events -/

/-- A document is opened. -/
def opened (w : Workspace) (files : FileTree) (uri : Uri) (t : OpenText) :
    List Notice × Workspace :=
  let (notice, w) := w.store files uri t
  ([notice], w)

/-- A document is changed: the first of the new texts counts. -/
def changed (w : Workspace) (files : FileTree) (uri : Uri) (contents : List String)
    (version : Int) : List Notice × Workspace :=
  match contents with
  | [] => ([], w)
  | content :: _ => w.opened files uri ⟨content, version⟩

/-- A document is closed: it is forgotten, and so are its diagnostics. -/
def closed (w : Workspace) (uri : Uri) : List Notice × Workspace :=
  ([.diagnostics uri [] none], { w with texts := w.texts.erase uri })

/-- Reads the schemata of those projects again whose source is among the changed files. A schema
that cannot be read is reported and stays as it was. Tells whether any schema was read. -/
def reloadAll (w : Workspace) (files : FileTree) (changes : List Path) :
    List Project → Bool × List Notice × Workspace
  | [] => (false, [], w)
  | p :: rest =>
    if changes.any fun c => c.same p.places.schemaFile then
      match w.registry.reload files.textAt p.places.root with
      | .ok registry =>
        let (_, notices, w) := { w with registry }.reloadAll files changes rest
        (true, notices, w)
      | .error e =>
        let (reloaded, notices, w) := w.reloadAll files changes rest
        (reloaded, .display .warning
          ("Could not reload schema, keeping the previous one: " ++ e.message) :: notices, w)
    else w.reloadAll files changes rest

/-- Files have changed: schemata are read again, and if any was, all open documents are checked
again. -/
def filesChanged (w : Workspace) (files : FileTree) (uris : List Uri) : List Notice × Workspace :=
  let (reloaded, notices, w) := w.reloadAll files (uris.filterMap Uri.file?) w.registry.projects
  if reloaded then
    let (published, w) := w.publishAll files w.texts.entries
    (notices ++ published, w)
  else (notices, w)

/-! ## Requests -/

/-- The suggestions at a position, with the text that they are for; none if the document is not
open, is part of no project or has no known kind. -/
def complete? (w : Workspace) (files : FileTree) (uri : Uri) (position : Position) :
    Option (String × List Suggestion) × Workspace :=
  match w.content? uri with
  | none => (none, w)
  | some content =>
    match w.project? files uri with
    | (none, w) => (none, w)
    | (some project, w) =>
      let kind := uri.kind (Yaml.Stream.ofText content)
      (((project.schema.schemata.shapeFor? kind).map fun shape =>
        (content, complete content position shape kind w.settings.indent)), w)

/-- The outline of an open document, with its text. -/
def symbols? (w : Workspace) (uri : Uri) : Option (String × List Symbol) :=
  (w.content? uri).map fun content =>
    let stream := Yaml.Stream.ofText content
    (content, outline stream (uri.kind stream))

/-- Stops all generators. -/
def stopDaemons (w : Workspace) : Workspace :=
  { w with daemons := [] }

end Workspace

end PrimitiveDesk

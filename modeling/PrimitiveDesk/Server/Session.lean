import PrimitiveDesk.Server.Arguments
import PrimitiveDesk.Server.Encoding

/-!
# Sessions

A session answers the calls of one client, one after another. Notifications get no reply, and those
that cannot be read are dropped; requests get a result or are refused. After a shutdown nothing is
answered any more.
-/

namespace PrimitiveDesk

/-- A call of the client. -/
inductive Call where
  | opened (uri text : String) (version : Int)
  | changed (uri : String) (texts : List String) (version : Int)
  | closed (uri : String)
  | filesChanged (uris : List String)
  | complete (uri : String) (position : Position)
  | symbols (uri : String)
  | command (name : String) (arguments : List Json)
  | shutdown

namespace Call

/-- Whether a call wants no reply. -/
def isNotification : Call → Bool
  | opened _ _ _ => true
  | changed _ _ _ => true
  | closed _ => true
  | filesChanged _ => true
  | _ => false

end Call

/-- What a client gets for a call. -/
inductive Reply where
  /-- Nothing, as for every notification. -/
  | nothing
  | result (value : Json)
  | refused (code : Int) (message : String)
deriving Inhabited

namespace Reply

/-- The refusal of arguments. -/
def invalidArguments (e : ArgumentError) : Reply := refused (-32602) e.message

/-- The refusal of a call that comes too late. -/
def invalidRequest : Reply := refused (-32600) "Invalid request"

end Reply

/-- A session. -/
structure Session where
  workspace : Workspace
  isOver : Bool
deriving Inhabited

namespace Session

/-- What the server can do. -/
def capabilities : Json :=
  let letters (first : Char) : List Json :=
    (List.range 26).map fun i => .str (String.singleton (Char.ofNat (first.toNat + i)))
  let triggers := letters 'a' ++ letters 'A' ++ [.str "-", .str " "]
  .obj [("capabilities", .obj [("textDocumentSync", .ofNat 1),
      ("completionProvider",
        .obj [("resolveProvider", .bool false), ("triggerCharacters", .arr triggers)]),
      ("documentSymbolProvider", .bool true),
      ("executeCommandProvider", .obj [("commands",
        .arr [.str "tslgen.preview", .str "tslgen.build", .str "tslgen.killDaemon"])])]),
    ("serverInfo", .obj [("name", .str "tslgen-lsp"), ("version", .str "0.1.0")])]

/-- Starts a session with the options of a client: what the server tells first. -/
def start (settings : Settings) (options? : Option Json) : List Notice × Session :=
  ([.log .info "tslgen language server initialized", .watchSchemata],
    ⟨(Workspace.ofSettings settings).configure options?, false⟩)

/-- Goes on with an address if it can be read. -/
def withUri {α : Type} (uri : String) (refuse : ArgumentError → α) (act : Uri → α) : α :=
  match Uri.decode (.str uri) with
  | .ok u => act u
  | .error e => refuse (.notDecoded e)

/-- A list of values, or null if there is none. -/
def listOrNull (values : List Json) : Json :=
  if values.isEmpty then .null else .arr values

/-- Runs a command of the editor. -/
def command (w : Workspace) (host : Host) (name : String) (arguments : List Json) :
    Reply × List Notice × Workspace × FileTree :=
  match name with
  | "tslgen.preview" =>
    match decodeLocation arguments with
    | .error e => (.invalidArguments e, [], w, host.files)
    | .ok (uri, position) =>
      let ((p, notices), w) := w.preview host.files uri position
      (.result p.toJson, notices, w, host.files)
  | "tslgen.build" =>
    match decodeLocation arguments with
    | .error e => (.invalidArguments e, [], w, host.files)
    | .ok (uri, position) =>
      let ((status, notices), w, files) := w.build host uri position
      (.result status.toJson, notices, w, files)
  | "tslgen.killDaemon" => (.result .null, [], w.stopDaemons, host.files)
  | name => (.invalidArguments (.unknownCommand name), [], w, host.files)

/-- Answers a call in a session that is not over. -/
def answer (w : Workspace) (host : Host) : Call → Reply × List Notice × Workspace × FileTree
  | .opened uri text version =>
    withUri uri (fun _ => (.nothing, [], w, host.files)) fun uri =>
      let (notices, w) := w.opened host.files uri ⟨text, version⟩
      (.nothing, notices, w, host.files)
  | .changed uri texts version =>
    withUri uri (fun _ => (.nothing, [], w, host.files)) fun uri =>
      let (notices, w) := w.changed host.files uri texts version
      (.nothing, notices, w, host.files)
  | .closed uri =>
    withUri uri (fun _ => (.nothing, [], w, host.files)) fun uri =>
      let (notices, w) := w.closed uri
      (.nothing, notices, w, host.files)
  | .filesChanged uris =>
    match uris.mapM fun u => (Uri.ofText u).toOption with
    | none => (.nothing, [], w, host.files)
    | some uris =>
      let (notices, w) := w.filesChanged host.files uris
      (.nothing, notices, w, host.files)
  | .complete uri position =>
    withUri uri (fun e => (.invalidArguments e, [], w, host.files)) fun uri =>
      let (found, w) := w.complete? host.files uri position
      let items := match found with
        | some (content, suggestions) =>
          suggestions.zipIdx.map fun (s, i) => s.toJson content i
        | none => []
      (.result (listOrNull items), [], w, host.files)
  | .symbols uri =>
    withUri uri (fun e => (.invalidArguments e, [], w, host.files)) fun uri =>
      let items := match w.symbols? uri with
        | some (content, symbols) => Symbol.listToJson (LineIndex.ofText content) symbols
        | none => []
      (.result (listOrNull items), [], w, host.files)
  | .command name arguments => command w host name arguments
  | .shutdown => (.result .null, [], w.stopDaemons, host.files)

/-- Answers a call: the reply, what is told besides, and session and files afterwards. -/
def step (s : Session) (host : Host) (call : Call) : Reply × List Notice × Session × FileTree :=
  if s.isOver then
    (if call.isNotification then .nothing else .invalidRequest, [], s, host.files)
  else
    let (reply, notices, w, files) := answer s.workspace host call
    let isOver := match call with
      | .shutdown => true
      | _ => false
    (reply, notices, ⟨w, isOver⟩, files)

end Session

end PrimitiveDesk

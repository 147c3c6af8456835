import PrimitiveDesk.Files.Search
import PrimitiveDesk.Preview.Layers
import PrimitiveDesk.Project.Basic
import PrimitiveDesk.Template.Render
import PrimitiveDesk.Yaml.Builder

/-!
# Previews

The code that the generator would write for the entry at an offset, by the templates of its project:
one text for an extension or a declaration, and one text for each type of a definition. What cannot
be rendered stays empty and is reported.
-/

namespace PrimitiveDesk

/-- What renders templates: a template by its name, and a text that is a template itself. -/
structure Renderer where
  named : String → Json.Members → Except Template.Fault String
  inline : String → Json.Members → Except Template.Fault String

/-- A rendering for one type. -/
structure Variant where
  content : String
  type : String
deriving DecidableEq, Repr, Inhabited

/-- A preview, with what could not be rendered. -/
structure Preview where
  content : String
  variants : List Variant
  messages : List String
deriving DecidableEq, Repr, Inhabited

namespace Preview

/-- Nothing to show. -/
def empty : Preview := ⟨"", [], []⟩

/-- A text with the message that stands for its failure. -/
def attempt (label : String) : Except Template.Fault String → String × List String
  | .ok text => (text, [])
  | .error e => ("", [label ++ e.message])

/-- The message of a template that does not render starts so. -/
def failureLabel : String := "Error while rendering preview: "

/-- The message of an implementation that does not render starts so. -/
def typeLabel (type : String) : String := "Could not render template for type " ++ type ++ ": "

/-- A preview of one template. -/
def ofTemplate (renderer : Renderer) (name : String) (data : Json.Members) : Preview :=
  let (content, messages) := attempt failureLabel (renderer.named name data)
  ⟨content, [], messages⟩

/-- The rendering of a definition for one type, with its messages. -/
def variantOf (renderer : Renderer) (merged : Json.Members) (type : String) :
    Variant × List String :=
  let implementation := ((Assoc.find? merged "implementation").bind Json.str?).getD ""
  let typed := Assoc.set merged "ctype" (.str type)
  let (implementation, first) := attempt (typeLabel type) (renderer.inline implementation typed)
  let (content, second) := attempt failureLabel
    (renderer.named "primitive_definition" (variantData merged type implementation))
  (⟨content, type⟩, first ++ second)

/-- The preview of a definition. `find?` gives the data of an extension by its name. -/
def ofDefinition (renderer : Renderer) (find? : String → Option Json.Members) (defaults : Defaults)
    (definition : Yaml.Node) (declaration : Json.Members) : Except SelectionError Preview :=
  match ((definition.get? "ctype").map (·.stringList)).getD [] with
  | [] => .error .missingType
  | types =>
    match targetExtension? definition with
    | none => .error .missingExtension
    | some name =>
      let (extension, missing) := match find? name with
        | some data => (data, [])
        | none => ([], ["Could not find an extension " ++ name ++ "."])
      let merged := mergedData defaults (definitionData definition) extension declaration
      let variants := types.map (variantOf renderer merged)
      .ok ⟨"", variants.map (·.1), missing ++ variants.flatMap (·.2)⟩

/-- The preview at an offset of a text. -/
def ofSelection (renderer : Renderer) (find? : String → Option Json.Members) (defaults : Defaults)
    (stream : Yaml.Stream) (offset : Nat) : Except SelectionError Preview :=
  match stream.documentAt? offset with
  | none => .error .nothingSelected
  | some (_, d) =>
    match DataFileKind.ofContent stream with
    | .extension =>
      .ok (ofTemplate renderer "extension" (Assoc.extend (objectOf d.toJson) defaults.extension))
    | .primitive =>
      let declaration := Assoc.extend (declarationData d) defaults.declaration
      match selectedDefinition? d offset with
      | none => .ok (ofTemplate renderer "primitive_declaration" declaration)
      | some definition => ofDefinition renderer find? defaults definition declaration
    | .unknown => .error .nothingSelected

end Preview

/-! ## The templates and extensions of a project -/

/-- The names that lead to a template below its folder. No part of a template's name may be
hidden. -/
def templateNames? (name : String) : Option (List String) :=
  let parts := (name ++ Profile.templateSuffix).splitOn "/"
  if parts.any fun p => p.startsWith "." || p.contains '\\' then none else some parts

/-- The templates of a project in a tree of files. -/
def FileTree.library (tree : FileTree) (places : ProjectPlaces) : Template.Library := fun name =>
  match templateNames? name with
  | none => .error .templateNotFound
  | some parts =>
    let path := parts.foldl Path.joinText places.templateFolder
    match tree.textAt path with
    | .ok source => .ok source
    | .error .notFound => .error .templateNotFound
    | .error _ => .error .invalidOperation

/-- What renders the templates of a project. -/
def FileTree.renderer (tree : FileTree) (places : ProjectPlaces) : Renderer where
  named name data :=
    Template.renderNamed (tree.library places) (places.profile.templateName name) data
  inline source data := Template.render (tree.library places) source data

/-- How to find the data files below a folder. The names of the folder count as patterns, too. -/
def dataFileSearch? (folder : Path) : Option (List SearchStep) :=
  (FileTree.namesAt folder ++ ["**", "*.yaml"]).mapM SearchStep.ofText?

/-- The document of an extension in a stream. -/
def extensionDocument? (s : Yaml.Stream) (name : String) : Option Yaml.Document :=
  s.documents.find? fun d => (d.get? "extension_name").bind (·.str?) == some name

/-- The data of an extension: the first document of that name in the data files of extensions. -/
def FileTree.extension? (tree : FileTree) (places : ProjectPlaces) (name : String) :
    Option Json.Members :=
  (((dataFileSearch? places.extensionsFolder).map tree.search).getD []).findSome? fun
    | (_, .file content _) =>
      (Text.decode? content).bind fun text =>
        (extensionDocument? (Yaml.Stream.ofText text) name).map fun d => objectOf d.toJson
    | _ => none

/-- The preview at an offset of a text in a project. -/
def FileTree.preview (tree : FileTree) (places : ProjectPlaces) (defaults : Defaults)
    (stream : Yaml.Stream) (offset : Nat) : Except SelectionError Preview :=
  Preview.ofSelection (tree.renderer places) (tree.extension? places) defaults stream offset

end PrimitiveDesk

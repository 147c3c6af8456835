import PrimitiveDesk.Proofs.Assoc.Firsts
import PrimitiveDesk.Proofs.Preview.SharedSelection

/-!
# The layers of a definition's preview

A definition is previewed once for each of its types. The data for a type is put together in several
steps: what the definition says, its defaults, its extension with defaults, and the declaration with
defaults. Each step adds what is not there yet, so that a key has the value of the first layer that
has it, however the steps are nested (`find?_layeredData`). Only three keys are set by the preview
itself: the type, the implementation rendered for it, and the flags as one text
(`Preview.find?_dataFor`).
-/

namespace PrimitiveDesk

/-! ## Layers -/

/-- What the declaration of a primitive says about a key: it has no definitions, and its functor is
named like the primitive unless it has a name of its own. -/
def declared? (d : Yaml.Document) (key : String) : Option Json :=
  if key = definitionsKey then none
  else if key = "functor_name" then
    (Assoc.find? (objectOf d.toJson) "functor_name").or
      (some (.str (((Assoc.find? (objectOf d.toJson) "primitive_name").map nameText).getD "")))
  else Assoc.find? (objectOf d.toJson) key

/-- `declarationData` says about a key what is `declared?`. -/
private theorem find?_declarationData (d : Yaml.Document) (key : String) :
    Assoc.find? (declarationData d) key = declared? d key := by
  unfold declarationData declared?
  rw [Assoc.find?_erase]
  congr 1
  -- the name of the functor is only set if there is none
  cases hfunctor : Assoc.find? (objectOf d.toJson) "functor_name" with
  | some v =>
    rw [if_pos (by rw [Assoc.has, hfunctor]; rfl)]
    split
    · next hkey => rw [hkey, hfunctor]; rfl
    · rfl
  | none =>
    rw [if_neg (by rw [Assoc.has, hfunctor]; exact Bool.false_ne_true), Assoc.find?_set]
    simp only [eq_comm (a := key), Option.none_or]

/-- The layers of a definition, from the first to the last: each says what a key is. -/
def layersOf (defaults : Defaults) (definition : Yaml.Node) (extension : Json.Members)
    (d : Yaml.Document) : List (String → Option Json) :=
  [Assoc.find? (objectOf definition.toJson), Assoc.find? defaults.definition,
    Assoc.find? extension, Assoc.find? defaults.extension,
    declared? d, Assoc.find? defaults.declaration]

/-- The data of a definition of a document, before the types are told apart. -/
def layeredData (defaults : Defaults) (definition : Yaml.Node) (extension : Json.Members)
    (d : Yaml.Document) : Json.Members :=
  mergedData defaults (definitionData definition) extension
    (Assoc.extend (declarationData d) defaults.declaration)

/-- A key has the value of the first layer that has it. -/
theorem find?_layeredData (defaults : Defaults) (definition : Yaml.Node)
    (extension : Json.Members) (d : Yaml.Document) {key : String} (hkey : key ≠ "lscpu_flags") :
    Assoc.find? (layeredData defaults definition extension d) key =
      (layersOf defaults definition extension d).findSome? fun layer => layer key := by
  have hdefinition : Assoc.find? (definitionData definition) key =
      Assoc.find? (objectOf definition.toJson) key := by
    rw [definitionData, Assoc.find?_set, if_neg (Ne.symm hkey)]
  have hcons (layer : String → Option Json) (layers : List (String → Option Json)) :
      ((layer :: layers).findSome? fun layer => layer key) =
        (layer key).or (layers.findSome? fun layer => layer key) := by
    rw [List.findSome?_cons]
    cases layer key <;> rfl
  -- the steps are nested, but taking the first of two values is associative
  simp only [layeredData, mergedData, Assoc.find?_extend, hdefinition, find?_declarationData,
    Option.or_assoc, layersOf, hcons, List.findSome?_nil, Option.or_none]

namespace Preview

/-- The implementation of a definition, rendered for a type; empty if it cannot be rendered. -/
def implementationFor (renderer : Renderer) (merged : Json.Members) (type : String) : String :=
  let source := ((Assoc.find? merged "implementation").bind Json.str?).getD ""
  (attempt (typeLabel type) (renderer.inline source (Assoc.set merged "ctype" (.str type)))).1

/-- The data that the template of definitions gets for a type. -/
def dataFor (renderer : Renderer) (merged : Json.Members) (type : String) : Json.Members :=
  variantData merged type (implementationFor renderer merged type)

/-- The preview sets the type and the implementation, and leaves all other keys. -/
theorem find?_dataFor (renderer : Renderer) (merged : Json.Members) (type key : String) :
    Assoc.find? (dataFor renderer merged type) key =
      if key = "implementation" then some (.str (implementationFor renderer merged type))
      else if key = "ctype" then some (.str type)
      else Assoc.find? merged key := by
  unfold dataFor variantData
  rw [Assoc.find?_set, Assoc.find?_set]
  simp only [eq_comm (b := key)]

/-- What the template of definitions makes of some data; nothing if it fails. -/
def renderedWith (renderer : Renderer) (data : Json.Members) : String :=
  (attempt failureLabel (renderer.named "primitive_definition" data)).1

variable {definition : Yaml.Node} {name : String}

/-- `variantOf` by the data that the template gets. -/
private theorem variantOf_eq (renderer : Renderer) (merged : Json.Members) (type : String) :
    (variantOf renderer merged type).1 =
      ⟨renderedWith renderer (dataFor renderer merged type), type⟩ :=
  rfl

/-- `ofSelection` of a selected definition in a file of primitives. -/
private theorem ofSelection_of_selected {s : Yaml.Stream} {offset i : Nat} {d : Yaml.Document}
    (renderer : Renderer) (find? : String → Option Json.Members) (defaults : Defaults)
    (hkind : DataFileKind.ofContent s = .primitive) (hdocument : s.documentAt? offset = some (i, d))
    (hselected : selectedDefinition? d offset = some definition) :
    ofSelection renderer find? defaults s offset =
      ofDefinition renderer find? defaults definition
        (Assoc.extend (declarationData d) defaults.declaration) := by
  unfold ofSelection
  rw [hdocument, hkind]
  simp only [hselected]

/-- A definition with types and an extension is always previewed, in every document: there is one
variant for each type, in order, also where rendering fails. The template of definitions gets data
in which `ctype` is that type, and each key that the preview does not set itself has the value of
the first layer that has it: the definition, its defaults, the extension if it is found, the
defaults of extensions, the declaration, and the defaults of declarations. If the definition is
selected in a file of primitives, this is the preview of the selection. -/
theorem definition_layered (renderer : Renderer) (find? : String → Option Json.Members)
    (defaults : Defaults) (d : Yaml.Document) (htypes : typesOf definition ≠ [])
    (htarget : targetExtension? definition = some name) :
    let data := dataFor renderer (layeredData defaults definition ((find? name).getD []) d)
    ∃ p, ofDefinition renderer find? defaults definition
          (Assoc.extend (declarationData d) defaults.declaration) = .ok p ∧
      (∀ s offset i, DataFileKind.ofContent s = .primitive →
        s.documentAt? offset = some (i, d) → selectedDefinition? d offset = some definition →
        ofSelection renderer find? defaults s offset = .ok p) ∧
      p.variants = (typesOf definition).map (fun type =>
        ⟨renderedWith renderer (data type), type⟩) ∧
      ∀ type, Assoc.find? (data type) "ctype" = some (.str type) ∧
        ∀ key, key ∉ ["ctype", "implementation", "lscpu_flags"] →
          Assoc.find? (data type) key =
            (layersOf defaults definition ((find? name).getD []) d).findSome? fun layer =>
              layer key := by
  intro data
  obtain ⟨p, hp, hvariants⟩ : ∃ p, ofDefinition renderer find? defaults definition
      (Assoc.extend (declarationData d) defaults.declaration) = .ok p ∧ _ :=
    exists_ofDefinition_variants htypes htarget
  simp only [variantOf_eq] at hvariants
  refine ⟨p, hp, fun s offset i hkind hdocument hselected => ?_, hvariants, fun type => ⟨?_, ?_⟩⟩
  · rw [ofSelection_of_selected renderer find? defaults hkind hdocument hselected, hp]
  · rw [find?_dataFor, if_neg (by decide), if_pos rfl]
  · intro key hkey
    simp only [List.mem_cons, List.not_mem_nil, or_false, not_or] at hkey
    -- a key that the preview does not set is left to the layers
    rw [find?_dataFor, if_neg hkey.2.1, if_neg hkey.1]
    exact find?_layeredData defaults definition _ d hkey.2.2

end Preview

/-- A definition with two types, behind the name of its primitive. -/
def fmaDefinition : Yaml.Node :=
  .mapping
    [(.plain "target_extension" ⟨34, 50⟩, .plain "avx2" ⟨52, 56⟩),
      (.plain "ctype" ⟨58, 63⟩,
        .sequence [.plain "float" ⟨66, 71⟩, .plain "half" ⟨73, 77⟩] ⟨65, 78⟩)]
    ⟨33, 79⟩

/-- The document with that definition. -/
def fmaDocument : Yaml.Document :=
  ⟨some (.mapping
    [(.plain "primitive_name" ⟨0, 14⟩, .plain "fma" ⟨16, 19⟩),
      (.plain "definitions" ⟨20, 31⟩, .sequence [fmaDefinition] ⟨32, 80⟩)] ⟨0, 80⟩), ⟨0, 80, 80⟩⟩

/-- Templates that show the functor with its vendor for one type, and fail for all others. -/
def floatRenderer : Renderer where
  named _ data :=
    match Assoc.find? data "ctype", Assoc.find? data "functor_name", Assoc.find? data "vendor" with
    | some (.str "float"), some (.str functor), some (.str vendor) =>
      .ok (vendor ++ "::" ++ functor)
    | _, _, _ => .error .undefinedValue
  inline source _ := .ok source

/-- The definition is selected in its document, and its extension is not found. The functor is named
by the declaration, the vendor by the defaults of extensions, and the second type keeps its variant
although it cannot be rendered. -/
theorem definition_layered_fmaDefinition :
    typesOf fmaDefinition = ["float", "half"] ∧ targetExtension? fmaDefinition = some "avx2" ∧
      ∃ p, Preview.ofSelection floatRenderer (fun _ => none)
          ⟨[("vendor", .str "intel")], [("vendor", .str "none")], []⟩ ⟨[fmaDocument], []⟩ 60 =
            .ok p ∧
        p.variants = [⟨"intel::fma", "float"⟩, ⟨"", "half"⟩] := by
  have htypes : typesOf fmaDefinition = ["float", "half"] := rfl
  have htarget : targetExtension? fmaDefinition = some "avx2" := rfl
  have hne : typesOf fmaDefinition ≠ [] := htypes ▸ List.cons_ne_nil _ _
  obtain ⟨p, -, hselection, hvariants, -⟩ := Preview.definition_layered floatRenderer
    (fun _ => none) ⟨[("vendor", .str "intel")], [("vendor", .str "none")], []⟩ fmaDocument hne
    htarget
  exact ⟨htypes, htarget, p, hselection ⟨[fmaDocument], []⟩ 60 0 rfl rfl rfl, hvariants⟩

end PrimitiveDesk

import PrimitiveDesk.Preview.Basic

/-!
# What previews and builds select

A build looks at the document at the cursor: it must name a primitive, and one of its definitions
must be at the cursor (`SelectsDefinition.buildTarget_cases`). A preview looks up the same document
and the same definition, but the whole stream tells it whether to show a primitive or an extension,
by the first document that names one of the two (`DataFileKind.ofContent_of_mem`). So both work on
the same definition as long as no extension is named in front of the first primitive. Otherwise the
preview shows the document as if it were an extension (`SelectsDefinition.ofSelection_eq`).
-/

namespace PrimitiveDesk

/-! ## The kind of a stream -/

namespace DataFileKind

/-- Whether no extension is named in front of the first document that names a primitive. -/
def primitivesLead (documents : List Yaml.Document) : Bool :=
  (documents.takeWhile fun d => !d.has "primitive_name").all fun d => !d.has "extension_name"

/-- The first document that names something decides. The induction is on the documents; those that
name nothing change neither side. -/
private theorem findSome?_ofDocument? {documents : List Yaml.Document} {d : Yaml.Document}
    (hmem : d ∈ documents) (hd : d.has "primitive_name" = true) :
    documents.findSome? ofDocument? =
      some (if primitivesLead documents then primitive else extension) := by
  induction documents with
  | nil => cases hmem
  | cons e documents ih =>
    rw [List.findSome?_cons]
    cases hprimitive : e.has "primitive_name" with
    | true => simp [ofDocument?, primitivesLead, hprimitive]
    | false =>
      cases hextension : e.has "extension_name" with
      | true => simp [ofDocument?, primitivesLead, hprimitive, hextension]
      | false =>
        have hrest : d ∈ documents := by
          obtain rfl | hrest := List.mem_cons.mp hmem
          · exact absurd hd (by simp [hprimitive])
          · exact hrest
        have hlead : primitivesLead (e :: documents) = primitivesLead documents := by
          simp [primitivesLead, hprimitive, hextension]
        simp only [ofDocument?, hprimitive, hextension, Bool.false_eq_true, if_false, hlead]
        exact ih hrest

/-- A stream in which a primitive is named describes primitives, or else an extension is named in
front. -/
theorem ofContent_of_mem {s : Yaml.Stream} {d : Yaml.Document} (hmem : d ∈ s.documents)
    (hd : d.has "primitive_name" = true) :
    ofContent s = if primitivesLead s.documents then primitive else extension := by
  unfold ofContent
  rw [findSome?_ofDocument? hmem hd, Option.getD_some]

end DataFileKind

/-- The document at an offset is one of the stream. -/
private theorem Yaml.Stream.mem_of_documentAt? {s : Yaml.Stream} {offset i : Nat}
    {d : Yaml.Document} (h : s.documentAt? offset = some (i, d)) : d ∈ s.documents := by
  unfold documentAt? at h
  obtain ⟨⟨d', i'⟩, hfind, heq⟩ := Option.map_eq_some_iff.mp h
  obtain ⟨rfl, rfl⟩ := Prod.mk.injEq .. ▸ heq
  exact List.fst_mem_of_mem_zipIdx (List.mem_of_find?_eq_some hfind)

/-! ## The preview of a definition -/

/-- The types of a definition. -/
def typesOf (definition : Yaml.Node) : List String :=
  ((definition.get? "ctype").map (·.stringList)).getD []

namespace Preview

variable {renderer : Renderer} {find? : String → Option Json.Members} {defaults : Defaults}
  {definition : Yaml.Node} {declaration : Json.Members}

/-- `ofDefinition` refuses a definition without types. -/
private theorem ofDefinition_of_types_eq_nil (htypes : typesOf definition = []) :
    ofDefinition renderer find? defaults definition declaration = .error .missingType := by
  unfold ofDefinition
  rw [← typesOf, htypes]

/-- `ofDefinition` refuses a definition with types, but without an extension, for that. -/
private theorem ofDefinition_of_target_eq_none (htypes : typesOf definition ≠ [])
    (htarget : targetExtension? definition = none) :
    ofDefinition renderer find? defaults definition declaration = .error .missingExtension := by
  obtain ⟨type, types, hcons⟩ := List.exists_cons_of_ne_nil htypes
  unfold ofDefinition
  rw [← typesOf, hcons, htarget]

/-- Any other definition gets one variant for each of its types, in order. Without the extension,
its data is empty. -/
theorem exists_ofDefinition_variants (htypes : typesOf definition ≠ []) {name : String}
    (htarget : targetExtension? definition = some name) :
    ∃ p, ofDefinition renderer find? defaults definition declaration = .ok p ∧
      p.variants = (typesOf definition).map fun type =>
        (variantOf renderer (mergedData defaults (definitionData definition)
          ((find? name).getD []) declaration) type).1 := by
  obtain ⟨type, types, hcons⟩ := List.exists_cons_of_ne_nil htypes
  unfold ofDefinition
  rw [← typesOf, hcons, htarget]
  refine ⟨_, rfl, ?_⟩
  cases find? name <;> simp only [List.map_map, Function.comp_def, Option.getD]

/-- The variants that `ofDefinition` gives have the types of the definition, in order. -/
private theorem exists_ofDefinition (htypes : typesOf definition ≠ []) {name : String}
    (htarget : targetExtension? definition = some name) :
    ∃ p, ofDefinition renderer find? defaults definition declaration = .ok p ∧
      p.variants.map (·.type) = typesOf definition := by
  obtain ⟨p, hp, hvariants⟩ := exists_ofDefinition_variants htypes htarget
  -- each variant keeps the type that it was rendered for
  have htype (merged : Json.Members) (type : String) :
      (variantOf renderer merged type).1.type = type := rfl
  refine ⟨p, hp, ?_⟩
  simp only [hvariants, List.map_map, Function.comp_def, htype, List.map_id']

/-- A definition is never previewed without a variant. -/
private theorem variants_ne_nil_of_ofDefinition {p : Preview}
    (h : ofDefinition renderer find? defaults definition declaration = .ok p) :
    p.variants ≠ [] := by
  intro hnil
  -- a definition is refused without types or an extension; otherwise each type has its variant
  by_cases htypes : typesOf definition = []
  · rw [ofDefinition_of_types_eq_nil htypes] at h
    cases h
  · cases htarget : targetExtension? definition with
    | none =>
      rw [ofDefinition_of_target_eq_none htypes htarget] at h
      cases h
    | some name =>
      obtain ⟨q, hq, hvariants⟩ :
          ∃ q, ofDefinition renderer find? defaults definition declaration = .ok q ∧
            q.variants.map (·.type) = typesOf definition := exists_ofDefinition htypes htarget
      obtain rfl : p = q := Except.ok.inj (h.symm.trans hq)
      rw [hnil] at hvariants
      exact htypes hvariants.symm

end Preview

/-! ## The definition that is selected -/

/-- The document at an offset names a primitive, and one of its definitions is at the offset. -/
structure SelectsDefinition (s : Yaml.Stream) (offset : Nat) (d : Yaml.Document) (name : String)
    (definition : Yaml.Node) : Prop where
  document : ∃ i, s.documentAt? offset = some (i, d)
  named : (d.get? "primitive_name").bind (·.str?) = some name
  selected : selectedDefinition? d offset = some definition

namespace SelectsDefinition

variable {s : Yaml.Stream} {offset : Nat} {d : Yaml.Document} {name : String}
  {definition : Yaml.Node}

/-- `buildTarget` selects a definition and then looks for its extension. -/
theorem buildTarget_cases (s : Yaml.Stream) (offset : Nat) :
    buildTarget s offset = .error .nothingSelected ∨
      ∃ d name definition, SelectsDefinition s offset d name definition ∧
        (targetExtension? definition = none ∧
            buildTarget s offset = .error .missingExtension ∨
          ∃ extension, targetExtension? definition = some extension ∧
            buildTarget s offset = .ok ⟨name, extension⟩) := by
  unfold buildTarget
  split
  · exact .inl rfl
  · next i d hdocument =>
    split
    · next name definition hnamed hselected =>
      refine .inr ⟨d, name, definition, ⟨⟨i, hdocument⟩, hnamed, hselected⟩, ?_⟩
      split
      · next extension hextension => exact .inr ⟨extension, hextension, rfl⟩
      · next hnone => exact .inl ⟨hnone, rfl⟩
    · exact .inl rfl

private theorem has_primitive_name (h : SelectsDefinition s offset d name definition) :
    d.has "primitive_name" = true := by
  obtain ⟨n, hn, -⟩ := Option.bind_eq_some_iff.mp h.named
  rw [Yaml.Document.has, hn]
  rfl

/-- `Preview.ofSelection` is the preview of the selected definition, unless an extension is named in
front. -/
theorem ofSelection_eq (h : SelectsDefinition s offset d name definition) (renderer : Renderer)
    (find? : String → Option Json.Members) (defaults : Defaults) :
    Preview.ofSelection renderer find? defaults s offset =
      if DataFileKind.primitivesLead s.documents then
        Preview.ofDefinition renderer find? defaults definition
          (Assoc.extend (declarationData d) defaults.declaration)
      else
        .ok (Preview.ofTemplate renderer "extension"
          (Assoc.extend (objectOf d.toJson) defaults.extension)) := by
  obtain ⟨i, hdocument⟩ := h.document
  have hkind := DataFileKind.ofContent_of_mem (Yaml.Stream.mem_of_documentAt? hdocument)
    h.has_primitive_name
  unfold Preview.ofSelection
  rw [hdocument, hkind]
  by_cases hlead : DataFileKind.primitivesLead s.documents
  · simp only [if_pos hlead, h.selected]
  · simp only [if_neg hlead]

end SelectsDefinition

/-! ## Both commands -/

/-- A build that finds its target, or misses only the extension, has selected a definition. If no
extension is named in front of the first primitive, the preview is that of the same definition in
the same document: it has one variant for each type of the definition, or reports that there is
none, or else that the extension is missing if the build does so. If an extension is named in front,
the preview is never that of the definition, and nothing is reported: it is what the template of
extensions makes of the document. -/
theorem buildTarget_shared_with_preview (renderer : Renderer)
    (find? : String → Option Json.Members) (defaults : Defaults) (s : Yaml.Stream)
    (offset : Nat) :
    let preview := Preview.ofSelection renderer find? defaults s offset
    (∀ target, buildTarget s offset = .ok target →
        ∃ d definition, SelectsDefinition s offset d target.primitive definition ∧
          targetExtension? definition = some target.extension ∧
          (preview = Preview.ofDefinition renderer find? defaults definition
              (Assoc.extend (declarationData d) defaults.declaration) ↔
            DataFileKind.primitivesLead s.documents) ∧
          (DataFileKind.primitivesLead s.documents →
            typesOf definition = [] ∧ preview = .error .missingType ∨
              typesOf definition ≠ [] ∧
                ∃ p, preview = .ok p ∧ p.variants.map (·.type) = typesOf definition) ∧
          (¬ DataFileKind.primitivesLead s.documents →
            preview = .ok (Preview.ofTemplate renderer "extension"
              (Assoc.extend (objectOf d.toJson) defaults.extension)))) ∧
      (buildTarget s offset = .error .missingExtension →
        (preview = .error .missingExtension ∨ preview = .error .missingType ↔
          DataFileKind.primitivesLead s.documents)) := by
  intro preview
  obtain hnothing | ⟨d, name, definition, h, hextension⟩ :=
    SelectsDefinition.buildTarget_cases s offset
  · -- without a definition that is selected both parts are about nothing
    rw [hnothing]
    exact ⟨nofun, nofun⟩
  have hpreview := h.ofSelection_eq renderer find? defaults
  obtain ⟨hnone, htarget⟩ | ⟨extension, hextension, htarget⟩ := hextension
  · rw [htarget]
    refine ⟨nofun, fun _ => ?_⟩
    -- what the preview is depends on what stands in front
    by_cases hlead : DataFileKind.primitivesLead s.documents
    · refine iff_of_true ?_ hlead
      rw [if_pos hlead] at hpreview
      by_cases htypes : typesOf definition = []
      · exact .inr (hpreview.trans (Preview.ofDefinition_of_types_eq_nil htypes))
      · exact .inl (hpreview.trans (Preview.ofDefinition_of_target_eq_none htypes hnone))
    · refine iff_of_false ?_ hlead
      rw [if_neg hlead] at hpreview
      have hok : preview = .ok _ := hpreview
      simp [hok]
  · rw [htarget]
    refine ⟨?_, nofun⟩
    rintro target ⟨⟩
    refine ⟨d, definition, h, hextension, ?_⟩
    by_cases hlead : DataFileKind.primitivesLead s.documents
    · rw [if_pos hlead] at hpreview
      refine ⟨iff_of_true hpreview hlead, fun _ => ?_, fun hnot => absurd hlead hnot⟩
      by_cases htypes : typesOf definition = []
      · exact .inl ⟨htypes, hpreview.trans (Preview.ofDefinition_of_types_eq_nil htypes)⟩
      · obtain ⟨p, hp, hvariants⟩ := Preview.exists_ofDefinition htypes hextension
        exact .inr ⟨htypes, p, hpreview.trans hp, hvariants⟩
    · rw [if_neg hlead] at hpreview
      refine ⟨iff_of_false ?_ hlead, fun hyes => absurd hyes hlead, fun _ => hpreview⟩
      -- the preview of an extension has no variants, that of a definition has some
      intro hsame
      exact Preview.variants_ne_nil_of_ofDefinition (hsame.symm.trans hpreview) rfl

/-- A file with an extension in front of a primitive. -/
def mixedStream : Yaml.Stream :=
  .ofText ("extension_name: e\n---\nprimitive_name: p\n" ++
    "definitions: [\x7btarget_extension: e, ctype: c\x7d]")

/-- The build finds its target in a file with an extension in front, and the definition has a type.
But the preview there has no variant, however it is rendered. -/
theorem extension_in_front_hides_definition :
    (buildTarget mixedStream 60).toOption = some ⟨"p", "e"⟩ ∧
      ((mixedStream.documentAt? 60).bind fun d => selectedDefinition? d.2 60).map typesOf =
        some ["c"] ∧
      ∀ renderer find? defaults, ∃ content messages,
        Preview.ofSelection renderer find? defaults mixedStream 60 =
          .ok ⟨content, [], messages⟩ := by
  have hstream : (buildTarget mixedStream 60).toOption = some ⟨"p", "e"⟩ ∧
      ((mixedStream.documentAt? 60).bind fun d => selectedDefinition? d.2 60).map typesOf =
        some ["c"] ∧
      DataFileKind.primitivesLead mixedStream.documents = false := by decide +kernel
  obtain ⟨htarget, htypes, hlead⟩ := hstream
  refine ⟨htarget, htypes, fun renderer find? defaults => ?_⟩
  obtain hnothing | ⟨d, name, definition, h, -⟩ :=
    SelectsDefinition.buildTarget_cases mixedStream 60
  · simp [hnothing, Except.toOption] at htarget
  · rw [h.ofSelection_eq renderer find? defaults, if_neg (by simp [hlead])]
    exact ⟨_, _, rfl⟩

end PrimitiveDesk

import PrimitiveDesk.Schema.Source

/-!
# Schema sources that can be read

`Schemata.ofSource` parses a source, takes the one document with content and reads its value as a
schema. It succeeds exactly if each of these steps does (`ofSource_eq_ok_iff`). With this lemma two
small sources are read that other modules use: one without entries and one that asks for a name.
-/

namespace PrimitiveDesk.Schemata

/-- `ofSource` gives a schema exactly if the parser reports no error, one document has content, and
`ofDocument` accepts its value. -/
theorem ofSource_eq_ok_iff {source : String} {s : Schemata} :
    ofSource source = .ok s ↔
      (∀ p ∈ (Yaml.Stream.ofText source).problems, p.severity ≠ .error) ∧
        ∃ d, ((Yaml.Stream.ofText source).documents.filter fun d => d.root?.isSome) = [d] ∧
          ofDocument d.toJson = .ok s := by
  unfold ofSource
  dsimp only
  split
  -- an error of the parser is reported before any document is looked at
  · next p hp =>
    have hmem := List.mem_of_find?_eq_some hp
    have herror : p.severity = .error := by simpa using List.find?_some hp
    simp only [reduceCtorEq, false_iff]
    exact fun h => h.1 p hmem herror
  · next hnone =>
    have hproblems : ∀ p ∈ (Yaml.Stream.ofText source).problems, p.severity ≠ .error := by
      simpa using hnone
    rw [and_iff_right hproblems]
    split
    · next hdocuments => simp [hdocuments]
    · next d hdocuments => simp [hdocuments]
    · next ds _ hone =>
      simp only [reduceCtorEq, false_iff]
      rintro ⟨d, hd, -⟩
      exact hone d hd

/-- A source is read by a test on the value of its document: values cannot be compared by
evaluation, but the test can be evaluated. -/
private theorem ofSource_of_test {source : String} {test : Json → Bool} {s : Schemata}
    (hproblems : (Yaml.Stream.ofText source).problems.isEmpty = true)
    (hdocuments : ((Yaml.Stream.ofText source).documents.filter fun d =>
      d.root?.isSome).map (fun d => test d.toJson) = [true])
    (htest : ∀ j, test j = true → ofDocument j = .ok s) : ofSource source = .ok s := by
  obtain ⟨d, hd, hjson⟩ := List.map_eq_singleton_iff.mp hdocuments
  refine ofSource_eq_ok_iff.mpr ⟨?_, d, hd, htest _ hjson⟩
  simp [List.isEmpty_iff.mp hproblems]

/-! ## A source without entries -/

/-- A schema source without entries. -/
def plainSource : String := "primitive_class: {}\nprimitive: {}\nextension: {}\n"

/-- Whether a value describes the three levels, each without entries. -/
def isPlain : Json → Bool
  | .obj [(a, .obj []), (b, .obj []), (c, .obj [])] =>
    a = "primitive_class" ∧ b = "primitive" ∧ c = "extension"
  | _ => false

/-- `ofDocument` reads three empty levels. -/
private theorem ofDocument_of_isPlain {j : Json} (h : isPlain j = true) :
    ofDocument j = .ok ⟨[], [], []⟩ := by
  unfold isPlain at h
  split at h
  · obtain ⟨rfl, rfl, rfl⟩ := of_decide_eq_true h
    simp [ofDocument, topLevel, Json.get?, Json.members?, Assoc.find?, Shape.ofSections,
      SchemaNode.ofLevel, SchemaNode.sections, bind, Except.bind, pure, Except.pure]
  · cases h

/-- `plainSource` describes three empty levels. -/
theorem ofSource_plainSource : ofSource plainSource = .ok ⟨[], [], []⟩ :=
  ofSource_of_test (by decide +kernel) (by decide +kernel) fun _ =>
    ofDocument_of_isPlain

/-! ## A source that asks for a name -/

/-- A schema source that asks for a name in the class of primitives. -/
def nameSource : String :=
  "primitive_class: \x7brequired: \x7bname: \x7d\x7d\nprimitive: \x7b\x7d\nextension: \x7b\x7d\n"

/-- What `nameSource` describes. -/
def nameSchemata : Schemata := ⟨[], [], [("name", .scalar (.bare .required) .any)]⟩

/-- Whether a value describes three levels, of which one asks for a name. -/
def asksForName : Json → Bool
  | .obj [(a, .obj [(b, .obj [(c, .null)])]), (e, .obj []), (f, .obj [])] =>
    a = "primitive_class" ∧ b = "required" ∧ c = "name" ∧ e = "primitive" ∧ f = "extension"
  | _ => false

/-- `ofDocument` reads the level that asks for a name. -/
private theorem ofDocument_of_asksForName {j : Json} (h : asksForName j = true) :
    ofDocument j = .ok nameSchemata := by
  unfold asksForName at h
  split at h
  · obtain ⟨rfl, rfl, rfl, rfl, rfl⟩ := of_decide_eq_true h
    simp [ofDocument, topLevel, Json.get?, Json.members?, Assoc.find?, Shape.ofSections,
      SchemaNode.ofLevel, SchemaNode.sections, SchemaNode.specFields, SchemaNode.ofSpec,
      Cardinality.ofSection?, Assoc.set, nameSchemata, bind, Except.bind, pure, Except.pure]
  · cases h

/-- `nameSource` describes `nameSchemata`. -/
theorem ofSource_nameSource : ofSource nameSource = .ok nameSchemata :=
  ofSource_of_test (by decide +kernel) (by decide +kernel) fun _ =>
    ofDocument_of_asksForName

end PrimitiveDesk.Schemata

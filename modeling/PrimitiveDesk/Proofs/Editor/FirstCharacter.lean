import PrimitiveDesk.Proofs.Editor.FindingSites
import PrimitiveDesk.Proofs.Text.LinePositions
import PrimitiveDesk.Proofs.Yaml.MappingStarts

/-!
# Where missing fields are reported

A missing field is reported at the first byte of its mapping. The mapping starts with a character
that is no blank, wherever it stands, so the report is on one line. It covers that character if the
character takes one byte. Otherwise the report ends inside of the character, where an editor is told
the number of bytes in front of it on the line, as if these were units.

The mappings that the levels of a schema lead to are in the document or merged into it
(`Finding.Reaches.mappingsAt`), and a finding of `Finding.check` about a missing field is about one
of them (`Finding.exists_about`).
-/

namespace PrimitiveDesk

open Text Yaml

/-! ## The first byte of a character -/

/-- The span is that of a character: it ends at the boundary behind its start, and in an editor it
lies on one line and is as long as the character in units of UTF-16. -/
structure Span.IsCharacter (text : String) (c : Char) (s : Span) : Prop where
  stop_eq : s.stop = nextBoundary text.toList s.start
  line_eq : ((LineIndex.ofText text).range s).2.line = ((LineIndex.ofText text).range s).1.line
  length_eq : ((LineIndex.ofText text).range s).2.character =
    ((LineIndex.ofText text).range s).1.character + unitsOf c

/-- `nextBoundary` at the start of a character is the end of that character. -/
private theorem Text.nextBoundary_byteOffset {cs rest : List Char} {n : Nat} {c : Char}
    (h : cs.drop n = c :: rest) :
    nextBoundary cs (byteOffset cs n) = byteOffset cs n + c.utf8Size := by
  unfold nextBoundary
  rw [dropBytes?_byteOffset, h]

/-- A character of one byte has one unit. -/
private theorem Text.unitsOf_eq_one {c : Char} (h : c.utf8Size = 1) : unitsOf c = 1 := by
  have hone := one_le_unitsOf c
  have hsize := unitsOf_le_utf8Size c
  omega

namespace LineIndex

variable {ix : LineIndex} {o i : Nat} {front back : List Char} {c : Char}

/-- `LineIndex.range` shows the first byte of a character as the character if there is no other
byte, and up to the number of bytes in front of its end otherwise. -/
theorem Cuts.range_firstByte (h : ix.Cuts o i front (c :: back)) :
    ix.range ⟨o, o + 1⟩ = (⟨i, units front⟩,
      ⟨i, if c.utf8Size = 1 then units front + 1 else byteLength front + 1⟩) := by
  have hstop : ix.position (o + 1) =
      ⟨i, if c.utf8Size = 1 then units front + 1 else byteLength front + 1⟩ := by
    -- a character of one byte ends at the offset; a longer one has the offset inside of it
    by_cases hsize : c.utf8Size = 1
    · have hnext : ix.Cuts (o + 1) i (front ++ [c]) back := by
        refine ⟨by rw [List.append_assoc]; exact h.line, ?_⟩
        rw [h.offset, byteLength_append, byteLength, byteLength, hsize]
        omega
      rw [hnext.position_eq, if_pos hsize, units_append, units, units, unitsOf_eq_one hsize]
    · have hlarge : 1 < c.utf8Size := by
        have hpos := c.utf8Size_pos
        omega
      rw [h.position_inside Nat.one_pos hlarge, if_neg hsize]
  rw [range, h.position_eq, hstop]

end LineIndex

/-- The first byte of a character is the whole character only if there is no other byte. -/
private theorem Span.isCharacter_firstByte {text : String} {n i : Nat} {c : Char}
    {front back rest : List Char} (hdrop : text.toList.drop n = c :: rest)
    (hcuts : (LineIndex.ofText text).Cuts (byteOffset text.toList n) i front (c :: back)) :
    Span.IsCharacter text c ⟨byteOffset text.toList n, byteOffset text.toList n + 1⟩ ↔
      c.utf8Size = 1 := by
  have hnext := nextBoundary_byteOffset hdrop
  constructor
  · intro h
    -- the character ends where the next boundary is
    have hstop : byteOffset text.toList n + 1 = byteOffset text.toList n + c.utf8Size :=
      h.stop_eq.trans hnext
    omega
  · intro hsize
    have hrange := hcuts.range_firstByte
    rw [if_pos hsize] at hrange
    refine ⟨?_, ?_, ?_⟩
    · rw [hnext, hsize]
    · rw [hrange]
    · rw [hrange, unitsOf_eq_one hsize]

namespace Finding

/-! ## Reached mappings -/

variable {P : Nat → Prop}

/-- A node inside of a value has its mappings where the value has them. -/
private theorem Inside.mappingsAt {field : SchemaNode} {value m : Node} {item? : Option Nat}
    {nested : Shape} (h : Inside field value item? m nested) (hvalue : value.MappingsAt P) :
    m.MappingsAt P := by
  cases h with
  | object hshape => exact hvalue
  | entry helement hitems hitem =>
    cases value with
    | scalar v s => cases hitems
    | mapping entries s => cases hitems
    | sequence items s =>
      cases hitems
      exact hvalue.of_mem_items (List.mem_of_getElem? hitem)

/-- What is reached from a node is in it, or in a mapping that it merges. -/
theorem Reaches.mappingsAt {n m : Node} {level nested : Shape} {route : List Step}
    (h : Reaches n level route m nested) (hn : n.MappingsAt P) : m.MappingsAt P := by
  induction h with
  | here n level => exact hn
  | step hstep _ ih =>
    obtain ⟨-, hvalue, hinside⟩ := hstep
    exact ih (hinside.mappingsAt (Node.MappingsAt.get? _ hn hvalue))

/-! ## Missing fields -/

/-- The finding is what a field of the mapping reports, in one of the documents. -/
def About (stream : Stream) (kind : DataFileKind) (s : Schemata) (f : Finding) (n : Node) : Prop :=
  ∃ i d shape root σ, stream.documents[i]? = some d ∧ s.levelOf? kind i = some shape ∧
    d.root? = some root ∧ IsSite root shape σ ∧ σ.Reports f ∧ σ.mapping = n

/-- The finding is about a missing field. -/
def IsMissing (f : Finding) : Prop :=
  f.code = "KEY_ERROR" ∨ f.code = "KEY_WARNING"

/-- A problem of the reader is not about a missing field. -/
private theorem not_isMissing_ofProblem (p : Problem) : ¬ (ofProblem p).IsMissing := by
  obtain ⟨kind, span⟩ := p
  unfold IsMissing
  cases kind with
  | scan e => simp [ofProblem, code, Problem.code]
  | unknownAlias => simp [ofProblem, code, Problem.code]
  | duplicateKey name => simp [ofProblem, code, Problem.code]

/-- A missing field is reported at the first byte of its mapping. -/
private theorem Site.Reports.span_eq {σ : Site} {f : Finding} (h : σ.Reports f) (hf : f.IsMissing) :
    f.span = ⟨σ.mapping.span.start, σ.mapping.span.start + 1⟩ := by
  cases h with
  | missingRequired => rfl
  | missingRecommended => rfl
  | setToDefault => simp [IsMissing, code] at hf

/-- A finding of `check` about a missing field is about a mapping in a document. -/
theorem exists_about {stream : Stream} {kind : DataFileKind} {schemata? : Option Schemata}
    {f : Finding} (h : f ∈ check stream kind schemata?) (hf : f.IsMissing) :
    ∃ s n, schemata? = some s ∧ f.About stream kind s n := by
  unfold check at h
  -- `check` lists the problems of the reader first, then what the levels report
  rcases List.mem_append.mp h with hproblem | hlevel
  · obtain ⟨p, -, rfl⟩ := List.mem_map.mp hproblem
    exact absurd hf (not_isMissing_ofProblem p)
  · cases schemata? with
    | none => cases hlevel
    | some s =>
      obtain ⟨⟨d, i⟩, hd, hfinding⟩ := List.mem_flatMap.mp hlevel
      have hdocument : stream.documents[i]? = some d := List.mem_zipIdx_iff_getElem?.mp hd
      dsimp only at hfinding
      split at hfinding
      · next shape root hshape hroot =>
        obtain ⟨sites, -, hmem, hreports⟩ := lists_ofLevel root shape
        obtain ⟨σ, hσ, hreport⟩ := exists_of_mem_of_forall₂ hreports.flip hfinding
        exact ⟨s, σ.mapping, rfl, i, d, shape, root, σ, hdocument, hshape, hroot,
          ((hmem σ).mp hσ).1, hreport, rfl⟩
      · cases hfinding

/-- The mapping with the missing field starts with a character that is no blank. -/
theorem About.startsWord {text : String} {kind : DataFileKind} {s : Schemata} {f : Finding}
    {n : Node} (h : f.About (Stream.ofText text) kind s n) :
    StartsWord text.toList n.span.start := by
  obtain ⟨i, d, shape, root, σ, hd, -, hroot, ⟨level, hreaches, hmapping, -⟩, -, rfl⟩ := h
  have hall := Stream.mappingsAt_ofText text d (List.mem_of_getElem? hd) root hroot
  exact hreaches.mappingsAt hall [] σ.mapping rfl hmapping

/-- A finding about a missing field spans the first byte of the mapping that lacks it. Its mapping
starts with a character that is no blank, and the finding is on the line of that character. It is
the span of the character if and only if the character takes one byte; otherwise it ends inside of
the character, where an editor is told to count bytes. -/
theorem isCharacter_iff (text : String) (kind : DataFileKind) (schemata? : Option Schemata)
    (f : Finding) (h : f ∈ check (Stream.ofText text) kind schemata?)
    (hf : f.code = "KEY_ERROR" ∨ f.code = "KEY_WARNING") :
    ∃ s n, schemata? = some s ∧ f.About (Stream.ofText text) kind s n ∧
      f.span = ⟨n.span.start, n.span.start + 1⟩ ∧
      ∃ line front c back,
        (LineIndex.ofText text).Cuts n.span.start line front (c :: back) ∧
        isWhite c = false ∧ isBreak c = false ∧
        (LineIndex.ofText text).range f.span = (⟨line, units front⟩,
          ⟨line, if c.utf8Size = 1 then units front + 1 else byteLength front + 1⟩) ∧
        (f.span.IsCharacter text c ↔ c.utf8Size = 1) := by
  obtain ⟨s, n, hschemata, habout⟩ := exists_about h hf
  have hspan : f.span = ⟨n.span.start, n.span.start + 1⟩ := by
    obtain ⟨i, d, shape, root, σ, -, -, -, -, hreport, rfl⟩ := habout
    exact hreport.span_eq hf
  refine ⟨s, n, hschemata, habout, hspan, ?_⟩
  obtain ⟨k, hstart, hword⟩ := habout.startsWord
  rw [hspan, hstart]
  cases hdrop : text.toList.drop k with
  | nil =>
    rw [hdrop] at hword
    cases hword
  | cons c rest =>
    rw [hdrop, endsWord, Bool.or_eq_false_iff] at hword
    -- a line feed is a break, so the character stands on a line
    have hfeed : c ≠ '\n' := by
      rintro rfl
      simp [isBreak] at hword
    obtain ⟨line, front, back, hcuts⟩ := LineIndex.exists_cuts_cons hdrop hfeed
    exact ⟨line, front, c, back, hcuts, hword.1, hword.2, hcuts.range_firstByte,
      Span.isCharacter_firstByte hdrop hcuts⟩

/-- The name of an extension is required. -/
def namedExtension : Schemata :=
  ⟨[("name", .scalar (.bare .required) .string)], [], []⟩

/-- Where the root of a document starts, if it is a mapping without a name. -/
def namelessAt? (d : Document) : Option Nat :=
  match d.root? with
  | some (.mapping entries span) =>
    if ((Node.mapping entries span).get? "name").isNone then some span.start else none
  | _ => none

/-- `check` reports the missing name of a mapping without a name. -/
private theorem mem_check_of_namelessAt? {text : String} {o : Nat}
    (h : (Stream.ofText text).documents.map namelessAt? = [some o]) :
    ⟨.missingRequired "name", ⟨o, o + 1⟩⟩ ∈
      check (Stream.ofText text) .extension (some namedExtension) := by
  obtain ⟨d, hd, hstart⟩ := List.map_eq_singleton_iff.mp h
  unfold namelessAt? at hstart
  split at hstart
  · next entries span hroot =>
    obtain ⟨hnone, hstart⟩ := Option.ite_none_right_eq_some.mp hstart
    cases hstart
    have hget := Option.isNone_iff_eq_none.mp hnone
    refine List.mem_append_right _ ?_
    simp [Schemata.findings, Schemata.levelOf?, namedExtension, hd, hroot, ofLevel, ofField, hget,
      ofAbsent, startOf, Node.span, SchemaNode.isRequired, SchemaNode.info, FieldInfo.bare,
      Cardinality.required]
  · cases hstart

/-- Behind an anchor with a character of two bytes, the finding still covers the brace. -/
theorem isCharacter_anchored :
    let text := "&ä \x7bb: 1\x7d\n"
    let f : Finding := ⟨.missingRequired "name", ⟨4, 5⟩⟩
    f ∈ check (Stream.ofText text) .extension (some namedExtension) ∧ f.code = "KEY_ERROR" ∧
      (LineIndex.ofText text).range f.span = (⟨0, 3⟩, ⟨0, 4⟩) ∧
      f.span.IsCharacter text '\x7b' := by
  intro text f
  have hf : f ∈ check (Stream.ofText text) .extension (some namedExtension) :=
    mem_check_of_namelessAt? (by decide +kernel)
  refine ⟨hf, rfl, by decide, ?_⟩
  obtain ⟨s, n, -, -, hspan, line, front, c, back, hcuts, -, -, -, hiff⟩ :=
    isCharacter_iff text .extension (some namedExtension) f hf (Or.inl rfl)
  have hstart : n.span.start = 4 := (congrArg Span.start hspan).symm
  rw [hstart] at hcuts
  -- the character behind the fourth byte of the only line is the brace
  have hposition : (⟨0, 3⟩ : Position) = ⟨line, units front⟩ :=
    Eq.trans (by decide) hcuts.position_eq
  obtain ⟨rfl, -⟩ := Position.mk.inj hposition
  have hline : front ++ c :: back = "&ä \x7bb: 1\x7d".toList :=
    Option.some.inj (hcuts.line.symm.trans (by decide))
  have hfront : byteLength front = 4 := by simpa [LineIndex.lineStart] using hcuts.offset.symm
  have hbehind := dropBytes?_append front (c :: back)
  rw [hline, hfront] at hbehind
  have hbrace : c :: back = "\x7bb: 1\x7d".toList :=
    Option.some.inj (hbehind.symm.trans (by decide))
  obtain ⟨rfl, -⟩ := List.cons.inj hbrace
  exact hiff.mpr (by decide)

/-- A character of four bytes and two units: the finding ends inside of it. -/
theorem wide_character_cut :
    let text := "𝄞: 1\n"
    ∃ f ∈ check (Stream.ofText text) .extension (some namedExtension),
      f.code = "KEY_ERROR" ∧ f.span = ⟨0, 1⟩ ∧ nextBoundary text.toList 0 = 4 ∧
      (LineIndex.ofText text).range f.span = (⟨0, 0⟩, ⟨0, 1⟩) ∧ unitsOf '𝄞' = 2 :=
  ⟨_, mem_check_of_namelessAt? (by decide +kernel), rfl, rfl, by decide, by decide, by decide⟩

end Finding

end PrimitiveDesk

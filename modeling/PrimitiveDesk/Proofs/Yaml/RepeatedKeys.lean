import PrimitiveDesk.Proofs.Yaml.EveryNode
import PrimitiveDesk.Proofs.Yaml.MergeKeys

/-!
# Repeated keys

The builder compares the keys of a mapping by their texts, which null and collections do not have.
The members of the value go by names, and there every key has one: null has the name that it is
written with, and a collection has its JSON text. So a mapping in which no repetition was reported
still loses an entry if such a key has the name of another key (`Stream.toJson_of_not_reported`,
`Stream.null_key_lost`).

`Node.toJson` keeps the entries of a mapping if and only if their names differ
(`Node.toJson_eq_obj_iff`). That keys which repeat a text are reported is a property of every node
that the builder makes (`Builder.reported_run`).
-/

namespace PrimitiveDesk.Yaml

open Assoc

/-! ## The members of a mapping -/

namespace Node

/-- The name of a key among the members of the value. -/
def name : Node → String
  | scalar v _ => v.text
  | n => n.toJson.compact

/-- The entries of a mapping that do not merge. -/
def own (entries : Entries) : Entries :=
  entries.filter fun e => !e.1.isMergeKey

/-- One member for each entry that does not merge. -/
def ownMembers (entries : Entries) : Json.Members :=
  (own entries).map fun e => (e.1.name, e.2.toJson)

/-- A key that has a text has it as its name. -/
private theorem name_of_str? {k : Node} {text : String} (h : k.str? = some text) :
    k.name = text := by
  cases k with
  | scalar v s => exact text_of_str? h
  | sequence items s => cases h
  | mapping entries s => cases h

/-- `membersOf` has one member for each entry. -/
private theorem membersOf_eq_map (entries : Entries) :
    membersOf entries = entries.map fun e => ⟨e.1.isMergeKey, e.1.name, e.2.toJson⟩ := by
  induction entries with
  | nil => rfl
  | cons e rest ih =>
    obtain ⟨k, v⟩ := e
    rw [List.map_cons, ← ih]
    cases k with
    | scalar w s => rfl
    | sequence items s => rfl
    | mapping entries s => rfl

/-- `toJson` has the entries that do not merge, with the last value of each name, then what only the
merged mappings bring in. -/
private theorem toJson_mapping_eq (entries : Entries) (s : Span) :
    (mapping entries s).toJson = .obj (ofList (ownMembers entries) ++
      without (ownMembers entries) (firsts (mergedMembers (membersOf entries)))) := by
  have hown : ((membersOf entries).filter fun m => !m.merges).map (fun m => (m.name, m.value)) =
      ownMembers entries := by
    rw [membersOf_eq_map, List.filter_map, List.map_map]
    rfl
  -- the last value of each name is kept, so that the names are the same
  have hnames : ∀ name,
      Assoc.has (ofList (ownMembers entries)) name = Assoc.has (ownMembers entries) name := by
    intro name
    rw [Bool.eq_iff_iff, has_iff_mem_names, has_iff_mem_names, names_ofList, mem_names_firsts]
  unfold toJson assemble
  rw [hown, foldl_extend, extend_eq, without_congr hnames]
  rfl

/-- `toJson` of a mapping has one member for each entry that does not merge, with the value of that
entry, if and only if these entries have different names. -/
theorem toJson_eq_obj_iff (entries : Entries) (s : Span) :
    (mapping entries s).toJson = .obj (ownMembers entries ++
        without (ownMembers entries) (firsts (mergedMembers (membersOf entries)))) ↔
      (own entries).Pairwise fun e e' => e.1.name ≠ e'.1.name := by
  have hnodup : (names (ownMembers entries)).Nodup ↔
      (own entries).Pairwise fun e e' => e.1.name ≠ e'.1.name := by
    rw [names, ownMembers, List.map_map, List.Nodup, List.pairwise_map]
    rfl
  rw [← hnodup, toJson_mapping_eq]
  constructor
  · intro h
    have hmembers := List.append_cancel_right (Json.obj.inj h)
    rw [← hmembers, names_ofList]
    exact nodup_names_firsts _
  · intro h
    rw [ofList_of_nodup h]

/-! ## Reports -/

/-- Every entry whose key repeats the text of an earlier one is reported. -/
def Reported (ps : List Problem) (entries : Entries) : Prop :=
  entries.Pairwise fun e e' => ∀ text, e.1.str? = some text → e'.1.str? = some text →
    ⟨.duplicateKey text, e'.1.span⟩ ∈ ps

private theorem Reported.mono {ps ps' : List Problem} {entries : Entries}
    (h : Reported ps entries) (hsub : ps ⊆ ps') : Reported ps' entries :=
  List.Pairwise.imp (fun he text htext htext' => hsub (he text htext htext')) h

end Node

/-- The finished entries of an open mapping, in order. -/
def Open.entries : Open → Node.Entries
  | sequence _ _ _ _ _ => []
  | mapping _ _ _ _ entries _ => entries.reverse

namespace Builder

variable {b : Builder}

/-- `addEntry` reports an entry whose key repeats a text. -/
private theorem reported_addEntry {entries : Node.Entries}
    (h : Node.Reported b.problems entries.reverse) (key value : Node) :
    Node.Reported (b.addEntry entries key value).1.problems
      (b.addEntry entries key value).2.reverse := by
  -- the entries so far stay reported, so only the new one is compared with them
  have hlast (ps : List Problem) (hnew : ∀ e ∈ entries, ∀ text, e.1.str? = some text →
      key.str? = some text → ⟨.duplicateKey text, key.span⟩ ∈ ps ++ b.problems) :
      Node.Reported (ps ++ b.problems) ((key, value) :: entries).reverse := by
    rw [List.reverse_cons]
    refine List.pairwise_append.mpr ⟨h.mono (List.subset_append_right _ _),
      List.pairwise_singleton _ _, ?_⟩
    intro e he e' he'
    rw [List.mem_singleton.mp he']
    exact hnew e (List.mem_reverse.mp he)
  unfold addEntry
  cases hkey : key.str? with
  | none =>
    refine hlast [] fun e he text _ htext => ?_
    rw [hkey] at htext
    cases htext
  | some text =>
    dsimp only
    split
    · refine hlast [⟨.duplicateKey text, key.span⟩] fun e he text' _ htext => ?_
      rw [hkey] at htext
      cases htext
      exact List.mem_cons_self
    · next hany =>
      refine hlast [] fun e he text' htext htext' => ?_
      rw [hkey] at htext'
      cases htext'
      exact absurd (List.any_eq_true.mpr ⟨e, he, by simp [htext]⟩) hany

/-- Repetitions are reported in every node that the builder makes, whatever the events are. -/
private theorem eachNode_reported (cs : List Char) : EachNode cs (fun _ => True)
    (fun ps n => ∀ entries s, n = .mapping entries s → Node.Reported ps entries)
    (fun ps o => Node.Reported ps o.entries) where
  report _ h entries s hn := (h entries s hn).mono (List.subset_append_right _ _)
  reportOpen _ h := h.mono (List.subset_append_right _ _)
  scalar _ _ := nofun
  copy {ps n anchor x} _ h := by
    -- the keys of a copy keep their spans
    cases n with
    | mapping entries s =>
      rintro _ _ ⟨⟩
      exact h entries s rfl
    | _ => nofun
  openSequence _ _ := .nil
  openMapping _ _ := .nil
  give {b o} n h := by
    cases o with
    | sequence start flow anchor stop items => exact .nil
    | mapping start flow anchor stop entries key? =>
      cases key? with
      | none => exact h
      | some key => exact reported_addEntry h key n
  close {b o} close? hwaiting h := by
    cases o with
    | sequence start flow anchor stop items => nofun
    | mapping start flow anchor stop entries key? =>
      have hkey : key? = none := hwaiting
      subst hkey
      rintro _ _ ⟨⟩
      exact h

/-- Keys that repeat a text are reported, in every mapping of the documents of `run`. -/
theorem reported_run (cs : List Char) (events : List Event) {d : Document} {root : Node}
    {address : List Nat} {entries : Node.Entries} {s : Span} (hd : d ∈ (run cs events).documents)
    (hroot : d.root? = some root) (hpart : root.part? address = some (.mapping entries s)) :
    Node.Reported (run cs events).problems entries :=
  (eachNode_reported cs).run (fun _ _ => trivial) d hd root hroot address _ hpart entries s rfl

end Builder

namespace Stream

/-- The mapping stands somewhere in a document, maybe in what an alias copies. -/
def HasMapping (stream : Stream) (entries : Node.Entries) (s : Span) : Prop :=
  ∃ d ∈ stream.documents, ∃ root address, d.root? = some root ∧
    root.part? address = some (.mapping entries s)

/-- Suppose that no repetition is reported for the keys of a mapping. Its value then has exactly one
member for each entry that does not merge, with the value of that entry, and the members that only
merged mappings bring in, if and only if no null or collection among its keys has the name of
another key. -/
theorem toJson_of_not_reported (text : String) (events : List Event) (problems : List Problem)
    {entries : Node.Entries} {s : Span}
    (hmapping : (ofEvents text events problems).HasMapping entries s)
    (hreport : ∀ e ∈ entries, ∀ name, e.1.str? = some name →
      ⟨.duplicateKey name, e.1.span⟩ ∉ (ofEvents text events problems).problems) :
    (Node.mapping entries s).toJson = .obj (Node.ownMembers entries ++
        without (Node.ownMembers entries)
          (firsts (Node.mergedMembers (Node.membersOf entries)))) ↔
      (Node.own entries).Pairwise fun e e' =>
        e.1.str? = none ∨ e'.1.str? = none → e.1.name ≠ e'.1.name := by
  -- the mapping is one of those that the builder has finished
  have hreported : Node.Reported (ofEvents text events problems).problems entries := by
    obtain ⟨d, hd, root, address, hroot, hpart⟩ := hmapping
    rw [ofEvents_eq_run] at hd ⊢
    refine (Builder.reported_run text.toList events (List.mem_reverse.mp hd) hroot hpart).mono ?_
    intro p hp
    exact List.mem_append_right _ (List.mem_reverse.mpr hp)
  rw [Node.toJson_eq_obj_iff]
  constructor
  · intro h
    refine h.imp ?_
    intro e e' hne _
    exact hne
  · intro h
    -- of two keys with a text the later one would be reported
    have hown : (Node.own entries).Pairwise fun e e' => ∀ text, e.1.str? = some text →
        e'.1.str? = some text → False := by
      refine (hreported.sublist List.filter_sublist).imp_of_mem ?_
      intro e e' _ he' hpair name hname hname'
      exact hreport e' (List.mem_of_mem_filter he') name hname' (hpair name hname hname')
    refine (h.and hown).imp ?_
    rintro e e' ⟨htextless, htext⟩ hname
    cases hstr : e.1.str? with
    | none => exact htextless (Or.inl hstr) hname
    | some name =>
      cases hstr' : e'.1.str? with
      | none => exact htextless (Or.inr hstr') hname
      | some name' =>
        rw [Node.name_of_str? hstr, Node.name_of_str? hstr'] at hname
        exact htext name hstr (by rw [hstr', hname])

/-- A mapping with the key null that merges another mapping: `{~: 1, a: 2, <<: {a: 3, b: 4}}`. -/
def nullKeyText : String := "\x7b~: 1, a: 2, <<: \x7ba: 3, b: 4\x7d\x7d"

/-- The events of `nullKeyText`. -/
def nullKeyEvents : List Event :=
  let extent (start stop : Nat) : Extent := ⟨⟨start, 1, start⟩, ⟨stop, 1, stop⟩⟩
  let scalar (text : String) (start stop : Nat) : Event :=
    ⟨.scalar text .plain 0, extent start stop⟩
  [⟨.documentStart, extent 0 0⟩, ⟨.mappingStart 0, extent 0 1⟩,
    scalar "~" 1 2, scalar "1" 4 5, scalar "a" 7 8, scalar "2" 10 11, scalar "<<" 13 15,
    ⟨.mappingStart 0, extent 17 18⟩, scalar "a" 18 19, scalar "3" 21 22, scalar "b" 24 25,
    scalar "4" 27 28, ⟨.mappingEnd, extent 28 29⟩, ⟨.mappingEnd, extent 29 30⟩,
    ⟨.documentEnd, extent 30 30⟩]

/-- The entries of the outer mapping. -/
def nullKeyEntries : Node.Entries :=
  [(.plain "~" ⟨1, 2⟩, .plain "1" ⟨4, 5⟩), (.plain "a" ⟨7, 8⟩, .plain "2" ⟨10, 11⟩),
    (.plain "<<" ⟨13, 15⟩, .mapping
      [(.plain "a" ⟨18, 19⟩, .plain "3" ⟨21, 22⟩), (.plain "b" ⟨24, 25⟩, .plain "4" ⟨27, 28⟩)]
      ⟨17, 29⟩)]

/-- The names `~` and `a` differ, and `b` comes in by the merge. -/
theorem toJson_nullKeyEntries :
    (ofEvents nullKeyText nullKeyEvents []).HasMapping nullKeyEntries ⟨0, 30⟩ ∧
      (ofEvents nullKeyText nullKeyEvents []).problems = [] ∧
      names (Node.ownMembers nullKeyEntries) = ["~", "a"] ∧
      (Node.mapping nullKeyEntries ⟨0, 30⟩).toJson = .obj (Node.ownMembers nullKeyEntries ++
        without (Node.ownMembers nullKeyEntries)
          (firsts (Node.mergedMembers (Node.membersOf nullKeyEntries)))) := by
  have hstream : ofEvents nullKeyText nullKeyEvents [] =
      ⟨[⟨some (.mapping nullKeyEntries ⟨0, 30⟩), ⟨0, 30, 30⟩⟩], []⟩ := rfl
  have hmapping : (ofEvents nullKeyText nullKeyEvents []).HasMapping nullKeyEntries ⟨0, 30⟩ := by
    rw [hstream]
    exact ⟨_, List.mem_cons_self, _, [], rfl, rfl⟩
  have hkeeps := (toJson_of_not_reported nullKeyText nullKeyEvents [] hmapping
    (by simp [hstream])).mpr (by decide)
  exact ⟨hmapping, by rw [hstream], by decide, hkeeps⟩

/-- Two null keys are not reported, and the value of the first one is lost. -/
theorem null_key_lost :
    (ofText "~: 1\n~: 2\n").problems = [] ∧
      (ofText "~: 1\n~: 2\n").documents.map (fun d =>
        (d.root?.bind Node.entries?).map fun entries => names (Node.ownMembers entries)) =
          [some ["~", "~"]] ∧
      (ofText "~: 1\n~: 2\n").documents.map (fun d => d.toJson.compact) =
        ["\x7b\"~\":2\x7d"] := by
  decide +kernel

end Stream

end PrimitiveDesk.Yaml

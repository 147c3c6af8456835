import PrimitiveDesk.Proofs.Assoc.Firsts
import PrimitiveDesk.Yaml.Node

/-!
# Merge keys

A mapping offers its own entries and, behind them, what the mappings that it merges offer, which may
merge others in turn. Both views of a mapping are read off this list: `get?` gives the first offer
of a key (`get?_eq_find?_offers`), and the value of the mapping by `toJson` has the first offer of
each key (`firsts_memberList_toJson`). So the two views agree, and the order of the members is known
(`toJson_of_wellKeyed`).
-/

namespace PrimitiveDesk.Yaml.Node

open Assoc

/-! ## Offers -/

/-- The entries of a mapping that do not merge, by the texts of their keys. -/
def explicit (entries : Entries) : List (String × Node) :=
  entries.filterMap fun e =>
    if e.1.isMergeKey then none else e.1.str?.map fun name => (name, e.2)

mutual

/-- What a mapping offers, in order of precedence: its own entries, then what the mappings that it
merges offer. -/
def offers : Node → List (String × Node)
  | mapping entries _ => explicit entries ++ mergedOffers entries
  | _ => []

/-- What the mappings offer that the entries merge: one mapping for an entry, or a sequence of
them. -/
def mergedOffers : Entries → List (String × Node)
  | [] => []
  | (k, v) :: rest =>
    if isMergeKey k then
      (match v with
        | sequence items _ => itemOffers items
        | v => offers v) ++ mergedOffers rest
    else mergedOffers rest

/-- What the mappings in a sequence offer. -/
def itemOffers : List Node → List (String × Node)
  | [] => []
  | n :: rest => offers n ++ itemOffers rest

end

/-- The keys that do not merge are scalars other than null, with pairwise different texts. -/
def DistinctKeys (entries : Entries) : Prop :=
  (∀ e ∈ entries, e.1.isMergeKey = false → e.1.str?.isSome = true) ∧
    (names (explicit entries)).Nodup

instance (entries : Entries) : Decidable (DistinctKeys entries) :=
  inferInstanceAs (Decidable (_ ∧ _))

mutual

/-- Every mapping in the node has distinct keys. -/
def wellKeyed : Node → Bool
  | scalar _ _ => true
  | sequence items _ => itemsWellKeyed items
  | mapping entries _ => decide (DistinctKeys entries) && entriesWellKeyed entries

/-- Every mapping in the items of a sequence has distinct keys. -/
def itemsWellKeyed : List Node → Bool
  | [] => true
  | n :: rest => wellKeyed n && itemsWellKeyed rest

/-- Every mapping in the entries of a mapping has distinct keys. -/
def entriesWellKeyed : Entries → Bool
  | [] => true
  | (k, v) :: rest => wellKeyed k && wellKeyed v && entriesWellKeyed rest

end

/-! ## Looking up a key -/

/-- The text of a key that merges is `<<`. -/
private theorem str?_of_isMergeKey {k : Node} (h : k.isMergeKey = true) : k.str? = some "<<" := by
  cases k with
  | scalar v s =>
    obtain ⟨text, kind⟩ := v
    simp only [isMergeKey, Bool.and_eq_true, beq_iff_eq] at h
    obtain ⟨rfl, rfl⟩ := h
    rfl
  | sequence items s => cases h
  | mapping entries s => cases h

private theorem explicit_cons_of_isMergeKey {k : Node} (h : k.isMergeKey = true) (v : Node)
    (rest : Entries) : explicit ((k, v) :: rest) = explicit rest :=
  List.filterMap_cons_none (if_pos h)

private theorem explicit_cons_of_none {k : Node} (hmerge : k.isMergeKey = false)
    (hstr : k.str? = none) (v : Node) (rest : Entries) :
    explicit ((k, v) :: rest) = explicit rest :=
  List.filterMap_cons_none (by simp [hmerge, hstr])

private theorem explicit_cons_of_some {k : Node} {name : String} (hmerge : k.isMergeKey = false)
    (hstr : k.str? = some name) (v : Node) (rest : Entries) :
    explicit ((k, v) :: rest) = (name, v) :: explicit rest :=
  List.filterMap_cons_some (by simp [hmerge, hstr])

/-- `written?` passes over an entry with another key. -/
private theorem written?_cons_of_ne {key : String} {k : Node} (h : k.str? ≠ some key) (v : Node)
    (rest : Entries) : written? ((k, v) :: rest) key = written? rest key := by
  rw [written?, List.find?_cons_of_neg (by simpa using h), written?]

/-- `written?` finds every key but `<<` among the entries that do not merge. -/
private theorem written?_eq_find?_explicit {key : String} (hkey : key ≠ "<<") (entries : Entries) :
    written? entries key = find? (explicit entries) key := by
  induction entries with
  | nil => rfl
  | cons e rest ih =>
    obtain ⟨k, v⟩ := e
    cases hmerge : k.isMergeKey with
    | true =>
      -- a key that merges has the text `<<`, which is not looked for
      have hne : k.str? ≠ some key := by
        rw [str?_of_isMergeKey hmerge]
        exact fun h => hkey (Option.some.inj h).symm
      rw [written?_cons_of_ne hne, explicit_cons_of_isMergeKey hmerge, ih]
    | false =>
      cases hstr : k.str? with
      | none =>
        rw [written?_cons_of_ne (by simp [hstr]), explicit_cons_of_none hmerge hstr, ih]
      | some name =>
        rw [explicit_cons_of_some hmerge hstr, find?]
        split
        · next h => rw [written?, List.find?_cons_of_pos (by simp [hstr, h]), Option.map_some]
        · next h => rw [written?_cons_of_ne (by simpa [hstr] using h), ih]

mutual

/-- `get?` gives the first offer of a key. -/
theorem get?_eq_find?_offers {key : String} (hkey : key ≠ "<<") :
    (n : Node) → get? key n = find? (offers n) key
  | scalar _ _ => rfl
  | sequence _ _ => rfl
  | mapping entries _ => by
    rw [get?, offers, find?_append, written?_eq_find?_explicit hkey,
      merged?_eq_find?_mergedOffers hkey entries]

/-- `merged?` gives the first of the merged offers. -/
private theorem merged?_eq_find?_mergedOffers {key : String} (hkey : key ≠ "<<") :
    (entries : Entries) → merged? key entries = find? (mergedOffers entries) key
  | [] => rfl
  | (k, v) :: rest => by
    have hrest := merged?_eq_find?_mergedOffers hkey rest
    unfold merged? mergedOffers
    split
    · rw [find?_append, ← hrest]
      -- a mapping is merged itself, a sequence item by item
      cases v with
      | scalar w s => rfl
      | sequence items s =>
        dsimp only
        rw [firstOf?_eq_find?_itemOffers hkey items]
      | mapping inner s =>
        dsimp only
        rw [get?_eq_find?_offers hkey (mapping inner s)]
    · exact hrest

/-- `firstOf?` gives the first of the offers in a sequence. -/
private theorem firstOf?_eq_find?_itemOffers {key : String} (hkey : key ≠ "<<") :
    (items : List Node) → firstOf? key items = find? (itemOffers items) key
  | [] => rfl
  | n :: rest => by
    rw [firstOf?, itemOffers, find?_append, get?_eq_find?_offers hkey n,
      firstOf?_eq_find?_itemOffers hkey rest]

end

/-! ## The members of the value -/

/-- The members of an object; no members for other values. -/
def memberList (j : Json) : Json.Members :=
  j.members?.getD []

/-- What the merged values of a mapping bring in, one list behind the other. -/
def mergedMembers (members : List Member) : Json.Members :=
  ((members.filter fun m => m.merges).flatMap fun m => sources m.value).flatten

private theorem sources_scalar_toJson (v : Scalar) : sources v.toJson =
    [] ∧ v.toJson.members? = none := by
  unfold Scalar.toJson Scalar.resolve
  repeat' split
  all_goals exact ⟨rfl, rfl⟩

/-- An array brings in the members of the objects in it. -/
private theorem flatten_sources_arr (items : List Json) :
    (sources (.arr items)).flatten = items.flatMap memberList := by
  rw [sources]
  induction items with
  | nil => rfl
  | cons j items ih =>
    rw [List.flatMap_cons, ← ih, List.filterMap_cons]
    cases hj : j.members? with
    | none => simp [memberList, hj]
    | some ms => simp [memberList, hj]

/-- An entry brings in members if its key merges. -/
private theorem mergedMembers_cons (m : Member) (members : List Member) :
    mergedMembers (m :: members) =
      if m.merges then (sources m.value).flatten ++ mergedMembers members
      else mergedMembers members := by
  unfold mergedMembers
  cases hm : m.merges <;> simp [hm]

/-- The text of a scalar that has one. -/
theorem text_of_str? {w : Scalar} {s : Span} {name : String} (h : (scalar w s).str? = some name) :
    w.text = name := by
  rw [str?] at h
  split at h
  · cases h
  · exact Option.some.inj h

/-- `membersOf` makes an entry a member; the text of its key, if it has one, is its name. -/
private theorem membersOf_cons (k v : Node) (rest : Entries) :
    ∃ name, membersOf ((k, v) :: rest) = ⟨k.isMergeKey, name, v.toJson⟩ :: membersOf rest ∧
      ∀ text, k.str? = some text → name = text := by
  cases k with
  | scalar w s => exact ⟨w.text, rfl, fun text h => text_of_str? h⟩
  | sequence items s => exact ⟨_, rfl, fun text h => nomatch h⟩
  | mapping entries s => exact ⟨_, rfl, fun text h => nomatch h⟩

/-- The written members of `membersOf` are the entries that do not merge. -/
private theorem written_membersOf {entries : Entries}
    (h : ∀ e ∈ entries, e.1.isMergeKey = false → e.1.str?.isSome = true) :
    ((membersOf entries).filter fun m => !m.merges).map (fun m => (m.name, m.value)) =
      mapValues toJson (explicit entries) := by
  induction entries with
  | nil => rfl
  | cons e rest ih =>
    obtain ⟨k, v⟩ := e
    obtain ⟨hhead, hrest⟩ := List.forall_mem_cons.mp h
    obtain ⟨name, hmembers, hname⟩ := membersOf_cons k v rest
    rw [hmembers]
    cases hmerge : k.isMergeKey with
    | true =>
      rw [explicit_cons_of_isMergeKey hmerge, ← ih hrest, List.filter_cons_of_neg (by simp)]
    | false =>
      obtain ⟨text, htext⟩ := Option.isSome_iff_exists.mp (hhead hmerge)
      rw [explicit_cons_of_some hmerge htext, List.filter_cons_of_pos (by simp), List.map_cons,
        ih hrest, hname text htext]
      rfl

/-- With distinct keys, `assemble` gives the first ones of the own and the merged members. -/
private theorem assemble_membersOf {entries : Entries} (h : DistinctKeys entries) :
    assemble (membersOf entries) =
      firsts (mapValues toJson (explicit entries) ++ mergedMembers (membersOf entries)) := by
  have hnodup : (names (mapValues toJson (explicit entries))).Nodup := by
    rw [names_mapValues]
    exact h.2
  unfold assemble
  rw [written_membersOf h.1, ofList_of_nodup hnodup, foldl_extend, extend_of_nodup hnodup,
    mergedMembers]

mutual

/-- The members of `toJson` are the offers of the node, up to repetitions. -/
theorem firsts_memberList_toJson :
    (n : Node) → n.wellKeyed = true →
      firsts (memberList n.toJson) = firsts (mapValues toJson (offers n))
  | scalar v _, _ => by
    rw [toJson, memberList, (sources_scalar_toJson v).2]
    rfl
  | sequence _ _, _ => rfl
  | mapping entries s, h => by
    rw [wellKeyed, Bool.and_eq_true, decide_eq_true_eq] at h
    -- repetitions inside a merged mapping are dropped twice, with the same result
    have hvalue : memberList (mapping entries s).toJson = assemble (membersOf entries) := rfl
    rw [hvalue, assemble_membersOf h.1, firsts_firsts, offers, mapValues_append]
    exact firsts_append_congr rfl (firsts_mergedMembers entries h.2)

/-- The members that the entries merge are their offers, up to repetitions. -/
private theorem firsts_mergedMembers :
    (entries : Entries) → entriesWellKeyed entries = true →
      firsts (mergedMembers (membersOf entries)) = firsts (mapValues toJson (mergedOffers entries))
  | [], _ => rfl
  | (k, v) :: rest, h => by
    rw [entriesWellKeyed, Bool.and_eq_true, Bool.and_eq_true] at h
    have hrest := firsts_mergedMembers rest h.2
    obtain ⟨name, hmembers, -⟩ := membersOf_cons k v rest
    rw [hmembers, mergedMembers_cons]
    unfold mergedOffers
    dsimp only
    split
    · -- a merged value is a mapping or a sequence; a scalar brings in nothing
      rw [mapValues_append]
      refine firsts_append_congr ?_ hrest
      cases v with
      | scalar w s =>
        rw [toJson, (sources_scalar_toJson w).1]
        rfl
      | sequence items s =>
        rw [toJson, flatten_sources_arr]
        exact firsts_flatMap_memberList items (by simpa [wellKeyed] using h.1.2)
      | mapping inner s =>
        have hsource : (sources (mapping inner s).toJson).flatten =
            memberList (mapping inner s).toJson := by
          simp [toJson, sources, memberList, Json.members?]
        rw [hsource]
        exact firsts_memberList_toJson (mapping inner s) h.1.2
    · exact hrest

/-- The members of the objects in an array are the offers of its items, up to repetitions. -/
private theorem firsts_flatMap_memberList :
    (items : List Node) → itemsWellKeyed items = true →
      firsts ((itemsToJson items).flatMap memberList) =
        firsts (mapValues toJson (itemOffers items))
  | [], _ => rfl
  | n :: rest, h => by
    rw [itemsWellKeyed, Bool.and_eq_true] at h
    rw [itemsToJson, List.flatMap_cons, itemOffers, mapValues_append]
    exact firsts_append_congr (firsts_memberList_toJson n h.1) (firsts_flatMap_memberList rest h.2)

end

/-- `toJson` of a mapping with distinct keys has the first offer of each key. -/
private theorem toJson_mapping {entries : Entries} {s : Span}
    (h : (mapping entries s).wellKeyed = true) :
    (mapping entries s).toJson = .obj (mapValues toJson (firsts (mapping entries s).offers)) := by
  have hfirsts := firsts_memberList_toJson _ h
  rw [wellKeyed, Bool.and_eq_true, decide_eq_true_eq] at h
  have hvalue : memberList (mapping entries s).toJson = assemble (membersOf entries) := rfl
  rw [hvalue, assemble_membersOf h.1, firsts_firsts, firsts_mapValues] at hfirsts
  rw [toJson, assemble_membersOf h.1, hfirsts]

/-- Suppose that in every mapping of a node the keys that do not merge are scalars other than null
with different texts. A look-up of a key then gives the node whose value is the member of that name,
and nothing if there is no such member. The members of a mapping are its own entries in source
order, then the first offer of each further key among the merged mappings in order of precedence;
no name is repeated. -/
theorem toJson_of_wellKeyed (n : Node) (h : n.wellKeyed = true) :
    (∀ key, key ≠ "<<" → n.toJson.get? key = (n.get? key).map toJson) ∧
    ∀ entries s, n = mapping entries s →
      n.toJson = .obj (mapValues toJson
        (explicit entries ++ without (explicit entries) (firsts (mergedOffers entries)))) ∧
      (names (memberList n.toJson)).Nodup := by
  constructor
  · intro key hkey
    rw [get?_eq_find?_offers hkey]
    cases n with
    | scalar v s =>
      rw [toJson, Json.get?, (sources_scalar_toJson v).2]
      rfl
    | sequence items s => rfl
    -- look-up and value both take the first offer of a key
    | mapping entries s =>
      rw [toJson_mapping h, Json.get?, Json.members?, Option.bind_some, find?_mapValues,
        find?_firsts]
  · rintro entries s rfl
    have hkeys := h
    rw [wellKeyed, Bool.and_eq_true, decide_eq_true_eq] at hkeys
    constructor
    · rw [toJson_mapping h, offers, firsts_append, firsts_of_nodup hkeys.1.2]
    · rw [toJson_mapping h, memberList, Json.members?, Option.getD_some, names_mapValues]
      exact nodup_names_firsts _

/-- A mapping that merges a sequence of mappings, one of which merges another one, and then a
further mapping: `{a: 1, <<: [{b: 2, a: 3}, {c: 4, <<: {d: 5}}], <<: {b: 6}}`. -/
def mergingMapping : Node :=
  let key (text : String) : Node := plain text (.empty 0)
  mapping
    [(key "a", key "1"),
      (key "<<", sequence
        [mapping [(key "b", key "2"), (key "a", key "3")] (.empty 0),
          mapping [(key "c", key "4"), (key "<<", mapping [(key "d", key "5")] (.empty 0))]
            (.empty 0)] (.empty 0)),
      (key "<<", mapping [(key "b", key "6")] (.empty 0))] (.empty 0)

/-- The key `d` comes in through two merges. -/
theorem toJson_mergingMapping :
    mergingMapping.wellKeyed = true ∧
      mergingMapping.get? "d" = some (plain "5" (.empty 0)) ∧
      mergingMapping.toJson.get? "d" = (mergingMapping.get? "d").map toJson ∧
      (names (memberList mergingMapping.toJson)).Nodup := by
  have hkeys : mergingMapping.wellKeyed = true := by decide
  obtain ⟨hget, hmembers⟩ := toJson_of_wellKeyed mergingMapping hkeys
  exact ⟨hkeys, rfl, hget "d" (by decide), (hmembers _ _ rfl).2⟩

end PrimitiveDesk.Yaml.Node

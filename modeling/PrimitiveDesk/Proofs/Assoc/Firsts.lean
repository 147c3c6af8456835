import PrimitiveDesk.Assoc

/-!
# The first value of each name

A list in which names are repeated stands for the values that `find?` gives: the first one of each
name. `firsts` keeps these in their order (`find?_firsts`, `nodup_names_firsts`). What `extend` adds
is then a concatenation (`extend_eq`), whether it is added list by list or at once.

`ofList` treats a repeated name the other way round: it keeps its first place, but its last value
(`names_ofList`, `find?_ofList`).
-/

namespace PrimitiveDesk.Assoc

variable {α β : Type}

/-! ## Names -/

theorem names_cons (e : String × α) (l : List (String × α)) : names (e :: l) = e.1 :: names l :=
  rfl

theorem names_append (l m : List (String × α)) : names (l ++ m) = names l ++ names m :=
  List.map_append

/-- `has` tells whether a value is named so. -/
theorem has_iff_mem_names {l : List (String × α)} {name : String} :
    has l name = true ↔ name ∈ names l := by
  induction l with
  | nil => simp [has, find?, names]
  | cons e rest ih =>
    obtain ⟨n, v⟩ := e
    rw [has, names] at ih
    rw [has, names, find?, List.map_cons, List.mem_cons]
    split
    · next h => simp [h]
    · next h => rw [ih]; simp [Ne.symm h]

private theorem has_singleton (e : String × α) (name : String) :
    has [e] name = decide (e.1 = name) := by
  obtain ⟨n, v⟩ := e
  rw [has, find?]
  split
  · next h => simp [h]
  · next h => simp [h, find?]

theorem has_append (l m : List (String × α)) (name : String) :
    has (l ++ m) name = (has l name || has m name) := by
  rw [Bool.eq_iff_iff, Bool.or_eq_true]
  simp only [has_iff_mem_names, names, List.map_append, List.mem_append]

/-- `find?` looks into the second list only for names that the first one does not have. -/
theorem find?_append (l m : List (String × α)) (name : String) :
    find? (l ++ m) name = (find? l name).or (find? m name) := by
  induction l with
  | nil => simp [find?]
  | cons e rest ih =>
    obtain ⟨n, v⟩ := e
    rw [List.cons_append, find?, find?]
    split
    · rfl
    · exact ih

/-- What `find?` gives is there under that name. -/
theorem mem_of_find? {l : List (String × α)} {name : String} {v : α} (h : find? l name = some v) :
    (name, v) ∈ l := by
  induction l with
  | nil => cases h
  | cons e rest ih =>
    obtain ⟨n, w⟩ := e
    rw [find?] at h
    split at h
    · next heq =>
      cases h
      rw [heq]
      exact List.mem_cons_self
    · exact List.mem_cons_of_mem _ (ih h)

/-- Where no name is repeated, `find?` gives every value. -/
theorem find?_of_mem_of_nodup {l : List (String × α)} (h : (names l).Nodup) {name : String} {v : α}
    (hmem : (name, v) ∈ l) : find? l name = some v := by
  induction l with
  | nil => cases hmem
  | cons e rest ih =>
    obtain ⟨n, w⟩ := e
    rw [names_cons, List.nodup_cons] at h
    rcases List.mem_cons.mp hmem with heq | hmem
    · cases heq
      rw [find?, if_pos rfl]
    · -- the name stands further down, so that it is not the first one
      have hne : n ≠ name := by
        rintro rfl
        exact h.1 (List.mem_map_of_mem (f := (·.1)) hmem)
      rw [find?, if_neg hne, ih h.2 hmem]

/-- The list with each value replaced. -/
def mapValues (f : α → β) (l : List (String × α)) : List (String × β) :=
  l.map fun e => (e.1, f e.2)

@[simp] theorem names_mapValues (f : α → β) (l : List (String × α)) :
    names (mapValues f l) = names l := by
  simp [names, mapValues]

@[simp] private theorem has_mapValues (f : α → β) (l : List (String × α)) (name : String) :
    has (mapValues f l) name = has l name := by
  rw [Bool.eq_iff_iff, has_iff_mem_names, has_iff_mem_names, names_mapValues]

/-- `find?` gives the replaced value. -/
theorem find?_mapValues (f : α → β) (l : List (String × α)) (name : String) :
    find? (mapValues f l) name = (find? l name).map f := by
  induction l with
  | nil => rfl
  | cons e rest ih =>
    obtain ⟨n, v⟩ := e
    rw [mapValues, List.map_cons, find?, find?]
    split
    · rfl
    · exact ih

theorem mapValues_append (f : α → β) (l m : List (String × α)) :
    mapValues f (l ++ m) = mapValues f l ++ mapValues f m :=
  List.map_append

/-! ## Setting values -/

/-- `set` puts a new name at the end. -/
theorem set_of_not_mem {l : List (String × α)} {name : String} (h : name ∉ names l) (value : α) :
    set l name value = l ++ [(name, value)] := by
  induction l with
  | nil => rfl
  | cons e rest ih =>
    obtain ⟨n, v⟩ := e
    rw [names, List.map_cons, List.mem_cons, not_or] at h
    rw [set, if_neg (Ne.symm h.1), ih h.2, List.cons_append]

/-- `set` keeps the place of a name that is there. -/
private theorem names_set_of_mem {l : List (String × α)} {name : String} (h : name ∈ names l)
    (value : α) :
    names (set l name value) = names l := by
  induction l with
  | nil => cases h
  | cons e rest ih =>
    obtain ⟨n, v⟩ := e
    rw [set]
    split
    · rfl
    · next hne =>
      rw [names_cons, List.mem_cons] at h
      rw [names_cons, names_cons, ih (h.resolve_left (Ne.symm hne))]

/-- `set` repeats no name. -/
theorem nodup_names_set {l : List (String × α)} (h : (names l).Nodup) (name : String) (value : α) :
    (names (set l name value)).Nodup := by
  by_cases hmem : name ∈ names l
  · rwa [names_set_of_mem hmem]
  · rw [set_of_not_mem hmem, names, List.map_append, List.nodup_append]
    refine ⟨h, List.pairwise_singleton _ name, ?_⟩
    -- the new name at the end is none of those in front
    rintro n hn _ hname rfl
    have heq : n = name := List.mem_singleton.mp hname
    exact hmem (heq ▸ hn)

/-- What is there after `set` is the value that was set or was there before. -/
theorem eq_or_mem_of_mem_set {l : List (String × α)} {name : String} {value : α}
    {e : String × α} (h : e ∈ set l name value) : e.2 = value ∨ e ∈ l := by
  induction l with
  | nil =>
    rw [set, List.mem_singleton] at h
    exact Or.inl (h ▸ rfl)
  | cons e' rest ih =>
    obtain ⟨n, v⟩ := e'
    rw [set] at h
    split at h
    · -- the name is here, and its value is replaced
      rcases List.mem_cons.mp h with rfl | hmem
      · exact Or.inl rfl
      · exact Or.inr (List.mem_cons_of_mem _ hmem)
    · rcases List.mem_cons.mp h with rfl | hmem
      · exact Or.inr List.mem_cons_self
      · exact (ih hmem).imp_right (List.mem_cons_of_mem _)

/-- `set` with new names, one after the other, puts them at the end in their order. -/
private theorem foldl_set_of_nodup {l entries : List (String × α)}
    (h : (names (l ++ entries)).Nodup) :
    entries.foldl (fun l e => set l e.1 e.2) l = l ++ entries := by
  induction entries generalizing l with
  | nil => simp
  | cons e entries ih =>
    -- the next name is not there yet, so it goes to the end
    have hnew : e.1 ∉ names l := by
      intro hmem
      rw [names, List.map_append, List.nodup_append] at h
      exact h.2.2 e.1 hmem e.1 (by simp) rfl
    have hsplit : l ++ e :: entries = l ++ [(e.1, e.2)] ++ entries := by simp
    rw [List.foldl_cons, set_of_not_mem hnew, ih (hsplit ▸ h), hsplit]

/-- `ofList` leaves a list without repeated names as it is. -/
theorem ofList_of_nodup {entries : List (String × α)} (h : (names entries).Nodup) :
    ofList entries = entries :=
  foldl_set_of_nodup (l := []) h

/-! ## First values -/

/-- The values whose names the first list does not have. -/
def without (l m : List (String × α)) : List (String × α) :=
  m.filter fun e => !has l e.1

/-- The first value of each name, in order. -/
def firsts : List (String × α) → List (String × α)
  | [] => []
  | e :: rest => e :: without [e] (firsts rest)

/-- The names left are those of the second list that the first one does not have. -/
private theorem mem_names_without {l m : List (String × α)} {name : String} :
    name ∈ names (without l m) ↔ name ∈ names m ∧ name ∉ names l := by
  simp only [names, without, List.mem_map, List.mem_filter, Bool.not_eq_true', Bool.eq_false_iff,
    ne_eq, has_iff_mem_names]
  constructor
  · rintro ⟨e, ⟨he, hnew⟩, rfl⟩
    exact ⟨⟨e, he, rfl⟩, hnew⟩
  · rintro ⟨⟨e, he, rfl⟩, hnew⟩
    exact ⟨e, ⟨he, hnew⟩, rfl⟩

private theorem without_without (l l' m : List (String × α)) :
    without l (without l' m) = without (l' ++ l) m := by
  simp only [without, List.filter_filter, has_append, Bool.not_or, Bool.and_comm]

private theorem without_append (l m m' : List (String × α)) :
    without l (m ++ m') = without l m ++ without l m' :=
  List.filter_append m m'

/-- Only the names of the hiding list count. -/
theorem without_congr {l l' : List (String × α)} (h : ∀ name, has l name = has l' name)
    (m : List (String × α)) : without l m = without l' m := by
  simp only [without, h]

/-- A value whose name is there is left out. -/
private theorem without_cons_of_has {l : List (String × α)} {e : String × α} (h : has l e.1 = true)
    (m : List (String × α)) : without l (e :: m) = without l m :=
  List.filter_cons_of_neg (by simp [h])

/-- A value whose name is new stays. -/
private theorem without_cons_of_not_has {l : List (String × α)} {e : String × α}
    (h : has l e.1 = false) (m : List (String × α)) : without l (e :: m) = e :: without l m :=
  List.filter_cons_of_pos (by simp [h])

/-- Hiding other names does not change what is found. -/
private theorem find?_without {l : List (String × α)} {name : String} (h : name ∉ names l)
    (m : List (String × α)) : find? (without l m) name = find? m name := by
  induction m with
  | nil => rfl
  | cons e rest ih =>
    obtain ⟨n, v⟩ := e
    cases hhas : has l n with
    | true =>
      -- a hidden value has another name
      have hne : n ≠ name := fun heq => h (has_iff_mem_names.mp (heq ▸ hhas))
      rw [without_cons_of_has hhas, ih, find?, if_neg hne]
    | false => rw [without_cons_of_not_has hhas, find?, find?, ih]

/-- `firsts` keeps every name. -/
@[simp] theorem mem_names_firsts {l : List (String × α)} {name : String} :
    name ∈ names (firsts l) ↔ name ∈ names l := by
  induction l with
  | nil => rfl
  | cons e rest ih =>
    rw [firsts, names_cons, names_cons, List.mem_cons, List.mem_cons, mem_names_without, ih]
    by_cases h : name = e.1
    · simp [h]
    · simp [h, names]

@[simp] private theorem has_firsts (l : List (String × α)) (name : String) :
    has (firsts l) name = has l name := by
  rw [Bool.eq_iff_iff, has_iff_mem_names, has_iff_mem_names, mem_names_firsts]

/-- `firsts` repeats no name. -/
theorem nodup_names_firsts (l : List (String × α)) : (names (firsts l)).Nodup := by
  induction l with
  | nil => exact List.nodup_nil
  | cons e rest ih =>
    -- the name of the first value is hidden behind it
    have hnew : e.1 ∉ names (without [e] (firsts rest)) :=
      fun hmem => (mem_names_without.mp hmem).2 (by simp [names])
    exact List.nodup_cons.mpr ⟨hnew, ih.sublist ((List.filter_sublist).map _)⟩

private theorem without_nil (m : List (String × α)) : without [] m = m :=
  List.filter_eq_self.mpr fun _ _ => rfl

/-- `firsts` of two lists: the first values of the one, then new ones of the other. -/
theorem firsts_append (l m : List (String × α)) :
    firsts (l ++ m) = firsts l ++ without l (firsts m) := by
  induction l with
  | nil => rw [List.nil_append, firsts, List.nil_append, without_nil]
  | cons e rest ih =>
    -- hiding by `e` and then by the rest is hiding by both
    have hnames : ∀ name, has (rest ++ [e]) name = has (e :: rest) name := fun name => by
      rw [has_append, Bool.or_comm, ← has_append, List.singleton_append]
    rw [List.cons_append, firsts, firsts, ih, without_append, without_without, List.cons_append,
      without_congr hnames]

/-- `firsts` leaves a list without repeated names as it is. -/
theorem firsts_of_nodup {l : List (String × α)} (h : (names l).Nodup) : firsts l = l := by
  induction l with
  | nil => rfl
  | cons e rest ih =>
    obtain ⟨hnew, hrest⟩ := List.nodup_cons.mp h
    -- nothing behind the first value has its name
    rw [firsts, ih hrest, without, List.filter_eq_self.mpr]
    intro e' he'
    rw [Bool.not_eq_true', Bool.eq_false_iff, ne_eq, has_iff_mem_names]
    intro hmem
    have heq : e'.1 = e.1 := List.mem_singleton.mp hmem
    have hmem' : e'.1 ∈ names rest := List.mem_map_of_mem he'
    rw [heq] at hmem'
    exact hnew hmem'

theorem firsts_firsts (l : List (String × α)) : firsts (firsts l) = firsts l :=
  firsts_of_nodup (nodup_names_firsts l)

/-- A list and its first values bring in the same values. -/
theorem firsts_append_congr {l l' m m' : List (String × α)} (hl : firsts l = firsts l')
    (hm : firsts m = firsts m') : firsts (l ++ m) = firsts (l' ++ m') := by
  have hnames : ∀ name, has l name = has l' name := fun name => by
    rw [← has_firsts l, ← has_firsts l', hl]
  rw [firsts_append, firsts_append, hl, hm, without_congr hnames]

/-- `find?` gives the first of the values of a name, so that `firsts` is enough to know. -/
theorem find?_firsts (l : List (String × α)) (name : String) :
    find? (firsts l) name = find? l name := by
  induction l with
  | nil => rfl
  | cons e rest ih =>
    obtain ⟨n, v⟩ := e
    rw [firsts, find?, find?]
    split
    · rfl
    · next h => rw [find?_without (by simp [names, Ne.symm h]), ih]

/-- Which values are hidden depends on the names only. -/
private theorem mapValues_without (f : α → β) (l m : List (String × α)) :
    mapValues f (without l m) = without (mapValues f l) (mapValues f m) := by
  simp only [mapValues, without, List.filter_map]
  congr 1
  refine List.filter_congr fun e _ => ?_
  exact congrArg not (has_mapValues f l e.1).symm

/-- Which values come first depends on the names only. -/
theorem firsts_mapValues (f : α → β) (l : List (String × α)) :
    firsts (mapValues f l) = mapValues f (firsts l) := by
  induction l with
  | nil => rfl
  | cons e rest ih =>
    have hcons : mapValues f (e :: rest) = (e.1, f e.2) :: mapValues f rest := rfl
    rw [hcons, firsts, ih, firsts]
    exact congrArg _ (mapValues_without f [e] (firsts rest)).symm

/-! ## Adding what is not there yet -/

/-- What `extend` adds are the first values whose names are new. -/
theorem extend_eq (base extender : List (String × α)) :
    extend base extender = base ++ without base (firsts extender) := by
  induction extender generalizing base with
  | nil => simp [extend, firsts, without]
  | cons e rest ih =>
    rw [extend, List.foldl_cons, ← extend, ih, firsts, setAbsent]
    cases hhas : has base e.1 with
    | true =>
      -- the value is hidden, and so are the later ones of its name
      have hnames : ∀ name, has ([e] ++ base) name = has base name := fun name => by
        rw [has_append, has_singleton]
        by_cases h : e.1 = name
        · rw [← h, hhas, Bool.or_true]
        · simp [h]
      rw [if_pos rfl, without_cons_of_has hhas, without_without, without_congr hnames]
    | false =>
      -- the value is added, and hides the later ones of its name from then on
      have hnames : ∀ name, has ([e] ++ base) name = has (base ++ [e]) name := fun name => by
        rw [has_append, has_append, Bool.or_comm]
      rw [if_neg Bool.false_ne_true, without_cons_of_not_has hhas, without_without,
        without_congr hnames, List.append_assoc, List.singleton_append]

/-- `extend` of a list without repetitions gives the first values of both lists. -/
theorem extend_of_nodup {base : List (String × α)} (h : (names base).Nodup)
    (extender : List (String × α)) : extend base extender = firsts (base ++ extender) := by
  rw [extend_eq, firsts_append, firsts_of_nodup h]

/-- `extend` with one list after the other is `extend` with all at once. -/
theorem foldl_extend (base : List (String × α)) (extenders : List (List (String × α))) :
    extenders.foldl extend base = extend base extenders.flatten := by
  induction extenders generalizing base with
  | nil => rfl
  | cons l rest ih =>
    rw [List.foldl_cons, ih, List.flatten_cons]
    exact (List.foldl_append).symm

/-- After `extend`, a name is looked up in the list first, and then in what was added to it. -/
theorem find?_extend (base extender : List (String × α)) (name : String) :
    find? (extend base extender) name = (find? base name).or (find? extender name) := by
  rw [extend_eq, find?_append]
  cases hbase : find? base name with
  | some v => rfl
  | none =>
    -- a name that is not found is new
    have hnew : name ∉ names base := by
      rw [← has_iff_mem_names, has, hbase]
      exact Bool.false_ne_true
    rw [Option.none_or, Option.none_or, find?_without hnew, find?_firsts]

/-- After `erase`, all names but the erased one lead to the same values. -/
theorem find?_erase (l : List (String × α)) (name key : String) :
    find? (erase l name) key = if key = name then none else find? l key := by
  induction l with
  | nil => simp [erase, find?]
  | cons e rest ih =>
    obtain ⟨n, v⟩ := e
    rw [erase] at ih
    rw [erase, find?]
    by_cases hn : n = name
    · -- the value goes away
      rw [List.filter_cons_of_neg (by simp [hn]), ih, hn]
      split
      · rfl
      · next hne => rw [if_neg (Ne.symm hne)]
    · rw [List.filter_cons_of_pos (by simp [hn]), find?, ih]
      by_cases hkey : n = key
      · rw [if_pos hkey, if_pos hkey, if_neg (fun heq => hn (hkey.trans heq))]
      · rw [if_neg hkey, if_neg hkey]

/-! ## Repeated names -/

/-- What `find?` gives after `set`. -/
theorem find?_set (l : List (String × α)) (name : String) (value : α) (key : String) :
    find? (set l name value) key = if name = key then some value else find? l key := by
  induction l with
  | nil => rfl
  | cons e rest ih =>
    obtain ⟨n, v⟩ := e
    rw [set]
    split
    · next h =>
      rw [find?, find?, h]
      split <;> rfl
    · next h =>
      rw [find?, find?, ih]
      split
      · next heq => rw [if_neg (fun hname => h (heq.trans hname.symm))]
      · rfl

/-- After several `set`, `find?` gives the last value of a name. -/
theorem find?_foldl_set (l entries : List (String × α)) (key : String) :
    find? (entries.foldl (fun l e => set l e.1 e.2) l) key =
      (find? entries.reverse key).or (find? l key) := by
  induction entries generalizing l with
  | nil => rfl
  | cons e rest ih =>
    rw [List.foldl_cons, ih, find?_set, List.reverse_cons, find?_append, Option.or_assoc]
    -- the first entry counts if no later one has its name
    rw [find?, find?]
    split <;> rfl

/-- `find?` gives the last value that `ofList` was given for a name. -/
theorem find?_ofList (entries : List (String × α)) (key : String) :
    find? (ofList entries) key = find? entries.reverse key := by
  rw [ofList, find?_foldl_set, find?, Option.or_none]

/-- `find?` gives nothing for a name that is not there. -/
theorem find?_eq_none_of_not_mem {l : List (String × α)} {name : String} (h : name ∉ names l) :
    find? l name = none := by
  rw [← has_iff_mem_names, has] at h
  simpa using h

/-- Where no name is repeated, the last value of a name is the first. -/
theorem find?_reverse {l : List (String × α)} (h : (names l).Nodup) (name : String) :
    find? l.reverse name = find? l name := by
  induction l with
  | nil => rfl
  | cons e rest ih =>
    obtain ⟨hnot, hrest⟩ := List.nodup_cons.mp h
    rw [List.reverse_cons, find?_append, ih hrest]
    by_cases hname : e.1 = name
    · -- the name does not stand behind the first value
      rw [find?_eq_none_of_not_mem (hname ▸ hnot), Option.none_or, find?, if_pos hname, find?,
        if_pos hname]
    · rw [find?, if_neg hname, find?, Option.or_none, find?, if_neg hname]

/-- `set` overwrites in place and `extend` leaves what is there, but both give the same names. -/
private theorem names_foldl_set {l base : List (String × α)} (h : names l = names base)
    (entries : List (String × α)) :
    names (entries.foldl (fun l e => set l e.1 e.2) l) = names (extend base entries) := by
  induction entries generalizing l base with
  | nil => exact h
  | cons e rest ih =>
    refine ih ?_
    dsimp only
    -- either both find the name, or both put it at the end
    by_cases hmem : e.1 ∈ names l
    · have hhas : has base e.1 = true := has_iff_mem_names.mpr (h ▸ hmem)
      rw [names_set_of_mem hmem, setAbsent, if_pos hhas, h]
    · have hhas : ¬ has base e.1 = true := fun hhas => hmem (h ▸ has_iff_mem_names.mp hhas)
      rw [set_of_not_mem hmem, setAbsent, if_neg hhas, names_append, names_append, h]

/-- `ofList` keeps the first place of a repeated name. -/
theorem names_ofList (entries : List (String × α)) :
    names (ofList entries) = names (firsts entries) := by
  have hnil : (names ([] : List (String × α))).Nodup := List.nodup_nil
  rw [ofList, names_foldl_set rfl, extend_of_nodup hnil, List.nil_append]

/-- Which names come first depends on the names only. -/
theorem names_firsts_congr {l : List (String × α)} {m : List (String × β)} (h : names l = names m) :
    names (firsts l) = names (firsts m) := by
  -- only the names are left when every value is replaced by the same one
  have hunit : mapValues (fun _ => ()) l = mapValues (fun _ => ()) m := by
    have hmap {γ : Type} (k : List (String × γ)) :
        mapValues (fun _ => ()) k = (names k).map fun name => (name, ()) := by
      simp [mapValues, names]
    rw [hmap, hmap, h]
  rw [← names_mapValues (fun _ => ()) (firsts l), ← firsts_mapValues, hunit, firsts_mapValues,
    names_mapValues]

end PrimitiveDesk.Assoc

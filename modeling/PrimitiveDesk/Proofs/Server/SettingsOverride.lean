import PrimitiveDesk.Proofs.Assoc.Firsts
import PrimitiveDesk.Server.Session

/-!
# Overriding settings

The options of a client are put over the settings field by field. What comes out is told by the
settings written as the members of an object (`Settings.written`): the members of the options that
are settings replace those of the same name, and the others stay.

`Settings.Fits` says which values a setting can have. `setField` takes a value that fits and refuses
all others, whatever the settings are, and by induction on the names so does `setMembers`. From this
follows when options are taken, and which settings follow (`Settings.overriddenBy_eq_ok_iff`).
-/

namespace PrimitiveDesk

namespace Json

/-! ## Numbers below a limit -/

/-- `decodeNat` takes a number below the limit. -/
private theorem decodeNat_of_lt {n limit : Nat} (h : n < limit) (type : String) :
    (int n).decodeNat limit type = .ok n := by
  rw [decodeNat, if_pos ⟨Int.natCast_nonneg n, Int.ofNat_lt.mpr h⟩, Int.toNat_natCast]

/-- `decodeNat` refuses every other number. -/
private theorem decodeNat_of_forall_ne {n : Int} {limit : Nat} (h : ∀ k : Nat, k < limit → n ≠ k)
    (type : String) : (int n).decodeNat limit type = .error (.invalidValue (.int n) type) := by
  rw [decodeNat, if_neg]
  rintro ⟨hpos, hlt⟩
  obtain ⟨k, rfl⟩ := Int.eq_ofNat_of_zero_le hpos
  exact h k (Int.ofNat_lt.mp hlt) rfl

end Json

namespace Settings

/-- The values that the setting of a name can have. -/
inductive Fits : String → Json → Prop
  | interpreter (text : String) : Fits "pythonInterpreter" (.str text)
  | unit {n : Nat} (h : n < Nat.pow 2 64) : Fits "indentUnit" (.int n)
  | folder (text : String) : Fits "buildDirName" (.str text)
  | noFolder : Fits "buildDirName" .null
  | daemon (b : Bool) : Fits "enableDaemon" (.bool b)

/-- The settings as the members of an object. -/
def written (s : Settings) : Json.Members :=
  [("pythonInterpreter", .str s.interpreter), ("indentUnit", .int s.indentUnit),
    ("buildDirName", (s.buildFolder?.map Json.str).getD .null),
    ("enableDaemon", .bool s.daemonEnabled)]

/-- The members of options; options that are no object have none. -/
def options (o : Json) : Json.Members := o.members?.getD []

/-- Options with the members of both, where those of the second count if both have them. -/
def union (first second : Json) : Json :=
  .obj (Assoc.extend (options second) (options first))

variable {s t u : Settings} {name : String} {value : Json} {members : Json.Members}
  {names : List String} {e : DecodeError}

/-! ## The written form -/

/-- Settings are told apart by what is written. -/
private theorem eq_of_find?_written
    (h : ∀ key ∈ fieldNames, Assoc.find? s.written key = Assoc.find? t.written key) : s = t := by
  have hinterpreter : some (Json.str s.interpreter) = some (.str t.interpreter) :=
    h "pythonInterpreter" (by decide)
  have hunit : some (Json.int s.indentUnit) = some (.int t.indentUnit) :=
    h "indentUnit" (by decide)
  have hfolder : some ((s.buildFolder?.map Json.str).getD .null) =
      some ((t.buildFolder?.map Json.str).getD .null) := h "buildDirName" (by decide)
  have hdaemon : some (Json.bool s.daemonEnabled) = some (.bool t.daemonEnabled) :=
    h "enableDaemon" (by decide)
  obtain ⟨interpreter, unit, folder?, daemon⟩ := s
  obtain ⟨interpreter', unit', folder?', daemon'⟩ := t
  simp only [Option.some.injEq, Json.str.injEq, Json.int.injEq, Json.bool.injEq,
    Int.natCast_inj] at hinterpreter hunit hdaemon
  obtain rfl : folder? = folder?' := by
    cases folder? <;> cases folder?' <;> simp_all
  rw [hinterpreter, hunit, hdaemon]

private theorem Fits.mem (h : Fits name value) : name ∈ fieldNames := by
  cases h <;> decide

/-- The settings themselves are written with values that fit. -/
private theorem fits_written (h : s.indentUnit < Nat.pow 2 64) (hname : name ∈ fieldNames) :
    ∃ v, Assoc.find? s.written name = some v ∧ Fits name v := by
  simp only [fieldNames, List.mem_cons, List.not_mem_nil, or_false] at hname
  obtain rfl | rfl | rfl | rfl := hname
  · exact ⟨_, rfl, .interpreter _⟩
  · exact ⟨_, rfl, .unit h⟩
  · cases hfolder : s.buildFolder? with
    | none => exact ⟨.null, by simp [written, Assoc.find?, hfolder], .noFolder⟩
    | some text => exact ⟨.str text, by simp [written, Assoc.find?, hfolder], .folder text⟩
  · exact ⟨_, rfl, .daemon _⟩

/-! ## One field -/

/-- `setField` of the number among the settings. -/
private theorem setField_indentUnit (s : Settings) (value : Json) :
    s.setField "indentUnit" value =
      (value.decodeNat (Nat.pow 2 64) "usize").map fun v => { s with indentUnit := v } :=
  rfl

/-- `setField` takes a value that fits, and changes no other field. -/
private theorem exists_setField (h : Fits name value) (s : Settings) :
    ∃ t, s.setField name value = .ok t ∧
      ∀ key, Assoc.find? t.written key =
        if key = name then some value else Assoc.find? s.written key := by
  cases h with
  | interpreter text =>
    refine ⟨{ s with interpreter := text }, rfl, fun key => ?_⟩
    grind [written, Assoc.find?]
  | @unit n h =>
    refine ⟨{ s with indentUnit := n }, ?_, fun key => ?_⟩
    · rw [setField_indentUnit, Json.decodeNat_of_lt h]
      rfl
    · grind [written, Assoc.find?]
  | folder text =>
    refine ⟨{ s with buildFolder? := some text }, rfl, fun key => ?_⟩
    grind [written, Assoc.find?]
  | noFolder =>
    refine ⟨{ s with buildFolder? := none }, rfl, fun key => ?_⟩
    grind [written, Assoc.find?]
  | daemon b =>
    refine ⟨{ s with daemonEnabled := b }, rfl, fun key => ?_⟩
    grind [written, Assoc.find?]

/-- `setField` refuses a value that does not fit, always with the same error. -/
private theorem setField_of_not_fits (hname : name ∈ fieldNames) (h : ¬ Fits name value) :
    ∃ e, ∀ s : Settings, s.setField name value = .error e := by
  simp only [fieldNames, List.mem_cons, List.not_mem_nil, or_false] at hname
  -- for each of the four settings, the kinds of values that it refuses
  obtain rfl | rfl | rfl | rfl := hname
  · cases value with
    | str text => exact absurd (.interpreter text) h
    | _ => exact ⟨_, fun s => rfl⟩
  · cases value with
    | int n =>
      refine ⟨.invalidValue (.int n) "usize", fun s => ?_⟩
      have hn : ∀ k : Nat, k < Nat.pow 2 64 → n ≠ k := by
        rintro k hk rfl
        exact h (.unit hk)
      rw [setField_indentUnit, Json.decodeNat_of_forall_ne hn]
      rfl
    | _ => exact ⟨_, fun s => rfl⟩
  · cases value with
    | str text => exact absurd (.folder text) h
    | null => exact absurd .noFolder h
    | _ => exact ⟨_, fun s => rfl⟩
  · cases value with
    | bool b => exact absurd (.daemon b) h
    | _ => exact ⟨_, fun s => rfl⟩

/-! ## All fields -/

/-- `setMembers` takes over members that fit. -/
private theorem exists_setMembers
    (h : ∀ name ∈ names, ∀ v, Assoc.find? members name = some v → Fits name v) (s : Settings) :
    ∃ t, s.setMembers members names = .ok t ∧
      ∀ key, Assoc.find? t.written key =
        if key ∈ names then (Assoc.find? members key).or (Assoc.find? s.written key)
        else Assoc.find? s.written key := by
  induction names generalizing s with
  | nil => exact ⟨s, rfl, fun key => by simp⟩
  | cons name names ih =>
    have hrest : ∀ name ∈ names, ∀ v, Assoc.find? members name = some v → Fits name v :=
      fun n hn => h n (List.mem_cons_of_mem _ hn)
    rw [setMembers]
    cases hfind : Assoc.find? members name with
    -- what the members do not have stays as it is, which is what `Option.or` says
    | none =>
      obtain ⟨t, ht, hwritten⟩ := ih hrest s
      refine ⟨t, ht, fun key => ?_⟩
      rw [hwritten]
      grind
    | some v =>
      obtain ⟨s', hs', hwritten'⟩ := exists_setField (h name List.mem_cons_self v hfind) s
      obtain ⟨t, ht, hwritten⟩ := ih hrest s'
      simp only [hs']
      refine ⟨t, ht, fun key => ?_⟩
      rw [hwritten, hwritten']
      grind

/-- `setMembers` reports a member that does not fit. -/
private theorem exists_setMembers_error (hnames : names ⊆ fieldNames) (hname : name ∈ names)
    (hfind : Assoc.find? members name = some value) (h : ¬ Fits name value) (s : Settings) :
    ∃ e, s.setMembers members names = .error e := by
  induction names generalizing s with
  | nil => cases hname
  | cons first names ih =>
    have hrest : name ≠ first → name ∈ names := fun hne => (List.mem_cons.mp hname).resolve_left hne
    rw [setMembers]
    by_cases hfirst : name = first
    · subst hfirst
      obtain ⟨e, he⟩ := setField_of_not_fits (hnames hname) h
      simp only [hfind, he]
      exact ⟨e, rfl⟩
    · have ih := ih (fun n hn => hnames (List.mem_cons_of_mem _ hn)) (hrest hfirst)
      split
      · -- what comes in front of the member either has an error of its own or leads on
        exact ih s
      · split
        · exact ih _
        · exact ⟨_, rfl⟩

/-- `setMembers` looks at the members with the names that are asked for only. -/
private theorem setMembers_congr {members' : Json.Members}
    (h : ∀ name ∈ names, Assoc.find? members' name = Assoc.find? members name) (s : Settings) :
    s.setMembers members' names = s.setMembers members names := by
  induction names generalizing s with
  | nil => rfl
  | cons first names ih =>
    have ih := ih fun n hn => h n (List.mem_cons_of_mem _ hn)
    rw [setMembers, setMembers, h first List.mem_cons_self]
    simp only [ih]

/-- Members that are put over the written settings give, over any settings, what they give over the
settings that were written. -/
private theorem setMembers_overwritten {overwritten : Json.Members} (hnodup : names.Nodup)
    (hwritten : ∀ name ∈ names, ∃ v, Assoc.find? s.written name = some v ∧ Fits name v)
    (hover : ∀ name ∈ names,
      Assoc.find? overwritten name = (Assoc.find? members name).or (Assoc.find? s.written name))
    (hagree : ∀ key ∉ names, Assoc.find? t.written key = Assoc.find? s.written key) :
    t.setMembers overwritten names = s.setMembers members names := by
  -- the fields of the names that are left may differ in the two, and are set in both or kept
  induction names generalizing s t with
  | nil =>
    have heq : t = s := eq_of_find?_written fun key _ => hagree key List.not_mem_nil
    rw [heq, setMembers, setMembers]
  | cons name names ih =>
    obtain ⟨hnot, hnodup⟩ := List.nodup_cons.mp hnodup
    obtain ⟨v, hv, hfits⟩ := hwritten name List.mem_cons_self
    have hne {key : String} (hkey : key ∈ names) : key ≠ name := fun heq => hnot (heq ▸ hkey)
    -- what is left to do once the field is the same in both
    have hrest {s' t' : Settings}
        (hs' : ∀ key, key ≠ name → Assoc.find? s'.written key = Assoc.find? s.written key)
        (ht' : ∀ key, key ≠ name → Assoc.find? t'.written key = Assoc.find? t.written key)
        (hsame : Assoc.find? t'.written name = Assoc.find? s'.written name) :
        t'.setMembers overwritten names = s'.setMembers members names := by
      refine ih hnodup (fun key hkey => ?_) (fun key hkey => ?_) fun key hkey => ?_
      · rw [hs' key (hne hkey)]
        exact hwritten key (List.mem_cons_of_mem _ hkey)
      · rw [hs' key (hne hkey)]
        exact hover key (List.mem_cons_of_mem _ hkey)
      · by_cases heq : key = name
        · rw [heq, hsame]
        · rw [hs' key heq, ht' key heq]
          exact hagree key (by simp [heq, hkey])
    rw [setMembers, setMembers, hover name List.mem_cons_self]
    cases hfind : Assoc.find? members name with
    -- a setting that the members do not have is read back from what was written
    | none =>
      obtain ⟨t', ht', hwritten'⟩ := exists_setField hfits t
      simp only [Option.none_or, hv, ht']
      refine hrest (fun _ _ => rfl) (fun key hkey => ?_) ?_
      · rw [hwritten', if_neg hkey]
      · rw [hwritten', if_pos rfl, hv]
    | some w =>
      by_cases hw : Fits name w
      · obtain ⟨t', ht', hwrittenT⟩ := exists_setField hw t
        obtain ⟨s', hs', hwrittenS⟩ := exists_setField hw s
        simp only [Option.some_or, ht', hs']
        refine hrest (fun key hkey => ?_) (fun key hkey => ?_) ?_
        · rw [hwrittenS, if_neg hkey]
        · rw [hwrittenT, if_neg hkey]
        · rw [hwrittenS, hwrittenT, if_pos rfl, if_pos rfl]
      · obtain ⟨e, he⟩ := setField_of_not_fits hfits.mem hw
        simp only [Option.some_or, he]

/-! ## Options -/

private theorem find?_options (o : Json) (name : String) :
    Assoc.find? (options o) name = o.get? name := by
  cases o <;> rfl

private theorem overriddenBy_eq (s : Settings) (o : Json) :
    s.overriddenBy o = s.setMembers (options o) fieldNames := by
  cases o <;> rfl

/-- `overriddenBy` takes options if all settings among them fit. Then the settings that follow are
written as the old ones with those of the options in their place. -/
theorem overriddenBy_eq_ok_iff {o : Json} :
    s.overriddenBy o = .ok t ↔
      (∀ name ∈ fieldNames, ∀ v, o.get? name = some v → Fits name v) ∧
        ∀ name ∈ fieldNames,
          Assoc.find? t.written name = (o.get? name).or (Assoc.find? s.written name) := by
  simp only [overriddenBy_eq, ← find?_options]
  constructor
  · intro h
    -- a value that does not fit would have been refused
    have hfits : ∀ name ∈ fieldNames, ∀ v, Assoc.find? (options o) name = some v → Fits name v := by
      intro name hname v hv
      refine Classical.byContradiction fun hnot => ?_
      obtain ⟨e, he⟩ := exists_setMembers_error (List.Subset.refl _) hname hv hnot s
      rw [he] at h
      cases h
    obtain ⟨t', ht', hwritten⟩ := exists_setMembers hfits s
    obtain rfl : t' = t := Except.ok.inj (ht'.symm.trans h)
    exact ⟨hfits, fun name hname => by rw [hwritten, if_pos hname]⟩
  · rintro ⟨hfits, hwritten⟩
    obtain ⟨t', ht', hwritten'⟩ := exists_setMembers hfits s
    -- settings that are written alike are the same
    have heq : t' = t := eq_of_find?_written fun name hname => by
      rw [hwritten', if_pos hname, hwritten name hname]
    rw [ht', heq]

/-- In `union` the members of the second options come first. -/
private theorem get?_union (first second : Json) (name : String) :
    (union first second).get? name = (second.get? name).or (first.get? name) := by
  rw [← find?_options first, ← find?_options second, ← Assoc.find?_extend]
  rfl

/-- `overriddenBy` fails if some setting among the options does not fit. -/
private theorem overriddenBy_eq_error_iff {o : Json} :
    (∃ e, s.overriddenBy o = .error e) ↔
      ∃ members, o = .obj members ∧
        ∃ name ∈ fieldNames, ∃ v, Assoc.find? members name = some v ∧ ¬ Fits name v := by
  constructor
  · rintro ⟨e, he⟩
    refine Classical.byContradiction fun hnone => ?_
    -- if all settings fitted, all would be taken over
    have hfits : ∀ name ∈ fieldNames, ∀ v, Assoc.find? (options o) name = some v → Fits name v := by
      intro name hname v hv
      refine Classical.byContradiction fun hnot => hnone ?_
      cases o with
      | obj members => exact ⟨members, rfl, name, hname, v, hv, hnot⟩
      | _ => cases hv
    obtain ⟨t, ht, -⟩ := exists_setMembers hfits s
    rw [overriddenBy_eq, ht] at he
    cases he
  · rintro ⟨members, rfl, name, hname, v, hv, hnot⟩
    exact exists_setMembers_error (List.Subset.refl _) hname hv hnot s

/-- `overriddenBy` gives what is read after the members have overwritten the settings one by one. -/
private theorem overriddenBy_eq_setMembers_written (hunit : s.indentUnit < Nat.pow 2 64)
    (hnodup : (Assoc.names members).Nodup) (t : Settings) :
    s.overriddenBy (.obj members) =
      t.setMembers (members.foldl (fun l m => Assoc.set l m.1 m.2) s.written) fieldNames := by
  refine (setMembers_overwritten (by decide) (fun name => fits_written hunit) (fun name _ => ?_)
    ?_).symm
  · rw [Assoc.find?_foldl_set, Assoc.find?_reverse hnodup]
  · -- nothing else is written in either
    intro key hkey
    rw [Assoc.find?_eq_none_of_not_mem hkey, Assoc.find?_eq_none_of_not_mem hkey]

/-- Two options that are taken in turn give what their `union` gives. -/
private theorem overriddenBy_union {first second : Json} (ht : s.overriddenBy first = .ok t)
    (hu : t.overriddenBy second = .ok u) : s.overriddenBy (union first second) = .ok u := by
  obtain ⟨hfits, hwritten⟩ := overriddenBy_eq_ok_iff.mp ht
  obtain ⟨hfits', hwritten'⟩ := overriddenBy_eq_ok_iff.mp hu
  refine overriddenBy_eq_ok_iff.mpr ⟨fun name hname v hv => ?_, fun name hname => ?_⟩
  · rw [get?_union] at hv
    obtain hv | ⟨-, hv⟩ := Option.or_eq_some_iff.mp hv
    · exact hfits' name hname v hv
    · exact hfits name hname v hv
  · rw [get?_union, hwritten' name hname, hwritten name hname, Option.or_assoc]

/-- `configure` ignores options that fail. -/
private theorem configure_of_error {w : Workspace} {o : Json}
    (h : w.settings.overriddenBy o = .error e) :
    w.configure (some o) = w := by
  simp only [Workspace.configure, Option.map_some, h]

/-- Options fail if and only if they are an object in which some setting has a value that does not
fit. Otherwise each setting that is listed has the value given there and the others stay as they
were; members that are no settings make no difference. Settings that are written, overwritten member
by member and read over any others give the same result. What follows from two options in turn
follows from their union, and options that fail leave a workspace as it was. -/
theorem overriddenBy_laws (s : Settings) (first second : Json) :
    ((∃ e, s.overriddenBy first = .error e) ↔
      ∃ members, first = .obj members ∧
        ∃ name ∈ fieldNames, ∃ v, Assoc.find? members name = some v ∧ ¬ Fits name v) ∧
    (∀ t, s.overriddenBy first = .ok t → ∀ name ∈ fieldNames,
      Assoc.find? t.written name = (first.get? name).or (Assoc.find? s.written name)) ∧
    (∀ other : Json, (∀ name ∈ fieldNames, other.get? name = first.get? name) →
      s.overriddenBy other = s.overriddenBy first) ∧
    (∀ members t, s.indentUnit < Nat.pow 2 64 → (Assoc.names members).Nodup →
      s.overriddenBy (.obj members) =
        setMembers t (members.foldl (fun l m => Assoc.set l m.1 m.2) s.written) fieldNames) ∧
    (∀ t u, s.overriddenBy first = .ok t → t.overriddenBy second = .ok u →
      s.overriddenBy (union first second) = .ok u) ∧
    (∀ e, s.overriddenBy first = .error e →
      (∀ w : Workspace, w.settings = s → w.configure (some first) = w) ∧
        (Session.start s (some first)).2.workspace.settings = s) := by
  refine ⟨overriddenBy_eq_error_iff, fun t ht => (overriddenBy_eq_ok_iff.mp ht).2, ?_,
    fun members t hunit hnodup => overriddenBy_eq_setMembers_written hunit hnodup t,
    fun t u => overriddenBy_union, ?_⟩
  · intro other h
    -- only members that are settings are looked at
    rw [overriddenBy_eq, overriddenBy_eq]
    exact setMembers_congr (fun name hname => by
      rw [find?_options, find?_options, h name hname]) s
  · intro e he
    refine ⟨fun w hw => configure_of_error (hw ▸ he), ?_⟩
    have hkeep : (Workspace.ofSettings s).configure (some first) = .ofSettings s :=
      configure_of_error he
    rw [Session.start, hkeep]
    rfl

/-- Options with another member, and options of which the last one does not fit. -/
theorem overriddenBy_laws_default :
    let first : Json := .obj [("indentUnit", .int 4), ("theme", .str "dark")]
    let second : Json := .obj [("buildDirName", .str "out"), ("indentUnit", .int 8)]
    let wide : Json := .obj [("enableDaemon", .bool false), ("indentUnit", .str "wide")]
    Assoc.find? (⟨"python3", 4, none, true⟩ : Settings).written "indentUnit" = some (.int 4) ∧
      default.overriddenBy (union first second) = .ok ⟨"python3", 8, some "out", true⟩ ∧
      (Session.start default (some wide)).2.workspace.settings = default := by
  intro first second wide
  obtain ⟨-, hwritten, -, -, hunion, -⟩ := overriddenBy_laws default first second
  obtain ⟨-, -, -, -, -, hfails⟩ := overriddenBy_laws default wide second
  exact ⟨hwritten _ rfl "indentUnit" (by decide), hunion _ _ rfl rfl, (hfails _ rfl).2⟩

end Settings

end PrimitiveDesk

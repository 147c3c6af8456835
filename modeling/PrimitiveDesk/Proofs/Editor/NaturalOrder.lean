import PrimitiveDesk.Editor.Signature

/-!
# The natural order of type names

Names are ordered by their first numbers and then by their texts, and a name without a number that
fits comes last (`naturalLe_iff`). The texts decide in the end, so only a name itself stands both
before and behind it (`naturalLe_antisymm`). A list that is sorted by such an order and holds
nothing twice is determined by its members (`Enumerates.unique`); all parts of a signature are lists
of this kind (`enumerates_group`, `enumerates_sharedWidths`), and so neither `labels` nor `ofTypes`
depends on anything but the names that occur (`labels_congr`, `signature_of_same_names`).
-/

namespace PrimitiveDesk.Signature

open Text

/-! ## The order -/

/-- One number comes before another; a missing number comes last. -/
def NumberBefore : Option Nat → Option Nat → Prop
  | some x, some y => x < y
  | some _, none => True
  | none, _ => False

/-- `NumberBefore` is transitive. -/
private theorem NumberBefore.trans {x y z : Option Nat} (h : NumberBefore x y)
    (h' : NumberBefore y z) :
    NumberBefore x z := by
  cases x with
  | none => exact h.elim
  | some x =>
    cases z with
    | none => trivial
    | some z =>
      cases y with
      | none => exact h'.elim
      | some y => exact Nat.lt_trans h h'

/-- No number comes before itself, and neither does a missing one. -/
private theorem not_numberBefore_self (x : Option Nat) : ¬ NumberBefore x x := by
  cases x with
  | none => exact id
  | some x => exact Nat.lt_irrefl x

/-- Of two different numbers one comes before the other. -/
private theorem numberBefore_or_eq (x y : Option Nat) :
    NumberBefore x y ∨ x = y ∨ NumberBefore y x := by
  cases x with
  | none =>
    cases y with
    | none => exact .inr (.inl rfl)
    | some y => exact .inr (.inr trivial)
  | some x =>
    cases y with
    | none => exact .inl trivial
    | some y => simpa [NumberBefore] using Nat.lt_trichotomy x y

/-- `naturalLe` compares the first numbers first, then the texts. -/
theorem naturalLe_iff {a b : String} :
    naturalLe a b = true ↔
      NumberBefore (firstNumber? a) (firstNumber? b) ∨
        firstNumber? a = firstNumber? b ∧ a ≤ b := by
  unfold naturalLe
  cases firstNumber? a with
  | none => cases firstNumber? b <;> simp [NumberBefore]
  | some x => cases firstNumber? b <;> simp [NumberBefore]

/-- Of two names one stands before the other. -/
private theorem naturalLe_total (a b : String) : naturalLe a b = true ∨ naturalLe b a = true := by
  rw [naturalLe_iff, naturalLe_iff]
  rcases numberBefore_or_eq (firstNumber? a) (firstNumber? b) with h | h | h
  · exact .inl (.inl h)
  · rcases String.le_total a b with hab | hba
    · exact .inl (.inr ⟨h, hab⟩)
    · exact .inr (.inr ⟨h.symm, hba⟩)
  · exact .inr (.inl h)

/-- `naturalLe` is transitive. -/
private theorem naturalLe_trans {a b c : String} (hab : naturalLe a b = true)
    (hbc : naturalLe b c = true) : naturalLe a c = true := by
  rw [naturalLe_iff] at hab hbc ⊢
  -- where both pairs have equal numbers the texts are compared, otherwise a number decides
  rcases hab with hab | ⟨hab, hle⟩
  · rcases hbc with hbc | ⟨hbc, -⟩
    · exact .inl (hab.trans hbc)
    · exact .inl (hbc ▸ hab)
  · rcases hbc with hbc | ⟨hbc, hle'⟩
    · exact .inl (hab ▸ hbc)
    · exact .inr ⟨hab.trans hbc, String.le_trans hle hle'⟩

/-- Only a name itself stands both before and behind it. -/
theorem naturalLe_antisymm {a b : String} (hab : naturalLe a b = true)
    (hba : naturalLe b a = true) : a = b := by
  rw [naturalLe_iff] at hab hba
  rcases hab with hab | ⟨hab, hle⟩
  · rcases hba with hba | ⟨hba, -⟩
    · exact absurd (hab.trans hba) (not_numberBefore_self _)
    · exact absurd (hba ▸ hab) (not_numberBefore_self _)
  · rcases hba with hba | ⟨-, hle'⟩
    · exact absurd (hab ▸ hba) (not_numberBefore_self _)
    · exact String.le_antisymm hle hle'

/-! ## Sorted lists without repetitions -/

/-- A total order in which only a thing itself stands both before and behind it. -/
structure IsOrder {α : Type} (le : α → α → Bool) : Prop where
  total : ∀ a b, le a b = true ∨ le b a = true
  trans : ∀ a b c, le a b = true → le b c = true → le a c = true
  antisymm : ∀ a b, le a b = true → le b a = true → a = b

private theorem isOrder_naturalLe : IsOrder naturalLe where
  total := naturalLe_total
  trans _ _ _ := naturalLe_trans
  antisymm _ _ := naturalLe_antisymm

private theorem isOrder_width : IsOrder fun m n : Nat => decide (m ≤ n) where
  total m n := by simpa using Nat.le_total m n
  trans m n k := by simpa using Nat.le_trans
  antisymm m n := by simpa using Nat.le_antisymm

/-- The list holds exactly what has the property, each thing once and in order. -/
structure Enumerates {α : Type} (le : α → α → Bool) (P : α → Prop) (l : List α) : Prop where
  sorted : l.Pairwise fun a b => le a b = true ∧ a ≠ b
  mem_iff : ∀ a, a ∈ l ↔ P a

section Sorted

variable {α : Type} {le : α → α → Bool} {P Q : α → Prop} {l l' : List α}

/-- `Enumerates` depends on what has the property only. -/
theorem Enumerates.congr (h : Enumerates le P l) (hPQ : ∀ a, P a ↔ Q a) : Enumerates le Q l :=
  ⟨h.sorted, fun a => (h.mem_iff a).trans (hPQ a)⟩

theorem Enumerates.nodup (h : Enumerates le P l) : l.Nodup :=
  h.sorted.imp And.right

/-- Such a list is determined by the property. -/
theorem Enumerates.unique (hle : IsOrder le) (h : Enumerates le P l) (h' : Enumerates le P l') :
    l = l' := by
  -- both lists have the same members and none twice, so one is a permutation of the other
  have hperm : l.Perm l' := by
    refine (List.perm_ext_iff_of_nodup h.nodup h'.nodup).mpr fun a => ?_
    rw [h.mem_iff, h'.mem_iff]
  exact hperm.eq_of_pairwise (fun a b _ _ => hle.antisymm a b) (h.sorted.imp And.left)
    (h'.sorted.imp And.left)

variable [BEq α]

/-- What the loop of `eraseReps` has collected stands in front of what it still finds. -/
private theorem eraseRepsLoop_eq_append (a : α) (as acc : List α) :
    List.eraseRepsBy.loop (· == ·) a as acc =
      acc.reverse ++ List.eraseRepsBy.loop (· == ·) a as [] := by
  induction as generalizing a acc with
  | nil => simp [List.eraseRepsBy.loop]
  | cons b as ih =>
    simp only [List.eraseRepsBy.loop]
    split
    · exact ih a acc
    · rw [ih b (a :: acc), ih b [a]]
      simp

variable [LawfulBEq α]

/-- Of two neighbours that are the same, `eraseReps` leaves one out. -/
private theorem eraseReps_cons_cons (a b : α) (as : List α) :
    (a :: b :: as).eraseReps =
      if a == b then (b :: as).eraseReps else a :: (b :: as).eraseReps := by
  simp only [List.eraseReps, List.eraseRepsBy, List.eraseRepsBy.loop]
  split
  · next h =>
    rw [if_pos h, eq_of_beq h]
  · next h =>
    rw [if_neg (by simp [h]), eraseRepsLoop_eq_append b as [a]]
    rfl

/-- A sorted list without repetitions of neighbours enumerates its members. -/
private theorem enumerates_eraseReps (hle : IsOrder le) (h : l.Pairwise fun a b => le a b = true) :
    Enumerates le (· ∈ l) l.eraseReps := by
  -- by induction on the list, two elements at a time as `eraseReps` looks at neighbours
  induction l with
  | nil => exact ⟨.nil, fun a => .rfl⟩
  | cons a l ih =>
    cases l with
    | nil => exact ⟨List.pairwise_singleton _ _, fun b => .rfl⟩
    | cons b l =>
      obtain ⟨hfirst, hrest⟩ := List.pairwise_cons.mp h
      have hlist := ih hrest
      rw [eraseReps_cons_cons]
      split
      · next hab =>
        rw [eq_of_beq hab]
        exact hlist.congr fun c => by simp
      · next hab =>
        refine ⟨List.pairwise_cons.mpr ⟨fun c hc => ?_, hlist.sorted⟩, fun c => ?_⟩
        · have hc := (hlist.mem_iff c).mp hc
          refine ⟨hfirst c hc, ?_⟩
          -- if it came again further on, its neighbour would stand both before and behind it
          rintro rfl
          have hba : le b a = true := by
            rcases List.mem_cons.mp hc with rfl | hc
            · exact absurd (beq_self_eq_true a) hab
            · exact (List.pairwise_cons.mp hrest).1 a hc
          exact hab (beq_iff_eq.mpr (hle.antisymm a b (hfirst b List.mem_cons_self) hba))
        · rw [List.mem_cons, List.mem_cons, hlist.mem_iff]

/-- Sorting a list and leaving out repetitions enumerates its members. -/
theorem enumerates_sorted (hle : IsOrder le) (l : List α) :
    Enumerates le (· ∈ l) (l.mergeSort le).eraseReps := by
  have hsorted := List.pairwise_mergeSort hle.trans
    (fun a b => Bool.or_eq_true_iff.mpr (hle.total a b)) l
  exact (enumerates_eraseReps hle hsorted).congr fun a => (List.mergeSort_perm l le).mem_iff

end Sorted

/-! ## Signatures -/

/-- `group` enumerates the names. -/
theorem enumerates_group (names : List String) :
    Enumerates naturalLe (· ∈ names) (group names) :=
  enumerates_sorted isOrder_naturalLe names

/-- `sharedWidths` enumerates the widths that occur both signed and unsigned. -/
theorem enumerates_sharedWidths (ts : List TypeName) :
    Enumerates (fun m n => decide (m ≤ n)) (fun w => w ∈ unsignedWidths ts ∧ w ∈ signedWidths ts)
      (sharedWidths ts) :=
  (enumerates_sorted isOrder_width _).congr fun w => by simp

section Congr

variable {ts ts' : List TypeName} (h : ∀ t, t ∈ ts ↔ t ∈ ts')

include h

/-- What is picked from a list depends on its members only. -/
private theorem mem_filterMap_congr {β : Type} (f : TypeName → Option β) (x : β) :
    x ∈ ts.filterMap f ↔ x ∈ ts'.filterMap f := by
  simp only [List.mem_filterMap, h]

/-- `group` of names that are picked from a list depends on the members of the list only. -/
private theorem group_filterMap_congr (f : TypeName → Option String) :
    group (ts.filterMap f) = group (ts'.filterMap f) :=
  (enumerates_group _).unique isOrder_naturalLe
    ((enumerates_group _).congr fun name => (mem_filterMap_congr h f name).symm)

/-- `sharedWidths` depends on the members of the list only. -/
private theorem sharedWidths_congr : sharedWidths ts = sharedWidths ts' := by
  refine (enumerates_sharedWidths ts).unique isOrder_width
    ((enumerates_sharedWidths ts').congr fun w => ?_)
  unfold unsignedWidths signedWidths
  rw [mem_filterMap_congr h, mem_filterMap_congr h]

/-- `labels` depends on the members of the list only, neither on their order nor on repetitions. -/
theorem labels_congr : labels ts = labels ts' := by
  unfold labels
  dsimp only
  rw [sharedWidths_congr h]
  simp only [group_filterMap_congr h]

end Congr

/-- What a type stands for is read from its trimmed name alone. -/
theorem map_of_trim (types : List String) :
    (types.map fun t => TypeName.of (trimString t)) =
      (types.map trimString).map TypeName.of := by
  rw [List.map_map]
  rfl

/-- The natural order is a total order in which only a name itself stands both before and behind
it. Two lists with the same trimmed names have the same signature, whatever the order and the
repetitions in them. -/
theorem signature_of_same_names :
    (∀ a b, naturalLe a b = true ∨ naturalLe b a = true) ∧
    (∀ a b c, naturalLe a b = true → naturalLe b c = true → naturalLe a c = true) ∧
    (∀ a b, naturalLe a b = true → naturalLe b a = true → a = b) ∧
    ∀ types types' : List String,
      (∀ name, name ∈ types.map trimString ↔ name ∈ types'.map trimString) →
        ofTypes types = ofTypes types' := by
  refine ⟨naturalLe_total, fun _ _ _ => naturalLe_trans, fun _ _ => naturalLe_antisymm, ?_⟩
  intro types types' h
  -- the types that the names stand for are the same as well
  have hmem : ∀ t, t ∈ (types.map trimString).map TypeName.of ↔
      t ∈ (types'.map trimString).map TypeName.of := by
    intro t
    simp only [List.mem_map (f := TypeName.of), h]
  unfold ofTypes
  rw [map_of_trim, map_of_trim, labels_congr hmem]

/-- A width that does not fit counts as zero, and a number that does not fit counts as none; the
order of the names still decides nothing. -/
theorem signature_of_same_names_wide :
    ofTypes ["uint0_t", " int99999999999999999999_t", "bool", "uint0_t\t"] =
      ofTypes ["bool", "int99999999999999999999_t", "uint0_t"] := by
  refine signature_of_same_names.2.2.2 _ _ fun name => ?_
  have hleft : (["uint0_t", " int99999999999999999999_t", "bool", "uint0_t\t"].map trimString) =
      ["uint0_t", "int99999999999999999999_t", "bool", "uint0_t"] := by decide
  have hright : (["bool", "int99999999999999999999_t", "uint0_t"].map trimString) =
      ["bool", "int99999999999999999999_t", "uint0_t"] := by decide
  rw [hleft, hright]
  simp only [List.mem_cons, List.not_mem_nil]
  grind

end PrimitiveDesk.Signature

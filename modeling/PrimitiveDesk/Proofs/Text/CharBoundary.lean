import PrimitiveDesk.Text.Lines

/-!
# Character boundaries

The byte offsets at which a text can be cut without cutting a character: the ends of its parts
(`isCharBoundary_iff`). The offset of a character by `byteOffset` is one, whatever its index
(`isCharBoundary_byteOffset`), and so is the offset behind it (`IsCharBoundary.nextBoundary`).
Offsets are ordered like characters (`byteOffset_le_byteOffset`, `byteOffset_lt_byteOffset`).
-/

namespace PrimitiveDesk.Text

/-- Whether the text can be cut at a byte offset. -/
def IsCharBoundary (text : String) (n : Nat) : Prop :=
  (⟨n⟩ : String.Pos.Raw).IsValid text

/-- `byteLength` adds up over the parts of a text. -/
theorem byteLength_append (xs ys : List Char) :
    byteLength (xs ++ ys) = byteLength xs + byteLength ys := by
  induction xs with
  | nil => simp [byteLength]
  | cons c xs ih => simp only [List.cons_append, byteLength, ih, Nat.add_assoc]

/-- `byteLength` is the length of the text's encoding. -/
theorem byteLength_eq_utf8ByteSize (cs : List Char) :
    byteLength cs = (String.ofList cs).utf8ByteSize := by
  induction cs with
  | nil => rfl
  | cons c cs ih =>
    rw [String.ofList_cons, String.utf8ByteSize_append, String.utf8ByteSize_singleton, ← ih,
      byteLength]

theorem byteLength_toList (text : String) : byteLength text.toList = text.utf8ByteSize := by
  rw [byteLength_eq_utf8ByteSize, String.ofList_toList]

/-- `byteOffset` of a character is the length of what stands in front of it. -/
theorem byteOffset_eq_byteLength_take (cs : List Char) (n : Nat) :
    byteOffset cs n = byteLength (cs.take n) := by
  induction cs generalizing n with
  | nil => cases n <;> rfl
  | cons c cs ih =>
    cases n with
    | zero => rfl
    | succ n => rw [byteOffset, List.take_succ_cons, byteLength, ih]

/-- The boundaries of a text are the offsets of its characters and its end. -/
theorem isCharBoundary_iff {text : String} {n : Nat} :
    IsCharBoundary text n ↔ ∃ i, n = byteOffset text.toList i := by
  unfold IsCharBoundary
  rw [String.Pos.Raw.isValid_iff_exists_take_toList]
  simp only [byteOffset_eq_byteLength_take, byteLength_eq_utf8ByteSize]

/-- The offset of a character is a boundary, also past the end. -/
theorem isCharBoundary_byteOffset (text : String) (i : Nat) :
    IsCharBoundary text (byteOffset text.toList i) :=
  isCharBoundary_iff.mpr ⟨i, rfl⟩

/-- A boundary lies inside the text. -/
theorem IsCharBoundary.le_utf8ByteSize {text : String} {n : Nat} (h : IsCharBoundary text n) :
    n ≤ text.utf8ByteSize :=
  String.Pos.Raw.IsValid.le_utf8ByteSize h

/-- A text that starts with a character has bytes, and those of the character come first. -/
theorem exists_byteLength_cons (c : Char) (xs : List Char) :
    ∃ k, byteLength (c :: xs) = k + 1 ∧ k + 1 = c.utf8Size + byteLength xs := by
  have hpos := c.utf8Size_pos
  exact ⟨c.utf8Size + byteLength xs - 1, by simp only [byteLength]; omega, by omega⟩

/-- `dropBytes?` finds the rest of a text behind the bytes of a part. -/
theorem dropBytes?_append (xs ys : List Char) :
    dropBytes? (xs ++ ys) (byteLength xs) = some ys := by
  induction xs with
  | nil => simp [byteLength, dropBytes?]
  | cons c xs ih =>
    obtain ⟨k, hk, hlen⟩ := exists_byteLength_cons c xs
    rw [hk, List.cons_append, dropBytes?, if_pos (by omega)]
    rw [show k + 1 - c.utf8Size = byteLength xs by omega, ih]

/-- `dropBytes?` finds the text from a character on behind its offset. -/
theorem dropBytes?_byteOffset (cs : List Char) (i : Nat) :
    dropBytes? cs (byteOffset cs i) = some (cs.drop i) := by
  have hsplit := dropBytes?_append (cs.take i) (cs.drop i)
  rwa [List.take_append_drop, ← byteOffset_eq_byteLength_take] at hsplit

/-- `byteOffset` grows by the bytes of the characters in between. -/
theorem byteOffset_add (cs : List Char) (i n : Nat) :
    byteOffset cs (i + n) = byteOffset cs i + byteLength ((cs.drop i).take n) := by
  rw [byteOffset_eq_byteLength_take, byteOffset_eq_byteLength_take, List.take_add,
    byteLength_append]

/-- A later character has no smaller `byteOffset`. -/
theorem byteOffset_le_byteOffset (cs : List Char) {i j : Nat} (h : i ≤ j) :
    byteOffset cs i ≤ byteOffset cs j := by
  obtain ⟨n, rfl⟩ := Nat.exists_eq_add_of_le h
  rw [byteOffset_add]
  exact Nat.le_add_right _ _

/-- A character takes at least one byte, so what follows it has a larger `byteOffset`. -/
theorem byteOffset_lt_byteOffset (cs : List Char) {i j : Nat} (hi : i < cs.length) (h : i < j) :
    byteOffset cs i < byteOffset cs j := by
  refine Nat.lt_of_lt_of_le ?_ (byteOffset_le_byteOffset cs (Nat.succ_le_of_lt h))
  rw [Nat.succ_eq_add_one, byteOffset_add, List.drop_eq_getElem_cons hi, List.take_succ_cons,
    byteLength]
  have := cs[i].utf8Size_pos
  omega

/-- `nextBoundary` leads from a boundary to a boundary. -/
theorem IsCharBoundary.nextBoundary {text : String} {n : Nat} (h : IsCharBoundary text n) :
    IsCharBoundary text (nextBoundary text.toList n) := by
  obtain ⟨i, rfl⟩ := isCharBoundary_iff.mp h
  unfold Text.nextBoundary
  rw [dropBytes?_byteOffset]
  cases hrest : text.toList.drop i with
  | nil => exact h
  | cons c rest =>
    -- the character belongs to the part that ends one character later
    have hget : text.toList[i]? = some c := by
      rw [← List.head?_drop, hrest, List.head?_cons]
    have hnext : byteOffset text.toList (i + 1) = byteOffset text.toList i + c.utf8Size := by
      rw [byteOffset_eq_byteLength_take, byteOffset_eq_byteLength_take, List.take_add_one, hget,
        byteLength_append]
      rfl
    dsimp only
    rw [← hnext]
    exact isCharBoundary_byteOffset text (i + 1)

end PrimitiveDesk.Text

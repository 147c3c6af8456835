import Mathlib.Data.List.Nodup
import PrimitiveDesk.Proofs.Editor.NaturalOrder

/-!
# The labels of a signature

A signature joins two integer types by their widths, and a width is a number; what is listed are
names. The two agree if the names of integer types write their widths in the usual way
(`Canonical`). Then every name has exactly one place: it is joined with its counterpart, or it is
listed in the group of its kind. `labels_of_canonical` gives the labels of `ofTypes`, group by
group.
-/

namespace PrimitiveDesk.Signature

open Text

/-! ## Numbers -/

/-- `readDigits?` reads digits of ASCII as the number that they write. -/
private theorem readDigits?_ten {cs : List Char} (h : ∀ c ∈ cs, c.isDigit = true) (acc : Nat) :
    readDigits? 10 acc cs = some (Nat.ofDigitChars 10 cs acc) := by
  induction cs generalizing acc with
  | nil => rfl
  | cons c cs ih =>
    obtain ⟨hc, hcs⟩ := List.forall_mem_cons.mp h
    obtain ⟨hlow, hhigh⟩ : 48 ≤ c.toNat ∧ c.toNat ≤ 57 := Char.isDigit_iff_toNat.mp hc
    -- the value of a digit of ASCII is its distance from `0`
    have hvalue : digitValue? c = some (c.toNat - 48) := by
      have hrange : ('0' ≤ c && c ≤ '9') = true := by
        rw [Bool.and_eq_true, decide_eq_true_iff, decide_eq_true_iff]
        exact ⟨hlow, hhigh⟩
      rw [digitValue?, if_pos hrange]
    rw [readDigits?, hvalue, Nat.ofDigitChars_cons]
    dsimp only
    rw [if_pos (by omega), ih hcs, Nat.mul_comm acc 10]
    rfl

/-- `decimal` writes digits of ASCII. -/
private theorem isDigit_of_mem_decimal {n : Nat} {c : Char} (h : c ∈ (decimal n).toList) :
    c.isDigit = true := by
  rw [decimal, String.toList_ofList] at h
  exact Nat.isDigit_of_mem_toDigits (by decide) (by decide) h

/-- The digits of the standard library are those of `isAsciiDigit`. -/
private theorem isAsciiDigit_of_isDigit {c : Char} (h : c.isDigit = true) :
    isAsciiDigit c = true := by
  have := Char.isDigit_iff_toNat.mp h
  rw [isAsciiDigit, Bool.and_eq_true, decide_eq_true_iff, decide_eq_true_iff]
  exact this

/-- Digits of ASCII are among those of all scripts. -/
private theorem isDecimal_of_isDigit {c : Char} (h : c.isDigit = true) : isDecimal c = true := by
  have hrange : 48 ≤ c.toNat ∧ c.toNat ≤ 57 := Char.isDigit_iff_toNat.mp h
  refine List.any_eq_true.mpr ⟨0x30, by decide, ?_⟩
  simp only [Bool.and_eq_true, decide_eq_true_eq]
  omega

private theorem decimal_ne_nil (n : Nat) : (decimal n).toList ≠ [] := by
  rw [decimal, String.toList_ofList]
  exact Nat.toDigits_ne_nil

/-- `numberBelow?` reads the `decimal` text of a number as the number. -/
private theorem numberBelow?_decimal {n limit : Nat} (h : n < limit) :
    numberBelow? limit (decimal n).toList = some n := by
  have hdigits : (decimal n).toList.all isAsciiDigit = true :=
    List.all_eq_true.mpr fun c hc => isAsciiDigit_of_isDigit (isDigit_of_mem_decimal hc)
  have hread : readNat? 10 (decimal n).toList = some n := by
    rw [readNat?, if_neg (by simpa using decimal_ne_nil n),
      readDigits?_ten fun c => isDigit_of_mem_decimal, decimal, String.toList_ofList,
      Nat.ofDigitChars_ten_toDigits]
  rw [numberBelow?, if_pos hdigits, hread, Option.filter_some, if_pos (by simpa using h)]

/-- Different numbers have different `decimal` texts. -/
private theorem decimal_injective {m n : Nat} (h : (decimal m).toList = (decimal n).toList) :
    m = n := by
  rw [decimal, decimal, String.toList_ofList, String.toList_ofList] at h
  rw [← Nat.ofDigitChars_ten_toDigits (n := m), h, Nat.ofDigitChars_ten_toDigits]

/-! ## Integer types -/

/-- The text is `int…_t` around a row of digits of any script. -/
structure IsInteger (digits cs : List Char) : Prop where
  ne_nil : digits ≠ []
  decimal : ∀ c ∈ digits, isDecimal c = true
  eq : cs = 'i' :: 'n' :: 't' :: (digits ++ ['_', 't'])

/-- The digits of an integer type are determined by its name. -/
theorem IsInteger.unique {digits digits' cs : List Char} (h : IsInteger digits cs)
    (h' : IsInteger digits' cs) : digits = digits' := by
  have heq := h.eq.symm.trans h'.eq
  simpa using heq

/-- `fixedWidth?` gives integer types a width, which is zero if the digits are no number below
`2^32`. -/
theorem fixedWidth?_eq_some_iff {cs : List Char} {w : Nat} :
    fixedWidth? cs = some w ↔
      ∃ digits, IsInteger digits cs ∧ w = (numberBelow? (Nat.pow 2 32) digits).getD 0 := by
  constructor
  · intro h
    unfold fixedWidth? at h
    split at h
    · next rest =>
      dsimp only at h
      split at h
      · next hform =>
        rw [Bool.and_eq_true, Bool.not_eq_true', List.isEmpty_eq_false_iff, beq_iff_eq] at hform
        refine ⟨rest.takeWhile isDecimal, ⟨hform.1, ?_, ?_⟩, (Option.some.inj h).symm⟩
        · exact List.all_eq_true.mp List.all_takeWhile
        · rw [← hform.2, List.takeWhile_append_dropWhile]
      · cases h
    · cases h
  · rintro ⟨digits, ⟨hne, hdecimal, rfl⟩, rfl⟩
    -- the digits end in front of the underscore
    have htake : (digits ++ ['_', 't']).takeWhile isDecimal = digits := by
      rw [List.takeWhile_append_of_pos hdecimal]
      exact List.append_nil digits
    have hdrop : (digits ++ ['_', 't']).dropWhile isDecimal = ['_', 't'] := by
      rw [List.dropWhile_append_of_pos hdecimal]
      rfl
    simp only [fixedWidth?, htake, hdrop]
    rw [if_pos (by simpa using hne)]

/-- The name is an unsigned integer type with the given digits. -/
def IsUnsigned (digits : List Char) (name : String) : Prop :=
  ∃ rest, name.toList = 'u' :: rest ∧ IsInteger digits rest

/-- The width that `fixedWidth?` gives an integer type. -/
private theorem IsInteger.fixedWidth? {digits cs : List Char} (h : IsInteger digits cs) :
    fixedWidth? cs = some ((numberBelow? (Nat.pow 2 32) digits).getD 0) :=
  fixedWidth?_eq_some_iff.mpr ⟨digits, h, rfl⟩

/-- The signed integer type of a width. -/
def intType (w : Nat) : String := "int" ++ decimal w ++ "_t"

/-- The unsigned integer type of a width. -/
def uintType (w : Nat) : String := "uint" ++ decimal w ++ "_t"

/-- The label for both integer types of a width. -/
def pairLabel (w : Nat) : String := "(u)int" ++ decimal w ++ "_t"

/-- `intType` is an integer type. -/
theorem isInteger_intType (w : Nat) : IsInteger (decimal w).toList (intType w).toList where
  ne_nil := decimal_ne_nil w
  decimal c hc := isDecimal_of_isDigit (isDigit_of_mem_decimal hc)
  eq := by simp [intType]

/-- `uintType` is an unsigned integer type. -/
theorem isUnsigned_uintType (w : Nat) : IsUnsigned (decimal w).toList (uintType w) :=
  ⟨(intType w).toList, by simp [uintType, intType], isInteger_intType w⟩

private theorem head?_intType (w : Nat) : (intType w).toList.head? = some 'i' := by
  rw [(isInteger_intType w).eq]
  rfl

private theorem head?_uintType (w : Nat) : (uintType w).toList.head? = some 'u' := by
  obtain ⟨rest, hrest, -⟩ := isUnsigned_uintType w
  rw [hrest]
  rfl

/-- No type is both signed and unsigned. -/
private theorem uintType_ne_intType (v w : Nat) : uintType v ≠ intType w := by
  intro h
  have hhead := (head?_uintType v).symm.trans (h ▸ head?_intType w)
  cases hhead

private theorem intType_injective {v w : Nat} (h : intType v = intType w) : v = w :=
  decimal_injective ((isInteger_intType v).unique (h ▸ isInteger_intType w))

private theorem uintType_injective {v w : Nat} (h : uintType v = uintType w) : v = w := by
  obtain ⟨rest, hrest, hv⟩ := isUnsigned_uintType v
  obtain ⟨rest', hrest', hw⟩ := isUnsigned_uintType w
  rw [h, hrest'] at hrest
  cases hrest
  exact decimal_injective (hv.unique hw)

/-- An integer type with the decimal digits of a width is `intType`. -/
theorem IsInteger.eq_intType {w : Nat} {name : String}
    (h : IsInteger (Text.decimal w).toList name.toList) : name = intType w := by
  rw [← String.toList_inj, h.eq, ← (isInteger_intType w).eq]

/-- An unsigned integer type with the decimal digits of a width is `uintType`. -/
theorem IsUnsigned.eq_uintType {w : Nat} {name : String}
    (h : IsUnsigned (Text.decimal w).toList name) : name = uintType w := by
  obtain ⟨rest, hname, hrest⟩ := h
  obtain ⟨rest', hname', hrest'⟩ := isUnsigned_uintType w
  rw [← String.toList_inj, hname, hname', hrest.eq, hrest'.eq]

/-! ## What a name stands for -/

/-- The name that a type has. -/
def TypeName.name : TypeName → String
  | unsigned name _ => name
  | signed name _ => name
  | float name => name
  | double name => name
  | other name => name

/-- What a name stands for, in the order in which it is looked at. -/
inductive Stands (name : String) : TypeName → Prop
  | signed {w : Nat} (h : fixedWidth? name.toList = some w) : Stands name (.signed name w)
  | unsigned {w : Nat} {rest : List Char} (hname : name.toList = 'u' :: rest)
    (h : fixedWidth? rest = some w) : Stands name (.unsigned name w)
  | float (h : "float".toList <+: name.toList) : Stands name (.float name)
  | double (h : "double".toList <+: name.toList) : Stands name (.double name)
  | other (hsigned : fixedWidth? name.toList = none)
    (hunsigned : ∀ rest, name.toList = 'u' :: rest → fixedWidth? rest = none)
    (hfloat : ¬ "float".toList <+: name.toList) (hdouble : ¬ "double".toList <+: name.toList) :
    Stands name (.other name)

/-- `TypeName.of` gives what a name stands for. -/
theorem stands_of (name : String) : Stands name (TypeName.of name) := by
  unfold TypeName.of
  dsimp only
  split
  · next w h => exact .signed h
  · next hsigned =>
    split
    · next rest hname =>
      split
      · next w h => exact .unsigned hname h
      · next h =>
        -- a name that starts with `u` has no other beginning
        refine .other hsigned ?_ ?_ ?_
        · intro rest' hname'
          rw [hname] at hname'
          cases hname'
          exact h
        · rw [hname]
          rintro ⟨t, ht⟩
          cases ht
        · rw [hname]
          rintro ⟨t, ht⟩
          cases ht
    · next hhead =>
      split
      · next h => exact .float (List.isPrefixOf_iff_prefix.mp h)
      · next hfloat =>
        split
        · next h => exact .double (List.isPrefixOf_iff_prefix.mp h)
        · next hdouble =>
          refine .other hsigned (fun rest hname => absurd hname (hhead rest)) ?_ ?_
          · exact fun h => hfloat (List.isPrefixOf_iff_prefix.mpr h)
          · exact fun h => hdouble (List.isPrefixOf_iff_prefix.mpr h)

/-- A text with a width starts with its first letter. -/
private theorem head?_of_fixedWidth? {cs : List Char} {w : Nat} (h : fixedWidth? cs = some w) :
    cs.head? = some 'i' := by
  obtain ⟨digits, hinteger, -⟩ := fixedWidth?_eq_some_iff.mp h
  rw [hinteger.eq]
  rfl

/-- A text starts with the first letter of its beginning. -/
private theorem head?_eq_of_isPrefix {p cs : List Char} (hp : p ≠ []) (h : p <+: cs) :
    cs.head? = p.head? := by
  obtain ⟨t, rfl⟩ := h
  cases p with
  | nil => exact absurd rfl hp
  | cons c p => rfl

/-- A name stands for one thing only: the first letters of all kinds differ. -/
theorem Stands.unique {name : String} {t t' : TypeName} (h : Stands name t) (h' : Stands name t') :
    t = t' := by
  have hfloat (hf : "float".toList <+: name.toList) : name.toList.head? = some 'f' :=
    head?_eq_of_isPrefix (by decide) hf
  have hdouble (hd : "double".toList <+: name.toList) : name.toList.head? = some 'd' :=
    head?_eq_of_isPrefix (by decide) hd
  -- all pairs of kinds, of which only equal ones have one first letter
  cases h <;> cases h' <;> grind [head?_of_fixedWidth?]

private theorem Stands.name_eq {name : String} {t : TypeName} (h : Stands name t) :
    t.name = name := by
  cases h <;> rfl

/-- The types of a list of names are what the names stand for. -/
theorem mem_types_iff {names : List String} {t : TypeName} :
    t ∈ names.map TypeName.of ↔ t.name ∈ names ∧ Stands t.name t := by
  rw [List.mem_map]
  constructor
  · rintro ⟨name, hname, rfl⟩
    rw [(stands_of name).name_eq]
    exact ⟨hname, stands_of name⟩
  · rintro ⟨hname, ht⟩
    exact ⟨t.name, hname, (stands_of t.name).unique ht⟩

/-! ## Names that write their widths in the usual way -/

/-- All integer types among the names write their widths as decimal numbers below `2^32`, in digits
of ASCII and without needless zeros. -/
def Canonical (names : List String) : Prop :=
  ∀ name ∈ names, ∀ digits, IsInteger digits name.toList ∨ IsUnsigned digits name →
    ∃ w < Nat.pow 2 32, digits = (decimal w).toList

/-- `fixedWidth?` gives the width that is written in the usual way, if it is written so. -/
private theorem fixedWidth?_eq_some_iff_of_canonical {cs : List Char} {w : Nat}
    (h : ∀ digits, IsInteger digits cs → ∃ v < Nat.pow 2 32, digits = (decimal v).toList) :
    fixedWidth? cs = some w ↔ IsInteger (decimal w).toList cs := by
  constructor
  · intro hwidth
    obtain ⟨digits, hdigits, rfl⟩ := fixedWidth?_eq_some_iff.mp hwidth
    -- a number that does not fit would be read as zero, and the name would not be told by it
    obtain ⟨v, hv, rfl⟩ := h digits hdigits
    rw [numberBelow?_decimal hv]
    exact hdigits
  · intro hdigits
    obtain ⟨v, hv, heq⟩ := h _ hdigits
    obtain rfl := decimal_injective heq
    rw [hdigits.fixedWidth?, numberBelow?_decimal hv]
    rfl

namespace Canonical

variable {names : List String} {name : String} {w : Nat} (h : Canonical names)

include h

/-- The signed types of a width are the one name that writes it. -/
theorem signed_mem_iff :
    TypeName.signed name w ∈ names.map TypeName.of ↔ name ∈ names ∧ name = intType w := by
  rw [mem_types_iff]
  refine and_congr_right fun hname => ?_
  have hiff : fixedWidth? name.toList = some w ↔ IsInteger (decimal w).toList name.toList :=
    fixedWidth?_eq_some_iff_of_canonical fun digits hdigits => h name hname digits (.inl hdigits)
  constructor
  · intro hstands
    cases hstands with
    | signed hwidth => exact (hiff.mp hwidth).eq_intType
  · rintro rfl
    exact .signed (hiff.mpr (isInteger_intType w))

/-- The unsigned types of a width are the one name that writes it. -/
theorem unsigned_mem_iff :
    TypeName.unsigned name w ∈ names.map TypeName.of ↔ name ∈ names ∧ name = uintType w := by
  rw [mem_types_iff]
  refine and_congr_right fun hname => ?_
  have hiff {rest : List Char} (hrest : name.toList = 'u' :: rest) :
      fixedWidth? rest = some w ↔ IsInteger (decimal w).toList rest :=
    fixedWidth?_eq_some_iff_of_canonical fun digits hdigits =>
      h name hname digits (.inr ⟨rest, hrest, hdigits⟩)
  constructor
  · intro hstands
    cases hstands with
    | unsigned hrest hwidth => exact IsUnsigned.eq_uintType ⟨_, hrest, (hiff hrest).mp hwidth⟩
  · rintro rfl
    obtain ⟨rest, hrest, hdigits⟩ := isUnsigned_uintType w
    exact .unsigned hrest ((hiff hrest).mpr hdigits)

/-- `signedWidths` are those whose `intType` is there. -/
private theorem mem_signedWidths_iff :
    w ∈ signedWidths (names.map TypeName.of) ↔ intType w ∈ names := by
  rw [signedWidths, List.mem_filterMap]
  constructor
  · rintro ⟨t, ht, hw⟩
    cases t <;> cases hw
    obtain ⟨hname, rfl⟩ := h.signed_mem_iff.mp ht
    exact hname
  · exact fun hname => ⟨_, h.signed_mem_iff.mpr ⟨hname, rfl⟩, rfl⟩

/-- `unsignedWidths` are those whose `uintType` is there. -/
private theorem mem_unsignedWidths_iff :
    w ∈ unsignedWidths (names.map TypeName.of) ↔ uintType w ∈ names := by
  rw [unsignedWidths, List.mem_filterMap]
  constructor
  · rintro ⟨t, ht, hw⟩
    cases t <;> cases hw
    obtain ⟨hname, rfl⟩ := h.unsigned_mem_iff.mp ht
    exact hname
  · exact fun hname => ⟨_, h.unsigned_mem_iff.mpr ⟨hname, rfl⟩, rfl⟩

/-- A name that is neither of the integer types of a width is none at all. -/
theorem other_mem_iff :
    TypeName.other name ∈ names.map TypeName.of ↔
      name ∈ names ∧ (∀ w, name ≠ uintType w ∧ name ≠ intType w) ∧
        ¬ "float".toList <+: name.toList ∧ ¬ "double".toList <+: name.toList := by
  rw [mem_types_iff]
  constructor
  · rintro ⟨hname, hstands⟩
    cases hstands with
    | other hsigned hunsigned hfloat hdouble =>
      refine ⟨hname, fun w => ⟨?_, ?_⟩, hfloat, hdouble⟩
      · rintro rfl
        obtain ⟨rest, hrest, hdigits⟩ := isUnsigned_uintType w
        exact absurd (hdigits.fixedWidth?.symm.trans (hunsigned rest hrest)) nofun
      · rintro rfl
        exact absurd ((isInteger_intType w).fixedWidth?.symm.trans hsigned) nofun
  · rintro ⟨hname, hinteger, hfloat, hdouble⟩
    refine ⟨hname, ?_⟩
    -- whatever else the name stands for is excluded
    have hstands := stands_of name
    have hmem : TypeName.of name ∈ names.map TypeName.of := List.mem_map_of_mem hname
    cases ht : TypeName.of name with
    | signed n w =>
      rw [ht] at hstands hmem
      obtain rfl := hstands.name_eq
      exact absurd (h.signed_mem_iff.mp hmem).2 (hinteger w).2
    | unsigned n w =>
      rw [ht] at hstands hmem
      obtain rfl := hstands.name_eq
      exact absurd (h.unsigned_mem_iff.mp hmem).2 (hinteger w).1
    | float n =>
      rw [ht] at hstands
      cases hstands with
      | float h => exact absurd h hfloat
    | double n =>
      rw [ht] at hstands
      cases hstands with
      | double h => exact absurd h hdouble
    | other n =>
      rw [ht] at hstands
      obtain rfl := hstands.name_eq
      exact hstands

end Canonical

/-- The names of floating-point types are told by their beginning. -/
private theorem float_mem_iff {names : List String} {name : String} :
    TypeName.float name ∈ names.map TypeName.of ↔
      name ∈ names ∧ "float".toList <+: name.toList := by
  rw [mem_types_iff]
  refine and_congr_right fun _ => ⟨fun h => ?_, .float⟩
  cases h with
  | float h => exact h

/-- So are those of double precision. -/
private theorem double_mem_iff {names : List String} {name : String} :
    TypeName.double name ∈ names.map TypeName.of ↔
      name ∈ names ∧ "double".toList <+: name.toList := by
  rw [mem_types_iff]
  refine and_congr_right fun _ => ⟨fun h => ?_, .double⟩
  cases h with
  | double h => exact h

/-! ## The parts of a signature -/

/-- The parts of a signature: the widths of joined types, and the names of all other types by
groups. -/
structure Sections where
  pairs : List Nat
  unsigned : List String
  signed : List String
  float : List String
  double : List String
  other : List String

namespace Sections

/-- The labels of all parts, in order. -/
def labels (g : Sections) : List String :=
  g.pairs.map pairLabel ++ g.unsigned ++ g.signed ++ g.float ++ g.double ++ g.other

/-- The names that the labels stand for: two for each width, and the others themselves. -/
def names (g : Sections) : List String :=
  g.pairs.flatMap (fun w => [uintType w, intType w]) ++ g.unsigned ++ g.signed ++ g.float ++
    g.double ++ g.other

/-- The parts of the signature of a list of names: the widths that occur both unsigned and signed in
increasing order, and the remaining names of each kind in natural order, each once. -/
structure Sorts (g : Sections) (names : List String) : Prop where
  pairs : Enumerates (fun m n => decide (m ≤ n))
    (fun w => uintType w ∈ names ∧ intType w ∈ names) g.pairs
  unsigned : Enumerates naturalLe
    (fun name => name ∈ names ∧ ∃ w, name = uintType w ∧ intType w ∉ names) g.unsigned
  signed : Enumerates naturalLe
    (fun name => name ∈ names ∧ ∃ w, name = intType w ∧ uintType w ∉ names) g.signed
  float : Enumerates naturalLe
    (fun name => name ∈ names ∧ "float".toList <+: name.toList) g.float
  double : Enumerates naturalLe
    (fun name => name ∈ names ∧ "double".toList <+: name.toList) g.double
  other : Enumerates naturalLe
    (fun name => name ∈ names ∧ (∀ w, name ≠ uintType w ∧ name ≠ intType w) ∧
      ¬ "float".toList <+: name.toList ∧ ¬ "double".toList <+: name.toList) g.other

end Sections

section Picked

variable {ts : List TypeName} {pick : TypeName → Option String}

/-- `group` enumerates all names of one kind. -/
private theorem enumerates_picked {kind : String → TypeName}
    (h : ∀ t name, pick t = some name ↔ t = kind name) :
    Enumerates naturalLe (fun name => kind name ∈ ts) (group (ts.filterMap pick)) :=
  (enumerates_group _).congr fun name => by
    simp only [List.mem_filterMap, h, exists_eq_right]

/-- `group` enumerates those names of one kind whose widths are not shared. -/
private theorem enumerates_unpaired {kind : String → Nat → TypeName} {shared : List Nat}
    (h : ∀ t name, pick t = some name ↔ ∃ w, t = kind name w ∧ w ∉ shared) :
    Enumerates naturalLe (fun name => ∃ w, kind name w ∈ ts ∧ w ∉ shared)
      (group (ts.filterMap pick)) := by
  refine (enumerates_group _).congr fun name => ?_
  simp only [List.mem_filterMap, h]
  constructor
  · rintro ⟨_, ht, w, rfl, hw⟩
    exact ⟨w, ht, hw⟩
  · rintro ⟨w, ht, hw⟩
    exact ⟨_, ht, w, rfl, hw⟩

end Picked

/-- What the parts of `labels` are taken from, whatever the names are. -/
private theorem exists_sections (ts : List TypeName) : ∃ g : Sections, labels ts = g.labels ∧
    g.pairs = sharedWidths ts ∧
    Enumerates naturalLe (fun name => ∃ w, .unsigned name w ∈ ts ∧ w ∉ sharedWidths ts)
      g.unsigned ∧
    Enumerates naturalLe (fun name => ∃ w, .signed name w ∈ ts ∧ w ∉ sharedWidths ts) g.signed ∧
    Enumerates naturalLe (fun name => .float name ∈ ts) g.float ∧
    Enumerates naturalLe (fun name => .double name ∈ ts) g.double ∧
    Enumerates naturalLe (fun name => .other name ∈ ts) g.other := by
  refine ⟨⟨sharedWidths ts, group _, group _, group _, group _, group _⟩, rfl, rfl,
    enumerates_unpaired fun t name => ?_, enumerates_unpaired fun t name => ?_,
    enumerates_picked fun t name => ?_, enumerates_picked fun t name => ?_,
    enumerates_picked fun t name => ?_⟩
  · -- what each group picks is read off its definition, one kind of type at a time
    cases t <;> simp [and_comm]
  · cases t <;> simp [and_comm]
  all_goals cases t <;> simp

/-- In the usual spelling the parts are told by the names themselves. -/
theorem Canonical.exists_sorts {names : List String} (h : Canonical names) :
    ∃ g : Sections, labels (names.map TypeName.of) = g.labels ∧ g.Sorts names := by
  obtain ⟨g, hlabels, hpairs, hunsigned, hsigned, hfloat, hdouble, hother⟩ :=
    exists_sections (names.map TypeName.of)
  -- a width is shared if both of its types are there
  have hshared := (enumerates_sharedWidths (names.map TypeName.of)).congr fun w => by
    rw [h.mem_unsignedWidths_iff, h.mem_signedWidths_iff]
  refine ⟨g, hlabels, hpairs ▸ hshared, hunsigned.congr fun name => ?_,
    hsigned.congr fun name => ?_, hfloat.congr fun name => float_mem_iff,
    hdouble.congr fun name => double_mem_iff, hother.congr fun name => h.other_mem_iff⟩
  · simp only [h.unsigned_mem_iff, hshared.mem_iff]
    grind
  · simp only [h.signed_mem_iff, hshared.mem_iff]
    grind

namespace Sections

variable {g : Sections} {names : List String} {name : String}

private theorem mem_pairs_iff : name ∈ g.pairs.flatMap (fun w => [uintType w, intType w]) ↔
    ∃ w ∈ g.pairs, name = uintType w ∨ name = intType w := by
  simp

/-- Every name is joined or listed, and nothing else is. -/
theorem Sorts.mem_names_iff (hg : g.Sorts names) (h : Canonical names) :
    name ∈ g.names ↔ name ∈ names := by
  simp only [Sections.names, List.mem_append, mem_pairs_iff, hg.pairs.mem_iff, hg.unsigned.mem_iff,
    hg.signed.mem_iff, hg.float.mem_iff, hg.double.mem_iff, hg.other.mem_iff]
  constructor
  · grind
  · -- what the name stands for says in which part it is
    intro hname
    have hmem : TypeName.of name ∈ names.map TypeName.of := List.mem_map_of_mem hname
    have heq := (stands_of name).name_eq
    cases ht : TypeName.of name with
    | unsigned n w =>
      rw [ht] at hmem
      have := h.unsigned_mem_iff.mp hmem
      grind
    | signed n w =>
      rw [ht] at hmem
      have := h.signed_mem_iff.mp hmem
      grind
    | float n =>
      rw [ht] at hmem
      have := float_mem_iff.mp hmem
      grind [TypeName.name]
    | double n =>
      rw [ht] at hmem
      have := double_mem_iff.mp hmem
      grind [TypeName.name]
    | other n =>
      rw [ht] at hmem
      have := h.other_mem_iff.mp hmem
      grind [TypeName.name]

/-- The two types of each width are listed once, for each width once. -/
private theorem nodup_pairs {ws : List Nat} (h : ws.Nodup) :
    (ws.flatMap fun w => [uintType w, intType w]).Nodup := by
  refine List.nodup_flatMap.mpr ⟨fun w _ => ?_, h.imp fun hne => ?_⟩
  · simpa using uintType_ne_intType w w
  · intro name hname hname'
    simp only [List.mem_cons, List.not_mem_nil, or_false] at hname hname'
    rcases hname with rfl | rfl
    · rcases hname' with heq | heq
      · exact hne (uintType_injective heq)
      · exact uintType_ne_intType _ _ heq
    · rcases hname' with heq | heq
      · exact uintType_ne_intType _ _ heq.symm
      · exact hne (intType_injective heq)

/-- No name is listed twice, neither in one part nor in two. -/
theorem Sorts.nodup_names (hg : g.Sorts names) : g.names.Nodup := by
  have hinteger {name : String} {c : Char} (hc : c ≠ 'u') (hc' : c ≠ 'i')
      (hhead : name.toList.head? = some c) (w : Nat) : name ≠ uintType w ∧ name ≠ intType w := by
    constructor
    · rintro rfl
      exact hc (Option.some.inj (hhead.symm.trans (head?_uintType w)))
    · rintro rfl
      exact hc' (Option.some.inj (hhead.symm.trans (head?_intType w)))
  -- part by part, what is new differs from all names in front of it
  unfold Sections.names
  refine List.nodup_append.mpr ⟨List.nodup_append.mpr ⟨List.nodup_append.mpr
    ⟨List.nodup_append.mpr ⟨List.nodup_append.mpr ⟨nodup_pairs hg.pairs.nodup,
      hg.unsigned.nodup, ?_⟩, hg.signed.nodup, ?_⟩, hg.float.nodup, ?_⟩, hg.double.nodup, ?_⟩,
        hg.other.nodup, ?_⟩
  all_goals simp only [List.mem_append, mem_pairs_iff, hg.pairs.mem_iff, hg.unsigned.mem_iff,
    hg.signed.mem_iff, hg.float.mem_iff, hg.double.mem_iff, hg.other.mem_iff]
  · rintro _ ⟨w, hw, hname⟩ _ ⟨-, v, rfl, hv⟩ rfl
    rcases hname with hname | hname
    · exact hv (uintType_injective hname ▸ hw.2)
    · exact uintType_ne_intType v w hname
  · rintro _ (⟨w, hw, hname⟩ | ⟨-, w, hname, -⟩) _ ⟨-, v, rfl, hv⟩ rfl
    · rcases hname with hname | hname
      · exact uintType_ne_intType w v hname.symm
      · exact hv (intType_injective hname ▸ hw.1)
    · exact uintType_ne_intType w v hname.symm
  · rintro name hfront _ ⟨-, hfloat⟩ rfl
    have hne := hinteger (by decide) (by decide) (head?_eq_of_isPrefix (by decide) hfloat)
    grind
  · rintro name hfront _ ⟨-, hdouble⟩ rfl
    have hhead : name.toList.head? = some 'd' := head?_eq_of_isPrefix (by decide) hdouble
    have hne := hinteger (by decide) (by decide) hhead
    have hfloat : ¬ "float".toList <+: name.toList := by
      intro hfloat
      exact absurd (hhead.symm.trans (head?_eq_of_isPrefix (by decide) hfloat)) (by decide)
    grind
  · rintro name hfront _ ⟨-, hne, hfloat, hdouble⟩ rfl
    grind

end Sections

/-- If the integer types in a list write their widths in the usual way, the labels of its signature
are one for each width that occurs both unsigned and signed, and then the remaining names, group by
group. Every name is joined or listed, in one place only, and nothing else is. -/
theorem labels_of_canonical (types : List String) (h : Canonical (types.map trimString)) :
    ∃ g : Sections,
      labels (types.map fun t => TypeName.of (trimString t)) = g.labels ∧
      ofTypes types = String.intercalate ", " g.labels ∧
      g.Sorts (types.map trimString) ∧
      g.names.Nodup ∧ ∀ name, name ∈ g.names ↔ name ∈ types.map trimString := by
  obtain ⟨g, hlabels, hg⟩ := h.exists_sorts
  rw [← map_of_trim] at hlabels
  refine ⟨g, hlabels, ?_, hg, hg.nodup_names, fun name => hg.mem_names_iff h⟩
  rw [ofTypes, hlabels]

/-- Two types that are joined, one of them twice and with a blank, one that stays alone, and one
that is no integer type although it looks like one. -/
def mixedTypes : List String := ["uint8_t", " int8_t", "uint16_t", "int8_t", "int_t"]

/-- The integer types among them write their widths in the usual way. -/
private theorem canonical_mixedTypes : Canonical (mixedTypes.map trimString) := by
  have hnames : mixedTypes.map trimString =
      ["uint8_t", "int8_t", "uint16_t", "int8_t", "int_t"] := by decide
  have hint : IsInteger (decimal 8).toList "int8_t".toList := isInteger_intType 8
  have hshort : IsInteger (decimal 16).toList "int16_t".toList := isInteger_intType 16
  rw [hnames]
  intro name hname digits hdigits
  simp only [List.mem_cons, List.not_mem_nil, or_false] at hname
  rcases hdigits with hdigits | ⟨rest, hrest, hdigits⟩
  · rcases hname with rfl | rfl | rfl | rfl | rfl
    · cases hdigits.eq
    · exact ⟨8, by decide, hdigits.unique hint⟩
    · cases hdigits.eq
    · exact ⟨8, by decide, hdigits.unique hint⟩
    · -- between the letters and the underscore there is no room for a digit
      exact absurd (by simpa using hdigits.eq) hdigits.ne_nil
  · rcases hname with rfl | rfl | rfl | rfl | rfl
    · cases hrest
      exact ⟨8, by decide, hdigits.unique hint⟩
    · cases hrest
    · cases hrest
      exact ⟨16, by decide, hdigits.unique hshort⟩
    · cases hrest
    · cases hrest

/-- Sorting recurses on the length of a list, so `labels` is evaluated group by group: no group of
`mixedTypes` has more than one name. -/
private theorem labels_eq_of_mixedTypes :
    labels (mixedTypes.map fun t => TypeName.of (trimString t)) =
      ["(u)int8_t", "uint16_t", "int_t"] := by
  have hkinds : (mixedTypes.map fun t => TypeName.of (trimString t)) =
      [.unsigned "uint8_t" 8, .signed "int8_t" 8, .unsigned "uint16_t" 16, .signed "int8_t" 8,
        .other "int_t"] := by decide
  have hshared : sharedWidths [.unsigned "uint8_t" 8, .signed "int8_t" 8,
      .unsigned "uint16_t" 16, .signed "int8_t" 8, .other "int_t"] = [8] := by
    simp [sharedWidths, unsignedWidths, signedWidths, List.eraseReps, List.eraseRepsBy,
      List.eraseRepsBy.loop]
  have hpair : "(u)int" ++ decimal 8 ++ "_t" = "(u)int8_t" := by decide
  rw [hkinds, labels, hshared]
  simp [group, List.eraseReps, List.eraseRepsBy, List.eraseRepsBy.loop, hpair]

/-- The joined types have one label, and the other names follow. -/
theorem labels_mixedTypes :
    Canonical (mixedTypes.map trimString) ∧
      ∃ g : Sections,
        g.labels = ["(u)int8_t", "uint16_t", "int_t"] ∧
        ofTypes mixedTypes = "(u)int8_t, uint16_t, int_t" ∧
        g.Sorts (mixedTypes.map trimString) ∧
        g.names.Nodup ∧ ∀ name, name ∈ g.names ↔ name ∈ mixedTypes.map trimString := by
  refine ⟨canonical_mixedTypes, ?_⟩
  obtain ⟨g, hlabels, htext, hg⟩ := labels_of_canonical mixedTypes canonical_mixedTypes
  rw [labels_eq_of_mixedTypes] at hlabels
  exact ⟨g, hlabels.symm, by rw [htext, ← hlabels]; decide, hg⟩

end PrimitiveDesk.Signature

import Mathlib.Data.List.Forall2
import Mathlib.Data.Nat.Digits.Defs
import Mathlib.Tactic.IntervalCases
import Mathlib.Tactic.Ring
import PrimitiveDesk.Yaml.Scalar

/-!
# The core schema

Which texts of a plain scalar stand for an integer is told by a grammar, `WritesInteger`: a sign and
decimal digits, or octal or hexadecimal digits behind their mark. The value of digits is their
positional one, so that it does not matter how many digits there are; it is what `readNat?` reads
(`Text.readNat?_eq_some_iff`).

Integers are read by the grammar (`Scalar.integer?_eq_some_iff`). With the words for null and the
truth values this tells what every scalar stands for (`Scalar.toJson_core`).
-/

namespace PrimitiveDesk

namespace Text

/-! ## Digits -/

/-- The character is the digit of the given value in a base up to sixteen, of either case. -/
def IsDigit (base : Nat) (c : Char) (d : Nat) : Prop :=
  d < base ∧ (c = d.digitChar ∨ c = d.digitChar.toUpper)

instance (base : Nat) (c : Char) (d : Nat) : Decidable (IsDigit base c d) :=
  inferInstanceAs (Decidable (_ ∧ _))

/-- The text is a non-empty row of digits of the base and writes the number, the most significant
digit first. -/
def Numeral (base : Nat) (cs : List Char) (n : Nat) : Prop :=
  cs ≠ [] ∧ ∃ ds, List.Forall₂ (IsDigit base) cs ds ∧ n = Nat.ofDigits base ds.reverse

/-- `digitValue?` reads the digits of both cases. -/
private theorem digitValue?_digitChar {d : Nat} (h : d < 16) :
    digitValue? d.digitChar = some d ∧ digitValue? d.digitChar.toUpper = some d := by
  interval_cases d <;> decide

/-- A range of characters is a range of their numbers. -/
private theorem inRange_iff {a b c : Char} :
    (decide (a ≤ c) && decide (c ≤ b)) = true ↔ a.toNat ≤ c.toNat ∧ c.toNat ≤ b.toNat := by
  rw [Bool.and_eq_true, decide_eq_true_iff, decide_eq_true_iff]
  rfl

/-- `digitValue?` of a character is that of the digit which it is. -/
private theorem digitValue?_eq_some_iff {c : Char} {d : Nat} :
    digitValue? c = some d ↔ IsDigit 16 c d := by
  constructor
  · intro h
    -- digits have small numbers, and the small ones are checked one by one
    have hsmall : c.toNat < 103 := by
      unfold digitValue? at h
      split at h
      · next hrange => exact Nat.lt_of_le_of_lt (inRange_iff.mp hrange).2 (by decide)
      · split at h
        · next hrange => exact Nat.lt_of_le_of_lt (inRange_iff.mp hrange).2 (by decide)
        · split at h
          · next hrange => exact Nat.lt_of_le_of_lt (inRange_iff.mp hrange).2 (by decide)
          · cases h
    have hall : ∀ n < 103, ∀ d ∈ digitValue? (Char.ofNat n), IsDigit 16 (Char.ofNat n) d := by
      decide
    have hc := hall c.toNat hsmall d
    rw [Char.ofNat_toNat] at hc
    exact hc h
  · rintro ⟨hd, rfl | rfl⟩
    · exact (digitValue?_digitChar hd).1
    · exact (digitValue?_digitChar hd).2

/-- A digit in front of others counts for its power of the base. -/
private theorem ofDigits_reverse_cons (base d : Nat) (ds : List Nat) :
    Nat.ofDigits base (d :: ds).reverse =
      d * base ^ ds.length + Nat.ofDigits base ds.reverse := by
  rw [List.reverse_cons, Nat.ofDigits_append, Nat.ofDigits_singleton, List.length_reverse]
  ring

/-- `readDigits?` puts digits behind the number that is read so far. -/
private theorem readDigits?_eq_some_iff {base : Nat} (hbase : base ≤ 16) {acc : Nat}
    {cs : List Char} {n : Nat} :
    readDigits? base acc cs = some n ↔
      ∃ ds, List.Forall₂ (IsDigit base) cs ds ∧
        n = acc * base ^ ds.length + Nat.ofDigits base ds.reverse := by
  induction cs generalizing acc with
  | nil =>
    simp only [readDigits?, List.forall₂_nil_left_iff, exists_eq_left]
    simp [eq_comm]
  | cons c cs ih =>
    have hdigit {d : Nat} (hd : d < base) : digitValue? c = some d ↔ IsDigit base c d := by
      rw [digitValue?_eq_some_iff, IsDigit, IsDigit]
      exact and_congr_left fun _ => iff_of_true (by omega) hd
    -- what is read so far is shifted by one place, and the next digit is added
    have hshift (d : Nat) (ds : List Nat) :
        acc * base ^ (d :: ds).length + Nat.ofDigits base (d :: ds).reverse =
          (acc * base + d) * base ^ ds.length + Nat.ofDigits base ds.reverse := by
      rw [ofDigits_reverse_cons, List.length_cons]
      ring
    rw [readDigits?]
    constructor
    · intro h
      split at h
      · next d hvalue =>
        split at h
        · next hd =>
          obtain ⟨ds, hds, hn⟩ := ih.mp h
          exact ⟨d :: ds, .cons ((hdigit hd).mp hvalue) hds, hn.trans (hshift d ds).symm⟩
        · cases h
      · cases h
    · rintro ⟨_, hds, hn⟩
      cases hds with
      | @cons _ d _ ds hd hds =>
        rw [(hdigit hd.1).mpr hd]
        dsimp only
        rw [if_pos hd.1]
        exact ih.mpr ⟨ds, hds, hn.trans (hshift d ds)⟩

/-- `readNat?` reads a row of digits as the number that it writes. -/
theorem readNat?_eq_some_iff {base : Nat} (hbase : base ≤ 16) {cs : List Char} {n : Nat} :
    readNat? base cs = some n ↔ Numeral base cs n := by
  rw [readNat?, Numeral]
  cases cs with
  | nil => simp
  | cons c cs =>
    rw [if_neg (by simp), readDigits?_eq_some_iff hbase]
    simp

end Text

namespace Yaml

open Text

/-! ## Integers -/

/-- The text writes the integer: decimal digits with an optional sign, octal digits behind `0o`, or
hexadecimal digits behind `0x`. -/
inductive WritesInteger : List Char → Int → Prop
  | unsigned {cs : List Char} {n : Nat} (h : Numeral 10 cs n) : WritesInteger cs n
  | plus {cs : List Char} {n : Nat} (h : Numeral 10 cs n) : WritesInteger ('+' :: cs) n
  | minus {cs : List Char} {n : Nat} (h : Numeral 10 cs n) : WritesInteger ('-' :: cs) (-n)
  | octal {cs : List Char} {n : Nat} (h : Numeral 8 cs n) : WritesInteger ('0' :: 'o' :: cs) n
  | hexadecimal {cs : List Char} {n : Nat} (h : Numeral 16 cs n) :
    WritesInteger ('0' :: 'x' :: cs) n

namespace Scalar

/-- `splitSign` finds a minus sign, a plus sign, or no sign. -/
private theorem splitSign_cases (cs : List Char) :
    (∃ ds, cs = '-' :: ds ∧ splitSign cs = (true, ds)) ∨
      (∃ ds, cs = '+' :: ds ∧ splitSign cs = (false, ds)) ∨ splitSign cs = (false, cs) := by
  unfold splitSign
  split
  · exact Or.inl ⟨_, rfl, rfl⟩
  · exact Or.inr (Or.inl ⟨_, rfl, rfl⟩)
  · exact Or.inr (Or.inr rfl)

private theorem readNat?_ten {cs : List Char} {n : Nat} :
    readNat? 10 cs = some n ↔ Numeral 10 cs n :=
  readNat?_eq_some_iff (by decide)

/-- What `integer?` reads writes the integer. -/
private theorem writesInteger_of_integer? {cs : List Char} {n : Int} (h : integer? cs = some n) :
    WritesInteger cs n := by
  unfold integer? at h
  split at h
  · obtain ⟨m, hm, rfl⟩ := Option.map_eq_some_iff.mp h
    exact .octal ((readNat?_eq_some_iff (by decide)).mp hm)
  · obtain ⟨m, hm, rfl⟩ := Option.map_eq_some_iff.mp h
    exact .hexadecimal ((readNat?_eq_some_iff (by decide)).mp hm)
  · -- a sign, and decimal digits behind it
    rcases splitSign_cases cs with ⟨ds, rfl, hsign⟩ | ⟨ds, rfl, hsign⟩ | hsign
    · obtain ⟨m, hm, rfl⟩ : ∃ m : Nat, readNat? 10 ds = some m ∧ -(m : Int) = n := by
        simpa [hsign, Option.bind_eq_some_iff] using h
      exact .minus (readNat?_ten.mp hm)
    · obtain ⟨m, hm, rfl⟩ : ∃ m : Nat, readNat? 10 ds = some m ∧ (m : Int) = n := by
        simpa [hsign, Option.bind_eq_some_iff] using h
      exact .plus (readNat?_ten.mp hm)
    · obtain ⟨m, hm, rfl⟩ : ∃ m : Nat, readNat? 10 cs = some m ∧ (m : Int) = n := by
        simpa [hsign, Option.bind_eq_some_iff] using h
      exact .unsigned (readNat?_ten.mp hm)

/-- What writes an integer is read by `integer?`. -/
private theorem integer?_of_writesInteger {cs : List Char} {n : Int} (h : WritesInteger cs n) :
    integer? cs = some n := by
  cases h with
  | @unsigned _ m h =>
    -- a row of decimal digits starts with neither a sign nor a mark
    rw [← readNat?_ten] at h
    unfold integer?
    split
    · cases h
    · cases h
    · rcases splitSign_cases cs with ⟨ds, rfl, hsign⟩ | ⟨ds, rfl, hsign⟩ | hsign
      · cases h
      · cases h
      · rw [hsign]
        simp [h]
  | plus h => simp [integer?, splitSign, readNat?_ten.mpr h]
  | minus h => simp [integer?, splitSign, readNat?_ten.mpr h]
  | octal h =>
    rw [← readNat?_eq_some_iff (by decide)] at h
    simp [integer?, h]
  | hexadecimal h =>
    rw [← readNat?_eq_some_iff (by decide)] at h
    simp [integer?, h]

/-- `integer?` reads by the grammar. -/
theorem integer?_eq_some_iff {cs : List Char} {n : Int} :
    integer? cs = some n ↔ WritesInteger cs n :=
  ⟨writesInteger_of_integer?, integer?_of_writesInteger⟩

private theorem fits_iff {n : Int} : fits n = true ↔ -2 ^ 63 ≤ n ∧ n < 2 ^ 63 := by
  have hpow : Int.pow 2 63 = 2 ^ 63 := rfl
  rw [fits, Bool.and_eq_true, decide_eq_true_iff, decide_eq_true_iff, hpow]

/-! ## Plain scalars -/

/-- What a plain text stands for: a word has its own meaning, an integer is one if it fits 64 bits,
and all else is a number with a fraction or a string. -/
inductive Resolves (text : String) : Json → Prop
  | null (h : text ∈ nullWords) : Resolves text .null
  | true (h : text ∈ trueWords) : Resolves text (.bool .true)
  | false (h : text ∈ falseWords) : Resolves text (.bool .false)
  | int {n : Int} (h : WritesInteger text.toList n) (hfits : fits n) : Resolves text (.int n)
  | float {x : Binary64} (hwords : text ∉ nullWords ++ trueWords ++ falseWords)
    (h : ∀ n, WritesInteger text.toList n → ¬ fits n) : Resolves text (.float x)
  | str (hwords : text ∉ nullWords ++ trueWords ++ falseWords)
    (h : ∀ n, WritesInteger text.toList n → ¬ fits n) : Resolves text (.str text)

/-- `resolve` gives what the text stands for. -/
private theorem resolves_resolve (text : String) : Resolves text (resolve text) := by
  -- an integer that is not taken does not fit
  have hint (h : (integer? text.toList).filter fits = none) :
      ∀ n, WritesInteger text.toList n → ¬ fits n := by
    intro n hn
    rw [integer?_eq_some_iff.mpr hn] at h
    simpa using h
  unfold resolve
  split
  · next h => exact .null (List.contains_iff_mem.mp h)
  · next hnull =>
    split
    · next h => exact .true (List.contains_iff_mem.mp h)
    · next htrue =>
      split
      · next h => exact .false (List.contains_iff_mem.mp h)
      · next hfalse =>
        have hwords : text ∉ nullWords ++ trueWords ++ falseWords := by
          simp only [List.contains_iff_mem] at hnull htrue hfalse
          simp [hnull, htrue, hfalse]
        split
        · next n hn =>
          obtain ⟨hn, hfits⟩ := Option.filter_eq_some_iff.mp hn
          exact .int (integer?_eq_some_iff.mp hn) hfits
        · next hn =>
          split
          · exact .float hwords (hint hn)
          · exact .str hwords (hint hn)

/-- No word of its own is an integer. -/
private theorem not_writesInteger_of_mem {text : String}
    (h : text ∈ nullWords ++ trueWords ++ falseWords) (n : Int) :
    ¬ WritesInteger text.toList n := by
  have hwords : ∀ w ∈ nullWords ++ trueWords ++ falseWords, integer? w.toList = none := by decide
  intro hn
  rw [← integer?_eq_some_iff, hwords text h] at hn
  cases hn

/-- A text writes at most one integer. -/
private theorem writesInteger_unique {cs : List Char} {m n : Int} (hm : WritesInteger cs m)
    (hn : WritesInteger cs n) : m = n := by
  rw [← integer?_eq_some_iff] at hm hn
  exact Option.some.inj (hm.symm.trans hn)

private theorem toJson_plain (text : String) : toJson ⟨text, .plain⟩ = resolve text := rfl

/-- `resolve` gives an integer if the text writes one that fits. -/
private theorem resolve_eq_int_iff {text : String} {n : Int} :
    resolve text = .int n ↔ WritesInteger text.toList n ∧ fits n = true := by
  have h := resolves_resolve text
  constructor
  · intro hn
    rw [hn] at h
    cases h with
    | int h hfits => exact ⟨h, hfits⟩
  · rintro ⟨hn, hfits⟩
    -- no word writes an integer, and the other cases deny that this one does
    generalize resolve text = j at h
    cases h with
    | null h => exact absurd hn (not_writesInteger_of_mem (by simp [h]) n)
    | true h => exact absurd hn (not_writesInteger_of_mem (by simp [h]) n)
    | false h => exact absurd hn (not_writesInteger_of_mem (by simp [h]) n)
    | int h _ => rw [writesInteger_unique h hn]
    | float _ h => exact absurd hfits (h n hn)
    | str _ h => exact absurd hfits (h n hn)

/-- `resolve` gives null for its words only. -/
private theorem resolve_eq_null_iff {text : String} : resolve text = .null ↔ text ∈ nullWords := by
  constructor
  · intro h
    have hresolves := resolves_resolve text
    rw [h] at hresolves
    cases hresolves with
    | null h => exact h
  · intro h
    rw [resolve, if_pos (List.contains_iff_mem.mpr h)]

/-- `resolve` gives true for its words only. -/
private theorem resolve_eq_true_iff {text : String} :
    resolve text = .bool true ↔ text ∈ trueWords := by
  constructor
  · intro h
    have hresolves := resolves_resolve text
    rw [h] at hresolves
    cases hresolves with
    | true hmem => exact hmem
  · intro h
    have hnull : ∀ w ∈ trueWords, nullWords.contains w = false := by decide
    rw [resolve, hnull text h, List.contains_iff_mem.mpr h]
    rfl

/-- `resolve` gives false for its words only. -/
private theorem resolve_eq_false_iff {text : String} :
    resolve text = .bool false ↔ text ∈ falseWords := by
  constructor
  · intro h
    have hresolves := resolves_resolve text
    rw [h] at hresolves
    cases hresolves with
    | false hmem => exact hmem
  · intro h
    have hnull : ∀ w ∈ falseWords, nullWords.contains w = false := by decide
    have htrue : ∀ w ∈ falseWords, trueWords.contains w = false := by decide
    rw [resolve, hnull text h, htrue text h, List.contains_iff_mem.mpr h]
    rfl

/-- A plain scalar stands for an integer exactly if its text writes it in one of the three bases and
it fits 64 bits; a larger one stands for no integer at all. It stands for null and for the truth
values exactly if it is one of their words. All other scalars are strings. -/
theorem toJson_core (text : String) :
    (∀ n, toJson ⟨text, .plain⟩ = .int n ↔
      WritesInteger text.toList n ∧ -2 ^ 63 ≤ n ∧ n < 2 ^ 63) ∧
    (∀ n, WritesInteger text.toList n → ¬(-2 ^ 63 ≤ n ∧ n < 2 ^ 63) →
      ∀ m, toJson ⟨text, .plain⟩ ≠ .int m) ∧
    (toJson ⟨text, .plain⟩ = .null ↔ text ∈ ["", "~", "null", "Null", "NULL"]) ∧
    (toJson ⟨text, .plain⟩ = .bool true ↔ text ∈ ["true", "True", "TRUE"]) ∧
    (toJson ⟨text, .plain⟩ = .bool false ↔ text ∈ ["false", "False", "FALSE"]) ∧
    toJson ⟨text, .quoted⟩ = .str text ∧ toJson ⟨text, .block⟩ = .str text := by
  have hint (n : Int) : toJson ⟨text, .plain⟩ = .int n ↔
      WritesInteger text.toList n ∧ -2 ^ 63 ≤ n ∧ n < 2 ^ 63 := by
    rw [toJson_plain, resolve_eq_int_iff, fits_iff]
  refine ⟨hint, ?_, resolve_eq_null_iff, resolve_eq_true_iff, resolve_eq_false_iff, rfl,
    rfl⟩
  -- a text writes one integer at most, so another one cannot fit in its place
  intro n hn hrange m hm
  obtain ⟨hwrites, hfits⟩ := (hint m).mp hm
  rw [writesInteger_unique hn hwrites] at hrange
  exact hrange hfits

/-- The limits of 64 bits, with leading zeros and in two bases. -/
example : integer? "-0009223372036854775808".toList = some (-2 ^ 63) ∧
    integer? "0x7fffFFFFffffFFFF".toList = some (2 ^ 63 - 1) := by
  decide

end Scalar

end Yaml

end PrimitiveDesk

import PrimitiveDesk.Text.Digit

/-!
# Type signatures

A short label for a list of C types. Integer types of one width that occur both signed and unsigned
join into one name and come first; then come the other unsigned, the other signed, the float, the
double and all other types, each group in natural order: by the first number in a name, names with a
number first, and then by the text.
-/

namespace PrimitiveDesk.Signature

open Text

/-- The first run of digits of any script in a text. -/
def firstDigits (cs : List Char) : List Char :=
  (cs.dropWhile fun c => !isDecimal c).takeWhile isDecimal

/-- The number that digits write, if all are ASCII digits and it is below the limit. -/
def numberBelow? (limit : Nat) (digits : List Char) : Option Nat :=
  if digits.all isAsciiDigit then (readNat? 10 digits).filter (· < limit) else none

/-- The first number in a name, if it fits 64 bits. -/
def firstNumber? (name : String) : Option Nat :=
  numberBelow? (Nat.pow 2 64) (firstDigits name.toList)

/-- Whether one name comes before another, or is the same, in natural order. -/
def naturalLe (a b : String) : Bool :=
  match firstNumber? a, firstNumber? b with
  | none, none => a ≤ b
  | none, some _ => false
  | some _, none => true
  | some x, some y => x < y || (x == y && a ≤ b)

/-- A type name by what it stands for. Widths that are no number below `2^32` count as zero. -/
inductive TypeName where
  | unsigned (name : String) (width : Nat)
  | signed (name : String) (width : Nat)
  | float (name : String)
  | double (name : String)
  | other (name : String)
deriving DecidableEq, Repr

/-- The width in `int…_t`, if the text has that form. -/
def fixedWidth? (cs : List Char) : Option Nat :=
  match cs with
  | 'i' :: 'n' :: 't' :: rest =>
    let digits := rest.takeWhile isDecimal
    if !digits.isEmpty && rest.dropWhile isDecimal == ['_', 't'] then
      some ((numberBelow? (Nat.pow 2 32) digits).getD 0)
    else none
  | _ => none

/-- What a trimmed type name stands for. -/
def TypeName.of (name : String) : TypeName :=
  let cs := name.toList
  match fixedWidth? cs with
  | some w => .signed name w
  | none =>
    match cs with
    | 'u' :: rest =>
      match fixedWidth? rest with
      | some w => .unsigned name w
      | none => .other name
    | cs =>
      if "float".toList.isPrefixOf cs then .float name
      else if "double".toList.isPrefixOf cs then .double name
      else .other name

/-- The names of one kind, sorted and without repetitions. -/
def group (names : List String) : List String :=
  (names.mergeSort naturalLe).eraseReps

/-- The widths of unsigned names. -/
def unsignedWidths (ts : List TypeName) : List Nat :=
  ts.filterMap fun
    | .unsigned _ w => some w
    | _ => none

/-- The widths of signed names. -/
def signedWidths (ts : List TypeName) : List Nat :=
  ts.filterMap fun
    | .signed _ w => some w
    | _ => none

/-- The widths that occur both signed and unsigned, in increasing order. -/
def sharedWidths (ts : List TypeName) : List Nat :=
  let signed := signedWidths ts
  (((unsignedWidths ts).filter signed.contains).mergeSort (· ≤ ·)).eraseReps

/-- The labels of a signature. -/
def labels (ts : List TypeName) : List String :=
  let shared := sharedWidths ts
  shared.map (fun w => "(u)int" ++ decimal w ++ "_t") ++
  group (ts.filterMap fun
    | .unsigned n w => if shared.contains w then none else some n
    | _ => none) ++
  group (ts.filterMap fun
    | .signed n w => if shared.contains w then none else some n
    | _ => none) ++
  group (ts.filterMap fun
    | .float n => some n
    | _ => none) ++
  group (ts.filterMap fun
    | .double n => some n
    | _ => none) ++
  group (ts.filterMap fun
    | .other n => some n
    | _ => none)

/-- The signature of a list of type names. -/
def ofTypes (types : List String) : String :=
  String.intercalate ", " (labels (types.map fun t => TypeName.of (trimString t)))

end PrimitiveDesk.Signature

import PrimitiveDesk.Json.Basic
import PrimitiveDesk.Template.Runs
import PrimitiveDesk.Template.Whole
import PrimitiveDesk.Text.Quoted

/-!
# Template values

The values that templates compute with. A map holds its entries in the order of their keys, so that
it prints and iterates in that order however it was written. Missing things are `undefined`, which
prints as nothing. What lists give when they are joined or repeated is a series, held as runs: it is
gone through like a list, but has a place of its own in the order of values.
-/

namespace PrimitiveDesk.Template

/-- A value in a template. -/
inductive Value where
  | undefined
  | none
  | bool (b : Bool)
  | int (n : Whole)
  | float (x : Extended)
  | str (s : String)
  /-- A text that is printed as it is, also where texts are escaped. -/
  | markup (s : String)
  | list (items : List Value)
  | map (entries : List (Value × Value))
  | series (runs : List (List Value × Nat))
  /-- The state of a loop: the index of the current value, the number of values if it is known, and
  the values around the current one. -/
  | loop (index : Nat) (count? : Option Nat) (previous next : Value)
  /-- The function of a name. -/
  | function (name : String)
deriving Inhabited, Repr

namespace Value

/-- The place of a value's kind in the order of all values. -/
def rank : Value → Nat
  | undefined => 0
  | none => 1
  | bool _ => 2
  | int _ => 3
  | float _ => 3
  | str _ => 4
  | markup _ => 4
  | list _ => 5
  | map _ => 6
  | loop .. => 6
  | series _ => 7
  | function _ => 8

/-- A count as a value. -/
def ofNat (n : Nat) : Value := int (.given n)

/-- The text of a string. -/
def str? : Value → Option String
  | str s => some s
  | markup s => some s
  | _ => Option.none

/-- The items of a list or a series, as runs. -/
def runs? : Value → Option (List (List Value × Nat))
  | list items => some (Runs.repeated items 1)
  | series runs => some runs
  | _ => Option.none

/-- The items of a list or a series. -/
def items? (v : Value) : Option (List Value) :=
  v.runs?.map Runs.toList

/-- Whether the value counts as true. -/
def isTrue : Value → Bool
  | undefined => false
  | none => false
  | bool b => b
  | int n => n.value != 0
  | float x => !x.isZero
  | str s => !s.isEmpty
  | markup s => !s.isEmpty
  | list items => !items.isEmpty
  | map entries => !entries.isEmpty
  | series runs => Runs.length runs != 0
  | loop .. => true
  | function _ => true

/-- Whether the value is undefined. -/
def isUndefined : Value → Bool
  | undefined => true
  | _ => false

/-- Whether the value stands for an argument that is not given. -/
def isAbsent : Value → Bool
  | undefined => true
  | none => true
  | _ => false

/-! ## Numbers -/

/-- The value as a whole number; truth values count as zero and one. -/
def whole? : Value → Option Whole
  | bool b => some (.given b.toInt)
  | int n => some n
  | _ => Option.none

/-- The value as a double; a whole number is rounded unless it has to be exact. -/
def float? (exact : Bool) : Value → Option Extended
  | bool b => some (.ofInt b.toInt)
  | int n => if exact then n.exactFloat? else some n.nearestFloat
  | float x => some x
  | _ => Option.none

/-- The value as a place or a number of times: also a double without fraction is one. -/
def index? : Value → Option Int
  | float x => x.toInt?
  | v => v.whole?.map (·.value)

/-- Two numbers that an operation takes together. -/
inductive Numbers where
  | whole (m n : Int)
  | floats (x y : Extended)
deriving DecidableEq, Repr

/-- Two values as numbers: as doubles if one of them is a double, else as whole numbers. -/
def numbers? (exact : Bool) (a b : Value) : Option Numbers :=
  match a, b with
  | float x, b => (b.float? exact).map fun y => .floats x y
  | a, float y => (a.float? exact).map fun x => .floats x y
  | a, b =>
    match a.whole?, b.whole? with
    | some m, some n => (m.pair? n).map fun (m, n) => .whole m n
    | _, _ => Option.none

/-! ## Order and equality -/

/-- Equality of values that have no parts. -/
def samePlain (a b : Value) : Bool :=
  match a.str?, b.str? with
  | some s, some t => s == t
  | _, _ =>
    match numbers? true a b with
    | some (.whole m n) => m == n
    | some (.floats x y) => x.sameValue y
    | Option.none => false

/-- Order of numbers by their exact values. -/
def orderNumbers (a b : Value) : Ordering :=
  match a, b with
  | float x, float y => x.order y
  | float x, b => (b.whole?.map fun n => x.orderInt n.value).getD .eq
  | a, float y => (a.whole?.map fun n => (y.orderInt n.value).swap).getD .eq
  | a, b =>
    match a.whole?, b.whole? with
    | some m, some n => compare m.value n.value
    | _, _ => .eq

/-- Order of values of one kind that have no parts. -/
def orderPlain (a b : Value) : Ordering :=
  match a.str?, b.str? with
  | some s, some t => compare s t
  | _, _ => if samePlain a b then .eq else orderNumbers a b

mutual

/-- How deep lists and maps stand inside each other in a value. -/
def depth : Value → Nat
  | list items => depthItems items + 1
  | series runs => depthRuns runs + 1
  | map entries => depthEntries entries + 1
  | _ => 0

/-- The greatest depth of some items. -/
def depthItems : List Value → Nat
  | [] => 0
  | v :: vs => max (depth v) (depthItems vs)

/-- The greatest depth of the items of some runs. -/
def depthRuns : List (List Value × Nat) → Nat
  | [] => 0
  | (items, _) :: rest => max (depthItems items) (depthRuns rest)

/-- The greatest depth of the keys and values of some entries. -/
def depthEntries : List (Value × Value) → Nat
  | [] => 0
  | (k, v) :: es => max (max (depth k) (depth v)) (depthEntries es)

end

/-- Order of lists by their first difference. -/
def orderBy {α : Type} (f : α → α → Ordering) : List α → List α → Ordering
  | [], [] => .eq
  | [], _ => .lt
  | _, [] => .gt
  | x :: xs, y :: ys => (f x y).then (orderBy f xs ys)

/-- Order of values that are not deeper than given. -/
def orderWithin : Nat → Value → Value → Ordering
  | n + 1, list xs, list ys => orderBy (orderWithin n) xs ys
  | n + 1, series xs, series ys => orderBy (orderWithin n) (Runs.toList xs) (Runs.toList ys)
  | n + 1, map xs, map ys =>
    orderBy (fun x y => (orderWithin n x.1 y.1).then (orderWithin n x.2 y.2)) xs ys
  | _, a, b => (compare a.rank b.rank).then (orderPlain a b)

/-- Order of values: by kind, and then by value. -/
def order (a b : Value) : Ordering :=
  orderWithin a.depth a b

/-- The entry of a map under a key. Keys are the same if neither is before the other. -/
def lookup? (key : Value) : List (Value × Value) → Option Value
  | [] => Option.none
  | (k, v) :: rest => if order k key == .eq then some v else lookup? key rest

/-- Puts an entry at its place among entries in order of their keys; the value under a key that is
there is replaced. -/
def insertEntry (key value : Value) : List (Value × Value) → List (Value × Value)
  | [] => [(key, value)]
  | (k, v) :: rest =>
    match order key k with
    | .lt => (key, value) :: (k, v) :: rest
    | .eq => (k, value) :: rest
    | .gt => (k, v) :: insertEntry key value rest

/-- The map with the given entries, of which the last one with a key counts. -/
def ofEntries (entries : List (Value × Value)) : Value :=
  .map (entries.foldl (fun m e => insertEntry e.1 e.2 m) [])

/-- Pairwise equality of items. -/
def sameBy {α : Type} (f : α → α → Bool) : List α → List α → Bool
  | [], [] => true
  | x :: xs, y :: ys => f x y && sameBy f xs ys
  | _, _ => false

/-- Equality of values that are not deeper than given. -/
def sameWithin : Nat → Value → Value → Bool
  | _, undefined, undefined => true
  | _, none, none => true
  | n + 1, map xs, map ys =>
    xs.length == ys.length && xs.all fun (k, v) =>
      match lookup? k ys with
      | some w => sameWithin n v w
      | Option.none => false
  | _, loop i m _ _, loop j n _ _ => i == j && m == n
  | _, function f, function g => f == g
  | n + 1, a, b =>
    match a.items?, b.items? with
    | some xs, some ys => sameBy (sameWithin n) xs ys
    | _, _ => samePlain a b
  | 0, a, b => samePlain a b

/-- Equality of values: numbers by their value, maps and lists by their parts. -/
def same (a b : Value) : Bool :=
  sameWithin a.depth a b

/-! ## Data -/

mutual

/-- The value that JSON data stands for. -/
def ofJson : Json → Value
  | .null => none
  | .bool b => bool b
  | .int n => int (.given n)
  | .float x => float (.finite x)
  | .str s => str s
  | .arr items => list (ofItems items)
  | .obj members => ofEntries (ofMembers members)

/-- The values of array items. -/
def ofItems : List Json → List Value
  | [] => []
  | j :: js => ofJson j :: ofItems js

/-- The entries of object members. -/
def ofMembers : List (String × Json) → List (Value × Value)
  | [] => []
  | (n, j) :: ms => (str n, ofJson j) :: ofMembers ms

end

/-! ## Text -/

/-- The text of a loop: which of how many values it is at. -/
def loopText (index : Nat) (count? : Option Nat) : String :=
  "<loop " ++ Text.decimal index ++ (count?.map fun n => "/" ++ Text.decimal n).getD "" ++ ">"

mutual

/-- The text of a value inside a list or a map. -/
def inner : Value → String
  | undefined => "undefined"
  | none => "None"
  | bool b => if b then "True" else "False"
  | int n => Text.decimalInt n.value
  | float x => x.text .brief
  | str s => Text.quoted s
  | markup s => Text.quoted s
  | list items => "[" ++ innerItems items ++ "]"
  | series runs => "[" ++ innerRuns runs ++ "]"
  | map entries => "\x7b" ++ innerEntries entries ++ "\x7d"
  | loop index count? _ _ => loopText index count?
  | function name => "<function " ++ name ++ ">"

/-- The texts of list items. -/
def innerItems : List Value → String
  | [] => ""
  | [v] => inner v
  | v :: vs => inner v ++ ", " ++ innerItems vs

/-- The texts of the items of runs. -/
def innerRuns : List (List Value × Nat) → String
  | [] => ""
  | [(items, times)] => ", ".intercalate (List.replicate times (innerItems items))
  | (items, times) :: rest =>
    ", ".intercalate (List.replicate times (innerItems items)) ++ ", " ++ innerRuns rest

/-- The texts of map entries. -/
def innerEntries : List (Value × Value) → String
  | [] => ""
  | [(k, v)] => inner k ++ ": " ++ inner v
  | (k, v) :: es => inner k ++ ": " ++ inner v ++ ", " ++ innerEntries es

end

/-- The text of a value. -/
def text : Value → String
  | undefined => ""
  | str s => s
  | markup s => s
  | float x => x.text .plain
  | v => v.inner

/-! ## Parts -/

/-- A character as a value. -/
def ofChar (c : Char) : Value := str (String.singleton c)

/-- The names under which a loop tells how far it is. -/
def loopNames : List String :=
  ["index0", "index", "length", "revindex", "revindex0", "first", "last", "depth", "depth0"]

/-- The names under which a loop tells the values around the current one. -/
def neighborNames : List String := ["previtem", "nextitem"]

/-- The values that a value consists of: the items of a list, or the keys of a map. A text has
none. -/
def parts? : Value → Option (List Value)
  | list items => some items
  | series runs => some (Runs.toList runs)
  | map entries => some (entries.map (·.1))
  | loop .. => some (loopNames.map str)
  | _ => Option.none

/-- The number of characters, items or entries. -/
def length? (v : Value) : Option Nat :=
  match v.str?, v.runs? with
  | some s, _ => some s.length
  | _, some runs => some (Runs.length runs)
  | _, _ => v.parts?.map (·.length)

/-- What a loop over the value goes through. Nothing is gone through of what is not there. -/
def iterate? (v : Value) : Option (List Value) :=
  if v.isAbsent then some []
  else
    match v.str? with
    | some s => some (s.toList.map ofChar)
    | Option.none => v.parts?

/-- Whether a loop over the value knows the number of its steps in advance: a text is gone through
without counting its characters. -/
def isCounted (v : Value) : Bool :=
  v.str?.isNone

/-- The place that an index stands for in a list of the given length; negative ones count from the
end. -/
def place? (index : Value) (length : Nat) : Option Nat :=
  match index.index? with
  | some i =>
    if 0 ≤ i then some i.toNat
    else if i.natAbs ≤ length then some (length - i.natAbs)
    else Option.none
  | Option.none => Option.none

/-- What a loop tells under a name. Without a known number of values, those that depend on it are
undefined, and no value is known to be the last one. -/
def loopMember (index : Nat) (count? : Option Nat) (previous next : Value) : String → Value
  | "index" => ofNat (index + 1)
  | "index0" => ofNat index
  | "revindex" => (count?.map fun n => ofNat (n - index)).getD undefined
  | "revindex0" => (count?.map fun n => ofNat (n - index - 1)).getD undefined
  | "first" => bool (index == 0)
  | "last" => bool (count?.any fun n => index + 1 == n)
  | "length" => (count?.map ofNat).getD undefined
  | "depth" => ofNat 1
  | "depth0" => ofNat 0
  | "previtem" => previous
  | "nextitem" => next
  | _ => undefined

/-- What stands in a value under a name. -/
def member (v : Value) (name : String) : Value :=
  match v with
  | map entries => (lookup? (str name) entries).getD undefined
  | loop index count? previous next => loopMember index count? previous next name
  | _ => undefined

/-- What stands in a value under an index or a key. -/
def item (v index : Value) : Value :=
  match v with
  | str s => (((place? index s.length).bind (s.toList[·]?)).map ofChar).getD undefined
  | markup s => (((place? index s.length).bind (s.toList[·]?)).map ofChar).getD undefined
  | list items => ((place? index items.length).bind (items[·]?)).getD undefined
  | series runs => ((place? index (Runs.length runs)).bind (Runs.get? runs)).getD undefined
  | map entries => (lookup? index entries).getD undefined
  | loop .. => (index.str?.map v.member).getD undefined
  | _ => undefined

end Value

end PrimitiveDesk.Template

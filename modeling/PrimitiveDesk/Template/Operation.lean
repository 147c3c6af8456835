import PrimitiveDesk.Template.Expr
import PrimitiveDesk.Template.Fault
import PrimitiveDesk.Text.Blank
import PrimitiveDesk.Text.Case

/-!
# Operations of templates

Operators, filters, tests and functions on values. Whole numbers are bounded: a result of more than
128 bits is an error. A quotient is a double. A division of whole numbers without fraction leaves a
rest that is not negative; one of doubles leaves a rest with the sign of its first operand.
-/

namespace PrimitiveDesk.Template

open Text

/-- A computed number as a value. -/
def computed (n? : Option Whole) : Except Fault Value :=
  match n? with
  | some n => .ok (.int n)
  | none => .error .invalidOperation

/-- Arithmetic on two numbers: as doubles if one of them is a double, else as whole numbers. -/
def arithmetic (ints : Int → Int → Option Int) (floats : Extended → Extended → Extended)
    (a b : Value) : Except Fault Value :=
  match Value.numbers? false a b with
  | some (.whole m n) => computed ((ints m n).bind Whole.computed?)
  | some (.floats x y) => .ok (.float (floats x y))
  | none => .error .invalidOperation

/-- The sum of two numbers, or two strings or lists behind each other. -/
def addValues (a b : Value) : Except Fault Value :=
  match a.str?, b.str?, a.runs?, b.runs? with
  | some s, some t, _, _ => .ok (.str (s ++ t))
  | _, _, some xs, some ys => .ok (.series (xs ++ ys))
  | _, _, _, _ => arithmetic (fun m n => some (m + n)) .add a b

/-- How many bytes a repeated text may have. -/
def textLimit : Nat := 100000000

/-- How often something may be repeated, and how many items it may then have. -/
def countLimit : Nat := Nat.pow 2 64 - 1

/-- A text repeated. Halves are repeated first, so that the number of steps is small. -/
def repeatText (s : String) (times : Nat) : String :=
  if times = 0 then ""
  else
    let half := repeatText s (times / 2)
    if times % 2 = 0 then half ++ half else half ++ half ++ s
termination_by times

/-- The product of two numbers, or a string or list repeated. -/
def mulValues (a b : Value) : Except Fault Value :=
  let times (n : Value) (size limit : Nat) (f : Nat → Value) : Except Fault Value :=
    match n.index? with
    | some k =>
      if 0 ≤ k ∧ k.toNat ≤ countLimit ∧ k.toNat * size ≤ limit then .ok (f k.toNat)
      else .error .invalidOperation
    | none => .error .invalidOperation
  let text (s : String) (n : Value) : Except Fault Value :=
    times n s.utf8ByteSize textLimit fun k => .str (if s.isEmpty then "" else repeatText s k)
  let items (runs : List (List Value × Nat)) (n : Value) : Except Fault Value :=
    times n (Runs.length runs) countLimit fun k => .series (Runs.scale runs k)
  match a.str?, b.str?, a.runs?, b.runs? with
  | some s, _, _, _ => text s b
  | _, some s, _, _ => text s a
  | _, _, some xs, _ => items xs b
  | _, _, _, some xs => items xs a
  | _, _, _, _ => arithmetic (fun m n => some (m * n)) .mul a b

/-- The quotient of two numbers. -/
def divValues (a b : Value) : Except Fault Value :=
  match a.float? false, b.float? false with
  | some x, some y => .ok (.float (x.div y))
  | _, _ => .error .invalidOperation

/-- A power with a whole exponent that is not negative. -/
def powValues (a b : Value) : Except Fault Value :=
  match Value.numbers? false a b with
  | some (.whole m n) =>
    if 0 ≤ n ∧ (n ≤ 127 ∨ (m.natAbs ≤ 1 ∧ n < Int.pow 2 32)) then
      computed (Whole.computed? (Int.pow m n.toNat))
    else .error .invalidOperation
  | _ => .error .invalidOperation

/-- The rest of a division, which is not negative. There is none if the quotient has more than 128
bits. -/
def remWhole (m n : Int) : Option Int :=
  if n = 0 then none else (Whole.computed? (m / n)).map fun _ => m % n

/-- The value of an operator. -/
def BinaryOp.apply (op : BinaryOp) (a b : Value) : Except Fault Value :=
  match op with
  | .add => addValues a b
  | .sub => arithmetic (fun m n => some (m - n)) .sub a b
  | .mul => mulValues a b
  | .div => divValues a b
  | .floorDiv => arithmetic (fun m n => if n = 0 then none else some (m / n)) .divEuclid a b
  | .rem => arithmetic remWhole .rem a b
  | .pow => powValues a b
  | .concat => .ok (.str (a.text ++ b.text))

/-- Whether a value is contained in another. Nothing is contained in what is undefined. -/
def containedIn (a container : Value) : Except Fault Bool :=
  match container with
  | .undefined => .ok false
  | .map entries => .ok (Value.lookup? a entries).isSome
  | .loop .. => .ok (a.str?.any (Value.loopNames ++ Value.neighborNames).contains)
  | container =>
    match container.str?, container.runs? with
    | some s, _ => .ok (occursIn a.text.toList s.toList)
    | _, some runs => .ok (runs.any fun r => r.1.any fun i => i.same a)
    | _, _ => .error .invalidOperation

/-- Whether a comparison holds. -/
def Comparison.apply (op : Comparison) (a b : Value) : Except Fault Bool :=
  match op with
  | .eq => .ok (a.same b)
  | .ne => .ok (!a.same b)
  | .lt => .ok (a.order b == .lt)
  | .le => .ok (a.order b != .gt)
  | .gt => .ok (a.order b == .gt)
  | .ge => .ok (a.order b != .lt)
  | .contained => containedIn a b
  | .notContained => (containedIn a b).map (!·)

/-- A number with the other sign. -/
def negValue : Value → Except Fault Value
  | .int n => computed n.neg?
  | .float x => .ok (.float x.neg)
  | _ => .error .invalidOperation

/-! ## Filters -/

/-- Replaces every occurrence of `old`, which is not empty, from left to right. -/
def replaceAll (old new : List Char) : Nat → List Char → List Char
  | 0, cs => cs
  | _ + 1, [] => []
  | fuel + 1, c :: cs =>
    if old.isPrefixOf (c :: cs) then new ++ replaceAll old new fuel ((c :: cs).drop old.length)
    else c :: replaceAll old new fuel cs

/-- Replaces every occurrence of a text. An empty one occurs around every character. -/
def replaceText (s old new : String) : String :=
  if old.isEmpty then
    String.ofList (new.toList ++ s.toList.flatMap fun c => c :: new.toList)
  else String.ofList (replaceAll old.toList new.toList (s.length + 1) s.toList)

/-- Removes blanks, or the given characters, from both ends. -/
def trimText (s : String) (chars : Value) : String :=
  if chars.isAbsent then trimString s
  else
    let drop := chars.text.toList
    String.ofList (((s.toList.dropWhile drop.contains).reverse.dropWhile drop.contains).reverse)

/-- The first part of a value. -/
def firstOf (v : Value) : Except Fault Value :=
  match v.str?, v.runs? with
  | some s, _ => .ok ((s.toList.head?.map Value.ofChar).getD .undefined)
  | _, some runs => .ok ((Runs.get? runs 0).getD .undefined)
  | _, _ =>
    match v.parts? with
    | some parts => .ok (parts.head?.getD .undefined)
    | none => .error .invalidOperation

/-- The last part of a value; a map has none. -/
def lastOf (v : Value) : Except Fault Value :=
  match v.str?, v.runs? with
  | some s, _ => .ok ((s.toList.getLast?.map Value.ofChar).getD .undefined)
  | _, some runs => .ok ((Runs.get? runs (Runs.length runs - 1)).getD .undefined)
  | _, _ => .error .invalidOperation

/-- The values of a list, a text or the keys of a map, behind each other. -/
def joinValue (v separator : Value) : Except Fault Value :=
  let separator := if separator.isAbsent then "" else separator.text
  match v.iterate? with
  | some items => .ok (.str (separator.intercalate (items.map (·.text))))
  | none => .error .invalidOperation

/-- A value, or another one in place of an undefined one; a true `lax` replaces every value that
does not count as true. -/
def defaultValue (v other lax : Value) : Value :=
  let other := if other.isAbsent then .str "" else other
  if v.isUndefined || (lax.isTrue && !v.isTrue) then other else v

/-- Applies the filter of a name. -/
def applyFilter (name : String) (v : Value) (args : List Value) : Except Fault Value :=
  let plain (r : Except Fault Value) : Except Fault Value :=
    if args.isEmpty then r else .error .tooManyArguments
  let atMostOne (f : Value → Except Fault Value) : Except Fault Value :=
    match args with
    | [] => f .undefined
    | [a] => f a
    | _ => .error .tooManyArguments
  match name with
  | "upper" => plain (.ok (.str (upper v.text)))
  | "lower" => plain (.ok (.str (lower v.text)))
  | "length" | "count" => plain (lengthOf v)
  | "first" => plain (firstOf v)
  | "last" => plain (lastOf v)
  | "trim" => atMostOne fun chars => .ok (.str (trimText v.text chars))
  | "join" => atMostOne (joinValue v)
  | "replace" =>
    match args with
    | [old, new] => .ok (.str (replaceText v.text old.text new.text))
    | _ :: _ :: _ :: _ => .error .tooManyArguments
    | _ => .error .missingArgument
  | "default" | "d" =>
    match args with
    | [] => .ok (defaultValue v .undefined .undefined)
    | [other] => .ok (defaultValue v other .undefined)
    | [other, lax] => .ok (defaultValue v other lax)
    | _ => .error .tooManyArguments
  | _ => .error .unknownFilter
where
  /-- The length of a value that has one. -/
  lengthOf (v : Value) : Except Fault Value :=
    match v.length? with
    | some n => .ok (.ofNat n)
    | none => .error .invalidOperation

/-! ## Tests and functions -/

/-- Applies the test of a name. -/
def applyTest (name : String) (v : Value) (args : List Value) : Except Fault Bool :=
  let plain (r : Bool) : Except Fault Bool :=
    if args.isEmpty then .ok r else .error .tooManyArguments
  let compared (f : Value → Bool) : Except Fault Bool :=
    match args with
    | [other] => .ok (f other)
    | [] => .error .missingArgument
    | _ => .error .tooManyArguments
  match name with
  | "defined" => plain (!v.isUndefined)
  | "undefined" => plain v.isUndefined
  | "none" => plain (match v with | .none => true | _ => false)
  | "true" => plain (match v with | .bool true => true | _ => false)
  | "false" => plain (match v with | .bool false => true | _ => false)
  | "boolean" => plain (match v with | .bool _ => true | _ => false)
  | "number" => plain (match v with | .int _ => true | .float _ => true | _ => false)
  | "integer" => plain (match v with | .int _ => true | _ => false)
  | "float" => plain (match v with | .float _ => true | _ => false)
  | "string" => plain v.str?.isSome
  | "sequence" => plain (match v with | .list _ => true | _ => false)
  | "mapping" => plain (match v with | .map _ => true | _ => false)
  | "iterable" => plain v.iterate?.isSome
  | "odd" => plain ((v.index?.map (· % 2 != 0)).getD false)
  | "even" => plain ((v.index?.map (· % 2 == 0)).getD false)
  | "eq" | "equalto" => compared fun o => v.same o
  | "ne" => compared fun o => !v.same o
  | _ => .error .unknownTest

/-- The whole numbers from `start` up to `stop`. -/
def rangeValues (start stop step : Int) : Except Fault Value :=
  if step = 0 then .error .invalidOperation
  else
    let count :=
      if 0 < step then (stop - start + step - 1) / step else (start - stop - step - 1) / (-step)
    if 100000 < count then .error .invalidOperation
    else
      .ok (.list ((List.range count.toNat).map fun (i : Nat) => .int ⟨start + step * i, true⟩))

/-- A copy of a map; without one, an empty map. -/
def copyOf (v : Value) : Except Fault Value :=
  match v with
  | .map entries => .ok (.map entries)
  | v => if v.isAbsent then .ok (.map []) else .error .invalidOperation

/-- The names of functions. -/
def functionNames : List String := ["range", "dict", "namespace", "debug"]

/-- Calls the function of a name. -/
def applyFunction (name : String) (args : List Value) : Except Fault Value :=
  match name with
  | "range" =>
    match args.mapM Value.index? with
    | some [stop] => rangeValues 0 stop 1
    | some [start, stop] => rangeValues start stop 1
    | some [start, stop, step] => rangeValues start stop step
    | some [] => .error .missingArgument
    | some _ => .error .tooManyArguments
    | none => .error .invalidOperation
  | "dict" =>
    match args with
    | [] => copyOf .undefined
    | [v] => copyOf v
    | _ => .error .tooManyArguments
  | _ => .error .unknownFunction

end PrimitiveDesk.Template

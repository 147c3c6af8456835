import PrimitiveDesk.Text.Digit

/-!
# Texts in ASCII

A text with other characters is written in ASCII as its ASCII characters followed by the places of
the others: they are put in from the least to the greatest, and each is told by how many steps lie
between it and the one before. Steps are numbers in base 36 whose digits have thresholds, so that
each number shows where it ends; the thresholds adapt to the numbers before.
-/

namespace PrimitiveDesk.Text

/-- The digit of a value below 36. -/
def stepDigit (d : Nat) : Char :=
  if d < 26 then Char.ofNat (0x61 + d) else Char.ofNat (0x30 + (d - 26))

/-- The value of a digit. -/
def stepValue? (c : Char) : Option Nat :=
  if 'a' ≤ c && c ≤ 'z' then some (c.toNat - 0x61)
  else if 'A' ≤ c && c ≤ 'Z' then some (c.toNat - 0x41)
  else if isAsciiDigit c then some (c.toNat - 0x30 + 26)
  else none

/-- The threshold of the digit at a place, for a bias. -/
def threshold (place bias : Nat) : Nat :=
  min 26 (max 1 (place - bias))

theorem one_le_threshold (place bias : Nat) : 1 ≤ threshold place bias := by
  unfold threshold; omega

theorem threshold_le (place bias : Nat) : threshold place bias ≤ 26 := by
  unfold threshold; omega

/-- Scales a number of steps down and counts the digits that are saved. -/
def scaleSteps (steps saved : Nat) : Nat × Nat :=
  if 455 < steps then scaleSteps (steps / 35) (saved + 36) else (steps, saved)
termination_by steps

/-- The bias behind a number of steps, of which `count` characters were put in and this is the first
one or not. -/
def adapted (steps count : Nat) (isFirst : Bool) : Nat :=
  let steps := if isFirst then steps / 700 else steps / 2
  let (steps, saved) := scaleSteps (steps + steps / count) 0
  saved + 36 * steps / (steps + 38)

/-! ## Writing -/

/-- The digits of a number of steps. -/
def stepDigits (bias place steps : Nat) : List Char :=
  let t := threshold place bias
  if steps < t then [stepDigit steps]
  else
    stepDigit (t + (steps - t) % (36 - t)) ::
      stepDigits bias (place + 36) ((steps - t) / (36 - t))
termination_by steps
decreasing_by
  have h1 := one_le_threshold place bias
  have h2 := threshold_le place bias
  exact Nat.lt_of_le_of_lt (Nat.div_le_self _ _) (by omega)

/-- What is known while characters are put in: the digits so far, the steps since the last one, the
bias, and the number of characters. -/
structure Insertion where
  digits : List Char
  steps : Nat
  bias : Nat
  count : Nat

/-- Goes through the text once for a code point: each character below it is a step, and each
occurrence of it is put in. -/
def Insertion.pass (ascii code : Nat) (i : Insertion) : List Nat → Insertion
  | [] => { i with steps := i.steps + 1 }
  | n :: rest =>
    let i : Insertion :=
      if n < code then { i with steps := i.steps + 1 }
      else if n = code then
        ⟨i.digits ++ stepDigits i.bias 36 i.steps, 0,
          adapted i.steps (i.count + 1) (i.count == ascii), i.count + 1⟩
      else i
    i.pass ascii code rest

/-- Puts in all characters of increasing code points; `last` is the code point before. -/
def Insertion.run (ascii : Nat) (text : List Nat) (i : Insertion) (last : Nat) :
    List Nat → Insertion
  | [] => i
  | code :: rest =>
    let i := { i with steps := i.steps + (code - last) * (i.count + 1) }
    (i.pass ascii code text).run ascii text (code + 1) rest

/-- A text written in ASCII. -/
def toPunycode (cs : List Char) : List Char :=
  let ascii := cs.filter fun c => c.toNat < 0x80
  let others := ((cs.map Char.toNat).filter (0x80 ≤ ·)).mergeSort.eraseDups
  let i := (Insertion.mk [] 0 72 ascii.length).run ascii.length (cs.map Char.toNat) 0x80 others
  ascii ++ (if ascii.isEmpty then [] else ['-']) ++ i.digits

/-! ## Reading -/

/-- Reads a number of steps: the number, and what follows. -/
def readSteps? (bias : Nat) (place weight steps : Nat) : List Char → Option (Nat × List Char)
  | [] => none
  | c :: cs =>
    match stepValue? c with
    | none => none
    | some d =>
      let t := threshold place bias
      let steps := steps + d * weight
      if d < t then some (steps, cs)
      else readSteps? bias (place + 36) (weight * (36 - t)) steps cs

/-- Puts in the characters that digits tell; `place` is where the last one was put, and `last` its
code point. Each step reads a digit. -/
def insertAll? : Nat → Nat → Nat → Nat → List Nat → List Char → Option (List Nat)
  | _, _, _, _, text, [] => some text
  | 0, _, _, _, _, _ => none
  | fuel + 1, last, place, bias, text, digits =>
    match readSteps? bias 36 1 0 digits with
    | none => none
    | some (steps, rest) =>
      let count := text.length + 1
      let code := last + (place + steps) / count
      let at_ := (place + steps) % count
      if 0x10FFFF < code || (0xD800 ≤ code && code < 0xE000) then none
      else
        insertAll? fuel code (at_ + 1) (adapted steps count (place == 0 && last == 0x80))
          (text.take at_ ++ code :: text.drop at_) rest

/-- The text that is written in ASCII. -/
def ofPunycode? (cs : List Char) : Option (List Char) :=
  let digits := (cs.reverse.takeWhile (· != '-')).reverse
  let ascii := cs.take (cs.length - digits.length - 1)
  (insertAll? cs.length 0x80 0 72 (ascii.map Char.toNat) digits).map fun codes =>
    codes.map Char.ofNat

end PrimitiveDesk.Text

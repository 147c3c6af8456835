import PrimitiveDesk.Template.Value

/-!
# Template expressions and statements

The parts of a template: text, expressions whose values are printed, and statements that choose,
repeat, assign and include.
-/

namespace PrimitiveDesk.Template

/-- Operators between two values that give a value. -/
inductive BinaryOp where
  | add
  | sub
  | mul
  | div
  | floorDiv
  | rem
  | pow
  | concat
deriving DecidableEq, Repr, Inhabited

/-- Operators that compare two values. -/
inductive Comparison where
  | eq
  | ne
  | lt
  | le
  | gt
  | ge
  | contained
  | notContained
deriving DecidableEq, Repr, Inhabited

/-- An expression. -/
inductive Expr where
  | literal (v : Value)
  | var (name : String)
  | list (items : List Expr)
  | map (entries : List (Expr × Expr))
  | member (e : Expr) (name : String)
  | item (e index : Expr)
  | neg (e : Expr)
  | not (e : Expr)
  | and (l r : Expr)
  | or (l r : Expr)
  | binary (op : BinaryOp) (l r : Expr)
  /-- Comparisons in a row, each with the operand before it. All of them have to hold. -/
  | compared (first : Expr) (rest : List (Comparison × Expr))
  /-- A choice; without an alternative it is undefined. -/
  | cond (test yes : Expr) (no? : Option Expr)
  | call (name : String) (args : List Expr)
  /-- A call of what stands under a name of a value. -/
  | method (e : Expr) (name : String) (args : List Expr)
  /-- A call of any other value. -/
  | apply (e : Expr) (args : List Expr)
  | filter (e : Expr) (name : String) (args : List Expr)
  | test (e : Expr) (name : String) (args : List Expr)
deriving Inhabited, Repr

/-- What an assignment assigns to. -/
inductive Target where
  | name (n : String)
  /-- A member of a value. No value lets its members be assigned. -/
  | member (e : Expr) (name : String)
  /-- The parts of a value. -/
  | parts (ts : List Target)
deriving Inhabited, Repr

/-- A part of a template. -/
inductive Statement where
  | text (s : String)
  /-- Prints the value of an expression. -/
  | emit (e : Expr)
  | choose (test : Expr) (yes no : List Statement)
  /-- Repeats its body for the values that pass the filter, or else has its other body once. -/
  | loop (target : Target) (items : Expr) (filter? : Option Expr) (body otherwise : List Statement)
  | assign (target : Target) (e : Expr)
  /-- Assigns the text of its body, behind filters with their arguments. -/
  | capture (target : Target) (filters : List (String × List Expr)) (body : List Statement)
  /-- Renders another template in place; one that is missing may be ignored. -/
  | embed (e : Expr) (ignoreMissing : Bool)
deriving Inhabited, Repr

end PrimitiveDesk.Template

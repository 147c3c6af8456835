import PrimitiveDesk.Template.Markup
import PrimitiveDesk.Template.Operation
import PrimitiveDesk.Template.Parser

/-!
# Rendering templates

`Template.render` gives the text of a template for the members of a JSON object. Every step of a
loop has a frame of names of its own; what is assigned outside of loops holds until the end.
Templates that are included are rendered in place. Loops and included templates inside each other
may only be so deep (`nestingLimit`).
-/

namespace PrimitiveDesk.Template

/-- The names that are set, innermost frame first; the last frame holds the data. -/
abbrev Frames := List (List (String × Value))

namespace Frames

/-- The value of a name. -/
def lookup? (frames : Frames) (name : String) : Option Value :=
  frames.findSome? fun f => Assoc.find? f name

/-- The value of a name; functions have theirs unless they are set to something else. -/
def valueOf (frames : Frames) (name : String) : Value :=
  (frames.lookup? name).getD (if functionNames.contains name then .function name else .undefined)

/-- Sets a name in the innermost frame. -/
def set (frames : Frames) (name : String) (v : Value) : Frames :=
  match frames with
  | f :: rest => Assoc.set f name v :: rest
  | [] => [[(name, v)]]

end Frames

/-! ## Constants -/

/-- The value of a literal. -/
def Expr.literal? : Expr → Option Value
  | .literal v => some v
  | _ => none

/-- The key and the value of an entry of literals. -/
def literalEntry? (entry : Expr × Expr) : Option (Value × Value) :=
  match entry.1.literal?, entry.2.literal? with
  | some k, some v => some (k, v)
  | _, _ => none

mutual

/-- The value of an expression that does not depend on any name; lists and maps count if they hold
literals only. An `and` of two such expressions is false unless both are true. -/
def Expr.fixed? : Expr → Option Value
  | .literal v => some v
  | .list items => (items.mapM Expr.literal?).map .list
  | .map entries => (entries.mapM literalEntry?).map Value.ofEntries
  | .neg e => (Expr.fixed? e).bind fun v => (negValue v).toOption
  | .not e => (Expr.fixed? e).map fun v => .bool !v.isTrue
  | .and l r =>
    match Expr.fixed? l, Expr.fixed? r with
    | some a, some b => some (if a.isTrue && b.isTrue then b else .bool false)
    | _, _ => none
  | .or l r =>
    match Expr.fixed? l, Expr.fixed? r with
    | some a, some b => some (if a.isTrue then a else b)
    | _, _ => none
  | .binary op l r =>
    match Expr.fixed? l, Expr.fixed? r with
    | some a, some b => (op.apply a b).toOption
    | _, _ => none
  | .compared first rest =>
    match Expr.fixed? first with
    | some a => (fixedComparisons? a rest).map .bool
    | none => none
  | _ => none

/-- Whether comparisons hold whose operands are all fixed. -/
def fixedComparisons? (a : Value) : List (Comparison × Expr) → Option Bool
  | [] => some true
  | (op, e) :: rest =>
    match Expr.fixed? e with
    | none => none
    | some b =>
      match op.apply a b, fixedComparisons? b rest with
      | .ok holds, some others => some (holds && others)
      | _, _ => none

end

/-! ## Expressions -/

/-- Calls a value, which must be a function. -/
def callValue (v : Value) (args : List Value) : Except Fault Value :=
  match v with
  | .function name => applyFunction name args
  | _ => .error .invalidOperation

mutual

/-- The value of an expression. -/
def Expr.eval (frames : Frames) : Expr → Except Fault Value
  | .literal v => .ok v
  | .var name => .ok (frames.valueOf name)
  | .list items => do return .list (← evalItems frames items)
  | .map entries => do return Value.ofEntries (← evalEntries frames entries)
  | .member e name => do
    let v ← Expr.eval frames e
    if v.isUndefined then throw .undefinedValue
    return v.member name
  | .item e index => do
    let v ← Expr.eval frames e
    let i ← Expr.eval frames index
    if v.isUndefined then throw .undefinedValue
    return v.item i
  | .neg e => do negValue (← Expr.eval frames e)
  | .not e => do return .bool !(← Expr.eval frames e).isTrue
  | .and l r =>
    match (Expr.and l r).fixed? with
    | some v => .ok v
    | none => do
      let v ← Expr.eval frames l
      if v.isTrue then Expr.eval frames r else return v
  | .or l r => do
    let v ← Expr.eval frames l
    if v.isTrue then return v else Expr.eval frames r
  | .binary op l r => do
    let a ← Expr.eval frames l
    let b ← Expr.eval frames r
    op.apply a b
  | .compared first rest => do
    let a ← Expr.eval frames first
    return .bool (← evalComparisons frames a rest)
  | .cond test yes no? => do
    if (← Expr.eval frames test).isTrue then Expr.eval frames yes
    else
      match no? with
      | some no => Expr.eval frames no
      | none => return .undefined
  | .call name args => do
    let vs ← evalItems frames args
    match frames.lookup? name with
    | some v => callValue v vs
    | none => applyFunction name vs
  | .method e name args => do
    let v ← Expr.eval frames e
    let _ ← evalItems frames args
    if (v.member name).isUndefined then throw .unknownMethod
    throw .invalidOperation
  | .apply e args => do
    let v ← Expr.eval frames e
    callValue v (← evalItems frames args)
  | .filter e name args => do
    let v ← Expr.eval frames e
    applyFilter name v (← evalItems frames args)
  | .test e name args => do
    let v ← Expr.eval frames e
    return .bool (← applyTest name v (← evalItems frames args))

/-- The values of expressions. -/
def evalItems (frames : Frames) : List Expr → Except Fault (List Value)
  | [] => .ok []
  | e :: es => do
    let v ← Expr.eval frames e
    return v :: (← evalItems frames es)

/-- The values of the entries of a map. -/
def evalEntries (frames : Frames) : List (Expr × Expr) → Except Fault (List (Value × Value))
  | [] => .ok []
  | (k, v) :: es => do
    let key ← Expr.eval frames k
    let value ← Expr.eval frames v
    return (key, value) :: (← evalEntries frames es)

/-- Whether comparisons in a row hold for a first operand. Behind one that does not hold, nothing is
evaluated. -/
def evalComparisons (frames : Frames) (a : Value) : List (Comparison × Expr) → Except Fault Bool
  | [] => .ok true
  | (op, e) :: rest => do
    let b ← Expr.eval frames e
    if ← op.apply a b then evalComparisons frames b rest else return false

end

/-! ## Assignments -/

mutual

/-- Assigns a value to the names of a target. -/
def Target.assign (frames : Frames) (v : Value) : Target → Except Fault Frames
  | .name n => .ok (frames.set n v)
  | .member e _ => do
    let _ ← e.eval frames
    throw .invalidOperation
  | .parts ts =>
    match v.parts? with
    | some items => Target.assignParts frames items ts
    | none => .error .cannotUnpack

/-- Assigns values to targets, one by one. -/
def Target.assignParts (frames : Frames) : List Value → List Target → Except Fault Frames
  | [], [] => .ok frames
  | v :: vs, t :: ts =>
    match Target.assign frames v t with
    | .ok frames => Target.assignParts frames vs ts
    | .error e => .error e
  | _, _ => .error .cannotUnpack

end

/-- Applies filters one after another. -/
def applyFilters (frames : Frames) (v : Value) :
    List (String × List Expr) → Except Fault Value
  | [] => .ok v
  | (name, args) :: rest => do
    let v ← applyFilter name v (← evalItems frames args)
    applyFilters frames v rest

/-! ## Statements -/

/-- The values that pass the filter of a loop. -/
def passing (frames : Frames) (target : Target) (filter : Expr) :
    List Value → Except Fault (List Value)
  | [] => .ok []
  | v :: vs => do
    let inside ← target.assign ([] :: frames) v
    let pass ← filter.eval inside
    let rest ← passing frames target filter vs
    return if pass.isTrue then v :: rest else rest

/-- What a loop goes through, and how many values there are, if it is known in advance. The values
that pass a filter are collected first. -/
def loopItems (frames : Frames) (target : Target) (filter? : Option Expr) (v : Value) :
    Except Fault (List Value × Option Nat) :=
  match v.iterate?, filter? with
  | none, _ => .error .invalidOperation
  | some items, some filter => do
    let items ← passing frames target filter items
    return (items, some items.length)
  | some items, none => .ok (items, if v.isCounted then some items.length else none)

/-- What rendering changes and gives: the names that are set and the text. -/
abbrev Rendered := Except Fault (Frames × String)

/-- How deep loops and included templates may stand inside each other. -/
def nestingLimit : Nat := 500

/-- How much an included template counts against the limit; a loop counts once. -/
def embedCost : Nat := 10

/-- How a template is rendered that another one includes: by its name, at a depth, with the names
that are set. -/
abbrev Embedding := String → Nat → Frames → Rendered

/-- What holds around a statement: how templates are included, whether values are escaped, and how
deep the statement stands. -/
structure Surroundings where
  embed : Embedding
  escaping : Bool
  depth : Nat

/-- Renders the first of several templates that exists. All names before it must be texts; no names
at all render nothing. -/
def embedFirst (around : Surroundings) (frames : Frames) (ignoreMissing : Bool) (tried : Bool) :
    List Value → Rendered
  | [] => if tried && !ignoreMissing then .error .templateNotFound else .ok (frames, "")
  | v :: rest =>
    match v.str? with
    | none => .error .invalidOperation
    | some name =>
      match around.embed name around.depth frames with
      | .error .templateNotFound => embedFirst around frames ignoreMissing true rest
      | r => r

/-- The names of the templates to try for an included value: its parts, or itself if it has none. -/
def embedNames (v : Value) : List Value :=
  v.parts?.getD [v]

/-- Renders the body of a loop for every value; `previous` is the value before. -/
def renderEach (body : Frames → Rendered) (target : Target) (frames : Frames)
    (count? : Option Nat) : Nat → Value → List Value → Except Fault String
  | _, _, [] => .ok ""
  | index, previous, v :: vs => do
    let state := Value.loop index count? previous (vs.head?.getD .undefined)
    let inside ← target.assign ([("loop", state)] :: frames) v
    let (_, text) ← body inside
    let rest ← renderEach body target frames count? (index + 1) v vs
    return text ++ rest

mutual

/-- Renders a statement. -/
def Statement.render (around : Surroundings) (frames : Frames) : Statement → Rendered
  | .text s => .ok (frames, s)
  | .emit e => do return (frames, (← e.eval frames).printed around.escaping)
  | .choose test yes no => do
    if (← test.eval frames).isTrue then renderAll around frames yes else renderAll around frames no
  | .loop target items filter? body otherwise => do
    let (items, count?) ← loopItems frames target filter? (← items.eval frames)
    if nestingLimit < around.depth then throw .invalidOperation
    if items.isEmpty then renderAll around frames otherwise
    else
      let around := { around with depth := around.depth + 1 }
      let text ← renderEach (fun inside => renderAll around inside body) target frames count? 0
        .undefined items
      return (frames, text)
  | .assign target e => do return (← target.assign frames (← e.eval frames), "")
  | .capture target filters body => do
    let (frames, text) ← renderAll around frames body
    let v ← applyFilters frames (if around.escaping then .markup text else .str text) filters
    return (← target.assign frames v, "")
  | .embed e ignoreMissing => do
    embedFirst around frames ignoreMissing false (embedNames (← e.eval frames))

/-- Renders statements behind each other. -/
def renderAll (around : Surroundings) (frames : Frames) : List Statement → Rendered
  | [] => .ok (frames, "")
  | s :: ss => do
    let (frames, text) ← Statement.render around frames s
    let (frames, rest) ← renderAll around frames ss
    return (frames, text ++ rest)

end

/-! ## Templates -/

/-- Where templates come from, by name. -/
abbrev Library := String → Except Fault String

/-- Renders an included template, which may include others. The first number bounds how often; the
limit on nesting is met before. -/
def embedding (library : Library) : Nat → Embedding
  | 0, _, _, _ => .error .invalidOperation
  | fuel + 1, name, depth, frames => do
    let body ← parse (← library name)
    let depth := depth + embedCost
    if nestingLimit < depth then throw .invalidOperation
    match renderAll ⟨embedding library fuel, isMarkupName name, depth⟩ frames body with
    | .ok r => .ok r
    | .error _ => .error .badInclude

/-- The data of a template. -/
def dataFrame (data : Json.Members) : List (String × Value) :=
  (Assoc.ofList data).map fun m => (m.1, Value.ofJson m.2)

/-- The text of a template for the given data. The frame of its names counts as its depth. -/
def renderSource (library : Library) (escaping : Bool) (source : String) (data : Json.Members) :
    Except Fault String := do
  let body ← parse source
  let (_, text) ← renderAll ⟨embedding library (nestingLimit + 1), escaping, 1⟩
    [[], dataFrame data] body
  return text

/-- The text of a template without a name, for the given data. -/
def render (library : Library) (source : String) (data : Json.Members) : Except Fault String :=
  renderSource library false source data

/-- The text of a named template for the given data. -/
def renderNamed (library : Library) (name : String) (data : Json.Members) :
    Except Fault String := do
  renderSource library (isMarkupName name) (← library name) data

end PrimitiveDesk.Template

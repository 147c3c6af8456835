import PrimitiveDesk.Template.Value

/-!
# Escaping of markup

A template whose name says that it is a markup document prints its values so that they cannot be
taken for markup.
-/

namespace PrimitiveDesk.Template

/-- Name endings that only tell that a document is a template. -/
def templateEndings : List String := [".j2", ".jinja2", ".jinja"]

/-- The kinds of documents whose values are escaped. -/
def markupKinds : List String := ["html", "htm", "xml"]

/-- Whether values are escaped in the template of a name. -/
def isMarkupName (name : String) : Bool :=
  let name := match templateEndings.find? (fun ending => name.endsWith ending) with
    | some ending => String.ofList (name.toList.take (name.length - ending.length))
    | none => name
  markupKinds.contains ((name.splitOn ".").getLastD "")

/-- A character as markup shows it. -/
def markupChar : Char → List Char
  | '<' => "&lt;".toList
  | '>' => "&gt;".toList
  | '&' => "&amp;".toList
  | '"' => "&quot;".toList
  | '\'' => "&#x27;".toList
  | '/' => "&#x2f;".toList
  | c => [c]

/-- A text as markup shows it. -/
def escapeMarkup (s : String) : String :=
  String.ofList (s.toList.flatMap markupChar)

/-- How a value is printed; `escaping` tells that it must not be taken for markup. -/
def Value.printed (escaping : Bool) (v : Value) : String :=
  match v with
  | .markup s => s
  | v => if escaping then escapeMarkup v.text else v.text

end PrimitiveDesk.Template

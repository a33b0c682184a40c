import OpticalBench.Catalog.Documentation
import OpticalBench.Command.Exit

/-!
# The catalog command

Shows every element with its defaults, its arity and the frameworks that support it, and with `--docs`
also its documentation.
-/

namespace OpticalBench.CatalogCommand

/-- The options of the command. -/
def options : List OptionDeclaration := [⟨"docs", none, false⟩]

/-- An arity in words. -/
def arityText : Arity → String
  | .single => "single mode"
  | .dual => "mode and its right neighbour"

/-- The names of the frameworks that support an element. -/
def supportText (e : Element) : String :=
  let names := (Framework.all.filter e.supportedBy).map Framework.displayName
  if names.isEmpty then "none" else String.intercalate ", " names

/-- The documentation of an element. -/
def documentationPage (e : Element) : Page :=
  e.documentation.flatMap fun s =>
    ["", "  " ++ s.title, "  " ++ s.content] ++ s.formula.toList.map ("    " ++ ·)

/-- The entry of an element. -/
def entry (docs : Bool) (e : Element) : Page :=
  Page.heading (e.label ++ " (" ++ e.symbol ++ ")") ++
  Page.result "Description" e.description ++
  Page.result "Arity" (arityText e.arity) ++
  (e.declared.flatMap fun (key, value) =>
    Page.result ("Default " ++ Element.parameterDisplayName key) (value.text .plain)) ++
  Page.result "Supported by" (supportText e) ++
  if docs then documentationPage e else []

/-- Run the command. -/
def run (arguments : List String) : Exit :=
  match Arguments.parse? options arguments with
  | none => .usage
  | some a =>
    .success (Page.header "Optical Element Catalog" ++ Element.all.flatMap (entry (a.has "docs")))

end OpticalBench.CatalogCommand

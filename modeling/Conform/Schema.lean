import Conform.Schema.Compile
import Conform.Text.Quoted

set_option autoImplicit false

namespace Conform

structure Schema where
  document : Json
  formats : Formats

namespace Schema

def ofDocument (document : Json) (extras : Formats) : Schema :=
  ⟨document, Formats.extend extras⟩

def context (schema : Schema) : Context :=
  ⟨schema.document, schema.formats⟩

def root (schema : Schema) : Node :=
  Node.decode schema.document

def title (schema : Schema) : Option String :=
  schema.root.own.title

def description (schema : Schema) : Option String :=
  schema.root.own.description

def kinds (schema : Schema) : Option (List Kind) :=
  schema.root.own.kinds

def rootReference : String := "#"

def label (schema : Schema) : String :=
  match schema.title with
  | none => rootReference
  | some title => if title.isEmpty then rootReference else title

def compileWith (refer : Expansion) (schema : Schema) : Traced (List Check) := do
  let checks ← schema.root.checks schema.formats refer (Scope.enter {} rootReference)
  Logged.note .debug .schema s!"Compiled {checks.length} validators for schema '{schema.label}'"
  return checks

def validateWith (refer : Expansion) (schema : Schema) (value : Json) : Traced Findings := do
  let checks ← schema.compileWith refer
  Check.all checks value

def compile (schema : Schema) : Traced (List Check) :=
  schema.compileWith (refer schema.context)

def validate (schema : Schema) (value : Json) : Traced Findings :=
  schema.validateWith (refer schema.context) value

def kindNames (kinds : List Kind) : List String :=
  (Json.sortByKey (kinds.map fun kind => (kind.name, ()))).map (·.1)

def summary (schema : Schema) : String :=
  let title := match schema.title with
    | none => "None"
    | some title => Text.quoted title
  let kinds := match schema.kinds with
    | none => "None"
    | some kinds => Text.quotedList (kindNames kinds)
  "Schema(title=" ++ title ++ ", types=" ++ kinds ++ ")"

end Schema

end Conform

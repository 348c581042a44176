set_option autoImplicit false

namespace Conform.Catalogue

def packageName : String :=
  "jsvalidator"

inductive Item where
  | part (name : String)
  | definition (part name : String)
  | formats
deriving DecidableEq, Repr

inductive Fault where
  | unknown (name : String)
  | noPart (name : String)
  | notNested (name outer : String)
deriving DecidableEq, Repr

def Fault.message : Fault → String
  | .unknown name => "module '" ++ packageName ++ "' has no attribute '" ++ name ++ "'"
  | .noPart name => "No module named '" ++ name ++ "'"
  | .notNested name outer => "No module named '" ++ name ++ "'; '" ++ outer ++ "' is not a package"

def definitions : List (String × List String) :=
  [("schema", ["validate", "Schema"]),
   ("result", ["ValidationResult", "SchemaValidationError"]),
   ("combinators", ["valid", "invalid", "flatten", "all_of", "any_of", "one_of", "not_"]),
   ("validatefile", ["validate_file"])]

def parts : List String :=
  ["common", "result", "combinators", "formats", "schemanode", "keywords", "compiler", "reference", "schema",
   "validatefile", "jsvalidator", "_version"]

def qualified (name : String) : String :=
  packageName ++ "." ++ name

def definingPart? (name : String) : Option String :=
  (definitions.find? fun entry => entry.2.contains name).map (·.1)

def findPath (path : List String) : Except Fault Item :=
  let name := ".".intercalate path
  match path with
  | [] => .error (.unknown name)
  | [single] => if parts.contains single then .ok (.part (qualified single)) else .error (.unknown name)
  | outer :: inner :: deeper =>
      if !parts.contains outer then .error (.noPart (qualified outer))
      else if deeper.isEmpty then .error (.unknown name)
      else .error (.notNested (qualified (outer ++ "." ++ inner)) (qualified outer))

def find (name : String) : Except Fault Item :=
  if name = "DEFAULT_FORMATS" then .ok .formats
  else if name = "LazyLoader" then .ok (.definition packageName name)
  else
    match definingPart? name with
    | some part => .ok (.definition (qualified part) name)
    | none => findPath (name.splitOn ".")

end Conform.Catalogue

import Conform.Files.Volume
import Conform.Schema.Node
import Conform.Text.Split
import Conform.Text.Trim

set_option autoImplicit false

namespace Conform

inductive Source where
  | file (name : String)
  | standardInput (bytes : List UInt8)
deriving DecidableEq, Repr

namespace Source

def label : Source → String
  | .file name => name
  | .standardInput _ => "<STDIN>"

def text (volume : Volume) : Source → Except Volume.Fault (List Char)
  | .file name => volume.text name
  | .standardInput bytes => Volume.decode bytes

end Source

-- How texts are read is left open: a reader may keep half a character in a string, where the strings of `Json` hold
-- characters only and its reader refuses the text.
structure Reader (V : Type) where
  read : String → Except Json.ReadError V
  items? : V → Option (List V)

def Json.reader : Reader Json where
  read := Json.read
  items? := Json.asItems?

structure Labelled (V : Type) where
  label : String
  content : Except Json.ReadError V

namespace Labelled

variable {V : Type}

def ofItems (file : String) : Nat → List V → List (Labelled V)
  | _, [] => []
  | index, item :: rest => ⟨s!"{file}[{index}]", .ok item⟩ :: ofItems file (index + 1) rest

-- The content of a line. Only a line that is no document is passed on with its fault.
def ofLine (reader : Reader V) (label : String) (line : List Char) : Except Volume.Fault (Labelled V) :=
  match reader.read (String.ofList line) with
  | .ok value => .ok ⟨label, .ok value⟩
  | .error f => if f.cause.isSyntax then .ok ⟨label, .error f⟩ else .error (.notJson f)

def ofLines (reader : Reader V) (file : String) : Nat → List (List Char) → Except Volume.Fault (List (Labelled V))
  | _, [] => .ok []
  | number, line :: rest =>
      let trimmed := Text.trim line
      if trimmed.isEmpty then ofLines reader file (number + 1) rest
      else do
        let own ← ofLine reader s!"{file}:{number}" trimmed
        let others ← ofLines reader file (number + 1) rest
        return own :: others

def ofValue (reader : Reader V) (file : String) (wantsArray : Bool) (value : V) : List (Labelled V) :=
  match if wantsArray then none else reader.items? value with
  | some items => ofItems file 0 items
  | none => [⟨file, .ok value⟩]

def ofText (reader : Reader V) (file : String) (wantsArray : Bool) (text : List Char) :
    Logged Volume.Fault (List (Labelled V)) :=
  let content := Text.trim text
  match reader.read (String.ofList content) with
  | .ok value => .result (ofValue reader file wantsArray value)
  | .error f =>
      if f.cause.isSyntax then do
        Logged.note .debug .files (file ++ " is not a single JSON document, reading as JSON Lines")
        Logged.ofExcept (ofLines reader file 1 (Text.split '\n' content))
      else .fault (.notJson f)

def load (reader : Reader V) (volume : Volume) (source : Source) (wantsArray : Bool) :
    Logged Volume.Fault (List (Labelled V)) :=
  Logged.andThen (.ofExcept (source.text volume)) fun text => ofText reader source.label wantsArray text

end Labelled

abbrev Instance := Labelled Json

def Instance.load (volume : Volume) (source : Source) (wantsArray : Bool) : Logged Volume.Fault (List Instance) :=
  Labelled.load Json.reader volume source wantsArray

end Conform

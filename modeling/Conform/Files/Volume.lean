import Conform.Json.Reader
import Conform.Text.Quoted
import Conform.Text.Split
import Conform.Text.Utf8
import Conform.Trace

set_option autoImplicit false

namespace Conform

abbrev Volume := List (String × List UInt8)

namespace Volume

inductive Fault where
  | missing (name : String)
  | directory (name : String)
  | notDirectory (name : String)
  | tooLong (name : String)
  | embeddedNul
  | notText (fault : Utf8.Fault)
  | notJson (fault : Json.ReadError)
  | engine (fault : Conform.Fault)

def byteText (byte : UInt8) : String :=
  String.ofList ('0' :: 'x' :: Text.hex 2 byte.toNat)

def utf8Message (f : Utf8.Fault) : String :=
  let place :=
    if f.size = 1 then s!"byte {byteText f.first} in position {f.start}"
    else s!"bytes in position {f.start}-{f.start + f.size - 1}"
  "'utf-8' codec can't decode " ++ place ++ ": " ++ f.reason.message

def Fault.message : Fault → String
  | .missing name => "[Errno 2] No such file or directory: " ++ Text.quoted name
  | .directory name => "[Errno 21] Is a directory: " ++ Text.quoted name
  | .notDirectory name => "[Errno 20] Not a directory: " ++ Text.quoted name
  | .tooLong name => "[Errno 36] File name too long: " ++ Text.quoted name
  | .embeddedNul => "embedded null byte"
  | .notText f => utf8Message f
  | .notJson f => f.message
  | .engine f => f.message

def steps (path : String) : List String :=
  let named := ((Text.split '/' path.toList).map String.ofList).filter fun step => step != ""
  (if path.startsWith "/" then ["/"] else []) ++ named ++ (if path.endsWith "/" then ["."] else [])

def above (place : List String) : List String :=
  match place.getLast? with
  | none => [".."]
  | some ".." => place ++ [".."]
  | some "/" => place
  | some _ => place.dropLast

def place (path : String) : List String :=
  (steps path).foldl (fun here step =>
    if step = "." then here else if step = ".." then above here else here ++ [step]) []

def isDirectory (volume : Volume) (here : List String) : Bool :=
  here.all (fun step => step == ".." || step == "/") ||
    volume.any fun file => here.isPrefixOf (place file.1)

def nameLimit : Nat := 255

def pathLimit : Nat := 4096

-- Follows steps from a directory on; what is wrong on the way is charged to the whole path.
def follow (volume : Volume) (path : String) : List String → List String → Except Fault (List UInt8)
  | _, [] => .error (.directory path)
  | here, step :: rest =>
      if step = "." then volume.follow path here rest
      else if step = ".." then volume.follow path (above here) rest
      else if nameLimit < step.utf8ByteSize then .error (.tooLong path)
      else
        let here := here ++ [step]
        match volume.find? fun file => place file.1 == here with
        | some (_, bytes) => if rest.isEmpty then .ok bytes else .error (.notDirectory path)
        | none => if volume.isDirectory here then volume.follow path here rest else .error (.missing path)

def bytes (volume : Volume) (path : String) : Except Fault (List UInt8) :=
  if path.toList.contains '\x00' then .error .embeddedNul
  else if path.isEmpty then .error (.missing path)
  else if pathLimit ≤ path.utf8ByteSize then .error (.tooLong path)
  else volume.follow path [] (steps path)

def unifyLineEnds : List Char → List Char
  | [] => []
  | '\r' :: '\n' :: rest => '\n' :: unifyLineEnds rest
  | '\r' :: rest => '\n' :: unifyLineEnds rest
  | c :: rest => c :: unifyLineEnds rest

def decode (bytes : List UInt8) : Except Fault (List Char) :=
  match Utf8.toText bytes with
  | .ok text => .ok (unifyLineEnds text)
  | .error f => .error (.notText f)

def text (volume : Volume) (name : String) : Except Fault (List Char) := do
  decode (← volume.bytes name)

def document {V : Type} (read : String → Except Json.ReadError V) (volume : Volume) (name : String) : Except Fault V := do
  let text ← volume.text name
  match read (String.ofList text) with
  | .ok value => return value
  | .error f => throw (.notJson f)

end Volume

end Conform

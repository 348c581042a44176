import Conform.Json.Basic
import Conform.Text.Digit

set_option autoImplicit false

namespace Conform.Json

def escapeChar (c : Char) : List Char :=
  if c = '"' then ['\\', '"']
  else if c = '\\' then ['\\', '\\']
  else if c = '\n' then ['\\', 'n']
  else if c = '\r' then ['\\', 'r']
  else if c = '\t' then ['\\', 't']
  else if c = '\x0c' then ['\\', 'f']
  else if c = '\x08' then ['\\', 'b']
  else if c.toNat < 32 then '\\' :: 'u' :: Text.hex 4 c.toNat
  else [c]

def quote (s : String) : String :=
  String.ofList ('"' :: (s.toList.flatMap escapeChar ++ ['"']))

def insertByKey {α : Type} (entry : String × α) : List (String × α) → List (String × α)
  | [] => [entry]
  | head :: rest => if entry.1 < head.1 then entry :: head :: rest else head :: insertByKey entry rest

def sortByKey {α : Type} : List (String × α) → List (String × α)
  | [] => []
  | entry :: rest => insertByKey entry (sortByKey rest)

def separated : List String → String
  | [] => ""
  | [text] => text
  | text :: rest => text ++ ", " ++ separated rest

mutual
def describe : Json → String
  | .null => "null"
  | .bool b => if b then "true" else "false"
  | .number n => n.literal
  | .string s => quote s
  | .array items => "[" ++ separated (describeItems items) ++ "]"
  | .object members =>
      "\x7b" ++ separated ((sortByKey (describeMembers members)).map fun (key, text) =>
        quote key ++ ": " ++ text) ++ "\x7d"

def describeItems : List Json → List String
  | [] => []
  | item :: rest => describe item :: describeItems rest

def describeMembers : List (String × Json) → List (String × String)
  | [] => []
  | (key, value) :: rest => (key, describe value) :: describeMembers rest
end

mutual
def isWritable : Json → Bool
  | .number n => n.isWritable
  | .array items => areWritable items
  | .object members => membersWritable members
  | _ => true

def areWritable : List Json → Bool
  | [] => true
  | item :: rest => isWritable item && areWritable rest

def membersWritable : List (String × Json) → Bool
  | [] => true
  | (_, value) :: rest => isWritable value && membersWritable rest
end

end Conform.Json

import Conform.Text.Split

set_option autoImplicit false

namespace Conform.Unicode

-- Characters in a row from a first code on: what all their names start with, and how each goes on, in
-- lines of endings separated by semicolons. A character with an empty ending has no name here.
structure NameRun where
  first : Nat
  stem : String
  endings : List String
deriving Repr

def afterStem? : List Char → List Char → Option (List Char)
  | [], text => some text
  | _ :: _, [] => none
  | c :: stem, d :: text => if c = d then afterStem? stem text else none

def NameRun.find? (run : NameRun) (name : List Char) : Option Nat :=
  match afterStem? run.stem.toList name with
  | none => none
  | some [] => none
  | some ending =>
      let endings := run.endings.flatMap fun line => Text.split ';' line.toList
      (endings.idxOf? ending).map (run.first + ·)

end Conform.Unicode

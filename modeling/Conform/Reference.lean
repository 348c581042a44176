import Conform.Json.Basic
import Conform.Text.Percent
import Conform.Text.Split

set_option autoImplicit false

namespace Conform

namespace Reference

inductive Fault where
  | remote
  | notFound (step : String)
  | tooManyDigits (count : Nat)
deriving DecidableEq, Repr

def Fault.message (reference : String) : Fault → String
  | .remote => "Remote $ref '" ++ reference ++ "' is not yet supported"
  | .notFound step => "Reference not found '" ++ step ++ "' in '" ++ reference ++ "'"
  | .tooManyDigits count => Text.tooManyDigits count

structure Failure where
  reference : String
  fault : Fault
deriving DecidableEq, Repr

def Failure.message (failure : Failure) : String :=
  failure.fault.message failure.reference

def replaceTilde (digit replacement : Char) : List Char → List Char
  | [] => []
  | [c] => [c]
  | c :: d :: rest =>
      if c = '~' ∧ d = digit then replacement :: replaceTilde digit replacement rest
      else c :: replaceTilde digit replacement (d :: rest)

def unescape (step : List Char) : List Char :=
  replaceTilde '0' '~' (replaceTilde '1' '/' step)

def steps (path : List Char) : List String :=
  ((Text.split '/' (Text.percentDecode path)).drop 1).map fun step => String.ofList (unescape step)

-- The digits of an index without leading zeros. A line end behind it is ignored.
def indexDigits? (step : List Char) : Option (List Char) :=
  let digits := if step.getLast? = some '\n' then step.dropLast else step
  let isIndex := digits = ['0'] ∨ (digits.head? ≠ some '0' ∧ !digits.isEmpty ∧ digits.all Text.isDigit)
  if isIndex then some digits else none

def item (step : String) (items : List Json) : Except Fault Json :=
  match indexDigits? step.toList with
  | none => .error (.notFound step)
  | some digits =>
      if Text.digitLimit < digits.length then .error (.tooManyDigits digits.length)
      else
        match items[Text.valueIn 10 digits]? with
        | some child => .ok child
        | none => .error (.notFound step)

def child (step : String) : Json → Except Fault Json
  | .object members =>
      match member? step members with
      | some child => .ok child
      | none => .error (.notFound step)
  | .array items => item step items
  | _ => .error (.notFound step)

def follow : List String → Json → Except Fault Json
  | [], node => .ok node
  | step :: rest, node => do follow rest (← child step node)

def resolve (document : Json) (reference : String) : Except Fault Json :=
  match reference.toList with
  | ['#'] => .ok document
  | '#' :: '/' :: path => follow (steps ('/' :: path)) document
  | _ => .error .remote

def find (document : Json) (reference : String) : Except Failure Json :=
  (resolve document reference).mapError fun fault => ⟨reference, fault⟩

end Reference

end Conform

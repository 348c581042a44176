import Conform.Check
import Conform.Text.Quoted

set_option autoImplicit false

namespace Conform

structure Report where
  findings : Findings
  location : Option String := none
deriving DecidableEq, Repr, Inhabited

namespace Report

inductive Fault where
  | validWithFindings
  | invalidWithoutFindings
  | immutableSet (name : String)
  | immutableDelete (name : String)
deriving DecidableEq, Repr

def Fault.message : Fault → String
  | .validWithFindings => "A valid result cannot carry error messages"
  | .invalidWithoutFindings => "An invalid result must carry at least one error message"
  | .immutableSet name => "ValidationResult is immutable, cannot set '" ++ name ++ "'"
  | .immutableDelete name => "ValidationResult is immutable, cannot delete '" ++ name ++ "'"

def isValid (r : Report) : Bool :=
  r.findings.isEmpty

def make (valid : Bool) (findings : Findings) (location : Option String) : Except Fault Report :=
  if valid && !findings.isEmpty then .error .validWithFindings
  else if !valid && findings.isEmpty then .error .invalidWithoutFindings
  else .ok ⟨findings, location⟩

def valid : Report :=
  ⟨[], none⟩

def locate (r : Report) (location : String) : Report :=
  { r with location := some location }

def flatten (reports : List Report) : Report :=
  ⟨reports.flatMap (·.findings), none⟩

def same (a b : Report) : Bool :=
  a.findings == b.findings

def place (r : Report) : String :=
  match r.location with
  | none => ""
  | some location => if location.isEmpty then "" else location ++ ": "

def summary (r : Report) : String :=
  r.place ++ "; ".intercalate r.findings

def text (r : Report) : String :=
  if r.isValid then
    match r.location with
    | none => "✓ Valid"
    | some location => if location.isEmpty then "✓ Valid" else "✓ Valid: " ++ location
  else "✗ Invalid: " ++ r.summary

def inspect (r : Report) : String :=
  "ValidationResult(is_valid=" ++ (if r.isValid then "True" else "False") ++ ", errors="
    ++ Text.quotedList r.findings ++ ")"

end Report

end Conform

import Conform.Json.Basic
import Conform.Trace

set_option autoImplicit false

namespace Conform

abbrev Findings := List String

abbrev Check := Json → Traced Findings

namespace Check

def accept : Check :=
  fun _ => .result []

def reject (message : String) : Check :=
  fun _ => .result [message]

def ofFindings (judge : Json → Findings) : Check :=
  fun value => .result (judge value)

def outcomes (checks : List Check) (value : Json) : Traced (List Findings) :=
  Logged.each (fun check => check value) checks

def all (checks : List Check) : Check :=
  fun value => do
    let found ← outcomes checks value
    return found.flatten

def anyAfter (found : Findings) : List Check → Check
  | [], _ => .result (if found.isEmpty then ["Value does not match any of the 'anyOf' schemas"] else found)
  | check :: rest, value => do
      let own ← check value
      if own.isEmpty then return [] else anyAfter (found ++ own) rest value

def any (checks : List Check) : Check :=
  anyAfter [] checks

def one (checks : List Check) : Check :=
  fun value => do
    let found ← outcomes checks value
    let matched := found.countP List.isEmpty
    if matched = 1 then return []
    else if matched = 0 then
      return "Value does not match any of the 'oneOf' schemas" :: found.flatten
    else
      return [s!"Value matches more than one of the 'oneOf' schemas ({matched} matched)"]

def negate (check : Check) : Check :=
  fun value => do
    let found ← check value
    return if found.isEmpty then ["Value must not match the 'not' schema"] else []

def items (check : Check) : Check
  | .array values => do
      let found ← Logged.each check values
      return found.flatten
  | _ => .result []

def positional (rest : Check) : List Check → List Json → Traced (List Findings)
  | _, [] => .result []
  | [], values => Logged.each rest values
  | check :: checks, value :: values => do
      let found ← check value
      let others ← positional rest checks values
      return found :: others

def tuple (checks : List Check) (rest : Check) : Check
  | .array values => do
      let found ← positional rest checks values
      return found.flatten
  | _ => .result []

def whenCalled (test : Traced Bool) (check : Check) (value : Json) : Traced (Option Findings) := do
  if ← test then return some (← check value) else return none

-- The findings on one member, of the checks that its key calls for by its name or by a pattern found
-- in it. If there are none, the check of the rest decides, and its findings name the key.
def member (declared : List (String × Check)) (patterns : List ((String → Traced Bool) × Check)) (rest : Check)
    (entry : String × Json) : Traced Findings := do
  let (key, value) := entry
  let named ← outcomes (member? key declared).toList value
  let matched ← Logged.each (fun pattern => whenCalled (pattern.1 key) pattern.2 value) patterns
  match named ++ matched.filterMap id with
  | [] =>
      let found ← rest value
      return found.map fun message => "Property '" ++ key ++ "': " ++ message
  | called => return called.flatten

def members (declared : List (String × Check)) (patterns : List ((String → Traced Bool) × Check))
    (defects : Findings) (rest : Check) : Check
  | .object entries => do
      let found ← Logged.each (member declared patterns rest) entries
      return defects ++ found.flatten
  | _ => .result []

def whenPresent (key : String) (check : Check) : Check
  | .object entries => if hasMember key entries then check (.object entries) else .result []
  | _ => .result []

end Check

end Conform

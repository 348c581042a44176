import Conform.Address
import Conform.Check
import Conform.Json.Text
import Conform.Pattern.Search

set_option autoImplicit false

namespace Conform.Keyword

def write (numbers : List Number) : Traced Unit :=
  if numbers.all Number.isWritable then .result () else .fault (.tooManyDigits none)

-- A check whose findings show values. It ends where they cannot be written.
def showing (shown : Json → List Json) (judge : Json → Findings) : Check :=
  fun value =>
    let found := judge value
    if found.isEmpty || (shown value).all Json.isWritable then .result found else .fault (.tooManyDigits none)

def ofKinds (kinds : List Kind) (value : Json) : Findings :=
  if value.kinds.any kinds.contains then []
  else
    let expected := ", ".intercalate
      ((Kind.all.filter kinds.contains).map fun kind => "'" ++ kind.name ++ "'")
    [value.describe ++ " is not of type " ++ expected]

def type (kinds : List Kind) (value : Json) : Findings :=
  if kinds.isEmpty then ["Value is not permitted as 'type' names no known primitive type"]
  else ofKinds kinds value

def typeCheck (kinds : List Kind) : Check :=
  showing (fun value => if kinds.isEmpty then [] else [value]) (type kinds)

def enum (values : List Json) (value : Json) : Findings :=
  if values.any value.same then []
  else [value.describe ++ " is not one of the permitted values " ++ (Json.array values).describe]

def enumCheck (values : List Json) : Check :=
  showing (fun value => [value, .array values]) (enum values)

def length (test : Int → Bool) (message : String) : Json → Findings
  | .string s => if test s.length then [] else [message]
  | _ => []

def itemCount (test : Int → Bool) (message : String) : Json → Findings
  | .array items => if test items.length then [] else [message]
  | _ => []

def memberCount (test : Int → Bool) (message : String) : Json → Findings
  | .object members => if test members.length then [] else [message]
  | _ => []

def bound (test : Number → Bool) (message : String) : Json → Findings
  | .number n => if test n then [] else [message]
  | _ => []

def minimum (limit : Number) (exclusive : Bool) : Json → Findings :=
  if exclusive then
    bound (fun n => limit.less n) ("Value is lower than or equal to exclusive minimum value of " ++ limit.plain)
  else
    bound (fun n => limit.less n || n.equal limit) ("Value is lower than minimum value of " ++ limit.plain)

def maximum (limit : Number) (exclusive : Bool) : Json → Findings :=
  if exclusive then
    bound (fun n => n.less limit) ("Value equals or exceeds exclusive maximum value of " ++ limit.plain)
  else
    bound (fun n => n.less limit || n.equal limit) ("Value exceeds maximum value of " ++ limit.plain)

def isBadDivisor (divisor : Number) : Bool :=
  divisor.less (.integer 0) || divisor.equal (.integer 0)

def badDivisors (divisor : Number) : List Number :=
  if isBadDivisor divisor then [divisor] else []

def multipleOf (divisor : Number) : Check
  | .number n =>
      if isBadDivisor divisor then
        .result ["'multipleOf' must be greater than 0, got " ++ divisor.plain]
      else
        match n.isMultipleOf divisor with
        | .ok true => .result []
        | .ok false => do
            write [n, divisor]
            return [n.plain ++ " is not a multiple of " ++ divisor.plain]
        | .error kind => .fault (.zeroDivisor kind)
  | _ => .result []

def firstRepeated : List Json → Option Json
  | [] => none
  | item :: rest => if rest.any item.same then some item else firstRepeated rest

def uniqueItems : Json → Findings
  | .array items =>
      match firstRepeated items with
      | some item => ["Items of array must be unique, " ++ item.describe ++ " appears more than once"]
      | none => []
  | _ => []

def repeated : Json → List Json
  | .array items => (firstRepeated items).toList
  | _ => []

def uniqueItemsCheck : Check :=
  showing repeated uniqueItems

def required (keys : List String) : Json → Findings
  | .object members =>
      (keys.filter fun key => !hasMember key members).map fun key =>
        "Required property '" ++ key ++ "' is missing"
  | _ => []

def dependency (key : String) (keys : List String) : Json → Findings
  | .object members =>
      if hasMember key members then
        (keys.filter fun other => !hasMember other members).map fun other =>
          "'" ++ key ++ "' is missing its dependency of '" ++ other ++ "'"
      else []
  | _ => []

def isFound (pattern : Pattern) (text : String) : Traced Bool :=
  match pattern.found? text with
  | some answer => .result answer
  | none => .fault .crossedGroup

def found (source : String) (pattern : Pattern) : Check
  | .string s => do
      return if ← isFound pattern s then [] else ["'" ++ s ++ "' does not match pattern '" ++ source ++ "'"]
  | _ => .result []

def defectivePattern (source : String) : Json → Findings
  | .string _ => ["Pattern '" ++ source ++ "' is not a valid regular expression"]
  | _ => []

-- Reads a pattern. A defect is noted under the given name and leaves no pattern.
def readPattern (what source : String) : Traced (Option Pattern) :=
  match Pattern.compile source with
  | .ok pattern => .result (some pattern)
  | .error (.defective defect) => do
      Logged.note .warning .keywords
        ("Invalid " ++ what ++ " '" ++ source ++ "' in schema: " ++ defect.message source)
      return none
  | .error .countTooLarge => .fault .countTooLarge
  | .error .codeTooLarge => .fault .codeTooLarge
  | .error .conflictingFlags => .fault .conflictingFlags
  | .error .farLookbehind => .fault .farLookbehind
  | .error (.tooManyDigits count) => .fault (.tooManyDigits (some count))

def pattern (source : String) : Traced Check := do
  match ← readPattern "regular expression" source with
  | some p => return found source p
  | none => return Check.ofFindings (defectivePattern source)

def properties (declared patterns : List (String × Check)) (rest : Check) : Traced Check := do
  let read ← Logged.each (fun entry => readPattern "patternProperties expression" entry.1) patterns
  let usable := (read.zip patterns).filterMap fun (p, entry) =>
    p.map fun p => (isFound p, entry.2)
  let defects := ((read.zip patterns).filter fun entry => entry.1.isNone).map fun entry =>
    "Pattern '" ++ entry.2.1 ++ "' of 'patternProperties' is not a valid regular expression"
  return Check.members declared usable defects rest

def ipv4 : Json → Findings
  | .string s => if Address.isIPv4 s then [] else ["'" ++ s ++ "' is not a valid IPv4 address"]
  | _ => []

def ipv6 : Json → Findings
  | .string s => if Address.isIPv6 s then [] else ["'" ++ s ++ "' is not a valid IPv6 address"]
  | _ => []

end Conform.Keyword

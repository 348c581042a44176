import Conform.Text.Quoted
import Conform.Unicode.Decimal

set_option autoImplicit false

namespace Conform.CommandLine

structure Switch where
  names : List String
  takesValue : Bool := false
  choices : List String := []
  required : Bool := false
  asksHelp : Bool := false
deriving DecidableEq

inductive Words where
  | any
  | command (name : String) (choices : List String)

structure Grammar where
  switches : List Switch
  words : Words

inductive Halt where
  | help
  | refused (message : String)
deriving DecidableEq, Repr

inductive Role where
  | separator
  | word
  | stray
  | option (switch : Switch) (spelled : String) (attached : Option String)

structure Found where
  given : List (String × Option String) := []
  words : Option (List String) := none
  extras : List String := []

namespace Switch

def title (s : Switch) : String :=
  "/".intercalate s.names

def key (s : Switch) : String :=
  s.names.getLast?.getD ""

end Switch

def listed (choices : List String) : String :=
  ", ".intercalate (choices.map Text.quoted)

def badChoice (title value : String) (choices : List String) : Halt :=
  .refused s!"argument {title}: invalid choice: {Text.quoted value} (choose from {listed choices})"

def ignoredValue (s : Switch) (value : String) : Halt :=
  .refused s!"argument {s.title}: ignored explicit argument {Text.quoted value}"

def missingValue (s : Switch) : Halt :=
  .refused s!"argument {s.title}: expected one argument"

def cutAtEquals : List Char → List Char × Option (List Char)
  | [] => ([], none)
  | c :: rest =>
      if c = '=' then ([], some rest)
      else
        let (before, behind) := cutAtEquals rest
        (c :: before, behind)

def spelledNames (grammar : Grammar) : List (String × Switch) :=
  grammar.switches.flatMap fun s => s.names.map fun name => (name, s)

def isDigit (c : Char) : Bool :=
  Unicode.isDecimal c.toNat

def isUnsignedNumber (text : List Char) : Bool :=
  let number := if text.getLast? = some '\n' then text.dropLast else text
  match number.dropWhile isDigit with
  | [] => !number.isEmpty
  | '.' :: digits => !digits.isEmpty && digits.all isDigit
  | _ => false

-- The options that a spelling may be short for. A single hyphen and a letter may be followed directly
-- by more letters.
def completions (grammar : Grammar) (arg : String) : List (Switch × String × Option String) :=
  match arg.toList with
  | '-' :: '-' :: _ =>
      let (start, value) := cutAtEquals arg.toList
      (spelledNames grammar).filterMap fun (name, s) =>
        if start.isPrefixOf name.toList then
          some (s, name, value.map String.ofList)
        else none
  | '-' :: letter :: tail =>
      (spelledNames grammar).filterMap fun (name, s) =>
        if name.toList = ['-', letter] then some (s, name, some (String.ofList tail))
        else if arg.toList.isPrefixOf name.toList then some (s, name, none)
        else none
  | _ => []

def roleOf (grammar : Grammar) (arg : String) : Except Halt Role := do
  let text := arg.toList
  if text.head? ≠ some '-' ∨ text.length = 1 then return .word
  else
    match (spelledNames grammar).find? fun entry => entry.1 == arg with
    | some (name, s) => return .option s name none
    | none =>
    let (start, value) := cutAtEquals text
    match (spelledNames grammar).find? fun entry => value.isSome && entry.1 == String.ofList start with
    | some (name, s) => return .option s name (value.map String.ofList)
    | none =>
    match completions grammar arg with
    | [(s, name, attached)] => return .option s name attached
    | [] =>
        if isUnsignedNumber (text.drop 1) || text.contains ' ' then return .word else return .stray
    | several =>
        let matching := ", ".intercalate (several.map fun candidate => candidate.2.1)
        throw (.refused s!"ambiguous option: {arg} could match {matching}")

def roles (grammar : Grammar) : List String → Except Halt (List (String × Role))
  | [] => .ok []
  | arg :: rest =>
      if arg = "--" then .ok ((arg, .separator) :: rest.map fun word => (word, .word))
      else do
        let role ← roleOf grammar arg
        let others ← roles grammar rest
        return (arg, role) :: others

def isPlain : Role → Bool
  | .separator => true
  | .word => true
  | _ => false

def record (s : Switch) (value : Option String) (found : Found) : Except Halt Found :=
  if s.asksHelp then .error .help
  else
    match value with
    | some text =>
        if !s.choices.isEmpty && !s.choices.contains text then .error (badChoice s.title text s.choices)
        else .ok { found with given := found.given ++ [(s.key, value)] }
    | none => .ok { found with given := found.given ++ [(s.key, none)] }

-- An option of one letter, and the letters attached to it, each an option of its own. The options read
-- so far are recorded only after the last letter.
def letters (grammar : Grammar) (s : Switch) (pending : List Switch) : List Char → Except Halt (List Switch)
  | [] => .ok (pending ++ [s])
  | c :: tail =>
      match (spelledNames grammar).find? fun entry => entry.1.toList == ['-', c] with
      | none => .error (ignoredValue s (String.ofList (c :: tail)))
      | some (_, next) => letters grammar next (pending ++ [s]) tail

def recordAll : List Switch → Found → Except Halt Found
  | [], found => .ok found
  | s :: rest, found => do
      let found ← record s none found
      recordAll rest found

def readOption (grammar : Grammar) (s : Switch) (spelled : String) (attached : Option String)
    (rest : List (String × Role)) (found : Found) : Except Halt (Found × List (String × Role)) :=
  match attached with
  | some text =>
      if s.takesValue then do
        let found ← record s (some text) found
        return (found, rest)
      else if spelled.length = 2 && !text.isEmpty then do
        let found ← recordAll (← letters grammar s [] text.toList) found
        return (found, rest)
      else .error (ignoredValue s text)
  | none =>
      if s.takesValue then
        match rest with
        | (value, .word) :: rest => do
            let found ← record s (some value) found
            return (found, rest)
        | _ => .error (missingValue s)
      else do
        let found ← record s none found
        return (found, rest)

def takeWords (words : Words) (args : List (String × Role)) : Except Halt (Option (List String × Nat)) :=
  match words with
  | .any =>
      let taken := args.takeWhile fun entry => isPlain entry.2
      let kept := (taken.map (·.1)).erase "--"
      .ok (some (kept, taken.length))
  | .command name choices =>
      match args.dropWhile fun entry => entry.2 matches .separator with
      | (_, .word) :: _ =>
          let first := ((args.head?).map (·.1)).getD ""
          if choices.contains first then .ok (some (args.map (·.1), args.length))
          else .error (badChoice name first choices)
      | _ => .ok none

def readFrom (grammar : Grammar) : Nat → List (String × Role) → Found → Except Halt Found
  | 0, _, found => .ok found
  | budget + 1, args, found =>
      match args with
      | (arg, .stray) :: rest => readFrom grammar budget rest { found with extras := found.extras ++ [arg] }
      | (_, .option s spelled attached) :: rest => do
          let (found, rest) ← readOption grammar s spelled attached rest found
          readFrom grammar budget rest found
      | _ =>
          let skip : Except Halt Found :=
            let plain := args.takeWhile fun entry => isPlain entry.2
            let others := args.dropWhile fun entry => isPlain entry.2
            let found := { found with extras := found.extras ++ plain.map (·.1) }
            if others.isEmpty then .ok found else readFrom grammar budget others found
          if found.words.isSome then skip
          else do
            match ← takeWords grammar.words args with
            | some (words, size) =>
                if size = 0 then return { found with words := some words }
                else readFrom grammar budget (args.drop size) { found with words := some words }
            | none => skip

def missingSwitches (grammar : Grammar) (found : Found) : List String :=
  (grammar.switches.filter fun s => s.required && !(found.given.any fun entry => entry.1 == s.key)).map (·.title)

def readArguments (grammar : Grammar) (args : List String) : Except Halt Found := do
  let roles ← roles grammar args
  let found ← readFrom grammar (roles.length + 1) roles {}
  match missingSwitches grammar found with
  | [] => return found
  | names => throw (.refused ("the following arguments are required: " ++ ", ".intercalate names))

namespace Found

def has (found : Found) (key : String) : Bool :=
  found.given.any fun entry => entry.1 == key

def value? (found : Found) (key : String) : Option String :=
  (found.given.reverse.findSome? fun entry => if entry.1 == key then some entry.2 else none).join

end Found

end Conform.CommandLine

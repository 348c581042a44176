import Conform.Pattern.Token
import Conform.Unicode.Name

set_option autoImplicit false

namespace Conform.Pattern

def isOctal (c : Char) : Bool :=
  '0' ≤ c && c ≤ '7'

def isAsciiLetter (c : Char) : Bool :=
  ('a' ≤ c && c ≤ 'z') || ('A' ≤ c && c ≤ 'Z')

def controlCode? : Char → Option Nat
  | 'a' => some 7
  | 'b' => some 8
  | 't' => some 9
  | 'n' => some 10
  | 'v' => some 11
  | 'f' => some 12
  | 'r' => some 13
  | '\\' => some 92
  | _ => none

def classItem? : Char → Option SetItem
  | 'd' => some (.ofClass .digit false)
  | 'D' => some (.ofClass .digit true)
  | 's' => some (.ofClass .space false)
  | 'S' => some (.ofClass .space true)
  | 'w' => some (.ofClass .word false)
  | 'W' => some (.ofClass .word true)
  | _ => none

def anchor? : Char → Option Anchor
  | 'A' => some .textStart
  | 'Z' => some .textEnd
  | 'b' => some .boundary
  | 'B' => some .noBoundary
  | _ => none

def escapeText (cs : List Char) : String :=
  String.ofList ('\\' :: cs)

def hexCode (letter : Char) (count : Nat) : Parse Nat := do
  let digits ← takeWhile Text.isHexDigit count
  let text := escapeText (letter :: digits)
  if digits.length < count then fail (.incompleteEscape text) text.length
  else
    let code := Text.valueIn 16 digits
    if 0x7FFFFFFF < code then throw .codeTooLarge
    else if 0x10FFFF < code then fail (.badEscape text) text.length
    else return code

def namedCode : Parse Nat := do
  if ← accept '\x7b' then
    let name ← takeName '\x7d' "character name"
    match Unicode.named? name with
    | some code => return code
    | none => fail (.undefinedCharacter name) (name.length + 4)
  else fail (.missing "\x7b") 0

def announcedCode? (letter : Char) : Parse (Option Nat) := do
  if letter = 'x' then return some (← hexCode letter 2)
  else if letter = 'u' then return some (← hexCode letter 4)
  else if letter = 'U' then return some (← hexCode letter 8)
  else if letter = 'N' then return some (← namedCode)
  else return none

def selfCode (c : Char) : Parse Nat :=
  if isAsciiLetter c then fail (.badEscape (escapeText [c])) 2 else return c.toNat

def setEscape (c : Char) : Parse SetItem := do
  match controlCode? c with
  | some code => return .single code
  | none =>
  match classItem? c with
  | some item => return item
  | none =>
  match ← announcedCode? c with
  | some code => return .single code
  | none =>
  if isOctal c then
    let digits := c :: (← takeWhile isOctal 2)
    let text := escapeText digits
    if 0o377 < Text.valueIn 8 digits then fail (.octalTooLarge text) text.length
    else return .single (Text.valueIn 8 digits)
  else if Text.isDigit c then fail (.badEscape (escapeText [c])) 2
  else return .single (← selfCode c)

def groupReference (digits : List Char) : Parse Node := do
  let index := Text.valueIn 10 digits
  if index < (← groupCount) then
    if ← isClosed index then
      checkLookbehind index
      return .backref index
    else fail .openGroup (digits.length + 1)
  else fail (.noSuchGroup index) digits.length

-- An escape that starts with a digit other than zero: three octal digits are a code, anything else is
-- a reference to a group.
def digitEscape (first : Char) : Parse Node := do
  let second ← takeWhile Text.isDigit 1
  if isOctal first && !second.isEmpty && second.all isOctal then
    let third ← takeWhile isOctal 1
    let digits := first :: (second ++ third)
    if third.isEmpty then groupReference digits
    else if 0o377 < Text.valueIn 8 digits then fail (.octalTooLarge (escapeText digits)) 4
    else return .literal (Text.valueIn 8 digits)
  else groupReference (first :: second)

def escape (c : Char) : Parse Node := do
  match anchor? c with
  | some anchor => return .anchor anchor
  | none =>
  match classItem? c with
  | some item => return .set false [item]
  | none =>
  match controlCode? c with
  | some code => return .literal code
  | none =>
  match ← announcedCode? c with
  | some code => return .literal code
  | none =>
  if c = '0' then return .literal (Text.valueIn 8 (← takeWhile isOctal 2))
  else if Text.isDigit c then digitEscape c
  else return .literal (← selfCode c)

end Conform.Pattern

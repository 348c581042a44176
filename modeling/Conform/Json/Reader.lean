import Conform.Json.Basic
import Conform.Text.Digit

set_option autoImplicit false

namespace Conform.Json

inductive ReadCause where
  | expectingValue
  | expectingKey
  | expectingColon
  | expectingComma
  | unterminatedString
  | controlCharacter
  | badEscape
  | badHexEscape
  | extraData
  | byteOrderMark
  | loneHalf (unit : Nat)
  | tooManyDigits (count : Nat)
deriving DecidableEq, Repr

-- Whether a text with this fault is no document at all, rather than one whose number is too long, or whose string
-- holds half a character and so is none.
def ReadCause.isSyntax : ReadCause → Bool
  | .tooManyDigits _ | .loneHalf _ => false
  | _ => true

def ReadCause.message : ReadCause → String
  | .expectingValue => "Expecting value"
  | .expectingKey => "Expecting property name enclosed in double quotes"
  | .expectingColon => "Expecting ':' delimiter"
  | .expectingComma => "Expecting ',' delimiter"
  | .unterminatedString => "Unterminated string starting at"
  | .controlCharacter => "Invalid control character at"
  | .badEscape => "Invalid \\escape"
  | .badHexEscape => "Invalid \\uXXXX escape"
  | .extraData => "Extra data"
  | .byteOrderMark => "Unexpected UTF-8 BOM (decode using utf-8-sig)"
  | .loneHalf unit => "Surrogate without its other half: U+" ++ String.ofList (Text.hex 4 unit)
  | .tooManyDigits count => Text.tooManyDigits count

structure Stop where
  cause : ReadCause
  left : Nat
deriving DecidableEq, Repr

def stop {α : Type} (cause : ReadCause) (rest : List Char) : Except Stop α :=
  .error ⟨cause, rest.length⟩

def isSpace (c : Char) : Bool :=
  c == ' ' || c == '\t' || c == '\n' || c == '\r'

def skipSpace : List Char → List Char
  | [] => []
  | c :: rest => if isSpace c then skipSpace rest else c :: rest

def after? : List Char → List Char → Option (List Char)
  | [], rest => some rest
  | _ :: _, [] => none
  | c :: word, d :: rest => if c = d then after? word rest else none

def simpleEscape? : Char → Option Char
  | '"' => some '"'
  | '\\' => some '\\'
  | '/' => some '/'
  | 'b' => some '\x08'
  | 'f' => some '\x0c'
  | 'n' => some '\n'
  | 'r' => some '\r'
  | 't' => some '\t'
  | _ => none

def readUnit (rest : List Char) : Except Stop (Nat × List Char) :=
  let digits := (rest.drop 1).take 4
  let beyond := rest.drop 5
  if !beyond.isEmpty ∧ digits.all Text.isHexDigit then .ok (Text.valueIn 16 digits, beyond)
  else stop .badHexEscape rest

def isHighHalf (unit : Nat) : Bool :=
  0xD800 ≤ unit && unit ≤ 0xDBFF

def isLowHalf (unit : Nat) : Bool :=
  0xDC00 ≤ unit && unit ≤ 0xDFFF

def readEscapedUnit (rest : List Char) : Except Stop (Char × List Char) := do
  let (unit, tail) ← readUnit rest
  let alone : Except Stop (Char × List Char) :=
    if isHighHalf unit || isLowHalf unit then stop (.loneHalf unit) rest else pure (Char.ofNat unit, tail)
  match tail with
  | '\\' :: 'u' :: more =>
      if isHighHalf unit && !(more.drop 4).isEmpty then
        let (low, beyond) ← readUnit ('u' :: more)
        if isLowHalf low then
          pure (Char.ofNat (0x10000 + (unit - 0xD800) * 0x400 + (low - 0xDC00)), beyond)
        else alone
      else alone
  | _ => alone

def readString (start : List Char) : Nat → List Char → List Char → Except Stop (String × List Char)
  | 0, _, _ => stop .unterminatedString start
  | _ + 1, _, [] => stop .unterminatedString start
  | budget + 1, done, c :: rest =>
      if c = '"' then .ok (String.ofList done.reverse, rest)
      else if c = '\\' then
        match rest with
        | [] => stop .unterminatedString start
        | letter :: tail =>
            if letter = 'u' then do
              let (decoded, beyond) ← readEscapedUnit rest
              readString start budget (decoded :: done) beyond
            else
              match simpleEscape? letter with
              | some decoded => readString start budget (decoded :: done) tail
              | none => stop .badEscape (c :: rest)
      else if c.toNat < 32 then stop .controlCharacter (c :: rest)
      else readString start budget (c :: done) rest

def readFraction : List Char → Option (List Char) × List Char
  | '.' :: rest =>
      let digits := rest.takeWhile Text.isDigit
      if digits.isEmpty then (none, '.' :: rest) else (some digits, rest.dropWhile Text.isDigit)
  | rest => (none, rest)

def readExponent : List Char → Option Int × List Char
  | [] => (none, [])
  | mark :: rest =>
      if mark = 'e' ∨ mark = 'E' then
        let (negative, tail) : Bool × List Char :=
          match rest with
          | '-' :: tail => (true, tail)
          | '+' :: tail => (false, tail)
          | _ => (false, rest)
        let digits := tail.takeWhile Text.isDigit
        if digits.isEmpty then (none, mark :: rest)
        else
          let size : Int := Text.valueIn 10 digits
          (some (if negative then -size else size), tail.dropWhile Text.isDigit)
      else (none, mark :: rest)

def wholeDigits : List Char → List Char
  | [] => []
  | c :: rest => if c = '0' then ['0'] else if Text.isDigit c then c :: rest.takeWhile Text.isDigit else []

def readNumber (start : List Char) : Except Stop (Json × List Char) :=
  let negative := start.head? == some '-'
  let body := if negative then start.drop 1 else start
  let whole := wholeDigits body
  if whole.isEmpty then stop .expectingValue start
  else
    let (fraction, afterFraction) := readFraction (body.drop whole.length)
    let (exponent, rest) := readExponent afterFraction
    match fraction, exponent with
    | none, none =>
        if Text.digitLimit < whole.length then stop (.tooManyDigits whole.length) start
        else
          let size : Int := Text.valueIn 10 whole
          .ok (.number (.integer (if negative then -size else size)), rest)
    | _, _ =>
        let digits := whole ++ fraction.getD []
        let scale := exponent.getD 0 - ((fraction.getD []).length : Int)
        .ok (.number (.binary (.ofDecimal negative (Text.valueIn 10 digits) digits.length scale)), rest)

def words : List (List Char × Json) :=
  [("null".toList, .null), ("true".toList, .bool true), ("false".toList, .bool false),
   ("NaN".toList, .number (.binary .nan)), ("Infinity".toList, .number (.binary (.infinite false))),
   ("-Infinity".toList, .number (.binary (.infinite true)))]

def readWord (start : List Char) : Option (Json × List Char) :=
  words.findSome? fun (word, value) => (after? word start).map fun rest => (value, rest)

mutual
-- One value. The budget bounds the number of values and separators still to be read.
def readValue : Nat → List Char → Except Stop (Json × List Char)
  | 0, text => stop .expectingValue text
  | budget + 1, text =>
      match text with
      | '"' :: rest => (readString text (rest.length + 1) [] rest).map fun (s, tail) => (.string s, tail)
      | '\x7b' :: rest =>
          match skipSpace rest with
          | '\x7d' :: tail => .ok (.object [], tail)
          | tail => readMembers budget [] tail
      | '[' :: rest =>
          match skipSpace rest with
          | ']' :: tail => .ok (.array [], tail)
          | tail => readItems budget [] tail
      | _ =>
          match readWord text with
          | some found => .ok found
          | none => readNumber text

def readItems : Nat → List Json → List Char → Except Stop (Json × List Char)
  | 0, _, text => stop .expectingValue text
  | budget + 1, done, text => do
      let (item, rest) ← readValue budget text
      match skipSpace rest with
      | ']' :: tail => pure (.array (item :: done).reverse, tail)
      | ',' :: tail => readItems budget (item :: done) (skipSpace tail)
      | tail => stop .expectingComma tail

def readMembers : Nat → List (String × Json) → List Char → Except Stop (Json × List Char)
  | 0, _, text => stop .expectingKey text
  | budget + 1, done, text =>
      match text with
      | '"' :: keyText => do
          let (key, rest) ← readString text (keyText.length + 1) [] keyText
          match skipSpace rest with
          | ':' :: valueText => do
              let (value, beyond) ← readValue budget (skipSpace valueText)
              let members := setMember key value done
              match skipSpace beyond with
              | '\x7d' :: tail => pure (.object members, tail)
              | ',' :: tail => readMembers budget members (skipSpace tail)
              | tail => stop .expectingComma tail
          | tail => stop .expectingColon tail
      | _ => stop .expectingKey text
end

structure ReadError where
  cause : ReadCause
  position : Nat
  line : Nat
  column : Nat
deriving DecidableEq, Repr

def ReadError.message (e : ReadError) : String :=
  if e.cause.isSyntax then s!"{e.cause.message}: line {e.line} column {e.column} (char {e.position})"
  else e.cause.message

def Stop.locate (s : Stop) (text : List Char) : ReadError :=
  let position := text.length - s.left
  let before := text.take position
  { cause := s.cause
    position
    line := before.count '\n' + 1
    column := (before.reverse.takeWhile (· != '\n')).length + 1 }

def readDocument (text : List Char) : Except Stop Json :=
  if text.head? = some '\ufeff' then stop .byteOrderMark text
  else do
    let start := skipSpace text
    let (value, rest) ← readValue (start.length + 1) start
    match skipSpace rest with
    | [] => pure value
    | tail => stop .extraData tail

def read (text : String) : Except ReadError Json :=
  match readDocument text.toList with
  | .ok value => .ok value
  | .error s => .error (s.locate text.toList)

end Conform.Json

set_option autoImplicit false

namespace Conform.Utf8

inductive Reason where
  | badStart
  | badContinuation
  | truncated
deriving DecidableEq, Repr

def Reason.message : Reason → String
  | .badStart => "invalid start byte"
  | .badContinuation => "invalid continuation byte"
  | .truncated => "unexpected end of data"

inductive Front where
  | char (c : Char) (size : Nat)
  | broken (reason : Reason) (size : Nat)
deriving DecidableEq

def isContinuation (byte : UInt8) : Bool :=
  0x80 ≤ byte && byte ≤ 0xBF

-- Whether the second byte of a character suits its first byte: no detours for small codes, no halves
-- of pairs, no codes beyond the last.
def suits (first second : UInt8) : Bool :=
  isContinuation second
    && (first != 0xE0 || 0xA0 ≤ second)
    && (first != 0xED || second < 0xA0)
    && (first != 0xF0 || 0x90 ≤ second)
    && (first != 0xF4 || second < 0x90)

def size? (first : UInt8) : Option Nat :=
  if first < 0x80 then some 1
  else if first < 0xC2 then none
  else if first < 0xE0 then some 2
  else if first < 0xF0 then some 3
  else if first < 0xF5 then some 4
  else none

def agreement (first : UInt8) (size : Nat) : List UInt8 → Nat
  | [] => 0
  | second :: rest =>
      if suits first second then 1 + ((rest.take (size - 2)).takeWhile isContinuation).length else 0

def codeOf (first : UInt8) (size : Nat) (rest : List UInt8) : Nat :=
  let lead := if size = 2 then first.toNat - 0xC0 else if size = 3 then first.toNat - 0xE0 else first.toNat - 0xF0
  (rest.take (size - 1)).foldl (fun total byte => 64 * total + (byte.toNat - 0x80)) lead

def front (first : UInt8) (rest : List UInt8) : Front :=
  match size? first with
  | none => .broken .badStart 1
  | some 1 => .char (Char.ofNat first.toNat) 1
  | some size =>
      let agreed := agreement first size rest
      if agreed = size - 1 then .char (Char.ofNat (codeOf first size rest)) size
      else if agreed = rest.length then .broken .truncated (1 + agreed)
      else .broken .badContinuation (1 + agreed)

def decodeReplacing : Nat → List UInt8 → List Char
  | 0, _ => []
  | _ + 1, [] => []
  | budget + 1, first :: rest =>
      match front first rest with
      | .char c size => c :: decodeReplacing budget (rest.drop (size - 1))
      | .broken _ size => '\ufffd' :: decodeReplacing budget (rest.drop (size - 1))

def toTextReplacing (bytes : List UInt8) : List Char :=
  decodeReplacing bytes.length bytes

structure Fault where
  reason : Reason
  start : Nat
  size : Nat
  first : UInt8
deriving DecidableEq

def decode : Nat → Nat → List UInt8 → Except Fault (List Char)
  | 0, _, _ => .ok []
  | _ + 1, _, [] => .ok []
  | budget + 1, start, first :: rest =>
      match front first rest with
      | .char c size => (decode budget (start + size) (rest.drop (size - 1))).map (c :: ·)
      | .broken reason size => .error ⟨reason, start, size, first⟩

def toText (bytes : List UInt8) : Except Fault (List Char) :=
  decode bytes.length 0 bytes

end Conform.Utf8

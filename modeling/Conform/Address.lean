import Conform.Text.Digit
import Conform.Text.Split

set_option autoImplicit false

namespace Conform.Address

def isOctet (text : List Char) : Bool :=
  !text.isEmpty && text.length ≤ 3 && text.all Text.isDigit && (text == ['0'] || text.head? != some '0')
    && Text.valueIn 10 text ≤ 255

def isIPv4Text (text : List Char) : Bool :=
  let octets := Text.split '.' text
  octets.length == 4 && octets.all isOctet

def isGroup (text : List Char) : Bool :=
  !text.isEmpty && text.length ≤ 4 && text.all Text.isHexDigit

def expandOctets (parts : List (List Char)) : Option (List (List Char)) :=
  match parts.getLast? with
  | some last =>
      if last.contains '.' then
        if isIPv4Text last then some (parts.dropLast ++ [['0'], ['0']]) else none
      else some parts
  | none => none

def sideOfGap (side : List (List Char)) (atEdge : Option (List Char)) : Option (List (List Char)) :=
  if atEdge = some [] then (if side.length = 1 then some [] else none) else some side

def emptyPlaces : Nat → List (List Char) → List Nat
  | _, [] => []
  | place, piece :: rest =>
      if piece.isEmpty then place :: emptyPlaces (place + 1) rest else emptyPlaces (place + 1) rest

def areGroups (parts : List (List Char)) : Bool :=
  match emptyPlaces 0 (parts.drop 1).dropLast with
  | [] => parts.length == 8 && parts.all isGroup
  | [gap] =>
      let high := parts.take (gap + 1)
      let low := parts.drop (gap + 2)
      match sideOfGap high parts.head?, sideOfGap low parts.getLast? with
      | some high, some low => high.length + low.length ≤ 7 && high.all isGroup && low.all isGroup
      | _, _ => false
  | _ => false

def isIPv6Text (text : List Char) : Bool :=
  let parts := Text.split ':' text
  3 ≤ parts.length &&
    match expandOctets parts with
    | some parts => parts.length ≤ 9 && areGroups parts
    | none => false

def isIPv4 (text : String) : Bool :=
  isIPv4Text text.toList

def isIPv6 (text : String) : Bool :=
  isIPv6Text text.toList

end Conform.Address

set_option autoImplicit false

namespace Conform

-- A power with a whole exponent; below zero it stays at one. A quotient is scaled by an exponent of
-- either sign by the power of it above and the power of its opposite below.
def power (base : Nat) (exponent : Int) : Nat :=
  Nat.pow base exponent.toNat

inductive Binary64 where
  | nan
  | infinite (negative : Bool)
  | finite (negative : Bool) (significand : Nat) (exponent : Int)
deriving DecidableEq, Repr, Inhabited

namespace Binary64

def nearest (num den : Nat) : Nat :=
  let low := num / den
  let twice := 2 * (num % den)
  if twice < den then low
  else if den < twice then low + 1
  else if low % 2 = 0 then low else low + 1

def leadingExponent (num den : Nat) : Int :=
  let guess : Int := (num.log2 : Int) - (den.log2 : Int)
  if den * power 2 guess ≤ num * power 2 (-guess) then guess else guess - 1

def ofRatio (negative : Bool) (num den : Nat) : Binary64 :=
  if num = 0 then .finite negative 0 (-1074)
  else
    let exponent := max (leadingExponent num den - 52) (-1074)
    let significand := nearest (num * power 2 (-exponent)) (den * power 2 exponent)
    if significand < power 2 53 then
      if exponent ≤ 971 then .finite negative significand exponent else .infinite negative
    else if exponent + 1 ≤ 971 then .finite negative (power 2 52) (exponent + 1)
    else .infinite negative

def ofRat (x : Rat) : Binary64 :=
  ofRatio (x.num < 0) x.num.natAbs x.den

def ofInt (n : Int) : Binary64 :=
  ofRatio (n < 0) n.natAbs 1

-- The number nearest to `digits * 10 ^ scale`, where `digits` has at most `width` decimal digits.
-- Scales far outside the range of the format are decided without computing the power.
def ofDecimal (negative : Bool) (digits width : Nat) (scale : Int) : Binary64 :=
  if digits = 0 then .finite negative 0 (-1074)
  else if 310 < scale then .infinite negative
  else if (width : Int) + scale < -330 then .finite negative 0 (-1074)
  else ofRatio negative (digits * power 10 scale) (power 10 (-scale))

def magnitude (significand : Nat) (exponent : Int) : Rat :=
  mkRat (significand * power 2 exponent : Nat) (power 2 (-exponent))

def toRat? : Binary64 → Option Rat
  | .finite false significand exponent => some (magnitude significand exponent)
  | .finite true significand exponent => some (-magnitude significand exponent)
  | _ => none

def toInt? (x : Binary64) : Option Int :=
  match x.toRat? with
  | some value => if value.den = 1 then some value.num else none
  | none => none

end Binary64

end Conform

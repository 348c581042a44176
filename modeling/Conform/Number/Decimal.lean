import Conform.Number.Binary64

set_option autoImplicit false

namespace Conform

structure Decimal where
  digits : Nat
  scale : Int
deriving DecidableEq, Repr

namespace Decimal

def text (n : Nat) : List Char :=
  Nat.toDigits 10 n

def strip : Nat → Decimal → Decimal
  | 0, d => d
  | limit + 1, d =>
      if d.digits ≠ 0 ∧ d.digits % 10 = 0 then strip limit ⟨d.digits / 10, d.scale + 1⟩ else d

def leadingScale (num den : Nat) : Int :=
  let guess : Int := ((text num).length : Int) - ((text den).length : Int)
  if num * power 10 (-guess) < den * power 10 guess then guess else guess + 1

def readsBack (significand : Nat) (exponent : Int) (d : Decimal) : Bool :=
  Binary64.ofRatio false (d.digits * power 10 d.scale) (power 10 (-d.scale))
    == .finite false significand exponent

-- Of the two neighbours of the value on the grid of a scale, the nearer one that reads back; an exact
-- tie goes to the even neighbour.
def onGrid (significand : Nat) (exponent scale : Int) : Option Decimal :=
  let value := Binary64.magnitude significand exponent
  let num := value.num.natAbs * power 10 (-scale)
  let den := value.den * power 10 scale
  let low : Decimal := ⟨num / den, scale⟩
  let high : Decimal := ⟨num / den + 1, scale⟩
  match readsBack significand exponent low, readsBack significand exponent high with
  | true, true => some ⟨Binary64.nearest num den, scale⟩
  | true, false => some low
  | false, true => some high
  | false, false => none

-- The first grid from `count` digits to seventeen that has a decimal reading back, with the exact
-- value as the last resort.
def search (significand : Nat) (exponent top : Int) : Nat → Decimal
  | 0 =>
      if 0 ≤ exponent then ⟨significand * power 2 exponent, 0⟩
      else ⟨significand * power 5 (-exponent), exponent⟩
  | left + 1 =>
      match onGrid significand exponent (top - (17 - (left : Int))) with
      | some d => d
      | none => search significand exponent top left

def shortest (significand : Nat) (exponent : Int) : Decimal :=
  let value := Binary64.magnitude significand exponent
  strip 20 (search significand exponent (leadingScale value.num.natAbs value.den) 17)

def zeros (count : Int) : List Char :=
  List.replicate count.toNat '0'

def exponentText (e : Int) : List Char :=
  let digits := text e.natAbs
  (if e < 0 then '-' else '+') :: (if digits.length < 2 then '0' :: digits else digits)

def layout (d : Decimal) : List Char :=
  let digits := text d.digits
  let leading : Int := (digits.length : Int) + d.scale
  if -4 < leading ∧ leading ≤ 16 then
    if leading ≤ 0 then '0' :: '.' :: (zeros (-leading) ++ digits)
    else if 0 ≤ d.scale then digits ++ zeros d.scale ++ ['.', '0']
    else digits.take leading.toNat ++ '.' :: digits.drop leading.toNat
  else
    let fraction := digits.drop 1
    digits.take 1 ++ (if fraction.isEmpty then [] else '.' :: fraction) ++ 'e' :: exponentText (leading - 1)

end Decimal

namespace Binary64

def render (nanText infinityText : String) : Binary64 → String
  | .nan => nanText
  | .infinite negative => (if negative then "-" else "") ++ infinityText
  | .finite negative significand exponent =>
      let body := if significand = 0 then ['0', '.', '0'] else (Decimal.shortest significand exponent).layout
      String.ofList (if negative then '-' :: body else body)

end Binary64

end Conform

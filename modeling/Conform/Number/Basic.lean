import Conform.Number.Decimal
import Conform.Text.Digit

set_option autoImplicit false

namespace Conform

-- A literal without a fraction or an exponent is an integer of any size, any other is a binary number.
inductive Number where
  | integer (value : Int)
  | binary (value : Binary64)
deriving DecidableEq, Repr, Inhabited

namespace Number

inductive Point where
  | bottom
  | at (value : Rat)
  | top
deriving DecidableEq

def Point.below : Point → Point → Bool
  | .bottom, .bottom => false
  | .bottom, _ => true
  | .at a, .at b => decide (a < b)
  | .at _, .top => true
  | _, _ => false

def point? : Number → Option Point
  | .integer n => some (.at n)
  | .binary .nan => none
  | .binary (.infinite true) => some .bottom
  | .binary (.infinite false) => some .top
  | .binary x => x.toRat?.map .at

def equal (a b : Number) : Bool :=
  match a.point?, b.point? with
  | some p, some q => decide (p = q)
  | _, _ => false

def less (a b : Number) : Bool :=
  match a.point?, b.point? with
  | some p, some q => p.below q
  | _, _ => false

def toInt? : Number → Option Int
  | .integer n => some n
  | .binary x => x.toInt?

def isIntegral (a : Number) : Bool :=
  a.toInt?.isSome

def isWritable (a : Number) : Bool :=
  match a.toInt? with
  | some n => (Nat.toDigits 10 n.natAbs).length ≤ Text.digitLimit
  | none => true

def plain (a : Number) : String :=
  match a, a.toInt? with
  | _, some n => toString n
  | .integer n, none => toString n
  | .binary x, none => x.render "nan" "inf"

def literal : Number → String
  | .integer n => toString n
  | .binary x => x.render "NaN" "Infinity"

inductive ZeroDivisor where
  | whole
  | fraction
deriving DecidableEq, Repr

def toBinary? : Number → Option Binary64
  | .integer n =>
      match Binary64.ofInt n with
      | .infinite _ => none
      | x => some x
  | .binary x => some x

end Number

namespace Binary64

def isZero (x : Binary64) : Bool :=
  x.toRat? == some 0

def divide (x y : Binary64) : Binary64 :=
  match x, y with
  | .nan, _ => .nan
  | _, .nan => .nan
  | .infinite _, .infinite _ => .nan
  | .infinite s, .finite t _ _ => .infinite (s != t)
  | .finite s _ _, .infinite t => .finite (s != t) 0 (-1074)
  | .finite s m e, .finite t n f =>
      let quotient := magnitude m e / magnitude n f
      ofRatio (s != t) quotient.num.natAbs quotient.den

def nearestInt (x : Rat) : Int :=
  if x.num < 0 then -(nearest x.num.natAbs x.den : Int) else nearest x.num.natAbs x.den

-- The tolerance of quotients, one part in 10^9, relative to the larger operand or absolute.
def tolerance : Binary64 :=
  ofRatio false 1 1000000000

def scaledTolerance (x : Rat) : Rat :=
  ((ofRat (tolerance.toRat?.getD 0 * x.abs)).toRat?).getD 0

def nearlyWhole (x : Binary64) : Bool :=
  match x.toRat? with
  | none => false
  | some value =>
      let whole : Rat := nearestInt value
      let gap := (whole - value).abs
      decide (gap ≤ scaledTolerance whole) || decide (gap ≤ scaledTolerance value)
        || decide (gap ≤ tolerance.toRat?.getD 0)

end Binary64

namespace Number

-- Whether `value / divisor` is whole: exactly so for two integers, and otherwise up to the tolerance
-- of the rounded quotient. Integers too large for the binary format are multiples of no binary number.
def isMultipleOf : Number → Number → Except ZeroDivisor Bool
  | .integer value, .integer divisor =>
      if divisor = 0 then .error .whole else .ok (value % divisor == 0)
  | value, divisor =>
      match value.toBinary?, divisor.toBinary? with
      | some x, some y => if y.isZero then .error .fraction else .ok (x.divide y).nearlyWhole
      | _, _ => .ok false

end Number

end Conform

import Conform.Text.Digit
import Conform.Text.Utf8

set_option autoImplicit false

namespace Conform.Text

def percentBytes : List Char → List UInt8
  | [] => []
  | '%' :: a :: b :: rest =>
      if isHexDigit a ∧ isHexDigit b then UInt8.ofNat (valueIn 16 [a, b]) :: percentBytes rest
      else 37 :: percentBytes (a :: b :: rest)
  | c :: rest => UInt8.ofNat c.toNat :: percentBytes rest

def percentRuns (run : List Char) : List Char → List Char
  | [] => Utf8.toTextReplacing (percentBytes run.reverse)
  | c :: rest =>
      if c.toNat < 128 then percentRuns (c :: run) rest
      else Utf8.toTextReplacing (percentBytes run.reverse) ++ c :: percentRuns [] rest

def percentDecode (text : List Char) : List Char :=
  percentRuns [] text

end Conform.Text

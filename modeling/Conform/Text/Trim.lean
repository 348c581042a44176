import Conform.Unicode.Blank

set_option autoImplicit false

namespace Conform.Text

def isBlank (c : Char) : Bool :=
  Unicode.isBlank c.toNat

def trim (text : List Char) : List Char :=
  ((text.dropWhile isBlank).reverse.dropWhile isBlank).reverse

end Conform.Text

import Conform.Pattern.Syntax
import Conform.Unicode.Blank
import Conform.Unicode.Case
import Conform.Unicode.Decimal
import Conform.Unicode.Word

set_option autoImplicit false

namespace Conform.Pattern

def asciiLower (code : Nat) : Nat :=
  if 65 ≤ code && code ≤ 90 then code + 32 else code

def isAsciiDigit (code : Nat) : Bool :=
  48 ≤ code && code ≤ 57

def isAsciiWord (code : Nat) : Bool :=
  isAsciiDigit code || (65 ≤ code && code ≤ 90) || (97 ≤ code && code ≤ 122) || code == 95

def isAsciiSpace (code : Nat) : Bool :=
  (9 ≤ code && code ≤ 13) || code == 32

def Class.holds (unicode : Bool) : Class → Nat → Bool
  | .digit, code => if unicode then Unicode.isDecimal code else isAsciiDigit code
  | .space, code => if unicode then Unicode.isBlank code else isAsciiSpace code
  | .word, code => if unicode then Unicode.isWord code else isAsciiWord code

inductive Folding where
  | exact
  | ascii
  | unicode
deriving DecidableEq, Repr

namespace Folding

def ofFlags (flags : Flags) : Folding :=
  if !flags.ignoreCase then .exact else if flags.unicode then .unicode else .ascii

def apply : Folding → Nat → Nat
  | .exact, code => code
  | .ascii, code => asciiLower code
  | .unicode, code => Unicode.toLower code

def anyCased (low high : Nat) : Folding → Bool
  | .exact => false
  | .ascii => (low ≤ 90 && 65 ≤ high) || (low ≤ 122 && 97 ≤ high)
  | .unicode => Unicode.anyCased low high

def likes (lower : Nat) : Folding → List Nat
  | .unicode => lower :: Unicode.partners lower
  | _ => [lower]

def sources (lower : Nat) : Folding → List Nat
  | .exact => [lower]
  | .ascii => if 97 ≤ lower && lower ≤ 122 then [lower, lower - 32] else [lower]
  | .unicode => Unicode.ofLower lower

end Folding

-- A member of a set, as prepared characters are compared with it: the characters of a range, those
-- like the lower case of one in a range, those with one of their cases in a range, and those of a
-- class.
inductive Member where
  | range (low high : Nat)
  | like (folding : Folding) (low high : Nat)
  | eitherCase (low high : Nat)
  | ofClass (unicode : Bool) (kind : Class) (negated : Bool)
deriving DecidableEq, Repr

def Member.holds (code : Nat) : Member → Bool
  | .range low high => low ≤ code && code ≤ high
  | .like folding low high =>
      (folding.likes code).any fun lower =>
        (folding.sources lower).any fun source => low ≤ source && source ≤ high
  | .eitherCase low high =>
      (low ≤ code && code ≤ high) || (low ≤ Unicode.toUpper code && Unicode.toUpper code ≤ high)
  | .ofClass unicode kind negated => kind.holds unicode code != negated

inductive Single where
  | literal (folding : Folding) (negated : Bool) (code : Nat)
  | any (lineFeed : Bool)
  | set (folding : Folding) (negated : Bool) (members : List Member)
deriving DecidableEq, Repr

def Single.holds (code : Nat) : Single → Bool
  | .literal folding negated own => (folding.apply code == own) != negated
  | .any lineFeed => lineFeed || code != 10
  | .set folding negated members => members.any (Member.holds (folding.apply code)) != negated

namespace SetItem

def exact (flags : Flags) : SetItem → Member
  | .single code => .range code code
  | .range low high => .range low high
  | .ofClass kind negated => .ofClass flags.unicode kind negated

def isCased (folding : Folding) : SetItem → Bool
  | .single code => folding.anyCased code code
  | .range low high => folding.anyCased low high
  | .ofClass _ _ => false

def isFar : SetItem → Bool
  | .single code => 0xFFFF < code
  | .range _ high => 0xFFFF < high
  | .ofClass _ _ => false

-- A member without regard to case. Beyond the basic plane, characters are not folded: a single one is
-- compared with the lower case of the text, and a range with both cases.
def folded (flags : Flags) : SetItem → List Member
  | .single code =>
      if 0xFFFF < code then [.range code code] else [.like (.ofFlags flags) code code]
  | .range low high =>
      if high ≤ 0xFFFF then [.like (.ofFlags flags) low high]
      else [.like (.ofFlags flags) low 0xFFFF, .eitherCase low high]
  | .ofClass kind negated => [.ofClass flags.unicode kind negated]

end SetItem

namespace Single

def ofLiteral (flags : Flags) (negated : Bool) (code : Nat) : Single :=
  let folding := Folding.ofFlags flags
  if folding.anyCased code code then
    let lower := folding.apply code
    match folding.likes lower with
    | [_] => .literal folding negated lower
    | alike => .set folding negated (alike.map fun c => .range c c)
  else .literal .exact negated code

def exactSet (flags : Flags) (negated : Bool) (items : List SetItem) : Single :=
  .set .exact negated (items.map (SetItem.exact flags))

def ofSet (flags : Flags) (negated : Bool) (items : List SetItem) : Single :=
  let folding := Folding.ofFlags flags
  if flags.ignoreCase && items.any fun item => item.isCased folding || item.isFar then
    .set folding negated (items.flatMap (SetItem.folded flags))
  else exactSet flags negated items

end Single

end Conform.Pattern

import Conform.Unicode.Name.Alias
import Conform.Unicode.Name.BasicScripts
import Conform.Unicode.Name.EastAsian
import Conform.Unicode.Name.FurtherScripts
import Conform.Unicode.Name.HistoricScripts
import Conform.Unicode.Name.Logographs
import Conform.Unicode.Name.Pictographs
import Conform.Unicode.Name.Signs
import Conform.Unicode.Name.Symbols
import Conform.Unicode.Name.Systematic

set_option autoImplicit false

namespace Conform.Unicode

def nameTables : List (List NameRun) :=
  [europeanNames, semiticNames, indicNames, syllabicNames, extendedNames, symbolNames, radicalNames, yiNames,
   presentationNames, aegeanNames, brahmicNames, cuneiformNames, logographNames, signNames, numeralNames,
   pictographNames, aliasNames]

def listed? (name : List Char) : Option Nat :=
  nameTables.findSome? fun table => table.findSome? fun run => run.find? name

def named? (name : String) : Option Nat :=
  match afterStem? "HANGUL SYLLABLE ".toList name.toList with
  | some sounds => syllable? sounds
  | none =>
  match afterStem? "CJK UNIFIED IDEOGRAPH-".toList name.toList with
  | some digits => ideograph? digits
  | none =>
      let capitals := name.toUpper.toList
      match numbered? capitals with
      | some code => some code
      | none => listed? capitals

end Conform.Unicode

import Conform.Text.Digit
import Conform.Unicode.Name.Run
import Conform.Unicode.Ranges

set_option autoImplicit false

namespace Conform.Unicode

def leadingSounds : List String :=
  ["G", "GG", "N", "D", "DD", "R", "M", "B", "BB", "S", "SS", "", "J", "JJ", "C", "K", "T", "P", "H"]

def vowelSounds : List String :=
  ["A", "AE", "YA", "YAE", "EO", "E", "YEO", "YE", "O", "WA", "WAE", "OE", "YO", "U", "WEO", "WE", "WI", "YU",
   "EU", "YI", "I"]

def trailingSounds : List String :=
  ["", "G", "GG", "GS", "N", "NJ", "NH", "D", "L", "LG", "LM", "LB", "LS", "LT", "LP", "LH", "M", "B", "BS",
   "S", "SS", "NG", "J", "C", "K", "T", "P", "H"]

def takeSound (sounds : List String) (text : List Char) : Option (Nat × List Char) :=
  let starts := sounds.zipIdx.filter fun (sound, _) => sound.toList.isPrefixOf text
  let longest := starts.foldl (fun (best : Option (String × Nat)) sound =>
    match best with
    | none => some sound
    | some other => if other.1.length < sound.1.length then some sound else best) none
  longest.map fun (sound, index) => (index, text.drop sound.length)

def syllable? (text : List Char) : Option Nat := do
  let (lead, text) ← takeSound leadingSounds text
  let (vowel, text) ← takeSound vowelSounds text
  let (trail, text) ← takeSound trailingSounds text
  if text.isEmpty then
    return 0xAC00 + (lead * vowelSounds.length + vowel) * trailingSounds.length + trail
  else none

def unifiedIdeographs : List (Nat × Nat) :=
  [(0x3400, 0x4DBF), (0x4E00, 0x9FFF), (0x20000, 0x2A6DF), (0x2A700, 0x2B738), (0x2B740, 0x2B81D),
   (0x2B820, 0x2CEA1), (0x2CEB0, 0x2EBE0), (0x30000, 0x3134A)]

def hexCode? (text : List Char) : Option Nat :=
  if (text.length = 4 ∨ text.length = 5) ∧ text.all (fun c => Text.isHexDigit c && !c.isLower) then
    some (Text.valueIn 16 text)
  else none

def ideograph? (text : List Char) : Option Nat :=
  (hexCode? text).filter (inRanges unifiedIdeographs)

def numberedNames : List (String × List (Nat × Nat)) :=
  [("CJK COMPATIBILITY IDEOGRAPH-", [(0xF900, 0xFA6D), (0xFA70, 0xFAD9), (0x2F800, 0x2FA1D)]),
   ("NUSHU CHARACTER-", [(0x1B170, 0x1B2FB)]),
   ("KHITAN SMALL SCRIPT CHARACTER-", [(0x18B00, 0x18CD5)])]

def numbered? (name : List Char) : Option Nat :=
  numberedNames.findSome? fun (stem, ranges) => do
    let digits ← afterStem? stem.toList name
    let code ← hexCode? digits
    if digits.head? ≠ some '0' ∧ inRanges ranges code then some code else none

end Conform.Unicode

import Conform.Text.Quoted
import Conform.Unicode.Letter

set_option autoImplicit false

namespace Conform.Pattern

inductive Cause where
  | danglingBackslash
  | incompleteEscape (text : String)
  | badEscape (text : String)
  | octalTooLarge (text : String)
  | missing (what : String)
  | unterminatedName (terminator : String)
  | undefinedCharacter (name : String)
  | badGroupName (name : String)
  | unknownGroup (name : String)
  | redefinedGroup (name : String) (index earlier : Nat)
  | openGroup
  | groupOfSameLookbehind
  | noSuchGroup (index : Nat)
  | badGroupNumber
  | unterminatedSet
  | badRange (low high : String)
  | leastAboveMost
  | nothingToRepeat
  | repeatedRepeat
  | endOfPattern
  | unknownExtension (text : String)
  | unterminatedComment
  | unterminatedGroup
  | unbalancedParenthesis
  | manyBranches
  | lateFlags
  | localeFlag
  | incompatibleFlags
  | unknownFlag
  | globalFlagOn
  | globalFlagOff
  | classFlagOff
  | flagOnAndOff
  | variableLookbehind
  | templateRepeat (operator : String)
deriving DecidableEq, Repr

def Cause.message : Cause → String
  | .danglingBackslash => "bad escape (end of pattern)"
  | .incompleteEscape text => "incomplete escape " ++ text
  | .badEscape text => "bad escape " ++ text
  | .octalTooLarge text => "octal escape value " ++ text ++ " outside of range 0-0o377"
  | .missing what => "missing " ++ what
  | .unterminatedName terminator => "missing " ++ terminator ++ ", unterminated name"
  | .undefinedCharacter name => "undefined character name " ++ Text.quoted name
  | .badGroupName name => "bad character in group name " ++ Text.quoted name
  | .unknownGroup name => "unknown group name " ++ Text.quoted name
  | .redefinedGroup name index earlier =>
      s!"redefinition of group name {Text.quoted name} as group {index}; was group {earlier}"
  | .openGroup => "cannot refer to an open group"
  | .groupOfSameLookbehind => "cannot refer to group defined in the same lookbehind subpattern"
  | .noSuchGroup index => s!"invalid group reference {index}"
  | .badGroupNumber => "bad group number"
  | .unterminatedSet => "unterminated character set"
  | .badRange low high => "bad character range " ++ low ++ "-" ++ high
  | .leastAboveMost => "min repeat greater than max repeat"
  | .nothingToRepeat => "nothing to repeat"
  | .repeatedRepeat => "multiple repeat"
  | .endOfPattern => "unexpected end of pattern"
  | .unknownExtension text => "unknown extension ?" ++ text
  | .unterminatedComment => "missing ), unterminated comment"
  | .unterminatedGroup => "missing ), unterminated subpattern"
  | .unbalancedParenthesis => "unbalanced parenthesis"
  | .manyBranches => "conditional backref with more than two branches"
  | .lateFlags => "global flags not at the start of the expression"
  | .localeFlag => "bad inline flags: cannot use 'L' flag with a str pattern"
  | .incompatibleFlags => "bad inline flags: flags 'a', 'u' and 'L' are incompatible"
  | .unknownFlag => "unknown flag"
  | .globalFlagOn => "bad inline flags: cannot turn on global flag"
  | .globalFlagOff => "bad inline flags: cannot turn off global flag"
  | .classFlagOff => "bad inline flags: cannot turn off flags 'a', 'u' and 'L'"
  | .flagOnAndOff => "bad inline flags: flag turned on and off"
  | .variableLookbehind => "look-behind requires fixed-width pattern"
  | .templateRepeat operator => "internal: unsupported template operator " ++ operator

structure Defect where
  cause : Cause
  position : Option Nat
deriving DecidableEq, Repr

def Defect.message (d : Defect) (pattern : String) : String :=
  match d.position with
  | none => d.cause.message
  | some position =>
      let text := pattern.toList
      let before := text.take position
      let place := s!"{d.cause.message} at position {position}"
      if text.contains '\n' then
        let column := (before.reverse.takeWhile (· != '\n')).length + 1
        let line := before.count '\n' + 1
        s!"{place} (line {line}, column {column})"
      else place

-- Why a pattern has no meaning: it is defective, a repetition count or a code leaves the range of such
-- numbers, its global flags ask for two sets of character classes, it looks too far behind, or a
-- repetition count has too many digits.
inductive Refusal where
  | defective (defect : Defect)
  | countTooLarge
  | codeTooLarge
  | conflictingFlags
  | farLookbehind
  | tooManyDigits (count : Nat)
deriving DecidableEq, Repr

end Conform.Pattern

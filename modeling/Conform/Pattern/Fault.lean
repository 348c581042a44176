import Conform.Pattern.Defect
import Conform.Pattern.Syntax

set_option autoImplicit false

namespace Conform.Pattern

def Appetite.operator : Appetite → String
  | .greedy => "MAX_REPEAT"
  | .lazy => "MIN_REPEAT"
  | .possessive => "POSSESSIVE_REPEAT"

mutual
def Node.fault (groups : List (Option Width)) (template : Bool) : Node → Option Cause
  | .branch alternatives => faultOfAlternatives groups template alternatives
  | .group _ _ _ body => faultOfSequence groups template body
  | .atomic body => faultOfSequence groups template body
  | .iterate appetite _ _ body =>
      if template then some (.templateRepeat appetite.operator) else faultOfSequence groups template body
  | .conditional _ yes no _ => faultOfSequence groups template yes <|> faultOfSequence groups template no
  | .look true _ body => faultOfSequence groups template body
  | .look false _ body =>
      let w := (widthOfSequence groups body).capped
      if w.least = w.greatest then faultOfSequence groups template body else some .variableLookbehind
  | _ => none

def faultOfSequence (groups : List (Option Width)) (template : Bool) : List Node → Option Cause
  | [] => none
  | node :: rest => node.fault groups template <|> faultOfSequence groups template rest

def faultOfAlternatives (groups : List (Option Width)) (template : Bool) : List (List Node) → Option Cause
  | [] => none
  | alternative :: rest =>
      faultOfSequence groups template alternative <|> faultOfAlternatives groups template rest
end

def lookbehindLimit : Nat := 2147483648

mutual
def Node.looksTooFar (groups : List (Option Width)) : Node → Bool
  | .branch alternatives => alternativesLookTooFar groups alternatives
  | .group _ _ _ body => sequenceLooksTooFar groups body
  | .atomic body => sequenceLooksTooFar groups body
  | .iterate _ _ _ body => sequenceLooksTooFar groups body
  | .conditional _ yes no _ => sequenceLooksTooFar groups yes || sequenceLooksTooFar groups no
  | .look true _ body => sequenceLooksTooFar groups body
  | .look false _ body =>
      lookbehindLimit ≤ (widthOfSequence groups body).capped.least || sequenceLooksTooFar groups body
  | _ => false

def sequenceLooksTooFar (groups : List (Option Width)) : List Node → Bool
  | [] => false
  | node :: rest => node.looksTooFar groups || sequenceLooksTooFar groups rest

def alternativesLookTooFar (groups : List (Option Width)) : List (List Node) → Bool
  | [] => false
  | alternative :: rest => sequenceLooksTooFar groups alternative || alternativesLookTooFar groups rest
end

end Conform.Pattern

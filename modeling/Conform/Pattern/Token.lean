import Conform.Pattern.Defect
import Conform.Pattern.Syntax

set_option autoImplicit false

namespace Conform.Pattern

inductive Token where
  | plain (c : Char)
  | escaped (c : Char)
  | dangling
deriving DecidableEq, Repr

namespace Token

def text : Token → List Char
  | .plain c => [c]
  | .escaped c => ['\\', c]
  | .dangling => ['\\']

def ofChars : List Char → List Token
  | [] => []
  | ['\\'] => [.dangling]
  | '\\' :: c :: rest => .escaped c :: ofChars rest
  | c :: rest => .plain c :: ofChars rest

def isAmong (t : Token) (cs : List Char) : Bool :=
  match t with
  | .plain c => cs.contains c
  | _ => false

def isLetter : Token → Bool
  | .plain c => Unicode.isLetter c.toNat
  | _ => false

end Token

-- What has been read so far: the tokens ahead and their place, the flags for the whole pattern, the
-- names of groups, the widths of closed groups by number, the number of groups before the outermost
-- lookbehind that is open, and the groups that conditions have asked for.
structure State where
  tokens : List Token
  position : Nat
  flags : Flags
  names : List (String × Nat)
  widths : List (Option Width)
  lookbehind : Option Nat
  conditions : List (Nat × Nat)

abbrev Parse := StateT State (Except Refusal)

def fail {α : Type} (cause : Cause) (back : Nat) : Parse α := do
  let s ← get
  throw (.defective ⟨cause, some (s.position - back)⟩)

def failAt {α : Type} (cause : Cause) (position : Nat) : Parse α :=
  throw (.defective ⟨cause, some position⟩)

def place : Parse Nat := do
  return (← get).position

def peek : Parse (Option Token) := do
  return (← get).tokens.head?

def moveTo (tokens : List Token) (position : Nat) : Parse Unit :=
  match tokens with
  | .dangling :: _ => failAt .danglingBackslash position
  | _ => modify fun s => { s with tokens := tokens, position := position }

def advance : Parse Unit := do
  let s ← get
  match s.tokens with
  | [] => pure ()
  | t :: rest => moveTo rest (s.position + t.text.length)

def take : Parse (Option Token) := do
  let t ← peek
  advance
  return t

def accept (c : Char) : Parse Bool := do
  if (← peek) = some (.plain c) then
    advance
    return true
  else return false

def takeWhile (kind : Char → Bool) : Nat → Parse (List Char)
  | 0 => pure []
  | count + 1 => do
      match ← peek with
      | some (.plain c) =>
          if kind c then
            advance
            return c :: (← takeWhile kind count)
          else return []
      | _ => return []

def remaining : Parse Nat := do
  return (← get).tokens.length

def takeUntil (terminator : Char) (what : String) : Nat → List Char → Parse String
  | 0, _ => fail (.missing what) 0
  | budget + 1, done => do
      match ← take with
      | none =>
          if done.isEmpty then fail (.missing what) 0
          else fail (.unterminatedName (String.singleton terminator)) done.length
      | some t =>
          if t = .plain terminator then
            if done.isEmpty then fail (.missing what) 1 else return String.ofList done
          else takeUntil terminator what budget (done ++ t.text)

def takeName (terminator : Char) (what : String) : Parse String := do
  takeUntil terminator what ((← remaining) + 1) []

def groupCount : Parse Nat := do
  return (← get).widths.length

def isClosed (index : Nat) : Parse Bool := do
  return (((← get).widths[index]?).getD none).isSome

-- Inside a lookbehind only groups closed before the outermost one may be referred to.
def checkLookbehind (index : Nat) : Parse Unit := do
  match (← get).lookbehind with
  | none => pure ()
  | some limit =>
      if !(← isClosed index) then fail .openGroup 0
      else if limit ≤ index then fail .groupOfSameLookbehind 0
      else pure ()

def namedGroup? (name : String) : Parse (Option Nat) := do
  return ((← get).names.find? fun entry => entry.1 == name).map (·.2)

def openGroup (name : Option String) : Parse Nat := do
  let s ← get
  let index := s.widths.length
  match name with
  | none => set { s with widths := s.widths ++ [none] }
  | some name =>
      match ← namedGroup? name with
      | some earlier => fail (.redefinedGroup name index earlier) (name.length + 1)
      | none => set { s with widths := s.widths ++ [none], names := s.names ++ [(name, index)] }
  return index

def closeGroup (index : Nat) (body : List Node) : Parse Unit :=
  modify fun s => { s with widths := s.widths.set index (some (widthOfSequence s.widths body).capped) }

end Conform.Pattern

import Conform.Pattern.Fault
import Conform.Pattern.Matching
import Conform.Pattern.Reader

set_option autoImplicit false

namespace Conform

structure Pattern where
  least : Nat
  lead : Pattern.Lead
  program : List Pattern.Op

namespace Pattern

def compile (source : String) : Except Refusal Pattern := do
  let tokens := Token.ofChars source.toList
  let (nodes, state) ← readTree.run ⟨tokens, 0, {}, [], [none], none, []⟩
  match faultOfSequence state.widths state.flags.template nodes with
  | some cause => throw (.defective ⟨cause, none⟩)
  | none =>
      if sequenceLooksTooFar state.widths nodes then throw .farLookbehind
      else
        return ⟨(widthOfSequence state.widths nodes).capped.least, .ofTree state.flags nodes,
          opsOfSequence state.widths state.flags nodes⟩

def standAt (text : Array Nat) : List Nat → Nat → Bool
  | [], _ => true
  | code :: rest, position => text[position]? == some code && standAt text rest (position + 1)

def starts (pattern : Pattern) (text : Array Nat) : List Nat :=
  if pattern.least = 0 then List.range (text.size + 1)
  else if text.size < pattern.least then []
  else
    match pattern.lead with
    | .anything => List.range (text.size - (pattern.least - 1) + 1)
    | .literals codes => (List.range text.size).filter (standAt text codes)
    | .oneOf test => (List.range text.size).filter (test.holdsAt text)

def isCrossed : List (Option Nat) → Bool
  | some start :: some stop :: rest => stop < start || isCrossed rest
  | _ :: _ :: rest => isCrossed rest
  | _ => false

-- Whether a match starts somewhere in the text. The first match decides; it is worth nothing if one of
-- its groups ends before it starts.
def found? (pattern : Pattern) (text : String) : Option Bool :=
  let codes := (text.toList.map Char.toNat).toArray
  let outcome? := (pattern.starts codes).findSome? fun start =>
    let o := runSequence codes false none pattern.program start ⟨start, []⟩ accepted
    if o.found then some o.memory else none
  match outcome? with
  | none => some false
  | some m => if isCrossed m.marks then none else some true

end Pattern

end Conform

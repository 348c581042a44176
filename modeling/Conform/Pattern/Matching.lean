import Conform.Pattern.Program

set_option autoImplicit false

namespace Conform.Pattern

structure Memory where
  cursor : Nat
  marks : List (Option Nat) := []
deriving Repr, Inhabited

structure Outcome where
  found : Bool
  memory : Memory
deriving Inhabited

abbrev Continue := Nat → Memory → Outcome

namespace Memory

def moved (m : Memory) (position : Nat) : Memory :=
  { m with cursor := position }

def failed (m : Memory) : Outcome :=
  ⟨false, m⟩

def mark (m : Memory) (index position : Nat) : Memory :=
  let padded := m.marks ++ List.replicate (index + 1 - m.marks.length) none
  { m with marks := padded.set index (some position) }

-- The marks after a failed attempt that started with the given ones. In the rounds of a repetition
-- they are put back; elsewhere the later ones are dropped, and earlier ones keep what the attempt made
-- of them.
def restore (m : Memory) (looped : Bool) (saved : List (Option Nat)) : Memory :=
  { m with marks := if looped then saved else m.marks.take saved.length }

def bounds? (m : Memory) (index : Nat) : Option (Nat × Nat) :=
  match m.marks[markOf index]?, m.marks[markOf index + 1]? with
  | some (some start), some (some stop) => if start ≤ stop then some (start, stop) else none
  | _, _ => none

end Memory

def accepted : Continue :=
  fun position m => ⟨true, m.moved position⟩

def wordAt (unicode : Bool) (text : Array Nat) (position : Nat) : Bool :=
  match text[position]? with
  | some code => Class.word.holds unicode code
  | none => false

def isBoundary (unicode : Bool) (text : Array Nat) (position : Nat) : Bool :=
  (position != 0 && wordAt unicode text (position - 1)) != wordAt unicode text position

-- An empty text has neither boundaries nor places that are none.
def Anchor.holds (flags : Flags) (text : Array Nat) (position : Nat) : Anchor → Bool
  | .textStart => position == 0
  | .textEnd => position == text.size
  | .lineStart => position == 0 || (flags.multiline && text[position - 1]? == some 10)
  | .lineEnd =>
      position == text.size || (text[position]? == some 10 && (flags.multiline || position + 1 == text.size))
  | .boundary => text.size != 0 && isBoundary flags.unicode text position
  | .noBoundary => text.size != 0 && !isBoundary flags.unicode text position

def repeatsAt (folding : Folding) (text : Array Nat) (start stop position : Nat) : Bool :=
  (List.range (stop - start)).all fun i =>
    match text[start + i]?, text[position + i]? with
    | some a, some b => folding.apply a == folding.apply b
    | _, _ => false

def Single.holdsAt (test : Single) (text : Array Nat) (position : Nat) : Bool :=
  match text[position]? with
  | some code => test.holds code
  | none => false

def Single.countFrom (test : Single) (text : Array Nat) : Nat → Nat → Nat
  | 0, _ => 0
  | limit + 1, position =>
      if test.holdsAt text position then test.countFrom text limit (position + 1) + 1 else 0

def Single.takesCursor : Single → Bool
  | .set folding _ _ => folding != .exact
  | _ => false

def Memory.counted (m : Memory) (test : Single) (position count : Nat) : Memory :=
  if test.takesCursor then m.moved (position + count) else m

def isBelow (count : Nat) : Option Nat → Bool
  | none => true
  | some most => count < most

def isBlocked (text : Array Nat) (after : Option Nat) (position : Nat) : Bool :=
  match after with
  | none => false
  | some code => text[position]? != some code

def givingBack (text : Array Nat) (looped : Bool) (after : Option Nat) (position : Nat) (next : Continue) :
    Nat → Memory → Outcome
  | extra, m =>
      let tried :=
        if isBlocked text after (position + extra) then m.failed
        else
          let o := next (position + extra) (m.moved (position + extra))
          if o.found then o else (o.memory.restore looped m.marks).failed
      match extra with
      | 0 => tried
      | fewer + 1 => if tried.found then tried else givingBack text looped after position next fewer tried.memory

def takingMore (text : Array Nat) (looped : Bool) (test : Single) (most : Option Nat) (next : Continue) :
    Nat → Nat → Nat → Memory → Outcome
  | 0, _, _, m => m.failed
  | budget + 1, count, position, m =>
      if most.all fun most => count ≤ most then
        let o := next position (m.moved position)
        if o.found then o
        else
          let m := (o.memory.restore looped m.marks).moved position
          if test.holdsAt text position then
            takingMore text looped test most next budget (count + 1) (position + 1) (m.counted test position 1)
          else m.failed
      else m.failed

def iterateOne (text : Array Nat) (looped : Bool) (after : Option Nat) (appetite : Appetite) (least : Nat)
    (most : Option Nat) (test : Single) (position : Nat) (m : Memory) (next : Continue) : Outcome :=
  let remaining := text.size - position
  if remaining < least then m.failed
  else
    let limit := match appetite with
      | .lazy => least
      | _ => (most.map (min · remaining)).getD remaining
    let count := test.countFrom text limit position
    let m := (m.moved position).counted test position count
    if count < least then m.failed
    else
      match appetite with
      | .greedy => givingBack text looped after (position + least) next (count - least) m
      | .lazy => takingMore text looped test most next (remaining + 2) least (position + least) m
      | .possessive => next (position + count) m

-- Repeats a step, as often as possible first. Beyond the least count, a round must not start where the
-- round before it started.
def greedily (step : Nat → Memory → Continue → Outcome) (least : Nat) (most : Option Nat) (next : Continue) :
    Nat → Nat → Option Nat → Nat → Memory → Outcome
  | 0, _, _, _, m => m.failed
  | budget + 1, count, last, position, m =>
      let finish (m : Memory) : Outcome :=
        let o := next position m
        if o.found then o else (o.memory.moved position).failed
      let m := m.moved position
      if count < least then
        let o := step position m (greedily step least most next budget (count + 1) last)
        if o.found then o else (o.memory.moved position).failed
      else if isBelow count most && last != some position then
        let o := step position m (greedily step least most next budget (count + 1) (some position))
        if o.found then o else finish ((o.memory.restore true m.marks).moved position)
      else finish m

def lazily (looped : Bool) (step : Nat → Memory → Continue → Outcome) (least : Nat) (most : Option Nat)
    (next : Continue) : Nat → Nat → Option Nat → Nat → Memory → Outcome
  | 0, _, _, _, m => m.failed
  | budget + 1, count, last, position, m =>
      let m := m.moved position
      let round (last : Option Nat) (m : Memory) : Outcome :=
        let o := step position m (lazily looped step least most next budget (count + 1) last)
        if o.found then o else (o.memory.moved position).failed
      if count < least then round last m
      else
        let o := next position m
        if o.found then o
        else
          let m := (o.memory.restore looped m.marks).moved position
          if isBelow count most && last != some position then round (some position) m else m.failed

def possessively (step : Nat → Memory → Outcome) (least : Nat) (most : Option Nat) :
    Nat → Nat → Option Nat → Memory → Outcome
  | 0, _, _, m => m.failed
  | budget + 1, count, last, m =>
      if count < least then
        let o := step m.cursor m
        if o.found then possessively step least most budget (count + 1) last o.memory else o
      else if isBelow count most && last != some m.cursor then
        let o := step m.cursor m
        if o.found then possessively step least most budget (count + 1) (some m.cursor) o.memory
        else ⟨true, o.memory.restore true m.marks⟩
      else ⟨true, m⟩

def literalAfter (after : Option Nat) : List Op → Option Nat
  | [] => after
  | .single (.literal .exact false code) :: _ => some code
  | _ => none

def mayStart (text : Array Nat) (position : Nat) : List Op → Bool
  | .single (.literal .exact false code) :: _ => text[position]? == some code
  | .single (.set .exact negated members) :: _ => (Single.set .exact negated members).holdsAt text position
  | _ => true

mutual
def Op.run (text : Array Nat) (looped : Bool) (after : Option Nat) : Op → Nat → Memory → Continue → Outcome
  | .single test, position, m, next =>
      if test.holdsAt text position then next (position + 1) m else m.failed
  | .anchor kind flags, position, m, next =>
      if kind.holds flags text position then next position m else m.failed
  | .mark index, position, m, next => next position (m.mark index position)
  | .branch alternatives, position, m, next => runAlternatives text looped alternatives position m next
  | .atomic body, position, m, next =>
      let o := runSequence text looped none body position (m.moved position) accepted
      if o.found then next o.memory.cursor o.memory else (o.memory.moved position).failed
  | .iterateOne appetite least most test, position, m, next =>
      iterateOne text looped after appetite least most test position m next
  | .iterate appetite least most body, position, m, next =>
      let budget := least + (text.size + 2) * (text.size + 2)
      match appetite with
      | .greedy =>
          greedily (fun q m follow => runSequence text true none body q m follow) least most next budget 0 none
            position m
      | .lazy =>
          lazily looped (fun q m follow => runSequence text true none body q m follow) least most next budget 0
            none position m
      | .possessive =>
          let o := possessively (fun q m => runSequence text looped none body q m accepted) least most budget 0
            none (m.moved position)
          if o.found then next o.memory.cursor o.memory else (o.memory.moved position).failed
  | .backref folding index, position, m, next =>
      match m.bounds? index with
      | none => m.failed
      | some (start, stop) =>
          if repeatsAt folding text start stop position then next (position + (stop - start)) m else m.failed
  | .conditional index yes no hasNo, position, m, next =>
      if (m.bounds? index).isSome then
        runSequence text looped (if hasNo then none else after) yes position m next
      else runSequence text looped after no position m next
  | .look back negative body, position, m, next =>
      if position < back then if negative then next position m else m.failed
      else
        let o := runSequence text looped none body (position - back) (m.moved (position - back)) accepted
        match o.found, negative with
        | true, false => next position o.memory
        | true, true => o.memory.failed
        | false, false => o.memory.failed
        | false, true => next position (o.memory.restore looped m.marks)
  | .never, _, m, _ => m.failed

def runSequence (text : Array Nat) (looped : Bool) (after : Option Nat) :
    List Op → Nat → Memory → Continue → Outcome
  | [], position, m, next => next position m
  | op :: rest, position, m, next =>
      op.run text looped (literalAfter after rest) position m fun q m =>
        runSequence text looped after rest q m next

def runAlternatives (text : Array Nat) (looped : Bool) :
    List (List Op) → Nat → Memory → Continue → Outcome
  | [], _, m, _ => m.failed
  | alternative :: rest, position, m, next =>
      if mayStart text position alternative then
        let o := runSequence text looped none alternative position (m.moved position) next
        if o.found then o else runAlternatives text looped rest position (o.memory.restore looped m.marks) next
      else runAlternatives text looped rest position m next
end

end Conform.Pattern

set_option autoImplicit false

namespace Conform.Pattern

structure Flags where
  ignoreCase : Bool := false
  multiline : Bool := false
  dotAll : Bool := false
  verbose : Bool := false
  ascii : Bool := false
  unicode : Bool := false
  template : Bool := false
deriving DecidableEq, Repr, Inhabited

namespace Flags

def union (a b : Flags) : Flags where
  ignoreCase := a.ignoreCase || b.ignoreCase
  multiline := a.multiline || b.multiline
  dotAll := a.dotAll || b.dotAll
  verbose := a.verbose || b.verbose
  ascii := a.ascii || b.ascii
  unicode := a.unicode || b.unicode
  template := a.template || b.template

def minus (a b : Flags) : Flags where
  ignoreCase := a.ignoreCase && !b.ignoreCase
  multiline := a.multiline && !b.multiline
  dotAll := a.dotAll && !b.dotAll
  verbose := a.verbose && !b.verbose
  ascii := a.ascii && !b.ascii
  unicode := a.unicode && !b.unicode
  template := a.template && !b.template

def overlap (a b : Flags) : Bool :=
  a.minus b != a

def choosesClasses (a : Flags) : Bool :=
  a.ascii || a.unicode

def inGroup (outer on off : Flags) : Flags :=
  let kept := if on.choosesClasses then { outer with ascii := false, unicode := false } else outer
  (kept.union on).minus off

def ofLetter? : Char → Option Flags
  | 'i' => some { ignoreCase := true }
  | 'm' => some { multiline := true }
  | 's' => some { dotAll := true }
  | 'x' => some { verbose := true }
  | 'a' => some { ascii := true }
  | 'u' => some { unicode := true }
  | 't' => some { template := true }
  | _ => none

end Flags

inductive Class where
  | digit
  | space
  | word
deriving DecidableEq, Repr

inductive SetItem where
  | single (code : Nat)
  | range (low high : Nat)
  | ofClass (kind : Class) (negated : Bool)
deriving DecidableEq, Repr

inductive Anchor where
  | lineStart
  | lineEnd
  | textStart
  | textEnd
  | boundary
  | noBoundary
deriving DecidableEq, Repr

inductive Appetite where
  | greedy
  | lazy
  | possessive
deriving DecidableEq, Repr

inductive Node where
  | literal (code : Nat)
  | otherThan (code : Nat)
  | any
  | set (negated : Bool) (items : List SetItem)
  | anchor (kind : Anchor)
  | branch (alternatives : List (List Node))
  | group (index : Option Nat) (on off : Flags) (body : List Node)
  | atomic (body : List Node)
  | iterate (appetite : Appetite) (least : Nat) (most : Option Nat) (body : List Node)
  | backref (index : Nat)
  | conditional (index : Nat) (yes : List Node) (no : List Node) (hasNo : Bool)
  | look (ahead negative : Bool) (body : List Node)
  | never
deriving Inhabited

structure Width where
  least : Nat
  greatest : Nat
deriving DecidableEq, Repr, Inhabited

namespace Width

-- A repetition without an upper bound counts as this many rounds, and no width is greater.
def unbounded : Nat := 4294967295

-- The least width stays below the greatest, so that the two differ where nothing bounds them.
def capped (w : Width) : Width :=
  ⟨min w.least (unbounded - 1), min w.greatest unbounded⟩

def plus (a b : Width) : Width :=
  ⟨a.least + b.least, a.greatest + b.greatest⟩

end Width

mutual
def Node.width (groups : List (Option Width)) : Node → Width
  | .literal _ => ⟨1, 1⟩
  | .otherThan _ => ⟨1, 1⟩
  | .any => ⟨1, 1⟩
  | .set _ _ => ⟨1, 1⟩
  | .anchor _ => ⟨0, 0⟩
  | .branch alternatives => widthOfAlternatives groups alternatives
  | .group _ _ _ body => (widthOfSequence groups body).capped
  | .atomic body => (widthOfSequence groups body).capped
  | .iterate _ least most body =>
      let w := (widthOfSequence groups body).capped
      ⟨w.least * least, w.greatest * most.getD Width.unbounded⟩
  | .backref index => ((groups[index]?).getD none).getD ⟨0, 0⟩
  | .conditional _ yes no hasNo =>
      let w := (widthOfSequence groups yes).capped
      if hasNo then
        let v := (widthOfSequence groups no).capped
        ⟨min w.least v.least, max w.greatest v.greatest⟩
      else ⟨0, w.greatest⟩
  | .look _ _ _ => ⟨0, 0⟩
  | .never => ⟨0, 0⟩

def widthOfSequence (groups : List (Option Width)) : List Node → Width
  | [] => ⟨0, 0⟩
  | node :: rest => (node.width groups).plus (widthOfSequence groups rest)

def widthOfAlternatives (groups : List (Option Width)) : List (List Node) → Width
  | [] => ⟨Width.unbounded - 1, 0⟩
  | alternative :: rest =>
      let w := (widthOfSequence groups alternative).capped
      let v := widthOfAlternatives groups rest
      ⟨min w.least v.least, max w.greatest v.greatest⟩
end

end Conform.Pattern

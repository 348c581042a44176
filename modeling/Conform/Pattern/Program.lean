import Conform.Pattern.Character

set_option autoImplicit false

namespace Conform.Pattern

inductive Op where
  | single (test : Single)
  | anchor (kind : Anchor) (flags : Flags)
  | mark (index : Nat)
  | branch (alternatives : List (List Op))
  | atomic (body : List Op)
  | iterateOne (appetite : Appetite) (least : Nat) (most : Option Nat) (test : Single)
  | iterate (appetite : Appetite) (least : Nat) (most : Option Nat) (body : List Op)
  | backref (folding : Folding) (index : Nat)
  | conditional (index : Nat) (yes : List Op) (no : List Op) (hasNo : Bool)
  | look (back : Nat) (negative : Bool) (body : List Op)
  | never
deriving Inhabited

mutual
def Node.isUnit : Node → Bool
  | .literal _ => true
  | .otherThan _ => true
  | .any => true
  | .set _ _ => true
  | .group none _ _ body => sequenceIsUnit body
  | _ => false

def sequenceIsUnit : List Node → Bool
  | [] => false
  | [node] => node.isUnit
  | _ :: _ :: _ => false
end

def markOf (group : Nat) : Nat :=
  2 * (group - 1)

mutual
def Node.ops (groups : List (Option Width)) (flags : Flags) : Node → List Op
  | .literal code => [.single (.ofLiteral flags false code)]
  | .otherThan code => [.single (.ofLiteral flags true code)]
  | .any => [.single (.any flags.dotAll)]
  | .set negated items => [.single (.ofSet flags negated items)]
  | .anchor kind => [.anchor kind flags]
  | .branch alternatives => [.branch (opsOfAlternatives groups flags alternatives)]
  | .group index on off body =>
      let inner := opsOfSequence groups (flags.inGroup on off) body
      match index with
      | none => inner
      | some index => .mark (markOf index) :: (inner ++ [.mark (markOf index + 1)])
  | .atomic body => [.atomic (opsOfSequence groups flags body)]
  | .iterate appetite least most body =>
      match sequenceIsUnit body, opsOfSequence groups flags body with
      | true, [.single test] => [.iterateOne appetite least most test]
      | _, ops => [.iterate appetite least most ops]
  | .backref index => [.backref (.ofFlags flags) index]
  | .conditional index yes no _ =>
      [.conditional index (opsOfSequence groups flags yes) (opsOfSequence groups flags no) !no.isEmpty]
  | .look ahead negative body =>
      let back := if ahead then 0 else (widthOfSequence groups body).capped.least
      [.look back negative (opsOfSequence groups flags body)]
  | .never => [.never]

def opsOfSequence (groups : List (Option Width)) (flags : Flags) : List Node → List Op
  | [] => []
  | node :: rest => node.ops groups flags ++ opsOfSequence groups flags rest

def opsOfAlternatives (groups : List (Option Width)) (flags : Flags) : List (List Node) → List (List Op)
  | [] => []
  | alternative :: rest => opsOfSequence groups flags alternative :: opsOfAlternatives groups flags rest
end

inductive Lead where
  | anything
  | literals (codes : List Nat)
  | oneOf (test : Single)
deriving Repr

mutual
def Node.literals (flags : Flags) : Node → List Nat × Bool
  | .literal code => if (Folding.ofFlags flags).anyCased code code then ([], false) else ([code], true)
  | .group _ on off body => literalsOfSequence (flags.inGroup on off) body
  | _ => ([], false)

def literalsOfSequence (flags : Flags) : List Node → List Nat × Bool
  | [] => ([], true)
  | node :: rest =>
      let (codes, whole) := node.literals flags
      if whole then
        let (more, all) := literalsOfSequence flags rest
        (codes ++ more, all)
      else (codes, false)
end

def firstLiteral? (flags : Flags) : List Node → Option SetItem
  | .literal code :: _ => if (Folding.ofFlags flags).anyCased code code then none else some (.single code)
  | _ => none

mutual
def Node.firstSet (outer flags : Flags) : Node → Option Single
  | .group _ on off body => firstSetOfSequence outer (flags.inGroup on off) body
  | .branch alternatives => (alternatives.mapM (firstLiteral? flags)).map (.exactSet outer false)
  | .set negated items =>
      let folding := Folding.ofFlags flags
      let caseMatters (item : SetItem) : Bool :=
        match item with
        | .range _ high => 0xFFFF < high || item.isCased folding
        | _ => item.isCased folding
      if flags.ignoreCase && items.any caseMatters then none else some (.exactSet outer negated items)
  | _ => none

def firstSetOfSequence (outer flags : Flags) : List Node → Option Single
  | [] => none
  | node :: _ => node.firstSet outer flags
end

def Lead.ofTree (flags : Flags) (nodes : List Node) : Lead :=
  match (literalsOfSequence flags nodes).1, firstSetOfSequence flags flags nodes with
  | [], none => .anything
  | [], some test => .oneOf test
  | codes, _ => .literals codes

end Conform.Pattern

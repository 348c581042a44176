import Conform.Pattern.Syntax

set_option autoImplicit false

namespace Conform.Pattern

def dissolved (nodes : List Node) : List Node :=
  nodes.flatMap fun
    | .group none on off body => if on = {} ∧ off = {} then body else [.group none on off body]
    | node => [node]

def Node.same : Node → Node → Bool
  | .literal a, .literal b => a == b
  | .otherThan a, .otherThan b => a == b
  | .any, .any => true
  | .set m a, .set n b => m == n && a == b
  | .anchor a, .anchor b => a == b
  | .backref a, .backref b => a == b
  | .never, .never => true
  | _, _ => false

def factored : List Node → List (List Node) → List Node × List (List Node)
  | [], others => ([], [] :: others)
  | node :: rest, others =>
      if others.all fun other => other.head?.any node.same then
        let (common, alternatives) := factored rest (others.map List.tail)
        (node :: common, alternatives)
      else ([], (node :: rest) :: others)

def members? : List Node → Option (List SetItem)
  | [.literal code] => some [.single code]
  | [.set false items] => some items
  | _ => none

def joined (first : List Node) (others : List (List Node)) : List Node :=
  let (common, alternatives) := factored first others
  match alternatives.mapM members? with
  | some items => common ++ [.set false items.flatten.eraseDups]
  | none => common ++ [.branch alternatives]

end Conform.Pattern

set_option autoImplicit false

namespace Conform

-- Standard output takes a text whole, or refuses it with a message, as where its encoding has no bytes for a character.
abbrev Console := String → Option String

structure Printed where
  output : String
  refusal : Option String
deriving DecidableEq, Repr

namespace Printed

def nothing : Printed :=
  ⟨"", none⟩

end Printed

namespace Console

def willing : Console :=
  fun _ => none

def print (console : Console) : List String → Printed
  | [] => .nothing
  | text :: rest =>
      match console text with
      | some message => ⟨"", some message⟩
      | none =>
          let others := print console rest
          ⟨text ++ others.output, others.refusal⟩

end Console

end Conform

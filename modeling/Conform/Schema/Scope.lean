set_option autoImplicit false

namespace Conform.Schema

structure Scope where
  stack : List String := []
  level : List String := []
deriving DecidableEq, Repr, Inhabited

namespace Scope

def enter (scope : Scope) (reference : String) : Scope :=
  ⟨scope.stack ++ [reference], scope.level ++ [reference]⟩

def descend (scope : Scope) : Scope :=
  ⟨scope.stack, []⟩

-- The scope of a reference that is expanded when its check is applied.
def restart (reference : String) : Scope :=
  ⟨[reference], [reference]⟩

end Scope

end Conform.Schema

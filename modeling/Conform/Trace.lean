import Conform.Number.Basic
import Conform.Text.Digit

set_option autoImplicit false

namespace Conform

inductive Level where
  | debug
  | info
  | warning
  | error
deriving DecidableEq, Repr

namespace Level

def name : Level → String
  | .debug => "DEBUG"
  | .info => "INFO"
  | .warning => "WARNING"
  | .error => "ERROR"

def rank : Level → Nat
  | .debug => 10
  | .info => 20
  | .warning => 30
  | .error => 40

def all : List Level :=
  [.debug, .info, .warning, .error]

end Level

inductive Origin where
  | keywords
  | compiler
  | reference
  | schema
  | files
deriving DecidableEq, Repr

def Origin.name : Origin → String
  | .keywords => "jsvalidator.keywords"
  | .compiler => "jsvalidator.compiler"
  | .reference => "jsvalidator.reference"
  | .schema => "jsvalidator.schema"
  | .files => "jsvalidator.validatefile"

structure Entry where
  level : Level
  origin : Origin
  text : String
deriving DecidableEq, Repr

def Entry.line (e : Entry) : String :=
  e.level.name ++ " " ++ e.origin.name ++ ": " ++ e.text

inductive Fault where
  | countTooLarge
  | codeTooLarge
  | conflictingFlags
  | farLookbehind
  | crossedGroup
  | tooManyDigits (read : Option Nat)
  | zeroDivisor (kind : Number.ZeroDivisor)
  | exhausted
deriving DecidableEq, Repr

def Fault.message : Fault → String
  | .countTooLarge => "the repetition number is too large"
  | .codeTooLarge => "Python int too large to convert to C int"
  | .conflictingFlags => "ASCII and UNICODE flags are incompatible"
  | .farLookbehind => "invalid SRE code"
  | .crossedGroup => "The span of capturing group is wrong, please report a bug for the re module."
  | .tooManyDigits (some count) => Text.tooManyDigits count
  | .tooManyDigits none => Text.tooLongToWrite
  | .zeroDivisor .whole => "integer modulo by zero"
  | .zeroDivisor .fraction => "float division by zero"
  | .exhausted => "the budget is exhausted"

-- What was noted before a fault stays noted.
structure Logged (ε α : Type) where
  log : List Entry
  outcome : Except ε α

namespace Logged

variable {ε ε' α β : Type}

def result (a : α) : Logged ε α :=
  ⟨[], .ok a⟩

def fault (e : ε) : Logged ε α :=
  ⟨[], .error e⟩

def ofExcept (x : Except ε α) : Logged ε α :=
  ⟨[], x⟩

def andThen (x : Logged ε α) (f : α → Logged ε β) : Logged ε β :=
  match x.outcome with
  | .error e => ⟨x.log, .error e⟩
  | .ok a => ⟨x.log ++ (f a).log, (f a).outcome⟩

instance : Monad (Logged ε) where
  pure := result
  bind := andThen

def note (level : Level) (origin : Origin) (text : String) : Logged ε Unit :=
  ⟨[⟨level, origin, text⟩], .ok ()⟩

def each (f : α → Logged ε β) : List α → Logged ε (List β)
  | [] => result []
  | a :: rest => andThen (f a) fun b => andThen (each f rest) fun bs => result (b :: bs)

def joined : List (Logged ε (List α)) → Logged ε (List α)
  | [] => result []
  | x :: rest => andThen x fun as => andThen (joined rest) fun bs => result (as ++ bs)

def mapFault (f : ε → ε') (x : Logged ε α) : Logged ε' α :=
  ⟨x.log, match x.outcome with
    | .error e => .error (f e)
    | .ok a => .ok a⟩

end Logged

abbrev Traced := Logged Fault

end Conform

import Conform.Pattern.Alternatives
import Conform.Pattern.Escape
import Conform.Text.Trim
import Conform.Unicode.Decimal
import Conform.Unicode.Identifier

set_option autoImplicit false

namespace Conform.Pattern

structure SetMember where
  item : SetItem
  text : List Char

def setMember (t : Token) : Parse SetMember := do
  match t with
  | .escaped c => return ⟨← setEscape c, t.text⟩
  | .plain c => return ⟨.single c.toNat, t.text⟩
  | .dangling => failAt .danglingBackslash (← place)

def setRange (low high : SetMember) : Parse SetItem := do
  let refuse : Parse SetItem :=
    fail (.badRange (String.ofList low.text) (String.ofList high.text)) (low.text.length + 1 + high.text.length)
  match low.item, high.item with
  | .single a, .single b => if b < a then refuse else return .range a b
  | _, _ => refuse

def setItems (start : Nat) : Nat → List SetItem → Parse (List SetItem)
  | 0, _ => failAt .unterminatedSet start
  | budget + 1, done => do
      match ← take with
      | none => failAt .unterminatedSet start
      | some t =>
          if t = .plain ']' ∧ done ≠ [] then return done.reverse
          else
            let low ← setMember t
            if ← accept '-' then
              match ← take with
              | none => failAt .unterminatedSet start
              | some u =>
                  if u = .plain ']' then return (.single '-'.toNat :: low.item :: done).reverse
                  else
                    let range ← setRange low (← setMember u)
                    setItems start budget (range :: done)
            else setItems start budget (low.item :: done)

def set : Parse Node := do
  let start := (← place) - 1
  let negated ← accept '^'
  let items ← setItems start ((← remaining) + 1) []
  match items.eraseDups with
  | [.single code] => return if negated then .otherThan code else .literal code
  | items => return .set negated items

def countLimit : Nat := 4294967295

def count (digits : List Char) : Parse Nat := do
  if Text.digitLimit < digits.length then throw (.tooManyDigits digits.length)
  else
    let n := Text.valueIn 10 digits
    if countLimit ≤ n then throw .countTooLarge else return n

def bracedCounts : Parse (Option (Nat × Option Nat)) := do
  let start ← get
  if (← peek) = some (.plain '\x7d') then return none
  else
    let low ← takeWhile Text.isDigit ((← remaining) + 1)
    let high ← if ← accept ',' then takeWhile Text.isDigit ((← remaining) + 1) else pure low
    if !(← accept '\x7d') then
      moveTo start.tokens start.position
      return none
    else
      let least ← if low.isEmpty then pure 0 else count low
      if high.isEmpty then return some (least, none)
      else
        let most ← count high
        if most < least then failAt .leastAboveMost start.position else return some (least, some most)

def appetite : Parse Appetite := do
  if ← accept '?' then return .lazy
  else if ← accept '+' then return .possessive
  else return .greedy

def repetition (start : Nat) (least : Nat) (most : Option Nat) (done : List Node) : Parse (List Node) := do
  match done with
  | [] => failAt .nothingToRepeat start
  | .anchor _ :: _ => failAt .nothingToRepeat start
  | .iterate _ _ _ _ :: _ => failAt .repeatedRepeat start
  | item :: rest =>
      return .iterate (← appetite) least most (dissolved [item]) :: rest

def isFlagLetter : Token → Bool
  | .plain c => c == 'L' || (Flags.ofLetter? c).isSome
  | _ => false

def unknownFlagOr (what : String) (t : Token) : Parse Unit :=
  if isFlagLetter t then pure ()
  else fail (if t.isLetter then .unknownFlag else .missing what) t.text.length

def flagsOn : Nat → Token → Flags → Parse (Flags × Token)
  | 0, _, _ => fail (.missing "-, : or )") 0
  | budget + 1, t, on => do
      if t = .plain 'L' then fail .localeFlag 0
      else
        let flag := match t with
          | .plain c => (Flags.ofLetter? c).getD {}
          | _ => {}
        let on := on.union flag
        if flag.choosesClasses ∧ on.ascii ∧ on.unicode then fail .incompatibleFlags 0
        else
          match ← take with
          | none => fail (.missing "-, : or )") 0
          | some next =>
              if next.isAmong [')', '-', ':'] then return (on, next)
              else
                unknownFlagOr "-, : or )" next
                flagsOn budget next on

def flagsOff : Nat → Token → Flags → Parse Flags
  | 0, _, _ => fail (.missing ":") 0
  | budget + 1, t, off => do
      let flag := match t with
        | .plain c => (Flags.ofLetter? c).getD {}
        | _ => {}
      if t = .plain 'L' ∨ flag.choosesClasses then fail .classFlagOff 0
      else
        let off := off.union flag
        match ← take with
        | none => fail (.missing ":") 0
        | some next =>
            if next = .plain ':' then return off
            else
              unknownFlagOr ":" next
              flagsOff budget next off

def groupFlags (first : Token) : Parse (Option (Flags × Flags)) := do
  let (on, ending) ←
    if first = .plain '-' then pure (({} : Flags), first) else flagsOn ((← remaining) + 1) first {}
  if ending = .plain ')' then
    modify fun s => { s with flags := s.flags.union on }
    return none
  else if on.template then fail .globalFlagOn 1
  else
    let off ←
      if ending = .plain '-' then do
        match ← take with
        | none => fail (.missing "flag") 0
        | some t =>
            unknownFlagOr "flag" t
            flagsOff ((← remaining) + 1) t {}
      else pure ({} : Flags)
    if off.template then fail .globalFlagOff 1
    else if on.overlap off then fail .flagOnAndOff 1
    else return some (on, off)

def digitsWithSeparators : List Char → Option (List Nat)
  | [] => none
  | [c] => (Unicode.decimalValue? c.toNat).map ([·])
  | c :: '_' :: rest => do
      let digit ← Unicode.decimalValue? c.toNat
      let digits ← digitsWithSeparators rest
      return digit :: digits
  | c :: rest => do
      let digit ← Unicode.decimalValue? c.toNat
      let digits ← digitsWithSeparators rest
      return digit :: digits

def groupNumber? (text : List Char) : Option Nat :=
  let trimmed := Text.trim text
  let (negative, body) : Bool × List Char :=
    match trimmed with
    | '-' :: rest => (true, rest)
    | '+' :: rest => (false, rest)
    | _ => (false, trimmed)
  match digitsWithSeparators body with
  | none => none
  | some digits =>
      let n := digits.foldl (fun total digit => 10 * total + digit) 0
      if Text.digitLimit < digits.length ∨ (negative ∧ n ≠ 0) then none else some n

def groupLimit : Nat := 1073741823

def conditionGroup : Parse Nat := do
  let name ← takeName ')' "group name"
  if Unicode.isIdentifier name.toList then
    match ← namedGroup? name with
    | some index => return index
    | none => fail (.unknownGroup name) (name.length + 1)
  else
    match groupNumber? name.toList with
    | none => fail (.badGroupName name) (name.length + 1)
    | some 0 => fail .badGroupNumber (name.length + 1)
    | some index =>
        if groupLimit ≤ index then fail (.noSuchGroup index) (name.length + 1)
        else
          let position := (← place) - name.length - 1
          modify fun s =>
            if s.conditions.any (fun entry => entry.1 == index) then s
            else { s with conditions := s.conditions ++ [(index, position)] }
          return index

def checkedName (terminator : Char) : Parse String := do
  let name ← takeName terminator "group name"
  if Unicode.isIdentifier name.toList then return name else fail (.badGroupName name) (name.length + 1)

def namedReference : Parse Node := do
  let name ← checkedName ')'
  match ← namedGroup? name with
  | none => fail (.unknownGroup name) (name.length + 1)
  | some index =>
      if ← isClosed index then
        checkLookbehind index
        return .backref index
      else fail .openGroup (name.length + 1)

def skipComment (start : Nat) : Nat → Parse Unit
  | 0 => failAt .unterminatedComment start
  | budget + 1 => do
      if (← peek).isNone then failAt .unterminatedComment start
      else if (← take) = some (.plain ')') then pure ()
      else skipComment start budget

def skipLine : Nat → Parse Unit
  | 0 => pure ()
  | budget + 1 => do
      match ← take with
      | none => pure ()
      | some t => if t = .plain '\n' then pure () else skipLine budget

def expectClose (start : Nat) : Parse Unit := do
  if ← accept ')' then pure () else failAt .unterminatedGroup start

inductive Opening where
  | capture (name : Option String)
  | plain (on off : Flags)
  | atomic
  | look (ahead negative : Bool)
  | condition (index : Nat)
  | whole
  | comment
  | reference (node : Node)

def lookOpening : Parse Opening := do
  match ← take with
  | none => fail .endOfPattern 0
  | some (.plain '=') => return .look false false
  | some (.plain '!') => return .look false true
  | some t => fail (.unknownExtension (String.ofList ('<' :: t.text))) (t.text.length + 2)

def namedOpening : Parse Opening := do
  if ← accept '<' then return .capture (some (← checkedName '>'))
  else if ← accept '=' then return .reference (← namedReference)
  else
    match ← take with
    | none => fail .endOfPattern 0
    | some t => fail (.unknownExtension (String.ofList ('P' :: t.text))) (t.text.length + 2)

def opening (start : Nat) : Parse Opening := do
  if !(← accept '?') then return .capture none
  else
    match ← take with
    | none => fail .endOfPattern 0
    | some t =>
        match t with
        | .plain 'P' => namedOpening
        | .plain ':' => return .plain {} {}
        | .plain '#' =>
            skipComment start ((← remaining) + 1)
            return .comment
        | .plain '=' => return .look true false
        | .plain '!' => return .look true true
        | .plain '<' => lookOpening
        | .plain '(' => return .condition (← conditionGroup)
        | .plain '>' => return .atomic
        | _ =>
            if isFlagLetter t || t = .plain '-' then
              match ← groupFlags t with
              | none => return .whole
              | some (on, off) => return .plain on off
            else fail (.unknownExtension (String.ofList t.text)) (t.text.length + 1)

def isVerboseSpace (t : Token) : Bool :=
  t.isAmong [' ', '\t', '\n', '\r', '\x0b', '\x0c']

def look (ahead negative : Bool) (body : List Node) : Node :=
  if negative && body.isEmpty then .never else .look ahead negative body

mutual
def alternation : Nat → Bool → Bool → Parse (List Node)
  | 0, _, _ => fail .endOfPattern 0
  | budget + 1, verbose, top => do
      let first ← sequence budget verbose top []
      let others ← alternatives budget verbose top
      match others with
      | [] => return first
      | _ => return joined first others

def alternatives : Nat → Bool → Bool → Parse (List (List Node))
  | 0, _, _ => fail .endOfPattern 0
  | budget + 1, verbose, top => do
      if ← accept '|' then
        let s ← get
        let verbose := if top then s.flags.verbose else verbose
        let next ← sequence budget verbose false []
        return next :: (← alternatives budget verbose top)
      else return []

-- The items up to the end of the pattern, a bar or a closing parenthesis. Flags for the whole pattern
-- may stand only in front of its first item.
def sequence : Nat → Bool → Bool → List Node → Parse (List Node)
  | 0, _, _, _ => fail .endOfPattern 0
  | budget + 1, verbose, first, done => do
      match ← peek with
      | none => return dissolved done.reverse
      | some t =>
          if t.isAmong ['|', ')'] then return dissolved done.reverse
          else
            advance
            if verbose && isVerboseSpace t then sequence budget verbose first done
            else if verbose && t == .plain '#' then
              skipLine ((← remaining) + 1)
              sequence budget verbose first done
            else
              let here ← place
              match t with
              | .escaped c => sequence budget verbose first ((← escape c) :: done)
              | .plain '[' => sequence budget verbose first ((← set) :: done)
              | .plain '.' => sequence budget verbose first (.any :: done)
              | .plain '^' => sequence budget verbose first (.anchor .lineStart :: done)
              | .plain '$' => sequence budget verbose first (.anchor .lineEnd :: done)
              | .plain '?' => sequence budget verbose first (← repetition (here - 1) 0 (some 1) done)
              | .plain '*' => sequence budget verbose first (← repetition (here - 1) 0 none done)
              | .plain '+' => sequence budget verbose first (← repetition (here - 1) 1 none done)
              | .plain '\x7b' =>
                  match ← bracedCounts with
                  | none => sequence budget verbose first (.literal '\x7b'.toNat :: done)
                  | some (least, most) =>
                      sequence budget verbose first (← repetition (here - 1) least most done)
              | .plain '(' =>
                  let start := here - 1
                  match ← opening start with
                  | .comment => sequence budget verbose first done
                  | .reference node => sequence budget verbose first (node :: done)
                  | .whole =>
                      if first && done.isEmpty then
                        let s ← get
                        sequence budget s.flags.verbose first done
                      else failAt .lateFlags start
                  | opened => sequence budget verbose first ((← group budget verbose start opened) :: done)
              | .plain c => sequence budget verbose first (.literal c.toNat :: done)
              | .dangling => failAt .danglingBackslash here

def group : Nat → Bool → Nat → Opening → Parse Node
  | 0, _, _, _ => fail .endOfPattern 0
  | budget + 1, verbose, start, opened => do
      match opened with
      | .capture name =>
          let index ← openGroup name
          let body ← alternation budget verbose false
          expectClose start
          closeGroup index body
          return .group (some index) {} {} body
      | .plain on off =>
          let body ← alternation budget ((verbose || on.verbose) && !off.verbose) false
          expectClose start
          return .group none on off body
      | .atomic =>
          let body ← alternation budget verbose false
          expectClose start
          return .atomic body
      | .look true negative =>
          let body ← alternation budget verbose false
          expectClose start
          return look true negative body
      | .look false negative =>
          let outer := (← get).lookbehind
          if outer.isNone then modify fun s => { s with lookbehind := some s.widths.length }
          let body ← alternation budget verbose false
          if outer.isNone then modify fun s => { s with lookbehind := none }
          expectClose start
          return look false negative body
      | .condition index =>
          checkLookbehind index
          let yes ← sequence budget verbose false []
          if ← accept '|' then
            let no ← sequence budget verbose false []
            if (← peek) = some (.plain '|') then fail .manyBranches 0
            else
              expectClose start
              return .conditional index yes no true
          else
            expectClose start
            return .conditional index yes [] false
      | .reference node => return node
      | .whole => failAt .lateFlags start
      | .comment => failAt .unterminatedComment start
end

def readTree : Parse (List Node) := do
  let s ← get
  moveTo s.tokens s.position
  let nodes ← alternation (3 * s.tokens.length + 3) false true
  let flags := (← get).flags
  if flags.ascii && flags.unicode then throw .conflictingFlags
  else
    if !flags.ascii then modify fun s => { s with flags := { s.flags with unicode := true } }
    if (← peek).isSome then fail .unbalancedParenthesis 0
    else
      let groups ← groupCount
      match (← get).conditions.find? fun entry => groups ≤ entry.1 with
      | some (index, position) => failAt (.noSuchGroup index) position
      | none => return nodes

end Conform.Pattern

import ChangeImpact.Literal.Rule
import Std.Data.HashMap
/-!
# Reading tokens by the rules of a grammar

The machine tries the alternatives of a rule in order and goes back where one fails. Some rules keep
their results, so that they are not read twice at one place. A rule that begins with itself grows
its result: it is read again and again, each time with its last result at its start, as long as it
gets further.
-/
set_option autoImplicit false

namespace ChangeImpact.Literal

inductive Keeping where
  | nothing
  | result
  /-- Keeps the result and grows it. -/
  | growing
  deriving DecidableEq

structure Grammar where
  alternatives : Rule → List Choice
  keeping : Rule → Keeping
  /-- Whether a rule and those below it never look for what is wrong. -/
  undiagnosed : Rule → Bool

structure Reading where
  grammar : Grammar
  source : TokenList
  quoted : List Token → Except ParseFault Node

structure Kept where
  value : Option Value
  position : Nat

structure Memory where
  position : Nat
  /-- How many tokens have been looked at, one with a fault included. -/
  touched : Nat
  diagnosing : Bool
  kept : Std.HashMap (Rule × Nat) Kept

def Memory.start : Memory := ⟨0, 0, false, ∅⟩

/-- Starts again, to find out what is wrong. -/
def Memory.diagnose (memory : Memory) : Memory :=
  { memory with position := 0, diagnosing := true, kept := ∅ }

abbrev Machine := EStateM ParseFault Memory

namespace Machine

def position : Machine Nat := do
  return (← get).position

def goTo (position : Nat) : Machine Unit :=
  modify ({ · with position := position })

def known? (rule : Rule) : Machine (Option Kept) := do
  let memory ← get
  return memory.kept[(rule, memory.position)]?

def keep (rule : Rule) (start : Nat) (value : Option Value) (position : Nat) : Machine Unit :=
  modify fun memory =>
    { memory with kept := memory.kept.insert (rule, start) ⟨value, position⟩ }

/-- The token at the position; a fault of the source if it has one there. -/
def touch (reading : Reading) : Machine Token := do
  let memory ← get
  set { memory with touched := max memory.touched (memory.position + 1) }
  match reading.source.tokens[memory.position]?, reading.source.ending with
  | some token, _ => return token
  | none, .token fault => throw (fault : ParseFault)
  | none, .layout fault => throw (fault : ParseFault)
  | none, .complete => return ⟨.sourceEnd, [], 0, 0, true⟩

def readToken (reading : Reading) (test : Token → Bool) : Machine (Option Value) := do
  let token ← touch reading
  if test token then
    modify fun memory => { memory with position := memory.position + 1 }
    return some (.token token)
  else return none

def runPart (reading : Reading) (call : Rule → Machine (Option Value)) :
    Part → Machine (Option Value)
  | .token kind => readToken reading (·.kind = kind)
  | .word words =>
      readToken reading fun token =>
        token.kind = .name && words.contains (String.ofList token.text)
  | .rule rule => call rule

def repeated (read : Machine (Option Value)) : Nat → Machine (List Value)
  | 0 => return []
  | times + 1 => do
      let start ← position
      match ← read with
      | none =>
          goTo start
          return []
      | some value =>
          let rest ← repeated read times
          return value :: rest

def runItem (reading : Reading) (call : Rule → Machine (Option Value)) (item : Item) :
    Machine (Option (List Value)) := do
  let most := reading.source.tokens.size + 1
  let start ← position
  match item with
  | .one part =>
      let value ← runPart reading call part
      return value.map ([·])
  | .optional part =>
      match ← runPart reading call part with
      | some value => return some [value]
      | none =>
          goTo start
          return some [.unit]
  | .many part =>
      let values ← repeated (runPart reading call part) most
      return some [.many values]
  | .oneOrMore part =>
      let values ← repeated (runPart reading call part) most
      return if values.isEmpty then none else some [.many values]
  | .list part =>
      match ← runPart reading call part with
      | none => return none
      | some value =>
          let next := do
            match ← runPart reading call "," with
            | none => return none
            | some _ => runPart reading call part
          let values ← repeated next most
          return some [.many (value :: values)]
  | .ahead part =>
      let value ← runPart reading call part
      goTo start
      return value.map fun _ => []
  | .notAhead part =>
      let value ← runPart reading call part
      goTo start
      return if value.isSome then none else some []
  | .commit => return some []

/-- The values of items; where one fails, whether the alternatives after it are out. -/
def runItems (reading : Reading) (call : Rule → Machine (Option Value)) (committed : Bool) :
    List Item → Machine (Except Bool (List Value))
  | [] => return .ok []
  | .commit :: rest => runItems reading call true rest
  | item :: rest => do
      match ← runItem reading call item with
      | none => return .error committed
      | some values =>
          let more ← runItems reading call committed rest
          return more.map (values ++ ·)

def build (reading : Reading) (alternative : Choice) (values : List Value) :
    Machine (Option Value) := do
  let last := reading.source.tokens[(← position) - 1]?
  let surroundings : Surroundings := ⟨(last.map Token.depth).getD 0, reading.quoted⟩
  match alternative.build surroundings values with
  | .error fault => throw fault
  | .ok value => return value

def runAlternatives (reading : Reading) (call : Rule → Machine (Option Value)) :
    List Choice → Machine (Option Value)
  | [] => return none
  | alternative :: rest => do
      let start ← position
      if alternative.diagnostic && !(← get).diagnosing then runAlternatives reading call rest
      else
        match ← runItems reading call false alternative.items with
        | .ok values =>
            match ← build reading alternative values with
            | some value => return some value
            | none =>
                goTo start
                return none
        | .error committed =>
            goTo start
            if committed then return none else runAlternatives reading call rest

/-- Grows the result of a rule that begins with itself, at most so many times. -/
def grow (rule : Rule) (read : Machine (Option Value)) (start : Nat) :
    Nat → (best : Option Value) → (reached : Nat) → Machine (Option Value)
  | 0, best, reached => do
      goTo reached
      return best
  | times + 1, best, reached => do
      keep rule start best reached
      goTo start
      let value ← read
      let now ← position
      if value.isSome && reached < now then grow rule read start times value now
      else
        goTo reached
        return best

/-- Runs a rule with the search for what is wrong turned off. -/
def withoutDiagnosis (read : Machine (Option Value)) : Machine (Option Value) := do
  let diagnosing := (← get).diagnosing
  modify ({ · with diagnosing := false })
  let value ← read
  modify ({ · with diagnosing := diagnosing })
  return value

/-- Reads a rule and keeps what it is to keep, unless that is known. -/
def keeping (reading : Reading) (rule : Rule) (read : Machine (Option Value)) :
    Machine (Option Value) := do
  match reading.grammar.keeping rule with
  | .nothing => if reading.grammar.undiagnosed rule then withoutDiagnosis read else read
  | .result =>
      let _ ← touch reading
      match ← known? rule with
      | some known =>
          goTo known.position
          return known.value
      | none =>
          let start ← position
          let value ← read
          keep rule start value (← position)
          return value
  | .growing =>
      let _ ← touch reading
      match ← known? rule with
      | some known =>
          goTo known.position
          return known.value
      | none =>
          let start ← position
          grow rule read start (reading.source.tokens.size + 2) none start

def runRule (reading : Reading) : (depth : Nat) → Rule → Machine (Option Value)
  | 0, _ => return none
  | depth + 1, rule =>
      keeping reading rule
        (runAlternatives reading (runRule reading depth) (reading.grammar.alternatives rule))

end Machine

end ChangeImpact.Literal

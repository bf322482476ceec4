import ChangeImpact.Text.CodePoint
/-!
# JSON values

An object keeps its members in the order in which their keys first came; a key that comes again
keeps its place and takes the new value.
-/
set_option autoImplicit false

namespace ChangeImpact.Json

inductive Value where
  | null
  | bool (value : Bool)
  | int (value : Int)
  | float (value : Float)
  | string (value : Text)
  | array (items : List Value)
  | object (members : List (Text × Value))

abbrev Members := List (Text × Value)

namespace Members

def get? (members : Members) (key : Text) : Option Value :=
  match members with
  | [] => none
  | (name, value) :: rest => if name = key then some value else get? rest key

def put (members : Members) (key : Text) (value : Value) : Members :=
  match members with
  | [] => [(key, value)]
  | (name, old) :: rest =>
      if name = key then (name, value) :: rest else (name, old) :: put rest key value

def ofPairs (pairs : List (Text × Value)) : Members :=
  pairs.foldl (fun members pair => put members pair.1 pair.2) []

def keys (members : Members) : List Text :=
  members.map Prod.fst

@[simp] theorem get?_put_self (members : Members) (key : Text) (value : Value) :
    get? (put members key value) key = some value := by
  induction members with
  | nil => simp [put, get?]
  | cons member rest ih =>
      obtain ⟨name, old⟩ := member
      by_cases same : name = key <;> simp [put, get?, same, ih]

theorem get?_put_of_ne (members : Members) {key other : Text} (value : Value)
    (different : other ≠ key) : get? (put members key value) other = get? members other := by
  induction members with
  | nil => simp [put, get?, Ne.symm different]
  | cons member rest ih =>
      obtain ⟨name, old⟩ := member
      by_cases same : name = key
      · subst same; simp [put, get?, Ne.symm different]
      · simp only [put, if_neg same, get?, ih]

end Members

namespace Value

def ofString (text : String) : Value :=
  .string (Text.ofString text)

def member? (value : Value) (key : String) : Option Value :=
  match value with
  | .object members => Members.get? members (Text.ofString key)
  | _ => none

def ofFields (fields : List (String × Value)) : Value :=
  .object (fields.map fun field => (Text.ofString field.1, field.2))

end Value

end ChangeImpact.Json

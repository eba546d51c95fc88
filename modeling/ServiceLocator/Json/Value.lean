import ServiceLocator.Decimal.Binary64

/-!
JSON values. The members of an object are ordered by name, and each name occurs once.
-/
namespace ServiceLocator.Json

/-- Whether an integer is kept as such: it fits 64 bits, with or without a sign. -/
def Fits (n : Int) : Prop := -0x8000000000000000 ≤ n ∧ n ≤ 0xFFFFFFFFFFFFFFFF

instance (n : Int) : Decidable (Fits n) := inferInstanceAs (Decidable (_ ∧ _))

/-- A number: an integer of 64 bits, or else a floating-point value. -/
inductive Number where
  | integer (n : Int)
  | real (x : Binary64)
deriving DecidableEq

/-- A JSON value. -/
inductive Value where
  | null
  | bool (b : Bool)
  | number (n : Number)
  | string (s : String)
  | array (items : List Value)
  | object (members : List (String × Value))

/-- Set a member: names stay ordered, and a name that is there takes the new
value. -/
def setMember (name : String) (value : Value) : List (String × Value) → List (String × Value)
  | [] => [(name, value)]
  | (other, old) :: rest =>
    if name < other then (name, value) :: (other, old) :: rest
    else if name = other then (name, value) :: rest
    else (other, old) :: setMember name value rest

namespace Value

/-- The object of members in any order; of one name the last wins. -/
def ofMembers (members : List (String × Value)) : Value :=
  .object (members.foldl (fun kept m => setMember m.1 m.2 kept) [])

/-- A member of an object. -/
def member? (name : String) : Value → Option Value
  | .object members => members.lookup name
  | _ => none

/-- A member of an object; null if there is none. -/
def get (name : String) (v : Value) : Value :=
  (v.member? name).getD .null

/-- The text of a string. -/
def string? : Value → Option String
  | .string s => some s
  | _ => none

/-- The items of an array; none for any other value. -/
def items : Value → List Value
  | .array items => items
  | _ => []

end Value

end ServiceLocator.Json

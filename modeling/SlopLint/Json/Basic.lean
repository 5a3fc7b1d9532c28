import SlopLint.Number.Double

/-!
# JSON values

Whole numbers and floating point numbers are kept apart, and the members of an object stay in the
order in which their names first appeared.
-/

namespace SlopLint

inductive Json where
  | null
  | bool (value : Bool)
  | int (value : Int)
  | double (value : Number.Double)
  | string (value : String)
  | array (items : List Json)
  | object (members : List (String × Json))

namespace Json

def member? (members : List (String × Json)) (name : String) : Option Json :=
  (members.find? (·.1 == name)).map (·.2)

/-- Sets a member: a known name keeps its place and takes the new value. -/
def setMember (name : String) (value : Json) : List (String × Json) → List (String × Json)
  | [] => [(name, value)]
  | (other, old) :: rest =>
    if other == name then (name, value) :: rest else (other, old) :: setMember name value rest

/-- Whether a value counts as present: all but `null`, `false`, zero and empty things. -/
def isTruthy : Json → Bool
  | null => false
  | bool value => value
  | int value => value != 0
  | double value => !value.isZero
  | string value => value != ""
  | array items => !items.isEmpty
  | object members => !members.isEmpty

end Json

end SlopLint

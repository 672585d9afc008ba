import ConstantSweep.Text.Basic

set_option autoImplicit false

namespace ConstantSweep

inductive Json where
  | null
  | bool (value : Bool)
  | int (value : Int)
  | real (text : String)
  | string (text : Text)
  | array (items : List Json)
  | object (fields : List (Text × Json))
  deriving Repr, Inhabited, BEq

namespace Json

def record (fields : List (String × Json)) : Json :=
  .object (fields.map fun (name, value) => (name, value))

def field? (value : Json) (name : Text) : Option Json :=
  match value with
  | .object fields => (fields.reverse.find? fun field => field.1 == name).map (·.2)
  | _ => none

end Json

end ConstantSweep

import Mathlib.Data.Rat.Defs

/-!
JSON values as the services see them: the columns of type JSONB, the claims of
a token and the metadata of a fetched item. Objects are association lists;
`get?` is the host language's `dict.get`. Only text has a printed form here:
`str` of any other value is left to the caller.
-/

namespace GhostRecon

/-- A parsed number with a fraction or an exponent. -/
inductive JsonFloat where
  | finite (value : Rat)
  | nan
  | infinite

inductive Json where
  | null
  | bool (value : Bool)
  | int (value : Int)
  | float (value : JsonFloat)
  | str (value : String)
  | arr (items : List Json)
  | obj (fields : List (String × Json))

/-- The fields of an object; anything else has none. -/
def Json.fields : Json → List (String × Json)
  | .obj fields => fields
  | _ => []

/-- `value.get(key)` on an object. -/
def Json.get? (value : Json) (key : String) : Option Json :=
  value.fields.lookup key

/-- `bool(value)`. -/
def Json.truthy : Json → Bool
  | .null => false
  | .bool value => value
  | .int value => value ≠ 0
  | .float (.finite value) => value ≠ 0
  | .float _ => true
  | .str value => value ≠ ""
  | .arr items => !items.isEmpty
  | .obj fields => !fields.isEmpty

/-- `bool(value.get(key))`. -/
def Json.flag (value : Json) (key : String) : Bool :=
  (value.get? key).any Json.truthy

/-- What `int` raises. -/
inductive IntFailure where
  | typeError | valueError | overflowError
  deriving DecidableEq, Repr

/-- `int(value)`, with the host's reading of a text as an integer. -/
def Json.toInt (ofText : String → Option Int) : Json → Except IntFailure Int
  | .bool value => .ok value.toNat
  | .int value => .ok value
  | .float (.finite value) => .ok (if 0 ≤ value then value.floor else -(-value).floor)
  | .float .nan => .error .valueError
  | .float .infinite => .error .overflowError
  | .str text =>
    match ofText text with
    | some value => .ok value
    | none => .error .valueError
  | .null | .arr _ | .obj _ => .error .typeError

end GhostRecon

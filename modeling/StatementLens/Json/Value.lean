import StatementLens.Json.Decimal

/-!
# JSON values

The values of JSON. An object is a list of fields; `Json.ofFields` builds one whose keys are in
order and distinct, the last of several fields with one key being kept.
-/

namespace StatementLens

/-- A JSON value. -/
inductive Json where
  | null
  | bool (b : Bool)
  | int (n : Int)
  | float (d : Decimal)
  | str (s : String)
  | arr (items : List Json)
  | obj (fields : List (String × Json))
  deriving Repr, Inhabited

namespace Json

/-- Puts a field into a list of fields with ascending keys, in place of one with the same key. -/
def insertField (key : String) (value : Json) : List (String × Json) → List (String × Json)
  | [] => [(key, value)]
  | (k, v) :: rest =>
    if key = k then (key, value) :: rest
    else if key < k then (key, value) :: (k, v) :: rest
    else (k, v) :: insertField key value rest

/-- An object with these fields, in the order of their keys. -/
def ofFields (fields : List (String × Json)) : Json :=
  .obj (fields.foldl (fun acc (k, v) => insertField k v acc) [])

/-- The value of a field of an object. -/
def get? (key : String) : Json → Option Json
  | .obj fields => fields.lookup key
  | _ => none

/-- The null value for nothing, and the value itself otherwise. -/
def ofOption : Option Json → Json
  | none => .null
  | some j => j

/-- A natural number. -/
def nat (n : Nat) : Json := .int n

end Json

end StatementLens

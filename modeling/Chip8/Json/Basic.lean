/-!
JSON values. A number without a fraction and an exponent is an integer of any size.
-/

namespace Chip8

inductive Json where
  | null
  | bool (value : Bool)
  | integer (value : Int)
  | real (value : Float)
  | string (value : String)
  | array (items : List Json)
  | object (fields : List (String × Json))
  deriving Inhabited

namespace Json

/-- The value of a field; of fields with the same name the last one counts. -/
def field? (name : String) (fields : List (String × Json)) : Option Json :=
  (fields.reverse.find? (·.1 == name)).map Prod.snd

/-- Gives a field a value, in its old place if there is one and at the end if there is none. -/
def setField (fields : List (String × Json)) (name : String) (value : Json) :
    List (String × Json) :=
  if fields.any (·.1 == name) then
    fields.map fun (known, old) => (known, if known == name then value else old)
  else fields ++ [(name, value)]

/-- The object of some fields, each name once. -/
def ofFields (fields : List (String × Json)) : Json :=
  object (fields.foldl (fun known (name, value) => setField known name value) [])

/-- Whether a value counts as true: neither null, false, zero nor empty. -/
def isTrue : Json → Bool
  | null => false
  | bool value => value
  | integer value => value != 0
  | real value => value != 0
  | string value => !value.isEmpty
  | array items => !items.isEmpty
  | object fields => !fields.isEmpty

end Json

end Chip8

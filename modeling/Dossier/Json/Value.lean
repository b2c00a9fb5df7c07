/-!
# JSON values

A value keeps whole numbers apart from fractional ones, as its text does. The members of an object
stand in the order in which they are written; values that are read have theirs in ascending order
of the keys, each key once (`Value.put`).
-/

namespace Dossier.Json

/-- A JSON value. -/
inductive Value where
  | null
  | bool (b : Bool)
  | int (i : Int)
  | float (x : Float)
  | string (s : String)
  | array (items : List Value)
  | object (members : List (String × Value))
  deriving Inhabited, BEq, Repr

/-- The members of an object. -/
abbrev Members := List (String × Value)

/-- Sets a member among members in ascending order of their keys. A key that is there already gets
the new value. -/
def Members.put (key : String) (value : Value) : Members → Members
  | [] => [(key, value)]
  | (k, v) :: rest =>
    if key < k then (key, value) :: (k, v) :: rest
    else if key == k then (key, value) :: rest
    else (k, v) :: Members.put key value rest

/-- The value of the first member with the given key. -/
def Members.get? (members : Members) (key : String) : Option Value := members.lookup key

/-- The members without those of the given key. -/
def Members.drop (members : Members) (key : String) : Members := members.filter (·.1 != key)

/-- The members in ascending order of their keys; of members with one key the last counts. -/
def Members.sorted (members : Members) : Members :=
  members.foldl (fun done m => done.put m.1 m.2) []

/-- The value of a member, if the value is an object that has it. -/
def Value.get? (value : Value) (key : String) : Option Value :=
  match value with
  | .object members => Members.get? members key
  | _ => none

/-- Whether a value is `null`. -/
def Value.isNull : Value → Bool
  | .null => true
  | _ => false

mutual

/-- The value with the members of every object in ascending order of their keys. -/
def Value.sorted : Value → Value
  | .array items => .array (sortedItems items)
  | .object members => .object (sortedMembers [] members)
  | v => v

/-- The items of an array, each sorted. -/
def sortedItems : List Value → List Value
  | [] => []
  | v :: rest => v.sorted :: sortedItems rest

/-- The members of an object, each sorted and put among those of `done`. -/
def sortedMembers (done : Members) : Members → Members
  | [] => done
  | (k, v) :: rest => sortedMembers (done.put k v.sorted) rest

end

/-- A list of strings as an array. -/
def Value.strings (ss : List String) : Value := .array (ss.map .string)

/-- An optional value, `null` where there is none. -/
def Value.ofOption (v : Option Value) : Value := v.getD .null

end Dossier.Json

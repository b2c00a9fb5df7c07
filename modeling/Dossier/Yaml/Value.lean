import Dossier.Json.Decode
import Dossier.Yaml.Node
import Dossier.Yaml.Scalar
import Dossier.Yaml.Token.Lexer

/-!
# YAML values

`Value.read?` is the value of a text that holds at most one document. Aliases are replaced by what
they stand for, as long as that does not get out of hand, and the keys of a mapping must differ.
`Value.toJson` is the JSON value that says the same.
-/

namespace Dossier.Yaml

/-- A YAML value. The entries of a mapping stand in the order of the text. -/
inductive Value where
  | null
  | bool (b : Bool)
  | int (i : Int)
  | float (x : Float)
  | string (s : String)
  | sequence (items : List Value)
  | mapping (entries : List (Value × Value))
  | tagged (tag : String) (value : Value)
  deriving Inhabited, Repr

namespace Value

/-- The value of a scalar. -/
def ofScalar : Scalar → Value
  | .null => null
  | .bool b => bool b
  | .int i => int i
  | .float x => float x
  | .string s => string s

/-! ## Equality of keys -/

/-- Whether two doubles are one key: zeros of either sign are, and so is what is no number. -/
def sameFloat (x y : Float) : Bool := x == y || (x.isNaN && y.isNaN)

mutual

/-- Whether two values are one key. The order of the entries of a mapping does not count. -/
def same : Value → Value → Bool
  | null, null => true
  | bool a, bool b => a == b
  | int a, int b => a == b
  | float a, float b => sameFloat a b
  | string a, string b => a == b
  | sequence as, sequence bs => sameItems as bs
  | mapping as, mapping bs => as.length == bs.length && sameEntries as bs
  | tagged s a, tagged t b => s == t && same a b
  | _, _ => false

/-- Whether two sequences are one key. -/
def sameItems : List Value → List Value → Bool
  | [], [] => true
  | a :: as, b :: bs => same a b && sameItems as bs
  | _, _ => false

/-- Whether every entry of a mapping is one of another. -/
def sameEntries : List (Value × Value) → List (Value × Value) → Bool
  | [], _ => true
  | (k, v) :: rest, bs => bs.any (fun (l, w) => same k l && same v w) && sameEntries rest bs

end

/-! ## From a tree -/

/-- A step of replacing aliases, which counts down how many more may be replaced. -/
abbrev Expansion := StateT Nat Option

/-- The node that a node stands for. -/
def target (anchored : List (Nat × Node)) : Node → Expansion Node
  | .reference number => do
    let left ← get
    if left == 0 then failure
    set (left - 1)
    let some n := anchored.lookup number | failure
    return n
  | n => return n

/-- The name of a local tag, which begins with an exclamation mark. -/
def localTag? : Option String → Option (List Char)
  | none => none
  | some tag =>
    match tag.toList with
    | '!' :: name => some name
    | _ => none

/-- A value with the local tag that its node bears, if any. A local tag has a name. -/
def withTag (tag : Option String) (v : Value) : Expansion Value :=
  match localTag? tag with
  | none => return v
  | some [] => failure
  | some (_ :: _) => return tagged (tag.getD "") v

/-- The value of a scalar. A tag that is not local says what a scalar stands for. -/
def ofScalarNode (tag : Option String) (plain : Bool) (text : String) : Option Value :=
  match tag, localTag? tag with
  | some t, none => (Scalar.ofTagged? t text).map ofScalar
  | _, _ => if plain then (Scalar.ofPlain? text).map ofScalar else some (string text)

/-- The value of a node. At most `room` collections lie within one another. -/
def ofNode (anchored : List (Nat × Node)) : (room : Nat) → Node → Expansion Value
  | room, n => do
    match ← target anchored n with
    | .scalar tag plain text => withTag tag (← ofScalarNode tag plain text)
    | .sequence tag items =>
      match room with
      | 0 => failure
      | room + 1 => withTag tag (sequence (← items.mapM (ofNode anchored room)))
    | .mapping tag entries =>
      match room with
      | 0 => failure
      | room + 1 =>
        let entries ← entries.foldlM
          (fun done (k, v) => do
            let k ← ofNode anchored room k
            if done.any fun (l, _) => same k l then failure
            return done ++ [(k, ← ofNode anchored room v)])
          []
        withTag tag (mapping entries)
    | .reference _ => failure

/-- The number of collections that may lie within one another. -/
def depthLimit : Nat := 128

/-- The value of a tree. For every node a hundred aliases may be replaced. A text without a
document stands for nothing. -/
def ofTree? (t : Tree) : Option Value :=
  match t.root with
  | none => some null
  | some root => ((ofNode t.anchored depthLimit root).run (100 * root.size)).map (·.1)

/-- The value of a text. -/
def read? (text : String) : Option Value := do ofTree? (← Tree.ofTokens? (← Token.ofText? text))

/-! ## As JSON -/

/-- Whether a value is a mapping, its tags aside. -/
def isMapping : Value → Bool
  | mapping _ => true
  | tagged _ v => v.isMapping
  | _ => false

/-- The key that stands for a value: a string, or the text of a truth value or number. -/
def keyText : Value → Except Json.SyntaxError String
  | string s => .ok s
  | bool b => .ok (if b then "true" else "false")
  | int i => .ok (toString i)
  | float x => if x.isFinite then .ok (Json.floatText x) else .error .keyNotFinite
  | _ => .error .keyNotString

mutual

/-- The JSON value that says the same. What is no number becomes `null`, and a tag becomes the key
of an object. -/
def toJson : Value → Except Json.SyntaxError Json.Value
  | null => .ok .null
  | bool b => .ok (.bool b)
  | int i => .ok (.int i)
  | float x => .ok (if x.isFinite then .float x else .null)
  | string s => .ok (.string s)
  | sequence items => (itemsToJson items).map .array
  | mapping entries => (entriesToJson [] entries).map .object
  | tagged tag v => do return .object [(tag, ← toJson v)]

/-- Items as JSON. -/
def itemsToJson : List Value → Except Json.SyntaxError (List Json.Value)
  | [] => .ok []
  | v :: rest => do
    let v ← toJson v
    return v :: (← itemsToJson rest)

/-- Entries as members, set one after another among those of `done`. -/
def entriesToJson (done : Json.Members) :
    List (Value × Value) → Except Json.SyntaxError Json.Members
  | [] => .ok done
  | (k, v) :: rest => do
    let key ← keyText k
    let v ← toJson v
    entriesToJson (done.put key v) rest

end

end Value

end Dossier.Yaml

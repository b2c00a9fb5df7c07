import Dossier.Json.Lexeme

/-!
# JSON text as far as it can be read

`Draft.read` reads a text to its end or to its first fault, and keeps everything before the fault.
Whoever decodes a draft meets the members in the order of the text, so that of two faults the
earlier one wins, whether it lies in the spelling or in the meaning. `Draft.toValue` reads a draft
as a value and `Draft.skip` passes over it; `Value.read` is the plain case, the value of a text
without fault.
-/

namespace Dossier.Json

open Dossier.Text (Rest)

/-- A JSON text as far as it can be read. An array or object ends with the fault that stands in the
place of its end, if any. -/
inductive Draft where
  | null
  | bool (b : Bool)
  | number (n : Except SyntaxError Value)
  | string (s : Except SyntaxError String)
  | array (items : List Draft) (stop : Option Stop)
  | object (members : List (Except SyntaxError String × Draft)) (stop : Option Stop)
  | unreadable (stop : Stop)
  deriving Inhabited

/-! ## Reading -/

/-- Parts of an array or object, the fault that ends them, and what follows the closing bracket
unless reading stopped. -/
structure Parts (α : Type) (ts : List Lexeme) where
  parts : List α
  stop : Option Stop
  rest? : Option (Rest ts)

/-- No parts, but a fault in their place. -/
def Parts.stopped {α : Type} {ts : List Lexeme} (stop : Stop) : Parts α ts := ⟨[], some stop, none⟩

/-- The parts as they follow a lexeme. -/
def Parts.after {α : Type} {ts : List Lexeme} (t : Lexeme) (p : Parts α ts) : Parts α (t :: ts) :=
  ⟨p.parts, p.stop, p.rest?.map (·.cons t)⟩

/-- A member of an object: a key, which may have no value, and what stands for its value. -/
abbrev DraftMember := Except SyntaxError String × Draft

mutual

/-- The value at the front of the lexemes, and what follows it unless reading stopped. -/
def readValue (ts : List Lexeme) : Draft × Option (Rest ts) :=
  match ts with
  | [] => (.unreadable (.of .endInValue), none)
  | t :: ts =>
    match t with
    | .null => (.null, some (.tail _ _))
    | .bool b => (.bool b, some (.tail _ _))
    | .number n => (.number n, some (.tail _ _))
    | .string s => (.string s, some (.tail _ _))
    | .openArray =>
      let p := readItems true ts
      (.array p.parts p.stop, p.rest?.map (·.cons _))
    | .openObject =>
      let p := readMembers true ts
      (.object p.parts p.stop, p.rest?.map (·.cons _))
    | .broken stop | .brokenString stop => (.unreadable stop, none)
    | _ => (.unreadable (.of .expectedValue), none)
termination_by 3 * ts.length
decreasing_by all_goals simp only [List.length_cons]; omega

/-- The items of an array from its start, or from the end of the item before. -/
def readItems (first : Bool) (ts : List Lexeme) : Parts Draft ts :=
  match ts with
  | [] => .stopped (.of .endInList)
  | t :: ts =>
    match t, first with
    | .closeArray, _ => ⟨[], none, some (.tail _ _)⟩
    | t, true => readItemsFrom (t :: ts)
    | .comma, false =>
      match ts with
      | [] => .stopped (.of .endInValue)
      | .closeArray :: _ => .stopped ⟨.trailingComma, .expectedValue⟩
      | t :: ts => (readItemsFrom (t :: ts)).after .comma
    | _, false => .stopped (.of .expectedListCommaOrEnd)
termination_by 3 * ts.length + 2
decreasing_by all_goals simp only [List.length_cons]; omega

/-- An item of an array and the items after it. -/
def readItemsFrom (ts : List Lexeme) : Parts Draft ts :=
  match readValue ts with
  | (d, none) => ⟨[d], none, none⟩
  | (d, some rest) =>
    let p := readItems false rest.val
    ⟨d :: p.parts, p.stop, p.rest?.map rest.trans⟩
termination_by 3 * ts.length + 1
decreasing_by
  · omega
  · have := rest.property
    omega

/-- The members of an object from its start, or from the end of the member before. -/
def readMembers (first : Bool) (ts : List Lexeme) : Parts DraftMember ts :=
  match ts with
  | [] => .stopped (.of .endInObject)
  | t :: ts =>
    match t, first with
    | .closeObject, _ => ⟨[], none, some (.tail _ _)⟩
    | t, true => readMembersFrom (t :: ts)
    | .comma, false =>
      match ts with
      | [] => .stopped ⟨.endInValue, .endInObject⟩
      | .closeObject :: _ => .stopped ⟨.trailingComma, .keyNotString⟩
      | t :: ts => (readMembersFrom (t :: ts)).after .comma
    | _, false => .stopped (.of .expectedObjectCommaOrEnd)
termination_by 3 * ts.length + 2
decreasing_by all_goals simp only [List.length_cons]; omega

/-- A member of an object and the members after it. -/
def readMembersFrom (ts : List Lexeme) : Parts DraftMember ts :=
  match ts with
  | .string key :: .colon :: ts =>
    match readValue ts with
    | (d, none) => ⟨[(key, d)], none, none⟩
    | (d, some rest) =>
      let p := readMembers false rest.val
      ⟨(key, d) :: p.parts, p.stop, p.rest?.map fun r => ((rest.trans r).cons _).cons _⟩
  | [.string key] => ⟨[(key, .unreadable (.of .endInObject))], none, none⟩
  | .string key :: _ => ⟨[(key, .unreadable (.of .expectedColon))], none, none⟩
  | .brokenString stop :: _ => .stopped stop
  | _ => .stopped (.of .keyNotString)
termination_by 3 * ts.length + 1
decreasing_by
  · simp only [List.length_cons]
    omega
  · have := rest.property
    simp only [List.length_cons]
    omega

end

/-- A text as far as it can be read: the value it begins with, and whether more than blanks
follows. -/
structure Draft.Text where
  value : Draft
  trailing : Bool

/-- Reads a text. -/
def Draft.read (text : String) : Draft.Text :=
  match readValue (lexemes text.toList) with
  | (d, none) => ⟨d, false⟩
  | (d, some rest) => ⟨d, !rest.val.isEmpty⟩

/-! ## Using a draft -/

/-- The fault that ends an array or object, where it is read. -/
def closing (stop : Option Stop) : Except SyntaxError Unit :=
  match stop with
  | none => .ok ()
  | some s => .error s.onRead

mutual

/-- The value of a draft, if at most `room` arrays and objects lie within one another. Of members
with one key the last counts. -/
def Draft.toValue (room : Nat) : Draft → Except SyntaxError Value
  | .null => .ok .null
  | .bool b => .ok (.bool b)
  | .number n => n
  | .string s => s.map .string
  | .unreadable stop => .error stop.onRead
  | .array items stop =>
    match room with
    | 0 => .error .tooDeep
    | room + 1 => do
      let values ← toItems room items
      closing stop
      return .array values
  | .object members stop =>
    match room with
    | 0 => .error .tooDeep
    | room + 1 => do
      let values ← toMembers room [] members
      closing stop
      return .object values

/-- The values of items. -/
def toItems (room : Nat) : List Draft → Except SyntaxError (List Value)
  | [] => .ok []
  | d :: rest => do
    let v ← d.toValue room
    return v :: (← toItems room rest)

/-- The values of members, set one after another among those of `done`. -/
def toMembers (room : Nat) (done : Members) : List DraftMember → Except SyntaxError Members
  | [] => .ok done
  | (key, d) :: rest => do
    let k ← key
    let v ← d.toValue room
    toMembers room (done.put k v) rest

end

mutual

/-- Passes over a draft. Strings and numbers are not looked into, and there is no limit to its
depth. -/
def Draft.skip : Draft → Except SyntaxError Unit
  | .null | .bool _ | .number _ | .string _ => .ok ()
  | .unreadable stop => .error stop.onSkip
  | .array items stop => do
    skipItems items
    skipClosing stop
  | .object members stop => do
    skipMembers members
    skipClosing stop

/-- Passes over the end of an array or object. -/
def skipClosing : Option Stop → Except SyntaxError Unit
  | none => .ok ()
  | some s => .error s.onSkip

/-- Passes over items. -/
def skipItems : List Draft → Except SyntaxError Unit
  | [] => .ok ()
  | d :: rest => do
    d.skip
    skipItems rest

/-- Passes over members. -/
def skipMembers : List DraftMember → Except SyntaxError Unit
  | [] => .ok ()
  | (_, d) :: rest => do
    d.skip
    skipMembers rest

end

/-- The number of arrays and objects that may lie within one another. -/
def depthLimit : Nat := 127

/-- The value of a text. -/
def Value.read (text : String) : Except SyntaxError Value := do
  let ⟨draft, trailing⟩ := Draft.read text
  let v ← draft.toValue depthLimit
  if trailing then throw .trailingCharacters
  return v

end Dossier.Json

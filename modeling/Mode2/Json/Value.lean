import Mode2.Json.Token

/-!
# JSON values

A value is built from its tokens by a machine that holds the containers still
open and knows which kind of token may come next.
-/

namespace Mode2.Json

/-- A JSON value. Strings keep their code units and objects their fields in order,
repeated ones included. -/
inductive Value
  | null
  | bool (value : Bool)
  | natural (value : Nat)
  | number
  | text (units : List Nat)
  | array (items : List Value)
  | object (fields : List (List Nat × Value))

/-- A container that is still open; what it holds so far stands last first. -/
inductive Open
  | array (items : List Value)
  | object (fields : List (List Nat × Value)) (key : List Nat)

/-- What may come next. -/
inductive Expected
  /-- A value. -/
  | value
  /-- The first item of an array, or its end. -/
  | firstItem
  /-- The first key of an object, or its end. -/
  | firstKey
  /-- A further key of an object. -/
  | key (fields : List (List Nat × Value))
  /-- The colon after a key. -/
  | colon (fields : List (List Nat × Value)) (key : List Nat)
  /-- The value is complete; in a container, a comma or its end. -/
  | complete (value : Value)

/-- The machine: the open containers, innermost first, and what may come next. -/
structure Builder where
  outer : List Open
  expected : Expected

namespace Builder

/-- Nothing has been read. -/
def start : Builder :=
  ⟨[], .value⟩

/-- A value that is a single token. -/
def scalar? : Token → Option Value
  | .null => some .null
  | .bool value => some (.bool value)
  | .natural value => some (.natural value)
  | .number => some .number
  | .text units => some (.text units)
  | _ => none

/-- A token where a value has to begin. -/
def beginValue (outer : List Open) : Token → Option Builder
  | .openArray => some ⟨outer, .firstItem⟩
  | .openObject => some ⟨outer, .firstKey⟩
  | token => (scalar? token).map fun value => ⟨outer, .complete value⟩

/-- One token. -/
def step (b : Builder) (token : Token) : Option Builder :=
  match b.expected, b.outer, token with
  | .value, outer, token => beginValue outer token
  | .firstItem, outer, .closeArray => some ⟨outer, .complete (.array [])⟩
  | .firstItem, outer, token => beginValue (.array [] :: outer) token
  | .firstKey, outer, .closeObject => some ⟨outer, .complete (.object [])⟩
  | .firstKey, outer, .text key => some ⟨outer, .colon [] key⟩
  | .key fields, outer, .text key => some ⟨outer, .colon fields key⟩
  | .colon fields key, outer, .colon => some ⟨.object fields key :: outer, .value⟩
  | .complete value, .array items :: outer, .comma =>
      some ⟨.array (value :: items) :: outer, .value⟩
  | .complete value, .array items :: outer, .closeArray =>
      some ⟨outer, .complete (.array (value :: items).reverse)⟩
  | .complete value, .object fields key :: outer, .comma =>
      some ⟨outer, .key ((key, value) :: fields)⟩
  | .complete value, .object fields key :: outer, .closeObject =>
      some ⟨outer, .complete (.object ((key, value) :: fields).reverse)⟩
  | _, _, _ => none

/-- The value, when it is complete and no container is open. -/
def result (b : Builder) : Option Value :=
  match b.expected, b.outer with
  | .complete value, [] => some value
  | _, _ => none

end Builder

namespace Value

/-- The value that a list of tokens spells. -/
def ofTokens (tokens : List Token) : Option Value := do
  let b ← tokens.foldlM Builder.step .start
  b.result

/-- The value that a text spells. -/
def ofText (text : List Char) : Option Value := do
  ofTokens (← scan text)

/-- The value of the only field with a name. -/
def field? (fields : List (List Char × Value)) (name : String) : Option Value :=
  match fields.filter fun entry => entry.1 = name.toList with
  | [(_, value)] => some value
  | _ => none

/-- The parts of a record with the given field names, in their order. A record is
an object in which every name occurs exactly once, further fields being passed
over, or an array with one item for each name. -/
def record? (names : List String) : Value → Option (List Value)
  | .array items => if items.length = names.length then some items else none
  | .object fields => do
      let fields ← fields.mapM fun (key, value) => return (← decodeUnits key, value)
      names.mapM (field? fields)
  | _ => none

/-- A natural number below `bound`. -/
def naturalBelow? (bound : Nat) : Value → Option Nat
  | .natural value => if value < bound then some value else none
  | _ => none

def bool? : Value → Option Bool
  | .bool value => some value
  | _ => none

/-- An array whose items all have one form. -/
def array? {α : Type} (item? : Value → Option α) : Value → Option (List α)
  | .array items => items.mapM item?
  | _ => none

end Value

end Mode2.Json

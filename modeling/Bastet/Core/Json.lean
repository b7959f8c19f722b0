import Bastet.Core.Identity

/-! JSON values, as the derived serialisers of the source build them. Their text is
written by the `serde_json` crate. -/

set_option autoImplicit false

namespace Bastet.Core

inductive Json where
  | null
  | bool (value : Bool)
  | number (value : Nat)
  | string (value : String)
  | array (values : List Json)
  | object (fields : List (String × Json))

/-- The text the crate writes for a value. -/
class SerdeJson where
  text : Json → String

namespace Json

def option {α : Type} (encode : α → Json) : Option α → Json
  | some value => encode value
  | none => .null

/-- A field left out when it is absent. -/
def optionalField {α : Type} (name : String) (encode : α → Json) : Option α → List (String × Json)
  | some value => [(name, encode value)]
  | none => []

def hexDigit (value : Nat) : Char :=
  Char.ofNat (if value < 10 then 48 + value else 87 + value)

/-- The hyphenated text of a UUID. -/
def uuidText (id : Uuid) : String :=
  let digit (place : Nat) : Char := hexDigit (id.toNat / 16 ^ (31 - place) % 16)
  String.ofList <| (List.range 32).flatMap fun place =>
    if place = 8 ∨ place = 12 ∨ place = 16 ∨ place = 20 then ['-', digit place] else [digit place]

def uuid {kind : EntityKind} (id : StableId kind) : Json :=
  .string (uuidText id.value)

def escapeCharacter (character : Char) : List Char :=
  if character = '"' then ['\\', '"']
  else if character = '\\' then ['\\', '\\']
  else if character.toNat = 0x08 then ['\\', 'b']
  else if character.toNat = 0x09 then ['\\', 't']
  else if character.toNat = 0x0a then ['\\', 'n']
  else if character.toNat = 0x0c then ['\\', 'f']
  else if character.toNat = 0x0d then ['\\', 'r']
  else if character.toNat < 0x20 then
    ['\\', 'u', '0', '0', hexDigit (character.toNat / 16), hexDigit (character.toNat % 16)]
  else [character]

def quote (value : String) : String :=
  "\"" ++ String.ofList (value.toList.flatMap escapeCharacter) ++ "\""

mutual

def compact : Json → String
  | .null => "null"
  | .bool true => "true"
  | .bool false => "false"
  | .number value => toString value
  | .string value => quote value
  | .array values => "[" ++ compactItems values ++ "]"
  | .object fields => "\x7b" ++ compactFields fields ++ "\x7d"

def compactItems : List Json → String
  | [] => ""
  | [value] => value.compact
  | value :: next :: rest => value.compact ++ "," ++ compactItems (next :: rest)

def compactFields : List (String × Json) → String
  | [] => ""
  | [(name, value)] => quote name ++ ":" ++ value.compact
  | (name, value) :: next :: rest => quote name ++ ":" ++ value.compact ++ "," ++ compactFields (next :: rest)

end

end Json

/-- The compact format of the crate. -/
abbrev SerdeJson.compact : SerdeJson :=
  ⟨Json.compact⟩

end Bastet.Core

import Bastet.Core.Adapter

/-! JSON values as the adapters read them from the wire. -/

set_option autoImplicit false

namespace Bastet.Adapter

open Bastet.Core

inductive Number where
  | posInt (value : UInt64)
  | negInt (value : Int64)
  | float (value : Floating)
  deriving DecidableEq, Repr

inductive Value where
  | null
  | bool (value : Bool)
  | number (value : Number)
  | string (value : String)
  | array (values : List Value)
  | object (fields : List (String × Value))

/-- `serde_json::from_str`. -/
class ReadJson where
  fromStr : String → Option Value

namespace Value

def asObject : Value → Option (List (String × Value))
  | .object fields => some fields
  | _ => none

def asArray : Value → Option (List Value)
  | .array values => some values
  | _ => none

def asStr : Value → Option String
  | .string value => some value
  | _ => none

def asU64 : Value → Option Nat
  | .number (.posInt value) => some value.toNat
  | _ => none

def asI64 : Value → Option Int
  | .number (.posInt value) => if value.toNat < 2 ^ 63 then some value.toNat else none
  | .number (.negInt value) => some value.toInt
  | _ => none

end Value

/-- The value of a key in the fields of an object. -/
def field (fields : List (String × Value)) (key : String) : Option Value :=
  (fields.find? fun entry => entry.1 = key).map Prod.snd

/-- `value.get(key)`. -/
def Value.get (value : Value) (key : String) : Option Value :=
  value.asObject.bind fun fields => field fields key

/-- `str::to_ascii_lowercase`. -/
def asciiLowercase (text : String) : String :=
  text.map Char.toLower

/-- `text.contains(pattern)`. -/
def containsText (text pattern : String) : Bool :=
  decide (pattern.toList <:+: text.toList)

/-- A state as the `Debug` format writes it. -/
def debugText : NormalizedRunState → String
  | .starting => "Starting"
  | .running => "Running"
  | .awaitingApproval => "AwaitingApproval"
  | .blocked => "Blocked"
  | .cancelling => "Cancelling"
  | .cancelled => "Cancelled"
  | .failed => "Failed"
  | .succeeded => "Succeeded"
  | .recovering => "Recovering"
  | .uncertain => "Uncertain"

/-- `append_if_within_limit`: the longer text, when it stays within the limit. -/
def appendIfWithinLimit (target addition : String) (limit : Nat) : Option String :=
  if byteLength target + byteLength addition < 2 ^ 64 ∧ byteLength target + byteLength addition ≤ limit then
    some (target ++ addition)
  else none

end Bastet.Adapter

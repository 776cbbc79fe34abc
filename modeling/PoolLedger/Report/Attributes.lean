import PoolLedger.Event.Basic
import PoolLedger.Json.Basic
import PoolLedger.Text.Integer

/-!
# Attributes

The loosely typed list of keys and values that a reported event carries. Keys may repeat.
-/

namespace PoolLedger

open Text

/-- Why the attributes of an event do not say what its kind requires. -/
inductive DecodeError where
  | missing (key : String)
  | invalid (key value : String)
  | mismatched (keys : String)
  | asset (error : AssetError)
deriving DecidableEq

def DecodeError.message : DecodeError → String
  | .missing key => "missing attribute `" ++ key ++ "`"
  | .invalid key value => "invalid value " ++ quoted value ++ " for attribute `" ++ key ++ "`"
  | .mismatched keys => "mismatched repeated attributes: " ++ keys
  | .asset e => "invalid asset: " ++ e.message

/-- Keys and values in the order in which they were reported. -/
abbrev Attributes := List (String × String)

namespace Attributes

/-- The first value of a key. -/
def get? (attrs : Attributes) (key : String) : Option String := attrs.lookup key

/-- The first value of a key, empty if there is none. -/
def getD (attrs : Attributes) (key : String) : String := (attrs.get? key).getD ""

/-- Every value of a key, in order. -/
def getAll (attrs : Attributes) (key : String) : List String :=
  (attrs.filter (·.1 == key)).map (·.2)

def contains (attrs : Attributes) (key : String) : Bool := (attrs.get? key).isSome

def require (attrs : Attributes) (key : String) : Except DecodeError String :=
  match attrs.get? key with
  | some value => .ok value
  | none => .error (.missing key)

end Attributes

/-- An integer value, blanks around it left aside. -/
def readInt (key value : String) : Except DecodeError Int :=
  match integerChars? (trimChars value.toList) with
  | some n => .ok n
  | none => .error (.invalid key value)

/-- True or false in any case; nothing but blanks is false. -/
def readBool (key value : String) : Except DecodeError Bool :=
  let v := trim value
  if eqIgnoreAsciiCase v "true" then .ok true
  else if eqIgnoreAsciiCase v "false" || v == "" then .ok false
  else .error (.invalid key value)

def readAsset (value : String) : Except DecodeError Asset := (Asset.parse value).mapError .asset

/-- One coin: an amount and an asset with blanks between them. -/
def readCoin (part : List Char) : Except DecodeError Coin :=
  let invalid := .error (.invalid "coins" (String.ofList part))
  match fields part with
  | [amount, asset] =>
    match integerChars? amount with
    | some n => (readAsset (String.ofList asset)).map (⟨·, n⟩)
    | none => invalid
  | _ => invalid

/-- Coins with commas between them. A part with nothing but blanks counts for nothing. -/
def readCoins (value : String) : Except DecodeError (List Coin) :=
  (((split (· = ',') value.toList).map trimChars).filter (!·.isEmpty)).mapM readCoin

namespace Attributes

/-- A required integer. -/
def int (attrs : Attributes) (key : String) : Except DecodeError Int := do
  readInt key (← attrs.require key)

/-- An integer that is zero if it is absent or empty. -/
def intOrZero (attrs : Attributes) (key : String) : Except DecodeError Int :=
  match attrs.get? key with
  | none | some "" => .ok 0
  | some value => readInt key value

mutual

/-- The attributes that a value under a key amounts to: one for a scalar, one each for the items of
an array, and for an object the attributes of its own members. -/
def flatten (key : String) : Json → Attributes
  | .obj members => flattenMembers members
  | .arr items => flattenItems key items
  | .null => [(key, "")]
  | .str s => [(key, s)]
  | .bool b => [(key, if b then "true" else "false")]
  | .num n => [(key, n.text)]
  | .unreadable => []

def flattenItems (key : String) : List Json → Attributes
  | [] => []
  | j :: rest => flatten key j ++ flattenItems key rest

def flattenMembers : List (String × Json) → Attributes
  | [] => []
  | (key, j) :: rest => flatten key j ++ flattenMembers rest

end

/-- The attributes of an event that is reported as a JSON object, by ascending keys. -/
def ofJson (j : Json) : Attributes :=
  match j.sorted with
  | .obj members => flattenMembers members
  | _ => []

end Attributes

end PoolLedger

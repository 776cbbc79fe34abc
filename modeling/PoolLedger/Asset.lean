import PoolLedger.Text.Blank
import PoolLedger.Text.Quoted

/-!
# Assets

A pooled asset is named by its chain and its symbol, both in upper case. The ticker is the part of
the symbol before its first dash.
-/

namespace PoolLedger

open Text

structure Asset where
  chain : String
  symbol : String
deriving DecidableEq, Repr, Inhabited

inductive AssetError where
  | empty
  | invalid (text : String)
deriving DecidableEq

def AssetError.message : AssetError → String
  | .empty => "empty asset string"
  | .invalid text => "invalid asset string: " ++ quoted text

namespace Asset

/-- Ticker of the settlement asset, against which every pool is paired. -/
def runeTicker : String := "RUNE"

/-- Chain of an asset text that names none. -/
def nativeChain : String := "THOR"

def make (chain symbol : String) : Asset := ⟨upper chain, upper symbol⟩

/-- No asset. -/
def blank : Asset := ⟨"", ""⟩

def rune : Asset := make nativeChain runeTicker

def ticker (a : Asset) : String := String.ofList (a.symbol.toList.takeWhile (· ≠ '-'))

/-- Rune on any chain. -/
def isRune (a : Asset) : Bool := a.ticker == runeTicker

def isEmpty (a : Asset) : Bool := a.symbol == ""

def text (a : Asset) : String := a.chain ++ "." ++ a.symbol

/-- Assets are listed by chain, then by symbol. -/
def before (a b : Asset) : Bool :=
  a.chain < b.chain || (a.chain == b.chain && a.symbol < b.symbol)

/-- Chain and symbol of a text without blanks around it. -/
def parseTrimmed (s : List Char) : Except AssetError Asset :=
  if s.isEmpty then .error .empty
  else
    let invalid := .error (.invalid (String.ofList s))
    if s.any isBlank then invalid
    else
      match split (· = '.') s with
      | [symbol] => .ok (make nativeChain (String.ofList symbol))
      | [chain, symbol] =>
        if chain.isEmpty || symbol.isEmpty then invalid
        else .ok (make (String.ofList chain) (String.ofList symbol))
      | _ => invalid

/-- Reads `CHAIN.SYMBOL` or, for the native chain, `SYMBOL`, in any case. -/
def parse (s : String) : Except AssetError Asset := parseTrimmed (trimChars s.toList)

end Asset

/-- An amount of one asset in its chain's base units. -/
structure Coin where
  asset : Asset
  amount : Int
deriving DecidableEq, Repr

/-- An amount, negative or not, attributed to a pool. -/
structure PoolAmount where
  pool : Asset
  amount : Int
deriving DecidableEq, Repr

end PoolLedger

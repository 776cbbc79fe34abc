import PoolLedger.Node.Lenient
import PoolLedger.Node.Request
import PoolLedger.Node.Timestamp
import PoolLedger.Pipeline.BlockScanner
import PoolLedger.Text.Base64

/-!
# Blocks of a node

What a Tendermint node reports about its blocks. A block takes two requests, one for its time and
one for its events.
-/

namespace PoolLedger.Node

open Json

/-- An event of a block before its attributes are decoded. -/
structure BlockEvent where
  kind : String
  attributes : List (String × String)
deriving DecidableEq

namespace BlockEvent

def attribute? (j : Json) : Option (String × String) := do
  let fields ← fields? ["key", "value"] 0 j
  return (← defaulted lenientString? "" "key" fields, ← defaulted lenientString? "" "value" fields)

def ofJson? (j : Json) : Option BlockEvent := do
  let fields ← fields? ["type", "attributes"] 1 j
  return {
    kind := ← required string? "type" fields
    attributes := ← defaulted (lenientList? attribute?) [] "attributes" fields }

end BlockEvent

/-- The events of a block as a node reports them. -/
structure BlockEvents where
  height : Int
  txs : List (List BlockEvent)
  atBegin : List BlockEvent
  atEnd : List BlockEvent
deriving DecidableEq

def BlockEvents.ofJson? (j : Json) : Option BlockEvents := do
  let events := lenientList? BlockEvent.ofJson?
  let tx (j : Json) : Option (List BlockEvent) := do
    defaulted events [] "events" (← fields? ["events"] 0 j)
  let names := ["height", "txs_results", "begin_block_events", "end_block_events"]
  let fields ← fields? names 1 j
  return {
    height := ← required lenientInt? "height" fields
    txs := ← defaulted (lenientList? tx) [] "txs_results" fields
    atBegin := ← defaulted events [] "begin_block_events" fields
    atEnd := ← defaulted events [] "end_block_events" fields }

/-- Where blocks are asked for, and whether keys and values of attributes are in Base64. -/
structure BlockSource where
  base : Net.Url
  base64 : Bool := true

namespace BlockSource

/-- A key or value of an attribute. -/
def decodeText (source : BlockSource) (s : String) : Except NodeError String :=
  if !source.base64 || s.isEmpty then .ok s
  else
    match Text.Base64.decode? s.toList with
    | none => .error .base64
    | some bytes =>
      match String.fromUTF8? bytes.toByteArray with
      | none => .error .utf8
      | some s => .ok s

def decodeEvent (source : BlockSource) (height : Int) (e : BlockEvent) :
    Except NodeError RawEvent := do
  let attributes ← e.attributes.mapM fun (key, value) => do
    return (← source.decodeText key, ← source.decodeText value)
  return { kind := e.kind, attributes, height }

/-- The block with these events, which must be those of the height that was asked for. -/
def decodeBlock (source : BlockSource) (height time : Int) (b : BlockEvents) :
    Except NodeError Block := do
  if b.height ≠ height then
    throw (.format ("asked for block " ++ toString height ++ ", node returned " ++
      toString b.height))
  let events := fun es => es.mapM (source.decodeEvent height)
  let atBegin ← events b.atBegin
  let txs ← b.txs.mapM events
  return { height, time, atBegin, txs, atEnd := ← events b.atEnd }

/-- The height of the last block. -/
def latestHeight (network : Network ν) (source : BlockSource) : Asking ν Int :=
  ask network source.base "status"
    (field? "result" (field? "sync_info" (field? "latest_block_height" lenientInt?)))

def block (network : Network ν) (source : BlockSource) (height : Int) : Asking ν Block := do
  let query := "?height=" ++ toString height
  let text ← ask network source.base ("block" ++ query)
    (field? "result" (field? "block" (field? "header" (field? "time" string?))))
  match Timestamp.parse? text with
  | none => throw .time
  | some time =>
    let events ← ask network source.base ("block_results" ++ query)
      (field? "result" BlockEvents.ofJson?)
    MonadExcept.ofExcept (source.decodeBlock height time events)

/-- The node as a scanner sees it. -/
def node (network : Network ν) (source : BlockSource) : BlockNode ν where
  latestHeight v :=
    let (r, v) := (source.latestHeight network).run v
    (r.toOption, v)
  block v height :=
    let (r, v) := (source.block network height).run v
    (r.toOption, v)

end BlockSource

end PoolLedger.Node

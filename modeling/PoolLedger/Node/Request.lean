import PoolLedger.Json.Parser
import PoolLedger.Json.Record
import PoolLedger.Net.Url

/-!
# Requests to a node

A request goes to a URL below the base of a node, and its reply is read as JSON. `ask` says which of
the things that can go wrong is reported.
-/

namespace PoolLedger.Node

/-- Why a node did not say what it was asked for. -/
inductive NodeError where
  | unreachable
  | url
  /-- An HTTP status that is an error. -/
  | status (code : Nat)
  /-- The body is not JSON of the expected form. -/
  | body
  | base64
  | utf8
  | time
  | format (text : String)
deriving DecidableEq

def NodeError.message : NodeError → String
  | .unreachable => "the node cannot be reached"
  | .url => "invalid endpoint url"
  | .status code => "the node answered with status " ++ toString code
  | .body => "the answer is not in the expected form"
  | .base64 => "base64 decode error"
  | .utf8 => "attribute is not utf-8"
  | .time => "invalid timestamp"
  | .format text => "unexpected response: " ++ text

inductive Reply where
  | unreachable
  | response (code : Nat) (body : String)

/-- How requests are answered, which may change what is answered later. -/
abbrev Network (ν : Type) := Net.Url → StateM ν Reply

/-- Something that is asked of a node. -/
abbrev Asking (ν : Type) := ExceptT NodeError (StateM ν)

/-- The reply in the form that `read` expects. -/
def Reply.decode (read : Json → Option α) : Reply → Except NodeError α
  | .unreachable => .error .unreachable
  | .response code body =>
    if 400 ≤ code ∧ code < 600 then .error (.status code)
    else
      match (Json.parse? body).bind read with
      | some a => .ok a
      | none => .error .body

/-- Asks for what is found at a path below a base. -/
def ask (network : Network ν) (base : Net.Url) (path : String) (read : Json → Option α) :
    Asking ν α := do
  match base.below? path with
  | none => throw .url
  | some url => MonadExcept.ofExcept ((← network url).decode read)

/-- A field that is all that matters of a record. -/
def field? (name : String) (read : Json → Option α) (j : Json) : Option α := do
  Json.required read name (← Json.fields? [name] 1 j)

end PoolLedger.Node

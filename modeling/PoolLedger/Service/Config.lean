import PoolLedger.Net.Url
import PoolLedger.Text.Case
import PoolLedger.Toml.Parser

/-!
# Configuration

The settings of the service. They come from a text in TOML, and `Config.problem?` says which of them
cannot be worked with.
-/

namespace PoolLedger.Service

open Net

/-- Why the service cannot start. -/
inductive ConfigError where
  /-- There is no file, or it is not text. -/
  | unreadable
  /-- The text is not TOML, or a setting is missing or has the wrong form. -/
  | malformed
  | invalid (problem : String)
  | noDatabase
deriving DecidableEq

def ConfigError.message : ConfigError → String
  | .unreadable => "failed to read config file"
  | .malformed => "failed to parse config file"
  | .invalid problem => "validation error: " ++ problem
  | .noDatabase => "DATABASE_URL environment variable not set"

/-- Where the events of a chain come from: its feed, or the blocks of a node. -/
inductive EventSource where
  | feed
  | blocks
deriving DecidableEq

namespace EventSource

def name : EventSource → String
  | feed => "feed"
  | blocks => "blocks"

def ofName? (s : String) : Option EventSource := [feed, blocks].find? (·.name == s)

end EventSource

structure Config where
  listen : SocketAddress
  maxConnections : Nat
  feedUrl : Url
  blockUrl : Url
  requestTimeoutSecs : Nat
  /-- Whether the attributes of blocks come in Base64. -/
  base64 : Bool
  pollMs : Nat
  retrySecs : Nat
  blockSecs : Nat
  startHeight : Int
  source : EventSource
  refreshSecs : Nat
  /-- The chains that are followed whatever the node says; none to ask the node for them. -/
  chains : List String

namespace Config

/-- Limits of the integers of 32 and 64 bits without sign. -/
def limit32 : Nat := 4294967296

def limit64 : Nat := 18446744073709551616

/-- Where the service listens if nothing else is said: on every interface. -/
def defaultListen : SocketAddress := .v4 ⟨[0, 0, 0, 0]⟩ 8080

def defaultMaxConnections : Nat := 10

def defaultTimeoutSecs : Nat := 10

def defaultPollMs : Nat := 1000

def defaultRetrySecs : Nat := 5

def defaultBlockSecs : Nat := 5

def defaultRefreshSecs : Nat := 60

def address? (t : Toml) : Option SocketAddress := t.text?.bind SocketAddress.parse?

def url? (t : Toml) : Option Url := t.text?.bind Url.parse?

def source? (t : Toml) : Option EventSource := t.case?.bind EventSource.ofName?

/-- The fields of a part of the settings, all of which may be left out. -/
def part? (name : String) (names : List String) (fields : List (String × Toml)) :
    Option (List (String × Toml)) :=
  Toml.defaulted (Toml.fields? names) [] name fields

/-- The settings that a value holds. -/
def ofToml? (t : Toml) : Option Config := do
  let parts ← Toml.fields? ["server", "database", "node", "scanner", "coordinator"] t
  let server ← part? "server" ["listen"] parts
  let database ← part? "database" ["max_connections"] parts
  let nodeNames := ["thornode_url", "tendermint_url", "request_timeout_secs", "base64_attributes"]
  let node ← Toml.required (Toml.fields? nodeNames) "node" parts
  let scannerNames := ["poll_interval_ms", "retry_backoff_secs", "block_interval_secs",
    "start_height"]
  let scanner ← part? "scanner" scannerNames parts
  let coordinatorNames := ["source", "refresh_interval_secs", "static_chains"]
  let coordinator ← part? "coordinator" coordinatorNames parts
  let natural := Toml.below? limit64
  return {
    listen := ← Toml.defaulted address? defaultListen "listen" server
    maxConnections :=
      ← Toml.defaulted (Toml.below? limit32) defaultMaxConnections "max_connections" database
    feedUrl := ← Toml.required url? "thornode_url" node
    blockUrl := ← Toml.required url? "tendermint_url" node
    requestTimeoutSecs := ← Toml.defaulted natural defaultTimeoutSecs "request_timeout_secs" node
    base64 := ← Toml.defaulted Toml.boolean? true "base64_attributes" node
    pollMs := ← Toml.defaulted natural defaultPollMs "poll_interval_ms" scanner
    retrySecs := ← Toml.defaulted natural defaultRetrySecs "retry_backoff_secs" scanner
    blockSecs := ← Toml.defaulted natural defaultBlockSecs "block_interval_secs" scanner
    startHeight := ← Toml.defaulted Toml.integer? 0 "start_height" scanner
    source := ← Toml.defaulted source? .feed "source" coordinator
    refreshSecs :=
      ← Toml.defaulted natural defaultRefreshSecs "refresh_interval_secs" coordinator
    chains := ← Toml.defaulted (Toml.list? Toml.text?) [] "static_chains" coordinator }

/-- What must not be, with what is said about it, in the order in which it is looked for. -/
def problems (c : Config) : List (Bool × String) :=
  [(c.requestTimeoutSecs == 0, "node.request_timeout_secs must be positive"),
    (c.pollMs == 0, "scanner.poll_interval_ms must be positive"),
    (c.retrySecs == 0, "scanner.retry_backoff_secs must be positive"),
    (c.blockSecs == 0, "scanner.block_interval_secs must be positive"),
    (c.refreshSecs == 0, "coordinator.refresh_interval_secs must be positive"),
    (c.startHeight < 0, "scanner.start_height must not be negative"),
    (c.maxConnections == 0, "database.max_connections must be positive"),
    (c.source == .blocks && c.chains.length != 1,
      "the blocks source needs exactly one chain in coordinator.static_chains")]

/-- The first problem of the settings. Two chains that follow the blocks of one node would store
every event twice. -/
def problem? (c : Config) : Option String := (c.problems.find? (·.1)).map (·.2)

/-- The settings of a text, with another address to listen on if there is one. Chains are followed
under their names in upper case. -/
def read (text : String) (listen : Option SocketAddress) : Except ConfigError Config :=
  match (Toml.parse? text).bind ofToml? with
  | none => .error .malformed
  | some c =>
    let c := { c with listen := listen.getD c.listen }
    match c.problem? with
    | some problem => .error (.invalid problem)
    | none => .ok { c with chains := c.chains.map Text.upper }

/-- The settings of a file, of which there may be none. -/
def load (file : Option ByteArray) (listen : Option SocketAddress) : Except ConfigError Config :=
  match file.bind String.fromUTF8? with
  | none => .error .unreadable
  | some text => read text listen

end Config

/-- The address of the database as the environment gives it. -/
def databaseUrl (value : Option String) : Except ConfigError String :=
  value.elim (.error .noDatabase) .ok

end PoolLedger.Service

import PoolLedger.Net.Address

/-!
# Arguments of the command line
-/

namespace PoolLedger.Service

structure Arguments where
  /-- The file with the settings. -/
  config : String := "./pool-ledger.toml"
  /-- An address to listen on in place of the one that is set. -/
  listen : Option Net.SocketAddress := none
  migrate : Bool := false

namespace Arguments

/-- An option takes the argument after it as its value. -/
def readFrom (a : Arguments) : List String → Option Arguments
  | [] => some a
  | "--migrate" :: rest => readFrom { a with migrate := true } rest
  | name :: value :: rest =>
    if name = "--config" ∨ name = "-c" then readFrom { a with config := value } rest
    else if name = "--listen" ∨ name = "-l" then
      (Net.SocketAddress.parse? value).bind fun listen => readFrom { a with listen } rest
    else none
  | [_] => none

def parse? (arguments : List String) : Option Arguments := readFrom {} arguments

def usage : String := "usage: [--config FILE] [--listen ADDRESS] [--migrate]"

end Arguments

end PoolLedger.Service

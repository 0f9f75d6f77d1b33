import TronGateway.Error
import TronGateway.Toml.Document
import TronGateway.Settings.Path
import TronGateway.Settings.Environment
import TronGateway.Settings.Reading
set_option autoImplicit false

/-!
# The settings of the gateway

All settings with their defaults. Only the two addresses of the node have none. The file comes first
and the environment overrides it.
-/

namespace TronGateway

structure ScannerSettings where
  chain : String
  /-- The longest time that a request may take, in seconds. -/
  requestTimeout : UInt64
  contracts : List String
  /-- Where the store lies; none for one that is not kept. -/
  storePath : Option String
  startHeight : Int64
  /-- The time between two beats in seconds. -/
  interval : UInt64
  maxHealthyLag : Int64
  deriving DecidableEq, Repr

structure NodeSettings where
  chain : String
  nodeUrl : String
  rpcUrl : String
  localKey : Option String
  scanner : ScannerSettings
  deriving DecidableEq, Repr

structure BridgeSettings where
  url : String
  /-- The time between two of its blocks in seconds. -/
  blockTime : UInt64
  deriving DecidableEq, Repr

structure Settings where
  node : NodeSettings
  bridge : BridgeSettings
  /-- The time between two checks of an unhealthy scanner in seconds. -/
  checkInterval : UInt64
  deriving DecidableEq, Repr

namespace Settings

def defaultChain : String := "TRON"

def defaultScanner : ScannerSettings := ⟨defaultChain, 30, [], none, 0, 3, 30⟩

def defaultBridge : BridgeSettings := ⟨"http://localhost:1317", 6⟩

def defaultCheckInterval : UInt64 := 60

def readScanner : Reader ScannerSettings := fun tree => do
  let members ← readMembers ["chain_id", "http_request_timeout_secs", "whitelist_tokens",
    "db_path", "start_block_height", "block_interval_secs", "max_healthy_lag"] tree
  let chain ← members.optional "chain_id" readText defaultScanner.chain
  let requestTimeout ← members.optional "http_request_timeout_secs" readUInt64
    defaultScanner.requestTimeout
  let contracts ← members.optional "whitelist_tokens" (readList readText) []
  let storePath ← members.optional "db_path" (readPresent readText) none
  let startHeight ← members.optional "start_block_height" readInt64 0
  let interval ← members.optional "block_interval_secs" readUInt64 defaultScanner.interval
  let maxHealthyLag ← members.optional "max_healthy_lag" readInt64 defaultScanner.maxHealthyLag
  return ⟨chain, requestTimeout, contracts, storePath, startHeight, interval, maxHealthyLag⟩

def readNode : Reader NodeSettings := fun tree => do
  let members ← readMembers ["chain_id", "api_host", "rpc_host", "local_private_key",
    "block_scanner"] tree
  let chain ← members.optional "chain_id" readText defaultChain
  let nodeUrl ← members.required "api_host" readText
  let rpcUrl ← members.required "rpc_host" readText
  let localKey ← members.optional "local_private_key" (readPresent readText) none
  let scanner ← members.optional "block_scanner" readScanner defaultScanner
  return ⟨chain, nodeUrl, rpcUrl, localKey, scanner⟩

def readBridge : Reader BridgeSettings := fun tree => do
  let members ← readMembers ["api_host", "block_time_secs"] tree
  let url ← members.optional "api_host" readText defaultBridge.url
  let blockTime ← members.optional "block_time_secs" readUInt64 defaultBridge.blockTime
  return ⟨url, blockTime⟩

def readCheckInterval : Reader UInt64 := fun tree => do
  let members ← readMembers ["check_interval_secs"] tree
  members.optional "check_interval_secs" readUInt64 defaultCheckInterval

def read : Reader Settings := fun tree => do
  let members ← readMembers ["tron", "bridge", "solvency"] tree
  let node ← members.required "tron" readNode
  let bridge ← members.optional "bridge" readBridge defaultBridge
  let checkInterval ← members.optional "solvency" readCheckInterval defaultCheckInterval
  return ⟨node, bridge, checkInterval⟩

def fileMembers : Option String → Except Error (List (String × Tree))
  | none => .ok []
  | some text =>
    match Toml.read? text with
    | some members => .ok members
    | none => .error .settings

/-- The settings in a file and an environment. An index that counts back beyond the start of a list
is an overflow. -/
def load (file : Option String) (environment : List (String × String)) :
    Except Overflow (Except Error Settings) :=
  match fileMembers file with
  | .error failure => .ok (.error failure)
  | .ok members => do
    let tree ← Path.setAll (members ++ Environment.members environment) (.table [])
    match read tree with
    | some settings => return .ok settings
    | none => return .error .settings

end Settings
end TronGateway

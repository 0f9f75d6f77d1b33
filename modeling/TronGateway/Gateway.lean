import TronGateway.Payment
import TronGateway.Runner
import TronGateway.Node.Service
import TronGateway.Settings.Basic
set_option autoImplicit false

/-!
# The gateway as the protocol chain sees it

Connecting to a chain, the start from settings, and the questions about accounts that take an
address in any spelling or a key.
-/

namespace TronGateway.Gateway

def connect (chain : String) (contracts : List String) : Action (List Token) := do
  if chain = chainName then Whitelist.load contracts
  else throw (.config ("chain id " ++ chain ++ " is not " ++ chainName))

def service (settings : Settings) : Service :=
  ⟨settings.node.nodeUrl, settings.node.rpcUrl, settings.bridge.url⟩

/-- How the settings set up the runner. The cursor is kept under the name of the chain. -/
def runnerSettings (settings : Settings) : Runner.Settings :=
  ⟨chainName, settings.node.scanner.startHeight, settings.node.scanner.maxHealthyLag⟩

def localKey? (settings : Settings) : Except Error (Option Curve.SecretKey) :=
  match settings.node.localKey with
  | none => .ok none
  | some text => (Signer.localKey text).map some

/-- Starts from settings: with the key first and the chain after it. There is no threshold signing
service. -/
def start (settings : Settings) : Action Payment.Payer := do
  let key ← localKey? settings
  let tokens ← connect settings.node.chain settings.node.scanner.contracts
  return ⟨tokens, ⟨key, false, false⟩⟩

def account (tokens : List Token) (address : String) : Action (List Coin) := do
  let address ← Address.toBase58 address
  Scanner.accountCoins tokens address

def accountOfKey (tokens : List Token) (pubKey : String) : Action (List Coin) := do
  let address ← KeyText.address pubKey
  Scanner.accountCoins tokens address

/-- How many further blocks an inbound transfer waits for: scanned blocks are final already. -/
def confirmationCount : Int64 := 0

def isConfirmed : Bool := true

end TronGateway.Gateway

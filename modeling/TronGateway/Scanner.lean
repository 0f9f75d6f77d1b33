import TronGateway.Ingest
import TronGateway.Fee
import TronGateway.SolvencyCheck
set_option autoImplicit false

/-!
# The scanner

What the gateway does with a block: it collects the inbound transfers, keeps every 25th block as a
candidate for references, refreshes the fee every 30 blocks and looks at solvency every 10. Only the
block itself is needed; what goes wrong with a transaction, the fee or a vault does not stop the
scan.
-/

namespace TronGateway.Scanner

/-- How far behind the tip a block is final. -/
def confirmations : Int64 := 19

def candidateInterval : Int64 := 25

def feeInterval : Int64 := 30

def height : Action Int64 := do
  let tip ← Action.node .latestBlock
  let final ← Action.check (Checked.sub tip.height confirmations)
  return max final 0

def tokenBalance (address : String) (token : Token) : Action Coin := do
  let call ← Abi.encodeBalanceOf address
  let contract ← Address.toContractHex token.contract
  let answer ← Whitelist.callContract contract ("0x" ++ Hex.encode call)
  let amount ← Abi.decodeAmountAnswer answer
  return Ingest.tokenCoin token amount

def tokenBalances (address : String) : List Token → Action (List Coin)
  | [] => return []
  | token :: rest => do
    let coin ← tokenBalance address token
    let coins ← tokenBalances address rest
    return coin :: coins

def accountCoins (tokens : List Token) (address : String) : Action (List Coin) := do
  let balance ← Action.node (.balance address)
  let coins ← tokenBalances address tokens
  return Coin.ofTrx (Amount.ofSun (Amount.ofUInt64 balance)) :: coins

/-- Looks at a vault; none when its key or its account cannot be read. -/
def inspect (tokens : List Token) (fee : Amount) (vault : Vault) :
    Activity (Option SolvencyCheck.Finding) := do
  match KeyText.address vault.pubKey with
  | .error _ => return none
  | .ok address =>
    match ← (accountCoins tokens address).attempt with
    | .error _ => return none
    | .ok coins =>
      let solvent ← Program.check (SolvencyCheck.isSolvent coins vault fee)
      return some ⟨vault.pubKey, coins, solvent⟩

def inspectAll (tokens : List Token) (fee : Amount) :
    List Vault → Activity (List SolvencyCheck.Finding)
  | [] => return []
  | vault :: rest => do
    let finding ← inspect tokens fee vault
    let findings ← inspectAll tokens fee rest
    return finding.toList ++ findings

/-- At this height, right behind the last scanned one, an unhealthy scanner stays silent. -/
def isSilent (memory : Memory) (height : Int64) : Except Overflow Bool :=
  if memory.healthy then .ok false
  else (Checked.add memory.previousHeight 1).map fun next => height = next

def reportVaults (tokens : List Token) (memory : Memory) (height : Int64) : Action Unit := do
  let fee := Amount.ofSun (Amount.ofUInt64 memory.currentFee)
  let vaults ← Action.bridge .vaults
  let findings ← ExceptT.lift (inspectAll tokens fee vaults)
  ExceptT.lift
    (SolvencyCheck.offerAll (SolvencyCheck.reports height findings memory.healthy))

/-- Reports solvency at a height at which it is due. -/
def reportSolvency (tokens : List Token) (height : Int64) : Action Unit := do
  if SolvencyCheck.isDue height then
    let memory ← Action.memory
    if ← Action.check (isSilent memory height) then return ()
    else reportVaults tokens memory height
  else return ()

/-! ### Blocks -/

def keepCandidate (block : Block) (height : Int64) : Activity Unit :=
  if height % candidateInterval = 0 then
    Activity.remember (.candidate ⟨block.timestamp, height, block.id⟩)
  else return ()

/-- Refreshes the fee when the height is one for that, whatever comes of it. -/
def refreshFee (tokens : List Token) (height : Int64) : Activity Unit := do
  if height % feeInterval = 0 then
    let _ ← (Fee.update tokens height).attempt
    return ()
  else return ()

def scan (tokens : List Token) (height : Int64) (block : Block) : Activity BlockReport := do
  let transfers ← Ingest.transfers tokens height block.transactions
  keepCandidate block height
  refreshFee tokens height
  let _ ← (reportSolvency tokens height).attempt
  Activity.remember (.scanned height)
  return ⟨chainName, transfers, false, false⟩

def fetch (tokens : List Token) (height : Int64) : Action BlockReport := do
  let block ← Action.node (.block height)
  ExceptT.lift (scan tokens height block)

/-! ### While the scanner is unhealthy -/

/-- One round of the activity that reports solvency while the scanner is unhealthy, unless the
protocol chain has switched it off. It reports for the last final height at which that is due. -/
def recheck (tokens : List Token) : Activity Unit := do
  let memory ← Activity.memory
  if memory.healthy then return ()
  else
    match ← Activity.query (.bridge (.setting SolvencyCheck.stopKey)) with
    | .error _ => return ()
    | .ok setting =>
      if 0 < setting then return ()
      else
        match ← height.attempt with
        | .error _ => return ()
        | .ok final =>
          let due ← Program.check
            (Checked.signed .subtract (final.toInt - final.toInt % SolvencyCheck.interval.toInt))
          let _ ← (reportSolvency tokens due).attempt
          return ()

def watch (tokens : List Token) : Activity Wake := do
  match ← Activity.query (.wait .beat) with
  | .stopped => return .stopped
  | .elapsed =>
    recheck tokens
    return .elapsed

def watchFor {World : Type}
    (answer : (question : Question) → World → Option question.Answer × World)
    (tokens : List Token) : Nat → World → Outcome Unit × World
  | 0, world => (.finished (), world)
  | fuel + 1, world =>
    match (watch tokens).run answer world with
    | (.finished .elapsed, world) => watchFor answer tokens fuel world
    | (.finished .stopped, world) => (.finished (), world)
    | (.overflowed overflow, world) => (.overflowed overflow, world)
    | (.stalled, world) => (.stalled, world)

end TronGateway.Scanner

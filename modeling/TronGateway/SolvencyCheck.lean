import TronGateway.Vault
import TronGateway.Action
set_option autoImplicit false

/-!
# Solvency

A vault is solvent when its account holds what it owes: of every asset the coins of the vault and
those of payments under way, and of TRX the fee of a transaction too. An insolvent vault is reported
always. That every vault is solvent is reported only while the scanner is unhealthy, so that the
protocol chain can resume the chain.
-/

namespace TronGateway.SolvencyCheck

def interval : Int64 := 10

def isDue (height : Int64) : Bool :=
  height % interval = 0

/-- The setting of the protocol chain that switches the checks off while it is positive. -/
def stopKey : String := "StopSolvencyCheck-" ++ chainName

/-- The different assets of a list of coins, each where it first occurs. -/
def assetsFrom (found : List Asset) : List Coin → List Asset
  | [] => found
  | coin :: rest =>
    assetsFrom (if found.contains coin.asset then found else found ++ [coin.asset]) rest

def owedAssets (vault : Vault) : List Asset :=
  assetsFrom [] (vault.coins ++ vault.pendingOutbound)

/-- What a vault owes of an asset; a sum beyond the largest amount is the largest amount. -/
def owed (vault : Vault) (fee : Amount) (asset : Asset) : Except Overflow Amount := do
  let held ← Coin.total vault.coins asset
  let pending ← Coin.total vault.pendingOutbound asset
  let committed := held.saturatingAdd pending
  return if asset.isGas then committed.saturatingAdd fee else committed

def covers (account : List Coin) (vault : Vault) (fee : Amount) (asset : Asset) :
    Except Overflow Bool := do
  let required ← owed vault fee asset
  let present ← Coin.total account asset
  return required.units ≤ present.units

/-- The account covers what the vault owes of each asset; the first that is not covered decides. -/
def coversAll (account : List Coin) (vault : Vault) (fee : Amount) :
    List Asset → Except Overflow Bool
  | [] => .ok true
  | asset :: rest => do
    if ← covers account vault fee asset then coversAll account vault fee rest else return false

def isSolvent (account : List Coin) (vault : Vault) (fee : Amount) : Except Overflow Bool :=
  coversAll account vault fee (owedAssets vault)

structure Finding where
  pubKey : String
  coins : List Coin
  solvent : Bool
  deriving DecidableEq

def Finding.toReport (height : Int64) (finding : Finding) : Solvency :=
  ⟨height, chainName, finding.pubKey, finding.coins, finding.solvent⟩

/-- What is reported: every vault when all are solvent and the scanner is unhealthy, else the
insolvent ones. -/
def reports (height : Int64) (findings : List Finding) (healthy : Bool) : List Solvency :=
  let resumes := !healthy && findings.all Finding.solvent
  (findings.filter fun finding => resumes || !finding.solvent).map (Finding.toReport height)

/-- Offers each report once; one that finds no room in time is dropped. -/
def offerAll : List Solvency → Activity Unit
  | [] => return ()
  | report :: rest => do
    let _ ← Activity.query (.offerSolvency report)
    offerAll rest

end TronGateway.SolvencyCheck

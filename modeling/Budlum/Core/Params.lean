import Budlum.Lib.Machine

/-!
# Network and tokenomics parameters

The constants and schedules that transaction execution reads: the network of a
chain id, team vesting, the fee burn, and the timed burn of the reserve.
-/

namespace Budlum

open Machine

def fixedPointScale : ℕ := 1000000

inductive Network
  | mainnet
  | testnet
  | devnet
deriving DecidableEq, Repr

namespace Network

def chainId : Network → ℕ
  | .mainnet => 45260
  | .testnet => 45261
  | .devnet => 45262

def fromChainId (id : ℕ) : Option Network :=
  if id = 45260 then some .mainnet
  else if id = 45261 then some .testnet
  else if id = 45262 then some .devnet
  else none

def minStake : Network → ℕ
  | .mainnet => 1000000
  | .testnet => 10000
  | .devnet => 1000

def epochLen : Network → ℕ
  | .mainnet => 100
  | .testnet => 50
  | .devnet => 10

/-- The checkpoint interval of `Network::consensus_params`. -/
def finalityCheckpointInterval : Network → ℕ
  | .mainnet => 10
  | .testnet => 5
  | .devnet => 2

end Network

def epochLenForChainId (chainId : ℕ) : ℕ :=
  ((Network.fromChainId chainId).map Network.epochLen).getD 100

def finalityCheckpointIntervalForChainId (chainId : ℕ) : ℕ :=
  ((Network.fromChainId chainId).map Network.finalityCheckpointInterval).getD 10

structure VestingSchedule where
  total : ℕ
  startEpoch : ℕ
  cliffEpochs : ℕ
  durationEpochs : ℕ
deriving DecidableEq, Repr

namespace VestingSchedule

def unlockedAt (v : VestingSchedule) (epoch : ℕ) : ℕ :=
  if v.durationEpochs = 0 then v.total
  else if epoch < satAdd u64Max v.startEpoch v.cliffEpochs then 0
  else
    let elapsed := epoch - v.startEpoch
    if elapsed ≥ v.durationEpochs then v.total
    else v.total * elapsed / v.durationEpochs % (u64Max + 1)

def lockedAt (v : VestingSchedule) (epoch : ℕ) : ℕ := v.total - v.unlockedAt epoch

end VestingSchedule

/-- The fields of `TokenomicsParams` that execution reads. -/
structure TokenomicsParams where
  burnReserve : ℕ
  epochsPerYear : ℕ
  annualBurnRatioFixed : ℕ
  txFeeBurnRatioFixed : ℕ
  slotDurationSecs : ℕ
  epochLengthSlots : ℕ
  blockReward : ℕ
deriving DecidableEq, Repr

namespace TokenomicsParams

def default : TokenomicsParams :=
  { burnReserve := 40000000 * 1000000
    epochsPerYear := 1000
    annualBurnRatioFixed := fixedPointScale / 10
    txFeeBurnRatioFixed := fixedPointScale / 100
    slotDurationSecs := 10
    epochLengthSlots := 32
    blockReward := 50 }

def secondsPerEpoch (p : TokenomicsParams) : ℕ :=
  satMul u64Max (max p.slotDurationSecs 1) (max p.epochLengthSlots 1)

def secondsPerYear (p : TokenomicsParams) : ℕ :=
  satMul u64Max (max p.epochsPerYear 1) p.secondsPerEpoch

def annualBurnAmount (p : TokenomicsParams) : ℕ :=
  p.burnReserve * p.annualBurnRatioFixed / fixedPointScale % (u64Max + 1)

def metabolicBurn (p : TokenomicsParams) (fee : ℕ) : ℕ :=
  fee * p.txFeeBurnRatioFixed / fixedPointScale % (u64Max + 1)

end TokenomicsParams

structure TimedBurnState where
  yearsBurned : ℕ
  totalBurned : ℕ
deriving DecidableEq, Repr

/-- `due_years`: whole years between the two epochs. `due_years_by_time` is the
same function of seconds. -/
def TimedBurnState.dueYears (genesis current perYear : ℕ) : ℕ :=
  if perYear = 0 then 0 else (current - genesis) / perYear

end Budlum

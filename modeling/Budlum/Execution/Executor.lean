import Budlum.Execution.Effects

/-!
# The transaction executor

`Executor::apply_transaction_checked`, one definition for each arm of its match,
under the name of the transaction type, and `apply_block_checked`. A check that
fails after a write leaves the write behind, as in the source.
-/

namespace Budlum.Executor

open Machine Exec AccountState MarketplaceRegistry NftRegistry

variable {T : ModuleTypes} (M : Modules T) (tx : Transaction T)

/-- The number that `bytes` write in little-endian order (`from_le_bytes`). -/
def leNat (bytes : Bytes) : ℕ := bytes.foldr (fun b n => b.toNat + 256 * n) 0

def minStake : ℕ := ((Network.fromChainId tx.chainId).map Network.minStake).getD 1

/-- The shape of a transaction that carries nothing but its type. -/
def IsBare : Prop := tx.amount = 0 ∧ tx.recipient = .zero ∧ tx.data = []

instance : Decidable (IsBare tx) := inferInstanceAs (Decidable (_ ∧ _ ∧ _))

def privacyTransfersEnabled (chainId : ℕ) : Bool := chainId != Network.mainnet.chainId

/-- `ai_execution_backend_allowed`: the backend names Plonky3. -/
def aiExecutionBackendAllowed (backend : String) : Bool :=
  backend.toList.tails.any fun rest => "Plonky3".toList.isPrefixOf rest

/-! ## Transfers, stake and votes -/

def applyTransfer : Effect T Unit := do
  let spendable ← read fun s => s.spendableBalance tx.sender
  failIf (spendable < tx.totalCost) (validation "vesting_locked"
    s!"Transfer exceeds spendable balance: have {spendable}, need {tx.totalCost}")
  debit tx.sender tx.totalCost "balance underflow"
  credit tx.recipient tx.amount (validation "balance_overflow"
    "Receiver balance overflow: transfer would exceed u64::MAX")

def setValidator (a : Address) (v : Validator) : Effect T Unit :=
  modify fun s => { s with validators := s.validators.insert a v }

/-- A validator with a new stake, active only if the stake and its keys suffice. -/
def restaked (v : Validator) (stake : ℕ) : Validator :=
  { v with stake, active := decide (minStake tx ≤ stake) && v.isConsensusReady }

/-- Add the amount to the sender's stake, or make the sender a validator. -/
def bondStake (current : Option Validator) : Effect T Unit :=
  match current with
  | some v => do
      let stake ← ofOption (validation "stake_overflow" "stake overflow")
        (checkedAdd u64Max v.stake tx.amount)
      setValidator tx.sender (restaked tx v stake)
  | none => do
      modify fun s => s.addValidator M tx.sender tx.amount
      setValidator tx.sender (restaked tx (Validator.new tx.sender tx.amount) tx.amount)

def applyStake : Effect T Unit := do
  debit tx.sender tx.totalCost "balance underflow"
  let current ← read fun s => s.getValidator tx.sender
  bondStake M tx current
  modify fun s => s.syncValidatorRegistration M tx.sender

def rekeyed (v : Validator) (registration : ConsensusKeyRegistration) : Validator :=
  let v := { v with
    vrfPublicKey := registration.vrfPublicKey
    blsPublicKey := registration.blsPublicKey
    popSignature := registration.popSignature
    pqPublicKey := registration.pqPublicKey }
  { v with active := decide (minStake tx ≤ v.stake) && v.isConsensusReady &&
      v.verifyPopIsValid M tx.chainId }

def applyRegisterConsensusKeys (registration : ConsensusKeyRegistration) : Effect T Unit := do
  failIf (¬ IsBare tx) (validation "consensus_key_registration_shape"
    "Consensus key registration requires zero amount/recipient and empty data")
  ofExcept (validation "invalid_consensus_keys")
    (M.validateKeys registration tx.sender tx.chainId)
  let v ← ofOption
    (validation "validator_not_bonded" "Stake must be bonded before consensus keys are registered")
    (← read fun s => s.getValidator tx.sender)
  failIf (v.active = true) (validation "active_validator_key_rotation_forbidden"
    "Active validator keys cannot change mid-epoch; unbond before replacement")
  setValidator tx.sender (rekeyed M tx v registration)
  chargeFee tx "Consensus key registration fee underflow"

def applyLubotOperatorBond : Effect T Unit := do
  let s ← read id
  let required := s.requiredLubotBond M tx.chainId
  failIf (tx.amount < required) (validation "lubot_operator_bond_below_floor"
    s!"Lubot operator bond {tx.amount} is below network validator floor {required}")
  failIf (tx.recipient ≠ .zero ∨ tx.data ≠ []) (validation "lubot_operator_bond_shape"
    "Lubot operator bond requires zero recipient and empty data")
  failIf (s.spendableBalance tx.sender < tx.totalCost)
    (validation "lubot_operator_bond_vesting_locked"
      "Lubot operator bond exceeds spendable balance")
  let _ ← mapError
    (fun e => validation "lubot_operator_bond_failed" (M.registryErrorText e))
    (bondLubotOperator M tx.sender tx.amount tx.chainId)
  -- the outcome of the verifier lock is dropped
  let _ ← (attempt (onAi "" (M.lockVerifierStake tx.sender M.minVerifierStake)) :
    Effect T (Except BudlumError Unit))
  chargeFee tx "Lubot bond fee underflow"

def applyLubotOperatorUnbond : Effect T Unit := do
  failIf (¬ IsBare tx) (validation "lubot_operator_unbond_shape"
    "Lubot unbond requires zero amount/recipient and empty data")
  let _ ← mapError (validation "lubot_operator_unbond_failed")
    (beginLubotOperatorUnbonding M tx.sender)
  chargeFee tx "Lubot unbond fee underflow"

def applyLubotOperatorWithdraw : Effect T Unit := do
  failIf (¬ IsBare tx) (validation "lubot_operator_withdraw_shape"
    "Lubot withdrawal requires zero amount/recipient and empty data")
  let _ ← mapError (validation "lubot_operator_withdraw_failed")
    (withdrawLubotOperator M tx.sender tx.fee)
  pure ()

def applyUnstake : Effect T Unit := do
  let v ← ofOption (validation "not_validator" "Not a validator")
    (← read fun s => s.getValidator tx.sender)
  failIf (v.stake < tx.amount) (validation "insufficient_stake" "Insufficient stake")
  modify fun s =>
    { s with governance := M.reduceActiveVoteWeight s.governance tx.sender tx.amount }
  let stake ← ofOption (validation "stake_underflow" "stake underflow")
    (checkedSub v.stake tx.amount)
  setValidator tx.sender { v with stake, active := v.active && stake != 0 }
  modify fun s =>
    { s with unbondingQueue := s.unbondingQueue ++
        [{ address := tx.sender, amount := tx.amount,
           releaseEpoch := satAdd u64Max s.epochIndex (M.registryParams s.registry).unbondingEpochs }] }
  modify fun s => s.syncValidatorRegistration M tx.sender
  chargeFee tx "balance underflow"

def countVote (v : Validator) : Validator :=
  if tx.amount > 0 then { v with votesFor := v.votesFor + 1 }
  else { v with votesAgainst := v.votesAgainst + 1 }

/-- A vote on a governance proposal: one flag byte and the proposal id. -/
def applyProposalVote : Effect T Unit := do
  let s ← read id
  let voterStake := ((s.getValidator tx.sender).map Validator.stake).getD 0
  failIf (voterStake = 0) (validation "governance_voter_not_validator"
    "Only validators can vote in governance")
  let proposalId := leNat ((tx.data.drop 1).take 8)
  if M.hasProposal s.governance proposalId then
    onGovernance "governance_vote_failed"
      (M.addVote proposalId tx.sender voterStake (tx.data.head? != some 0) s.epochIndex)
  else pure ()

/-- A new governance proposal: its duration and its JSON. -/
def applyNewProposal : Effect T Unit := do
  let s ← read id
  let proposal ← ofExcept (validation "governance_proposal_invalid")
    (M.decodeProposalType (tx.data.drop 8))
  let proposerStake := ((s.getValidator tx.sender).map Validator.stake).getD 0
  failIf (proposerStake = 0) (validation "governance_proposer_not_validator"
    "Only active validators can create proposals")
  onGovernance "governance_proposal_creation_failed"
    (M.createProposal tx.sender proposal s.epochIndex (leNat (tx.data.take 8)))

/-- What a vote does once its fee is paid. -/
def castVote : Effect T Unit := do
  if tx.recipient ≠ .zero then
    match (← read fun s => s.getValidator tx.recipient) with
    | some v => setValidator tx.recipient (countVote tx v)
    | none => pure ()
  else if tx.data.length < 9 then pure ()
  else if tx.data.length = 9 then applyProposalVote M tx
  else applyNewProposal M tx

def applyVote : Effect T Unit := do
  let required ← read fun s => s.requiredGovernanceProposalFee M tx.sender
  failIf (9 < tx.data.length ∧ tx.fee < required)
    (validation "governance_proposal_fee_too_low"
      s!"Governance proposal fee {tx.fee} is below escalating requirement {required}")
  debit tx.sender tx.fee "balance underflow"
  castVote M tx

/-! ## Contract calls -/

/-- The inference request that the events of a contract call ask for. -/
def contractRequest (s : AccountState T) (modelWord maxFee blocks : ℕ) : AiInferenceRequest T :=
  let req : AiInferenceRequest T :=
    { requestId := .zero, requester := tx.sender,
      modelId := ⟨u64LeBytes modelWord ++ List.replicate 24 0⟩,
      inputCommitment := M.signingHash tx, inputRef := (M.boundedInput tx.data).getD [], maxFee,
      callback := some tx.sender, submittedAtBlock := s.currentBlockHeight,
      deadlineBlock := satAdd u64Max s.currentBlockHeight blocks, effort := M.defaultEffort,
      perception := none }
  { req with requestId := M.requestIdOf req }

/-- Consume the grant that the read gate asked for, if it asked for one. -/
def consumeGrant (grant : Option Id32) (currentBlock : ℕ) : Effect T Unit :=
  match grant with
  | some grantId =>
    onMarketplace "ai_data_access_denied"
      (consumeAiReadGrant grantId tx.sender currentBlock)
  | none => pure ()

/-- The checks a request passes before it reaches the registry. -/
def admitRequest (req : AiInferenceRequest T) : Effect T (Option Id32) := do
  let s ← read id
  ofExcept (validation "ai_perception_rejected")
    (M.admitInferenceRequest s.aiRegistry req)
  onMarketplace "ai_data_access_denied"
    (validateAiReadRef req.inputRef tx.sender s.currentBlockHeight)

/-- Consume the grant and take the escrow off the sender. -/
def takeEscrow (grant : Option Id32) (maxFee currentBlock : ℕ) : Effect T Unit := do
  consumeGrant tx grant currentBlock
  let account ← getOrCreate tx.sender
  let balance ← ofOption (validation "balance_underflow" "balance underflow")
    (checkedSub account.balance maxFee)
  writeAccount tx.sender { account with balance }

/-- The escrow of an inference request made by a contract. A request that the
registry refuses is dropped, and nothing is escrowed. -/
def escrowRequest (modelWord maxFee blocks : ℕ) : Effect T Unit := do
  let s ← read id
  let req := contractRequest M tx s modelWord maxFee blocks
  let grant ← admitRequest M tx req
  let available ← read fun s => s.spendableBalance tx.sender
  failIf (available < maxFee) (validation "ai_insufficient_balance_for_escrow"
    s!"Insufficient balance for max_fee escrow: have {available}, need {maxFee}")
  match (← attempt (onAi "" (M.submitRequest req s.currentBlockHeight) : Effect T Unit)) with
  | .ok () => takeEscrow tx grant maxFee s.currentBlockHeight
  | .error _ => pure ()

/-- The inference request that the events of a contract call open with, if any. -/
def handleEvents (events : List ℕ) : Effect T Unit :=
  match events with
  | tag :: modelWord :: maxFee :: blocks :: _ =>
    if tag = 0x00A100A1 then escrowRequest M tx modelWord maxFee blocks else pure ()
  | _ => pure ()

def applyContractCall : Effect T Unit := do
  let events ← ofExcept (validation "contract_execution_failed") (M.executeBytecode tx.data)
  handleEvents M tx events
  chargeFee tx "balance underflow"

/-! ## Names and NFTs -/

def applyBnsRegister : Effect T Unit := do
  let args ← ofExcept (validation "bns_invalid_data") (M.decodeBnsRegister tx.data)
  let s ← read id
  let cost := s.bnsRegistry.calculateCost args.1 args.2
  failIf (tx.amount < cost) (validation "bns_insufficient_payment"
    s!"Required: {cost}, provided: {tx.amount}")
  onBns "bns_registration_failed"
    (BnsRegistry.register args.1 tx.sender s.epochIndex args.2)
  let sender ← getOrCreate tx.sender
  let afterFee ← ofOption
    (validation "balance_underflow" "balance underflow on fee deduction")
    (checkedSub sender.balance tx.fee)
  let balance ← ofOption
    (validation "balance_underflow" "balance underflow on cost deduction")
    (checkedSub afterFee cost)
  writeAccount tx.sender
    { sender with balance, nonce := satAdd u64Max sender.nonce 1 }

def applyBnsSetContent : Effect T Unit := do
  let args ← ofExcept (validation "bns_invalid_data") (M.decodeBnsSetContent tx.data)
  onBns "bns_set_content_failed" (BnsRegistry.setContent args.1 tx.sender args.2)
  chargeFee tx "balance underflow"

def applyBnsRegisterSubdomain : Effect T Unit := do
  let args ← ofExcept (validation "bns_invalid_data") (M.decodeBnsSubdomain tx.data)
  onBns "bns_subdomain_failed"
    (BnsRegistry.registerSubdomain args.1 args.2.1 args.2.2 tx.sender)
  chargeFee tx "balance underflow"

def applyBnsSetStorage : Effect T Unit := do
  let args ← ofExcept (validation "bns_invalid_data") (M.decodeBnsSetStorage tx.data)
  let epoch ← read epochIndex
  onBns "bns_set_storage_failed"
    (BnsRegistry.setStorage args.1 tx.sender args.2.1 args.2.2 epoch)
  chargeFee tx "balance underflow"

def applyNftMint : Effect T Unit := do
  let args ← ofExcept (validation "nft_invalid_data") (M.decodeNftMint tx.data)
  let epoch ← read epochIndex
  let _ ← onNft "nft_mint_refused" (mint tx.sender args.1 epoch args.2)
  chargeFee tx "balance underflow"

def applyNftTransfer : Effect T Unit := do
  let args ← ofExcept (validation "nft_invalid_data") (M.decodeNftTransfer tx.data)
  onNft "nft_transfer_failed" (transfer args.1 tx.sender args.2)
  chargeFee tx "balance underflow"

def applyNftBurn : Effect T Unit := do
  let id ← ofExcept (validation "nft_invalid_data") (M.decodeNftBurn tx.data)
  let _ ← onNft "nft_burn_failed" (burn id tx.sender)
  chargeFee tx "balance underflow"

/-- The storage operators' share, the creator's and the protocol's of a boost. -/
def budShare (amount : ℕ) : ℕ := amount * 4 / 100
def creatorShare (amount : ℕ) : ℕ := amount * 16 / 100
def protocolShare (amount : ℕ) : ℕ := amount - budShare amount - creatorShare amount

/-- The treasury's credit, skipped when no burn reserve is set. -/
def creditTreasury (amount : ℕ) : Effect T Unit := do
  match (← read burnReserveAddress) with
  | some treasury =>
    if protocolShare amount > 0 then
      credit treasury (protocolShare amount)
        (validation "balance_overflow" "Protocol treasury share overflow")
    else pure ()
  | none => pure ()

def payBoostShares (owner : Address) (amount : ℕ) : Effect T Unit := do
  credit owner (creatorShare amount)
    (validation "balance_overflow" "NFT boost creator share overflow")
  let current ← read pendingBudBoostShare
  let pending ← ofOption
    (validation "pending_share_overflow" "pending bud boost share overflow")
    (checkedAdd u64Max current (budShare amount))
  modify fun s => { s with pendingBudBoostShare := pending }
  creditTreasury amount

def applyNftBoost (nftId amount : ℕ) : Effect T Unit := do
  -- below this bound the shares cannot overflow and sum to at most the amount
  failIf (u64Max / 100 < amount) (validation "boost_amount_too_large"
    s!"Boost amount {amount} exceeds safe maximum {u64Max / 100}")
  let nft ← ofOption (validation "nft_not_found" "NFT not found")
    (← read fun s => s.nftRegistry.getNft nftId)
  let booster ← getOrCreate tx.sender
  let cost ← ofOption (validation "cost_overflow" "boost cost overflow")
    (checkedAdd u64Max amount tx.fee)
  failIf (booster.balance < cost) (validation "insufficient_funds" "Cannot afford boost")
  writeAccount tx.sender
    { booster with balance := booster.balance - amount - tx.fee,
                   nonce := satAdd u64Max booster.nonce 1 }
  payBoostShares nft.owner amount

def applyNftUpdateLight (nftId : ℕ) (deltaMcd : ℤ) : Effect T Unit := do
  let nft ← ofOption (validation "nft_not_found" "NFT not found")
    (← read fun s => s.nftRegistry.getNft nftId)
  failIf (nft.owner ≠ tx.sender)
    (validation "not_owner" "Only the NFT owner can update luminance")
  onNft "luminance_update" (updateLuminance nftId deltaMcd)
  chargeFee tx "balance underflow"

def applyNftTag : Effect T Unit := chargeFee tx "balance underflow"

/-! ## Relays -/

def applyUniversalRelay : Effect T Unit := chargeFee tx "balance underflow"

/-- `MerkleProof::verify`. -/
def verifyMerkleProof (proof : MerkleProof) (expectedRoot : Hash32) : Bool :=
  let node := fun left right => M.hashFields [strBytes "BDLM_MERKLE_NODE_V1", left, right]
  let (hash, _) := proof.siblings.foldl
    (fun (acc : Hash32 × ℕ) sibling =>
      (if acc.2 % 2 = 0 then node acc.1 sibling else node sibling acc.1, acc.2 / 2))
    (proof.leaf, proof.index)
  hash == expectedRoot

/-- The proof that an external result lies under an anchored root. -/
def checkReceipt (res : RelayerExternalResult) : Effect T Unit := do
  failIf (res.receiptProof = [])
    (validation "relayer_invalid_proof" "Receipt proof cannot be empty")
  failIf (res.externalStateRoot = List.replicate 32 0)
    (validation "relayer_zero_root" "External state root cannot be zero")
  let anchor ← read fun s => s.externalRoots.get? res.domainId
  failIf (anchor ≠ some res.externalStateRoot) (validation "relayer_unanchored_root"
    "external state root has no finalized light-client anchor")
  let proof ← ofExcept (validation "relayer_proof_malformed")
    (M.decodeMerkleProof res.receiptProof)
  failIf (proof.leaf ≠ M.resultLeaf res) (validation "relayer_leaf_mismatch"
    "Proof leaf does not match the declared result facts")
  failIf (verifyMerkleProof M proof res.externalStateRoot = false)
    (validation "relayer_proof_invalid"
      "Merkle proof does not anchor to the declared external state root")

/-- `try_add_balance`, its error under `code`. -/
def creditBridge (a : Address) (amount : ℕ) (code : String) : Effect T Unit :=
  mapError (validation code) (tryAddBalance a amount)

/-- The relayer's fee of a bridge credit, if there is one. -/
def creditRelayer (fee : ℕ) (code : String) : Effect T Unit :=
  if fee > 0 then creditBridge tx.sender fee code else pure ()

/-- The fee split of an inbound transfer under the current parameters. -/
def splitFee (s : AccountState T) (amount : ℕ) : Except String (ℕ × ℕ) :=
  let params := M.registryParams s.registry
  splitBridgeFee amount params.bridgeRelayerFeePpm params.bridgeRelayerMinFee

/-- An external lock: mint the transfer here, pay its recipient and the relayer. -/
def relayMint (msg : CrossDomainMessage) : Effect T Unit := do
  onBridge "bridge_mint_failed" (BridgeState.mint M.hashFields msg)
  let s ← read id
  let transfer ← ofOption
    (validation "bridge_mint_failed" "Failed to retrieve transfer after mint")
    (s.bridgeState.getTransfer msg.messageId)
  let split ← ofExcept (validation "bridge_fee_below_minimum") (splitFee M s transfer.amount)
  failIf (u64Max < split.1) (validation "bridge_mint_failed"
    "Bridge amount exceeds maximum representable balance")
  failIf (u64Max < split.2) (validation "bridge_mint_failed"
    "Bridge fee exceeds maximum representable balance")
  creditBridge transfer.recipient split.1 "bridge_mint_overflow"
  creditRelayer tx split.2 "bridge_fee_overflow"

/-- An external burn: unlock the transfer it names, refund its owner and pay the
relayer. The fee is not bounded here, and its `u64` cast truncates. -/
def relayUnlock (msg : CrossDomainMessage) : Effect T Unit := do
  let transferId ← ofOption
    (validation "bridge_unlock_failed" "Bridge burn message missing correlation_id")
    msg.correlationId
  let transfer ← ofOption
    (validation "bridge_unlock_failed" "Unknown bridge transfer for unlock")
    (← read fun s => s.bridgeState.getTransfer transferId)
  onBridge "bridge_unlock_failed" (BridgeState.unlock transferId msg.sourceDomain)
  let s ← read id
  let split ← ofExcept (validation "bridge_fee_below_minimum") (splitFee M s transfer.amount)
  failIf (u64Max < split.1) (validation "bridge_unlock_failed"
    "Unlock amount exceeds maximum representable balance")
  creditBridge transfer.owner split.1 "bridge_unlock_overflow"
  if split.2 > 0 then
    creditBridge tx.sender (split.2 % (u64Max + 1)) "bridge_unlock_fee_overflow"
  else pure ()

/-- The bridge transition of a successful external result. -/
def settleMessage (res : RelayerExternalResult) : Effect T Unit :=
  match res.message with
  | some msg =>
    if res.success then
      match msg.kind with
      | .bridgeLock => relayMint M tx msg
      | .bridgeBurn => relayUnlock M tx msg
      | _ => pure ()
    else pure ()
  | none => pure ()

def applyRelayerResult (res : RelayerExternalResult) : Effect T Unit := do
  checkReceipt M res
  settleMessage M tx res
  chargeFee tx "balance underflow"

/-! ## Marketplace and hub -/

def applyAiOfferData (cid : Hash32) (price : ℕ) : Effect T Unit := do
  let _ ← onMarketplace "offer_invalid" (createOffer tx.sender cid price)
  chargeFee tx "balance underflow"

def applyAiPurchaseData (offerId : ℕ) : Effect T Unit := do
  let offer ← ofOption (validation "offer_not_found" "Offer not found")
    (← read fun s => s.marketplace.getOffer offerId)
  failIf (offer.active = false) (validation "marketplace_offer_inactive" "Offer inactive")
  -- the offer is closed before the buyer is found able to pay
  onMarketplace "race" (closeOffer offerId offer.seller)
  let cost ← ofOption (validation "cost_overflow" "offer cost overflow")
    (checkedAdd u64Max offer.price tx.fee)
  let spendable ← read fun s => s.spendableBalance tx.sender
  failIf (spendable < cost) (validation "funds" "Insufficient funds")
  debit tx.sender cost "balance underflow"
  credit offer.seller offer.price
    (validation "balance_overflow" "Marketplace sale credit overflow")

def applyBudlumxyzRegisterApp (app : T.HubApp) : Effect T Unit := do
  failIf (tx.amount < M.hubRegisterMinFee) (validation "hub_insufficient_fee"
    s!"App registration requires {M.hubRegisterMinFee} fee, provided: {tx.amount}")
  let epoch ← read epochIndex
  onHub "hub_register_refused" (M.registerApp app tx.sender epoch)
  let sender ← getOrCreate tx.sender
  let total ← ofOption (validation "cost_overflow" "hub total cost overflow")
    (checkedAdd u64Max tx.fee M.hubRegisterMinFee)
  failIf (sender.balance < total) (validation "insufficient_funds"
    s!"Hub registration requires {total}, balance: {sender.balance}")
  writeAccount tx.sender
    { sender with balance := sender.balance - tx.fee - M.hubRegisterMinFee,
                  nonce := satAdd u64Max sender.nonce 1 }

def applyBudlumxyzAttestApp (appId : ℕ) : Effect T Unit := do
  onHub "hub_attest_refused" (M.attestAppAsDeveloper appId tx.sender)
  chargeFee tx "hub attest fee underflow"

def applyPollenRegisterDataAsset (asset : DataAsset) : Effect T Unit := do
  failIf (asset.owner ≠ tx.sender)
    (validation "pollen_asset_owner_mismatch" "DataAsset owner must equal tx.from")
  let asset := { asset with
    assetId := DataAsset.deriveId M.sha256 asset.owner asset.manifestId asset.metadataCommitment }
  let _ ← onMarketplace "pollen_asset_register_failed"
    (registerDataAsset M.sha256 asset)
  chargeFee tx "balance underflow"

def applyPollenAuthorizeSale (authorization : SaleAuthorization) : Effect T Unit := do
  failIf (authorization.seller ≠ tx.sender)
    (validation "pollen_sale_seller_mismatch" "SaleAuthorization seller must equal tx.from")
  let _ ← onMarketplace "pollen_sale_authorization_failed"
    (createSaleAuthorization M.sha256 M.verifySignature authorization)
  chargeFee tx "balance underflow"

def applyPollenGrantAccess (grant : AccessGrant) : Effect T Unit := do
  failIf (grant.owner ≠ tx.sender)
    (validation "pollen_grant_owner_mismatch" "AccessGrant owner must equal tx.from")
  let _ ← onMarketplace "pollen_grant_failed"
    (createAccessGrant M.sha256 M.verifySignature grant)
  chargeFee tx "balance underflow"

def applyPollenRevokeGrant (grantId : Id32) : Effect T Unit := do
  onMarketplace "pollen_grant_revoke_failed"
    (revokeAccessGrant grantId tx.sender)
  chargeFee tx "balance underflow"

def applyPollenRevokeDataAsset (assetId : Id32) : Effect T Unit := do
  onMarketplace "pollen_asset_revoke_failed"
    (revokeDataAsset assetId tx.sender)
  chargeFee tx "balance underflow"

/-! ## Inference -/

def applyAiModelRegister (spec : AiModelSpec T) : Effect T Unit := do
  let s ← read id
  let regFee := (M.registryParams s.registry).aiModelRegisterFee
  failIf (regFee > 0 ∧ tx.amount < regFee) (validation "ai_model_register_fee_insufficient"
    s!"AI model registration requires amount >= {regFee} (governance-tunable)")
  onAi "ai_model_registration_failed" (M.registerModel { spec with owner := tx.sender })
  let sender ← getOrCreate tx.sender
  let total ← ofOption (validation "cost_overflow" "AI register cost overflow")
    (checkedAdd u64Max tx.fee regFee)
  failIf (sender.balance < total) (validation "insufficient_funds"
    s!"AI registration requires {total}, balance: {sender.balance}")
  writeAccount tx.sender
    { sender with balance := sender.balance - total, nonce := satAdd u64Max sender.nonce 1 }

def applyAiInferenceRequest (req : AiInferenceRequest T) : Effect T Unit := do
  let req := { req with requester := tx.sender }
  let s ← read id
  let cost ← ofOption (validation "cost_overflow" "AI cost overflow")
    (checkedAdd u64Max req.maxFee tx.fee)
  failIf (s.spendableBalance tx.sender < cost) (validation "ai_insufficient_fee_balance"
    "Sender balance insufficient for AI inference request max_fee")
  let grant ← admitRequest M tx req
  onAi "ai_request_failed" (M.submitRequest req s.currentBlockHeight)
  consumeGrant tx grant s.currentBlockHeight
  let total ← ofOption (validation "cost_overflow" "AI total cost overflow")
    (checkedAdd u64Max tx.fee req.maxFee)
  let spendable ← read fun s => s.spendableBalance tx.sender
  failIf (spendable < total) (validation "insufficient_funds"
    s!"AI inference requires {total}, spendable: {spendable}")
  let sender ← getOrCreate tx.sender
  let afterFee ← ofOption (validation "balance_underflow" "AI fee underflow")
    (checkedSub sender.balance tx.fee)
  let balance ← ofOption (validation "balance_underflow" "AI max_fee underflow")
    (checkedSub afterFee req.maxFee)
  writeAccount tx.sender
    { sender with balance, nonce := satAdd u64Max sender.nonce 1 }

/-- The reward of the verifier at position `i` of `count`: the remainder goes to
the first ones, a unit each. -/
def verifierReward (maxFee count i : ℕ) : ℕ :=
  maxFee / count + if i < maxFee % count then 1 else 0

def payVerifiers (maxFee count : ℕ) : ℕ → List Address → Effect T Unit
  | _, [] => pure ()
  | i, verifier :: rest => do
      credit verifier (verifierReward maxFee count i)
        (validation "balance_overflow" "AI verifier reward overflow")
      payVerifiers maxFee count (i + 1) rest

/-- Publish a final output as an NFT and a data asset. Failures are only logged. -/
def publishOutput (requester : Address) (res : AiInferenceResult T) : Effect T Unit := do
  let contentId := M.hashFields [strBytes "BDLM_CONTENT_V1", res.outputRef]
  let epoch ← read epochIndex
  let _ ← (attempt (onNft "" (mint requester contentId epoch (some "lubot-ai"))) :
    Effect T (Except BudlumError ℕ))
  let asset := DataAsset.new M.sha256 requester contentId res.outputCommitment false
  let _ ← (attempt (onMarketplace "" (registerDataAsset M.sha256 asset)) :
    Effect T (Except BudlumError Id32))
  pure ()

/-- What a result that reached its threshold pays and publishes. -/
def settleOutcome (res : AiInferenceResult T) (outcome : Option AiOutcome) : Effect T Unit := do
  let s ← read id
  match outcome with
  | some finalized =>
    match M.getRequest s.aiRegistry finalized.requestId with
    | some req => do
        payVerifiers req.maxFee finalized.agreeingVerifiers.length 0 finalized.agreeingVerifiers
        publishOutput M req.requester res
    | none => pure ()
  | none => pure ()

/-- `submit_result`, a reported equivocation counting as a result without
outcome. -/
def submitResult (res : AiInferenceResult T) (currentBlock : ℕ) :
    Effect T (Option AiOutcome) := do
  match (← attempt (onAi "ai_result_failed" (M.submitResult res currentBlock) :
    Effect T (Option AiOutcome))) with
  | .ok outcome => pure outcome
  | .error e => if M.isEquivocationError e.message then pure none else fail e

def applyAiInferenceResult (res : AiInferenceResult T) : Effect T Unit := do
  let s ← read id
  failIf (M.isActive s.registry tx.sender .lubotOperator = false)
    (validation "lubot_operator_unauthorized"
      "Inference result signer must be an active bonded LUBOT_OPERATOR (RoleId=8)")
  let res := { res with verifier := tx.sender, submittedAtBlock := s.currentBlockHeight }
  let outcome ← submitResult M res s.currentBlockHeight
  settleOutcome M res outcome
  chargeFee tx "balance underflow"

def applyAiFeeReclaim (requestId : Id32) : Effect T Unit := do
  let block ← read currentBlockHeight
  let refund ← onAi "ai_fee_reclaim_failed" (M.reclaimFee requestId block)
  -- the escrow has left the registry before its owner is checked
  failIf (refund.1 ≠ tx.sender) (validation "ai_fee_reclaim_unauthorized"
    "Only the original requester can reclaim the escrowed fee")
  credit refund.1 refund.2 (validation "balance_overflow" "AI fee reclaim overflow")
  debit refund.1 tx.fee "balance underflow"

def applyAiModelDeactivate (modelId : Id32) : Effect T Unit := do
  onAi "ai_model_deactivate_failed" (M.deactivateModel modelId tx.sender)
  chargeFee tx "balance underflow"

def applyAiModelReactivate (modelId : Id32) : Effect T Unit := do
  onAi "ai_model_reactivate_failed" (M.reactivateModel modelId tx.sender)
  chargeFee tx "balance underflow"

def applyAiRequestCancel (requestId : Id32) : Effect T Unit := do
  let block ← read currentBlockHeight
  let refund ← onAi "ai_request_cancel_failed" (M.cancelRequest requestId tx.sender block)
  credit refund.1 refund.2 (validation "balance_overflow" "AI fee reclaim overflow")
  chargeFee tx "balance underflow"

def applyAiDisputeSlash (requestId : Id32) (verifier : Address) : Effect T Unit := do
  let s ← read id
  failIf (M.isActive s.registry verifier .lubotOperator = false)
    (validation "lubot_slash_operator_inactive"
      "Equivocation target is not an active bonded LUBOT_OPERATOR")
  onAi "ai_dispute_slash_failed" (M.slashEquivocator requestId verifier s.currentBlockHeight)
  let _ ← onRegistry
    (fun e => validation "lubot_role_slash_failed" (M.registryErrorText e))
    (M.slashRoleOnly verifier .lubotOperator fixedPointScale)
  chargeFee tx "balance underflow"

def applyAiAgentPayment (payment : AgentPayment T) : Effect T Unit := do
  let s ← read id
  failIf (payment.fromAgent ≠ tx.sender)
    (validation "ai_payment_from_spoof" "Agent payment: from_agent must equal tx.from")
  let cost ← ofOption (validation "cost_overflow" "payment cost overflow")
    (checkedAdd u64Max payment.amount tx.fee)
  failIf (s.spendableBalance tx.sender < cost) (validation "ai_payment_insufficient_funds"
    "Insufficient funds for agent payment + fee")
  onAi "ai_payment_invalid" (M.submitAgentPayment payment s.currentBlockHeight)
  debit tx.sender cost "balance underflow"
  if M.isEscrowed payment then pure ()
  else
    credit payment.toAgent payment.amount
      (validation "balance_overflow" "Agent payment credit overflow")
    onAi "ai_payment_settle_failed"
      (M.settleAgentPaymentImmediate payment.paymentId s.currentBlockHeight)

def applyAiAgentPaymentRelease (paymentId : Id32) : Effect T Unit := do
  let s ← read id
  let payment ← ofOption
    (validation "ai_payment_release_failed" "Agent payment: payment_id not found")
    (M.getAgentPayment s.aiRegistry paymentId)
  let recipient ← onAi "ai_payment_release_failed"
    (M.releaseAgentPayment paymentId s.currentBlockHeight)
  credit recipient payment.amount
    (validation "balance_overflow" "Agent payment release overflow")
  chargeFee tx "balance underflow"

def applyAiAgentPaymentReclaim (paymentId : Id32) : Effect T Unit := do
  let block ← read currentBlockHeight
  let amount ← onAi "ai_payment_reclaim_failed"
    (M.reclaimAgentPayment paymentId tx.sender block)
  let sender ← getOrCreate tx.sender
  let available ← ofOption (validation "balance_overflow" "reclaim balance overflow")
    (checkedAdd u64Max sender.balance amount)
  failIf (available < tx.fee) (validation "ai_payment_reclaim_insufficient_fee"
    "Reclaimed amount + existing balance insufficient for tx fee")
  writeAccount tx.sender
    { sender with balance := available - tx.fee, nonce := satAdd u64Max sender.nonce 1 }

/-! ## Private transfers -/

def applyPrivacyNoteInsert (commitment : Hash32) : Effect T Unit := do
  failIf (privacyTransfersEnabled tx.chainId = false) (validation "privacy_mainnet_disabled"
    "privacy note insertion is disabled on mainnet until full proof verification is wired")
  onNotes "privacy_note_insert" (M.insertNote commitment)
  chargeFee tx "balance underflow"

def applyPrivateTransferSubmit (sub : PrivateTransfer T) : Effect T Unit := do
  failIf (privacyTransfersEnabled tx.chainId = false) (validation "privacy_mainnet_disabled"
    ("private transfers are disabled on mainnet until ownership, value-conservation, " ++
      "and membership proofs are wired"))
  ofExcept (validation "private_transfer_shape") (M.validateTransferShape sub)
  failIf (M.transferDigestMatches sub = false) (validation "private_transfer_digest"
    "public_digest does not match nullifiers/outputs")
  ofExcept
    (fun _ => validation "private_transfer_auth" "authorization_sig invalid for tx.from")
    (M.verifySignature sub.publicDigest sub.authorizationSig tx.sender.asBytes)
  onNotes "private_transfer_apply"
    (M.applyTransfer sub.spentCommitments sub.nullifiers sub.outputCommitments)
  chargeFee tx "balance underflow"

/-! ## Execution proofs -/

def maxProofBytes : ℕ := 2 ^ 20
def maxDegreeBits : ℕ := 24
def minProofFormatVersion : ℕ := 1

/-- `ProofVerifier::validate_envelope_structure`, with the texts of its errors. -/
def validateEnvelopeStructure (envelope : ProofEnvelope) : Except String Unit :=
  if maxProofBytes < envelope.proofBytes.length then
    .error s!"proof too large: {envelope.proofBytes.length} bytes (max {maxProofBytes})"
  else if maxDegreeBits < envelope.degreeBits then
    .error s!"degree bits too large: {envelope.degreeBits} (max {maxDegreeBits})"
  else if envelope.proofFormatVersion < minProofFormatVersion then
    .error (s!"proof format version {envelope.proofFormatVersion} too old " ++
      s!"(min {minProofFormatVersion})")
  else if envelope.backend = "" then .error "unsupported proof backend: empty"
  else if envelope.p3Version = "" ∨ envelope.friParamsId = "" then
    .error "invalid STARK proof: proof metadata incomplete (p3_version / fri_params_id)"
  else .ok ()

/-- The full verification that a model requiring execution proofs asks for. -/
def checkRequiredProof (spec : AiModelSpec T) (proof : AiExecutionProof T) : Effect T Unit := do
  let claimed ← ofOption (validation "ai_exec_no_public_inputs"
    "proof-required model needs an execution proof carrying its public inputs")
    proof.publicInputs
  let registered ← ofOption (validation "ai_exec_no_program_hash"
    "proof-required model must register execution_program_hash") spec.executionProgramHash
  failIf (claimed.programHash ≠ registered) (validation "ai_exec_program_hash"
    "public inputs name a different program than the model registered")
  failIf (claimed.exitCode ≠ 0)
    (validation "ai_exec_exit_code" "execution proof attests to a failed run")
  let program ← ofExcept (validation "ai_exec_program_rebuild") (M.guestProgramForModel spec)
  ofExcept (validation "ai_exec_stark") (M.verifyExecutionProofStark proof program claimed)

/-- The size of a proof against the limits of the model's execution class. -/
def checkClassLimit (spec : AiModelSpec T) (size : ℕ) : Effect T Unit :=
  if spec.executionClass = 0 then pure ()
  else
    match M.classLimits spec.executionClass with
    | some (maxParams, className) => do
        let maxProof ← ofOption (validation "proof_overflow" "max proof size overflow")
          (checkedMul u64Max maxParams 64)
        failIf (maxProof < size) (validation "ai_exec_gas_exceeded"
          s!"proof size {size} exceeds class limit {maxProof} (class={className})")
    | none => pure ()

def checkProofSize (spec : AiModelSpec T) (size : ℕ) : Effect T Unit := do
  checkClassLimit M spec size
  match spec.executionDims with
  | some dims => ofExcept (validation "ai_exec_proof_size") (M.validateGasBudget dims size)
  | none => pure ()

def checkEnvelope (proofBytes : Bytes) : Effect T Unit := do
  let envelope ← ofOption (validation "ai_exec_deserialize"
    "proof_bytes is not a valid bud_proof::ProofEnvelope (postcard)") (M.decodeEnvelope proofBytes)
  ofExcept (validation "ai_exec_envelope") (validateEnvelopeStructure envelope)
  failIf (aiExecutionBackendAllowed envelope.backend = false)
    (validation "ai_exec_backend" s!"unsupported proof backend: {envelope.backend}")

/-- A proof-required model accepts only a fully verified proof. -/
def checkModelProof (model : Option (AiModelSpec T)) (proof : AiExecutionProof T) :
    Effect T Unit :=
  match model with
  | some spec => if spec.requireExecutionProof then checkRequiredProof M spec proof else pure ()
  | none => pure ()

def checkModelSize (model : Option (AiModelSpec T)) (size : ℕ) : Effect T Unit :=
  match model with
  | some spec => checkProofSize M spec size
  | none => pure ()

/-- Every check of an execution proof. None of them writes. -/
def checkExecutionProof (requestId : Id32) (proof : AiExecutionProof T) : Effect T Unit := do
  let s ← read id
  failIf (M.isActive s.registry tx.sender .lubotOperator = false)
    (validation "lubot_operator_unauthorized"
      "Execution proof signer must be an active bonded LUBOT_OPERATOR (RoleId=8)")
  let req ← ofOption (validation "ai_exec_no_request" "request not found")
    (M.getRequest s.aiRegistry requestId)
  let results ← ofOption (validation "ai_exec_no_result" "no results for request")
    (M.getResults s.aiRegistry requestId)
  let res ← ofOption
    (validation "ai_exec_not_verifier_result" "tx.from has no result for request")
    (results.find? fun r => r.verifier = tx.sender)
  let model := M.getModel s.aiRegistry proof.modelId
  checkModelProof M model proof
  let report := M.structuralReport proof req res model
  failIf (report.1 = false) (validation "ai_exec_structural"
    s!"execution proof structural check failed: {report.2}")
  failIf (maxProofBytes < proof.proofBytes.length) (validation "ai_exec_proof_too_large"
    "execution proof_bytes exceed MAX_PROOF_BYTES")
  checkModelSize M model proof.proofBytes.length
  checkEnvelope M proof.proofBytes

def applyAiAttachExecutionProof (requestId : Id32) (proof : AiExecutionProof T) :
    Effect T Unit := do
  checkExecutionProof M tx requestId proof
  onAi "ai_exec_attach" (M.attachExecutionProof requestId tx.sender proof)
  -- the outcome of the re-evaluation is dropped
  let _ ← (attempt (onAi "" (M.tryFinalizeWithProofs requestId)) :
    Effect T (Except BudlumError Unit))
  chargeFee tx "balance underflow"

/-! ## Dispatch -/

def applyArm : Effect T Unit :=
  match tx.txType with
  | .transfer => applyTransfer tx
  | .stake => applyStake M tx
  | .registerConsensusKeys registration => applyRegisterConsensusKeys M tx registration
  | .lubotOperatorBond => applyLubotOperatorBond M tx
  | .lubotOperatorUnbond => applyLubotOperatorUnbond M tx
  | .lubotOperatorWithdraw => applyLubotOperatorWithdraw M tx
  | .unstake => applyUnstake M tx
  | .vote => applyVote M tx
  | .contractCall => applyContractCall M tx
  | .bnsRegister => applyBnsRegister M tx
  | .bnsSetContent => applyBnsSetContent M tx
  | .bnsRegisterSubdomain => applyBnsRegisterSubdomain M tx
  | .bnsSetStorage => applyBnsSetStorage M tx
  | .nftMint => applyNftMint M tx
  | .nftTransfer => applyNftTransfer M tx
  | .nftBurn => applyNftBurn M tx
  | .nftBoost nftId amount => applyNftBoost tx nftId amount
  | .nftUpdateLight nftId deltaMcd => applyNftUpdateLight tx nftId deltaMcd
  | .nftTag => applyNftTag tx
  | .universalRelay => applyUniversalRelay tx
  | .relayerResult res => applyRelayerResult M tx res
  | .aiOfferData cid price => applyAiOfferData tx cid price
  | .aiPurchaseData offerId => applyAiPurchaseData tx offerId
  | .budlumxyzRegisterApp app => applyBudlumxyzRegisterApp M tx app
  | .budlumxyzAttestApp appId => applyBudlumxyzAttestApp M tx appId
  | .aiModelRegister spec => applyAiModelRegister M tx spec
  | .aiInferenceRequest req => applyAiInferenceRequest M tx req
  | .aiInferenceResult res => applyAiInferenceResult M tx res
  | .aiFeeReclaim requestId => applyAiFeeReclaim M tx requestId
  | .aiModelDeactivate modelId => applyAiModelDeactivate M tx modelId
  | .aiModelReactivate modelId => applyAiModelReactivate M tx modelId
  | .aiRequestCancel requestId => applyAiRequestCancel M tx requestId
  | .pollenRegisterDataAsset asset => applyPollenRegisterDataAsset M tx asset
  | .pollenAuthorizeSale authorization => applyPollenAuthorizeSale M tx authorization
  | .pollenGrantAccess grant => applyPollenGrantAccess M tx grant
  | .pollenRevokeGrant grantId => applyPollenRevokeGrant tx grantId
  | .pollenRevokeDataAsset assetId => applyPollenRevokeDataAsset tx assetId
  | .aiDisputeSlash requestId verifier => applyAiDisputeSlash M tx requestId verifier
  | .aiAgentPayment payment => applyAiAgentPayment M tx payment
  | .aiAgentPaymentRelease paymentId => applyAiAgentPaymentRelease M tx paymentId
  | .aiAgentPaymentReclaim paymentId => applyAiAgentPaymentReclaim M tx paymentId
  | .privacyNoteInsert commitment => applyPrivacyNoteInsert M tx commitment
  | .privateTransferSubmit sub => applyPrivateTransferSubmit M tx sub
  | .aiAttachExecutionProof requestId proof => applyAiAttachExecutionProof M tx requestId proof

def checkCostFloor : Effect T Unit :=
  match tx.txType with
  | .unstake => do
      failIf (tx.amount = 0) (validation "unstake_amount_zero" "Unstake amount cannot be 0")
      failIf (tx.fee = 0) (validation "unstake_fee_zero"
        "Unstake fee cannot be 0 (consensus cost-floor)")
  | .vote =>
    failIf (tx.fee = 0)
      (validation "vote_fee_zero" "Vote fee cannot be 0 (consensus cost-floor)")
  | _ => pure ()

/-- What the sender must hold: an unstake and a vote move no liquid amount. -/
def liquidCost : ℕ :=
  match tx.txType with
  | .unstake => tx.fee
  | .vote => tx.fee
  | _ => tx.totalCost

def applyTransactionChecked : Effect T Unit := do
  if tx.sender = .zero then
    failIf (M.verifyTx tx = false) (validation "zero_address_sender_forbidden"
      ("the zero address cannot originate transactions outside the canonical " ++
        "genesis transaction"))
  else
    let reserve ← read burnReserveAddress
    failIf (reserve = some tx.sender) (validation "burn_reserve_locked"
      "Burn reserve is schedule-controlled and cannot originate transactions")
    checkCostFloor tx
    let sender ← getOrCreate tx.sender
    failIf (sender.balance < liquidCost tx)
      (validation "insufficient_balance" "Insufficient balance")
    applyArm M tx

/-! ## Blocks -/

/-- Apply the transactions in order, stopping at the first that fails. -/
def applyAll : List (Transaction T) → Effect T Unit
  | [] => pure ()
  | tx :: rest => do
      applyTransactionChecked M tx
      applyAll rest

/-- Credit the producer with one fee, nothing being written for a fee of zero. -/
def creditProducer (producer : Address) (producerFee : ℕ) : Effect T Unit :=
  if producerFee > 0 then
    mapError (validation "producer_fee_overflow")
      (tryAddBalance producer producerFee)
  else pure ()

/-- Pay the producer the fees of the block, less the metabolic burn. -/
def payProducer (producer : Address) : List (Transaction T) → Effect T Unit
  | [] => pure ()
  | tx :: rest => do
      let burn ← read fun s => s.tokenomics.metabolicBurn tx.fee
      let producerFee ← ofOption (validation "fee_underflow" "producer fee underflow")
        (checkedSub tx.fee burn)
      creditProducer producer producerFee
      payProducer producer rest

def payFees (producer : Option Address) (transactions : List (Transaction T)) : Effect T Unit :=
  match producer with
  | some a => payProducer a transactions
  | none => pure ()

def applyAction (action : GovernanceAction T) : Effect T Unit :=
  match action with
  | .whitelistVerifier a => modify fun s =>
    { s with aiRegistry := M.whitelistVerifier a s.aiRegistry }
  | .dewhitelistVerifier a => modify fun s =>
    { s with aiRegistry := M.dewhitelistVerifier a s.aiRegistry }
  | .verifyHubApp appId => fail (validation "hub_verify_wrong_path"
      (s!"VerifyHubApp for app {appId} arrived as a GovernanceAction; " ++
        "the badge is written by AccountState::execute_proposal, so " ++
        "emitting it here would apply the same vote twice"))
  | .setEncryptionPolicy policy =>
    onMarketplace "pollen_encryption_policy" (setEncryptionPolicy policy)
  | .setConstitutionParameter parameter =>
    onGovernance "constitution_parameter" (M.setConstitutionParameter parameter)
  | .unfreezeConsensusDomain domainId expectedValidatorSetHash justificationHash =>
    modify fun s =>
      { s with pendingDomainUnfreezes := s.pendingDomainUnfreezes ++
          [{ domainId, expectedValidatorSetHash, justificationHash }] }

def applyActions : List (GovernanceAction T) → Effect T Unit
  | [] => pure ()
  | action :: rest => do
      applyAction M action
      applyActions rest

def takePassedActions : Effect T (List (GovernanceAction T)) := do
  let passed ← read fun s => M.executePassedProposals s.governance
  modify fun s => { s with governance := passed.2 }
  pure passed.1

def applyBlockChecked (transactions : List (Transaction T)) (producer : Option Address) :
    Effect T Unit := do
  applyAll M transactions
  payFees producer transactions
  let actions ← takePassedActions M
  applyActions M actions

end Budlum.Executor

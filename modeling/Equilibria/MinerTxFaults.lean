import Equilibria.BlockTemplate

/-!
# Where the coinbase checks read past the outputs

`validate_miner_transaction` and the `validate_miner_tx` hook index the coinbase's outputs
without a bound check of their own. The hook's guard `miner_tx.vout.size() - 1 <
addresses_and_portions.size()` is computed in `size_t`: on a coinbase without outputs it wraps to
`2^64 - 1`, the guard lets the coinbase through and the output loop reads `vout[1]`. The
governance check then reads `vout.back()` and takes its target as a `txout_to_key` with no check
of either. The model returns these reads as `Fault`s.

This module says exactly where the checks fault. The hook's `m_service_nodes_infos.at(key)`
never throws, since `select_winner` returns a listed key or the null key. The hook faults only
on a coinbase without outputs, and on every such coinbase that names the winner; the governance
check faults only on a coinbase without outputs or one whose last output is not to a key.
`prevalidate_miner_transaction` checks neither, so both faults are reached from blocks that pass
it: a coinbase without outputs at height 130 of the grace run, and a coinbase on the test
network at its first governance height whose last output pays the governance amount to a
script.
-/

namespace Equilibria.MinerTxFaults

open CryptonoteBasic ServiceNodeRules ServiceNodeState ServiceNodeList BlockReward MinerTx
  UndoLog BlockTemplate

/-! ## The winner is listed -/

/-- `select_winner` returns its starting key or the key of an entry. -/
theorem selectWinnerFrom_mem (hfVersion : ℕ) :
    ∀ (entries : List (Sigma fun _ : PublicKey => ServiceNodeInfo)) (oldest : ℕ × ℕ)
      (key : PublicKey),
      selectWinnerFrom hfVersion entries oldest key ∈ key :: entries.map Sigma.fst
  | [], _, key => by simp [selectWinnerFrom]
  | e :: es, oldest, key => by
    -- the loop goes on from `e`'s key or keeps `key`; either is in the list
    have hkeep := selectWinnerFrom_mem hfVersion es oldest key
    have htake := selectWinnerFrom_mem hfVersion es (e.2.lastRewardBlockHeight,
      e.2.lastRewardTransactionIndex) e.1
    unfold selectWinnerFrom
    dsimp only
    split
    · split
      · simp only [List.mem_cons, List.map_cons] at htake ⊢
        tauto
      · simp only [List.mem_cons, List.map_cons] at hkeep ⊢
        tauto
    · simp only [List.mem_cons, List.map_cons] at hkeep ⊢
      tauto

/-- The winner is the null key or a node of the list. -/
theorem selectWinner_mem (ctx : Context) (s : ServiceNodeList) :
    selectWinner ctx s = nullPkey ∨ selectWinner ctx s ∈ s.serviceNodesInfos := by
  have hmem := selectWinnerFrom_mem (ctx.hardForkVersion s.height) s.serviceNodesInfos.entries
    (uint64Max, uint32Max) nullPkey
  rw [List.mem_cons] at hmem
  rcases hmem with hnull | hlisted
  · exact .inl hnull
  · exact .inr (AList.mem_keys.mpr hlisted)

/-- `get_winner_addresses_and_portions` never looks up a key the list does not hold. -/
theorem getWinnerAddressesAndPortions_isSome (ctx : Context) (s : ServiceNodeList)
    (height : ℕ) : (getWinnerAddressesAndPortions ctx s height).isSome := by
  dsimp only [getWinnerAddressesAndPortions]
  split
  · rfl
  · rename_i hnull
    have hlisted := (selectWinner_mem ctx s).resolve_left hnull
    rw [Option.isSome_map]
    exact AList.lookup_isSome.mpr hlisted

/-! ## The hook -/

/-- The output loop faults only by reading past the end, and only where the outputs end before
the last portion's index. -/
theorem checkServiceNodeOutputs_eq_error {menv : MinerEnv} {vout : List TxOut} {total : UInt64}
    {height : ℕ} :
    ∀ {i : ℕ} {portions : List (AccountPublicAddress × UInt64)} {fault : Fault},
      checkServiceNodeOutputs menv vout total height i portions = .error fault →
      fault = .pastEnd ∧ vout.length ≤ i + portions.length
  | _, [], _, h => by cases h
  | i, (address, portion) :: rest, fault, h => by
    unfold checkServiceNodeOutputs at h
    cases hout : vout[i + 1]? with
    | none =>
      simp only [voutAt, hout, bind, Except.bind] at h
      cases h
      have hlen := List.getElem?_eq_none_iff.mp hout
      refine ⟨rfl, ?_⟩
      simp only [List.length_cons]
      omega
    | some out =>
      simp only [voutAt, hout, bind, Except.bind] at h
      -- every branch but the recursive call returns a verdict
      split at h
      · cases h
      · split at h
        · split at h
          · cases h
          · split at h
            · cases h
            · obtain ⟨rfl, hlen⟩ := checkServiceNodeOutputs_eq_error h
              refine ⟨rfl, ?_⟩
              simp only [List.length_cons]
              omega
        · cases h

/-- The hook faults only on a coinbase without outputs. -/
theorem validateMinerTx_eq_error {menv : MinerEnv} {ctx : Context} {s : ServiceNodeList}
    {tx : Transaction} {height version : ℕ} {parts : BlockRewardParts} {fault : Fault}
    (hsize : tx.vout.length < 2 ^ 64)
    (h : validateMinerTx menv ctx s tx height version parts = .error fault) :
    fault = .pastEnd ∧ tx.vout = [] := by
  dsimp only [validateMinerTx] at h
  split at h
  · cases h
  · split at h
    · cases h
    · obtain ⟨winners, hwinners⟩ := Option.isSome_iff_exists.mp
        (getWinnerAddressesAndPortions_isSome ctx s height)
      rw [hwinners] at h
      simp only at h
      split at h
      · cases h
      · rename_i hguard
        obtain ⟨rfl, hlen⟩ := checkServiceNodeOutputs_eq_error h
        -- with an output, the guard would have stopped the loop before the end
        rw [toNat_ofNat_sub_one hsize] at hguard
        refine ⟨rfl, List.eq_nil_iff_length_eq_zero.mpr ?_⟩
        split at hguard <;> omega

/-- Every coinbase without outputs that names the winner makes the hook read `vout[1]`. -/
theorem validateMinerTx_vout_nil {menv : MinerEnv} {ctx : Context} {s : ServiceNodeList}
    {tx : Transaction} {height version : ℕ} {parts : BlockRewardParts}
    {winners : List (AccountPublicAddress × UInt64)} (hversion : 5 ≤ version)
    (hwinner : getServiceNodeWinnerFromTxExtra tx.extra = selectWinner ctx s)
    (hwinners : getWinnerAddressesAndPortions ctx s height = some winners)
    (hpaid : winners ≠ []) (hsize : winners.length < 2 ^ 64) (hempty : tx.vout = []) :
    validateMinerTx menv ctx s tx height version parts = .error .pastEnd := by
  obtain ⟨⟨address, portion⟩, rest, rfl⟩ := List.exists_cons_of_ne_nil hpaid
  -- `0 - 1` wraps to `2^64 - 1`, which no list of portions outnumbers
  have hwrap : ¬ (UInt64.ofNat tx.vout.length - 1).toNat < (rest.length + 1) := by
    rw [toNat_ofNat_sub_one (by simp [hempty]), hempty, List.length_nil, if_pos rfl]
    simp only [List.length_cons] at hsize
    omega
  unfold validateMinerTx
  rw [if_neg (by omega), if_neg (by simp [hwinner]), hwinners]
  simp only [List.length_cons, if_neg hwrap]
  simp [checkServiceNodeOutputs, voutAt, hempty, bind, Except.bind]

/-! ## The governance check -/

/-- The governance check faults only on a coinbase without outputs, or one whose last output
pays the governance amount to something other than a key. -/
theorem checkGovernanceOutput_eq_error {menv : MinerEnv} {height version : ℕ}
    {parts : BlockRewardParts} {vout : List TxOut} {fault : Fault}
    (h : checkGovernanceOutput menv height version parts vout = .error fault) :
    (fault = .pastEnd ∧ vout = []) ∨
      (fault = .badGet ∧ ∃ last, vout.getLast? = some last ∧
        last.amount = parts.governance ∧ ∀ key, last.target ≠ .toKey key) := by
  unfold checkGovernanceOutput at h
  split at h
  · cases hlast : vout.getLast? with
    | none =>
      simp only [voutBack, hlast, bind, Except.bind] at h
      cases h
      exact .inl ⟨rfl, List.getLast?_eq_none_iff.mp hlast⟩
    | some last =>
      simp only [voutBack, hlast, bind, Except.bind] at h
      split at h
      · cases h
      · rename_i hamount
        cases htarget : last.target with
        | toKey key => simp [htarget, toKeyOf, pure, Except.pure] at h
        | toScript =>
          simp only [htarget, toKeyOf] at h
          cases h
          exact .inr ⟨rfl, last, rfl, not_not.mp hamount, by simp [htarget]⟩
        | toScripthash =>
          simp only [htarget, toKeyOf] at h
          cases h
          exact .inr ⟨rfl, last, rfl, not_not.mp hamount, by simp [htarget]⟩
  · cases h

/-! ## The whole check -/

/-- `validate_miner_transaction` faults only on a coinbase without outputs, or one whose last
output pays the governance amount to something other than a key. -/
theorem validateMinerTransaction_eq_error {menv : MinerEnv} {ctx : Context}
    {s : ServiceNodeList} {dbHeight : ℕ} {medianWeight : UInt64} {currentVersion : ℕ} {b : Block}
    {cumulativeBlockWeight fee baseReward alreadyGeneratedCoins : UInt64} {version : ℕ}
    {fault : Fault} (hsize : b.minerTx.vout.length < 2 ^ 64)
    (h : validateMinerTransaction menv ctx s dbHeight medianWeight currentVersion b
      cumulativeBlockWeight fee baseReward alreadyGeneratedCoins version = .error fault) :
    (fault = .pastEnd ∧ b.minerTx.vout = []) ∨
      (fault = .badGet ∧ ∃ last, b.minerTx.vout.getLast? = some last ∧
        ∀ key, last.target ≠ .toKey key) := by
  dsimp only [validateMinerTransaction] at h
  by_cases hv : version = 1
  · simp [hv, pure, Except.pure] at h
  rw [if_neg hv] at h
  cases hparts : getTritonBlockReward medianWeight cumulativeBlockWeight alreadyGeneratedCoins
    version ⟨b.height, fee, []⟩ menv.nettype with
  | none => simp [hparts, pure, Except.pure] at h
  | some parts =>
    simp only [hparts] at h
    cases hhook : validateMinerTx menv ctx s b.minerTx dbHeight version parts with
    | error e =>
      simp only [hhook, bind, Except.bind] at h
      cases h
      exact .inl (validateMinerTx_eq_error hsize hhook)
    | ok accepts =>
      cases hgovernance : checkGovernanceOutput menv dbHeight version parts b.minerTx.vout with
      | error e =>
        simp only [hhook, hgovernance, bind, Except.bind, pure, Except.pure] at h
        split at h
        · cases h
        · cases h
          rcases checkGovernanceOutput_eq_error hgovernance with hempty | ⟨hbad, last, hlast, -, hkey⟩
          · exact .inl hempty
          · exact .inr ⟨hbad, last, hlast, hkey⟩
      | ok governanceAccepts =>
        -- past both checks every branch returns a verdict
        simp only [hhook, hgovernance, bind, Except.bind, pure, Except.pure] at h
        split_ifs at h

/-- A fault of the hook is a fault of the whole check. -/
theorem validateMinerTransaction_of_hook_error {menv : MinerEnv} {ctx : Context}
    {s : ServiceNodeList} {dbHeight : ℕ} {medianWeight : UInt64} {currentVersion : ℕ} {b : Block}
    {cumulativeBlockWeight fee baseReward alreadyGeneratedCoins : UInt64} {version : ℕ}
    {parts : BlockRewardParts} {fault : Fault} (hv : version ≠ 1)
    (hparts : getTritonBlockReward medianWeight cumulativeBlockWeight alreadyGeneratedCoins version
      ⟨b.height, fee, []⟩ menv.nettype = some parts)
    (hhook : validateMinerTx menv ctx s b.minerTx dbHeight version parts = .error fault) :
    validateMinerTransaction menv ctx s dbHeight medianWeight currentVersion b
      cumulativeBlockWeight fee baseReward alreadyGeneratedCoins version = .error fault := by
  simp only [validateMinerTransaction, if_neg hv, hparts, hhook, bind, Except.bind]

/-- Past an accepting hook, a fault of the governance check is a fault of the whole check. -/
theorem validateMinerTransaction_of_governance_error {menv : MinerEnv} {ctx : Context}
    {s : ServiceNodeList} {dbHeight : ℕ} {medianWeight : UInt64} {currentVersion : ℕ} {b : Block}
    {cumulativeBlockWeight fee baseReward alreadyGeneratedCoins : UInt64} {version : ℕ}
    {parts : BlockRewardParts} {fault : Fault} (hv : version ≠ 1)
    (hparts : getTritonBlockReward medianWeight cumulativeBlockWeight alreadyGeneratedCoins version
      ⟨b.height, fee, []⟩ menv.nettype = some parts)
    (hhook : validateMinerTx menv ctx s b.minerTx dbHeight version parts = .ok true)
    (hgovernance : checkGovernanceOutput menv dbHeight version parts b.minerTx.vout =
      .error fault) :
    validateMinerTransaction menv ctx s dbHeight medianWeight currentVersion b
      cumulativeBlockWeight fee baseReward alreadyGeneratedCoins version = .error fault := by
  simp only [validateMinerTransaction, if_neg hv, hparts, hhook, hgovernance, bind, Except.bind,
    Bool.not_true, Bool.false_eq_true, if_false]

/-- At a height where the validator checks governance, a last output that pays the governance
amount to anything but a key makes the check read its target as a key. -/
theorem checkGovernanceOutput_badGet {menv : MinerEnv} {height version : ℕ}
    {parts : BlockRewardParts} {vout : List TxOut} {last : TxOut} (hversion : 7 ≤ version)
    (hallow : blockchainAllowGovernance menv.nettype height = true)
    (hlast : vout.getLast? = some last) (hamount : last.amount = parts.governance)
    (hkey : ∀ key, last.target ≠ .toKey key) :
    checkGovernanceOutput menv height version parts vout = .error .badGet := by
  have htarget : toKeyOf last.target = .error .badGet := by
    cases htarget : last.target with
    | toKey key => exact absurd htarget (hkey key)
    | toScript => rfl
    | toScripthash => rfl
  simp [checkGovernanceOutput, hversion, hallow, voutBack, hlast, hamount, htarget, bind,
    Except.bind]

/-! ## Two blocks that pass prevalidation -/

/-- A coinbase for height 130 of the grace run that names the winner and has no outputs. -/
def emptyCoinbase : Transaction :=
  ⟨3, UInt64.ofNat (130 + cryptonoteMinedMoneyUnlockWindow), [.gen 130], [],
    [.serviceNodeWinner nodeKey], [], false, .null⟩

/-- The forks of the test network, `testnet_hard_forks`: each version with its first height. -/
def testnetHardForks : List (ℕ × ℕ) :=
  [(1, 1), (2, 8), (3, 10), (4, 11), (5, 12), (6, 13), (7, 14), (8, 15), (9, 75), (10, 160),
    (11, 180), (12, 190)]

/-- The version of the last fork of the test network at or below a height. -/
def testnetHardForkVersion (height : ℕ) : ℕ :=
  ((testnetHardForks.filter (·.2 ≤ height)).getLast?.map (·.1)).getD 1

/-- The test network at height 3750, the first height at which its validator checks a
governance output, on hard fork 12, with no service node. -/
def governanceContext : Context :=
  { graceContext with
    hardForkVersion := testnetHardForkVersion, currentHardForkVersion := 12, currentHeight := 3750,
    hardFork5Height := 12 }

/-- The miner's primitives of the grace run on the test network. -/
def governanceMinerEnv : MinerEnv := { graceMinerEnv with nettype := .testnet }

/-- A coinbase for height 3750 of the test network that pays the miner and the null winner as
the hook expects, and pays the governance amount last, to a script; each output has its unlock
time, as version 3 serializes them. -/
def scriptCoinbase : Transaction :=
  ⟨3, UInt64.ofNat (3750 + cryptonoteMinedMoneyUnlockWindow), [.gen 3750],
    [⟨95368, .toKey ⟨1⟩⟩, ⟨286101, .toKey nullPkey⟩, ⟨10000000000, .toScript⟩], [],
    List.replicate 3 (UInt64.ofNat (3750 + cryptonoteMinedMoneyUnlockWindow)), false, .null⟩

theorem coinbase_checks_read_past_outputs :
    prevalidateMinerTransaction ⟨130, 0, nullHash, emptyCoinbase⟩ 130 5 = true ∧
      validateMinerTransaction graceMinerEnv graceContext graceState 130 0 5
        ⟨130, 0, nullHash, emptyCoinbase⟩ 0 0 0 1 5 = .error .pastEnd ∧
      governanceContext.hardForkVersion 3750 = 12 ∧
      prevalidateMinerTransaction ⟨3750, 0, nullHash, scriptCoinbase⟩ 3750 12 = true ∧
      validateMinerTransaction governanceMinerEnv governanceContext (clear governanceContext)
        3750 0 12 ⟨3750, 0, nullHash, scriptCoinbase⟩ 0 0 0 1 12 = .error .badGet := by
  refine ⟨by decide, ?_, by decide, by decide, ?_⟩
  · -- the grace winner has one portion, and the coinbase no output to read it from
    have hparts : getTritonBlockReward 0 0 1 5 ⟨130, 0, []⟩ graceMinerEnv.nettype =
        some ⟨0, 400543, 400543, 400543, 0, 801086, 801086⟩ := by decide +kernel
    have hwinners : getWinnerAddressesAndPortions graceContext graceState 130 =
        some [(contributor, 18446744073709551612)] := by decide +kernel
    exact validateMinerTransaction_of_hook_error (by decide) hparts
      (validateMinerTx_vout_nil (by decide) (by decide +kernel) hwinners (by simp) (by simp) rfl)
  · -- the hook accepts the null winner's output, and the governance output is to a script
    have hparts : getTritonBlockReward 0 0 1 12 ⟨3750, 0, []⟩ governanceMinerEnv.nettype =
        some ⟨10000000000, 286101, 286101, 95368, 0, 381469, 10000381469⟩ := by decide +kernel
    exact validateMinerTransaction_of_governance_error (by decide) hparts (by decide +kernel)
      (checkGovernanceOutput_badGet (by decide) (by decide) rfl rfl (by simp))

end Equilibria.MinerTxFaults

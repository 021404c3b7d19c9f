import Equilibria.ServiceNodeRuns

/-!
# Properties of every node record

A property of single node records holds of a list when every listed record has it and so does
every record that a `rollback_change` event keeps for an undo. `blockchain_detached` puts back
only kept records, and every mutator of `block_added_generic` keeps the old record before it
changes or erases one. So a property holds of every reachable list once registrations create
records with it and contributions keep it, provided it ignores the two fields the other
mutators write: the place in the reward queue and the swarm id.
-/

namespace Equilibria.RecordInvariant

open CryptonoteBasic MapJournal OrderedMap ServiceNodeRules ServiceNodeState ServiceNodeTx
  ServiceNodeList ServiceNodeRuns SwarmChanges

/-- `P` holds of every listed record and of every record kept for an undo. -/
structure EveryRecord (P : ServiceNodeInfo → Prop) (s : ServiceNodeList) : Prop where
  /-- Every listed record has the property. -/
  infos : ∀ key info, s.serviceNodesInfos.lookup key = some info → P info
  /-- Every record a `rollback_change` keeps has the property. -/
  events : ∀ height key info,
    RollbackEvent.rollbackChange height key info ∈ s.rollbackEvents → P info

variable {P : ServiceNodeInfo → Prop}

theorem everyRecord_clear (ctx : Context) : EveryRecord P (clear ctx) where
  infos _ _ h := by simp [clear] at h
  events _ _ _ h := by simp [clear] at h

/-! ## Journaled writes -/

section Writes

variable {s : ServiceNodeList} {height : ℕ} {key : PublicKey} {oldInfo newInfo : ServiceNodeInfo}

theorem EveryRecord.events_keep (hs : EveryRecord P s)
    (hold : s.serviceNodesInfos.lookup key = some oldInfo) :
    ∀ height' key' info, RollbackEvent.rollbackChange height' key' info ∈
      s.rollbackEvents ++ [.rollbackChange height key oldInfo] → P info := by
  intro height' key' info h
  rcases List.mem_append.mp h with h | h
  · exact hs.events height' key' info h
  · simp only [List.mem_singleton, RollbackEvent.rollbackChange.injEq] at h
    obtain ⟨-, rfl, rfl⟩ := h
    exact hs.infos _ _ hold

/-- A listed record replaced by one with the property, the old one kept. -/
theorem EveryRecord.change (hs : EveryRecord P s)
    (hold : s.serviceNodesInfos.lookup key = some oldInfo) (hnew : P newInfo) :
    EveryRecord P { s with
      rollbackEvents := s.rollbackEvents ++ [.rollbackChange height key oldInfo]
      serviceNodesInfos := s.serviceNodesInfos.insert key newInfo } where
  infos k info h := by
    rcases lookup_insert_eq_some h with ⟨-, rfl⟩ | h
    · exact hnew
    · exact hs.infos k info h
  events := hs.events_keep hold

/-- A listed record erased, the old one kept. -/
theorem EveryRecord.erase (hs : EveryRecord P s)
    (hold : s.serviceNodesInfos.lookup key = some oldInfo) :
    EveryRecord P { s with
      rollbackEvents := s.rollbackEvents ++ [.rollbackChange height key oldInfo]
      serviceNodesInfos := s.serviceNodesInfos.erase key } where
  infos k info h := hs.infos k info (lookup_of_lookup_erase h)
  events := hs.events_keep hold

/-- A record with the property written under a key, its removal recorded. -/
theorem EveryRecord.new (hs : EveryRecord P s) (hnew : P newInfo) :
    EveryRecord P { s with
      rollbackEvents := s.rollbackEvents ++ [.rollbackNew height key]
      serviceNodesInfos := s.serviceNodesInfos.insert key newInfo } where
  infos k info h := by
    rcases lookup_insert_eq_some h with ⟨-, rfl⟩ | h
    · exact hnew
    · exact hs.infos k info h
  events height' key' info h := by
    rcases List.mem_append.mp h with h | h
    · exact hs.events height' key' info h
    · simp at h

/-- Culling keeps a suffix of the events and adds a barrier. -/
theorem EveryRecord.cull (hs : EveryRecord P s) (blockHeight : ℕ) :
    EveryRecord P { s with
      height := s.height + 1
      rollbackEvents := cullRollbackEvents s.rollbackEvents blockHeight } where
  infos := hs.infos
  events height' key' info h := by
    rcases List.mem_cons.mp h with h | h
    · cases h
    · exact hs.events height' key' info ((List.dropWhile_suffix _).subset h)

end Writes

/-! ## The mutators of a block -/

section Block

variable (env : Env) (ctx : Context)

/-- What a property of records needs to hold of every reachable list. -/
structure RecordRule (env : Env) (P : ServiceNodeInfo → Prop) : Prop where
  /-- Every record a registration creates has it. -/
  registered : ∀ ctx tx blockTimestamp blockHeight index key info,
    isRegistrationTx env ctx tx blockTimestamp blockHeight index = some (key, info) → P info
  /-- Contributions keep it. -/
  contributed : ∀ ctx s tx blockHeight index,
    EveryRecord P s → EveryRecord P (processContributionTx env ctx s tx blockHeight index)
  /-- It ignores the place in the reward queue. -/
  waitingSince : ∀ info height index,
    P info → P { info with lastRewardBlockHeight := height, lastRewardTransactionIndex := index }
  /-- It ignores the swarm id. -/
  swarm : ∀ info swarmId, P info → P { info with swarmId }

/-- What a property of records needs to be kept by one block: registrations and contributions
at the block's height under the call's view of the chain, and the writes of the reward queue
and the swarms. -/
structure BlockRule (env : Env) (ctx : Context) (blockHeight : ℕ) (P : ServiceNodeInfo → Prop) :
    Prop where
  /-- Every record a registration in the block creates has it. -/
  registered : ∀ tx blockTimestamp index key info,
    isRegistrationTx env ctx tx blockTimestamp blockHeight index = some (key, info) → P info
  /-- Contributions in the block keep it. -/
  contributed : ∀ s tx index,
    EveryRecord P s → EveryRecord P (processContributionTx env ctx s tx blockHeight index)
  /-- It ignores the place in the reward queue. -/
  waitingSince : ∀ info height index,
    P info → P { info with lastRewardBlockHeight := height, lastRewardTransactionIndex := index }
  /-- It ignores the swarm id. -/
  swarm : ∀ info swarmId, P info → P { info with swarmId }

variable {env ctx} {blockHeight : ℕ}

/-- A rule for every call is a rule for each block. -/
theorem RecordRule.block (hrule : RecordRule env P) (ctx : Context) (blockHeight : ℕ) :
    BlockRule env ctx blockHeight P where
  registered tx blockTimestamp index := hrule.registered ctx tx blockTimestamp blockHeight index
  contributed s tx index := hrule.contributed ctx s tx blockHeight index
  waitingSince := hrule.waitingSince
  swarm := hrule.swarm

theorem expireNodes_everyRecord (blockHeight : ℕ) :
    ∀ {s : ServiceNodeList} {keys : List PublicKey},
      EveryRecord P s → EveryRecord P (expireNodes blockHeight s keys).1
  | _, [], hs => hs
  | s, key :: keys, hs => by
    simp only [expireNodes]
    split
    · exact expireNodes_everyRecord blockHeight hs
    · rename_i info hinfo
      exact expireNodes_everyRecord blockHeight (hs.erase hinfo)

theorem updateWinner_everyRecord (hrule : BlockRule env ctx blockHeight P) {s : ServiceNodeList}
    (hs : EveryRecord P s) (block : Block) : EveryRecord P (updateWinner s block) := by
  simp only [updateWinner]
  split
  · exact hs
  · rename_i info hinfo
    exact hs.change hinfo (hrule.waitingSince _ _ _ (hs.infos _ _ hinfo))

theorem applySwarm_everyRecord (hrule : BlockRule env ctx blockHeight P) (height : ℕ)
    (swarmId : UInt64) :
    ∀ {s s' : ServiceNodeList} (snodes : List PublicKey),
      EveryRecord P s → applySwarm height swarmId s snodes = some s' → EveryRecord P s'
  | s, s', [], hs, h => by
    simp only [applySwarm, Option.some.injEq] at h
    exact h ▸ hs
  | s, s', snode :: snodes, hs, h => by
    simp only [applySwarm, Option.bind_eq_bind, Option.bind_eq_some_iff] at h
    obtain ⟨info, hinfo, h⟩ := h
    split at h
    · exact applySwarm_everyRecord hrule height swarmId snodes hs h
    · exact applySwarm_everyRecord hrule height swarmId snodes
        (hs.change hinfo (hrule.swarm _ _ (hs.infos _ _ hinfo))) h

theorem applySwarms_everyRecord (hrule : BlockRule env ctx blockHeight P) (height : ℕ) :
    ∀ {s s' : ServiceNodeList} (swarms : SwarmMap),
      EveryRecord P s → applySwarms height s swarms = some s' → EveryRecord P s'
  | s, s', [], hs, h => by
    simp only [applySwarms, Option.some.injEq] at h
    exact h ▸ hs
  | s, s', (swarmId, snodes) :: rest, hs, h => by
    simp only [applySwarms, Option.bind_eq_bind, Option.bind_eq_some_iff] at h
    obtain ⟨s₁, h₁, h⟩ := h
    exact applySwarms_everyRecord hrule height rest
      (applySwarm_everyRecord hrule height swarmId snodes hs h₁) h

theorem updateSwarms_everyRecord (hrule : BlockRule env ctx blockHeight P) {s s' : ServiceNodeList}
    {height : ℕ} (hs : EveryRecord P s) (h : updateSwarms ctx s height = some s') :
    EveryRecord P s' := by
  simp only [updateSwarms, Option.bind_eq_bind, Option.bind_eq_some_iff] at h
  obtain ⟨swarms, -, h⟩ := h
  exact applySwarms_everyRecord hrule height swarms hs h

theorem processRegistrationTx_everyRecord (hrule : BlockRule env ctx blockHeight P)
    {s s' : ServiceNodeList} {tx : Transaction} {blockTimestamp : UInt64} {index : ℕ}
    (hs : EveryRecord P s)
    (h : processRegistrationTx env ctx s tx blockTimestamp blockHeight index = some s') :
    EveryRecord P s' := by
  obtain ⟨key, info, info', hreg, hinfo', rfl⟩ := processRegistrationTx_eq_some env ctx h
  have hnew : P info' := by
    have hinfo := hrule.registered tx blockTimestamp index key info hreg
    rcases hinfo' with ⟨-, rfl⟩ | ⟨oldInfo, -, -, -, rfl⟩
    · exact hinfo
    · exact hrule.waitingSince _ _ _ hinfo
  exact hs.new hnew

theorem processDeregistrationTx_everyRecord {s s' : ServiceNodeList} {tx : Transaction}
    {blockHeight : ℕ} (hs : EveryRecord P s) (h : processDeregistrationTx s tx blockHeight = some s') :
    EveryRecord P s' := by
  obtain ⟨key, info, hinfo, rfl⟩ := processDeregistrationTx_eq_some h
  exact hs.erase hinfo

theorem processTransaction_everyRecord (hrule : BlockRule env ctx blockHeight P)
    {s : ServiceNodeList} (hs : EveryRecord P s) (tx : Transaction) (blockTimestamp : UInt64)
    (index : ℕ) :
    EveryRecord P (processTransaction env ctx s tx blockTimestamp blockHeight index).1 := by
  have hregistered : EveryRecord P
      ((processRegistrationTx env ctx s tx blockTimestamp blockHeight index).getD s) := by
    cases hr : processRegistrationTx env ctx s tx blockTimestamp blockHeight index with
    | none => exact hs
    | some s' => exact processRegistrationTx_everyRecord hrule hs hr
  have hcontributed := hrule.contributed _ tx index hregistered
  simp only [processTransaction]
  cases hd : processDeregistrationTx
      (processContributionTx env ctx
        ((processRegistrationTx env ctx s tx blockTimestamp blockHeight index).getD s)
        tx blockHeight index) tx blockHeight with
  | none => exact hcontributed
  | some s' => exact processDeregistrationTx_everyRecord hcontributed hd

theorem processTransactions_everyRecord (hrule : BlockRule env ctx blockHeight P)
    (blockTimestamp : UInt64) :
    ∀ (index : ℕ) {s : ServiceNodeList} (txs : List Transaction),
      EveryRecord P s →
        EveryRecord P (processTransactions env ctx blockTimestamp blockHeight index s txs).1
  | _, _, [], hs => hs
  | index, s, tx :: txs, hs => by
    simp only [processTransactions]
    exact processTransactions_everyRecord hrule blockTimestamp (index + 1) txs
      (processTransaction_everyRecord hrule hs tx blockTimestamp index)

/-- `block_added_generic` keeps a property that registrations and contributions keep in blocks
from hard fork 5 on; it does nothing before. -/
theorem blockAddedGeneric_everyRecord {s s' : ServiceNodeList} {block : Block}
    {txs : List Transaction}
    (hrule : 5 ≤ ctx.hardForkVersion block.height → BlockRule env ctx block.height P)
    (hs : EveryRecord P s) (h : blockAddedGeneric env ctx s block txs = some s') :
    EveryRecord P s' := by
  rcases blockAddedGeneric_eq_some env ctx h with ⟨-, rfl⟩ | ⟨h5, s₃, s₄, _, h₃, h₄, rfl⟩
  · exact hs
  · have hrule := hrule h5
    have hprocessed : ∀ keys, EveryRecord P (processTransactions env ctx block.timestamp
        block.height 0 (updateWinner (expireNodes block.height { s with
          height := s.height + 1
          rollbackEvents := cullRollbackEvents s.rollbackEvents block.height } keys).1 block) txs).1 :=
      fun _ => processTransactions_everyRecord hrule block.timestamp 0 txs
        (updateWinner_everyRecord hrule (expireNodes_everyRecord block.height (hs.cull _)) block)
    have hs₃ : EveryRecord P s₃ := by
      split at h₃
      · exact updateSwarms_everyRecord hrule (hprocessed _) h₃
      · exact Option.some.inj h₃ ▸ hprocessed _
    obtain ⟨_, rfl⟩ := storeQuorumStateFromRewardsList_eq_some ctx h₄
    exact ⟨hs₃.infos, hs₃.events⟩

end Block

/-! ## Undo and rebuild -/

section Detach

variable {env : Env} {ctx : Context}

/-- Undoing events puts back only kept records, and keeps a prefix of the events. -/
theorem popEvents_everyRecord {s : ServiceNodeList} {height : ℕ} {infos : Infos}
    {rest : List RollbackEvent} (hs : EveryRecord P s)
    (h : popEvents height s.serviceNodesInfos s.rollbackEvents.reverse = some (infos, rest)) :
    EveryRecord P { s with serviceNodesInfos := infos, rollbackEvents := rest.reverse } := by
  obtain ⟨popped, undos, hsplit, -, hundo, hr⟩ := popEvents_rollback h
  have hmem : ∀ e, e ∈ popped ∨ e ∈ rest → e ∈ s.rollbackEvents := by
    intro e he
    rw [← List.mem_reverse, hsplit, List.mem_append]
    exact he
  constructor
  · refine rollback_values P undos.reverse _ _ ?_ hs.infos hr
    intro k v hu
    have hsome : some (Undo.restore k v) ∈ popped.map RollbackEvent.undo? := by
      rw [hundo]
      exact List.mem_map_of_mem (List.mem_reverse.mp hu)
    obtain ⟨e, he, heu⟩ := List.mem_map.mp hsome
    cases e with
    | rollbackChange height' key info =>
      simp only [RollbackEvent.undo?, Option.some.injEq, Undo.restore.injEq] at heu
      obtain ⟨rfl, rfl⟩ := heu
      exact hs.events height' _ _ (hmem _ (.inl he))
    | rollbackNew => simp [RollbackEvent.undo?] at heu
    | preventRollback => simp [RollbackEvent.undo?] at heu
  · intro height' key info he
    exact hs.events height' key info (hmem _ (.inr (List.mem_reverse.mp he)))

end Detach

/-- A property that every block from hard fork 5 on keeps holds of every record of every
reachable list: `blockchain_detached` only puts back kept records. -/
theorem everyRecord_of_blockRule {env : Env}
    (hrule : ∀ ctx blockHeight, 5 ≤ ctx.hardForkVersion blockHeight → BlockRule env ctx blockHeight P)
    {s : ServiceNodeList} (hs : Reachable env s) : EveryRecord P s :=
  hs.invariant everyRecord_clear
    (fun ctx _ block _ _ hs h => blockAddedGeneric_everyRecord (hrule ctx block.height) hs h)
    (fun _ _ _ _ hs hpop => popEvents_everyRecord hs hpop)
    (fun _ _ hs => ⟨hs.infos, hs.events⟩)

/-- A property that registrations create and contributions keep, and that ignores the reward
queue and the swarm id, holds of every record of every reachable list. -/
theorem RecordRule.reachable {env : Env} (hrule : RecordRule env P) {s : ServiceNodeList}
    (hs : Reachable env s) : EveryRecord P s :=
  everyRecord_of_blockRule (fun ctx blockHeight _ => hrule.block ctx blockHeight) hs

/-! ## Building rules -/

section Rules

variable {env : Env} {Q R : ServiceNodeInfo → Prop} {s : ServiceNodeList}

theorem EveryRecord.mono (hs : EveryRecord P s) (h : ∀ info, P info → Q info) :
    EveryRecord Q s where
  infos key info hinfo := h info (hs.infos key info hinfo)
  events height key info he := h info (hs.events height key info he)

theorem EveryRecord.both (hP : EveryRecord P s) (hQ : EveryRecord Q s)
    (h : ∀ info, P info → Q info → R info) : EveryRecord R s where
  infos key info hinfo := h info (hP.infos key info hinfo) (hQ.infos key info hinfo)
  events height key info he := h info (hP.events height key info he) (hQ.events height key info he)

/-- Two rules make a rule for their conjunction. -/
theorem RecordRule.both (hP : RecordRule env P) (hQ : RecordRule env Q)
    (hR : ∀ info, R info ↔ P info ∧ Q info) : RecordRule env R where
  registered ctx tx blockTimestamp blockHeight index key info h := (hR info).2
    ⟨hP.registered ctx tx blockTimestamp blockHeight index key info h,
      hQ.registered ctx tx blockTimestamp blockHeight index key info h⟩
  contributed ctx s tx blockHeight index hs :=
    (hP.contributed ctx s tx blockHeight index (hs.mono fun info h => ((hR info).1 h).1)).both
      (hQ.contributed ctx s tx blockHeight index (hs.mono fun info h => ((hR info).1 h).2))
      fun info hp hq => (hR info).2 ⟨hp, hq⟩
  waitingSince info height index h := (hR _).2
    ⟨hP.waitingSince info height index ((hR info).1 h).1,
      hQ.waitingSince info height index ((hR info).1 h).2⟩
  swarm info swarmId h := (hR _).2
    ⟨hP.swarm info swarmId ((hR info).1 h).1, hQ.swarm info swarmId ((hR info).1 h).2⟩

/-- Two records agree on the terms of a registration: the staking requirement, the operator's
address and the operator's portions. -/
structure SameTerms (info info' : ServiceNodeInfo) : Prop where
  /-- The same staking requirement. -/
  stakingRequirement : info'.stakingRequirement = info.stakingRequirement
  /-- The same operator. -/
  operatorAddress : info'.operatorAddress = info.operatorAddress
  /-- The same operator portions. -/
  portionsForOperator : info'.portionsForOperator = info.portionsForOperator
  /-- The same operator portions without the fee. -/
  portionsForOperatorNoFee : info'.portionsForOperatorNoFee = info.portionsForOperatorNoFee

/-- A contribution changes the stakes only. -/
theorem applyContribution_sameTerms (info : ServiceNodeInfo) (idx : ℕ) (transferred : UInt64) :
    SameTerms info (applyContribution info idx transferred) := by
  simp only [applyContribution]
  split
  · exact ⟨rfl, rfl, rfl, rfl⟩
  · split <;> exact ⟨rfl, rfl, rfl, rfl⟩

/-- A property of the terms of a registration holds of every reachable record once
registrations create records with it: no later write changes the terms. -/
theorem RecordRule.of_sameTerms
    (hreg : ∀ ctx tx blockTimestamp blockHeight index key info,
      isRegistrationTx env ctx tx blockTimestamp blockHeight index = some (key, info) → P info)
    (hterms : ∀ info info', SameTerms info info' → P info → P info') : RecordRule env P where
  registered := hreg
  contributed ctx s tx blockHeight index hs := by
    rcases processContributionTx_eq env ctx s tx blockHeight index with h | ⟨pubkey, info, -,
      transferred, contributors, idx, -, hinfo, -, -, -, h⟩
    · rw [h]
      exact hs
    rw [h]
    have hsame := applyContribution_sameTerms { info with contributors } idx transferred
    exact hs.change hinfo (hterms info _ ⟨hsame.stakingRequirement, hsame.operatorAddress,
      hsame.portionsForOperator, hsame.portionsForOperatorNoFee⟩ (hs.infos _ _ hinfo))
  waitingSince info _ _ h := hterms info _ ⟨rfl, rfl, rfl, rfl⟩ h
  swarm info _ h := hterms info _ ⟨rfl, rfl, rfl, rfl⟩ h

end Rules

end Equilibria.RecordInvariant

import Equilibria.RecordInvariant
import Equilibria.UndoLog

/-!
# Stake accounting of node records

A record's running totals `total_contributed` and `total_reserved` are the sums of its
contributors' amounts and reservations, nobody has locked more than they reserved, at most the
staking requirement is reserved, the contributors are distinct and at most
`MAX_NUMBER_OF_CONTRIBUTORS_V2`. Registrations create such records: the reservations are
floors of shares of portions that add up to at most `STAKING_PORTIONS`. Contributions keep
them: the transfer is clamped so that the reservation stays within the requirement, and on such
a record none of the 64-bit operations of `process_contribution_tx` wraps, so the running totals
move exactly as the sums do.
-/

namespace Equilibria.StakeAccounting

open CryptonoteBasic MapJournal ServiceNodeRules ServiceNodeState ServiceNodeTx ServiceNodeList
  ServiceNodeRuns RecordInvariant FloorSum IntUtil UndoLog

/-- The stake accounting of a node record. -/
structure StakeInvariant (info : ServiceNodeInfo) : Prop where
  /-- `total_contributed` is the sum of the amounts, without wrapping. -/
  totalContributed_eq :
    info.totalContributed.toNat = (info.contributors.map fun c => c.amount.toNat).sum
  /-- `total_reserved` is the sum of the reservations, without wrapping. -/
  totalReserved_eq :
    info.totalReserved.toNat = (info.contributors.map fun c => c.reserved.toNat).sum
  /-- Nobody has locked more than they reserved. -/
  amount_le_reserved : ∀ c ∈ info.contributors, c.amount ≤ c.reserved
  /-- At most the staking requirement is reserved. -/
  totalReserved_le : info.totalReserved ≤ info.stakingRequirement
  /-- The contributors' addresses are distinct. -/
  addresses_nodup : (info.contributors.map Contribution.address).Nodup
  /-- There are at most `MAX_NUMBER_OF_CONTRIBUTORS_V2` contributors. -/
  length_le : info.contributors.length ≤ maxNumberOfContributorsV2

instance (info : ServiceNodeInfo) : Decidable (StakeInvariant info) :=
  decidable_of_iff
    (info.totalContributed.toNat = (info.contributors.map fun c => c.amount.toNat).sum ∧
      info.totalReserved.toNat = (info.contributors.map fun c => c.reserved.toNat).sum ∧
      (∀ c ∈ info.contributors, c.amount ≤ c.reserved) ∧
      info.totalReserved ≤ info.stakingRequirement ∧
      (info.contributors.map Contribution.address).Nodup ∧
      info.contributors.length ≤ maxNumberOfContributorsV2)
    ⟨fun ⟨h₁, h₂, h₃, h₄, h₅, h₆⟩ => ⟨h₁, h₂, h₃, h₄, h₅, h₆⟩,
      fun h => ⟨h.1, h.2, h.3, h.4, h.5, h.6⟩⟩

example : StakeInvariant ServiceNodeInfo.empty := by decide

variable {info : ServiceNodeInfo}

theorem StakeInvariant.amount_toNat_le (h : StakeInvariant info) :
    ∀ c ∈ info.contributors, c.amount.toNat ≤ c.reserved.toNat :=
  fun c hc => UInt64.le_iff_toNat_le.mp (h.amount_le_reserved c hc)

theorem StakeInvariant.totalReserved_toNat_le (h : StakeInvariant info) :
    info.totalReserved.toNat ≤ info.stakingRequirement.toNat :=
  UInt64.le_iff_toNat_le.mp h.totalReserved_le

/-- Nothing is contributed beyond what is reserved. -/
theorem StakeInvariant.totalContributed_le (h : StakeInvariant info) :
    info.totalContributed ≤ info.totalReserved := by
  rw [UInt64.le_iff_toNat_le, h.totalContributed_eq, h.totalReserved_eq]
  exact List.sum_le_sum h.amount_toNat_le

/-- The stakes add up to at most the staking requirement. -/
theorem StakeInvariant.sum_amounts_le (h : StakeInvariant info) :
    (info.contributors.map fun c => c.amount.toNat).sum ≤ info.stakingRequirement.toNat := by
  have htc := UInt64.le_iff_toNat_le.mp h.totalContributed_le
  rw [← h.totalContributed_eq]
  exact le_trans htc h.totalReserved_toNat_le

/-- The accounting ignores the place in the reward queue and the swarm id. -/
theorem StakeInvariant.of_contributors_eq {info' : ServiceNodeInfo} (h : StakeInvariant info)
    (hc : info'.contributors = info.contributors)
    (htc : info'.totalContributed = info.totalContributed)
    (htr : info'.totalReserved = info.totalReserved)
    (hsr : info'.stakingRequirement = info.stakingRequirement) : StakeInvariant info' where
  totalContributed_eq := by rw [hc, htc]; exact h.totalContributed_eq
  totalReserved_eq := by rw [hc, htr]; exact h.totalReserved_eq
  amount_le_reserved := by rw [hc]; exact h.amount_le_reserved
  totalReserved_le := by rw [htr, hsr]; exact h.totalReserved_le
  addresses_nodup := by rw [hc]; exact h.addresses_nodup
  length_le := by rw [hc]; exact h.length_le

/-! ## The arithmetic of a contribution -/

/-- The 64-bit operations `process_contribution_tx` makes for `contributor` and a transfer of
`transferred`, in the source's order, stay within `uint64_t`: `staking_requirement -
total_reserved`, `contributor.reserved + can_increase_reserved_by`, `max_amount -
contributor.amount`, `contributor.amount += transferred`, `total_contributed += transferred`, and
when the amount passes the reservation, `total_reserved += contributor.amount -
contributor.reserved`. -/
def ContributionNoWrap (info : ServiceNodeInfo) (contributor : Contribution)
    (transferred : UInt64) : Prop :=
  let canIncreaseReservedBy := info.stakingRequirement.toNat - info.totalReserved.toNat
  let maxAmount := contributor.reserved.toNat + canIncreaseReservedBy
  let transferred := min (maxAmount - contributor.amount.toNat) transferred.toNat
  let amount := contributor.amount.toNat + transferred
  info.totalReserved.toNat ≤ info.stakingRequirement.toNat ∧
    maxAmount < 2 ^ 64 ∧
    contributor.amount.toNat ≤ maxAmount ∧
    amount < 2 ^ 64 ∧
    info.totalContributed.toNat + transferred < 2 ^ 64 ∧
    (contributor.reserved.toNat < amount →
      info.totalReserved.toNat + (amount - contributor.reserved.toNat) < 2 ^ 64)

/-- On an accounted record no operation of a contribution wraps, for a listed contributor and
for a new one, who starts with nothing. -/
theorem StakeInvariant.contributionNoWrap (h : StakeInvariant info) {contributor : Contribution}
    (hc : contributor ∈ info.contributors ∨ (contributor.amount = 0 ∧ contributor.reserved = 0))
    (transferred : UInt64) : ContributionNoWrap info contributor transferred := by
  have hsr := info.stakingRequirement.toNat_lt
  have htr := h.totalReserved_toNat_le
  have htc : info.totalContributed.toNat ≤ info.totalReserved.toNat :=
    UInt64.le_iff_toNat_le.mp h.totalContributed_le
  -- the others' amounts add up to at most their reservations
  have hothers : info.totalContributed.toNat + contributor.reserved.toNat ≤
      info.totalReserved.toNat + contributor.amount.toNat ∧
      contributor.amount.toNat ≤ contributor.reserved.toNat ∧
      contributor.reserved.toNat ≤ info.totalReserved.toNat := by
    rcases hc with hc | ⟨ha, hr⟩
    · rw [h.totalContributed_eq, h.totalReserved_eq]
      exact ⟨sum_map_add_le_of_mem h.amount_toNat_le hc, h.amount_toNat_le _ hc,
        List.le_sum_of_mem (List.mem_map_of_mem hc)⟩
    · simp only [ha, hr, UInt64.toNat_zero]
      omega
  simp only [ContributionNoWrap]
  omega

/-- With no wrap, the stake update of a contribution computes on natural numbers: the amount
grows by the clamped transfer, the reservation rises to the amount when it passes it, and the
totals move by the same. -/
theorem applyContribution_toNat {idx : ℕ} {contributor : Contribution} {transferred : UInt64}
    (hidx : info.contributors[idx]? = some contributor)
    (hnw : ContributionNoWrap info contributor transferred) :
    let clamped := min (contributor.reserved.toNat +
      (info.stakingRequirement.toNat - info.totalReserved.toNat) - contributor.amount.toNat)
      transferred.toNat
    let amount := contributor.amount.toNat + clamped
    ∃ c' totalContributed totalReserved,
      applyContribution info idx transferred =
        { info with contributors := info.contributors.set idx c', totalContributed, totalReserved } ∧
      totalContributed.toNat = info.totalContributed.toNat + clamped ∧
      totalReserved.toNat = info.totalReserved.toNat + (amount - contributor.reserved.toNat) ∧
      c'.address = contributor.address ∧ c'.amount.toNat = amount ∧
      c'.reserved.toNat = max amount contributor.reserved.toNat := by
  obtain ⟨hle, hmax, hamt, hamount, htc, htr⟩ := hnw
  have e₁ : (info.stakingRequirement - info.totalReserved).toNat =
      info.stakingRequirement.toNat - info.totalReserved.toNat :=
    UInt64.toNat_sub_of_le _ _ (UInt64.le_iff_toNat_le.mpr hle)
  have e₂ : (contributor.reserved + (info.stakingRequirement - info.totalReserved)).toNat =
      contributor.reserved.toNat + (info.stakingRequirement.toNat - info.totalReserved.toNat) := by
    rw [toNat_add_of_lt (by omega), e₁]
  have e₃ : (contributor.reserved + (info.stakingRequirement - info.totalReserved) -
      contributor.amount).toNat = contributor.reserved.toNat +
        (info.stakingRequirement.toNat - info.totalReserved.toNat) - contributor.amount.toNat := by
    rw [UInt64.toNat_sub_of_le _ _ (UInt64.le_iff_toNat_le.mpr (by omega)), e₂]
  have e₄ : (min (contributor.reserved + (info.stakingRequirement - info.totalReserved) -
      contributor.amount) transferred).toNat = min (contributor.reserved.toNat +
        (info.stakingRequirement.toNat - info.totalReserved.toNat) - contributor.amount.toNat)
        transferred.toNat := by
    rw [UInt64.toNat_min, e₃]
  have e₅ := toNat_add_of_lt (a := contributor.amount) (e₄ ▸ hamount)
  have e₆ := toNat_add_of_lt (a := info.totalContributed) (e₄ ▸ htc)
  rw [e₄] at e₅ e₆
  simp only [applyContribution, hidx]
  split
  · rename_i hgt
    have hsub := UInt64.toNat_sub_of_le _ _ (UInt64.le_of_lt hgt)
    rw [e₅] at hsub
    rw [gt_iff_lt, UInt64.lt_iff_toNat_lt, e₅] at hgt
    refine ⟨_, _, _, rfl, e₆, ?_, rfl, e₅, by dsimp only; rw [e₅]; omega⟩
    rw [toNat_add_of_lt (by rw [hsub]; exact htr hgt), hsub]
  · rename_i hle'
    rw [gt_iff_lt, UInt64.lt_iff_toNat_lt, e₅] at hle'
    exact ⟨_, _, info.totalReserved, rfl, e₆, by omega, rfl, e₅, by dsimp only; omega⟩

/-! ## Contributions keep the accounting -/

/-- A contribution to a listed contributor keeps the accounting: the running totals move by what
the sums move by. -/
theorem StakeInvariant.applyContribution (h : StakeInvariant info) {idx : ℕ}
    {contributor : Contribution} (hidx : info.contributors[idx]? = some contributor)
    (transferred : UInt64) : StakeInvariant (applyContribution info idx transferred) := by
  have hnw := h.contributionNoWrap (.inl (List.mem_of_getElem? hidx)) transferred
  obtain ⟨c', tc', tr', heq, htc', htr', haddr, hamount, hreserved⟩ := applyContribution_toNat hidx hnw
  obtain ⟨hle, -, hamt, -, -, -⟩ := hnw
  have hsumA := sum_map_set_add (fun c => c.amount.toNat) info.contributors hidx c'
  have hsumR := sum_map_set_add (fun c => c.reserved.toNat) info.contributors hidx c'
  have htc := h.totalContributed_eq
  have htr := h.totalReserved_eq
  have hidx' : idx < info.contributors.length := (List.getElem?_eq_some_iff.mp hidx).1
  rw [heq]
  constructor
  · dsimp only at hsumA ⊢
    omega
  · dsimp only at hsumR ⊢
    omega
  · intro c hc
    rcases List.mem_or_eq_of_mem_set hc with hc | rfl
    · exact h.amount_le_reserved c hc
    · rw [UInt64.le_iff_toNat_le, hamount, hreserved]
      omega
  · rw [UInt64.le_iff_toNat_le]
    dsimp only
    omega
  · have hlen : idx < (info.contributors.map Contribution.address).length := by simpa using hidx'
    have hget : (info.contributors.map Contribution.address)[idx] = contributor.address := by
      simp [(List.getElem?_eq_some_iff.mp hidx).2]
    have hself : (info.contributors.map Contribution.address).set idx contributor.address =
        info.contributors.map Contribution.address := by
      rw [← hget]
      exact List.set_getElem_self hlen
    dsimp only
    rw [List.map_set, haddr, hself]
    exact h.addresses_nodup
  · dsimp only
    rw [List.length_set]
    exact h.length_le

/-- A new contributor with nothing locked keeps the accounting while there is room and its
address is new. -/
theorem StakeInvariant.append_new (h : StakeInvariant info) {address : AccountPublicAddress}
    (hnew : address ∉ info.contributors.map Contribution.address)
    (hroom : info.contributors.length < maxNumberOfContributorsV2) :
    StakeInvariant { info with contributors := info.contributors ++ [⟨0, 0, address⟩] } where
  totalContributed_eq := by simpa using h.totalContributed_eq
  totalReserved_eq := by simpa using h.totalReserved_eq
  amount_le_reserved c hc := by
    rcases List.mem_append.mp hc with hc | hc
    · exact h.amount_le_reserved c hc
    · simp only [List.mem_singleton] at hc
      subst hc
      exact UInt64.le_refl 0
  totalReserved_le := h.totalReserved_le
  addresses_nodup := by
    simp only [List.map_append, List.map_cons, List.map_nil]
    exact List.nodup_append.mpr ⟨h.addresses_nodup, List.nodup_singleton _,
      fun a ha b hb => by
        simp only [List.mem_singleton] at hb
        subst hb
        exact fun hab => hnew (hab ▸ ha)⟩
  length_le := by
    simp only [List.length_append, List.length_singleton]
    omega

variable (env : Env) (ctx : Context)

/-- `process_contribution_tx` keeps the accounting of every record. -/
theorem processContributionTx_everyRecord {s : ServiceNodeList} (hs : EveryRecord StakeInvariant s)
    (tx : Transaction) (blockHeight index : ℕ) :
    EveryRecord StakeInvariant (processContributionTx env ctx s tx blockHeight index) := by
  rcases processContributionTx_eq env ctx s tx blockHeight index with h | ⟨pubkey, info, address,
    transferred, contributors, idx, -, hinfo, -, -, hcase, h⟩
  · rw [h]
    exact hs
  rw [h]
  have hinv := hs.infos _ _ hinfo
  -- the record the transfer is applied to, and the contributor it goes to
  obtain ⟨contributor, hinv', hidx⟩ : ∃ contributor,
      StakeInvariant { info with contributors } ∧ contributors[idx]? = some contributor := by
    rcases hcase with ⟨hfind, rfl⟩ | ⟨hfind, hroom, -, rfl, rfl⟩
    · obtain ⟨hlt, -, -⟩ := List.findIdx?_eq_some_iff_getElem.mp hfind
      exact ⟨_, hinv.of_contributors_eq rfl rfl rfl rfl, List.getElem?_eq_getElem hlt⟩
    · have hnew : address ∉ info.contributors.map Contribution.address := by
        intro hmem
        obtain ⟨c, hc, rfl⟩ := List.mem_map.mp hmem
        simpa using List.findIdx?_eq_none_iff.mp hfind c hc
      have hroom' : info.contributors.length < maxNumberOfContributorsV2 := by
        split at hroom <;> simp only [maxNumberOfContributors, maxNumberOfContributorsV2] at hroom ⊢ <;>
          omega
      exact ⟨⟨0, 0, address⟩, hinv.append_new hnew hroom', by simp⟩
  exact hs.change hinfo ((hinv'.applyContribution hidx transferred).of_contributors_eq rfl rfl rfl rfl)

/-! ## Registrations create accounted records -/

/-- The contributor loop of `is_registration_tx` reserves each share of the stake for its
address, with nothing locked yet; it goes through only when no address repeats one before it,
and its 64-bit total is the sum of the reservations modulo `2^64`. -/
theorem reserveContributors_eq_some (stakingRequirement : UInt64) :
    ∀ (seen : List AccountPublicAddress) (pairs : List (AccountPublicAddress × UInt64))
      (total : UInt64) {contributors : List Contribution} {totalReserved : UInt64},
      reserveContributors stakingRequirement seen pairs total = some (contributors, totalReserved) →
      contributors = pairs.map (fun p => ⟨0, portionsToAmount p.2 stakingRequirement, p.1⟩) ∧
      (seen.Nodup → (seen ++ pairs.map Prod.fst).Nodup) ∧
      totalReserved.toNat =
        (total.toNat + (contributors.map fun c => c.reserved.toNat).sum) % 2 ^ 64
  | seen, [], total, contributors, totalReserved, h => by
    simp only [reserveContributors, Option.some.injEq, Prod.mk.injEq] at h
    obtain ⟨rfl, rfl⟩ := h
    exact ⟨rfl, by simp, by simp [Nat.mod_eq_of_lt total.toNat_lt]⟩
  | seen, (address, portion) :: rest, total, contributors, totalReserved, h => by
    simp only [reserveContributors] at h
    split at h
    · cases h
    · rename_i hfresh
      rw [Option.map_eq_some_iff] at h
      obtain ⟨⟨contributors', totalReserved'⟩, hrest, hr⟩ := h
      simp only [Prod.mk.injEq] at hr
      obtain ⟨rfl, rfl⟩ := hr
      obtain ⟨hcs, hnodup, htotal⟩ := reserveContributors_eq_some stakingRequirement
        (seen ++ [address]) rest _ hrest
      refine ⟨by rw [hcs]; rfl, fun hseen => ?_, ?_⟩
      · have := hnodup (List.nodup_append.mpr ⟨hseen, List.nodup_singleton _,
          fun a ha b hb => by
            simp only [List.mem_singleton] at hb
            subst hb
            exact fun hab => hfresh (hab ▸ ha)⟩)
        simpa using this
      · rw [htotal, UInt64.toNat_add]
        simp only [List.map_cons, List.sum_cons, Nat.mod_add_mod]
        congr 1
        omega

variable {env ctx} in
/-- Every record `is_registration_tx` builds is accounted: the reservations are floors of the
staking requirement's shares, whose portions add up to at most `STAKING_PORTIONS`, so they add up
to at most the requirement and their 64-bit total does not wrap. -/
theorem isRegistrationTx_stakeInvariant {tx : Transaction} {blockTimestamp : UInt64}
    {blockHeight index : ℕ} {key : PublicKey} {info : ServiceNodeInfo}
    (h : isRegistrationTx env ctx tx blockTimestamp blockHeight index = some (key, info)) :
    StakeInvariant info := by
  obtain ⟨f, -, -, hlen, -, hcheck, -, hmax, -, hreserve, htc, -⟩ := isRegistrationTx_eq_some env ctx h
  obtain ⟨hcs, hnodup, htr⟩ := reserveContributors_eq_some _ [] _ 0 hreserve
  have hfst : (f.addresses.zip f.portions).map Prod.fst = f.addresses := List.map_fst_zip (by omega)
  have hsnd : (f.addresses.zip f.portions).map Prod.snd = f.portions := List.map_snd_zip (by omega)
  -- the portions add up to at most a whole stake, hence so do the reservations
  have hportions : ((f.addresses.zip f.portions).map fun p => p.2.toNat).sum ≤
      stakingPortions.toNat := by
    have hsum := checkServiceNodePortions_sum_le _ _ hcheck
    rwa [← hsnd, List.map_map] at hsum
  have hreserved : (info.contributors.map fun c => c.reserved.toNat).sum ≤
      info.stakingRequirement.toNat := by
    rw [hcs, List.map_map]
    calc ((f.addresses.zip f.portions).map fun p =>
            (portionsToAmount p.2 info.stakingRequirement).toNat).sum
        = ((f.addresses.zip f.portions).map fun p =>
            info.stakingRequirement.toNat * p.2.toNat / stakingPortions.toNat).sum := by
          congr 1
          refine List.map_congr_left fun p hp => portionsToAmount_toNat _ _ ?_
          exact le_trans (List.le_sum_of_mem (List.mem_map.mpr ⟨p, hp, rfl⟩)) hportions
      _ ≤ info.stakingRequirement.toNat :=
          sum_map_mul_div_le_of_sum_le _ (fun p : AccountPublicAddress × UInt64 => p.2.toNat) _ _
            hportions
  have htr' : info.totalReserved.toNat = (info.contributors.map fun c => c.reserved.toNat).sum := by
    rw [htr, UInt64.toNat_zero, Nat.zero_add,
      Nat.mod_eq_of_lt (lt_of_le_of_lt hreserved info.stakingRequirement.toNat_lt)]
  constructor
  · rw [htc, hcs]
    simp [Function.comp_def]
  · exact htr'
  · intro c hc
    rw [hcs] at hc
    obtain ⟨p, -, rfl⟩ := List.mem_map.mp hc
    exact UInt64.zero_le
  · rw [UInt64.le_iff_toNat_le, htr']
    exact hreserved
  · rw [hcs, List.map_map]
    have hn := hnodup List.nodup_nil
    rw [List.nil_append] at hn
    exact hn
  · rw [hcs, List.length_map, List.length_zip]
    simp only [maxNumberOfContributors, maxNumberOfContributorsV2] at hmax ⊢
    omega

/-- The accounting is a property of records in the sense of `RecordRule`. -/
theorem stakeRecordRule : RecordRule env StakeInvariant where
  registered _ _ _ _ _ _ _ h := isRegistrationTx_stakeInvariant h
  contributed ctx _ tx blockHeight index hs := processContributionTx_everyRecord env ctx hs tx blockHeight index
  waitingSince _ _ _ h := h.of_contributors_eq rfl rfl rfl rfl
  swarm _ _ h := h.of_contributors_eq rfl rfl rfl rfl

/-- In every reachable list every record is accounted, nothing is contributed beyond what is
reserved, and no 64-bit operation of a contribution to it wraps. -/
theorem reachable_stakeInvariant {s : ServiceNodeList} (hs : Reachable env s) {key : PublicKey}
    {info : ServiceNodeInfo} (hinfo : s.serviceNodesInfos.lookup key = some info) :
    StakeInvariant info ∧ info.totalContributed ≤ info.totalReserved ∧
      ∀ contributor, (contributor ∈ info.contributors ∨
          (contributor.amount = 0 ∧ contributor.reserved = 0)) →
        ∀ transferred, ContributionNoWrap info contributor transferred := by
  have hinv := ((stakeRecordRule env).reachable hs).infos key info hinfo
  exact ⟨hinv, hinv.totalContributed_le, fun _ hc transferred => hinv.contributionNoWrap hc transferred⟩

/-- The record of `nodeKey` at the end of the grace run. -/
def graceRecord : ServiceNodeInfo :=
  (graceState.serviceNodesInfos.lookup nodeKey).get (by decide +kernel)

theorem graceRecord_stakeInvariant :
    graceState.serviceNodesInfos.lookup nodeKey = some graceRecord ∧
      StakeInvariant graceRecord ∧ graceRecord.totalContributed ≤ graceRecord.totalReserved ∧
      ∀ contributor, (contributor ∈ graceRecord.contributors ∨
          (contributor.amount = 0 ∧ contributor.reserved = 0)) →
        ∀ transferred, ContributionNoWrap graceRecord contributor transferred := by
  have hlookup : graceState.serviceNodesInfos.lookup nodeKey = some graceRecord :=
    Option.eq_some_of_isSome _
  exact ⟨hlookup, reachable_stakeInvariant graceEnv graceState_inStepReachable.reachable hlookup⟩

end Equilibria.StakeAccounting

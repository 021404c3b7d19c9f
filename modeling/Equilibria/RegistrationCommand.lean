import Equilibria.ServiceNodeTx

/-!
# Registration arguments

`service_nodes::convert_registration_args` of `service_node_list.cpp`: the helper the wallet
and the daemon use to turn a registration command's words into the operator's portions, the
contributors' addresses and their portions, which `is_registration_tx` then checks on chain.

`boost::lexical_cast<uint64_t>` is modelled as boost implements it: an optional sign, then at
least one decimal digit, the value below `2^64`, and a minus sign negating modulo `2^64`.
`cryptonote::get_account_address_from_str` decodes base58, parses the key blob and checks both
keys on the curve; it is a parameter here. A failure is the message the source writes to
`err_msg`, or `none` where it only logs. On failure the source leaves its out-parameters
partly filled; no caller reads them then, and the model returns nothing.
-/

namespace Equilibria.RegistrationCommand

open CryptonoteBasic ServiceNodeRules ServiceNodeState ServiceNodeTx

/-- `cryptonote::address_parse_info`, without the payment id nothing here reads. -/
structure AddressParseInfo where
  /-- `address`. -/
  address : AccountPublicAddress
  /-- `is_subaddress`. -/
  isSubaddress : Bool
  /-- `has_payment_id`. -/
  hasPaymentId : Bool
  deriving DecidableEq, Repr

/-- The value of a run of decimal digits; `none` if it is empty or holds another character. -/
def decimalValue (ds : List Char) : Option ℕ :=
  if ds ≠ [] ∧ ds.all Char.isDigit then
    some (ds.foldl (fun n c => 10 * n + (c.toNat - '0'.toNat)) 0)
  else none

/-- `boost::lexical_cast<uint64_t>`. -/
def lexicalCastUInt64 (s : String) : Option UInt64 :=
  let (hasMinus, ds) := match s.toList with
    | '-' :: ds => (true, ds)
    | '+' :: ds => (false, ds)
    | ds => (false, ds)
  match decimalValue ds with
  | some n =>
    if n < 2 ^ 64 then some (if hasMinus then 0 - UInt64.ofNat n else UInt64.ofNat n) else none
  | none => none

/-- The out-parameters of a successful `convert_registration_args`. -/
structure RegistrationArgs where
  /-- `addresses`. -/
  addresses : List AccountPublicAddress
  /-- `portions`. -/
  portions : List UInt64
  /-- `portions_for_operator`. -/
  portionsForOperator : UInt64
  /-- `autostake`. -/
  autostake : Bool
  deriving DecidableEq, Repr

/-- The contributor loop of `convert_registration_args`: address and amount words in pairs,
with `portionsLeft` of `STAKING_PORTIONS` still open. -/
def convertContributors (getAccountAddressFromStr : String → Option AddressParseInfo) :
    UInt64 → List String → Except (Option String) (List AccountPublicAddress × List UInt64)
  | portionsLeft, address :: amount :: args => do
    let some info := getAccountAddressFromStr address
      | throw (some ("failed to parse address: " ++ address))
    if info.hasPaymentId then throw (some "can't use a payment id for staking tx")
    if info.isSubaddress then throw (some "can't use a subaddress for staking tx")
    let some numPortions := lexicalCastUInt64 amount
      | throw (some ("invalid amount for contributor " ++ address))
    let minPortions := min portionsLeft CryptonoteBasic.minPortions
    if numPortions < minPortions || numPortions > portionsLeft then
      throw (some ("invalid amount for contributor " ++ address))
    let (addresses, portions) ←
      convertContributors getAccountAddressFromStr (portionsLeft - numPortions) args
    pure (info.address :: addresses, numPortions :: portions)
  -- the word count is odd, so no address is ever left without its amount
  | _, _ => pure ([], [])

/-- The leading `auto` word of a registration command: whether it is there, and the words
after it. -/
def autostakePrefix : List String → Bool × List String
  | "auto" :: args => (true, args)
  | args => (false, args)

/-- `convert_registration_args`. -/
def convertRegistrationArgs
    (getAccountAddressFromStr : NetworkType → String → Option AddressParseInfo)
    (nettype : NetworkType) (args : List String) : Except (Option String) RegistrationArgs := do
  let (autostake, args) := autostakePrefix args
  if args.length % 2 = 0 ∨ args.length < 4 then throw none
  if (args.length - 1) / 2 > maxNumberOfContributorsV2 then
    throw (some ("Exceeds the maximum number of contributors, which is " ++
      toString maxNumberOfContributorsV2))
  let operatorFee :: args := args | throw none
  let some portionsForOperator := lexicalCastUInt64 operatorFee | throw none
  -- `portions_for_operator > STAKING_PORTIONS > STAKING_PORTIONS` compares the Boolean
  -- `portions_for_operator > STAKING_PORTIONS`, promoted to 0 or 1, with `STAKING_PORTIONS`
  if (if portionsForOperator > stakingPortions then 1 else 0 : UInt64) > stakingPortions then
    throw none
  let (addresses, portions) ←
    convertContributors (getAccountAddressFromStr nettype) stakingPortions args
  pure ⟨addresses, portions, portionsForOperator, autostake⟩

/-! ## What the helper accepts -/

/-- One pass of the contributor loop: the address parses to a plain address, the amount parses
and lies between the bound and what is left, and the rest of the words are accepted with that
much less left. -/
theorem convertContributors_cons_eq_ok {g : String → Option AddressParseInfo}
    {portionsLeft : UInt64} {address amount : String} {args : List String}
    {r : List AccountPublicAddress × List UInt64} :
    convertContributors g portionsLeft (address :: amount :: args) = .ok r ↔
      ∃ info numPortions rest, g address = some info ∧ info.hasPaymentId = false ∧
        info.isSubaddress = false ∧ lexicalCastUInt64 amount = some numPortions ∧
        min portionsLeft minPortions ≤ numPortions ∧ numPortions ≤ portionsLeft ∧
        convertContributors g (portionsLeft - numPortions) args = .ok rest ∧
        r = (info.address :: rest.1, numPortions :: rest.2) := by
  simp only [convertContributors]
  cases hinfo : g address with
  | none => simp [throw, throwThe, MonadExceptOf.throw]
  | some info =>
    cases hpay : info.hasPaymentId <;> cases hsub : info.isSubaddress <;>
      cases hnum : lexicalCastUInt64 amount <;>
      simp [hpay, hsub, throw, throwThe, MonadExceptOf.throw, bind, Except.bind, pure, Except.pure]
    rename_i numPortions
    by_cases hbound : numPortions < min portionsLeft minPortions ∨ portionsLeft < numPortions
    · -- the amount is out of range: an error, and the bounds fail
      simp only [hbound, if_true, reduceCtorEq, false_iff, not_and]
      intro hmin hle
      rw [UInt64.le_iff_toNat_le] at hmin hle
      rcases hbound with h | h <;> rw [UInt64.lt_iff_toNat_lt] at h <;> omega
    · simp only [hbound, if_false]
      rw [not_or, UInt64.not_lt, UInt64.not_lt] at hbound
      cases convertContributors g (portionsLeft - numPortions) args with
      | error e => simp
      | ok rest =>
        obtain ⟨addresses, portions⟩ := rest
        simp [hbound, eq_comm]

/-- The contributor loop runs the rule of `check_service_node_portions`: what it accepts has an
address for every portion, a portion for every pair of words, and passes the check when the
check's bound reads `MIN_PORTIONS`. -/
theorem convertContributors_ok (g : String → Option AddressParseInfo) :
    ∀ (portionsLeft : UInt64) (args : List String) (i : ℕ)
      {addresses : List AccountPublicAddress} {portions : List UInt64},
      convertContributors g portionsLeft args = .ok (addresses, portions) →
      addresses.length = portions.length ∧ portions.length = args.length / 2 ∧
        checkPortionsFrom (fun _ => minPortions) i portionsLeft portions = true
  | _, [], _, _, _, h => by
    simp only [convertContributors, pure, Except.pure, Except.ok.injEq, Prod.mk.injEq] at h
    obtain ⟨rfl, rfl⟩ := h
    simp [checkPortionsFrom]
  | _, [_], _, _, _, h => by
    simp only [convertContributors, pure, Except.pure, Except.ok.injEq, Prod.mk.injEq] at h
    obtain ⟨rfl, rfl⟩ := h
    simp [checkPortionsFrom]
  | portionsLeft, address :: amount :: args, i, _, _, h => by
    obtain ⟨info, numPortions, ⟨addresses, portions⟩, -, -, -, -, hmin, hle, hrec, hr⟩ :=
      convertContributors_cons_eq_ok.mp h
    simp only [Prod.mk.injEq] at hr
    obtain ⟨rfl, rfl⟩ := hr
    obtain ⟨hlen, hhalf, hcheck⟩ := convertContributors_ok g _ args (i + 1) hrec
    refine ⟨by simp [hlen], by simp [hhalf]; omega, ?_⟩
    -- the amount passed the loop's bound, which is the check's
    have hpass : (decide (numPortions < min portionsLeft minPortions) ||
        decide (numPortions > portionsLeft)) = false := by
      simp [UInt64.not_lt.mpr hmin, UInt64.not_lt.mpr hle]
    simp only [checkPortionsFrom, hpass, Bool.false_eq_true, if_false]
    exact hcheck

/-- The operator's portion check of the helper, written as the chained comparison
`portions_for_operator > STAKING_PORTIONS > STAKING_PORTIONS`, rejects no portion. -/
theorem operatorPortionCheck_passes (portionsForOperator : UInt64) :
    ¬ (if portionsForOperator > stakingPortions then 1 else 0 : UInt64) > stakingPortions := by
  split <;> decide

/-- When `convert_registration_args` succeeds: the words after an optional `auto` are the
operator's portion and an even number, at least four, of contributor words, at most
`MAX_NUMBER_OF_CONTRIBUTORS_V2` pairs, all accepted by the contributor loop. Nothing bounds the
operator's portion but its parse. -/
theorem convertRegistrationArgs_eq_ok
    {g : NetworkType → String → Option AddressParseInfo} {nettype : NetworkType}
    {args : List String} {r : RegistrationArgs} :
    convertRegistrationArgs g nettype args = .ok r ↔
      ∃ operatorFee contributors, (autostakePrefix args).2 = operatorFee :: contributors ∧
        contributors.length % 2 = 0 ∧ 4 ≤ contributors.length ∧
        contributors.length / 2 ≤ maxNumberOfContributorsV2 ∧
        lexicalCastUInt64 operatorFee = some r.portionsForOperator ∧
        convertContributors (g nettype) stakingPortions contributors =
          .ok (r.addresses, r.portions) ∧
        r.autostake = (autostakePrefix args).1 := by
  simp only [convertRegistrationArgs]
  obtain ⟨autostake, words⟩ := autostakePrefix args
  rcases words with _ | ⟨operatorFee, contributors⟩
  · simp [throw, throwThe, MonadExceptOf.throw, bind, Except.bind]
  simp only [List.length_cons, Nat.add_sub_cancel, List.cons.injEq, and_assoc, exists_and_left,
    exists_eq_left']
  -- the count and size checks, then the parse of the operator's portion
  by_cases hcount : (contributors.length + 1) % 2 = 0 ∨ contributors.length + 1 < 4
  · simp only [hcount, if_true, throw, throwThe, MonadExceptOf.throw, bind, Except.bind,
      reduceCtorEq, false_iff, not_and]
    omega
  by_cases hsize : contributors.length / 2 > maxNumberOfContributorsV2
  · simp only [hcount, hsize, if_true, if_false, throw, throwThe, MonadExceptOf.throw, bind,
      Except.bind, reduceCtorEq, false_iff, not_and]
    omega
  cases hfee : lexicalCastUInt64 operatorFee with
  | none =>
    simp [hcount, hsize, throw, throwThe, MonadExceptOf.throw]
  | some portionsForOperator =>
    simp only [hcount, hsize, if_false, operatorPortionCheck_passes, bind, Except.bind, pure,
      Except.pure]
    cases convertContributors (g nettype) stakingPortions contributors with
    | error e => simp
    | ok rest =>
      obtain ⟨addresses, portions⟩ := rest
      cases r
      simp only [Except.ok.injEq, RegistrationArgs.mk.injEq, Option.some.injEq, Prod.mk.injEq]
      have hshape : contributors.length % 2 = 0 ∧ 4 ≤ contributors.length ∧
          contributors.length / 2 ≤ maxNumberOfContributorsV2 := by omega
      constructor
      · rintro ⟨rfl, rfl, rfl, rfl⟩
        exact ⟨hshape.1, hshape.2.1, hshape.2.2, rfl, ⟨rfl, rfl⟩, rfl⟩
      · rintro ⟨-, -, -, rfl, ⟨rfl, rfl⟩, rfl⟩
        exact ⟨rfl, rfl, rfl, rfl⟩

/-- What the helper accepts has an address for every portion, two to
`MAX_NUMBER_OF_CONTRIBUTORS_V2` contributors, and portions that pass
`check_service_node_portions` when its self-initialized bound reads `MIN_PORTIONS`. -/
theorem convertRegistrationArgs_ok {g : NetworkType → String → Option AddressParseInfo}
    {nettype : NetworkType} {args : List String} {r : RegistrationArgs}
    (h : convertRegistrationArgs g nettype args = .ok r) :
    r.addresses.length = r.portions.length ∧ 2 ≤ r.portions.length ∧
      r.portions.length ≤ maxNumberOfContributorsV2 ∧
      checkServiceNodePortions (fun _ => minPortions) r.portions = true := by
  obtain ⟨_, contributors, -, heven, hfour, hmax, -, hloop, -⟩ := convertRegistrationArgs_eq_ok.mp h
  obtain ⟨hlen, hhalf, hcheck⟩ := convertContributors_ok (g nettype) stakingPortions contributors 0 hloop
  refine ⟨hlen, by omega, by omega, hcheck⟩

/-- The helper accepts an operator portion above `STAKING_PORTIONS`, for any two words that
parse to plain addresses; `is_registration_tx` rejects every registration that carries it. -/
theorem oversized_operator_portion_accepted
    (getAccountAddressFromStr : NetworkType → String → Option AddressParseInfo)
    (nettype : NetworkType) (operator contributor : String) (a b : AccountPublicAddress)
    (hoperator : getAccountAddressFromStr nettype operator = some ⟨a, false, false⟩)
    (hcontributor : getAccountAddressFromStr nettype contributor = some ⟨b, false, false⟩) :
    convertRegistrationArgs getAccountAddressFromStr nettype
        ["18446744073709551613", operator, "18446744073709551612", contributor, "0"] =
      .ok ⟨[a, b], [stakingPortions, 0], stakingPortions + 1, false⟩ ∧
    stakingPortions < stakingPortions + 1 ∧
    ∀ (env : Env) (ctx : Context) (tx : Transaction) (f : RegistrationFields)
      (blockTimestamp : UInt64) (blockHeight index : ℕ),
      regTxExtractFields tx = some f → f.portionsForOperator = stakingPortions + 1 →
      isRegistrationTx env ctx tx blockTimestamp blockHeight index = none := by
  have hlast : convertContributors (getAccountAddressFromStr nettype) 0 [contributor, "0"] =
      .ok ([b], [0]) :=
    convertContributors_cons_eq_ok.mpr
      ⟨_, 0, ([], []), hcontributor, rfl, rfl, by decide, by decide, by decide, rfl, rfl⟩
  have hfirst : convertContributors (getAccountAddressFromStr nettype) stakingPortions
      [operator, "18446744073709551612", contributor, "0"] = .ok ([a, b], [stakingPortions, 0]) :=
    convertContributors_cons_eq_ok.mpr
      ⟨_, stakingPortions, ([b], [0]), hoperator, rfl, rfl, by decide, by decide, by decide,
        by rw [UInt64.sub_self]; exact hlast, rfl⟩
  have hfee : lexicalCastUInt64 "18446744073709551613" = some (stakingPortions + 1) := by decide
  refine ⟨convertRegistrationArgs_eq_ok.mpr
    ⟨_, _, rfl, by simp, by simp, by simp [maxNumberOfContributorsV2], hfee, hfirst, rfl⟩,
    by decide, ?_⟩
  -- every accepted registration has an operator portion of at most `STAKING_PORTIONS`
  intro env ctx tx f blockTimestamp blockHeight index hf hop
  cases hreg : isRegistrationTx env ctx tx blockTimestamp blockHeight index with
  | none => rfl
  | some result =>
    obtain ⟨f', hf', -, -, -, -, hle, -⟩ := isRegistrationTx_eq_some env ctx hreg
    rw [hf, Option.some.injEq] at hf'
    subst hf'
    rw [hop] at hle
    exact absurd hle (by decide)

/-- Two words that any parser reads as the null address. -/
theorem nullAddress_oversized_operator_portion :
    convertRegistrationArgs (fun _ _ => some ⟨nullAddress, false, false⟩) .mainnet
        ["18446744073709551613", "operator", "18446744073709551612", "contributor", "0"] =
      .ok ⟨[nullAddress, nullAddress], [stakingPortions, 0], stakingPortions + 1, false⟩ ∧
    stakingPortions < stakingPortions + 1 ∧
    ∀ (env : Env) (ctx : Context) (tx : Transaction) (f : RegistrationFields)
      (blockTimestamp : UInt64) (blockHeight index : ℕ),
      regTxExtractFields tx = some f → f.portionsForOperator = stakingPortions + 1 →
      isRegistrationTx env ctx tx blockTimestamp blockHeight index = none :=
  oversized_operator_portion_accepted _ .mainnet "operator" "contributor" nullAddress nullAddress
    rfl rfl

end Equilibria.RegistrationCommand

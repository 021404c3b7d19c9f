import Equilibria.Random
import Equilibria.OrderedMap

/-!
# Swarm assignment

`calc_swarm_changes` of `service_node_list.cpp`: nodes waiting in the queue swarm are first
given to swarms about to disappear, then nodes are taken from large swarms for swarms still
starving, then queued nodes fill the smallest swarms up to `MAX_SWARM_SIZE`, and while enough
nodes wait, new swarms are made by swapping queued nodes with random members of existing
swarms. Every random choice is a draw from one seeded engine, and the two shuffles seed
engines of their own.

The swarms are an `std::map` from swarm id to a vector of keys, modelled as a list of entries
in increasing id order. The size comparisons read swarms by ids taken from the map, which are
always present there. A computation that divides by zero, reads past a vector or does not
return is `none`. `std::sort` is modelled by insertion sort, which gives the same list since
the ids are distinct.
-/

namespace Equilibria.SwarmChanges

open CryptonoteBasic OrderedMap Equilibria.Random

/-- `std::map<swarm_id_t, std::vector<crypto::public_key>>`. -/
abbrev SwarmMap := OMap UInt64 (List PublicKey)

/-- The number of nodes of a swarm. -/
def swarmSize (m : SwarmMap) (id : UInt64) : ℕ := ((find? m id).getD []).length

/-- `std::max_element` under a size: the first element of largest size. -/
def maxElementBy {α : Type} (size : α → ℕ) : List α → Option α
  | [] => none
  | a :: as => some (as.foldl (fun best x => if size best < size x then x else best) a)

/-- `std::min_element` under a size: the first element of smallest size. -/
def minElementBy {α : Type} (size : α → ℕ) : List α → Option α
  | [] => none
  | a :: as => some (as.foldl (fun best x => if size x < size best then x else best) a)

variable {σ : Type} (E : Engine σ)

/-- The swarms, the queued nodes and the engine, as the steps of `calc_swarm_changes` pass
them on. -/
abbrev SwarmState (σ : Type) := SwarmMap × List PublicKey × σ

/-- `pop_random_snode`: remove and return a uniformly drawn node. -/
def popRandomSnode (s : σ) (vec : List PublicKey) : Option (PublicKey × List PublicKey × σ) := do
  let (idx, s) ← uniformDistributionPortable E s (UInt64.ofNat vec.length)
  let snPk ← vec[idx.toNat]?
  pure (snPk, vec.eraseIdx idx.toNat, s)

/-- The loop of `get_new_swarm_id`, with `fuel` draws left. -/
def getNewSwarmIdLoop (ids : List UInt64) : ℕ → σ → UInt64 → Option (UInt64 × σ)
  | 0, _, _ => none
  | fuel + 1, s, idNew =>
    if idNew = queueSwarmId ∨ idNew ∈ ids then do
      let (idNew, s) ← uniformDistributionPortable E s 0xFFFFFFFFFFFFFFFF
      getNewSwarmIdLoop ids fuel s idNew
    else some (idNew, s)

/-- `get_new_swarm_id`: a drawn id that is neither the queue's nor one of `ids`. -/
def getNewSwarmId (s : σ) (ids : List UInt64) : Option (UInt64 × σ) :=
  getNewSwarmIdLoop E ids drawLimit s queueSwarmId

/-- Step 1 for one starving swarm: move up to `needed` random queued nodes into it. -/
def fillFromBuffer (id : UInt64) : ℕ → SwarmState σ → Option (SwarmState σ)
  | 0, st => some st
  | needed + 1, (m, buffer, s) =>
    if buffer.isEmpty then some (m, buffer, s)
    else do
      let (snPk, buffer, s) ← popRandomSnode E s buffer
      fillFromBuffer id needed (OrderedMap.modify id (· ++ [snPk]) m, buffer, s)

/-- Step 1: fill the starving swarms from the queue, until the queue runs out. -/
def fillStarving : List UInt64 → SwarmState σ → Option (SwarmState σ)
  | [], st => some st
  | id :: ids, (m, buffer, s) => do
    let st ← fillFromBuffer E id (minSwarmSize - swarmSize m id) (m, buffer, s)
    if st.2.1.isEmpty then some st else fillStarving ids st

/-- Step 2 for one starving swarm: take up to `needed` random nodes from the largest swarm while
it has more than `MIN_SWARM_SIZE`; the flag is `can_continue`. -/
def stealFor (allSwarms : List UInt64) (id : UInt64) :
    ℕ → SwarmState σ → Option (SwarmState σ × Bool)
  | 0, st => some (st, true)
  | needed + 1, (m, buffer, s) => do
    let largeSwarm ← maxElementBy (swarmSize m) allSwarms
    if swarmSize m largeSwarm ≤ minSwarmSize then some ((m, buffer, s), false)
    else
      let (snPk, rest, s) ← popRandomSnode E s ((find? m largeSwarm).getD [])
      let m := OrderedMap.modify largeSwarm (fun _ => rest) m
      stealFor allSwarms id needed (OrderedMap.modify id (· ++ [snPk]) m, buffer, s)

/-- Step 2: take nodes from large swarms for the swarms still starving. -/
def stealStarving (allSwarms : List UInt64) : List UInt64 → SwarmState σ → Option (SwarmState σ)
  | [], st => some st
  | id :: ids, (m, buffer, s) =>
    if swarmSize m id = minSwarmSize then stealStarving allSwarms ids (m, buffer, s)
    else do
      let (st, canContinue) ←
        stealFor E allSwarms id (minSwarmSize - swarmSize m id) (m, buffer, s)
      if canContinue then stealStarving allSwarms ids st else some st

/-- Step 3: give queued nodes to the smallest swarm until it is full or the queue is empty;
each round takes one queued node, so `fuel` rounds for `fuel` queued nodes suffice. -/
def fillUnsaturated (allSwarms : List UInt64) : ℕ → SwarmState σ → Option (SwarmState σ)
  | 0, st => some st
  | fuel + 1, (m, buffer, s) =>
    if buffer.isEmpty then some (m, buffer, s)
    else match minElementBy (swarmSize m) allSwarms with
      | none => some (m, buffer, s)
      | some smallestSwarm =>
        if swarmSize m smallestSwarm = maxSwarmSize then some (m, buffer, s)
        else do
          let (snPk, buffer, s) ← popRandomSnode E s buffer
          fillUnsaturated allSwarms fuel (OrderedMap.modify smallestSwarm (· ++ [snPk]) m, buffer, s)

/-- Step 4's selection of `n` nodes for a new swarm: each takes the last queued node, and where
swarms exist swaps it with a random member of a random swarm. -/
def selectSnodes : ℕ → SwarmState σ × List PublicKey → Option (SwarmState σ × List PublicKey)
  | 0, st => some st
  | n + 1, ((m, buffer, s), selected) => do
    let freshSnode ← buffer.getLast?
    let buffer := buffer.dropLast
    if m.length > 0 then
      let (swarmIdx, s) ← uniformDistributionPortable E s (UInt64.ofNat m.length)
      let (key, selectedSwarm) ← m[swarmIdx.toNat]?
      let (snode, selectedSwarm, s) ← popRandomSnode E s selectedSwarm
      selectSnodes n ((OrderedMap.modify key (fun _ => selectedSwarm ++ [freshSnode]) m, buffer, s),
        selected ++ [snode])
    else selectSnodes n ((m, buffer, s), selected ++ [freshSnode])

/-- Step 4: while `MAX_SWARM_SIZE + SWARM_BUFFER` nodes wait, make a new swarm; each round
takes `MAX_SWARM_SIZE` queued nodes, so `fuel` rounds for `fuel` queued nodes suffice. -/
def createSwarms (allSwarms : List UInt64) (seed : UInt64) : ℕ → SwarmState σ → Option (SwarmState σ)
  | 0, st => some st
  | fuel + 1, (m, buffer, s) =>
    if buffer.length ≥ maxSwarmSize + swarmBuffer then do
      let (newSwarmId, s) ← getNewSwarmId E s allSwarms
      let buffer ← tritonShuffle E buffer (seed + newSwarmId)
      let ((m, buffer, s), selected) ← selectSnodes E maxSwarmSize ((m, buffer, s), [])
      createSwarms allSwarms seed fuel (OrderedMap.insert newSwarmId selected m, buffer, s)
    else some (m, buffer, s)

/-- `calc_swarm_changes` over the engine `E`. -/
def calcSwarmChangesWith (swarmToSnodes : SwarmMap) (seed : UInt64) : Option SwarmMap := do
  let s := E.seed seed
  let swarmBuffer := (find? swarmToSnodes queueSwarmId).getD []
  let m := OrderedMap.erase queueSwarmId swarmToSnodes
  let allSwarms ← tritonShuffle E ((keys m).insertionSort (· ≤ ·)) seed
  let starvingSwarms := allSwarms.filter fun id => swarmSize m id < minSwarmSize
  let st ← fillStarving E starvingSwarms (m, swarmBuffer, s)
  let st ← stealStarving E allSwarms starvingSwarms st
  let st ← fillUnsaturated E allSwarms st.2.1.length st
  let (m, buffer, _) ← createSwarms E allSwarms seed st.2.1.length st
  pure (OrderedMap.insert queueSwarmId buffer m)

/-- `calc_swarm_changes`, drawing from `std::mt19937_64`. -/
def calcSwarmChanges (swarmToSnodes : SwarmMap) (seed : UInt64) : Option SwarmMap :=
  calcSwarmChangesWith mt19937_64 swarmToSnodes seed

end Equilibria.SwarmChanges

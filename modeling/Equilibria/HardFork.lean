import Mathlib

/-!
# Hard-fork voting

`HardFork` of `hardfork.cpp`: the fork table built by `add_fork`, the voting window of the
last `window_size` block votes with its histogram `last_versions`, the index of the fork in
force, and the hard-fork version the database records for each height.

`add` accepts a block whose major version is the version in force and whose vote is at least
that version, records that version for the block's height, slides the window and moves to a
later fork once enough of the window votes for it. `reorganize_from_block_height` rebuilds
the window from the blocks of the database, walks the fork index back to the version
recorded at the given height, and replays `add` for the blocks above it.

Heights are natural numbers; the counters of the histogram and the vote sum are 32-bit, as
`unsigned int` and `uint32_t` are in the source, and the threshold is computed in 64 bits and
truncated to 32. The fork table is read after `init`, which puts a placeholder fork of the
original version into an empty table; `init` is modelled on an empty database, where its
rescan returns at once.
-/

namespace Equilibria.HardFork

/-- `hardfork_t`. -/
structure Fork where
  /-- The major block version of the fork. -/
  version : UInt8
  /-- The earliest height at which the fork may take effect. -/
  height : ℕ
  /-- The percentage of the window that has to vote for the fork. -/
  threshold : UInt8
  /-- The time of the fork. -/
  time : Int
  deriving DecidableEq, Repr, Inhabited

/-- The two version fields of a block that the voting reads. -/
structure Block where
  /-- `major_version`. -/
  majorVersion : UInt8
  /-- `minor_version`, the vote. -/
  minorVersion : UInt8
  deriving DecidableEq, Repr, Inhabited

/-- `HardFork::add_fork`: append a fork whose version, height and time are above those of the
last fork, and whose threshold is a percentage. -/
def addFork (heights : List Fork) (version : UInt8) (height : ℕ) (threshold : UInt8)
    (time : Int) : Option (List Fork) :=
  let ordered : Bool := match heights.getLast? with
    | some last => decide (last.version < version ∧ last.height < height ∧ last.time < time)
    | none => true
  if version = 0 ∨ ordered = false ∨ threshold > 100 then none
  else some (heights ++ [⟨version, height, threshold, time⟩])

/-- A table `add_fork` builds: every fork has a nonzero version and a threshold of at most
100, and versions, heights and times increase along the table. -/
def ForkTable (heights : List Fork) : Prop :=
  (∀ f ∈ heights, 0 < f.version ∧ f.threshold ≤ 100) ∧
    heights.Pairwise fun a b => a.version < b.version ∧ a.height < b.height ∧ a.time < b.time

instance : DecidablePred ForkTable := fun heights => by
  unfold ForkTable
  infer_instance

/-- The table `HardFork::init` works with: a placeholder of the original version if no fork
was added. -/
def initHeights (heights : List Fork) (originalVersion : UInt8) : List Fork :=
  if heights = [] then [⟨originalVersion, 0, 0, 0⟩] else heights

/-- The parameters of a `HardFork` and its fork table after `init`. -/
structure Config where
  /-- `heights`, the fork table. -/
  heights : List Fork
  /-- `original_version`. -/
  originalVersion : UInt8
  /-- `window_size`. -/
  windowSize : UInt64

/-- The voting state and the versions the database records. -/
structure State where
  /-- `versions`, the votes of the window, oldest first. -/
  versions : List UInt8
  /-- `last_versions`, the number of votes for each version in the window. -/
  lastVersions : UInt8 → UInt32
  /-- `current_fork_index`. -/
  currentForkIndex : ℕ
  /-- The hard-fork version `set_hard_fork_version` recorded for each height. -/
  dbVersions : ℕ → UInt8

variable (c : Config)

/-- `heights[i]`. -/
def forkAt (i : ℕ) : Fork := c.heights.getD i default

/-- `get_block_vote`: a minor version of 0 votes for version 1. -/
def getBlockVote (b : Block) : UInt8 := if b.minorVersion = 0 then 1 else b.minorVersion

/-- `get_effective_version`: a vote above the last fork counts for the last fork. -/
def getEffectiveVersion (votingVersion : UInt8) : UInt8 :=
  match c.heights.getLast? with
  | some last => if votingVersion > last.version then last.version else votingVersion
  | none => votingVersion

/-- `do_check`: the block has the version in force and votes for it or a later one. -/
def doCheck (st : State) (blockVersion votingVersion : UInt8) : Bool :=
  blockVersion = (forkAt c st.currentForkIndex).version ∧
    votingVersion ≥ (forkAt c st.currentForkIndex).version

/-- Remove one vote for `v` from the histogram. -/
def decVote (lastVersions : UInt8 → UInt32) (v : UInt8) : UInt8 → UInt32 :=
  Function.update lastVersions v (lastVersions v - 1)

/-- Add one vote for `v` to the histogram. -/
def incVote (lastVersions : UInt8 → UInt32) (v : UInt8) : UInt8 → UInt32 :=
  Function.update lastVersions v (lastVersions v + 1)

/-- The loop of `add` that drops the oldest votes while the window is full. -/
def trimWindow (window : ℕ) : List UInt8 → (UInt8 → UInt32) → List UInt8 × (UInt8 → UInt32)
  | [], lastVersions => ([], lastVersions)
  | v :: vs, lastVersions =>
    if (v :: vs).length ≥ window then trimWindow window vs (decVote lastVersions v)
    else (v :: vs, lastVersions)

/-- The loop of `get_voted_fork_index` from fork `n - 1` down, with the votes accumulated over
the later forks. -/
def votedFrom (lastVersions : UInt8 → UInt32) (fallback height : ℕ) : ℕ → UInt32 → ℕ
  | 0, _ => fallback
  | n + 1, acc =>
    let acc := acc + lastVersions (forkAt c n).version
    let threshold := ((c.windowSize * (forkAt c n).threshold.toUInt64 + 99) / 100).toUInt32
    if height ≥ (forkAt c n).height ∧ acc ≥ threshold then n
    else votedFrom lastVersions fallback height n acc

/-- `get_voted_fork_index`: the latest fork whose height is reached and for which, counting
votes for it and for later forks, enough of the window votes; else the fork in force. -/
def getVotedForkIndex (st : State) (height : ℕ) : ℕ :=
  votedFrom c st.lastVersions st.currentForkIndex height c.heights.length 0

/-- Move to the voted fork if it is later; `uint8_t voted` keeps the index modulo 256. -/
def advance (st : State) (height : ℕ) : State :=
  let voted := getVotedForkIndex c st height % 256
  if voted > st.currentForkIndex then { st with currentForkIndex := voted } else st

/-- `HardFork::add(block_version, voting_version, height)`. -/
def add (st : State) (blockVersion votingVersion : UInt8) (height : ℕ) : Bool × State :=
  if doCheck c st blockVersion votingVersion then
    let dbVersions := Function.update st.dbVersions height (forkAt c st.currentForkIndex).version
    let v := getEffectiveVersion c votingVersion
    let (versions, lastVersions) := trimWindow c.windowSize.toNat st.versions st.lastVersions
    let st := { st with
      versions := versions ++ [v]
      lastVersions := incVote lastVersions v
      dbVersions := dbVersions }
    (true, advance c st (height + 1))
  else (false, st)

/-- `HardFork::add(block, height)`. -/
def addBlock (st : State) (b : Block) (height : ℕ) : Bool × State :=
  add c st b.majorVersion (getBlockVote b) height

/-- The loop of `reorganize_from_block_height` that steps the fork index back to the last
fork whose version is not above `startVersion`. -/
def walkBack (startVersion : UInt8) : ℕ → ℕ
  | 0 => 0
  | i + 1 => if (forkAt c (i + 1)).version > startVersion then walkBack startVersion i else i + 1

/-- Push one vote onto a window and its histogram. -/
def pushVote (w : List UInt8 × (UInt8 → UInt32)) (v : UInt8) : List UInt8 × (UInt8 → UInt32) :=
  (w.1 ++ [v], incVote w.2 v)

/-- Add the blocks at the heights `hs` one by one, each with `HardFork::add`. -/
def addBlocks (blocks : List Block) (st : State) (hs : List ℕ) : State :=
  hs.foldl (fun st h => (addBlock c st (blocks.getD h default) h).2) st

/-- Whether every block at the heights `hs`, added one by one, is accepted. -/
def acceptsAll (blocks : List Block) : State → List ℕ → Bool
  | _, [] => true
  | st, h :: hs =>
    (addBlock c st (blocks.getD h default) h).1 && acceptsAll blocks (addBlock c st (blocks.getD h default) h).2 hs

/-- The effective vote of the block at a height. -/
def voteAt (blocks : List Block) (h : ℕ) : UInt8 :=
  getEffectiveVersion c (getBlockVote (blocks.getD h default))

/-- `HardFork::reorganize_from_block_height` over the database's blocks. -/
def reorganizeFromBlockHeight (st : State) (blocks : List Block) (height : ℕ) : Bool × State :=
  if height ≥ blocks.length then (false, st)
  else
    let window := c.windowSize.toNat
    let rescanHeight := if height ≥ window - 1 then height - (window - 1) else 0
    let startVersion := if height = 0 then c.originalVersion else st.dbVersions height
    let currentForkIndex := walkBack c startVersion st.currentForkIndex
    let (versions, lastVersions) := ((List.range' rescanHeight (height + 1 - rescanHeight)).map
      (voteAt c blocks)).foldl pushVote ([], fun _ => 0)
    let st := advance c ⟨versions, lastVersions, currentForkIndex, st.dbVersions⟩ (height + 1)
    (true, addBlocks c blocks st (List.range' (height + 1) (blocks.length - (height + 1))))

/-- The state `init` leaves on an empty database, whose records are `db`. -/
def initState (db : ℕ → UInt8) : State := ⟨[], fun _ => 0, 0, db⟩

end Equilibria.HardFork

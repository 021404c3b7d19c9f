import Equilibria.HardFork

/-!
# Runs of the hard-fork voting

What every run of `HardFork::add` and `HardFork::reorganize_from_block_height` keeps: the
histogram `last_versions` counts the votes of the window (in 32-bit counters), the window
holds at most `window_size` votes, and the fork index stays inside the table.

Over an incremental run, the window after a block is the effective votes of the last
`window_size` blocks, and the database records for each block the version in force before
it. From these, `reorganize_from_block_height` rebuilds exactly the state of the incremental
run after the block at the given height, and its replay of `add` for the blocks above then
reproduces the state of the whole run, database records included.
-/

namespace Equilibria.HardFork

variable (c : Config)

/-! ## The histogram -/

/-- The histogram of a window, in the 32-bit counters of `last_versions`. -/
def countsOf (vs : List UInt8) : UInt8 → UInt32 := fun v => UInt32.ofNat (vs.count v)

theorem incVote_countsOf (vs : List UInt8) (v : UInt8) :
    incVote (countsOf vs) v = countsOf (vs ++ [v]) := by
  funext w
  by_cases hw : w = v
  · subst hw
    simp [incVote, countsOf, List.count_append, UInt32.ofNat_add]
  · simp [incVote, countsOf, List.count_append, Function.update_of_ne hw, Ne.symm hw]

theorem decVote_countsOf (v : UInt8) (vs : List UInt8) :
    decVote (countsOf (v :: vs)) v = countsOf vs := by
  funext w
  by_cases hw : w = v
  · subst hw
    simp [decVote, countsOf, UInt32.ofNat_add]
  · simp [decVote, countsOf, Function.update_of_ne hw, Ne.symm hw]

/-- Pushing votes onto a window keeps its histogram. -/
theorem foldl_pushVote (vs : List UInt8) :
    ∀ w : List UInt8, vs.foldl pushVote (w, countsOf w) = (w ++ vs, countsOf (w ++ vs)) := by
  induction vs with
  | nil => simp
  | cons v vs ih =>
    intro w
    simp only [List.foldl_cons, pushVote, incVote_countsOf]
    rw [ih]
    simp

theorem foldl_pushVote_nil (vs : List UInt8) :
    vs.foldl pushVote ([], fun _ => 0) = (vs, countsOf vs) := by
  have h := foldl_pushVote vs []
  simp only [List.nil_append] at h
  rw [← h]
  rfl

/-- The trimming loop of `add` drops the oldest votes until fewer than `window` are left. -/
theorem trimWindow_countsOf (window : ℕ) :
    ∀ vs : List UInt8, trimWindow window vs (countsOf vs) =
      (vs.drop (vs.length + 1 - window), countsOf (vs.drop (vs.length + 1 - window)))
  | [] => by simp [trimWindow]
  | v :: vs => by
    unfold trimWindow
    split
    · rename_i hfull
      rw [decVote_countsOf, trimWindow_countsOf window vs]
      have hd : (v :: vs).length + 1 - window = (vs.length + 1 - window) + 1 := by
        simp only [List.length_cons] at hfull ⊢
        omega
      rw [hd, List.drop_succ_cons]
    · rename_i hroom
      have hd : (v :: vs).length + 1 - window = 0 := by omega
      rw [hd, List.drop_zero]

/-! ## The fork index -/

/-- The voting loop returns a fork it has looked at, or its fallback. -/
theorem votedFrom_lt (lastVersions : UInt8 → UInt32) (fallback height : ℕ) :
    ∀ (n : ℕ) (acc : UInt32), votedFrom c lastVersions fallback height n acc = fallback ∨
      votedFrom c lastVersions fallback height n acc < n
  | 0, _ => Or.inl rfl
  | n + 1, acc => by
    dsimp only [votedFrom]
    split
    · exact Or.inr (Nat.lt_succ_self n)
    · rcases votedFrom_lt lastVersions fallback height n _ with h | h
      · exact Or.inl h
      · exact Or.inr (Nat.lt_succ_of_lt h)

/-- `advance` moves the fork index to the later of itself and the voted fork. -/
theorem advance_eq (st : State) (height : ℕ) :
    advance c st height = { st with
      currentForkIndex := max st.currentForkIndex (getVotedForkIndex c st height % 256) } := by
  dsimp only [advance]
  by_cases hv : st.currentForkIndex < getVotedForkIndex c st height % 256
  · rw [if_pos hv, Nat.max_eq_right (Nat.le_of_lt hv)]
  · rw [if_neg hv, Nat.max_eq_left (Nat.le_of_not_lt hv)]

@[simp] theorem advance_versions (st : State) (height : ℕ) :
    (advance c st height).versions = st.versions := by
  rw [advance_eq]

@[simp] theorem advance_lastVersions (st : State) (height : ℕ) :
    (advance c st height).lastVersions = st.lastVersions := by
  rw [advance_eq]

@[simp] theorem advance_dbVersions (st : State) (height : ℕ) :
    (advance c st height).dbVersions = st.dbVersions := by
  rw [advance_eq]

theorem advance_index_lt {st : State} (h : st.currentForkIndex < c.heights.length) (height : ℕ) :
    (advance c st height).currentForkIndex < c.heights.length := by
  rw [advance_eq]
  have hv := votedFrom_lt c st.lastVersions st.currentForkIndex height c.heights.length 0
  have hmod := Nat.mod_le (getVotedForkIndex c st height) 256
  unfold getVotedForkIndex at hmod ⊢
  dsimp only
  omega

theorem le_advance_index (st : State) (height : ℕ) :
    st.currentForkIndex ≤ (advance c st height).currentForkIndex := by
  rw [advance_eq]
  exact Nat.le_max_left _ _

theorem walkBack_le (startVersion : UInt8) : ∀ i : ℕ, walkBack c startVersion i ≤ i
  | 0 => Nat.le_refl _
  | i + 1 => by
    unfold walkBack
    split
    · exact Nat.le_succ_of_le (walkBack_le startVersion i)
    · exact Nat.le_refl _

/-- The walk back stops at `k` when every fork after `k` up to the start has a version above
`startVersion`, and fork `k` is the first or has a version not above it. -/
theorem walkBack_eq {startVersion : UInt8} {k : ℕ}
    (hk : k = 0 ∨ (forkAt c k).version ≤ startVersion) :
    ∀ i : ℕ, k ≤ i → (∀ j, k < j → j ≤ i → startVersion < (forkAt c j).version) →
      walkBack c startVersion i = k
  | 0, hki, _ => by unfold walkBack; omega
  | i + 1, hki, habove => by
    unfold walkBack
    rcases Nat.lt_or_eq_of_le hki with hlt | heq
    · rw [if_pos (habove (i + 1) hlt (Nat.le_refl _))]
      exact walkBack_eq hk i (by omega) fun j hkj hji => habove j hkj (by omega)
    · subst heq
      rcases hk with h0 | hle
      · omega
      · rw [if_neg (UInt8.not_lt.mpr hle)]

/-! ## One step -/

/-- What every reachable state keeps: the histogram counts the window's votes in 32-bit
counters, the window has at most `window_size` votes and the fork index is in the table. -/
structure Inv (st : State) : Prop where
  counts : st.lastVersions = countsOf st.versions
  window : st.versions.length ≤ c.windowSize.toNat
  index : st.currentForkIndex < c.heights.length

/-- An accepted block: its version is recorded, the trimmed window gains its effective vote
and the fork index may advance. -/
theorem add_of_check {st : State} {blockVersion votingVersion : UInt8} {height : ℕ}
    (hcheck : doCheck c st blockVersion votingVersion = true) (hinv : Inv c st) :
    add c st blockVersion votingVersion height =
      (true, advance c
        ⟨st.versions.drop (st.versions.length + 1 - c.windowSize.toNat) ++
            [getEffectiveVersion c votingVersion],
          countsOf (st.versions.drop (st.versions.length + 1 - c.windowSize.toNat) ++
            [getEffectiveVersion c votingVersion]),
          st.currentForkIndex,
          Function.update st.dbVersions height (forkAt c st.currentForkIndex).version⟩
        (height + 1)) := by
  unfold add
  rw [if_pos hcheck, hinv.counts, trimWindow_countsOf]
  dsimp only
  rw [incVote_countsOf]

theorem add_of_not_check {st : State} {blockVersion votingVersion : UInt8} {height : ℕ}
    (hcheck : doCheck c st blockVersion votingVersion = false) :
    add c st blockVersion votingVersion height = (false, st) := by
  unfold add
  rw [if_neg (by simp [hcheck])]

theorem add_inv (hw : 0 < c.windowSize.toNat) {st : State} (hinv : Inv c st)
    (blockVersion votingVersion : UInt8) (height : ℕ) :
    Inv c (add c st blockVersion votingVersion height).2 := by
  cases hcheck : doCheck c st blockVersion votingVersion with
  | false => rw [add_of_not_check c hcheck]; exact hinv
  | true =>
    rw [add_of_check c hcheck hinv]
    have hlen := hinv.window
    dsimp only
    refine ⟨by simp, ?_, advance_index_lt c (by exact hinv.index) _⟩
    simp only [advance_versions, List.length_append, List.length_drop, List.length_singleton]
    omega

theorem addBlocks_inv (hw : 0 < c.windowSize.toNat) (blocks : List Block) :
    ∀ (hs : List ℕ) (st : State), Inv c st → Inv c (addBlocks c blocks st hs)
  | [], _, hinv => hinv
  | h :: hs, _, hinv => addBlocks_inv hw blocks hs _ (add_inv c hw hinv _ _ h)

/-- The window `reorganize_from_block_height` rebuilds: the effective votes of the blocks from
`rescan_height` up to `height`. -/
theorem reorganize_inv (hw : 0 < c.windowSize.toNat) {st : State} (hinv : Inv c st)
    (blocks : List Block) (height : ℕ) :
    Inv c (reorganizeFromBlockHeight c st blocks height).2 := by
  unfold reorganizeFromBlockHeight
  split
  · exact hinv
  · dsimp only
    rw [foldl_pushVote_nil]
    refine addBlocks_inv c hw blocks _ _ ⟨by simp, ?_, advance_index_lt c ?_ _⟩
    · simp only [advance_versions, List.length_map, List.length_range']
      split <;> omega
    · exact Nat.lt_of_le_of_lt (walkBack_le c _ _) hinv.index

/-! ## Reachable states -/

/-- One call that changes the voting state: `add` of any block at any height, or a
reorganisation over any chain of blocks. -/
inductive Step : State → State → Prop
  | add (st : State) (blockVersion votingVersion : UInt8) (height : ℕ) :
      Step st (add c st blockVersion votingVersion height).2
  | reorganize (st : State) (blocks : List Block) (height : ℕ) :
      Step st (reorganizeFromBlockHeight c st blocks height).2

/-- The states reachable from `init` on an empty database. -/
def Reachable (st : State) : Prop :=
  ∃ db, Relation.ReflTransGen (Step c) (initState db) st

theorem inv_initState (hne : c.heights ≠ []) (db : ℕ → UInt8) : Inv c (initState db) :=
  ⟨by funext v; simp [initState, countsOf], by simp [initState],
    List.length_pos_iff.mpr hne⟩

theorem reachable_inv (hne : c.heights ≠ []) (hw : 0 < c.windowSize.toNat) {st : State}
    (h : Reachable c st) : Inv c st := by
  obtain ⟨db, hrun⟩ := h
  induction hrun with
  | refl => exact inv_initState c hne db
  | tail _ hstep ih =>
    cases hstep with
    | add bv vv height => exact add_inv c hw ih bv vv height
    | reorganize blocks height => exact reorganize_inv c hw ih blocks height

/-! ## Adding blocks -/

theorem add_fst (st : State) (blockVersion votingVersion : UInt8) (height : ℕ) :
    (add c st blockVersion votingVersion height).1 = doCheck c st blockVersion votingVersion := by
  cases hcheck : doCheck c st blockVersion votingVersion with
  | false => rw [add_of_not_check c hcheck]
  | true => dsimp only [add]; rw [if_pos hcheck]

/-- `add` writes the database at the block's height only. -/
theorem add_dbVersions_of_ne (st : State) (blockVersion votingVersion : UInt8) {height x : ℕ}
    (hx : x ≠ height) :
    (add c st blockVersion votingVersion height).2.dbVersions x = st.dbVersions x := by
  dsimp only [add]
  split
  · simp [Function.update_of_ne hx]
  · rfl

/-- `add` does not read the database: on a state with other records it does the same and
writes the same record. -/
theorem add_withDb (st : State) (d : ℕ → UInt8) (blockVersion votingVersion : UInt8)
    (height : ℕ) (hcheck : doCheck c st blockVersion votingVersion = true) :
    add c { st with dbVersions := d } blockVersion votingVersion height =
      (true, { (add c st blockVersion votingVersion height).2 with
        dbVersions := Function.update d height (forkAt c st.currentForkIndex).version }) := by
  have hcheck' : doCheck c { st with dbVersions := d } blockVersion votingVersion = true := hcheck
  dsimp only [add]
  rw [if_pos hcheck, if_pos hcheck']
  simp [advance_eq, getVotedForkIndex]

theorem le_add_index (st : State) (blockVersion votingVersion : UInt8) (height : ℕ) :
    st.currentForkIndex ≤ (add c st blockVersion votingVersion height).2.currentForkIndex := by
  dsimp only [add]
  split
  · rw [advance_eq]
    exact Nat.le_max_left _ _
  · exact Nat.le_refl _

section Blocks

variable (blocks : List Block)

theorem addBlocks_append (st : State) (hs hs' : List ℕ) :
    addBlocks c blocks st (hs ++ hs') = addBlocks c blocks (addBlocks c blocks st hs) hs' :=
  List.foldl_append

theorem acceptsAll_append (hs' : List ℕ) :
    ∀ (hs : List ℕ) (st : State), acceptsAll c blocks st (hs ++ hs') =
      (acceptsAll c blocks st hs && acceptsAll c blocks (addBlocks c blocks st hs) hs')
  | [], _ => by simp [acceptsAll, addBlocks]
  | h :: hs, st => by
    simp only [List.cons_append, acceptsAll, acceptsAll_append hs' hs, Bool.and_assoc]
    rfl

theorem addBlocks_dbVersions_of_not_mem :
    ∀ (hs : List ℕ) (st : State) (x : ℕ), x ∉ hs →
      (addBlocks c blocks st hs).dbVersions x = st.dbVersions x
  | [], _, _, _ => rfl
  | h :: hs, st, x, hx => by
    have hx' : x ≠ h ∧ x ∉ hs := by simpa only [List.mem_cons, not_or] using hx
    rw [show addBlocks c blocks st (h :: hs) = addBlocks c blocks
      (addBlock c st (blocks.getD h default) h).2 hs from rfl,
      addBlocks_dbVersions_of_not_mem hs _ x hx'.2]
    exact add_dbVersions_of_ne c _ _ _ hx'.1

theorem le_addBlocks_index : ∀ (hs : List ℕ) (st : State),
    st.currentForkIndex ≤ (addBlocks c blocks st hs).currentForkIndex
  | [], _ => Nat.le_refl _
  | h :: hs, st => Nat.le_trans (le_add_index c st _ _ h) (le_addBlocks_index hs _)

/-- A replay over records that differ only at the heights it adds, all of which it accepts,
ends in the same state. -/
theorem addBlocks_withDb : ∀ (hs : List ℕ) (st : State) (d : ℕ → UInt8),
    acceptsAll c blocks st hs = true → (∀ x, x ∉ hs → d x = st.dbVersions x) →
      addBlocks c blocks { st with dbVersions := d } hs = addBlocks c blocks st hs
  | [], st, d, _, hd => by
    have hdb : d = st.dbVersions := funext fun x => hd x List.not_mem_nil
    subst hdb
    rfl
  | h :: hs, st, d, hacc, hd => by
    simp only [acceptsAll, Bool.and_eq_true] at hacc
    have hcheck : doCheck c st (blocks.getD h default).majorVersion
        (getBlockVote (blocks.getD h default)) = true := by
      rw [← add_fst]
      exact hacc.1
    show addBlocks c blocks (addBlock c { st with dbVersions := d } (blocks.getD h default) h).2 hs =
      addBlocks c blocks (addBlock c st (blocks.getD h default) h).2 hs
    unfold addBlock
    rw [add_withDb c st d _ _ h hcheck]
    refine addBlocks_withDb hs _ _ hacc.2 fun x hx => ?_
    by_cases hxh : x = h
    · subst hxh
      rw [Function.update_self]
      dsimp only [add]
      rw [if_pos hcheck]
      simp
    · rw [Function.update_of_ne hxh, add_dbVersions_of_ne c _ _ _ hxh]
      exact hd x (by simp only [List.mem_cons, not_or]; exact ⟨hxh, hx⟩)

end Blocks

/-- An accepted block records the version in force at its height. -/
theorem add_dbVersions_self {st : State} {blockVersion votingVersion : UInt8} {height : ℕ}
    (hcheck : doCheck c st blockVersion votingVersion = true) :
    (add c st blockVersion votingVersion height).2.dbVersions height =
      (forkAt c st.currentForkIndex).version := by
  dsimp only [add]
  rw [if_pos hcheck]
  simp

/-! ## The incremental run -/

/-- The heights below `H`, split at `k`. -/
theorem range_split {k H : ℕ} (hk : k ≤ H) :
    List.range H = List.range k ++ List.range' k (H - k) := by
  have happ := @List.range'_append_1 0 k (H - k)
  rw [Nat.zero_add, Nat.add_sub_cancel' hk] at happ
  rw [List.range_eq_range', List.range_eq_range', happ]

section Incremental

variable (blocks : List Block) (db₀ : ℕ → UInt8)

/-- The state after the blocks below height `k` were added one by one from `init`. -/
def runUpTo (k : ℕ) : State := addBlocks c blocks (initState db₀) (List.range k)

theorem runUpTo_of_le {j k : ℕ} (hjk : j ≤ k) :
    runUpTo c blocks db₀ k = addBlocks c blocks (runUpTo c blocks db₀ j) (List.range' j (k - j)) := by
  unfold runUpTo
  rw [range_split hjk, addBlocks_append]

theorem runUpTo_succ (k : ℕ) :
    runUpTo c blocks db₀ (k + 1) =
      (addBlock c (runUpTo c blocks db₀ k) (blocks.getD k default) k).2 := by
  rw [runUpTo_of_le c blocks db₀ (Nat.le_add_right k 1), Nat.add_sub_cancel_left]
  rfl

variable {c blocks db₀} {H : ℕ}
  (hacc : acceptsAll c blocks (initState db₀) (List.range H) = true)
include hacc

/-- In an accepted run every block is accepted at its turn, and so is the rest of the run. -/
theorem acceptsAll_from {k : ℕ} (hk : k ≤ H) :
    acceptsAll c blocks (runUpTo c blocks db₀ k) (List.range' k (H - k)) = true := by
  rw [range_split hk, acceptsAll_append, Bool.and_eq_true] at hacc
  exact hacc.2

theorem doCheck_runUpTo {k : ℕ} (hk : k < H) :
    doCheck c (runUpTo c blocks db₀ k) (blocks.getD k default).majorVersion
      (getBlockVote (blocks.getD k default)) = true := by
  have hrest := acceptsAll_from hacc (Nat.le_of_lt hk)
  rw [show H - k = (H - (k + 1)) + 1 by omega, List.range'_succ] at hrest
  simp only [acceptsAll, Bool.and_eq_true] at hrest
  rw [← add_fst]
  exact hrest.1

/-- The window after `k` blocks holds the effective votes of the last `window_size` of them. -/
theorem runUpTo_versions (hne : c.heights ≠ []) (hw : 0 < c.windowSize.toNat) :
    ∀ k, k ≤ H → (runUpTo c blocks db₀ k).versions =
      ((List.range k).map (voteAt c blocks)).drop (k - c.windowSize.toNat)
  | 0, _ => by simp [runUpTo, addBlocks, initState]
  | k + 1, hk => by
    have hinv : Inv c (runUpTo c blocks db₀ k) :=
      addBlocks_inv c hw blocks _ _ (inv_initState c hne db₀)
    have ih := runUpTo_versions hne hw k (Nat.le_of_succ_le hk)
    rw [runUpTo_succ, addBlock, add_of_check c (doCheck_runUpTo hacc hk) hinv, advance_versions]
    dsimp only
    have hlen : (runUpTo c blocks db₀ k).versions.length = k - (k - c.windowSize.toNat) := by
      rw [ih, List.length_drop, List.length_map, List.length_range]
    rw [hlen, ih, List.drop_drop, List.range_succ, List.map_append,
      List.drop_append_of_le_length (by simp only [List.length_map, List.length_range]; omega)]
    congr 2
    omega

/-- The database records, for every block of the run, the version in force before it. -/
theorem runUpTo_dbVersions {h k : ℕ} (hhk : h < k) (hk : k ≤ H) :
    (runUpTo c blocks db₀ k).dbVersions h =
      (forkAt c (runUpTo c blocks db₀ h).currentForkIndex).version := by
  rw [runUpTo_of_le c blocks db₀ (Nat.succ_le_of_lt hhk),
    addBlocks_dbVersions_of_not_mem c blocks _ _ h (by rw [List.mem_range'_1]; omega),
    runUpTo_succ, addBlock]
  exact add_dbVersions_self c (doCheck_runUpTo hacc (Nat.lt_of_lt_of_le hhk hk))

end Incremental

/-- Fork `j` after the first is one of the table's later forks. -/
theorem forkAt_mem_tail {j : ℕ} (hj : 0 < j) (hlen : j < c.heights.length) :
    forkAt c j ∈ c.heights.tail := by
  unfold forkAt
  rw [List.getD_eq_getElem _ _ hlen]
  have htail : j - 1 < c.heights.tail.length := by
    rw [List.length_tail]
    omega
  have heq : c.heights.tail[j - 1] = c.heights[j] := by
    rw [List.getElem_tail]
    congr 1
    omega
  rw [← heq]
  exact List.getElem_mem htail

theorem forkAt_version_lt (hinc : c.heights.Pairwise fun a b => a.version < b.version)
    {i j : ℕ} (hij : i < j) (hj : j < c.heights.length) :
    (forkAt c i).version < (forkAt c j).version := by
  unfold forkAt
  rw [List.getD_eq_getElem _ _ (Nat.lt_trans hij hj), List.getD_eq_getElem _ _ hj]
  exact List.pairwise_iff_getElem.mp hinc i j (Nat.lt_trans hij hj) hj hij

/-- Reorganising after an incremental run from `init`: for a fork table with increasing
versions, an original version below every later fork's, and a chain whose every block was
accepted, `reorganize_from_block_height` at any height below the chain's returns the state of
the incremental run, window, histogram, fork index and database records alike. -/
theorem reorganizeFromBlockHeight_runUpTo (hne : c.heights ≠ []) (hw : 0 < c.windowSize.toNat)
    (hinc : c.heights.Pairwise fun a b => a.version < b.version)
    (horig : ∀ f ∈ c.heights.tail, c.originalVersion < f.version)
    {blocks : List Block} {db₀ : ℕ → UInt8}
    (hacc : acceptsAll c blocks (initState db₀) (List.range blocks.length) = true)
    {rh : ℕ} (hrh : rh < blocks.length) :
    reorganizeFromBlockHeight c (runUpTo c blocks db₀ blocks.length) blocks rh =
      (true, runUpTo c blocks db₀ blocks.length) := by
  set H := blocks.length with hH
  have hinvH : Inv c (runUpTo c blocks db₀ H) :=
    addBlocks_inv c hw blocks _ _ (inv_initState c hne db₀)
  have hmono : (runUpTo c blocks db₀ rh).currentForkIndex ≤
      (runUpTo c blocks db₀ H).currentForkIndex := by
    rw [runUpTo_of_le c blocks db₀ (Nat.le_of_lt hrh)]
    exact le_addBlocks_index c blocks _ _
  -- the walk back lands on the fork in force before block `rh`
  have hwalk : walkBack c (if rh = 0 then c.originalVersion else
      (runUpTo c blocks db₀ H).dbVersions rh) (runUpTo c blocks db₀ H).currentForkIndex =
      (runUpTo c blocks db₀ rh).currentForkIndex := by
    by_cases h0 : rh = 0
    · subst h0
      rw [if_pos rfl]
      refine walkBack_eq c (Or.inl rfl) _ (Nat.zero_le _) fun j hj hji => ?_
      exact horig _ (forkAt_mem_tail c hj (Nat.lt_of_le_of_lt hji hinvH.index))
    · rw [if_neg h0, runUpTo_dbVersions hacc hrh (Nat.le_refl _)]
      exact walkBack_eq c (Or.inr (UInt8.le_refl _)) _ hmono fun j hj hji =>
        forkAt_version_lt c hinc hj (Nat.lt_of_le_of_lt hji hinvH.index)
  -- the rebuilt window is the window of the incremental run after block `rh`
  have hwin : (List.range' (if rh ≥ c.windowSize.toNat - 1 then rh - (c.windowSize.toNat - 1) else 0)
      (rh + 1 - if rh ≥ c.windowSize.toNat - 1 then rh - (c.windowSize.toNat - 1) else 0)).map
        (voteAt c blocks) = (runUpTo c blocks db₀ (rh + 1)).versions := by
    rw [runUpTo_versions hacc hne hw (rh + 1) hrh, ← List.map_drop, List.range_eq_range',
      List.drop_range']
    congr 2 <;> split <;> omega
  -- and so is the state `advance` leaves, but for the database records
  have hstate : advance c ⟨(runUpTo c blocks db₀ (rh + 1)).versions,
      countsOf (runUpTo c blocks db₀ (rh + 1)).versions, (runUpTo c blocks db₀ rh).currentForkIndex,
      (runUpTo c blocks db₀ H).dbVersions⟩ (rh + 1) =
      { runUpTo c blocks db₀ (rh + 1) with dbVersions := (runUpTo c blocks db₀ H).dbVersions } := by
    have hinv : Inv c (runUpTo c blocks db₀ rh) :=
      addBlocks_inv c hw blocks _ _ (inv_initState c hne db₀)
    have hsucc := runUpTo_succ c blocks db₀ rh
    rw [addBlock, add_of_check c (doCheck_runUpTo hacc hrh) hinv] at hsucc
    rw [hsucc]
    simp [advance_eq, getVotedForkIndex]
  have hle : rh + 1 ≤ H := hrh
  unfold reorganizeFromBlockHeight
  rw [if_neg (Nat.not_le.mpr hrh)]
  dsimp only
  rw [foldl_pushVote_nil, hwalk, hwin, hstate,
    addBlocks_withDb c blocks _ _ _ (acceptsAll_from hacc hle) fun x hx => ?_,
    ← runUpTo_of_le c blocks db₀ hle]
  rw [runUpTo_of_le c blocks db₀ hle]
  exact addBlocks_dbVersions_of_not_mem c blocks _ _ x hx

/-! ## Fork tables -/

theorem forkTable_nil : ForkTable [] := ⟨by simp, List.Pairwise.nil⟩

/-- `add_fork` compares a new fork with the last one only; the order is transitive, so the
new fork is above every fork of the table. -/
theorem addFork_forkTable {heights heights' : List Fork} {version : UInt8} {height : ℕ}
    {threshold : UInt8} {time : Int} (ht : ForkTable heights)
    (h : addFork heights version height threshold time = some heights') : ForkTable heights' := by
  dsimp only [addFork] at h
  split_ifs at h with hok
  simp only [not_or, Bool.not_eq_false] at hok
  obtain ⟨hv, hordered, hthr⟩ := hok
  cases h
  refine ⟨?_, List.pairwise_append.mpr ⟨ht.2, List.pairwise_singleton _ _, ?_⟩⟩
  · intro f hf
    rcases List.mem_append.mp hf with hf | hf
    · exact ht.1 f hf
    · rw [List.mem_singleton.mp hf]
      refine ⟨?_, ?_⟩
      · rw [UInt8.lt_iff_toNat_lt]
        have : version.toNat ≠ 0 := fun h0 => hv (UInt8.toNat_inj.mp h0)
        simp only [UInt8.toNat_zero]
        omega
      · exact UInt8.not_lt.mp hthr
  · intro a ha b hb
    rw [List.mem_singleton.mp hb]
    cases hlast : heights.getLast? with
    | none => simp [List.getLast?_eq_none_iff.mp hlast] at ha
    | some last =>
      simp only [hlast, decide_eq_true_eq] at hordered
      obtain ⟨ys, rfl⟩ := List.getLast?_eq_some_iff.mp hlast
      rcases List.mem_append.mp ha with ha | ha
      · -- a fork before the last one is below it, hence below the new fork
        have hbelow := (List.pairwise_append.mp ht.2).2.2 a ha last (List.mem_singleton_self last)
        refine ⟨?_, ?_, ?_⟩
        · exact UInt8.lt_trans hbelow.1 hordered.1
        · exact Nat.lt_trans hbelow.2.1 hordered.2.1
        · exact Int.lt_trans hbelow.2.2 hordered.2.2
      · rw [List.mem_singleton.mp ha]
        exact hordered

/-! ## Reachable runs -/

theorem addBlocks_reachable (blocks : List Block) :
    ∀ (hs : List ℕ) (st : State), Reachable c st → Reachable c (addBlocks c blocks st hs)
  | [], _, h => h
  | h :: hs, st, ⟨db, hrun⟩ => addBlocks_reachable blocks hs _
      ⟨db, hrun.tail (Step.add st _ _ h)⟩

/-- Hard-fork reorganisation and the histogram. For a fork table `add_fork` builds, a
positive window and an original version below every later fork's version:
* after an incremental run from `init` in which every block was accepted,
  `reorganize_from_block_height` at any height below the chain's returns the state of that
  run: window, histogram, fork index and database records;
* in every state reachable by `add` and reorganisations, `last_versions[v]` is the number of
  votes for `v` in the window modulo `2^32`, and that number itself when the window is shorter
  than `2^32`; the window holds at most `window_size` votes, and the fork index is in the
  table. -/
theorem reorganize_agrees_and_counts (hne : c.heights ≠ []) (htable : ForkTable c.heights)
    (hw : 0 < c.windowSize.toNat)
    (horig : ∀ f ∈ c.heights.tail, c.originalVersion < f.version) :
    (∀ (blocks : List Block) (db₀ : ℕ → UInt8),
      acceptsAll c blocks (initState db₀) (List.range blocks.length) = true →
      ∀ rh < blocks.length, reorganizeFromBlockHeight c (runUpTo c blocks db₀ blocks.length)
        blocks rh = (true, runUpTo c blocks db₀ blocks.length)) ∧
    (∀ st, Reachable c st →
      (∀ v, st.lastVersions v = UInt32.ofNat (st.versions.count v)) ∧
      (c.windowSize.toNat < 2 ^ 32 → ∀ v, (st.lastVersions v).toNat = st.versions.count v) ∧
      st.versions.length ≤ c.windowSize.toNat ∧ st.currentForkIndex < c.heights.length) := by
  have hinc : c.heights.Pairwise fun a b => a.version < b.version :=
    htable.2.imp fun h => h.1
  refine ⟨fun blocks db₀ hacc rh hrh =>
    reorganizeFromBlockHeight_runUpTo c hne hw hinc horig hacc hrh, fun st hst => ?_⟩
  have hinv := reachable_inv c hne hw hst
  refine ⟨fun v => congrFun hinv.counts v, fun hsmall v => ?_, hinv.window, hinv.index⟩
  -- a count is at most the window's length, so it fits in 32 bits
  have hcount : st.versions.count v < 2 ^ 32 :=
    Nat.lt_of_le_of_lt (Nat.le_trans (List.count_le_length) hinv.window) hsmall
  rw [congrFun hinv.counts v, countsOf, UInt32.toNat_ofNat', Nat.mod_eq_of_lt hcount]

/-- The fork table and window of the `reorganize` unit tests. -/
def testConfig : Config := ⟨[⟨1, 0, 100, 0⟩, ⟨4, 2, 100, 1⟩, ⟨7, 4, 100, 2⟩, ⟨9, 6, 100, 3⟩], 1, 4⟩

theorem testConfig_reorganize_agrees_and_counts :
    testConfig.heights ≠ [] ∧ ForkTable testConfig.heights ∧ 0 < testConfig.windowSize.toNat ∧
    (∀ f ∈ testConfig.heights.tail, testConfig.originalVersion < f.version) ∧
    ((∀ (blocks : List Block) (db₀ : ℕ → UInt8),
      acceptsAll testConfig blocks (initState db₀) (List.range blocks.length) = true →
      ∀ rh < blocks.length, reorganizeFromBlockHeight testConfig
        (runUpTo testConfig blocks db₀ blocks.length) blocks rh =
          (true, runUpTo testConfig blocks db₀ blocks.length)) ∧
    (∀ st, Reachable testConfig st →
      (∀ v, st.lastVersions v = UInt32.ofNat (st.versions.count v)) ∧
      (testConfig.windowSize.toNat < 2 ^ 32 →
        ∀ v, (st.lastVersions v).toNat = st.versions.count v) ∧
      st.versions.length ≤ testConfig.windowSize.toNat ∧
        st.currentForkIndex < testConfig.heights.length)) := by
  have hne : testConfig.heights ≠ [] := by decide
  have htable : ForkTable testConfig.heights := by decide
  have hw : 0 < testConfig.windowSize.toNat := by decide
  have horig : ∀ f ∈ testConfig.heights.tail, testConfig.originalVersion < f.version := by decide
  exact ⟨hne, htable, hw, horig, reorganize_agrees_and_counts testConfig hne htable hw horig⟩

/-! ## A window of `2^32` votes

`last_versions` holds `unsigned int` counters, and `window_size` is a 64-bit parameter of the
constructor. With a window of `2^32` blocks, `2^32` blocks voting for the same version fill
it, and their counter wraps to zero. -/

/-- One fork and a window of `2^32` blocks. -/
def wideWindow : Config := ⟨[⟨1, 0, 0, 0⟩], 1, 4294967296⟩

/-- `n` blocks of version 1 voting for version 1. -/
def versionOneBlocks (n : ℕ) : List Block := List.replicate n ⟨1, 1⟩

theorem versionOneBlocks_getD {n h : ℕ} (hh : h < n) :
    (versionOneBlocks n).getD h default = ⟨1, 1⟩ := by
  unfold versionOneBlocks
  rw [List.getD_eq_getElem _ _ (by rw [List.length_replicate]; exact hh), List.getElem_replicate]

theorem wideWindow_acceptsAll (n : ℕ) : ∀ (hs : List ℕ) (st : State), Inv wideWindow st →
    (∀ h ∈ hs, h < n) → acceptsAll wideWindow (versionOneBlocks n) st hs = true
  | [], _, _, _ => rfl
  | h :: hs, st, hinv, hbound => by
    have hblock := versionOneBlocks_getD (hbound h List.mem_cons_self)
    -- the only fork is in force, and every block has its version
    have hindex : st.currentForkIndex = 0 := by
      have := hinv.index
      simp only [wideWindow, List.length_singleton] at this
      omega
    have hcheck : doCheck wideWindow st 1 1 = true := by
      simp [doCheck, hindex, forkAt, wideWindow]
    simp only [acceptsAll, addBlock, hblock, Bool.and_eq_true]
    refine ⟨by rw [add_fst]; exact hcheck, wideWindow_acceptsAll n hs _ ?_ ?_⟩
    · exact add_inv wideWindow (by decide) hinv _ _ h
    · exact fun h' hh' => hbound h' (List.mem_cons_of_mem _ hh')

theorem wideWindow_counter_wraps :
    Reachable wideWindow (runUpTo wideWindow (versionOneBlocks 4294967296) (fun _ => 0)
      4294967296) ∧
    (runUpTo wideWindow (versionOneBlocks 4294967296) (fun _ => 0) 4294967296).versions.count 1 =
      4294967296 ∧
    (runUpTo wideWindow (versionOneBlocks 4294967296) (fun _ => 0) 4294967296).lastVersions 1 =
      0 := by
  have hne : wideWindow.heights ≠ [] := by decide
  have hw : 0 < wideWindow.windowSize.toNat := by decide
  have hacc : acceptsAll wideWindow (versionOneBlocks 4294967296) (initState fun _ => 0)
      (List.range 4294967296) = true :=
    wideWindow_acceptsAll _ _ _ (inv_initState wideWindow hne _) fun h hh => List.mem_range.mp hh
  have hinv : Inv wideWindow
      (runUpTo wideWindow (versionOneBlocks 4294967296) (fun _ => 0) 4294967296) :=
    addBlocks_inv wideWindow hw _ _ _ (inv_initState wideWindow hne _)
  -- the window is the whole run, every vote of which is for version 1
  have hwidth : wideWindow.windowSize.toNat = 4294967296 := by decide
  have hversions :
      (runUpTo wideWindow (versionOneBlocks 4294967296) (fun _ => 0) 4294967296).versions =
        List.replicate 4294967296 1 := by
    rw [runUpTo_versions hacc hne hw _ (Nat.le_refl _), hwidth, Nat.sub_self, List.drop_zero]
    refine List.eq_replicate_iff.mpr ⟨by rw [List.length_map, List.length_range], fun v hv => ?_⟩
    obtain ⟨h, hh, rfl⟩ := List.mem_map.mp hv
    rw [voteAt, versionOneBlocks_getD (List.mem_range.mp hh)]
    decide
  have hcount :
      (runUpTo wideWindow (versionOneBlocks 4294967296) (fun _ => 0) 4294967296).versions.count 1 =
        4294967296 := by
    rw [hversions, List.count_replicate_self]
  refine ⟨addBlocks_reachable wideWindow _ _ _ ⟨fun _ => 0, Relation.ReflTransGen.refl⟩,
    hcount, ?_⟩
  rw [hinv.counts, countsOf, hcount]
  rfl

/-! ## An original version that a later fork has

`reorganize_from_block_height(0)` walks the fork index back to the last fork whose version is
not above `original_version`. When a later fork has that version, the walk stops at it, and the
blocks of the first fork that the replay meets are rejected. -/

/-- Fork 1 from height 0, needing the whole window, then fork 2 from height 2, needing no vote;
the original version is 2 and the window 4 blocks. -/
def sameVersionConfig : Config := ⟨[⟨1, 0, 100, 0⟩, ⟨2, 2, 0, 1⟩], 2, 4⟩

/-- Two blocks of version 1, then one of version 2, each voting for its own version. -/
def sameVersionBlocks : List Block := [⟨1, 1⟩, ⟨1, 1⟩, ⟨2, 2⟩]

/-- The table is one `add_fork` builds and the run accepts every block, yet reorganizing from
height 0 loses the vote of the block at height 1. -/
theorem sameVersion_reorganize_drops_vote :
    ForkTable sameVersionConfig.heights ∧ 0 < sameVersionConfig.windowSize.toNat ∧
    acceptsAll sameVersionConfig sameVersionBlocks (initState fun _ => 0) (List.range 3) = true ∧
    (runUpTo sameVersionConfig sameVersionBlocks (fun _ => 0) 3).versions = [1, 1, 2] ∧
    (reorganizeFromBlockHeight sameVersionConfig
      (runUpTo sameVersionConfig sameVersionBlocks (fun _ => 0) 3) sameVersionBlocks 0).2.versions =
        [1, 2] := by
  decide

/-- Both ways the claim fails without its conditions: the 32-bit counter of a window of `2^32`
blocks wraps, and an original version that a later fork has breaks the reorganisation. -/
theorem counter_wraps_and_reorganize_drops_vote :
    (Reachable wideWindow (runUpTo wideWindow (versionOneBlocks 4294967296) (fun _ => 0)
        4294967296) ∧
      (runUpTo wideWindow (versionOneBlocks 4294967296) (fun _ => 0) 4294967296).versions.count 1 =
        4294967296 ∧
      (runUpTo wideWindow (versionOneBlocks 4294967296) (fun _ => 0) 4294967296).lastVersions 1 =
        0) ∧
    (ForkTable sameVersionConfig.heights ∧ 0 < sameVersionConfig.windowSize.toNat ∧
      acceptsAll sameVersionConfig sameVersionBlocks (initState fun _ => 0) (List.range 3) = true ∧
      (reorganizeFromBlockHeight sameVersionConfig
        (runUpTo sameVersionConfig sameVersionBlocks (fun _ => 0) 3) sameVersionBlocks 0).2.versions ≠
        (runUpTo sameVersionConfig sameVersionBlocks (fun _ => 0) 3).versions) := by
  obtain ⟨htable, hw, hacc, hrun, hreorg⟩ := sameVersion_reorganize_drops_vote
  exact ⟨wideWindow_counter_wraps, htable, hw, hacc, by rw [hrun, hreorg]; decide⟩

end Equilibria.HardFork

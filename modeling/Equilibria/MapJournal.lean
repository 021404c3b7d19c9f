import Mathlib

/-!
# Undo journals over association maps

A journaled map records an undo action before each write to a key: restore the value the
key held, or remove a key that the write creates. Replaying the recorded actions goes from the
newest back to the oldest (`rollback_append_single`), and puts back only values the journal
recorded (`rollback_values`).

Maps are association lists; their entry order stands for an unspecified iteration order,
so every statement here is about lookups, never about the order of the entries.
-/

namespace Equilibria.MapJournal

variable {K V : Type*} [DecidableEq K]

/-- Finite maps; the entry order is an iteration order that no result depends on. -/
abbrev Map (K V : Type*) := AList (fun _ : K => V)

/-- Two maps agree when every key looks up to the same value in both. -/
def Agree (m m' : Map K V) : Prop := ∀ k, m.lookup k = m'.lookup k

/-- A value found after a write is the written one or was there before. -/
theorem lookup_insert_eq_some {m : Map K V} {k k' : K} {v v' : V}
    (h : (m.insert k v).lookup k' = some v') : (k' = k ∧ v' = v) ∨ m.lookup k' = some v' := by
  by_cases hk : k' = k
  · subst hk
    rw [AList.lookup_insert, Option.some.injEq] at h
    exact .inl ⟨rfl, h.symm⟩
  · rw [AList.lookup_insert_ne hk] at h
    exact .inr h

/-- A value found after an erase was there before. -/
theorem lookup_of_lookup_erase {m : Map K V} {k k' : K} {v' : V}
    (h : (m.erase k).lookup k' = some v') : m.lookup k' = some v' := by
  by_cases hk : k' = k
  · subst hk
    rw [AList.lookup_erase] at h
    cases h
  · rwa [AList.lookup_erase_ne hk] at h

/-- Inserting entries with distinct keys one by one gives their values over the values the map
held. -/
theorem lookup_foldl_insert (k : K) :
    ∀ (l : List (Sigma fun _ : K => V)) (acc : Map K V), l.NodupKeys →
      (l.foldl (fun m e => m.insert e.1 e.2) acc).lookup k = (l.dlookup k).or (acc.lookup k)
  | [], acc, _ => by simp
  | ⟨k', v⟩ :: es, acc, hl => by
    rw [List.nodupKeys_cons] at hl
    rw [List.foldl_cons, lookup_foldl_insert k es _ hl.2]
    by_cases hk : k = k'
    · subst hk
      rw [List.dlookup_cons_eq, List.dlookup_eq_none.mpr hl.1, AList.lookup_insert]
      rfl
    · rw [List.dlookup_cons_ne _ _ hk, AList.lookup_insert_ne hk]

/-- The loop that erases, over a list of entries, the keys of those that satisfy `p`: a key is
gone if one of them names it, and otherwise looks up as before. -/
theorem lookup_foldl_erase (p : (Sigma fun _ : K => V) → Prop) [DecidablePred p] (k : K) :
    ∀ (l : List (Sigma fun _ : K => V)) (acc : Map K V),
      (l.foldl (fun m e => if p e then m.erase e.1 else m) acc).lookup k =
        if ∃ e ∈ l, e.1 = k ∧ p e then none else acc.lookup k
  | [], acc => by simp
  | e :: es, acc => by
    rw [List.foldl_cons, lookup_foldl_erase p k es]
    by_cases hes : ∃ e' ∈ es, e'.1 = k ∧ p e'
    · obtain ⟨e', he', hk⟩ := hes
      rw [if_pos ⟨e', he', hk⟩, if_pos ⟨e', List.mem_cons_of_mem e he', hk⟩]
    · rw [if_neg hes]
      by_cases he : e.1 = k ∧ p e
      · obtain ⟨rfl, hp⟩ := he
        rw [if_pos hp, AList.lookup_erase, if_pos ⟨e, List.mem_cons_self, rfl, hp⟩]
      · have hall : ¬ ∃ e' ∈ e :: es, e'.1 = k ∧ p e' := by
          rintro ⟨e', he', hk⟩
          rcases List.mem_cons.mp he' with rfl | he'
          · exact he hk
          · exact hes ⟨e', he', hk⟩
        rw [if_neg hall]
        split_ifs with hp
        · exact AList.lookup_erase_ne fun hk => he ⟨hk.symm, hp⟩
        · rfl

/-- Inserting the entries of a map one by one into an empty map, the loop `m[k] = v` over an
`std::unordered_map`, gives a map that agrees with it. -/
theorem agree_foldl_insert_entries (m : Map K V) :
    Agree (m.entries.foldl (fun acc e => acc.insert e.1 e.2) ∅) m := by
  intro k
  rw [lookup_foldl_insert k _ _ m.nodupKeys, AList.lookup_empty, Option.or_none]
  rfl

/-- Erasing a key that is not there changes nothing. -/
theorem erase_of_lookup_eq_none {m : Map K V} {k : K} (h : m.lookup k = none) : m.erase k = m :=
  AList.ext (List.kerase_of_notMem_keys (List.dlookup_eq_none.mp h))

/-! ### Totals over the values -/

section Total

variable (f : V → ℕ)

/-- The sum of `f` over the values of a map. -/
def total (m : Map K V) : ℕ := (m.entries.map fun e => f e.2).sum

theorem sum_map_kerase (k : K) :
    ∀ {l : List (Sigma fun _ : K => V)} {v : V}, l.dlookup k = some v →
      (l.map fun e => f e.2).sum = f v + ((l.kerase k).map fun e => f e.2).sum
  | [], _, h => by simp at h
  | ⟨k', v'⟩ :: l, v, h => by
    by_cases hk : k = k'
    · subst hk
      rw [List.dlookup_cons_eq, Option.some.injEq] at h
      subst h
      have herase : List.kerase k (⟨k, v'⟩ :: l) = l := List.kerase_cons_eq rfl
      rw [herase, List.map_cons, List.sum_cons]
    · rw [List.dlookup_cons_ne _ _ hk] at h
      rw [List.kerase_cons_ne hk, List.map_cons, List.map_cons, List.sum_cons, List.sum_cons,
        sum_map_kerase k h]
      omega

/-- The value of a key counts once beside the values of the other keys. -/
theorem total_of_lookup {m : Map K V} {k : K} {v : V} (h : m.lookup k = some v) :
    total f m = f v + total f (m.erase k) :=
  sum_map_kerase f k h

theorem total_insert (m : Map K V) (k : K) (v : V) :
    total f (m.insert k v) = f v + total f (m.erase k) := by
  simp only [total, AList.entries_insert, List.map_cons, List.sum_cons]
  rfl

/-- Writing a key that was erased first: the erase comes to nothing more. -/
theorem total_erase_insert (m : Map K V) (k : K) (v : V) :
    total f ((m.erase k).insert k v) = f v + total f (m.erase k) := by
  rw [total_insert, erase_of_lookup_eq_none (AList.lookup_erase k m)]

end Total

/-- An undo action, recorded before a write to its key. -/
inductive Undo (K V : Type*)
  /-- Put back the value the key held before the write. -/
  | restore (key : K) (value : V)
  /-- Take out a key that the write created. -/
  | remove (key : K)
  deriving DecidableEq, Repr

/-- Run one undo action. Removing a key that is not there fails. -/
def Undo.run : Undo K V → Map K V → Option (Map K V)
  | .restore k v, m => some (m.insert k v)
  | .remove k, m => if k ∈ m then some (m.erase k) else none

/-- Replay a journal, kept oldest first, from its newest action back to its oldest. -/
def rollback : List (Undo K V) → Map K V → Option (Map K V)
  | [], m => some m
  | u :: us, m => (rollback us m).bind u.run

/-- The newest action is undone first. -/
theorem rollback_append_single (log : List (Undo K V)) (u : Undo K V) (m : Map K V) :
    rollback (log ++ [u]) m = (u.run m).bind (rollback log) := by
  induction log with
  | nil => simp [rollback]
  | cons u' log ih => simp only [List.cons_append, rollback, ih, Option.bind_assoc]

/-- Every value put back by a journal whose restored values satisfy `P`, replayed over a map
whose values satisfy `P`, satisfies `P`. -/
theorem rollback_values (P : V → Prop) (log : List (Undo K V)) (m m' : Map K V)
    (hlog : ∀ k v, Undo.restore k v ∈ log → P v) (hm : ∀ k v, m.lookup k = some v → P v)
    (hr : rollback log m = some m') : ∀ k v, m'.lookup k = some v → P v := by
  induction log generalizing m' with
  | nil =>
    simp only [rollback, Option.some.injEq] at hr
    rw [← hr]
    exact hm
  | cons u log ih =>
    simp only [rollback] at hr
    cases hp : rollback log m with
    | none => rw [hp] at hr; cases hr
    | some p =>
      rw [hp, Option.bind_some] at hr
      have hpv := ih p (fun k v hk => hlog k v (List.mem_cons_of_mem _ hk)) hp
      intro k v hkv
      cases u with
      | restore k' v' =>
        simp only [Undo.run, Option.some.injEq] at hr
        subst hr
        rcases lookup_insert_eq_some hkv with ⟨-, rfl⟩ | hkv
        · exact hlog k' v List.mem_cons_self
        · exact hpv k v hkv
      | remove k' =>
        simp only [Undo.run] at hr
        split at hr
        · simp only [Option.some.injEq] at hr
          subst hr
          exact hpv k v (lookup_of_lookup_erase hkv)
        · cases hr

end Equilibria.MapJournal

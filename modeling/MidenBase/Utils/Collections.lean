import Mathlib.Data.List.Sort
import Mathlib.Data.List.Dedup

/-!
# `BTreeMap` and `BTreeSet`

Reference: `objects/src/lib.rs`, `utils::collections`, the ordered collections of the standard
library that `proven_tx.rs` keys by `NoteId`.

A `BTreeMap` is its entries in strictly ascending key order; the order is a field of the
structure, so every map the model builds is one Rust could hold. `insert` replaces the value of a
present key, `extend` and `from_iter` insert in iteration order (so a later pair wins), and
`keys` / `iter` walk the entries in ascending order. A `BTreeSet` is a map to `Unit`.

The results used by the transaction model are `get_fromIter` (a key maps to the value of its
last pair), `mem_keys_fromIter` (the keys are the keys inserted), and `entries_fromIter_eq_iff`
(rebuilding a map from a list gives the list back exactly when the list is strictly sorted).
-/

namespace MidenBase

variable {K V : Type} [LinearOrder K]

/-- Strictly ascending keys: the order a `BTreeMap` keeps its entries in. -/
def KeysAscending (l : List (K × V)) : Prop := l.Sorted (fun a b => a.1 < b.1)

/-- Insert into ascending entries, replacing the value of an equal key. -/
def insertEntry (k : K) (v : V) : List (K × V) → List (K × V)
  | [] => [(k, v)]
  | (k', v') :: rest =>
    if k < k' then (k, v) :: (k', v') :: rest
    else if k = k' then (k, v) :: rest
    else (k', v') :: insertEntry k v rest

theorem mem_insertEntry {k : K} {v : V} {l : List (K × V)} {p : K × V}
    (h : p ∈ insertEntry k v l) : p = (k, v) ∨ p ∈ l := by
  induction l with
  | nil => simpa [insertEntry] using h
  | cons q rest ih =>
    simp only [insertEntry] at h
    split_ifs at h <;> simp only [List.mem_cons] at h ⊢
    · exact h
    · exact h.imp_right .inr
    · rcases h with h | h
      · exact .inr (.inl h)
      · exact (ih h).imp_right .inr

theorem fst_mem_insertEntry {k : K} {v : V} {l : List (K × V)} {k' : K} :
    k' ∈ (insertEntry k v l).map Prod.fst ↔ k' = k ∨ k' ∈ l.map Prod.fst := by
  induction l with
  | nil => simp [insertEntry]
  | cons q rest ih =>
    simp only [insertEntry]
    split_ifs with h₁ h₂
    · simp
    · subst h₂; simp
    · simp only [List.map_cons, List.mem_cons, ih]
      exact or_left_comm

theorem KeysAscending.insertEntry {l : List (K × V)} (hl : KeysAscending l) (k : K) (v : V) :
    KeysAscending (insertEntry k v l) := by
  induction l with
  | nil => exact List.sorted_singleton _
  | cons q rest ih =>
    obtain ⟨hq, hrest⟩ := List.sorted_cons.mp hl
    simp only [MidenBase.insertEntry]
    split_ifs with h₁ h₂
    · refine List.sorted_cons.mpr ⟨fun p hp => ?_, hl⟩
      rcases List.mem_cons.mp hp with rfl | hp
      · exact h₁
      · exact h₁.trans (hq p hp)
    · subst h₂; exact List.sorted_cons.mpr ⟨hq, hrest⟩
    · refine List.sorted_cons.mpr ⟨fun p hp => ?_, ih hrest⟩
      rcases mem_insertEntry hp with rfl | hp
      · exact lt_of_le_of_ne (not_lt.mp h₁) (Ne.symm h₂)
      · exact hq p hp

/-- Inserting a key above every key present appends it. -/
theorem insertEntry_of_lt {k : K} {v : V} {l : List (K × V)} (h : ∀ p ∈ l, p.1 < k) :
    insertEntry k v l = l ++ [(k, v)] := by
  induction l with
  | nil => rfl
  | cons q rest ih =>
    have hq := h q (.head _)
    simp only [MidenBase.insertEntry, not_lt_of_gt hq, if_false, ne_of_gt hq,
      List.cons_append, ih (fun p hp => h p (.tail _ hp))]

theorem lookup_cons_pair (k k' : K) (v : V) (l : List (K × V)) :
    ((k, v) :: l).lookup k' = if k' = k then some v else l.lookup k' := by
  rw [List.lookup_cons]
  split <;> simp_all

theorem lookup_insertEntry (k k' : K) (v : V) (l : List (K × V)) :
    (insertEntry k v l).lookup k' = if k' = k then some v else l.lookup k' := by
  induction l with
  | nil => simp [insertEntry, lookup_cons_pair]
  | cons q rest ih =>
    obtain ⟨k₀, v₀⟩ := q
    simp only [MidenBase.insertEntry]
    split_ifs with h₁ h₂ h₃ <;> simp_all [lookup_cons_pair]

/-- `BTreeMap<K, V>`: its entries, in strictly ascending key order. -/
structure BTreeMap (K V : Type) [LinearOrder K] where
  entries : List (K × V)
  ascending : KeysAscending entries

namespace BTreeMap

/-- `BTreeMap::new`. -/
def empty : BTreeMap K V := ⟨[], List.sorted_nil⟩

/-- `BTreeMap::insert`. -/
def insert (m : BTreeMap K V) (k : K) (v : V) : BTreeMap K V :=
  ⟨insertEntry k v m.entries, m.ascending.insertEntry k v⟩

/-- `BTreeMap::get`. -/
def get (m : BTreeMap K V) (k : K) : Option V := m.entries.lookup k

/-- `BTreeMap::keys`, in ascending order. -/
def keys (m : BTreeMap K V) : List K := m.entries.map Prod.fst

/-- `BTreeMap::len`. -/
def len (m : BTreeMap K V) : ℕ := m.entries.length

/-- `Extend::extend`: insert the pairs in iteration order. -/
def extend (m : BTreeMap K V) (l : List (K × V)) : BTreeMap K V :=
  l.foldl (fun m p => m.insert p.1 p.2) m

/-- `BTreeMap::from_iter`. -/
def fromIter (l : List (K × V)) : BTreeMap K V := empty.extend l

@[ext] theorem ext {m m' : BTreeMap K V} (h : m.entries = m'.entries) : m = m' := by
  cases m; cases m'; cases h; rfl

@[simp] theorem extend_nil (m : BTreeMap K V) : m.extend [] = m := rfl

@[simp] theorem extend_cons (m : BTreeMap K V) (p : K × V) (l : List (K × V)) :
    m.extend (p :: l) = (m.insert p.1 p.2).extend l := rfl

theorem extend_append (m : BTreeMap K V) (l l' : List (K × V)) :
    m.extend (l ++ l') = (m.extend l).extend l' := List.foldl_append _ _ _ _

theorem get_insert (m : BTreeMap K V) (k k' : K) (v : V) :
    (m.insert k v).get k' = if k' = k then some v else m.get k' :=
  lookup_insertEntry k k' v m.entries

theorem mem_keys_insert {m : BTreeMap K V} {k k' : K} {v : V} :
    k' ∈ (m.insert k v).keys ↔ k' = k ∨ k' ∈ m.keys := fst_mem_insertEntry

theorem keys_nodup (m : BTreeMap K V) : m.keys.Nodup :=
  (List.pairwise_map.mpr m.ascending).imp ne_of_lt

theorem keys_sorted (m : BTreeMap K V) : m.keys.Sorted (· < ·) := List.pairwise_map.mpr m.ascending

theorem mem_keys_of_get_eq_some {m : BTreeMap K V} {k : K} {v : V} (h : m.get k = some v) :
    k ∈ m.keys := by
  obtain ⟨l₁, l₂, hl, -⟩ := List.lookup_eq_some_iff.mp h
  simp [keys, hl]

theorem mem_keys_extend {m : BTreeMap K V} {l : List (K × V)} {k : K} :
    k ∈ (m.extend l).keys ↔ k ∈ l.map Prod.fst ∨ k ∈ m.keys := by
  induction l generalizing m with
  | nil => simp
  | cons p l ih =>
    simp only [extend_cons, ih, mem_keys_insert, List.map_cons, List.mem_cons]
    exact or_left_comm.trans or_assoc.symm

theorem mem_keys_fromIter {l : List (K × V)} {k : K} :
    k ∈ (fromIter l).keys ↔ k ∈ l.map Prod.fst := by
  rw [fromIter, mem_keys_extend]
  simp [keys, empty]

/-- The value of the last pair with key `k`, if any. -/
def lastValue (l : List (K × V)) (k : K) : Option V := (l.reverse.lookup k)

theorem get_extend (m : BTreeMap K V) (l : List (K × V)) (k : K) :
    (m.extend l).get k = (lastValue l k).or (m.get k) := by
  induction l generalizing m with
  | nil => simp [lastValue]
  | cons p l ih =>
    obtain ⟨k₀, v₀⟩ := p
    rw [extend_cons, ih, get_insert]
    simp only [lastValue, List.reverse_cons, List.lookup_append, lookup_cons_pair, Option.or_assoc]
    congr 1
    split <;> rfl

/-- A key of `from_iter` maps to the value of its last pair. -/
theorem get_fromIter (l : List (K × V)) (k : K) : (fromIter l).get k = lastValue l k := by
  rw [fromIter, get_extend]
  exact Option.or_none

/-- Extending by pairs above every present key, in strictly ascending order, appends them. -/
theorem entries_extend_of_ascending {acc : BTreeMap K V} {l : List (K × V)}
    (h : KeysAscending (acc.entries ++ l)) : (acc.extend l).entries = acc.entries ++ l := by
  induction l generalizing acc with
  | nil => simp
  | cons p l ih =>
    have hp : ∀ q ∈ acc.entries, q.1 < p.1 :=
      fun q hq => (List.pairwise_append.mp h).2.2 q hq p (.head _)
    have hins : (acc.insert p.1 p.2).entries = acc.entries ++ [p] := by
      simp [insert, insertEntry_of_lt hp]
    rw [extend_cons, ih (by rwa [hins, List.append_assoc]), hins, List.append_assoc]
    rfl

/-- Rebuilding a map from pairs in strictly ascending key order gives those pairs back. -/
theorem entries_fromIter_of_ascending {l : List (K × V)} (h : KeysAscending l) :
    (fromIter l).entries = l :=
  @entries_extend_of_ascending K V _ empty l h

/-- `from_iter` returns its input exactly when the input is strictly ascending. -/
theorem entries_fromIter_eq_iff {l : List (K × V)} :
    (fromIter l).entries = l ↔ KeysAscending l :=
  ⟨fun h => h ▸ (fromIter l).ascending, entries_fromIter_of_ascending⟩

/-- Iterating a map and collecting it again gives the same map. -/
theorem fromIter_entries (m : BTreeMap K V) : fromIter m.entries = m :=
  ext (entries_fromIter_of_ascending m.ascending)

end BTreeMap

/-- `BTreeSet<K>`: a map to `()`. -/
structure BTreeSet (K : Type) [LinearOrder K] where
  map : BTreeMap K Unit

namespace BTreeSet

/-- `BTreeSet::from_iter`. -/
def fromIter (l : List K) : BTreeSet K := ⟨BTreeMap.fromIter (l.map (·, ()))⟩

/-- `BTreeSet::contains`. -/
def contains (s : BTreeSet K) (k : K) : Bool := (s.map.get k).isSome

@[simp] theorem contains_fromIter {l : List K} {k : K} :
    (fromIter l).contains k = decide (k ∈ l) := by
  rw [Bool.eq_iff_iff, decide_eq_true_iff]
  simp [contains, fromIter, BTreeMap.get_fromIter, BTreeMap.lastValue]

end BTreeSet

end MidenBase

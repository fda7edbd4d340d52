import MidenBase.Objects.Basic
import Mathlib.Data.List.Basic

/-!
# Note assets: construction and commitment

Reference: `objects/src/notes/assets.rs`.

`NoteAssets` is the ordered, duplicate-free list of at most 255 assets a note carries. Its
validity (`NoteAssets.Valid`) is a field of the structure: the only constructor is
`NoteAssets.new`, which checks it, as the Rust constructor does before it builds the value.

`NoteAssets.new` keeps the source's uniqueness loop (`firstDuplicateFrom`, with its index guard
`i < assets.len() - 1` and slice `assets[i + 1..]`). `firstDuplicateFrom_eq_dupScan` shows the
loop is the plain scan `dupScan`, and `new_spec` gives the constructor's full contract: when it
succeeds, and which error it returns otherwise. `is_same` is symmetric, so whether `new`
succeeds does not depend on the order of the assets (`new_isOk_perm`).

The commitment hashes the assets' words, padded with one zero word when their number is odd
(`computeAssetCommitment`); `to_padded_assets` pads the same elements by a `resize` to a length
computed separately. `toPaddedAssets_spec` shows both produce the same vector.

Not modelled: the `OnceCell` that memoizes the commitment. `commitment` returns
`compute_asset_commitment(&self.assets)` whichever way the cell is filled, and `PartialEq`
ignores the cell, so a `NoteAssets` is its asset list: Lean's equality on `NoteAssets` is Rust's
`==`. The asset types, `Asset::is_same` and the conversion of an asset to a word are defined
outside the repository; `is_same` is modelled from the spec, the conversion is a parameter.
-/

namespace MidenBase

/-- `FungibleAsset`: an amount of the asset issued by a fungible faucet. -/
structure FungibleAsset where
  faucetId : AccountId
  amount : UInt64
deriving DecidableEq, Repr

/-- `NonFungibleAsset`: a non-fungible asset, one word. -/
structure NonFungibleAsset where
  word : Word
deriving DecidableEq, Repr

/-- `Asset`. -/
inductive Asset
  | fungible (a : FungibleAsset)
  | nonFungible (a : NonFungibleAsset)
deriving DecidableEq, Repr

/-- Modelled from the spec: `Asset::is_same`, "the same fungible faucet or the same
non-fungible identity". -/
def Asset.isSame : Asset → Asset → Bool
  | .fungible a, .fungible b => a.faucetId == b.faucetId
  | .nonFungible a, .nonFungible b => a == b
  | _, _ => false

theorem Asset.isSame_comm (a b : Asset) : a.isSame b = b.isSame a := by
  cases a <;> cases b <;> simp only [Asset.isSame, Bool.beq_comm]

/-- `NoteError`, the variants `NoteAssets::new` returns. -/
inductive NoteError
  | emptyAssetList
  | tooManyAssets (numAssets : ℕ)
  | duplicateFungibleAsset (faucetId : AccountId)
  | duplicateNonFungibleAsset (asset : NonFungibleAsset)
deriving DecidableEq, Repr

/-- The error for a duplicated asset: its faucet when fungible, itself when not. -/
def duplicateAssetError : Asset → NoteError
  | .fungible a => .duplicateFungibleAsset a.faucetId
  | .nonFungible a => .duplicateNonFungibleAsset a

/-! ## The uniqueness loop -/

/-- Position `i` holds an asset that some later asset `is_same`. -/
def HasLaterSame (assets : List Asset) (i : ℕ) : Prop :=
  ∃ j, ∃ (_ : i < j) (hj : j < assets.length), assets[j].isSame assets[i] = true

/-- The loop of `NoteAssets::new` from index `i`, where `rest` is `assets[i..]`: the first
asset, in order, that some later asset `is_same`. -/
def firstDuplicateFrom (assets : List Asset) : ℕ → List Asset → Option Asset
  | _, [] => none
  | i, asset :: rest =>
    if i < assets.length - 1 && (assets.drop (i + 1)).any (·.isSame asset) then some asset
    else firstDuplicateFrom assets (i + 1) rest

/-- The same search without indices: the first asset that a later one `is_same`. -/
def dupScan : List Asset → Option Asset
  | [] => none
  | asset :: rest => if rest.any (·.isSame asset) then some asset else dupScan rest

/-- The index guard of the loop is implied by its slice test. -/
theorem firstDuplicateFrom_eq_dupScan (assets : List Asset) :
    ∀ (i : ℕ) (rest : List Asset), assets.drop i = rest →
      firstDuplicateFrom assets i rest = dupScan rest
  | _, [], _ => rfl
  | i, asset :: rest, h => by
    have hdrop : assets.drop (i + 1) = rest := by
      rw [← List.drop_drop, h, List.drop_one, List.tail_cons]
    have hguard : (decide (i < assets.length - 1) && rest.any (·.isSame asset)) =
        rest.any (·.isSame asset) := by
      cases rest with
      | nil => simp
      | cons b rest =>
        have := congrArg List.length h
        simp only [List.length_drop, List.length_cons] at this
        simp [show i < assets.length - 1 by omega]
    simp only [firstDuplicateFrom, dupScan, hdrop, hguard,
      firstDuplicateFrom_eq_dupScan assets (i + 1) rest hdrop]

theorem hasLaterSame_cons_zero (a : Asset) (l : List Asset) :
    HasLaterSame (a :: l) 0 ↔ l.any (·.isSame a) = true := by
  simp only [HasLaterSame, List.any_eq_true, List.mem_iff_getElem]
  constructor
  · rintro ⟨_ | j, hij, hj, h⟩
    · exact absurd hij (lt_irrefl 0)
    · exact ⟨_, ⟨j, by simpa using hj, rfl⟩, h⟩
  · rintro ⟨_, ⟨j, hj, rfl⟩, h⟩
    exact ⟨j + 1, j.succ_pos, by simpa using hj, h⟩

theorem hasLaterSame_cons_succ (a : Asset) (l : List Asset) (i : ℕ) :
    HasLaterSame (a :: l) (i + 1) ↔ HasLaterSame l i := by
  constructor
  · rintro ⟨_ | j, hij, hj, h⟩
    · exact absurd hij (Nat.not_lt_zero _)
    · exact ⟨j, by omega, by simpa using hj, h⟩
  · rintro ⟨j, hij, hj, h⟩
    exact ⟨j + 1, by omega, by simpa using hj, h⟩

theorem dupScan_eq_none_iff {l : List Asset} : dupScan l = none ↔ ∀ i, ¬HasLaterSame l i := by
  induction l with
  | nil => simp [dupScan, HasLaterSame]
  | cons a l ih =>
    simp only [dupScan]
    constructor
    · intro h i
      split_ifs at h with ha
      cases i with
      | zero => rw [hasLaterSame_cons_zero]; exact ha
      | succ i => rw [hasLaterSame_cons_succ]; exact ih.mp h i
    · intro h
      rw [if_neg (fun ha => h 0 ((hasLaterSame_cons_zero a l).mpr ha))]
      exact ih.mpr fun i hi => h (i + 1) ((hasLaterSame_cons_succ a l i).mpr hi)

/-- The scan returns the asset at the least position some later asset `is_same`. -/
theorem dupScan_eq_some {l : List Asset} {a : Asset} (h : dupScan l = some a) :
    ∃ i, ∃ (hi : i < l.length), l[i] = a ∧ HasLaterSame l i ∧ ∀ i' < i, ¬HasLaterSame l i' := by
  induction l with
  | nil => cases h
  | cons b l ih =>
    simp only [dupScan] at h
    split_ifs at h with hb
    · cases h
      exact ⟨0, by simp, rfl, (hasLaterSame_cons_zero _ l).mpr hb, fun _ h => absurd h (by omega)⟩
    · obtain ⟨i, hi, rfl, hlater, hleast⟩ := ih h
      refine ⟨i + 1, by simpa using hi, rfl, (hasLaterSame_cons_succ b l i).mpr hlater, ?_⟩
      rintro (_ | i') hi'
      · rw [hasLaterSame_cons_zero]; exact hb
      · rw [hasLaterSame_cons_succ]; exact hleast i' (by omega)

theorem forall_not_hasLaterSame_iff {l : List Asset} :
    (∀ i, ¬HasLaterSame l i) ↔ l.Pairwise (fun a b => b.isSame a = false) := by
  simp only [List.pairwise_iff_getElem, HasLaterSame, not_exists, Bool.not_eq_true]
  exact ⟨fun h i j _ hj hij => h i j hij hj, fun h i j hij hj => h i j (by omega) hj hij⟩

/-! ## `NoteAssets::new` -/

/-- `NoteAssets::MAX_NUM_ASSETS`. -/
def maxNumAssets : ℕ := 255

/-- What `NoteAssets::new` checks: 1 to 255 assets, none the same as a later one. -/
structure NoteAssets.Valid (assets : List Asset) : Prop where
  ne_nil : assets ≠ []
  length_le : assets.length ≤ maxNumAssets
  pairwise_not_same : assets.Pairwise (fun a b => b.isSame a = false)

/-- `NoteAssets`: the assets of a note, valid by construction. -/
structure NoteAssets where
  assets : List Asset
  valid : NoteAssets.Valid assets

namespace NoteAssets

/-- `NoteAssets::new`. -/
def new (assets : List Asset) : Except NoteError NoteAssets :=
  if h₀ : assets = [] then .error .emptyAssetList
  else if h₁ : assets.length > maxNumAssets then .error (.tooManyAssets assets.length)
  else match h₂ : firstDuplicateFrom assets 0 assets with
    | some asset => .error (duplicateAssetError asset)
    | none => .ok ⟨assets, h₀, Nat.le_of_not_lt h₁, forall_not_hasLaterSame_iff.mp
        (dupScan_eq_none_iff.mp (firstDuplicateFrom_eq_dupScan assets 0 assets rfl ▸ h₂))⟩

/-- `NoteAssets::num_assets`. -/
def numAssets (n : NoteAssets) : ℕ := n.assets.length

/-- `NoteAssets::eq`: two containers are equal when their asset lists are. -/
@[ext] theorem ext {n m : NoteAssets} (h : n.assets = m.assets) : n = m := by
  cases n; cases m; cases h; rfl

instance : DecidableEq NoteAssets := fun n m =>
  decidable_of_iff (n.assets = m.assets) ⟨ext, fun h => h ▸ rfl⟩

/-- What `new` can do: the three errors, each under the checks that lead to it, or success. -/
theorem new_cases (assets : List Asset) :
    (assets = [] ∧ new assets = .error .emptyAssetList) ∨
    (assets ≠ [] ∧ maxNumAssets < assets.length ∧
      new assets = .error (.tooManyAssets assets.length)) ∨
    (assets ≠ [] ∧ assets.length ≤ maxNumAssets ∧
      ∃ a, dupScan assets = some a ∧ new assets = .error (duplicateAssetError a)) ∨
    (assets ≠ [] ∧ assets.length ≤ maxNumAssets ∧ dupScan assets = none ∧
      ∃ n, new assets = .ok n ∧ n.assets = assets) := by
  have hscan := firstDuplicateFrom_eq_dupScan assets 0 assets rfl
  unfold new
  split_ifs with h₀ h₁
  · exact .inl ⟨h₀, rfl⟩
  · exact .inr (.inl ⟨h₀, h₁, rfl⟩)
  · split
    · rename_i a h₂
      exact .inr (.inr (.inl ⟨h₀, Nat.le_of_not_lt h₁, a, hscan ▸ h₂, rfl⟩))
    · rename_i h₂
      exact .inr (.inr (.inr ⟨h₀, Nat.le_of_not_lt h₁, hscan ▸ h₂, _, rfl, rfl⟩))

theorem valid_iff {assets : List Asset} :
    Valid assets ↔ assets ≠ [] ∧ assets.length ≤ maxNumAssets ∧ dupScan assets = none := by
  rw [dupScan_eq_none_iff, forall_not_hasLaterSame_iff]
  exact ⟨fun h => ⟨h.1, h.2, h.3⟩, fun h => ⟨h.1, h.2.1, h.2.2⟩⟩

/-- "No positions `i < j` with `assets[j].is_same(&assets[i])`" is what the scan checks. -/
theorem dupScan_eq_none_iff_getElem {assets : List Asset} :
    dupScan assets = none ↔
      ∀ i j (_ : i < j) (hj : j < assets.length), assets[j].isSame assets[i] = false := by
  simp only [dupScan_eq_none_iff, HasLaterSame, not_exists, Bool.not_eq_true]

theorem new_ok_iff (assets : List Asset) :
    (∃ n, new assets = .ok n) ↔ 1 ≤ assets.length ∧ assets.length ≤ 255 ∧
      ∀ i j (_ : i < j) (hj : j < assets.length), assets[j].isSame assets[i] = false := by
  have hfail : ∀ e, new assets = .error e → ¬∃ n, new assets = .ok n :=
    fun e he ⟨n, hn⟩ => by rw [he] at hn; cases hn
  rcases new_cases assets with ⟨h₀, hn⟩ | ⟨-, h₁, hn⟩ | ⟨-, -, a, ha, hn⟩ | ⟨h₀, h₁, h₂, n, hn, -⟩
  · subst h₀; exact iff_of_false (hfail _ hn) (by simp)
  · exact iff_of_false (hfail _ hn) (by unfold maxNumAssets at h₁; omega)
  · exact iff_of_false (hfail _ hn)
      fun h => Option.some_ne_none a (ha ▸ dupScan_eq_none_iff_getElem.mpr h.2.2)
  · exact iff_of_true ⟨n, hn⟩
      ⟨List.length_pos.mpr h₀, h₁, dupScan_eq_none_iff_getElem.mp h₂⟩

theorem new_ok {assets : List Asset} {n : NoteAssets} (h : new assets = .ok n) :
    n.assets = assets := by
  rcases new_cases assets with ⟨_, hn⟩ | ⟨_, _, hn⟩ | ⟨_, _, _, _, hn⟩ | ⟨_, _, _, n', hn, hn'⟩
  · rw [hn] at h; cases h
  · rw [hn] at h; cases h
  · rw [hn] at h; cases h
  · rw [hn] at h; cases h; exact hn'

theorem new_error {assets : List Asset} {e : NoteError} (h : new assets = .error e) :
    (assets = [] → e = .emptyAssetList) ∧
    (255 < assets.length → e = .tooManyAssets assets.length) ∧
    (1 ≤ assets.length → assets.length ≤ 255 →
      ∃ i, ∃ (_ : i < assets.length), HasLaterSame assets i ∧
        (∀ i' < i, ¬HasLaterSame assets i') ∧ e = duplicateAssetError assets[i]) := by
  rcases new_cases assets with ⟨h₀, hn⟩ | ⟨h₀, h₁, hn⟩ | ⟨h₀, h₁, a, ha, hn⟩ | ⟨_, _, _, _, hn, _⟩
  · rw [hn] at h; cases h
    subst h₀; exact ⟨fun _ => rfl, by simp, by simp⟩
  · rw [hn] at h; cases h
    unfold maxNumAssets at h₁
    exact ⟨fun h => absurd h h₀, fun _ => rfl, by omega⟩
  · rw [hn] at h; cases h
    obtain ⟨i, hi, rfl, hlater, hleast⟩ := dupScan_eq_some ha
    unfold maxNumAssets at h₁
    exact ⟨fun h => absurd h h₀, by omega, fun _ _ => ⟨i, hi, hlater, hleast, rfl⟩⟩
  · rw [hn] at h; cases h

/-- The contract of `NoteAssets::new`: it succeeds exactly on 1 to 255 assets none of which a
later one `is_same`, keeps them in order, and otherwise fails with the first error in source
order, a duplicate naming the asset at the least position a later asset `is_same`. -/
theorem new_spec (assets : List Asset) :
    ((∃ n, new assets = .ok n) ↔
      1 ≤ assets.length ∧ assets.length ≤ 255 ∧
        ∀ i j (_ : i < j) (hj : j < assets.length), assets[j].isSame assets[i] = false) ∧
    (∀ n, new assets = .ok n → n.assets = assets ∧ n.numAssets = assets.length) ∧
    (∀ e, new assets = .error e →
      (assets = [] → e = .emptyAssetList) ∧
      (255 < assets.length → e = .tooManyAssets assets.length) ∧
      (1 ≤ assets.length → assets.length ≤ 255 →
        ∃ i, ∃ (_ : i < assets.length), HasLaterSame assets i ∧
          (∀ i' < i, ¬HasLaterSame assets i') ∧ e = duplicateAssetError assets[i])) :=
  ⟨new_ok_iff assets, fun _ h => ⟨new_ok h, by rw [numAssets, new_ok h]⟩, fun _ => new_error⟩

theorem new_isOk_iff_valid {assets : List Asset} : (∃ n, new assets = .ok n) ↔ Valid assets := by
  refine ⟨fun ⟨n, hn⟩ => new_ok hn ▸ n.valid, fun hv => ?_⟩
  obtain ⟨h₀, h₁, h₂⟩ := valid_iff.mp hv
  rcases new_cases assets with ⟨h, -⟩ | ⟨-, h, -⟩ | ⟨-, -, a, ha, -⟩ | ⟨-, -, -, n, hn, -⟩
  · exact absurd h h₀
  · exact absurd h (not_lt.mpr h₁)
  · rw [h₂] at ha; cases ha
  · exact ⟨n, hn⟩

/-- The checks of `new` do not depend on the order of the assets. -/
theorem Valid.perm {l l' : List Asset} (h : l.Perm l') (hv : Valid l) : Valid l' where
  ne_nil := List.ne_nil_of_length_pos (h.length_eq ▸ List.length_pos.mpr hv.ne_nil)
  length_le := h.length_eq ▸ hv.length_le
  pairwise_not_same := (h.pairwise_iff fun hab => by rwa [Asset.isSame_comm]).mp
    hv.pairwise_not_same

/-- `NoteAssets::new` accepts a list of assets exactly when it accepts any reordering of it. -/
theorem new_isOk_perm {l l' : List Asset} (h : l.Perm l') :
    (∃ n, new l = .ok n) ↔ ∃ n, new l' = .ok n := by
  rw [new_isOk_iff_valid, new_isOk_iff_valid]
  exact ⟨Valid.perm h, Valid.perm h.symm⟩

theorem new_isOk_perm_mock :
    [Asset.fungible ⟨⟨1⟩, 100⟩, .nonFungible ⟨Word.default⟩].Perm
        [.nonFungible ⟨Word.default⟩, .fungible ⟨⟨1⟩, 100⟩] ∧
      ((∃ n, new [.fungible ⟨⟨1⟩, 100⟩, .nonFungible ⟨Word.default⟩] = .ok n) ↔
        ∃ n, new [.nonFungible ⟨Word.default⟩, .fungible ⟨⟨1⟩, 100⟩] = .ok n) :=
  ⟨List.Perm.swap _ _ _, new_isOk_perm (List.Perm.swap _ _ _)⟩

end NoteAssets

/-! ## The commitment and the padded elements -/

/-- `Vec::resize(new_len, value)`: truncate to `new_len`, or pad with `value` up to it. -/
def resize {α : Type} (l : List α) (newLen : ℕ) (value : α) : List α :=
  l.take newLen ++ List.replicate (newLen - l.length) value

section Commitment

variable (hashElements : List Felt → Digest) (assetWord : Asset → Word)

/-- The elements `compute_asset_commitment` hashes: the loop appending each asset's word, then
one `Word::default()` when the number of assets is odd. -/
def assetCommitmentElements (assets : List Asset) : List Felt :=
  let assetElements := assets.foldl (fun acc asset => acc ++ (assetWord asset).elements) []
  if assets.length % 2 = 1 then assetElements ++ Word.default.elements else assetElements

/-- `compute_asset_commitment`. -/
def computeAssetCommitment (assets : List Asset) : Digest :=
  hashElements (assetCommitmentElements assetWord assets)

namespace NoteAssets

/-- `NoteAssets::commitment`. -/
def commitment (n : NoteAssets) : Digest := computeAssetCommitment hashElements assetWord n.assets

/-- `NoteAssets::to_padded_assets`: the assets' elements, resized with `ZERO` to a length that
is a multiple of eight. -/
def toPaddedAssets (n : NoteAssets) : List Felt :=
  let paddedLen := if n.assets.length % 2 = 0 then n.assets.length * wordSize
    else (n.assets.length + 1) * wordSize
  resize (n.assets.flatMap fun asset => (assetWord asset).elements) paddedLen 0

end NoteAssets

/-- The assets' elements, each asset's word in order. -/
abbrev assetElements (assets : List Asset) : List Felt :=
  assets.flatMap fun asset => (assetWord asset).elements

theorem foldl_append_words (assets : List Asset) (init : List Felt) :
    assets.foldl (fun acc asset => acc ++ (assetWord asset).elements) init =
      init ++ assetElements assetWord assets := by
  induction assets generalizing init with
  | nil => simp
  | cons a l ih => simp [ih]

theorem length_assetElements (assets : List Asset) :
    (assetElements assetWord assets).length = wordSize * assets.length := by
  induction assets with
  | nil => rfl
  | cons a l ih =>
    simp only [List.flatMap_cons, List.length_append, Word.length_elements, List.length_cons, ih]
    rw [Nat.mul_succ, Nat.add_comm]

/-- The commitment's elements are the assets' elements followed by zeros up to the next
multiple of two words. -/
theorem assetCommitmentElements_eq (assets : List Asset) :
    assetCommitmentElements assetWord assets =
      assetElements assetWord assets ++
        List.replicate (if assets.length % 2 = 0 then 0 else wordSize) 0 := by
  simp only [assetCommitmentElements, foldl_append_words, List.nil_append]
  split_ifs with h₁ h₂ <;> first | omega | rfl | simp

/-- `to_padded_assets` is the vector `compute_asset_commitment` hashes: of length
`8 * ceil(n / 2)`, the asset words in order and then zeros, so hashing it gives the
commitment. -/
theorem NoteAssets.toPaddedAssets_spec (n : NoteAssets) :
    n.toPaddedAssets assetWord = assetCommitmentElements assetWord n.assets ∧
    (n.toPaddedAssets assetWord).length = 8 * ((n.numAssets + 1) / 2) ∧
    (n.toPaddedAssets assetWord).take (4 * n.numAssets) = assetElements assetWord n.assets ∧
    (∀ x ∈ (n.toPaddedAssets assetWord).drop (4 * n.numAssets), x = 0) ∧
    hashElements (n.toPaddedAssets assetWord) = n.commitment hashElements assetWord := by
  have hlen := length_assetElements assetWord n.assets
  have hpad : n.toPaddedAssets assetWord = assetCommitmentElements assetWord n.assets := by
    rw [assetCommitmentElements_eq, toPaddedAssets, resize, List.take_of_length_le (by
      split_ifs <;> simp only [hlen, wordSize] <;> omega)]
    congr 2
    split_ifs <;> simp only [hlen, wordSize] <;> omega
  have h4 : 4 * n.numAssets = (assetElements assetWord n.assets).length := by
    rw [hlen]; rfl
  refine ⟨hpad, ?_, ?_, ?_, by rw [hpad]; rfl⟩ <;> rw [hpad, assetCommitmentElements_eq]
  · simp only [List.length_append, List.length_replicate, hlen, numAssets, wordSize]
    split_ifs <;> omega
  · rw [h4, List.take_left]
  · rw [h4, List.drop_left]
    exact fun x hx => List.eq_of_mem_replicate hx

end Commitment

end MidenBase

import MidenBase.Mock.Serde

/-!
# What the asset commitment's preimage determines

Reference: `objects/src/notes/assets.rs`, `compute_asset_commitment`.

`compute_asset_commitment` hashes the words of the assets in order, followed by one all-zero
word when their number is odd. Two asset lists whose hashed vectors agree are the same list,
provided the conversion of an asset to a word is injective on their assets and never gives the
all-zero word (`NoteAssets.assetCommitmentElements_injective`):

* when both lists have the same parity the padding is the same, so the asset words agree word by
  word (`eq_of_assetElements_eq`);
* otherwise the padding word of the odd list would have to be the last asset word of the even
  one (`assetCommitmentElements_ne_of_odd`).

Injectivity is assumed across the assets of the two lists only: there are more assets than
words, so no conversion is injective on every asset.
-/

namespace MidenBase

section Commitment

variable (assetWord : Asset → Word)

/-- Equal asset elements come from equal lists when the conversion is injective across them. -/
theorem eq_of_assetElements_eq {a b : List Asset}
    (hinj : ∀ x ∈ a, ∀ y ∈ b, assetWord x = assetWord y → x = y)
    (h : assetElements assetWord a = assetElements assetWord b) : a = b := by
  induction a generalizing b with
  | nil => cases b with
    | nil => rfl
    | cons y b => cases h
  | cons x a ih => cases b with
    | nil => cases h
    | cons y b =>
      simp only [assetElements, List.flatMap_cons] at h
      obtain ⟨hw, hl⟩ := List.append_inj h rfl
      rw [hinj x (.head _) y (.head _) (Word.elements_injective hw),
        ih (fun x hx y hy => hinj x (.tail _ hx) y (.tail _ hy)) hl]

/-- The padding word of an odd list never meets the last asset word of an even one. -/
theorem assetCommitmentElements_ne_of_odd {a b : List Asset} (ha : a.length % 2 = 1)
    (hb : b.length % 2 = 0) (hpad : ∀ x ∈ b, assetWord x ≠ Word.default) :
    assetCommitmentElements assetWord a ≠ assetCommitmentElements assetWord b := by
  rw [assetCommitmentElements_eq, assetCommitmentElements_eq, if_neg (by omega), if_pos hb,
    List.replicate_zero, List.append_nil]
  intro h
  have hlen := congrArg List.length h
  simp only [List.length_append, length_assetElements, List.length_replicate, wordSize] at hlen
  obtain ⟨b, z, rfl⟩ := (List.eq_nil_or_concat b).resolve_left fun hb => by
    simp only [hb, List.length_nil] at hlen
    omega
  simp only [List.concat_eq_append, assetElements, List.flatMap_append,
    List.flatMap_singleton] at h hpad
  have hz := (List.append_inj' h (by simp)).2
  exact hpad z (by simp) (Word.elements_injective (by rw [← hz, Word.elements_default]))

/-- Two valid asset lists whose commitment preimages agree are the same list, when the
conversion to words is injective across their assets and never gives the padding word. -/
theorem NoteAssets.assetCommitmentElements_injective (n m : NoteAssets)
    (hinj : ∀ x ∈ n.assets, ∀ y ∈ m.assets, assetWord x = assetWord y → x = y)
    (hpad : ∀ x ∈ n.assets ++ m.assets, assetWord x ≠ Word.default)
    (h : assetCommitmentElements assetWord n.assets =
      assetCommitmentElements assetWord m.assets) :
    n.assets = m.assets := by
  refine eq_of_assetElements_eq assetWord hinj ?_
  rcases Nat.mod_two_eq_zero_or_one n.assets.length with hn | hn <;>
    rcases Nat.mod_two_eq_zero_or_one m.assets.length with hm | hm
  · simpa [assetCommitmentElements_eq, hn, hm] using h
  · exact absurd h.symm (assetCommitmentElements_ne_of_odd assetWord hm hn
      fun x hx => hpad x (List.mem_append_left _ hx))
  · exact absurd h (assetCommitmentElements_ne_of_odd assetWord hn hm
      fun x hx => hpad x (List.mem_append_right _ hx))
  · simpa [assetCommitmentElements_eq, hn, hm] using h

theorem NoteAssets.assetCommitmentElements_injective_mock :
    (∀ x ∈ Mock.twoAssets.assets, ∀ y ∈ Mock.twoAssets.assets,
      Mock.assetWord x = Mock.assetWord y → x = y) ∧
    (∀ x ∈ Mock.twoAssets.assets ++ Mock.twoAssets.assets, Mock.assetWord x ≠ Word.default) ∧
    Mock.twoAssets.assets = Mock.twoAssets.assets := by
  have hinj : ∀ x ∈ Mock.twoAssets.assets, ∀ y ∈ Mock.twoAssets.assets,
      Mock.assetWord x = Mock.assetWord y → x = y := by decide
  have hpad : ∀ x ∈ Mock.twoAssets.assets ++ Mock.twoAssets.assets,
      Mock.assetWord x ≠ Word.default := by decide
  exact ⟨hinj, hpad,
    NoteAssets.assetCommitmentElements_injective Mock.assetWord _ _ hinj hpad rfl⟩

end Commitment

end MidenBase

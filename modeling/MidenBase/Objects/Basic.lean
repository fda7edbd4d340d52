import Mathlib.Data.Fin.Basic

/-!
# Field elements, words and digests

Reference: `objects/src/lib.rs`, which re-exports `Felt`, `Word`, `WORD_SIZE`, `ZERO` and the
RPO hasher `Hasher` / `Digest` from the VM and crypto crates.

`Felt` is an element of the 64-bit Goldilocks field, kept as its canonical value in
`[0, p)`. A `Word` and a `Digest` are both four field elements. The hash function
`Hasher::hash_elements` is not modelled: every module that calls it takes it as a parameter
`hashElements : List Felt → Digest`, so each theorem holds for every hash function.
-/

namespace MidenBase

/-- The Goldilocks prime `2^64 - 2^32 + 1`, the modulus of `Felt`. -/
def feltModulus : ℕ := 18446744069414584321

/-- `Felt`: a Goldilocks field element, as its canonical value. -/
abbrev Felt := Fin feltModulus

/-- `Felt::new`: a numeral is reduced modulo the field's prime. -/
instance (i : ℕ) : OfNat Felt i := ⟨⟨i % feltModulus, Nat.mod_lt _ (Nat.succ_pos _)⟩⟩

/-- `WORD_SIZE`: the number of field elements in a word. -/
def wordSize : ℕ := 4

/-- `Word`: `[Felt; WORD_SIZE]`. -/
structure Word where
  e0 : Felt
  e1 : Felt
  e2 : Felt
  e3 : Felt
deriving DecidableEq, Repr

namespace Word

/-- The four elements of a word, in order (`as_elements`). -/
def elements (w : Word) : List Felt := [w.e0, w.e1, w.e2, w.e3]

/-- `Word::default()`, the all-`ZERO` word. -/
def default : Word := ⟨0, 0, 0, 0⟩

instance : Inhabited Word := ⟨default⟩

@[simp] theorem length_elements (w : Word) : w.elements.length = wordSize := rfl

theorem elements_injective : Function.Injective elements := by
  rintro ⟨a, b, c, d⟩ ⟨a', b', c', d'⟩ h
  simp only [elements, List.cons.injEq, and_true] at h
  obtain ⟨rfl, rfl, rfl, rfl⟩ := h
  rfl

@[simp] theorem elements_inj {w w' : Word} : w.elements = w'.elements ↔ w = w' :=
  elements_injective.eq_iff

@[simp] theorem elements_default : default.elements = List.replicate wordSize 0 := rfl

end Word

/-- `Digest` (`RpoDigest`): four field elements, the output of the RPO hash. -/
abbrev Digest := Word

/-- `AccountId`: an account identifier, one field element. Whether the account is on-chain
is decided by `AccountId::is_on_chain`, which lives outside this model and is a parameter of
the transaction modules. -/
structure AccountId where
  felt : Felt
deriving DecidableEq, Repr

end MidenBase

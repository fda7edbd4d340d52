import MidenBase.Objects.Basic
import MidenBase.Utils.Serde

/-!
# Transaction ids

Reference: `objects/src/transaction/transaction_id.rs`.

`TransactionId::new` copies four words into a sixteen-element array and hashes it: the initial
account hash (`Digest::default()` when there is none), the final account hash and the input and
output note commitments. The copies fill consecutive four-element ranges of the array, so the
array is the concatenation of the four words (`elements`).

`None` and `Some(Digest::default())` give the same array (`elements_none_eq_some_default`); the
code's `debug_assert_ne!` rules the second out, and under that condition the array determines
all four inputs (`elements_injective`).

A transaction id is serialized as its digest, with the digest's own encoding.
-/

namespace MidenBase

/-- `TransactionId`: the digest identifying a transaction. -/
structure TransactionId where
  digest : Digest
deriving DecidableEq, Repr

namespace TransactionId

/-- The elements `TransactionId::new` hashes, `init_account_hash.unwrap_or_default()` first. -/
def elements (initAccountHash : Option Digest) (finalAccountHash inputNotesHash
    outputNotesHash : Digest) : List Felt :=
  (initAccountHash.getD Word.default).elements ++ finalAccountHash.elements ++
    inputNotesHash.elements ++ outputNotesHash.elements

/-- `TransactionId::new`. -/
def new (hashElements : List Felt → Digest) (initAccountHash : Option Digest)
    (finalAccountHash inputNotesHash outputNotesHash : Digest) : TransactionId :=
  ⟨hashElements (elements initAccountHash finalAccountHash inputNotesHash outputNotesHash)⟩

/-- The `debug_assert_ne!(init_account_hash, Some(Digest::default()))` of `TransactionId::new`
(and of `ProvenTransactionBuilder::new`): the all-zero word only ever stands for "no initial
hash". -/
def SentinelFree (initAccountHash : Option Digest) : Prop := initAccountHash ≠ some Word.default

instance (h : Option Digest) : Decidable (SentinelFree h) := inferInstanceAs (Decidable (_ ≠ _))

theorem length_elements (i : Option Digest) (f a b : Digest) : (elements i f a b).length = 16 :=
  rfl

/-- A missing initial hash and the all-zero one hash the same elements. -/
theorem elements_none_eq_some_default (f a b : Digest) :
    elements none f a b = elements (some Word.default) f a b := rfl

theorem getD_default_injective {i i' : Option Digest} (hi : SentinelFree i)
    (hi' : SentinelFree i') (h : i.getD Word.default = i'.getD Word.default) : i = i' := by
  cases i <;> cases i' <;> simp_all [SentinelFree]

/-- Away from the sentinel, the hashed elements determine all four inputs. -/
theorem elements_injective {i i' : Option Digest} {f f' a a' b b' : Digest}
    (hi : SentinelFree i) (hi' : SentinelFree i') (h : elements i f a b = elements i' f' a' b') :
    i = i' ∧ f = f' ∧ a = a' ∧ b = b' := by
  simp only [elements, List.append_assoc] at h
  obtain ⟨hi₀, h⟩ := List.append_inj h rfl
  obtain ⟨hf, h⟩ := List.append_inj h rfl
  obtain ⟨ha, hb⟩ := List.append_inj h rfl
  exact ⟨getD_default_injective hi hi' (Word.elements_inj.mp hi₀), Word.elements_inj.mp hf,
    Word.elements_inj.mp ha, Word.elements_inj.mp hb⟩

/-- `TransactionId::from(&ExecutedTransaction)`, over the executed transaction's accessors: the
initial account's hash is passed only when the account is not new
(`is_new().not().then(|| hash())`). -/
def ofExecutedTransaction (hashElements : List Felt → Digest) (initialAccountIsNew : Bool)
    (initialAccountHash finalAccountHash inputNotesHash outputNotesHash : Digest) :
    TransactionId :=
  new hashElements (if !initialAccountIsNew then some initialAccountHash else none)
    finalAccountHash inputNotesHash outputNotesHash

section Serialization

variable (digest : Codec Digest)

/-- `TransactionId::write_into`: `write_bytes(&self.0.to_bytes())`, the digest's own encoding. -/
def writeInto (id : TransactionId) : List UInt8 := digest.write id.digest

/-- `TransactionId::read_from`: a digest, wrapped. -/
def readFrom : Reader TransactionId := do
  let id ← digest.read
  pure ⟨id⟩

variable {digest}

theorem readFrom_writeInto (h : digest.RoundTrips) (id : TransactionId) (rest : List UInt8) :
    (readFrom digest).run (id.writeInto digest ++ rest) = .ok (id, rest) :=
  run_bind_of_ok (h id.digest rest)

theorem readFrom_canonical (h : digest.Canonical) {bs rest : List UInt8} {id : TransactionId}
    (hr : (readFrom digest).run bs = .ok (id, rest)) : bs = id.writeInto digest ++ rest := by
  obtain ⟨d, s, hd, hr⟩ := run_bind_eq_ok hr
  cases hr
  exact h _ _ _ hd

end Serialization

end TransactionId

end MidenBase

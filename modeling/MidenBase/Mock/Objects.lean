import MidenBase.Objects.Transaction.ProvenTxEncoding
import MidenBase.Mock.Serde

/-!
# Mock collaborators of proven transactions

A concrete choice of the types and operations `proven_tx.rs` takes from outside the repository
(`Objects`) and of their encodings (`Encodings`), small enough that `build` and `read_from` can
be evaluated on concrete inputs, with every encoding proved to round-trip and to be canonical.

Note ids, nullifiers, metadata, deltas and proofs are natural numbers; an envelope is a note id
and its metadata; a note is its id, its metadata and its assets; an account is its id and its
hash. An account is on chain when its id is even. The note collections accept every list, and
every commitment and hash is the all-zero word.
-/

namespace MidenBase

namespace Mock

/-- The mock collaborators. -/
def objects : Objects where
  Account := AccountId × Digest
  AccountDelta := ℕ
  Nullifier := ℕ
  NoteId := ℕ
  NoteMetadata := ℕ
  NoteEnvelope := ℕ × ℕ
  Note := (ℕ × ℕ) × NoteAssets
  InputNotes := List ℕ
  OutputNotes := List (ℕ × ℕ)
  TransactionInputError := Unit
  TransactionOutputError := Unit
  ExecutionProof := ℕ
  noteIdOrder := inferInstanceAs (LinearOrder ℕ)
  isOnChain a := a.felt.val % 2 == 0
  accountId := Prod.fst
  accountHash := Prod.snd
  envelopeNoteId := Prod.fst
  envelopeMetadata := Prod.snd
  noteId n := n.1.1
  noteMetadata n := n.1.2
  inputNotesNew := .ok
  inputNotesCommitment _ := Word.default
  outputNotesNew := .ok
  outputNotesCommitment _ := Word.default
  outputNotesIter := id
  outputNotesNew_iter _ _ h := by cases h; rfl
  hashElements _ := Word.default

/-- The mock encodings: unary numbers, note collections with their length first. -/
def encodings : Encodings objects where
  accountId := accountId
  digest := word
  account := accountId.prod word
  accountDelta := nat
  inputNotes := nat.vec nat
  outputNotes := nat.vec (nat.prod nat)
  usize := nat
  noteId := nat
  note c := (nat.prod nat).prod c
  asset := asset
  proof := nat

theorem encodings_roundTrips : encodings.RoundTrips where
  accountId := accountId_roundTrips
  digest := word_roundTrips
  account := accountId_roundTrips.prod word_roundTrips
  accountDelta := nat_roundTrips
  inputNotes := nat_roundTrips.vec nat_roundTrips
  outputNotes := nat_roundTrips.vec (nat_roundTrips.prod nat_roundTrips)
  usize := nat_roundTrips
  noteId := nat_roundTrips
  note _ hc := (nat_roundTrips.prod nat_roundTrips).prod hc
  asset := asset_roundTrips
  proof := nat_roundTrips

theorem encodings_canonical : encodings.Canonical where
  accountId := accountId_canonical
  digest := word_canonical
  account := accountId_canonical.prod word_canonical
  accountDelta := nat_canonical
  inputNotes := nat_canonical.vec nat_canonical
  outputNotes := nat_canonical.vec (nat_canonical.prod nat_canonical)
  usize := nat_canonical
  noteId := nat_canonical
  note _ hc := (nat_canonical.prod nat_canonical).prod hc
  asset := asset_canonical
  proof := nat_canonical

/-- A mock transaction of the account `accountId`, with the given initial hash, account details
and note details, no notes, and zeros elsewhere. -/
def transaction (accountId : AccountId) (initialAccountHash : Option Digest)
    (accountDetails : Option (AccountDetails objects))
    (outputNoteDetails : BTreeMap objects.NoteId objects.Note) : ProvenTransaction objects where
  id := TransactionId.new objects.hashElements initialAccountHash Word.default Word.default
    Word.default
  accountId := accountId
  initialAccountHash := initialAccountHash
  finalAccountHash := Word.default
  accountDetails := accountDetails
  inputNotes := ([] : List ℕ)
  outputNotes := ([] : List (ℕ × ℕ))
  outputNoteDetails := outputNoteDetails
  txScriptRoot := none
  blockRef := Word.default
  proof := (0 : ℕ)
  id_eq := rfl

/-- A digest other than the all-zero word. -/
def someHash : Digest := ⟨1, 0, 0, 0⟩

/-- A transaction of an existing on-chain account (even id) with a delta and one note's
details. -/
def deltaTransaction : ProvenTransaction objects :=
  transaction ⟨2⟩ (some someHash) (some (.delta (0 : ℕ)))
    (BTreeMap.fromIter [((1 : ℕ), (((1 : ℕ), (0 : ℕ)), noteAssets))])

/-- A transaction of an existing on-chain account (even id) with a delta and no notes. -/
def existingTransaction : ProvenTransaction objects :=
  transaction ⟨2⟩ (some someHash) (some (.delta (0 : ℕ))) .empty

/-- A transaction of an off-chain account (odd id) carrying a delta. -/
def offChainWithDetails : ProvenTransaction objects :=
  transaction ⟨1⟩ (some someHash) (some (.delta (0 : ℕ))) .empty

/-- Detail pairs in ascending key order. -/
def ascendingDetails : List (objects.NoteId × objects.Note) :=
  [((1 : ℕ), (((1 : ℕ), (0 : ℕ)), noteAssets)), ((2 : ℕ), (((2 : ℕ), (0 : ℕ)), noteAssets))]

/-- Detail pairs with a repeated key. -/
def repeatedDetails : List (objects.NoteId × objects.Note) :=
  [((1 : ℕ), (((1 : ℕ), (0 : ℕ)), noteAssets)), ((1 : ℕ), (((1 : ℕ), (0 : ℕ)), noteAssets))]

end Mock

end MidenBase

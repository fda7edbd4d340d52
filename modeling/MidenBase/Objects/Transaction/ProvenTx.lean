import MidenBase.Objects.Transaction.TransactionId
import MidenBase.Utils.Collections

/-!
# Proven transactions and their builder

Reference: `objects/src/transaction/proven_tx.rs`.

A `ProvenTransaction` is built once by `ProvenTransactionBuilder::build`, which runs a fixed,
fail-fast sequence of checks on what the builder accumulated. The types a proven transaction
holds and the operations `build` calls on them are defined outside the repository; they are the
fields of `Objects`, so every result here holds for every choice of them. The one property of
theirs the model relies on is that `OutputNotes::new` keeps the envelopes it is given, in order
(`outputNotesNew_iter`).

A `ProvenTransaction` carries the equation of its id as a field: both of its constructors
(`build` and `read_from`) compute the id with `TransactionId::new` from the fields.
-/

namespace MidenBase

/-- The collaborators of `proven_tx.rs` defined outside the repository: the types a proven
transaction holds and the operations its builder calls on them. -/
structure Objects where
  Account : Type
  AccountDelta : Type
  Nullifier : Type
  NoteId : Type
  NoteMetadata : Type
  NoteEnvelope : Type
  Note : Type
  InputNotes : Type
  OutputNotes : Type
  TransactionInputError : Type
  TransactionOutputError : Type
  ExecutionProof : Type
  /-- The `Ord` of `NoteId`, which orders the `BTreeMap` of note details. -/
  noteIdOrder : LinearOrder NoteId
  /-- `AccountId::is_on_chain`. -/
  isOnChain : AccountId → Bool
  /-- `Account::id`. -/
  accountId : Account → AccountId
  /-- `Account::hash`. -/
  accountHash : Account → Digest
  /-- `NoteEnvelope::note_id`. -/
  envelopeNoteId : NoteEnvelope → NoteId
  /-- `NoteEnvelope::metadata`. -/
  envelopeMetadata : NoteEnvelope → NoteMetadata
  /-- `Note::id`. -/
  noteId : Note → NoteId
  /-- `Note::metadata`. -/
  noteMetadata : Note → NoteMetadata
  /-- `InputNotes::new`. -/
  inputNotesNew : List Nullifier → Except TransactionInputError InputNotes
  /-- `InputNotes::commitment`. -/
  inputNotesCommitment : InputNotes → Digest
  /-- `OutputNotes::new`. -/
  outputNotesNew : List NoteEnvelope → Except TransactionOutputError OutputNotes
  /-- `OutputNotes::commitment`. -/
  outputNotesCommitment : OutputNotes → Digest
  /-- `OutputNotes::iter`. -/
  outputNotesIter : OutputNotes → List NoteEnvelope
  /-- Modelled from the spec: `OutputNotes::new` keeps the envelopes it is given, in order. -/
  outputNotesNew_iter : ∀ l o, outputNotesNew l = .ok o → outputNotesIter o = l
  /-- `Hasher::hash_elements`. -/
  hashElements : List Felt → Digest

attribute [instance] Objects.noteIdOrder

variable {O : Objects}

/-- `AccountDetails`: the whole account for a new account, its delta for an existing one. -/
inductive AccountDetails (O : Objects) where
  | full (account : O.Account)
  | delta (delta : O.AccountDelta)

/-- `ProvenTransactionError`. -/
inductive ProvenTransactionError (O : Objects) where
  | noteDetailsForUnknownNotes (noteIds : List O.NoteId)
  | inputNotesError (error : O.TransactionInputError)
  | outputNotesError (error : O.TransactionOutputError)
  | offChainAccountWithDetails (accountId : AccountId)
  | onChainAccountMissingDetails (accountId : AccountId)
  | newOnChainAccountRequiresFullDetails (accountId : AccountId)
  | accountIdMismatch (expected actual : AccountId)
  | accountFinalHashMismatch (expected actual : Digest)
  | existingOnChainAccountRequiresDeltaDetails (accountId : AccountId)

/-- `ProvenTransaction`: the result of executing and proving a transaction. -/
structure ProvenTransaction (O : Objects) where
  id : TransactionId
  accountId : AccountId
  initialAccountHash : Option Digest
  finalAccountHash : Digest
  accountDetails : Option (AccountDetails O)
  inputNotes : O.InputNotes
  outputNotes : O.OutputNotes
  outputNoteDetails : BTreeMap O.NoteId O.Note
  txScriptRoot : Option Digest
  blockRef : Digest
  proof : O.ExecutionProof
  id_eq : id = TransactionId.new O.hashElements initialAccountHash finalAccountHash
    (O.inputNotesCommitment inputNotes) (O.outputNotesCommitment outputNotes)

/-- `TransactionId::from(&ProvenTransaction)`: the id recomputed from the transaction's fields. -/
def TransactionId.ofProvenTransaction (p : ProvenTransaction O) : TransactionId :=
  TransactionId.new O.hashElements p.initialAccountHash p.finalAccountHash
    (O.inputNotesCommitment p.inputNotes) (O.outputNotesCommitment p.outputNotes)

/-- Recomputing the id of a transaction gives the id it holds, whichever constructor built it. -/
theorem TransactionId.ofProvenTransaction_eq_id (p : ProvenTransaction O) :
    TransactionId.ofProvenTransaction p = p.id :=
  p.id_eq.symm

/-- `ProvenTransaction::get_output_note_details`. -/
def ProvenTransaction.getOutputNoteDetails (p : ProvenTransaction O) (noteId : O.NoteId) :
    Option O.Note :=
  p.outputNoteDetails.get noteId

/-- `ProvenTransactionBuilder`. -/
structure ProvenTransactionBuilder (O : Objects) where
  accountId : AccountId
  initialAccountHash : Option Digest
  finalAccountHash : Digest
  accountDetails : Option (AccountDetails O)
  inputNotes : List O.Nullifier
  outputNotes : List O.NoteEnvelope
  outputNoteDetails : BTreeMap O.NoteId O.Note
  txScriptRoot : Option Digest
  blockRef : Digest
  proof : O.ExecutionProof

namespace ProvenTransactionBuilder

/-- `ProvenTransactionBuilder::new`. Its `debug_assert_ne!` is `TransactionId.SentinelFree`. -/
def new (accountId : AccountId) (initialAccountHash : Option Digest) (finalAccountHash : Digest)
    (blockRef : Digest) (proof : O.ExecutionProof) : ProvenTransactionBuilder O where
  accountId := accountId
  initialAccountHash := initialAccountHash
  finalAccountHash := finalAccountHash
  accountDetails := none
  inputNotes := []
  outputNotes := []
  outputNoteDetails := .empty
  txScriptRoot := none
  blockRef := blockRef
  proof := proof

/-- `ProvenTransactionBuilder::account_details`. -/
def setAccountDetails (b : ProvenTransactionBuilder O) (accountDetails : AccountDetails O) :
    ProvenTransactionBuilder O :=
  { b with accountDetails := some accountDetails }

/-- `ProvenTransactionBuilder::add_input_notes`. -/
def addInputNotes (b : ProvenTransactionBuilder O) (notes : List O.Nullifier) :
    ProvenTransactionBuilder O :=
  { b with inputNotes := b.inputNotes ++ notes }

/-- `ProvenTransactionBuilder::add_output_notes`. -/
def addOutputNotes (b : ProvenTransactionBuilder O) (notes : List O.NoteEnvelope) :
    ProvenTransactionBuilder O :=
  { b with outputNotes := b.outputNotes ++ notes }

/-- `ProvenTransactionBuilder::add_output_note_details`. -/
def addOutputNoteDetails (b : ProvenTransactionBuilder O) (notes : List (O.NoteId × O.Note)) :
    ProvenTransactionBuilder O :=
  { b with outputNoteDetails := b.outputNoteDetails.extend notes }

/-- `ProvenTransactionBuilder::tx_script_root`. -/
def setTxScriptRoot (b : ProvenTransactionBuilder O) (txScriptRoot : Digest) :
    ProvenTransactionBuilder O :=
  { b with txScriptRoot := some txScriptRoot }

/-- The ids of the details that no output envelope has, in ascending order. -/
def unknownIds (b : ProvenTransactionBuilder O) : List O.NoteId :=
  let knownOutputIds := BTreeSet.fromIter (b.outputNotes.map O.envelopeNoteId)
  b.outputNoteDetails.keys.filter fun k => !knownOutputIds.contains k

/-- `ProvenTransactionBuilder::build`. -/
def build (b : ProvenTransactionBuilder O) :
    Except (ProvenTransactionError O) (ProvenTransaction O) := do
  let outputNoteDetails := b.outputNoteDetails
  let unknownIds := b.unknownIds
  if !unknownIds.isEmpty then
    throw (.noteDetailsForUnknownNotes unknownIds)
  let accountDetails := b.accountDetails
  let inputNotes ← (O.inputNotesNew b.inputNotes).mapError .inputNotesError
  let outputNotes ← (O.outputNotesNew b.outputNotes).mapError .outputNotesError
  let txScriptRoot := b.txScriptRoot
  if !O.isOnChain b.accountId && accountDetails.isSome then
    throw (.offChainAccountWithDetails b.accountId)
  if O.isOnChain b.accountId then
    match accountDetails with
    | none => throw (.onChainAccountMissingDetails b.accountId)
    | some details =>
      let isNewAccount := b.initialAccountHash.isNone
      match isNewAccount, details with
      | true, .delta _ => throw (.newOnChainAccountRequiresFullDetails b.accountId)
      | true, .full account =>
        if O.accountId account != b.accountId then
          throw (.accountIdMismatch b.accountId (O.accountId account))
        if O.accountHash account != b.finalAccountHash then
          throw (.accountFinalHashMismatch b.finalAccountHash (O.accountHash account))
      | false, .full _ => throw (.existingOnChainAccountRequiresDeltaDetails b.accountId)
      | false, .delta _ => pure ()
  pure
    { id := TransactionId.new O.hashElements b.initialAccountHash b.finalAccountHash
        (O.inputNotesCommitment inputNotes) (O.outputNotesCommitment outputNotes)
      accountId := b.accountId
      initialAccountHash := b.initialAccountHash
      finalAccountHash := b.finalAccountHash
      accountDetails := accountDetails
      inputNotes := inputNotes
      outputNotes := outputNotes
      outputNoteDetails := outputNoteDetails
      txScriptRoot := txScriptRoot
      blockRef := b.blockRef
      proof := b.proof
      id_eq := rfl }

end ProvenTransactionBuilder

end MidenBase

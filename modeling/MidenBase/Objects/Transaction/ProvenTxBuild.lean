import MidenBase.Mock.Objects
import Mathlib.Data.List.Sort

/-!
# What `build` returns after any sequence of builder calls

Reference: `objects/src/transaction/proven_tx.rs`, `ProvenTransactionBuilder`.

A builder is created by `new` and then receives any finite sequence of calls (`BuilderCall`);
`run` applies them in order. `referenceBuild` is the procedure the builder is meant to implement,
stated directly over the call sequence: the nullifiers and envelopes of all calls in order, the
details map obtained by inserting every pair in call order, the last account details and script
root set, and then the checks in their fixed order: note details without an envelope (the
unknown note ids listed in ascending order), the input notes, the output notes, details for an
off-chain account, and last the rules for on-chain accounts.

`build_run_new` proves that `build` after `run` is exactly `referenceBuild`. The proof has three
parts:

* each call changes one field (`apply_*`), so a run accumulates exactly what the reference
  collects (`run_*`);
* the ids `build` reports are the keys of the details map missing from the envelopes, which the
  sorted-map model shows to be the ascending, duplicate-free list the reference computes
  (`unknownIds_fromIter`);
* `build` makes its checks in the reference's order (`build_eq_referenceBuild`).

`build_isOk_iff` says when `build` succeeds, and what a successful `build` guarantees is
`ProvenTransaction.BuildValid` (`build_valid`). For the
note details this is only that every key is the note id of an output envelope; the note stored
under a key is whatever the caller paired with it last (`getOutputNoteDetails_build`), and its own
id is never compared with the key (`getOutputNoteDetails_id_mismatch`).
-/

namespace MidenBase

variable {O : Objects}

/-- A call on a builder after `ProvenTransactionBuilder::new`. -/
inductive BuilderCall (O : Objects) where
  | accountDetails (details : AccountDetails O)
  | addInputNotes (notes : List O.Nullifier)
  | addOutputNotes (notes : List O.NoteEnvelope)
  | addOutputNoteDetails (notes : List (O.NoteId × O.Note))
  | txScriptRoot (root : Digest)

namespace BuilderCall

/-- Make the call. -/
def apply (b : ProvenTransactionBuilder O) : BuilderCall O → ProvenTransactionBuilder O
  | .accountDetails d => b.setAccountDetails d
  | .addInputNotes l => b.addInputNotes l
  | .addOutputNotes l => b.addOutputNotes l
  | .addOutputNoteDetails l => b.addOutputNoteDetails l
  | .txScriptRoot r => b.setTxScriptRoot r

/-- The nullifiers a call adds. -/
def nullifiers : BuilderCall O → List O.Nullifier
  | .addInputNotes l => l
  | _ => []

/-- The envelopes a call adds. -/
def envelopes : BuilderCall O → List O.NoteEnvelope
  | .addOutputNotes l => l
  | _ => []

/-- The note details a call adds. -/
def detailPairs : BuilderCall O → List (O.NoteId × O.Note)
  | .addOutputNoteDetails l => l
  | _ => []

/-- The account details a call sets. -/
def setsAccountDetails : BuilderCall O → Option (AccountDetails O)
  | .accountDetails d => some d
  | _ => none

/-- The script root a call sets. -/
def setsTxScriptRoot : BuilderCall O → Option Digest
  | .txScriptRoot r => some r
  | _ => none

variable (b : ProvenTransactionBuilder O) (c : BuilderCall O)

@[simp] theorem apply_accountId : (c.apply b).accountId = b.accountId := by cases c <;> rfl

@[simp] theorem apply_initialAccountHash :
    (c.apply b).initialAccountHash = b.initialAccountHash := by cases c <;> rfl

@[simp] theorem apply_finalAccountHash : (c.apply b).finalAccountHash = b.finalAccountHash := by
  cases c <;> rfl

@[simp] theorem apply_blockRef : (c.apply b).blockRef = b.blockRef := by cases c <;> rfl

@[simp] theorem apply_proof : (c.apply b).proof = b.proof := by cases c <;> rfl

theorem apply_inputNotes : (c.apply b).inputNotes = b.inputNotes ++ c.nullifiers := by
  cases c <;> first | rfl | exact (List.append_nil _).symm

theorem apply_outputNotes : (c.apply b).outputNotes = b.outputNotes ++ c.envelopes := by
  cases c <;> first | rfl | exact (List.append_nil _).symm

theorem apply_outputNoteDetails :
    (c.apply b).outputNoteDetails = b.outputNoteDetails.extend c.detailPairs := by
  cases c <;> rfl

theorem apply_accountDetails :
    (c.apply b).accountDetails = c.setsAccountDetails.or b.accountDetails := by
  cases c <;> rfl

theorem apply_txScriptRoot : (c.apply b).txScriptRoot = c.setsTxScriptRoot.or b.txScriptRoot := by
  cases c <;> rfl

end BuilderCall

/-- Make the calls in order. -/
def ProvenTransactionBuilder.run (b : ProvenTransactionBuilder O) (calls : List (BuilderCall O)) :
    ProvenTransactionBuilder O :=
  calls.foldl BuilderCall.apply b

namespace ProvenTransactionBuilder

section Run

variable (b : ProvenTransactionBuilder O) (calls : List (BuilderCall O))

@[simp] theorem run_nil : b.run [] = b := rfl

@[simp] theorem run_cons (c : BuilderCall O) : b.run (c :: calls) = (c.apply b).run calls := rfl

/-- A field no call writes keeps its value over a run. -/
theorem run_frame {α : Type} (f : ProvenTransactionBuilder O → α)
    (hf : ∀ b (c : BuilderCall O), f (c.apply b) = f b) : f (b.run calls) = f b := by
  induction calls generalizing b with
  | nil => rfl
  | cons c calls ih => rw [run_cons, ih, hf]

theorem run_inputNotes :
    (b.run calls).inputNotes = b.inputNotes ++ calls.flatMap BuilderCall.nullifiers := by
  induction calls generalizing b with
  | nil => simp
  | cons c calls ih => simp [ih, BuilderCall.apply_inputNotes]

theorem run_outputNotes :
    (b.run calls).outputNotes = b.outputNotes ++ calls.flatMap BuilderCall.envelopes := by
  induction calls generalizing b with
  | nil => simp
  | cons c calls ih => simp [ih, BuilderCall.apply_outputNotes]

theorem run_outputNoteDetails :
    (b.run calls).outputNoteDetails =
      b.outputNoteDetails.extend (calls.flatMap BuilderCall.detailPairs) := by
  induction calls generalizing b with
  | nil => rfl
  | cons c calls ih =>
    rw [run_cons, ih, BuilderCall.apply_outputNoteDetails, List.flatMap_cons,
      BTreeMap.extend_append]

/-- The last of the values set, if any. -/
theorem getLast?_filterMap_cons {α β : Type} (f : α → Option β) (a : α) (l : List α) :
    ((a :: l).filterMap f).getLast? = (l.filterMap f).getLast?.or (f a) := by
  rw [show a :: l = [a] ++ l from rfl, List.filterMap_append, List.getLast?_append]
  cases h : f a <;> simp [h]

theorem run_accountDetails :
    (b.run calls).accountDetails =
      (calls.filterMap BuilderCall.setsAccountDetails).getLast?.or b.accountDetails := by
  induction calls generalizing b with
  | nil => rfl
  | cons c calls ih =>
    rw [run_cons, ih, BuilderCall.apply_accountDetails, getLast?_filterMap_cons, Option.or_assoc]

theorem run_txScriptRoot :
    (b.run calls).txScriptRoot =
      (calls.filterMap BuilderCall.setsTxScriptRoot).getLast?.or b.txScriptRoot := by
  induction calls generalizing b with
  | nil => rfl
  | cons c calls ih =>
    rw [run_cons, ih, BuilderCall.apply_txScriptRoot, getLast?_filterMap_cons, Option.or_assoc]

end Run

end ProvenTransactionBuilder

/-! ## The reference procedure -/

/-- Modelled from the spec: the note ids that have details but no envelope, each once, in
ascending order. -/
def referenceUnknownIds (envelopes : List O.NoteEnvelope) (pairs : List (O.NoteId × O.Note)) :
    List O.NoteId :=
  ((pairs.map Prod.fst).dedup.filter (· ∉ envelopes.map O.envelopeNoteId)).insertionSort (· ≤ ·)

/-- Modelled from the spec: the first account rule the transaction violates, if any. The rules,
in order: an off-chain account has no details; an on-chain account has details; a new one
(no initial hash) has its full state, whose id and then hash match the transaction's; an
existing one has a delta. -/
def referenceAccountCheck (accountId : AccountId) (initialAccountHash : Option Digest)
    (finalAccountHash : Digest) : Option (AccountDetails O) → Option (ProvenTransactionError O)
  | none => if O.isOnChain accountId then some (.onChainAccountMissingDetails accountId) else none
  | some details =>
    if !O.isOnChain accountId then some (.offChainAccountWithDetails accountId)
    else
      match initialAccountHash, details with
      | none, .delta _ => some (.newOnChainAccountRequiresFullDetails accountId)
      | none, .full account =>
        if O.accountId account ≠ accountId then
          some (.accountIdMismatch accountId (O.accountId account))
        else if O.accountHash account ≠ finalAccountHash then
          some (.accountFinalHashMismatch finalAccountHash (O.accountHash account))
        else none
      | some _, .full _ => some (.existingOnChainAccountRequiresDeltaDetails accountId)
      | some _, .delta _ => none

/-- Modelled from the spec: what `build` returns for the accumulated state. The details map is
the one obtained by inserting every pair in order. The checks come in a fixed order (unknown note
ids, input notes, output notes, then the account rules) and the first one that fails decides the
error. -/
def referenceBuild (accountId : AccountId) (initialAccountHash : Option Digest)
    (finalAccountHash blockRef : Digest) (proof : O.ExecutionProof) (nullifiers : List O.Nullifier)
    (envelopes : List O.NoteEnvelope) (pairs : List (O.NoteId × O.Note))
    (accountDetails : Option (AccountDetails O)) (txScriptRoot : Option Digest) :
    Except (ProvenTransactionError O) (ProvenTransaction O) :=
  let unknownIds := referenceUnknownIds envelopes pairs
  if unknownIds ≠ [] then .error (.noteDetailsForUnknownNotes unknownIds) else
  match O.inputNotesNew nullifiers, O.outputNotesNew envelopes with
  | .error e, _ => .error (.inputNotesError e)
  | .ok _, .error e => .error (.outputNotesError e)
  | .ok inputNotes, .ok outputNotes =>
    match referenceAccountCheck accountId initialAccountHash finalAccountHash accountDetails with
    | some e => .error e
    | none =>
      .ok { id := TransactionId.new O.hashElements initialAccountHash finalAccountHash
              (O.inputNotesCommitment inputNotes) (O.outputNotesCommitment outputNotes)
            accountId, initialAccountHash, finalAccountHash, accountDetails, inputNotes,
            outputNotes, txScriptRoot, blockRef, proof
            outputNoteDetails := BTreeMap.fromIter pairs
            id_eq := rfl }

namespace ProvenTransactionBuilder

/-- The ids `build` reports are the reference's: the details map's keys are ascending and
distinct, and they are the ids of the pairs. -/
theorem unknownIds_fromIter (b : ProvenTransactionBuilder O) (pairs : List (O.NoteId × O.Note))
    (h : b.outputNoteDetails = BTreeMap.fromIter pairs) :
    b.unknownIds = referenceUnknownIds b.outputNotes pairs := by
  have hmem : ∀ k, k ∈ b.unknownIds ↔ k ∈ referenceUnknownIds b.outputNotes pairs := by
    intro k
    simp only [unknownIds, referenceUnknownIds, h, BTreeSet.contains_fromIter, List.mem_filter,
      BTreeMap.mem_keys_fromIter, List.mem_insertionSort, List.mem_dedup, List.mem_map,
      Prod.exists, exists_and_right, exists_eq_right, Bool.not_eq_eq_eq_not, Bool.not_true,
      decide_eq_false_iff_not, decide_eq_true_eq, not_exists, not_and]
  have hnodup₁ : b.unknownIds.Nodup := (BTreeMap.keys_nodup _).filter _
  have hnodup₂ : (referenceUnknownIds b.outputNotes pairs).Nodup :=
    (List.perm_insertionSort _ _).nodup_iff.mpr ((List.nodup_dedup _).filter _)
  have hsorted₁ : b.unknownIds.Sorted (· ≤ ·) := ((BTreeMap.keys_sorted _).filter _).imp le_of_lt
  have hsorted₂ : (referenceUnknownIds b.outputNotes pairs).Sorted (· ≤ ·) :=
    List.sorted_insertionSort _ _
  exact List.eq_of_perm_of_sorted ((List.perm_ext_iff_of_nodup hnodup₁ hnodup₂).mpr hmem)
    hsorted₁ hsorted₂

/-- `build` makes the reference's checks in the reference's order. -/
theorem build_eq_referenceBuild (b : ProvenTransactionBuilder O) (pairs : List (O.NoteId × O.Note))
    (h : b.outputNoteDetails = BTreeMap.fromIter pairs) :
    b.build = referenceBuild b.accountId b.initialAccountHash b.finalAccountHash b.blockRef b.proof
      b.inputNotes b.outputNotes pairs b.accountDetails b.txScriptRoot := by
  have hunknown := unknownIds_fromIter b pairs h
  obtain ⟨accountId, initial, final, details, nullifiers, envelopes, _, root, blockRef, proof⟩ := b
  subst h
  unfold build referenceBuild referenceAccountCheck
  dsimp only at hunknown ⊢
  rw [hunknown]
  cases referenceUnknownIds envelopes pairs with
  | cons id ids => rfl
  | nil =>
    cases O.inputNotesNew nullifiers with
    | error e => rfl
    | ok inputNotes =>
      cases O.outputNotesNew envelopes with
      | error e => rfl
      | ok outputNotes =>
        cases hon : O.isOnChain accountId <;> cases details
        all_goals try rfl
        rename_i d
        cases initial <;> cases d
        all_goals try rfl
        rename_i account
        by_cases h₁ : O.accountId account = accountId <;>
          by_cases h₂ : O.accountHash account = final <;> simp [h₁, h₂] <;> rfl

/-- `build` after `new` and any sequence of calls returns what the reference procedure returns for
the state the calls accumulate. -/
theorem build_run_new (accountId : AccountId) (initialAccountHash : Option Digest)
    (finalAccountHash blockRef : Digest) (proof : O.ExecutionProof) (calls : List (BuilderCall O)) :
    ((new accountId initialAccountHash finalAccountHash blockRef proof).run calls).build =
      referenceBuild accountId initialAccountHash finalAccountHash blockRef proof
        (calls.flatMap BuilderCall.nullifiers) (calls.flatMap BuilderCall.envelopes)
        (calls.flatMap BuilderCall.detailPairs)
        (calls.filterMap BuilderCall.setsAccountDetails).getLast?
        (calls.filterMap BuilderCall.setsTxScriptRoot).getLast? := by
  rw [build_eq_referenceBuild _ (calls.flatMap BuilderCall.detailPairs)
      (run_outputNoteDetails (new accountId initialAccountHash finalAccountHash blockRef proof) _),
    run_inputNotes, run_outputNotes, run_accountDetails, run_txScriptRoot,
    run_frame _ _ ProvenTransactionBuilder.accountId BuilderCall.apply_accountId,
    run_frame _ _ ProvenTransactionBuilder.initialAccountHash BuilderCall.apply_initialAccountHash,
    run_frame _ _ ProvenTransactionBuilder.finalAccountHash BuilderCall.apply_finalAccountHash,
    run_frame _ _ ProvenTransactionBuilder.blockRef BuilderCall.apply_blockRef,
    run_frame _ _ ProvenTransactionBuilder.proof BuilderCall.apply_proof]
  simp only [new, List.nil_append, Option.or_none]

end ProvenTransactionBuilder

/-! ## What `build` guarantees -/

/-- The conditions `build` checks, stated of a proven transaction: every note with details has an
envelope, an off-chain account discloses nothing, a new on-chain account discloses its full state
with the transaction's account id and final hash, and an existing one discloses a delta. -/
structure ProvenTransaction.BuildValid (p : ProvenTransaction O) : Prop where
  detailsKnown :
    ∀ k ∈ p.outputNoteDetails.keys, k ∈ (O.outputNotesIter p.outputNotes).map O.envelopeNoteId
  offChain : O.isOnChain p.accountId = false → p.accountDetails = none
  newOnChain : O.isOnChain p.accountId = true → p.initialAccountHash = none →
    ∃ account, p.accountDetails = some (.full account) ∧ O.accountId account = p.accountId ∧
      O.accountHash account = p.finalAccountHash
  existingOnChain : O.isOnChain p.accountId = true → p.initialAccountHash ≠ none →
    ∃ delta, p.accountDetails = some (.delta delta)

section Reference

variable {accountId : AccountId} {initialAccountHash : Option Digest}
  {finalAccountHash blockRef : Digest} {proof : O.ExecutionProof} {nullifiers : List O.Nullifier}
  {envelopes : List O.NoteEnvelope} {pairs : List (O.NoteId × O.Note)}
  {accountDetails : Option (AccountDetails O)} {txScriptRoot : Option Digest}
  {p : ProvenTransaction O}

/-- No account rule is violated exactly when the account conditions of `BuildValid` hold. -/
theorem referenceAccountCheck_eq_none :
    referenceAccountCheck accountId initialAccountHash finalAccountHash accountDetails = none ↔
      (O.isOnChain accountId = false → accountDetails = none) ∧
      (O.isOnChain accountId = true → initialAccountHash = none →
        ∃ account, accountDetails = some (.full account) ∧ O.accountId account = accountId ∧
          O.accountHash account = finalAccountHash) ∧
      (O.isOnChain accountId = true → initialAccountHash ≠ none →
        ∃ delta, accountDetails = some (.delta delta)) := by
  cases hon : O.isOnChain accountId <;> rcases accountDetails with _ | (account | delta) <;>
    rcases initialAccountHash with _ | initial <;> simp [referenceAccountCheck, hon]
  split_ifs <;> simp_all

/-- What the reference procedure returns when it succeeds. -/
theorem referenceBuild_eq_ok
    (h : referenceBuild accountId initialAccountHash finalAccountHash blockRef proof nullifiers
      envelopes pairs accountDetails txScriptRoot = .ok p) :
    referenceUnknownIds envelopes pairs = [] ∧ O.inputNotesNew nullifiers = .ok p.inputNotes ∧
      O.outputNotesNew envelopes = .ok p.outputNotes ∧
      referenceAccountCheck accountId initialAccountHash finalAccountHash accountDetails = none ∧
      p.accountId = accountId ∧ p.initialAccountHash = initialAccountHash ∧
      p.finalAccountHash = finalAccountHash ∧ p.accountDetails = accountDetails ∧
      p.outputNoteDetails = BTreeMap.fromIter pairs := by
  unfold referenceBuild at h
  dsimp only at h
  split_ifs at h with hu
  split at h
  · cases h
  · cases h
  · rename_i hin hout
    split at h
    · cases h
    · rename_i hcheck
      cases h
      exact ⟨not_not.mp hu, hin, hout, hcheck, rfl, rfl, rfl, rfl, rfl⟩

/-- No id is unknown exactly when every key of the pairs is the note id of an envelope. -/
theorem referenceUnknownIds_eq_nil :
    referenceUnknownIds envelopes pairs = [] ↔
      ∀ k ∈ pairs.map Prod.fst, k ∈ envelopes.map O.envelopeNoteId := by
  simp only [referenceUnknownIds, List.eq_nil_iff_forall_not_mem, List.mem_insertionSort,
    List.mem_filter, List.mem_dedup, List.mem_map, Prod.exists, exists_and_right, exists_eq_right,
    decide_eq_true_eq, not_exists, not_and, not_forall, Classical.not_imp, Decidable.not_not,
    forall_exists_index, exists_prop]

/-- The reference procedure succeeds exactly when every check passes. -/
theorem referenceBuild_isOk_iff :
    (∃ p, referenceBuild accountId initialAccountHash finalAccountHash blockRef proof nullifiers
      envelopes pairs accountDetails txScriptRoot = .ok p) ↔
      referenceUnknownIds envelopes pairs = [] ∧ (∃ i, O.inputNotesNew nullifiers = .ok i) ∧
      (∃ o, O.outputNotesNew envelopes = .ok o) ∧
      referenceAccountCheck accountId initialAccountHash finalAccountHash accountDetails = none := by
  constructor
  · rintro ⟨p, h⟩
    obtain ⟨hu, hin, hout, hcheck, -⟩ := referenceBuild_eq_ok h
    exact ⟨hu, ⟨_, hin⟩, ⟨_, hout⟩, hcheck⟩
  · rintro ⟨hu, ⟨i, hin⟩, ⟨o, hout⟩, hcheck⟩
    unfold referenceBuild
    simp only [hu, hin, hout, hcheck, ne_eq, not_true_eq_false, if_false]
    exact ⟨_, rfl⟩

/-- A successful reference procedure gives a transaction meeting the conditions of `build`. -/
theorem referenceBuild_valid
    (h : referenceBuild accountId initialAccountHash finalAccountHash blockRef proof nullifiers
      envelopes pairs accountDetails txScriptRoot = .ok p) : p.BuildValid := by
  obtain ⟨hu, -, hout, hcheck, rfl, rfl, rfl, rfl, hdetails⟩ := referenceBuild_eq_ok h
  obtain ⟨hoff, hnew, hexisting⟩ := referenceAccountCheck_eq_none.mp hcheck
  refine ⟨fun k hk => ?_, hoff, hnew, hexisting⟩
  rw [O.outputNotesNew_iter _ _ hout]
  rw [hdetails, BTreeMap.mem_keys_fromIter] at hk
  exact referenceUnknownIds_eq_nil.mp hu k hk

end Reference

namespace ProvenTransactionBuilder

variable {b : ProvenTransactionBuilder O} {p : ProvenTransaction O}

/-- Every transaction `build` returns meets the conditions it checks. -/
theorem build_valid (h : b.build = .ok p) : p.BuildValid := by
  rw [build_eq_referenceBuild b _ (BTreeMap.fromIter_entries _).symm] at h
  exact referenceBuild_valid h

/-- `build` succeeds exactly when every key of the details map is the note id of an envelope, both
note collections can be built, and the account discloses what its kind and age require: nothing
off chain, its full state (with matching id and final hash) when new on chain, and a delta when
existing on chain. -/
theorem build_isOk_iff (b : ProvenTransactionBuilder O) :
    (∃ p, b.build = .ok p) ↔
      (∀ k ∈ b.outputNoteDetails.keys, k ∈ b.outputNotes.map O.envelopeNoteId) ∧
      (∃ i, O.inputNotesNew b.inputNotes = .ok i) ∧
      (∃ o, O.outputNotesNew b.outputNotes = .ok o) ∧
      (O.isOnChain b.accountId = false → b.accountDetails = none) ∧
      (O.isOnChain b.accountId = true → b.initialAccountHash = none →
        ∃ account, b.accountDetails = some (.full account) ∧ O.accountId account = b.accountId ∧
          O.accountHash account = b.finalAccountHash) ∧
      (O.isOnChain b.accountId = true → b.initialAccountHash ≠ none →
        ∃ delta, b.accountDetails = some (.delta delta)) := by
  rw [build_eq_referenceBuild b _ (BTreeMap.fromIter_entries _).symm, referenceBuild_isOk_iff,
    referenceUnknownIds_eq_nil, referenceAccountCheck_eq_none]
  rfl

/-- `build` keeps the builder's initial hash and its details map. -/
theorem build_fields (h : b.build = .ok p) :
    p.initialAccountHash = b.initialAccountHash ∧ p.outputNoteDetails = b.outputNoteDetails := by
  rw [build_eq_referenceBuild b _ (BTreeMap.fromIter_entries _).symm] at h
  obtain ⟨-, -, -, -, -, h₁, -, -, h₂⟩ := referenceBuild_eq_ok h
  exact ⟨h₁, h₂.trans (BTreeMap.fromIter_entries _)⟩

/-- Away from the sentinel, the elements hashed into the ids of two built transactions determine
their initial and final hashes and their note commitments. -/
theorem build_elements_injective {b' : ProvenTransactionBuilder O} {p' : ProvenTransaction O}
    (hb : TransactionId.SentinelFree b.initialAccountHash)
    (hb' : TransactionId.SentinelFree b'.initialAccountHash) (h : b.build = .ok p)
    (h' : b'.build = .ok p')
    (he : TransactionId.elements p.initialAccountHash p.finalAccountHash
        (O.inputNotesCommitment p.inputNotes) (O.outputNotesCommitment p.outputNotes) =
      TransactionId.elements p'.initialAccountHash p'.finalAccountHash
        (O.inputNotesCommitment p'.inputNotes) (O.outputNotesCommitment p'.outputNotes)) :
    p.initialAccountHash = p'.initialAccountHash ∧ p.finalAccountHash = p'.finalAccountHash ∧
      O.inputNotesCommitment p.inputNotes = O.inputNotesCommitment p'.inputNotes ∧
      O.outputNotesCommitment p.outputNotes = O.outputNotesCommitment p'.outputNotes := by
  rw [← (build_fields h).1] at hb
  rw [← (build_fields h').1] at hb'
  exact TransactionId.elements_injective hb hb' he

theorem build_elements_injective_mock :
    ∃ p p', ((new (O := Mock.objects) ⟨2⟩ (some Mock.someHash) Word.default Word.default
        (0 : ℕ)).run [.accountDetails (.delta (0 : ℕ))]).build = .ok p ∧
      ((new (O := Mock.objects) ⟨4⟩ (some Mock.someHash) Word.default Word.default
        (0 : ℕ)).run [.accountDetails (.delta (0 : ℕ))]).build = .ok p' ∧
      p.accountId ≠ p'.accountId ∧
      p.initialAccountHash = p'.initialAccountHash ∧ p.finalAccountHash = p'.finalAccountHash ∧
      Mock.objects.inputNotesCommitment p.inputNotes =
        Mock.objects.inputNotesCommitment p'.inputNotes ∧
      Mock.objects.outputNotesCommitment p.outputNotes =
        Mock.objects.outputNotesCommitment p'.outputNotes := by
  obtain ⟨p, h⟩ : ∃ p, ((new (O := Mock.objects) ⟨2⟩ (some Mock.someHash) Word.default
      Word.default (0 : ℕ)).run [.accountDetails (.delta (0 : ℕ))]).build = .ok p := ⟨_, rfl⟩
  obtain ⟨p', h'⟩ : ∃ p', ((new (O := Mock.objects) ⟨4⟩ (some Mock.someHash) Word.default
      Word.default (0 : ℕ)).run [.accountDetails (.delta (0 : ℕ))]).build = .ok p' := ⟨_, rfl⟩
  refine ⟨p, p', h, h', ?_, build_elements_injective (by decide) (by decide) h h' ?_⟩ <;>
    cases h <;> cases h' <;> decide

/-- The details of a built transaction: each key is the note id of one of its output envelopes,
and its note is the one of the last pair with that key handed to `add_output_note_details`. -/
theorem getOutputNoteDetails_build (accountId : AccountId) (initialAccountHash : Option Digest)
    (finalAccountHash blockRef : Digest) (proof : O.ExecutionProof) (calls : List (BuilderCall O))
    (h : ((new accountId initialAccountHash finalAccountHash blockRef proof).run calls).build =
      .ok p)
    (k : O.NoteId) (n : O.Note) (hk : p.getOutputNoteDetails k = some n) :
    k ∈ (O.outputNotesIter p.outputNotes).map O.envelopeNoteId ∧
      BTreeMap.lastValue (calls.flatMap BuilderCall.detailPairs) k = some n := by
  have hdetails := (build_fields h).2
  rw [run_outputNoteDetails] at hdetails
  refine ⟨(build_valid h).detailsKnown k (BTreeMap.mem_keys_of_get_eq_some hk), ?_⟩
  · rw [← BTreeMap.get_fromIter, ← hk]
    exact congrArg (BTreeMap.get · k) hdetails.symm

/-- Calls adding one output envelope, note id `1`, and details for it whose note has id `2`. -/
def mismatchedCalls : List (BuilderCall Mock.objects) :=
  [.addOutputNotes [((1 : ℕ), (0 : ℕ))],
    .addOutputNoteDetails [((1 : ℕ), (((2 : ℕ), (0 : ℕ)), Mock.noteAssets))]]

theorem getOutputNoteDetails_build_mock :
    ∃ p, ((new ⟨1⟩ none Word.default Word.default (0 : ℕ)).run mismatchedCalls).build = .ok p ∧
      (1 : ℕ) ∈ (Mock.objects.outputNotesIter p.outputNotes).map Mock.objects.envelopeNoteId ∧
      BTreeMap.lastValue (mismatchedCalls.flatMap BuilderCall.detailPairs) (1 : ℕ) =
        some (((2 : ℕ), (0 : ℕ)), Mock.noteAssets) := by
  obtain ⟨p, h, hk⟩ : ∃ p,
      ((new ⟨1⟩ none Word.default Word.default (0 : ℕ)).run mismatchedCalls).build = .ok p ∧
        p.getOutputNoteDetails (1 : ℕ) = some (((2 : ℕ), (0 : ℕ)), Mock.noteAssets) :=
    ⟨_, rfl, rfl⟩
  exact ⟨p, h, getOutputNoteDetails_build _ _ _ _ _ _ h _ _ hk⟩

/-- `build` accepts details whose note is not the note its key names. -/
theorem getOutputNoteDetails_id_mismatch :
    ∃ p, ((new ⟨1⟩ none Word.default Word.default (0 : ℕ)).run mismatchedCalls).build = .ok p ∧
      p.getOutputNoteDetails (1 : ℕ) = some (((2 : ℕ), (0 : ℕ)), Mock.noteAssets) ∧
      Mock.objects.noteId (((2 : ℕ), (0 : ℕ)), Mock.noteAssets) ≠ (1 : ℕ) :=
  ⟨_, rfl, rfl, by decide⟩

end ProvenTransactionBuilder

end MidenBase

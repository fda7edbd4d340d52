import MidenBase.Objects.Transaction.ProvenTxBuild

/-!
# Builder runs and the transactions `build` returns

Reference: `objects/src/transaction/proven_tx.rs`, `ProvenTransactionBuilder`.

The builder is a small state machine: `new`, then any sequence of calls, then `build`. This
module describes it over whole runs, from any builder state.

* `run_eq_of_projections`: the state after a run depends only on the nullifiers, envelopes and
  detail pairs the calls add, each kind in its own order, and on the last account details and
  script root set; how the kinds of call are interleaved does not matter.
* `get_run_outputNoteDetails`: a note id's details are those of the last pair with that id added
  in the run, or else what the builder held before.
* `build_complete`: every transaction meeting the conditions `build` checks (`BuildValid`) is the
  one `build` returns after the calls that load its fields. With `build_valid`, the transactions
  `build` can return are exactly the `BuildValid` ones.
* `build_eq_error_unknown_iff`: `build` reports unknown notes exactly when some details have no
  envelope, and then names those ids, each once and in ascending order.
-/

namespace MidenBase

variable {O : Objects}

namespace ProvenTransactionBuilder

theorem ext {b b' : ProvenTransactionBuilder O} (h₀ : b.accountId = b'.accountId)
    (h₁ : b.initialAccountHash = b'.initialAccountHash)
    (h₂ : b.finalAccountHash = b'.finalAccountHash) (h₃ : b.accountDetails = b'.accountDetails)
    (h₄ : b.inputNotes = b'.inputNotes) (h₅ : b.outputNotes = b'.outputNotes)
    (h₆ : b.outputNoteDetails = b'.outputNoteDetails) (h₇ : b.txScriptRoot = b'.txScriptRoot)
    (h₈ : b.blockRef = b'.blockRef) (h₉ : b.proof = b'.proof) : b = b' := by
  cases b; cases b'; simp_all

section Run

variable (b : ProvenTransactionBuilder O)

/-- Two call sequences that add the same nullifiers, envelopes and detail pairs, each kind in the
same order, and set the same last account details and script root, lead a builder to the same
state, however the kinds of call are interleaved. -/
theorem run_eq_of_projections {calls calls' : List (BuilderCall O)}
    (hn : calls.flatMap BuilderCall.nullifiers = calls'.flatMap BuilderCall.nullifiers)
    (he : calls.flatMap BuilderCall.envelopes = calls'.flatMap BuilderCall.envelopes)
    (hd : calls.flatMap BuilderCall.detailPairs = calls'.flatMap BuilderCall.detailPairs)
    (ha : (calls.filterMap BuilderCall.setsAccountDetails).getLast? =
      (calls'.filterMap BuilderCall.setsAccountDetails).getLast?)
    (hr : (calls.filterMap BuilderCall.setsTxScriptRoot).getLast? =
      (calls'.filterMap BuilderCall.setsTxScriptRoot).getLast?) :
    b.run calls = b.run calls' := by
  have frame {α : Type} (f : ProvenTransactionBuilder O → α)
      (hf : ∀ b (c : BuilderCall O), f (c.apply b) = f b) : f (b.run calls) = f (b.run calls') :=
    (run_frame b calls f hf).trans (run_frame b calls' f hf).symm
  exact ext (frame _ BuilderCall.apply_accountId) (frame _ BuilderCall.apply_initialAccountHash)
    (frame _ BuilderCall.apply_finalAccountHash)
    (by rw [run_accountDetails, run_accountDetails, ha])
    (by rw [run_inputNotes, run_inputNotes, hn]) (by rw [run_outputNotes, run_outputNotes, he])
    (by rw [run_outputNoteDetails, run_outputNoteDetails, hd])
    (by rw [run_txScriptRoot, run_txScriptRoot, hr]) (frame _ BuilderCall.apply_blockRef)
    (frame _ BuilderCall.apply_proof)

/-- The same calls in two orders: the script root first or the input notes first. -/
theorem run_eq_of_projections_mock :
    [BuilderCall.txScriptRoot (O := Mock.objects) Mock.someHash, .addInputNotes [(1 : ℕ)]] ≠
        [.addInputNotes [(1 : ℕ)], .txScriptRoot Mock.someHash] ∧
      (new ⟨1⟩ none Word.default Word.default (0 : ℕ)).run
          [BuilderCall.txScriptRoot (O := Mock.objects) Mock.someHash, .addInputNotes [(1 : ℕ)]] =
        (new ⟨1⟩ none Word.default Word.default (0 : ℕ)).run
          [.addInputNotes [(1 : ℕ)], .txScriptRoot Mock.someHash] :=
  ⟨(fun h => by cases h), run_eq_of_projections _ rfl rfl rfl rfl rfl⟩

/-- The details of a note id after a run: the note of the last pair with that id added by any
call of the run, or else what the builder held before. -/
theorem get_run_outputNoteDetails (calls : List (BuilderCall O)) (k : O.NoteId) :
    (b.run calls).outputNoteDetails.get k =
      (BTreeMap.lastValue (calls.flatMap BuilderCall.detailPairs) k).or
        (b.outputNoteDetails.get k) := by
  rw [run_outputNoteDetails, BTreeMap.get_extend]

/-- `build` after any calls, from any builder: the reference procedure on what the builder held
followed by what the calls add. -/
theorem build_run (calls : List (BuilderCall O)) :
    (b.run calls).build = referenceBuild b.accountId b.initialAccountHash b.finalAccountHash
      b.blockRef b.proof (b.inputNotes ++ calls.flatMap BuilderCall.nullifiers)
      (b.outputNotes ++ calls.flatMap BuilderCall.envelopes)
      (b.outputNoteDetails.entries ++ calls.flatMap BuilderCall.detailPairs)
      ((calls.filterMap BuilderCall.setsAccountDetails).getLast?.or b.accountDetails)
      ((calls.filterMap BuilderCall.setsTxScriptRoot).getLast?.or b.txScriptRoot) := by
  have hdetails : (b.run calls).outputNoteDetails =
      BTreeMap.fromIter (b.outputNoteDetails.entries ++ calls.flatMap BuilderCall.detailPairs) := by
    rw [run_outputNoteDetails, BTreeMap.fromIter, BTreeMap.extend_append, ← BTreeMap.fromIter,
      BTreeMap.fromIter_entries]
  rw [build_eq_referenceBuild _ _ hdetails, run_inputNotes, run_outputNotes, run_accountDetails,
    run_txScriptRoot, run_frame _ _ accountId BuilderCall.apply_accountId,
    run_frame _ _ initialAccountHash BuilderCall.apply_initialAccountHash,
    run_frame _ _ finalAccountHash BuilderCall.apply_finalAccountHash,
    run_frame _ _ blockRef BuilderCall.apply_blockRef, run_frame _ _ proof BuilderCall.apply_proof]

end Run

end ProvenTransactionBuilder

section Reference

variable {accountId : AccountId} {initialAccountHash : Option Digest}
  {finalAccountHash blockRef : Digest} {proof : O.ExecutionProof} {nullifiers : List O.Nullifier}
  {envelopes : List O.NoteEnvelope} {pairs : List (O.NoteId × O.Note)}
  {accountDetails : Option (AccountDetails O)} {txScriptRoot : Option Digest}

/-- When every check passes, the reference procedure returns the transaction of those fields. -/
theorem referenceBuild_of_checks {inputNotes : O.InputNotes} {outputNotes : O.OutputNotes}
    (hu : referenceUnknownIds envelopes pairs = [])
    (hin : O.inputNotesNew nullifiers = .ok inputNotes)
    (hout : O.outputNotesNew envelopes = .ok outputNotes)
    (hcheck : referenceAccountCheck accountId initialAccountHash finalAccountHash accountDetails =
      none) :
    referenceBuild accountId initialAccountHash finalAccountHash blockRef proof nullifiers
      envelopes pairs accountDetails txScriptRoot =
      .ok { id := TransactionId.new O.hashElements initialAccountHash finalAccountHash
              (O.inputNotesCommitment inputNotes) (O.outputNotesCommitment outputNotes)
            accountId, initialAccountHash, finalAccountHash, accountDetails, inputNotes,
            outputNotes, txScriptRoot, blockRef, proof
            outputNoteDetails := BTreeMap.fromIter pairs
            id_eq := rfl } := by
  unfold referenceBuild
  simp only [hu, hin, hout, hcheck, ne_eq, not_true_eq_false, if_false]

/-- No account rule reports unknown notes. -/
theorem referenceAccountCheck_ne_unknown (ids : List O.NoteId) :
    referenceAccountCheck accountId initialAccountHash finalAccountHash accountDetails ≠
      some (.noteDetailsForUnknownNotes ids) := by
  rcases accountDetails with _ | (account | delta) <;> rcases initialAccountHash with _ | i <;>
    simp only [referenceAccountCheck] <;> split_ifs <;> simp

/-- The reference procedure reports unknown notes exactly when some pair's id has no envelope,
and then with the reference's list of them. -/
theorem referenceBuild_eq_error_unknown_iff {ids : List O.NoteId} :
    referenceBuild accountId initialAccountHash finalAccountHash blockRef proof nullifiers
        envelopes pairs accountDetails txScriptRoot = .error (.noteDetailsForUnknownNotes ids) ↔
      ids ≠ [] ∧ ids = referenceUnknownIds envelopes pairs := by
  unfold referenceBuild
  by_cases hu : referenceUnknownIds envelopes pairs = []
  · simp only [hu, ne_eq, not_true_eq_false, if_false]
    refine iff_of_false ?_ fun h => h.1 h.2
    split
    · simp
    · simp
    · split
      · rintro ⟨⟩
        exact referenceAccountCheck_ne_unknown ids ‹_›
      · simp
  · simp only [hu, ne_eq, not_false_eq_true, if_true, Except.error.injEq,
      ProvenTransactionError.noteDetailsForUnknownNotes.injEq]
    exact ⟨fun h => ⟨h ▸ hu, h.symm⟩, fun h => h.2.symm⟩

end Reference

namespace ProvenTransactionBuilder

/-- Every transaction meeting the conditions `build` checks is the one `build` returns after
`new` and the calls that load its fields: its nullifiers, its envelopes, its details, its
account details and its script root. -/
theorem build_complete (p : ProvenTransaction O) (hp : p.BuildValid)
    {nullifiers : List O.Nullifier} {envelopes : List O.NoteEnvelope}
    (hin : O.inputNotesNew nullifiers = .ok p.inputNotes)
    (hout : O.outputNotesNew envelopes = .ok p.outputNotes) :
    ((new p.accountId p.initialAccountHash p.finalAccountHash p.blockRef p.proof).run
      ([.addInputNotes nullifiers, .addOutputNotes envelopes,
        .addOutputNoteDetails p.outputNoteDetails.entries] ++
        (p.accountDetails.map .accountDetails).toList ++
        (p.txScriptRoot.map .txScriptRoot).toList)).build = .ok p := by
  have hu : referenceUnknownIds envelopes p.outputNoteDetails.entries = [] :=
    referenceUnknownIds_eq_nil.mpr fun k hk => by
      rw [← O.outputNotesNew_iter _ _ hout]
      exact hp.detailsKnown k hk
  have hcheck := referenceAccountCheck_eq_none.mpr ⟨hp.offChain, hp.newOnChain, hp.existingOnChain⟩
  obtain ⟨id, accountId, initial, final, details, inputNotes, outputNotes, detailsMap, root,
    blockRef, proof, rfl⟩ := p
  dsimp only at hu hin hout hcheck
  rw [build_run]
  cases details <;> cases root <;>
    simp only [new, List.nil_append, List.flatMap_append, List.flatMap_cons, List.flatMap_nil,
      List.append_nil, Option.map_some', Option.map_none', Option.toList_some, Option.toList_none,
      BuilderCall.nullifiers, BuilderCall.envelopes, BuilderCall.detailPairs, List.filterMap_append,
      List.filterMap_cons, List.filterMap_nil, BuilderCall.setsAccountDetails,
      BuilderCall.setsTxScriptRoot, List.getLast?_singleton, List.getLast?_nil, Option.or_some,
      Option.none_or, BTreeMap.empty] <;>
    rw [referenceBuild_of_checks hu hin hout hcheck, BTreeMap.fromIter_entries]

theorem build_complete_mock :
    Mock.existingTransaction.BuildValid ∧
      ((new Mock.existingTransaction.accountId Mock.existingTransaction.initialAccountHash
          Mock.existingTransaction.finalAccountHash Mock.existingTransaction.blockRef
          Mock.existingTransaction.proof).run
        ([.addInputNotes [], .addOutputNotes [],
          .addOutputNoteDetails Mock.existingTransaction.outputNoteDetails.entries] ++
          (Mock.existingTransaction.accountDetails.map .accountDetails).toList ++
          (Mock.existingTransaction.txScriptRoot.map .txScriptRoot).toList)).build =
        .ok Mock.existingTransaction := by
  have hp : Mock.existingTransaction.BuildValid :=
    ⟨fun _ hk => (nomatch hk), fun h => (nomatch h), fun _ h => (nomatch h), fun _ _ => ⟨_, rfl⟩⟩
  exact ⟨hp, build_complete _ hp rfl rfl⟩

/-- The ids `build` reports are in ascending order. -/
theorem unknownIds_sorted (b : ProvenTransactionBuilder O) : b.unknownIds.Sorted (· < ·) :=
  (BTreeMap.keys_sorted _).filter _

/-- The ids `build` reports are the keys of the details map that no envelope has. -/
theorem mem_unknownIds {b : ProvenTransactionBuilder O} {k : O.NoteId} :
    k ∈ b.unknownIds ↔ k ∈ b.outputNoteDetails.keys ∧ k ∉ b.outputNotes.map O.envelopeNoteId := by
  simp [unknownIds]

/-- `build` reports unknown notes exactly when some details have no envelope, and then names
exactly those ids, each once and in ascending order. -/
theorem build_eq_error_unknown_iff (b : ProvenTransactionBuilder O) (ids : List O.NoteId) :
    b.build = .error (.noteDetailsForUnknownNotes ids) ↔
      ids ≠ [] ∧ ids.Sorted (· < ·) ∧
        ∀ k, k ∈ ids ↔ k ∈ b.outputNoteDetails.keys ∧ k ∉ b.outputNotes.map O.envelopeNoteId := by
  have hdetails := (BTreeMap.fromIter_entries b.outputNoteDetails).symm
  rw [build_eq_referenceBuild b _ hdetails, referenceBuild_eq_error_unknown_iff,
    ← unknownIds_fromIter b _ hdetails]
  constructor
  · rintro ⟨hne, rfl⟩
    exact ⟨hne, unknownIds_sorted b, fun _ => mem_unknownIds⟩
  · rintro ⟨hne, hsorted, hmem⟩
    have hperm : ids.Perm b.unknownIds :=
      (List.perm_ext_iff_of_nodup hsorted.nodup (unknownIds_sorted b).nodup).mpr
        fun k => (hmem k).trans mem_unknownIds.symm
    exact ⟨hne, List.eq_of_perm_of_sorted hperm hsorted (unknownIds_sorted b)⟩

end ProvenTransactionBuilder

end MidenBase

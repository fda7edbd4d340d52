import MidenBase.Objects.Transaction.ProvenTxBuild

/-!
# What decoding a proven transaction guarantees

Reference: `objects/src/transaction/proven_tx.rs`, `ProvenTransaction::write_into` and
`ProvenTransaction::read_from`.

`ProvenTransaction` has two constructors, `build` and `read_from`. Writing and reading back is
the identity on every transaction (`writeInto_roundTrip`). But `read_from` runs none of the
checks of `build`: it accepts the encoding of every combination of fields, so

* a transaction of an off-chain account carrying account details, which `build` rejects, is
  decoded as it is (`readFrom_accepts_offChain_details`);
* an initial hash equal to the all-zero word, which `new` rules out by its `debug_assert_ne!`,
  is decoded as it is, and then hashes into the same id elements as a missing initial hash
  (`readFrom_accepts_sentinel_hash`);
* a list of detail pairs with a repeated or out-of-order key is collected by
  `BTreeMap::from_iter`, so the decoded transaction re-encodes to the bytes read exactly when
  the keys were strictly ascending (`readFrom_reencode_iff`).

What `read_from` does accept is exactly the encodings of transactions, each with some list of
detail pairs (`readFrom_eq_ok_iff`); `AccountDetails::read_from` accepts exactly the encodings
of account details and names any unknown tag in its error (`AccountDetails.readFrom_spec`).
-/

namespace MidenBase

namespace ProvenTransaction

variable {O : Objects} {E : Encodings O}

/-- Writing a proven transaction and reading it back returns it, consuming every byte. -/
theorem writeInto_roundTrip (hE : E.RoundTrips) (p : ProvenTransaction O) :
    ∃ q, (readFrom E).run (p.writeInto E) = .ok (q, []) ∧ q = p ∧ q.id = p.id :=
  ⟨p, readFrom_writeInto_any hE p, rfl, rfl⟩

theorem writeInto_roundTrip_mock :
    Mock.encodings.RoundTrips ∧
      ∃ q, (readFrom Mock.encodings).run (Mock.deltaTransaction.writeInto Mock.encodings) =
        .ok (q, []) ∧ q = Mock.deltaTransaction :=
  ⟨Mock.encodings_roundTrips,
    (writeInto_roundTrip Mock.encodings_roundTrips Mock.deltaTransaction).imp
      fun _ h => ⟨h.1, h.2.1⟩⟩

/-- What `read_from` accepts: exactly the encodings of transactions, each with some list of
detail pairs from which its map is built, whether or not the transaction meets the conditions of
`build`. -/
theorem readFrom_eq_ok_iff (hr : E.RoundTrips) (hc : E.Canonical) {bs rest : List UInt8}
    {p : ProvenTransaction O} :
    (readFrom E).run bs = .ok (p, rest) ↔
      ∃ details, bs = p.encodeWith E details ++ rest ∧
        p.outputNoteDetails = BTreeMap.fromIter details := by
  refine ⟨readFrom_canonical hc, ?_⟩
  rintro ⟨details, rfl, h⟩
  rw [readFrom_encodeWith hr, withDetails_of_eq h]

theorem readFrom_eq_ok_iff_mock :
    Mock.encodings.RoundTrips ∧ Mock.encodings.Canonical ∧
      ((readFrom Mock.encodings).run (Mock.deltaTransaction.writeInto Mock.encodings) =
          .ok (Mock.deltaTransaction, []) ↔
        ∃ details, Mock.deltaTransaction.writeInto Mock.encodings =
            Mock.deltaTransaction.encodeWith Mock.encodings details ++ [] ∧
          Mock.deltaTransaction.outputNoteDetails = BTreeMap.fromIter details) :=
  ⟨Mock.encodings_roundTrips, Mock.encodings_canonical,
    readFrom_eq_ok_iff Mock.encodings_roundTrips Mock.encodings_canonical⟩

/-- The builder loaded with the fields of `Mock.offChainWithDetails` fails, but `read_from`
accepts their encoding and returns a transaction that does not meet the conditions of `build`. -/
theorem readFrom_accepts_offChain_details :
    ((ProvenTransactionBuilder.new (O := Mock.objects) ⟨1⟩ (some Mock.someHash) Word.default
        Word.default (0 : ℕ)).run [.accountDetails (.delta (0 : ℕ))]).build =
      .error (.offChainAccountWithDetails ⟨1⟩) ∧
    (readFrom Mock.encodings).run (Mock.offChainWithDetails.writeInto Mock.encodings) =
      .ok (Mock.offChainWithDetails, []) ∧
    ¬ Mock.offChainWithDetails.BuildValid :=
  ⟨rfl, readFrom_writeInto_any Mock.encodings_roundTrips _, fun h => nomatch h.offChain rfl⟩

/-- Two transactions that differ only in their initial hash, missing in one and the all-zero word
in the other: `read_from` accepts both, and both hash the same elements into their ids. -/
theorem readFrom_accepts_sentinel_hash :
    (readFrom Mock.encodings).run
        ((Mock.transaction ⟨1⟩ (some Word.default) none .empty).writeInto Mock.encodings) =
      .ok (Mock.transaction ⟨1⟩ (some Word.default) none .empty, []) ∧
    (readFrom Mock.encodings).run
        ((Mock.transaction ⟨1⟩ none none .empty).writeInto Mock.encodings) =
      .ok (Mock.transaction ⟨1⟩ none none .empty, []) ∧
    ¬ TransactionId.SentinelFree
      (Mock.transaction ⟨1⟩ (some Word.default) none .empty).initialAccountHash ∧
    (Mock.transaction ⟨1⟩ none none .empty).initialAccountHash ≠
      (Mock.transaction ⟨1⟩ (some Word.default) none .empty).initialAccountHash ∧
    TransactionId.elements (Mock.transaction ⟨1⟩ none none .empty).initialAccountHash
        (Mock.transaction ⟨1⟩ none none .empty).finalAccountHash
        (Mock.objects.inputNotesCommitment (Mock.transaction ⟨1⟩ none none .empty).inputNotes)
        (Mock.objects.outputNotesCommitment (Mock.transaction ⟨1⟩ none none .empty).outputNotes) =
      TransactionId.elements (Mock.transaction ⟨1⟩ (some Word.default) none .empty).initialAccountHash
        (Mock.transaction ⟨1⟩ (some Word.default) none .empty).finalAccountHash
        (Mock.objects.inputNotesCommitment
          (Mock.transaction ⟨1⟩ (some Word.default) none .empty).inputNotes)
        (Mock.objects.outputNotesCommitment
          (Mock.transaction ⟨1⟩ (some Word.default) none .empty).outputNotes) :=
  ⟨readFrom_writeInto_any Mock.encodings_roundTrips _,
    readFrom_writeInto_any Mock.encodings_roundTrips _, fun h => h rfl, nofun,
    TransactionId.elements_none_eq_some_default _ _ _⟩

/-- When `read_from` consumes all of `bs`, the bytes are the encoding of the transaction it returns
with the detail pairs it read in place of the map, and the transaction re-encodes to `bs` exactly
when those pairs' keys are strictly ascending. -/
theorem readFrom_reencode_iff (hr : E.RoundTrips) (hc : E.Canonical) {bs : List UInt8}
    {p : ProvenTransaction O} (h : (readFrom E).run bs = .ok (p, [])) :
    ∃ details, bs = p.encodeWith E details ∧ p.outputNoteDetails = BTreeMap.fromIter details ∧
      (p.writeInto E = bs ↔ KeysAscending details) := by
  obtain ⟨details, hbs, hdetails⟩ := readFrom_canonical hc h
  rw [List.append_nil] at hbs
  refine ⟨details, hbs, hdetails, ?_⟩
  rw [hbs, writeInto_eq_encodeWith, hdetails, ← BTreeMap.entries_fromIter_eq_iff]
  constructor
  · intro he
    simp only [encodeWith, List.append_assoc, List.append_cancel_left_eq] at he
    exact ((hr.usize.vec hr.detail).write_append_inj (by simpa only [Codec.vec, List.append_assoc])).1
  · intro he
    rw [he]

theorem readFrom_reencode_iff_mock :
    ∃ p, (readFrom Mock.encodings).run
        ((Mock.transaction ⟨1⟩ none none .empty).encodeWith Mock.encodings Mock.ascendingDetails) =
          .ok (p, []) ∧
      ∃ details, (Mock.transaction ⟨1⟩ none none .empty).encodeWith Mock.encodings
          Mock.ascendingDetails = p.encodeWith Mock.encodings details ∧
        p.outputNoteDetails = BTreeMap.fromIter details ∧
        (p.writeInto Mock.encodings = (Mock.transaction ⟨1⟩ none none .empty).encodeWith
          Mock.encodings Mock.ascendingDetails ↔ KeysAscending details) := by
  have h := readFrom_encodeWith Mock.encodings_roundTrips (Mock.transaction ⟨1⟩ none none .empty)
    Mock.ascendingDetails []
  rw [List.append_nil] at h
  exact ⟨_, h, readFrom_reencode_iff Mock.encodings_roundTrips Mock.encodings_canonical h⟩

/-- `read_from` consumes all of an encoding whose detail pairs repeat a key, and the transaction
it returns re-encodes to other bytes. -/
theorem readFrom_merges_repeated_details :
    ∃ p, (readFrom Mock.encodings).run
        ((Mock.transaction ⟨1⟩ none none .empty).encodeWith Mock.encodings Mock.repeatedDetails) =
          .ok (p, []) ∧
      p.writeInto Mock.encodings ≠
        (Mock.transaction ⟨1⟩ none none .empty).encodeWith Mock.encodings Mock.repeatedDetails :=
  ⟨_, by simpa using readFrom_encodeWith Mock.encodings_roundTrips _ Mock.repeatedDetails [],
    by decide⟩

end ProvenTransaction

namespace AccountDetails

variable {O : Objects} {E : Encodings O}

/-- `AccountDetails::read_from` accepts exactly the bytes `write_into` produces, followed by
anything, and rejects every tag other than `0` and `1` with an error naming it. -/
theorem readFrom_spec (har : E.account.RoundTrips) (hdr : E.accountDelta.RoundTrips)
    (hac : E.account.Canonical) (hdc : E.accountDelta.Canonical) :
    (∀ bs rest (d : AccountDetails O),
      (readFrom E).run bs = .ok (d, rest) ↔ bs = d.writeInto E ++ rest) ∧
    ∀ v : UInt8, v ≠ 0 → v ≠ 1 → ∀ rest,
      (readFrom E).run (v :: rest) =
        .error (.invalidValue s!"Unknown variant {v} for AccountDetails") :=
  ⟨fun _ _ _ => Codec.read_eq_ok_iff (roundTrips_codec har hdr) (canonical_codec hac hdc),
    readFrom_unknown_variant⟩

theorem readFrom_spec_mock :
    Mock.encodings.account.RoundTrips ∧ Mock.encodings.accountDelta.RoundTrips ∧
      Mock.encodings.account.Canonical ∧ Mock.encodings.accountDelta.Canonical ∧
      (readFrom Mock.encodings).run ((delta (O := Mock.objects) (0 : ℕ)).writeInto Mock.encodings) =
        .ok (.delta (0 : ℕ), []) ∧
      (readFrom Mock.encodings).run [2] =
        .error (.invalidValue "Unknown variant 2 for AccountDetails") := by
  have h := readFrom_spec Mock.encodings_roundTrips.account Mock.encodings_roundTrips.accountDelta
    Mock.encodings_canonical.account Mock.encodings_canonical.accountDelta
  refine ⟨Mock.encodings_roundTrips.account, Mock.encodings_roundTrips.accountDelta,
    Mock.encodings_canonical.account, Mock.encodings_canonical.accountDelta, ?_, ?_⟩
  · rw [← List.append_nil ((delta (O := Mock.objects) (0 : ℕ)).writeInto Mock.encodings)]
    exact (h.1 _ _ _).mpr rfl
  · exact (h.2 2 (by decide) (by decide) []).trans rfl

end AccountDetails

end MidenBase

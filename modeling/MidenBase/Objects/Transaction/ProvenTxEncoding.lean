import MidenBase.Objects.Transaction.ProvenTx
import MidenBase.Objects.Notes.AssetsSerde

/-!
# Proven transactions: serialization

Reference: `objects/src/transaction/proven_tx.rs`, `impl Serializable for AccountDetails`,
`impl Deserializable for AccountDetails` and the same two for `ProvenTransaction`.

A proven transaction is written field by field: the account id, the optional initial hash, the
final hash, the optional account details (a `u8` tag, `0` for `Full` and `1` for `Delta`), the
input and output notes, the number of note details (`write_usize`) and the `(NoteId, Note)`
pairs in the map's key order, the optional script root, the block reference and the proof.
`read_from` reads the same fields back, collects the pairs with `BTreeMap::from_iter` and
computes the id with `TransactionId::new`. It runs none of the checks of `build`.

The encodings of the types defined outside the repository are the fields of `Encodings`. A
`Note` holds a `NoteAssets`, whose encoding is this repository's, so the encoding of `Note` is
given as a function of the encoding used for its assets (`Encodings.note`).

* `readFrom_encodeWith`: `read_from` reads back any transaction written with any list of detail
  pairs in place of its map, and returns the transaction with the map built from that list;
* `readFrom_canonical`: whatever `read_from` accepts is such an encoding.
-/

namespace MidenBase

variable {O : Objects}

/-- The encodings of the types `proven_tx.rs` serializes that are defined outside the
repository. -/
structure Encodings (O : Objects) where
  accountId : Codec AccountId
  digest : Codec Digest
  account : Codec O.Account
  accountDelta : Codec O.AccountDelta
  inputNotes : Codec O.InputNotes
  outputNotes : Codec O.OutputNotes
  /-- `ByteWriter::write_usize` and `usize::read_from`. -/
  usize : Codec ℕ
  noteId : Codec O.NoteId
  /-- The encoding of `Note`, given the one of the `NoteAssets` it holds. -/
  note : Codec NoteAssets → Codec O.Note
  asset : Codec Asset
  proof : Codec O.ExecutionProof

namespace Encodings

variable (E : Encodings O)

/-- `Note`'s encoding, its assets encoded by `NoteAssets::write_into`. -/
def noteCodec : Codec O.Note := E.note (NoteAssets.codec E.asset)

/-- A `(NoteId, Note)` pair. -/
def detail : Codec (O.NoteId × O.Note) := E.noteId.prod E.noteCodec

/-- Every encoding reads back what it writes (for `Note`, whenever its assets' encoding does). -/
structure RoundTrips : Prop where
  accountId : E.accountId.RoundTrips
  digest : E.digest.RoundTrips
  account : E.account.RoundTrips
  accountDelta : E.accountDelta.RoundTrips
  inputNotes : E.inputNotes.RoundTrips
  outputNotes : E.outputNotes.RoundTrips
  usize : E.usize.RoundTrips
  noteId : E.noteId.RoundTrips
  note : ∀ c, Codec.RoundTrips c → (E.note c).RoundTrips
  asset : E.asset.RoundTrips
  proof : E.proof.RoundTrips

/-- Every encoding accepts only the encodings of what it returns (for `Note`, whenever its
assets' encoding does). -/
structure Canonical : Prop where
  accountId : E.accountId.Canonical
  digest : E.digest.Canonical
  account : E.account.Canonical
  accountDelta : E.accountDelta.Canonical
  inputNotes : E.inputNotes.Canonical
  outputNotes : E.outputNotes.Canonical
  usize : E.usize.Canonical
  noteId : E.noteId.Canonical
  note : ∀ c, Codec.Canonical c → (E.note c).Canonical
  asset : E.asset.Canonical
  proof : E.proof.Canonical

variable {E}

theorem RoundTrips.detail (hE : E.RoundTrips) : E.detail.RoundTrips :=
  hE.noteId.prod (hE.note _ (NoteAssets.roundTrips_codec _ hE.asset))

theorem Canonical.detail (hE : E.Canonical) : E.detail.Canonical :=
  hE.noteId.prod (hE.note _ (NoteAssets.canonical_codec _ hE.asset))

end Encodings

/-! ## Account details -/

namespace AccountDetails

variable (E : Encodings O)

/-- `AccountDetails::write_into`: the tag byte, then the account or the delta. -/
def writeInto : AccountDetails O → List UInt8
  | .full account => 0 :: E.account.write account
  | .delta d => 1 :: E.accountDelta.write d

/-- `AccountDetails::read_from`. -/
def readFrom : Reader (AccountDetails O) := do
  match ← readU8 with
  | 0 => return .full (← E.account.read)
  | 1 => return .delta (← E.accountDelta.read)
  | v => throw (.invalidValue s!"Unknown variant {v} for AccountDetails")

/-- The serialization of `AccountDetails`. -/
def codec : Codec (AccountDetails O) := ⟨writeInto E, readFrom E⟩

variable {E}

theorem roundTrips_codec (ha : E.account.RoundTrips) (hd : E.accountDelta.RoundTrips) :
    (codec E).RoundTrips := by
  rintro (account | d) rest
  · show (readU8 >>= _).run (0 :: (E.account.write account ++ rest)) = _
    rw [run_bind_of_ok (readU8_cons _ _)]
    exact run_bind_of_ok (ha _ _)
  · show (readU8 >>= _).run (1 :: (E.accountDelta.write d ++ rest)) = _
    rw [run_bind_of_ok (readU8_cons _ _)]
    exact run_bind_of_ok (hd _ _)

theorem canonical_codec (ha : E.account.Canonical) (hd : E.accountDelta.Canonical) :
    (codec E).Canonical := by
  intro bs d rest h
  obtain ⟨v, s, hv, h⟩ := run_bind_eq_ok h
  rw [readU8_canonical hv]
  split at h
  · obtain ⟨a, s', ha', h⟩ := run_bind_eq_ok h
    cases h
    rw [ha _ _ _ ha']
    rfl
  · obtain ⟨a, s', hd', h⟩ := run_bind_eq_ok h
    cases h
    rw [hd _ _ _ hd']
    rfl
  · cases h

/-- A tag other than `0` and `1` is rejected with an error naming it. -/
theorem readFrom_unknown_variant (v : UInt8) (h₀ : v ≠ 0) (h₁ : v ≠ 1) (rest : List UInt8) :
    (readFrom E).run (v :: rest) =
      .error (.invalidValue s!"Unknown variant {v} for AccountDetails") := by
  unfold readFrom
  rw [run_bind_of_ok (readU8_cons _ _)]
  split
  · exact absurd rfl h₀
  · exact absurd rfl h₁
  · rfl

end AccountDetails

/-! ## Proven transactions -/

namespace ProvenTransaction

variable (E : Encodings O)

/-- The bytes `write_into` produces for `p`, with the details written from the list `details`:
`write_usize` of its length, then `write_many` of its pairs. -/
def encodeWith (p : ProvenTransaction O) (details : List (O.NoteId × O.Note)) : List UInt8 :=
  E.accountId.write p.accountId ++ E.digest.option.write p.initialAccountHash ++
    E.digest.write p.finalAccountHash ++ (AccountDetails.codec E).option.write p.accountDetails ++
    E.inputNotes.write p.inputNotes ++ E.outputNotes.write p.outputNotes ++
    E.usize.write details.length ++ writeMany E.detail.write details ++
    E.digest.option.write p.txScriptRoot ++ E.digest.write p.blockRef ++ E.proof.write p.proof

/-- `ProvenTransaction::write_into`: `write_usize` of the map's `len()`, then `write_many` of its
pairs in key order. -/
def writeInto (p : ProvenTransaction O) : List UInt8 :=
  E.accountId.write p.accountId ++ E.digest.option.write p.initialAccountHash ++
    E.digest.write p.finalAccountHash ++ (AccountDetails.codec E).option.write p.accountDetails ++
    E.inputNotes.write p.inputNotes ++ E.outputNotes.write p.outputNotes ++
    E.usize.write p.outputNoteDetails.len ++ writeMany E.detail.write p.outputNoteDetails.entries ++
    E.digest.option.write p.txScriptRoot ++ E.digest.write p.blockRef ++ E.proof.write p.proof

/-- `write_into` writes the map as the list of its entries: `len()` is their number. -/
theorem writeInto_eq_encodeWith (p : ProvenTransaction O) :
    p.writeInto E = p.encodeWith E p.outputNoteDetails.entries := rfl

/-- `ProvenTransaction::read_from`. -/
def readFrom : Reader (ProvenTransaction O) := do
  let accountId ← E.accountId.read
  let initialAccountHash ← E.digest.option.read
  let finalAccountHash ← E.digest.read
  let accountDetails ← (AccountDetails.codec E).option.read
  let inputNotes ← E.inputNotes.read
  let outputNotes ← E.outputNotes.read
  let outputNotesDetailsLen ← E.usize.read
  let details ← readMany E.detail.read outputNotesDetailsLen
  let outputNoteDetails := BTreeMap.fromIter details
  let txScriptRoot ← E.digest.option.read
  let blockRef ← E.digest.read
  let proof ← E.proof.read
  pure
    { id := TransactionId.new O.hashElements initialAccountHash finalAccountHash
        (O.inputNotesCommitment inputNotes) (O.outputNotesCommitment outputNotes)
      accountId, initialAccountHash, finalAccountHash, accountDetails, inputNotes, outputNotes,
      outputNoteDetails, txScriptRoot, blockRef, proof
      id_eq := rfl }

/-- `p` with its details map replaced by the one built from `details`. -/
def withDetails (p : ProvenTransaction O) (details : List (O.NoteId × O.Note)) :
    ProvenTransaction O :=
  { p with outputNoteDetails := BTreeMap.fromIter details }

theorem withDetails_of_eq {p : ProvenTransaction O} {details : List (O.NoteId × O.Note)}
    (h : p.outputNoteDetails = BTreeMap.fromIter details) : p.withDetails details = p := by
  rw [withDetails, ← h]

@[simp] theorem withDetails_entries (p : ProvenTransaction O) :
    p.withDetails p.outputNoteDetails.entries = p :=
  withDetails_of_eq (BTreeMap.fromIter_entries _).symm

variable {E}

/-- `read_from` reads back any transaction written with any list of detail pairs, and returns it
with the map built from the pairs. -/
theorem readFrom_encodeWith (hE : E.RoundTrips) (p : ProvenTransaction O)
    (details : List (O.NoteId × O.Note)) (rest : List UInt8) :
    (readFrom E).run (p.encodeWith E details ++ rest) = .ok (p.withDetails details, rest) := by
  simp only [encodeWith, List.append_assoc]
  unfold readFrom
  rw [run_bind_of_ok (hE.accountId _ _), run_bind_of_ok (hE.digest.option _ _),
    run_bind_of_ok (hE.digest _ _),
    run_bind_of_ok ((AccountDetails.roundTrips_codec hE.account hE.accountDelta).option _ _),
    run_bind_of_ok (hE.inputNotes _ _), run_bind_of_ok (hE.outputNotes _ _),
    run_bind_of_ok (hE.usize _ _), run_bind_of_ok (readMany_writeMany hE.detail _ _),
    run_bind_of_ok (hE.digest.option _ _), run_bind_of_ok (hE.digest _ _),
    run_bind_of_ok (hE.proof _ _)]
  obtain ⟨id, _, _, _, _, _, _, _, _, _, _, rfl⟩ := p
  rfl

/-- `read_from` accepts the encoding of every transaction, whether or not `build` could have
produced it. -/
theorem readFrom_writeInto_any (hE : E.RoundTrips) (p : ProvenTransaction O) :
    (readFrom E).run (p.writeInto E) = .ok (p, []) := by
  simpa using readFrom_encodeWith hE p p.outputNoteDetails.entries []

/-- Whatever `read_from` accepts is the encoding of the transaction it returns, with the list of
detail pairs it read in place of the map. -/
theorem readFrom_canonical (hE : E.Canonical) {bs rest : List UInt8} {p : ProvenTransaction O}
    (h : (readFrom E).run bs = .ok (p, rest)) :
    ∃ details, bs = p.encodeWith E details ++ rest ∧
      p.outputNoteDetails = BTreeMap.fromIter details := by
  obtain ⟨accountId, s₁, h₁, h⟩ := run_bind_eq_ok h
  obtain ⟨initialAccountHash, s₂, h₂, h⟩ := run_bind_eq_ok h
  obtain ⟨finalAccountHash, s₃, h₃, h⟩ := run_bind_eq_ok h
  obtain ⟨accountDetails, s₄, h₄, h⟩ := run_bind_eq_ok h
  obtain ⟨inputNotes, s₅, h₅, h⟩ := run_bind_eq_ok h
  obtain ⟨outputNotes, s₆, h₆, h⟩ := run_bind_eq_ok h
  obtain ⟨len, s₇, h₇, h⟩ := run_bind_eq_ok h
  obtain ⟨details, s₈, h₈, h⟩ := run_bind_eq_ok h
  obtain ⟨txScriptRoot, s₉, h₉, h⟩ := run_bind_eq_ok h
  obtain ⟨blockRef, s₁₀, h₁₀, h⟩ := run_bind_eq_ok h
  obtain ⟨proof, s₁₁, h₁₁, h⟩ := run_bind_eq_ok h
  cases h
  obtain ⟨rfl, rfl⟩ := readMany_canonical hE.detail h₈
  refine ⟨details, ?_, rfl⟩
  rw [hE.accountId _ _ _ h₁, hE.digest.option _ _ _ h₂, hE.digest _ _ _ h₃,
    (AccountDetails.canonical_codec hE.account hE.accountDelta).option _ _ _ h₄, hE.inputNotes _ _ _ h₅,
    hE.outputNotes _ _ _ h₆, hE.usize _ _ _ h₇, hE.digest.option _ _ _ h₉, hE.digest _ _ _ h₁₀,
    hE.proof _ _ _ h₁₁]
  simp only [encodeWith, List.append_assoc]

end ProvenTransaction

end MidenBase

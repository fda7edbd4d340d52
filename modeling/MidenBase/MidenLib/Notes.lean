import MidenBase.Objects.Notes.Assets

/-!
# Standard note scripts

Reference: `miden-lib/src/notes/mod.rs`.

Each constructor loads one precompiled script (`build_note_script` of `P2ID.masb`, `P2IDR.masb`
or `SWAP.masb`), lays out the script's inputs, draws the serial number from the caller's random
source and calls `Note::new`. Scripts, notes, `Note::new`, the recipient of a P2ID note and the
conversion of an asset to a word are defined outside the repository: they are the fields of
`NoteLib`. The random source is explicit state with one operation, `FeltRng::draw_word`.

* `createP2idNote_ok`, `createP2idrNote_ok`: the inputs are `[target, 0, 0, 0]` and
  `[target, recall_height, 0, 0]`, the tag is the target, and the serial number is the first
  word drawn; `feltOfU32_val` shows the recall height is stored as its own value.
* `createSwapNote_ok`: the serial number returned is the first word drawn, the note's first four
  inputs are the recipient of the P2ID note built from the sender and that serial number, the
  next four the requested asset and then the sender; the note carries only the offered asset,
  its tag is zero and its own serial number is the second word drawn.
-/

namespace MidenBase

/-- The precompiled note scripts `miden-lib` includes. -/
inductive NoteScriptFile where
  | p2id
  | p2idr
  | swap
deriving DecidableEq, Repr

/-- The collaborators of `miden-lib/src/notes/mod.rs`. -/
structure NoteLib where
  NoteScript : Type
  Note : Type
  /-- `NoteError`, as the collaborators raise it. -/
  Error : Type
  /-- `utils::build_note_script` of the script file's bytes. -/
  buildNoteScript : NoteScriptFile → Except Error NoteScript
  /-- `Note::new(script, inputs, assets, serial_num, sender, tag)`. -/
  noteNew : NoteScript → List Felt → List Asset → Word → AccountId → Felt → Except Error Note
  /-- `utils::build_p2id_recipient(target, serial_num)`. -/
  buildP2idRecipient : AccountId → Word → Except Error Digest
  /-- `Word::from(Asset)`. -/
  assetWord : Asset → Word

/-- `Felt::from(u32)`: a `u32` is below the modulus, so it is stored as its own value. -/
def feltOfU32 (x : UInt32) : Felt :=
  ⟨x.toNat, lt_trans x.toNat_lt_size (by decide)⟩

@[simp] theorem feltOfU32_val (x : UInt32) : (feltOfU32 x).val = x.toNat := rfl

theorem feltOfU32_injective : Function.Injective feltOfU32 := fun x y h =>
  UInt32.toNat.inj (by rw [← feltOfU32_val, h, feltOfU32_val])

/-- The inputs of a swap note: the repayment recipient, the requested asset, the sender and three
zeros. -/
def swapInputs (recipient : Digest) (assetWord : Word) (sender : AccountId) : List Felt :=
  [recipient.e0, recipient.e1, recipient.e2, recipient.e3, assetWord.e0, assetWord.e1,
    assetWord.e2, assetWord.e3, sender.felt, 0, 0, 0]

theorem length_swapInputs (r : Digest) (a : Word) (s : AccountId) :
    (swapInputs r a s).length = 12 := rfl

theorem swapInputs_eq_elements (r : Digest) (a : Word) (s : AccountId) :
    swapInputs r a s = r.elements ++ a.elements ++ [s.felt, 0, 0, 0] := rfl

section Constructors

variable (L : NoteLib) {R : Type} (drawWord : R → Word × R)

/-- `create_p2id_note`. -/
def createP2idNote (sender target : AccountId) (assets : List Asset) (rng : R) :
    Except L.Error L.Note := do
  let noteScript ← L.buildNoteScript .p2id
  let inputs := [target.felt, 0, 0, 0]
  let tag := target.felt
  let serialNum := (drawWord rng).1
  L.noteNew noteScript inputs assets serialNum sender tag

/-- `create_p2idr_note`. -/
def createP2idrNote (sender target : AccountId) (assets : List Asset) (recallHeight : UInt32)
    (rng : R) : Except L.Error L.Note := do
  let noteScript ← L.buildNoteScript .p2idr
  let inputs := [target.felt, feltOfU32 recallHeight, 0, 0]
  let tag := target.felt
  let serialNum := (drawWord rng).1
  L.noteNew noteScript inputs assets serialNum sender tag

/-- `create_swap_note`: returns the note and the serial number of the P2ID note that repays the
sender. -/
def createSwapNote (sender : AccountId) (offeredAsset requestedAsset : Asset) (rng : R) :
    Except L.Error (L.Note × Word) := do
  let noteScript ← L.buildNoteScript .swap
  let (repaySerialNum, rng) := drawWord rng
  let recipient ← L.buildP2idRecipient sender repaySerialNum
  let assetWord := L.assetWord requestedAsset
  let inputs := [recipient.e0, recipient.e1, recipient.e2, recipient.e3, assetWord.e0,
    assetWord.e1, assetWord.e2, assetWord.e3, sender.felt, 0, 0, 0]
  let tag : Felt := 0
  let serialNum := (drawWord rng).1
  let note ← L.noteNew noteScript inputs [offeredAsset] serialNum sender tag
  pure (note, repaySerialNum)

variable {L drawWord}

theorem bind_eq_ok {ε α β : Type} {x : Except ε α} {f : α → Except ε β} {b : β}
    (h : x.bind f = .ok b) : ∃ a, x = .ok a ∧ f a = .ok b := by
  cases x with
  | error e => cases h
  | ok a => exact ⟨a, rfl, h⟩

/-- A P2ID note is `Note::new` of the P2ID script, inputs `[target, 0, 0, 0]`, tag `target` and
the first word drawn. -/
theorem createP2idNote_ok {sender target : AccountId} {assets : List Asset} {rng : R}
    {note : L.Note} (h : createP2idNote L drawWord sender target assets rng = .ok note) :
    ∃ script, L.buildNoteScript .p2id = .ok script ∧
      L.noteNew script [target.felt, 0, 0, 0] assets (drawWord rng).1 sender target.felt =
        .ok note :=
  bind_eq_ok h

/-- A P2IDR note is `Note::new` of the P2IDR script, inputs `[target, recall_height, 0, 0]`, tag
`target` and the first word drawn. -/
theorem createP2idrNote_ok {sender target : AccountId} {assets : List Asset}
    {recallHeight : UInt32} {rng : R} {note : L.Note}
    (h : createP2idrNote L drawWord sender target assets recallHeight rng = .ok note) :
    ∃ script, L.buildNoteScript .p2idr = .ok script ∧
      L.noteNew script [target.felt, feltOfU32 recallHeight, 0, 0] assets (drawWord rng).1 sender
        target.felt = .ok note :=
  bind_eq_ok h

/-- A swap note: the returned serial number is the first word drawn and rebuilds the recipient in
the note's inputs; the note is `Note::new` of the swap script with the offered asset alone, tag
zero and the second word drawn. -/
theorem createSwapNote_ok {sender : AccountId} {offeredAsset requestedAsset : Asset} {rng : R}
    {note : L.Note} {repaySerialNum : Word}
    (h : createSwapNote L drawWord sender offeredAsset requestedAsset rng =
      .ok (note, repaySerialNum)) :
    repaySerialNum = (drawWord rng).1 ∧ ∃ script recipient,
      L.buildNoteScript .swap = .ok script ∧
      L.buildP2idRecipient sender repaySerialNum = .ok recipient ∧
      L.noteNew script (swapInputs recipient (L.assetWord requestedAsset) sender) [offeredAsset]
        (drawWord (drawWord rng).2).1 sender 0 = .ok note := by
  obtain ⟨script, hscript, h⟩ := bind_eq_ok h
  obtain ⟨recipient, hrecipient, h⟩ := bind_eq_ok h
  obtain ⟨note', hnote, h⟩ := bind_eq_ok h
  cases h
  exact ⟨rfl, script, recipient, hscript, hrecipient, hnote⟩

end Constructors

end MidenBase

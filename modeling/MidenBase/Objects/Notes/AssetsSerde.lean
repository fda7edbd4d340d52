import MidenBase.Objects.Notes.Assets
import MidenBase.Utils.Serde
import MidenBase.Mock.Serde

/-!
# Note assets: serialization

Reference: `objects/src/notes/assets.rs`, `impl Serializable for NoteAssets` and
`impl Deserializable for NoteAssets`.

The format is one byte holding `num_assets - 1`, then the assets. The writer appends the byte
and then `Vec<Asset>::write_into`; the reader reads the byte, adds one in `u8` arithmetic,
reads that many assets with `Asset::read_batch_from`, and re-validates them with
`NoteAssets::new`.

`Vec<T>::write_into` is the serialization library's: in the release this code compiles against
(the one that still has `Deserializable::read_batch_from`, which the reader calls) it writes the
elements' encodings one after another with no count (`T::write_batch_into`), and is modelled so.
The encoding of a single `Asset` is a parameter, a `Codec Asset`.

* `writeInto_readFrom`: what is written is exactly the count byte and the asset encodings, and
  reading it back gives the same container, consuming every byte.
* `canonical_codec`: a successful read consumed exactly the encoding of what it returned, so
  `read_from` accepts exactly the encodings (`readFrom_ok_iff_writeInto`).
* `readFrom_eq_new`: after any count byte, `read_from` returns what `NoteAssets::new` returns
  for the assets read, each error as `InvalidValue` of its `Debug` text.
* `readFrom_count_overflow`: a first byte of `0xFF` makes the `u8` count wrap to zero (a debug
  build panics instead), so the reader fails with `EmptyAssetList`, not `TooManyAssets`.
-/

namespace MidenBase

/-- `format!("{e:?}")` for a `NoteError`: the derived `Debug` text, the variant's name followed by
its payload. -/
def NoteError.debug : NoteError → String
  | .emptyAssetList => "EmptyAssetList"
  | .tooManyAssets n => "TooManyAssets(" ++ toString n ++ ")"
  | .duplicateFungibleAsset faucetId =>
    "DuplicateFungibleAsset(AccountId(" ++ toString faucetId.felt ++ "))"
  | .duplicateNonFungibleAsset a =>
    "DuplicateNonFungibleAsset(NonFungibleAsset(" ++ toString a.word.elements ++ "))"

/-- `Vec<T>::write_into` of the library release in use: `T::write_batch_into`, the elements one
after another with no count. -/
def vecWriteInto {α : Type} (write : α → List UInt8) (l : List α) : List UInt8 :=
  writeMany write l

namespace NoteAssets

variable (asset : Codec Asset)

/-- `NoteAssets::write_into`: `(self.assets.len() - 1) as u8`, then the assets. -/
def writeInto (n : NoteAssets) : List UInt8 :=
  UInt8.ofNat (n.assets.length - 1) :: vecWriteInto asset.write n.assets

/-- `NoteAssets::read_from`. The count is `source.read_u8()? + 1` in `u8` arithmetic. -/
def readFrom : Reader NoteAssets := do
  let count := (← readU8) + 1
  let assets ← readMany asset.read count.toNat
  match new assets with
  | .ok n => pure n
  | .error e => throw (.invalidValue e.debug)

/-- The serialization of `NoteAssets`. -/
def codec : Codec NoteAssets := ⟨writeInto asset, readFrom asset⟩

/-- A container rebuilt from its own assets is itself. -/
theorem new_assets (n : NoteAssets) : new n.assets = .ok n := by
  obtain ⟨h₀, h₁, h₂⟩ := valid_iff.mp n.valid
  rcases new_cases n.assets with ⟨h, -⟩ | ⟨-, h, -⟩ | ⟨-, -, a, ha, -⟩ | ⟨-, -, -, m, hm, hma⟩
  · exact absurd h h₀
  · exact absurd h (not_lt.mpr h₁)
  · rw [h₂] at ha; cases ha
  · rw [ext hma] at hm; exact hm

/-- The count byte holds the number of assets minus one, and adding one in `u8` arithmetic
gives the number back. -/
theorem count_byte (n : NoteAssets) :
    (UInt8.ofNat (n.numAssets - 1)).toNat = n.numAssets - 1 ∧
      (UInt8.ofNat (n.numAssets - 1) + 1).toNat = n.numAssets := by
  have h₀ := List.length_pos.mpr n.valid.ne_nil
  have h₁ := n.valid.length_le
  unfold maxNumAssets at h₁
  unfold numAssets
  have hadd : (UInt8.ofNat (n.assets.length - 1) + 1).toNat =
      ((UInt8.ofNat (n.assets.length - 1)).toNat + 1) % 256 := BitVec.toNat_add _ _
  rw [hadd, toNat_u8_ofNat]
  constructor <;> omega

/-- Reading back a written container returns it and leaves whatever followed. -/
theorem readFrom_writeInto (hasset : asset.RoundTrips) (n : NoteAssets) (rest : List UInt8) :
    (readFrom asset).run (n.writeInto asset ++ rest) = .ok (n, rest) := by
  unfold readFrom writeInto vecWriteInto
  rw [List.cons_append, run_bind_of_ok (readU8_cons _ _)]
  dsimp only
  rw [show (UInt8.ofNat (n.assets.length - 1) + 1).toNat = n.assets.length from (count_byte n).2,
    run_bind_of_ok (readMany_writeMany hasset n.assets rest), new_assets]
  rfl

theorem roundTrips_codec (hasset : asset.RoundTrips) : (codec asset).RoundTrips :=
  readFrom_writeInto asset hasset

/-- Writing a container and reading it back: the bytes are the count byte and the asset
encodings and nothing else, and the read returns the same container, consuming all of them. -/
theorem writeInto_readFrom (hasset : asset.RoundTrips) (n : NoteAssets) :
    n.writeInto asset = UInt8.ofNat (n.numAssets - 1) :: writeMany asset.write n.assets ∧
    (UInt8.ofNat (n.numAssets - 1)).toNat = n.numAssets - 1 ∧
    ∃ m, (readFrom asset).run (n.writeInto asset) = .ok (m, []) ∧ m = n ∧
      ∀ hashElements assetWord,
        m.commitment hashElements assetWord = n.commitment hashElements assetWord :=
  ⟨rfl, (count_byte n).1, n, by simpa using readFrom_writeInto asset hasset n [], rfl,
    fun _ _ => rfl⟩

theorem writeInto_readFrom_mock :
    Mock.asset.RoundTrips ∧
      ∃ m, (readFrom Mock.asset).run (Mock.noteAssets.writeInto Mock.asset) = .ok (m, []) ∧
        m = Mock.noteAssets :=
  ⟨Mock.asset_roundTrips,
    (writeInto_readFrom Mock.asset Mock.asset_roundTrips Mock.noteAssets).2.2.imp
      fun _ h => ⟨h.1, h.2.1⟩⟩

/-- A successful read consumed exactly the encoding of the container it returned. -/
theorem canonical_codec (hasset : asset.Canonical) : (codec asset).Canonical := by
  intro bs n rest h₁
  obtain ⟨b, s, hb, h₂⟩ := run_bind_eq_ok h₁
  obtain ⟨assets, s', hassets, h₃⟩ := run_bind_eq_ok h₂
  obtain ⟨rfl, hlen⟩ := readMany_canonical hasset hassets
  cases hn : new assets with
  | error e => rw [hn] at h₃; cases h₃
  | ok m =>
    rw [hn] at h₃
    cases h₃
    obtain rfl := new_ok hn
    have hb' : b = UInt8.ofNat (n.assets.length - 1) := by
      apply UInt8.toNat.inj
      have hadd : (b + 1).toNat = (b.toNat + 1) % 256 := BitVec.toNat_add _ _
      rw [hadd] at hlen
      have hpos := List.length_pos.mpr n.valid.ne_nil
      have := b.toNat_lt_size
      change b.toNat < 256 at this
      rw [toNat_u8_ofNat]
      omega
    rw [readU8_canonical hb, hb']
    rfl

/-- `read_from` accepts exactly the bytes `write_into` produces for some container, followed by
anything. -/
theorem readFrom_ok_iff_writeInto (hr : asset.RoundTrips) (hc : asset.Canonical)
    {bs rest : List UInt8} {n : NoteAssets} :
    (readFrom asset).run bs = .ok (n, rest) ↔ bs = n.writeInto asset ++ rest :=
  Codec.read_eq_ok_iff (roundTrips_codec asset hr) (canonical_codec asset hc)

theorem readFrom_ok_iff_writeInto_mock :
    Mock.asset.RoundTrips ∧ Mock.asset.Canonical ∧
      ((readFrom Mock.asset).run (Mock.noteAssets.writeInto Mock.asset) =
          .ok (Mock.noteAssets, []) ↔
        Mock.noteAssets.writeInto Mock.asset = Mock.noteAssets.writeInto Mock.asset ++ []) :=
  ⟨Mock.asset_roundTrips, Mock.asset_canonical,
    readFrom_ok_iff_writeInto Mock.asset Mock.asset_roundTrips Mock.asset_canonical⟩

/-- After the count byte `b`, `read_from` reads `b + 1` assets in `u8` arithmetic and returns
exactly what `NoteAssets::new` returns for them, an error as `InvalidValue` of its `Debug`
text. -/
theorem readFrom_eq_new (hasset : asset.RoundTrips) (b : UInt8) (assets : List Asset)
    (hlen : assets.length = (b + 1).toNat) (rest : List UInt8) :
    (readFrom asset).run (b :: writeMany asset.write assets ++ rest) =
      match new assets with
      | .ok n => .ok (n, rest)
      | .error e => .error (.invalidValue e.debug) := by
  unfold readFrom
  rw [List.cons_append, run_bind_of_ok (readU8_cons _ _)]
  dsimp only
  rw [← hlen, run_bind_of_ok (readMany_writeMany hasset assets rest)]
  cases new assets <;> rfl

/-- Two assets of one fungible faucet: `read_from` fails with the duplicate error of `new`. -/
theorem readFrom_eq_new_mock :
    [Asset.fungible ⟨⟨1⟩, 100⟩, .fungible ⟨⟨1⟩, 50⟩].length = ((1 : UInt8) + 1).toNat ∧
      (readFrom Mock.asset).run
          (1 :: writeMany Mock.asset.write [.fungible ⟨⟨1⟩, 100⟩, .fungible ⟨⟨1⟩, 50⟩] ++ []) =
        .error (.invalidValue "DuplicateFungibleAsset(AccountId(1))") :=
  ⟨rfl, (readFrom_eq_new Mock.asset Mock.asset_roundTrips 1
    [.fungible ⟨⟨1⟩, 100⟩, .fungible ⟨⟨1⟩, 50⟩] rfl []).trans rfl⟩

/-- A first byte of `0xFF` makes the `u8` count `0xFF + 1` wrap to zero, so no asset is read and
the reader fails with `EmptyAssetList` (a debug build panics on the overflow instead). -/
theorem readFrom_count_overflow (rest : List UInt8) :
    (255 : UInt8) + 1 = 0 ∧
      (readFrom asset).run (255 :: rest) = .error (.invalidValue "EmptyAssetList") :=
  ⟨rfl, by unfold readFrom; rw [run_bind_of_ok (readU8_cons _ _)]; rfl⟩

end NoteAssets

end MidenBase

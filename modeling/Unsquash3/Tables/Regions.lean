import Unsquash3.Tables.Load

/-! # The regions of an image

Two readings of "the regions lie back to front".

* `BackToFront`: the starts that are present increase strictly from the inode table up to
  `bytes_used`, except that the directory table may be empty. A successful load does not imply
  it (`readFilesystemTables_accepts_misplaced_tables`): the end of the fragment index is checked
  against the first export index entry, which the image supplies, and not against the start of
  the export index. What a load does imply is `RegionChain` (`readFilesystemTables_ok`).
* `WellFormedLayout`: the layout an image made by the format's writer has, region after region.
  Every such image loads (`readFilesystemTables_of_wellFormedLayout`), because such a layout
  satisfies `RegionChain` (`WellFormedLayout.regionChain`).
-/

namespace Unsquash3.Tables.Regions

open Unsquash3.Format.Records Unsquash3.Tables.Super Unsquash3.Tables.Fragment
open Unsquash3.Tables.Load

/-! ### Back to front -/

/-- The starts of the regions above the directory table that are present, up to `bytes_used`. -/
def upperStarts (sb : SuperBlock) : List Int :=
  (if sb.fragments ≠ 0 then [sb.fragment_table_start] else []) ++
    (if sb.lookup_table_start ≠ invalidBlk then [sb.lookup_table_start] else []) ++
    sb.uid_start :: (if sb.no_guids ≠ 0 then [sb.guid_start] else []) ++ [sb.bytes_used]

/-- The regions lie back to front: the starts increase strictly from the inode table to
`bytes_used`, except that the directory table may be empty. -/
def BackToFront (sb : SuperBlock) : Prop :=
  sb.inode_table_start < sb.directory_table_start ∧
    sb.directory_table_start ≤ (upperStarts sb).headD sb.bytes_used ∧
    ∀ p ∈ (upperStarts sb).zip (upperStarts sb).tail, p.1 < p.2

instance (sb : SuperBlock) : Decidable (BackToFront sb) :=
  inferInstanceAs (Decidable (_ ∧ _ ∧ _))

/-- An image whose index tables are given by their first entries (`first s` for the index at
`s`, stored natively) and whose other reads all succeed, with zeros. -/
def indexImage (first : Int → Option Nat) : Image where
  read_fs_bytes s n := some ⟨(((first s).elim [] fun v => encodeWords 8 false [BitVec.ofNat 64 v]) ++
      List.replicate n 0).take n, by simp⟩
  read_block _ e := some ⟨List.replicate (min e metadataSize) 0, by simp⟩
  read_ids n _ _ := some ⟨List.replicate n 0, by simp⟩

/-- An image whose export index (at byte 892, below the uid table at 900) names 5000 as the start
of the export blocks, and whose fragment index (at byte 4992) names 50 as the start of the
fragment blocks. -/
def misplacedImage : Image :=
  indexImage fun s => if s = 892 then some 5000 else if s = 4992 then some 50 else none

/-- One inode, one fragment, one uid, no gids, an export table: the fragment index is put at
4992, above the export index, the uid table and the end of the image. -/
def misplacedSuperBlock : SuperBlock where
  inodes := 1
  block_size := 4096
  fragments := 1
  block_log := 12
  bytes_used := 1000
  inode_table_start := 0
  directory_table_start := 40
  fragment_table_start := 4992
  lookup_table_start := 892
  no_uids := 1
  no_guids := 0
  uid_start := 900
  guid_start := 0
  inodes_lt := by decide
  fragments_lt := by decide

/-- Empty tables and released allocators, as at start-up. -/
def emptyTables : Tables := ⟨[], [], fun _ => 0, .init, .init⟩

/-- **What a successful load establishes** (`RegionChain`): each region below the uid table is
bounded by the first entry of the index above it. -/
theorem readFilesystemTables_ok {sb : SuperBlock} {swap : Bool} {img : Image}
    {fresh : Int → UInt8} {t : Tables} (h : (readFilesystemTables sb swap img fresh t).1 = .ok ()) :
    ∃ E F, RegionChain sb swap img E F := by
  obtain ⟨u, hu, h⟩ := Step.bind_ok h
  obtain ⟨E, hE, h⟩ := Step.bind_ok h
  obtain ⟨F, hF, h⟩ := Step.bind_ok h
  obtain ⟨hgid, huid, hn, rfl⟩ := readIdTables_ok hu
  obtain ⟨hdir, hino⟩ := checkDirectoryInodeTables_ok h
  exact ⟨E, F, hgid, huid, hn, readExportTable_ok hE, readFragments_ok hF, hdir, hino⟩

theorem misplacedImage_regionChain :
    (readFilesystemTables misplacedSuperBlock false misplacedImage (fun _ => 0) emptyTables).1 =
      .ok () ∧ ∃ E F, RegionChain misplacedSuperBlock false misplacedImage E F :=
  ⟨rfl, @readFilesystemTables_ok _ _ _ (fun _ => 0) emptyTables rfl⟩

theorem readFilesystemTables_accepts_misplaced_tables :
    (readFilesystemTables misplacedSuperBlock false misplacedImage (fun _ => 0) emptyTables).1 =
      .ok () ∧ ¬ BackToFront misplacedSuperBlock :=
  ⟨rfl, by decide⟩

/-! ### Well-formed layouts -/

/-- The entries of the index of `indexes` entries (`length` bytes) stored at `start`. -/
def indexEntries (swap : Bool) (img : Image) (start : Int) (indexes length : Nat) :
    Option (List Int) :=
  (img.read_fs_bytes start length).map fun raw =>
    (decodeWords 8 swap indexes raw.1).map BitVec.toInt

theorem firstIndexEntry_of_head {swap : Bool} {img : Image} {start x : Int} {indexes length : Nat}
    (h : (indexEntries swap img start indexes length).bind List.head? = some x) :
    firstIndexEntry swap img start indexes length = some x ∧ 0 < indexes := by
  unfold indexEntries at h
  cases hr : img.read_fs_bytes start length with
  | none => simp [hr] at h
  | some raw =>
    simp only [hr, Option.map_some', Option.some_bind] at h
    cases hd : decodeWords 8 swap indexes raw.1 with
    | nil => simp [hd] at h
    | cons y ys =>
      simp only [hd, List.map_cons, List.head?_cons, Option.some.injEq] at h
      have hl := length_decodeWords 8 swap indexes raw.1
      rw [hd, List.length_cons] at hl
      exact ⟨by rw [firstIndexEntry, hr, Option.map_some', hd, ← h]; rfl, by omega⟩

/-- **A well-formed layout**: a non-empty inode table, the directory table, the fragment blocks
(from `fragBlocks`), the fragment index, the export blocks (from `exportBlocks`) and the export
index, the uid table and the gid table, contiguous, in this order, at non-negative offsets and
ending at `bytes_used`. The export blocks and index are absent when `lookup_table_start` is
`SQUASHFS_INVALID_BLK`, the gid table when there are no gids. The index tables have the lengths
the format gives them, and their first entries are the starts of the blocks they index. -/
structure WellFormedLayout (sb : SuperBlock) (swap : Bool) (img : Image)
    (fragBlocks exportBlocks : Int) : Prop where
  inode_nonneg : 0 ≤ sb.inode_table_start
  inode_table : sb.inode_table_start < sb.directory_table_start
  directory_table : sb.directory_table_start ≤ fragBlocks
  fragment_blocks : fragBlocks ≤ sb.fragment_table_start
  fragment_index : sb.fragment_table_start + fragmentIndexBytes3 sb.fragments = exportBlocks
  fragment_first : sb.fragments ≠ 0 →
    (indexEntries swap img sb.fragment_table_start (fragmentIndexes3 sb.fragments)
      (fragmentIndexBytes3 sb.fragments)).bind List.head? = some fragBlocks
  export_table : if sb.lookup_table_start ≠ invalidBlk then
      exportBlocks ≤ sb.lookup_table_start ∧
        sb.lookup_table_start + lookupBlockBytes3 sb.inodes = sb.uid_start ∧
        (indexEntries swap img sb.lookup_table_start (lookupBlocks3 sb.inodes)
          (lookupBlockBytes3 sb.inodes)).bind List.head? = some exportBlocks
    else exportBlocks = sb.uid_start
  uid_table : sb.uid_start + 4 * sb.no_uids = idTablesEnd sb
  gid_table : if sb.no_guids ≠ 0 then sb.guid_start + 4 * sb.no_guids = sb.bytes_used
    else sb.guid_start = 0
  no_uids : 1 ≤ sb.no_uids
  fragments : sb.fragments ≤ sb.inodes

theorem WellFormedLayout.regionChain {sb : SuperBlock} {swap : Bool} {img : Image}
    {fragBlocks exportBlocks : Int} (hl : WellFormedLayout sb swap img fragBlocks exportBlocks) :
    RegionChain sb swap img exportBlocks (if sb.fragments ≠ 0 then fragBlocks else exportBlocks) := by
  have huid := hl.uid_table
  have hino := hl.inode_table
  refine ⟨?_, by have := hl.no_uids; omega, by have := hl.no_uids; omega, ?_, ?_, ?_, hino⟩
  · have := hl.gid_table
    split_ifs at this ⊢ <;> omega
  · have := hl.export_table
    split_ifs at this ⊢ with h
    · obtain ⟨hle, hsum, hfirst⟩ := this
      obtain ⟨hf, hpos⟩ := firstIndexEntry_of_head hfirst
      have : 0 < lookupBlockBytes3 sb.inodes := by simp only [lookupBlockBytes3]; omega
      exact ⟨by omega, by omega, hf⟩
    · exact this
  · have hfi := hl.fragment_index
    split_ifs with h
    · have := fragmentIndexBytes3_pos (Nat.pos_of_ne_zero h)
      exact ⟨by omega, hl.fragments, by omega, (firstIndexEntry_of_head (hl.fragment_first h)).1⟩
    · rw [not_not.mp h] at hfi
      exact ⟨by simpa using hfi, rfl⟩
  · have := hl.directory_table
    have := hl.fragment_blocks
    have := hl.fragment_index
    split_ifs <;> omega

/-- **Every well-formed image loads**: with or without an export table, fragments or gids,
`read_filesystem_tables` returns `TRUE` on it whenever the reads of its tables succeed. -/
theorem readFilesystemTables_of_wellFormedLayout {sb : SuperBlock} {swap : Bool} {img : Image}
    {fresh : Int → UInt8} {t : Tables} {fragBlocks exportBlocks : Int}
    (hl : WellFormedLayout sb swap img fragBlocks exportBlocks)
    (hr : ReadsSucceed sb swap img fresh) :
    (readFilesystemTables sb swap img fresh t).1 = .ok () :=
  readFilesystemTables_of_regionChain hl.regionChain hr

/-- A well-formed image with every kind of table: the inode table at 96, the directory table at
120, fragment blocks at 150, the fragment index at 200, export blocks at 208, the export index at
220, the uid table at 228 and the gid table at 232, up to 236. -/
def layoutSuperBlock : SuperBlock where
  inodes := 1
  block_size := 4096
  fragments := 1
  block_log := 12
  bytes_used := 236
  inode_table_start := 96
  directory_table_start := 120
  fragment_table_start := 200
  lookup_table_start := 220
  no_uids := 1
  no_guids := 1
  uid_start := 228
  guid_start := 232
  inodes_lt := by decide
  fragments_lt := by decide

/-- The index tables of `layoutSuperBlock`. -/
def layoutImage : Image :=
  indexImage fun s => if s = 200 then some 150 else if s = 220 then some 208 else none

theorem layoutImage_loads :
    WellFormedLayout layoutSuperBlock false layoutImage 150 208 ∧
      ReadsSucceed layoutSuperBlock false layoutImage (fun _ => 0) ∧
      (readFilesystemTables layoutSuperBlock false layoutImage (fun _ => 0) emptyTables).1 =
        .ok () :=
  have hl : WellFormedLayout layoutSuperBlock false layoutImage 150 208 :=
    ⟨by decide, by decide, by decide, by decide, by decide, fun _ => by decide, by decide,
      by decide, by decide, by decide, by decide⟩
  have hr : ReadsSucceed layoutSuperBlock false layoutImage (fun _ => 0) :=
    ⟨fun _ => rfl, rfl, by rintro raw ⟨⟩; rfl⟩
  ⟨hl, hr, readFilesystemTables_of_wellFormedLayout hl hr⟩

end Unsquash3.Tables.Regions

import Unsquash3.Tables.Fragment

/-! # Loading the tables

`read_filesystem_tables` walks the image from its end down: the gid table ends at `bytes_used`,
the uid table at the start of the gid table (or at `bytes_used`), the export index at the start of
the uid table, the fragment index at the start of the export blocks, and the directory table at
the start of the fragment blocks. Each start must lie below the end found so far (`table_start`);
an index table must fill the gap up to it exactly; and the start of the blocks an index table
points to is taken from the first entry of that index (`parse_exports_table`,
`read_fragment_table`) and becomes the next end.

The function is split along its own comments: `readIdTables`, `readExportTable`,
`readFragments`, `checkDirectoryInodeTables`. Each has one lemma that says what its success
means (`readIdTables_ok`, ...), and one lemma that says when it succeeds (`readIdTables_of`, ...).
Their checks add up to `RegionChain`, in which each region is bounded by the first index entry
above it and not by the start of the next table; a load whose checks hold and whose reads succeed
returns `TRUE` (`readFilesystemTables_of_regionChain`).
-/

namespace Unsquash3.Tables.Load

open Unsquash3.Format.Records Unsquash3.Tables.Super Unsquash3.Tables.Fragment

/-- **`parse_exports_table(&table_start)`**: checks the length of the export index and returns
its first entry, the start of the export blocks. -/
def parseExportsTable (sb : SuperBlock) (swap : Bool) (img : Image) (t : Tables)
    (table_start : Int) : Step Int :=
  let indexes := lookupBlocks3 sb.inodes
  let length := lookupBlockBytes3 sb.inodes
  if (length : Int) ≠ table_start - sb.lookup_table_start then
    fail "parse_exports_table: Bad inode count in super block" t
  else
    let t : Tables := { t with
      alloc := sallocIndexTable t.alloc indexes
      salloc := if swap then sallocIndexTable t.salloc indexes else t.salloc }
    match img.read_fs_bytes sb.lookup_table_start length with
    | none => fail "parse_exorts_table: failed to read export index table" t
    | some raw => (.ok ((decodeWords 8 swap indexes raw.1).getD 0 0).toInt, t)

/-- The gid table, when there are gids: returns the end of the uid table. -/
def readGidTable (sb : SuperBlock) (img : Image) (t : Tables) : Step Int :=
  if sb.no_guids ≠ 0 then
    if sb.guid_start ≥ sb.bytes_used then
      fail "read_filesystem_tables: gid start too large in super block" t
    else match img.read_ids sb.no_guids sb.guid_start sb.bytes_used with
      | none => (.error none, t)
      | some ids => (.ok sb.guid_start, { t with guid_table := ids.1 })
  else if sb.guid_start ≠ 0 then
    fail "read_filesystem_tables: gid start too large in super block" t
  else (.ok sb.bytes_used, t)

/-- The uid table, below `table_start`: returns `uid_start`. -/
def readUidTable (sb : SuperBlock) (img : Image) (table_start : Int) (t : Tables) : Step Int :=
  if sb.uid_start ≥ table_start then
    fail "read_filesystem_tables: uid start too large in super block" t
  else if sb.no_uids = 0 then fail "read_filesystem_tables: uid count bad in super block" t
  else match img.read_ids sb.no_uids sb.uid_start table_start with
    | none => (.error none, t)
    | some ids => (.ok sb.uid_start, { t with uid_table := ids.1 })

/-- The uid and gid tables: returns `uid_start`. -/
def readIdTables (sb : SuperBlock) (img : Image) (t : Tables) : Step Int :=
  (readGidTable sb img t).bind (readUidTable sb img)

/-- The export table, when there is one: returns the start of the export blocks. -/
def readExportTable (sb : SuperBlock) (swap : Bool) (img : Image) (t : Tables)
    (table_start : Int) : Step Int :=
  if sb.lookup_table_start ≠ invalidBlk then
    if sb.lookup_table_start ≥ table_start then
      fail "read_filesystem_tables: lookup table start too large in super block" t
    else parseExportsTable sb swap img t table_start
  else (.ok table_start, t)

/-- The fragment table, when there are fragments: returns the start of the fragment blocks. -/
def readFragments (sb : SuperBlock) (swap : Bool) (img : Image) (fresh : Int → UInt8)
    (t : Tables) (table_start : Int) : Step Int :=
  if sb.fragments ≠ 0 then
    if sb.fragment_table_start ≥ table_start then
      fail "read_filesystem_tables: fragment table start too large in super block" t
    else if sb.fragments > sb.inodes then
      fail "read_filesystem_tables: Bad fragment count in super block" t
    else readFragmentTable sb swap img fresh t table_start
  else if sb.fragment_table_start ≠ table_start then
    fail "read_filesystem_tables: fragment table start invalid in super block" t
  else (.ok table_start, t)

/-- The directory and inode tables. -/
def checkDirectoryInodeTables (sb : SuperBlock) (t : Tables) (table_start : Int) : Step Unit :=
  if sb.directory_table_start > table_start then
    fail "read_filesystem_tables: directory table start too large in super block" t
  else if sb.inode_table_start ≥ sb.directory_table_start then
    fail "read_filesystem_tables: inode table start too large in super block" t
  else (.ok (), t)

/-- **`read_filesystem_tables()`**: the four parts in order; whatever the outcome, both index
allocators are released (`alloc_index_table(0)`, `salloc_index_table(0)`). -/
def readFilesystemTables (sb : SuperBlock) (swap : Bool) (img : Image) (fresh : Int → UInt8)
    (t : Tables) : Step Unit :=
  let r := (readIdTables sb img t).bind fun ts t =>
    (readExportTable sb swap img t ts).bind fun ts t =>
      (readFragments sb swap img fresh t ts).bind fun ts t =>
        checkDirectoryInodeTables sb t ts
  (r.1, { r.2 with alloc := sallocIndexTable r.2.alloc 0, salloc := sallocIndexTable r.2.salloc 0 })

/-! ### What each part checks -/

/-- The first entry of the index of `indexes` entries (`length` bytes) stored at `start`, as the
reader uses it. -/
def firstIndexEntry (swap : Bool) (img : Image) (start : Int) (indexes length : Nat) :
    Option Int :=
  (img.read_fs_bytes start length).map fun raw =>
    ((decodeWords 8 swap indexes raw.1).getD 0 0).toInt

/-- Where the id tables end: the gid table, or the end of the image when there are no gids. -/
def idTablesEnd (sb : SuperBlock) : Int := if sb.no_guids ≠ 0 then sb.guid_start else sb.bytes_used

section
variable {sb : SuperBlock} {swap : Bool} {img : Image} {fresh : Int → UInt8} {t : Tables}
  {ts e : Int}

theorem readFragmentTable_ok (h : (readFragmentTable sb swap img fresh t ts).1 = .ok e) :
    ts - sb.fragment_table_start = fragmentIndexBytes3 sb.fragments ∧
      firstIndexEntry swap img sb.fragment_table_start (fragmentIndexes3 sb.fragments)
        (fragmentIndexBytes3 sb.fragments) = some e := by
  unfold readFragmentTable at h
  dsimp only at h
  by_cases hlen : (fragmentIndexBytes3 sb.fragments : Int) ≠ ts - sb.fragment_table_start
  · rw [if_pos hlen] at h; simp at h
  rw [if_neg hlen] at h
  split at h
  · simp at h
  rename_i raw hraw
  split at h
  · simp at h
  cases h
  exact ⟨by omega, by rw [firstIndexEntry, hraw]; rfl⟩

theorem parseExportsTable_ok (h : (parseExportsTable sb swap img t ts).1 = .ok e) :
    ts - sb.lookup_table_start = lookupBlockBytes3 sb.inodes ∧
      firstIndexEntry swap img sb.lookup_table_start (lookupBlocks3 sb.inodes)
        (lookupBlockBytes3 sb.inodes) = some e := by
  unfold parseExportsTable at h
  dsimp only at h
  by_cases hlen : (lookupBlockBytes3 sb.inodes : Int) ≠ ts - sb.lookup_table_start
  · rw [if_pos hlen] at h; simp at h
  rw [if_neg hlen] at h
  split at h
  · simp at h
  rename_i raw hraw
  cases h
  exact ⟨by omega, by rw [firstIndexEntry, hraw]; rfl⟩

theorem readGidTable_ok (h : (readGidTable sb img t).1 = .ok ts) :
    (if sb.no_guids ≠ 0 then sb.guid_start < sb.bytes_used else sb.guid_start = 0) ∧
      ts = idTablesEnd sb := by
  unfold readGidTable at h
  unfold idTablesEnd
  split_ifs at h ⊢ with h₁ h₂ h₃
  · simp at h
  · split at h
    · simp at h
    · cases h; exact ⟨by omega, rfl⟩
  · simp at h
  · cases h; exact ⟨by omega, rfl⟩

theorem readUidTable_ok (h : (readUidTable sb img ts t).1 = .ok e) :
    sb.uid_start < ts ∧ sb.no_uids ≠ 0 ∧ e = sb.uid_start := by
  unfold readUidTable at h
  split_ifs at h with h₁ h₂
  · simp at h
  · simp at h
  split at h
  · simp at h
  cases h
  exact ⟨by omega, h₂, rfl⟩

theorem readIdTables_ok (h : (readIdTables sb img t).1 = .ok ts) :
    (if sb.no_guids ≠ 0 then sb.guid_start < sb.bytes_used else sb.guid_start = 0) ∧
      sb.uid_start < idTablesEnd sb ∧ sb.no_uids ≠ 0 ∧ ts = sb.uid_start := by
  obtain ⟨g, hg, h⟩ := Step.bind_ok h
  obtain ⟨hguid, rfl⟩ := readGidTable_ok hg
  exact ⟨hguid, readUidTable_ok h⟩

theorem readExportTable_ok (h : (readExportTable sb swap img t ts).1 = .ok e) :
    if sb.lookup_table_start ≠ invalidBlk then
      sb.lookup_table_start < ts ∧ ts - sb.lookup_table_start = lookupBlockBytes3 sb.inodes ∧
        firstIndexEntry swap img sb.lookup_table_start (lookupBlocks3 sb.inodes)
          (lookupBlockBytes3 sb.inodes) = some e
    else e = ts := by
  unfold readExportTable at h
  split_ifs at h ⊢ with h₁ h₂
  · simp at h
  · exact ⟨by omega, parseExportsTable_ok h⟩
  · cases h; rfl

theorem readFragments_ok (h : (readFragments sb swap img fresh t ts).1 = .ok e) :
    if sb.fragments ≠ 0 then
      sb.fragment_table_start < ts ∧ sb.fragments ≤ sb.inodes ∧
        ts - sb.fragment_table_start = fragmentIndexBytes3 sb.fragments ∧
        firstIndexEntry swap img sb.fragment_table_start (fragmentIndexes3 sb.fragments)
          (fragmentIndexBytes3 sb.fragments) = some e
    else sb.fragment_table_start = ts ∧ e = ts := by
  unfold readFragments at h
  split_ifs at h ⊢ with h₁ h₂ h₃ h₄
  · simp at h
  · simp at h
  · exact ⟨by omega, by omega, readFragmentTable_ok h⟩
  · simp at h
  · cases h; exact ⟨by omega, rfl⟩

theorem checkDirectoryInodeTables_ok (h : (checkDirectoryInodeTables sb t ts).1 = .ok ()) :
    sb.directory_table_start ≤ ts ∧ sb.inode_table_start < sb.directory_table_start := by
  unfold checkDirectoryInodeTables at h
  split_ifs at h with h₁ h₂
  · simp at h
  · simp at h
  exact ⟨by omega, by omega⟩

/-! ### A successful load -/

/-- **What a successful load establishes.** `E` is the end the fragment index must reach: the
first entry of the export index, or `uid_start` without an export table. `F` bounds the directory
table: the first entry of the fragment index, or `E` without fragments. -/
structure RegionChain (sb : SuperBlock) (swap : Bool) (img : Image) (E F : Int) : Prop where
  gid : if sb.no_guids ≠ 0 then sb.guid_start < sb.bytes_used else sb.guid_start = 0
  uid : sb.uid_start < idTablesEnd sb
  no_uids : sb.no_uids ≠ 0
  exports : if sb.lookup_table_start ≠ invalidBlk then
      sb.lookup_table_start < sb.uid_start ∧
        sb.uid_start - sb.lookup_table_start = lookupBlockBytes3 sb.inodes ∧
        firstIndexEntry swap img sb.lookup_table_start (lookupBlocks3 sb.inodes)
          (lookupBlockBytes3 sb.inodes) = some E
    else E = sb.uid_start
  fragment : if sb.fragments ≠ 0 then
      sb.fragment_table_start < E ∧ sb.fragments ≤ sb.inodes ∧
        E - sb.fragment_table_start = fragmentIndexBytes3 sb.fragments ∧
        firstIndexEntry swap img sb.fragment_table_start (fragmentIndexes3 sb.fragments)
          (fragmentIndexBytes3 sb.fragments) = some F
    else sb.fragment_table_start = E ∧ F = E
  directory : sb.directory_table_start ≤ F
  inode : sb.inode_table_start < sb.directory_table_start

/-! ### When a load succeeds -/

/-- Every read of a table that the load makes succeeds: the id tables, and the blocks of the
fragment table. -/
structure ReadsSucceed (sb : SuperBlock) (swap : Bool) (img : Image) (fresh : Int → UInt8) :
    Prop where
  gids : sb.no_guids ≠ 0 → (img.read_ids sb.no_guids sb.guid_start sb.bytes_used).isSome
  uids : (img.read_ids sb.no_uids sb.uid_start (idTablesEnd sb)).isSome
  fragment_blocks : ∀ raw, img.read_fs_bytes sb.fragment_table_start
      (fragmentIndexBytes3 sb.fragments) = some raw →
    (readFragmentBlocks img (decodeWords 8 swap (fragmentIndexes3 sb.fragments) raw.1)
      (fragmentBytes3 sb.fragments) (fragmentIndexes3 sb.fragments) fresh).isSome

theorem readGidTable_of
    (h : if sb.no_guids ≠ 0 then sb.guid_start < sb.bytes_used else sb.guid_start = 0)
    (hr : sb.no_guids ≠ 0 → (img.read_ids sb.no_guids sb.guid_start sb.bytes_used).isSome) :
    (readGidTable sb img t).1 = .ok (idTablesEnd sb) := by
  unfold readGidTable idTablesEnd
  split_ifs at h ⊢ with h₁ h₂
  · omega
  · obtain ⟨ids, hids⟩ := Option.isSome_iff_exists.mp (hr h₁)
    rw [hids]
  · exact absurd h ‹_›
  · rfl

theorem readUidTable_of (h : sb.uid_start < ts) (hn : sb.no_uids ≠ 0)
    (hr : (img.read_ids sb.no_uids sb.uid_start ts).isSome) :
    (readUidTable sb img ts t).1 = .ok sb.uid_start := by
  obtain ⟨ids, hids⟩ := Option.isSome_iff_exists.mp hr
  rw [readUidTable, if_neg (by omega), if_neg hn, hids]

theorem parseExportsTable_of (hlen : ts - sb.lookup_table_start = lookupBlockBytes3 sb.inodes)
    (he : firstIndexEntry swap img sb.lookup_table_start (lookupBlocks3 sb.inodes)
      (lookupBlockBytes3 sb.inodes) = some e) :
    (parseExportsTable sb swap img t ts).1 = .ok e := by
  rw [firstIndexEntry, Option.map_eq_some'] at he
  obtain ⟨raw, hraw, rfl⟩ := he
  simp only [parseExportsTable, hlen, ne_eq, not_true_eq_false, if_false, hraw]

theorem readFragmentTable_of (hlen : ts - sb.fragment_table_start = fragmentIndexBytes3 sb.fragments)
    (he : firstIndexEntry swap img sb.fragment_table_start (fragmentIndexes3 sb.fragments)
      (fragmentIndexBytes3 sb.fragments) = some e)
    (hr : ReadsSucceed sb swap img fresh) :
    (readFragmentTable sb swap img fresh t ts).1 = .ok e := by
  rw [firstIndexEntry, Option.map_eq_some'] at he
  obtain ⟨raw, hraw, rfl⟩ := he
  obtain ⟨mem, hmem⟩ := Option.isSome_iff_exists.mp (hr.fragment_blocks raw hraw)
  simp only [readFragmentTable, hlen, ne_eq, not_true_eq_false, if_false, hraw, hmem]

theorem readIdTables_of
    (hg : if sb.no_guids ≠ 0 then sb.guid_start < sb.bytes_used else sb.guid_start = 0)
    (hu : sb.uid_start < idTablesEnd sb) (hn : sb.no_uids ≠ 0)
    (hr : ReadsSucceed sb swap img fresh) :
    (readIdTables sb img t).1 = .ok sb.uid_start := by
  rw [readIdTables, Step.bind_of_ok _ (readGidTable_of hg hr.gids)]
  exact readUidTable_of hu hn hr.uids

theorem readExportTable_of
    (h : if sb.lookup_table_start ≠ invalidBlk then
      sb.lookup_table_start < ts ∧ ts - sb.lookup_table_start = lookupBlockBytes3 sb.inodes ∧
        firstIndexEntry swap img sb.lookup_table_start (lookupBlocks3 sb.inodes)
          (lookupBlockBytes3 sb.inodes) = some e
    else e = ts) :
    (readExportTable sb swap img t ts).1 = .ok e := by
  unfold readExportTable
  split_ifs at h ⊢ with h₁ h₂
  · omega
  · exact parseExportsTable_of h.2.1 h.2.2
  · rw [h]

theorem readFragments_of
    (h : if sb.fragments ≠ 0 then
      sb.fragment_table_start < ts ∧ sb.fragments ≤ sb.inodes ∧
        ts - sb.fragment_table_start = fragmentIndexBytes3 sb.fragments ∧
        firstIndexEntry swap img sb.fragment_table_start (fragmentIndexes3 sb.fragments)
          (fragmentIndexBytes3 sb.fragments) = some e
    else sb.fragment_table_start = ts ∧ e = ts)
    (hr : ReadsSucceed sb swap img fresh) :
    (readFragments sb swap img fresh t ts).1 = .ok e := by
  unfold readFragments
  split_ifs at h ⊢ with h₁ h₂ h₃ h₄
  · omega
  · omega
  · exact readFragmentTable_of h.2.2.1 h.2.2.2 hr
  · omega
  · rw [h.2]

theorem checkDirectoryInodeTables_of (hd : sb.directory_table_start ≤ ts)
    (hi : sb.inode_table_start < sb.directory_table_start) :
    (checkDirectoryInodeTables sb t ts).1 = .ok () := by
  rw [checkDirectoryInodeTables, if_neg (by omega), if_neg (by omega)]

/-- **A load succeeds when its checks hold and its reads succeed.** -/
theorem readFilesystemTables_of_regionChain (hc : RegionChain sb swap img E F)
    (hr : ReadsSucceed sb swap img fresh) :
    (readFilesystemTables sb swap img fresh t).1 = .ok () := by
  show (Step.bind _ _).1 = _
  rw [Step.bind_of_ok _ (readIdTables_of hc.gid hc.uid hc.no_uids hr),
    Step.bind_of_ok _ (readExportTable_of hc.exports),
    Step.bind_of_ok _ (readFragments_of hc.fragment hr)]
  exact checkDirectoryInodeTables_of hc.directory hc.inode

end

end Unsquash3.Tables.Load

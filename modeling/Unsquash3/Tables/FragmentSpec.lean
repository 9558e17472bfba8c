import Unsquash3.Tables.Regions

/-! # What `read_fragment_table` reads and writes

`mksquashfs` writes the fragment table as `fragments` entries of 16 bytes laid end to end, split
into metadata blocks of 8192 bytes, with an index of the block addresses at
`fragment_table_start`. This module follows such a table through `read_fragment_table`: the index
read, the block loop, and in swap mode the swap loop; then through `read_fragment`.

* `fragmentTableBytes`: the bytes of a table, in native order or (`swap`) the other one;
  `StoresFragmentTable`: the image holds such a table and its index; `loadedTable`: the memory
  the reader leaves for it;
* `readFragment_readFragmentTable`: `read_fragment_table` then returns the first index entry, and
  `read_fragment` gives back the start and size of every entry, in either byte order, except in
  swap mode the entries at `2 ^ 31` and above, which the swap loop misses;
* `readFilesystemTables_readFragment`: the same after `read_filesystem_tables` has loaded a
  well-formed image;
* `readFragmentTable_frame`: for every image, the reader writes nothing outside the table, in swap
  mode while there are at most `2 ^ 31` fragments.
-/

namespace Unsquash3.Tables.FragmentSpec

open Unsquash3.Format.Packing Unsquash3.Format.Records Unsquash3.Tables.Super
  Unsquash3.Tables.Fragment Unsquash3.Tables.Load Unsquash3.Tables.Regions

/-! ### Records laid end to end -/

section Records

variable {α : Type} (c : Codec α) (swap : Bool)

theorem length_flatMap_encode : ∀ xs : List α, (xs.flatMap (c.encode swap)).length = c.layout.size * xs.length
  | [] => rfl
  | x :: xs => by
    rw [List.flatMap_cons, List.length_append, length_flatMap_encode xs, Codec.length_encode,
      List.length_cons, Nat.mul_succ, Nat.add_comm]

/-- Record `j` of the bytes of a list of records. -/
theorem flatMap_encode_window : ∀ (xs : List α) (j : Nat) (hj : j < xs.length),
    ((xs.flatMap (c.encode swap)).drop (c.layout.size * j)).take c.layout.size = c.encode swap xs[j]
  | [], _, hj => absurd hj (Nat.not_lt_zero _)
  | x :: xs, 0, _ => by
    rw [List.flatMap_cons, Nat.mul_zero, List.drop_zero, List.getElem_cons_zero]
    exact List.take_left' (Codec.length_encode _ _ _)
  | x :: xs, j + 1, hj => by
    rw [List.flatMap_cons, Nat.mul_succ, Nat.add_comm, ← Codec.length_encode c swap x,
      List.drop_append, Codec.length_encode, List.getElem_cons_succ]
    exact flatMap_encode_window xs j (Nat.lt_of_succ_lt_succ hj)

end Records

/-- The bytes of a fragment table: the entries one after the other, in native order, or in the
other byte order when `swap`. -/
def fragmentTableBytes (swap : Bool) (entries : List FragmentEntry3) : List UInt8 :=
  entries.flatMap (FragmentEntry3.codec.encode swap)

theorem length_fragmentTableBytes (swap : Bool) (entries : List FragmentEntry3) :
    (fragmentTableBytes swap entries).length = fragmentBytes3 entries.length := by
  rw [fragmentTableBytes, length_flatMap_encode, fragmentBytes3_eq]; rfl

/-- Entry `j` of a table copied to address `0` is read back at `16 * j`. -/
theorem readBytes_fragmentTable (mem : Int → UInt8) (swap : Bool) {entries : List FragmentEntry3}
    {j : Nat} (hj : j < entries.length) :
    readBytes (writeBytes mem 0 (fragmentTableBytes swap entries)) (16 * j) 16 =
      FragmentEntry3.codec.encode swap entries[j] := by
  have h := @readBytes_writeBytes mem 0 (fragmentTableBytes swap entries) (16 * j) 16
    (by rw [length_fragmentTableBytes, fragmentBytes3_eq]; omega)
  rw [Int.zero_add, Nat.cast_mul] at h
  exact h.trans (flatMap_encode_window FragmentEntry3.codec swap entries j hj)

/-- `read_fragment` decodes the native bytes it finds at entry `j` of the table. -/
theorem readFragment_of_window {mem : Int → UInt8} {f j : Nat} {e : FragmentEntry3} (hj : j < f)
    (h : readBytes mem (16 * j) 16 = FragmentEntry3.codec.encode false e) :
    readFragment mem f j = some (e.start_block.toInt, int32 e.size.toNat) := by
  rw [readFragment, if_pos hj, h, Codec.decode_encode]

/-- `read_fragment_table` once the length of its index is right and the index is read: the block
loop, then the swap loop in swap mode. -/
theorem readFragmentTable_eq_blocks {sb : SuperBlock} {swap : Bool} {img : Image}
    {fresh : Int → UInt8} (t : Tables) {ts : Int}
    {raw : {bs : List UInt8 // bs.length = fragmentIndexBytes3 sb.fragments}}
    (hlen : ts - sb.fragment_table_start = fragmentIndexBytes3 sb.fragments)
    (hraw : img.read_fs_bytes sb.fragment_table_start (fragmentIndexBytes3 sb.fragments) = some raw) :
    readFragmentTable sb swap img fresh t ts =
      match readFragmentBlocks img (decodeWords 8 swap (fragmentIndexes3 sb.fragments) raw.1)
          (fragmentBytes3 sb.fragments) (fragmentIndexes3 sb.fragments) fresh with
      | none => fail "read_fragment_table: failed to read fragment table block"
          { t with
            alloc := sallocIndexTable t.alloc (fragmentIndexes3 sb.fragments)
            fragment_table := fresh
            salloc := if swap then sallocIndexTable t.salloc (fragmentIndexes3 sb.fragments)
              else t.salloc }
      | some mem => (.ok ((decodeWords 8 swap (fragmentIndexes3 sb.fragments) raw.1).getD 0 0).toInt,
          { t with
            alloc := sallocIndexTable t.alloc (fragmentIndexes3 sb.fragments)
            fragment_table := if swap then swapLoop sb.fragments (2 ^ 32) 0 mem else mem
            salloc := if swap then sallocIndexTable t.salloc (fragmentIndexes3 sb.fragments)
              else t.salloc }) := by
  have h : ¬ ((fragmentIndexBytes3 sb.fragments : Int) ≠ ts - sb.fragment_table_start) := by omega
  rcases hb : readFragmentBlocks img (decodeWords 8 swap (fragmentIndexes3 sb.fragments) raw.1)
    (fragmentBytes3 sb.fragments) (fragmentIndexes3 sb.fragments) fresh with _ | mem <;>
    simp only [readFragmentTable, if_neg h, hraw, hb]

/-- What `read_fragment_table` returns once the index and the blocks are read. -/
theorem readFragmentTable_of_blocks {sb : SuperBlock} {swap : Bool} {img : Image}
    {fresh mem : Int → UInt8} (t : Tables) {ts : Int}
    {raw : {bs : List UInt8 // bs.length = fragmentIndexBytes3 sb.fragments}}
    (hlen : ts - sb.fragment_table_start = fragmentIndexBytes3 sb.fragments)
    (hraw : img.read_fs_bytes sb.fragment_table_start (fragmentIndexBytes3 sb.fragments) = some raw)
    (hmem : readFragmentBlocks img (decodeWords 8 swap (fragmentIndexes3 sb.fragments) raw.1)
      (fragmentBytes3 sb.fragments) (fragmentIndexes3 sb.fragments) fresh = some mem) :
    (readFragmentTable sb swap img fresh t ts).1 =
        .ok ((decodeWords 8 swap (fragmentIndexes3 sb.fragments) raw.1).getD 0 0).toInt ∧
      (readFragmentTable sb swap img fresh t ts).2.fragment_table =
        if swap then swapLoop sb.fragments (2 ^ 32) 0 mem else mem := by
  rw [readFragmentTable_eq_blocks t hlen hraw, hmem]
  exact ⟨rfl, rfl⟩

/-! ### A stored table read back -/

/-- The image stores the fragment table of `entries` in byte order `swap`: at
`fragment_table_start` the index of `fragmentIndexes3 fragments` block addresses, and at the
`i`-th address a metadata block that decompresses to block `i` of the table. -/
structure StoresFragmentTable (sb : SuperBlock) (swap : Bool) (img : Image)
    (entries : List FragmentEntry3) (index : List (BitVec 64)) : Prop where
  length_eq : entries.length = sb.fragments
  index_length : index.length = fragmentIndexes3 sb.fragments
  index_read : (img.read_fs_bytes sb.fragment_table_start (fragmentIndexBytes3 sb.fragments)).map
    Subtype.val = some (encodeWords 8 swap index)
  blocks_read : ∀ i < fragmentIndexes3 sb.fragments,
    (img.read_block (index.getD i 0).toInt
      (expectedLength (fragmentBytes3 sb.fragments) (fragmentIndexes3 sb.fragments) i)).map
      Subtype.val = some (tableBlock (fragmentTableBytes swap entries) i)

section Stored
variable {sb : SuperBlock} {swap : Bool} {img : Image} {entries : List FragmentEntry3}
  {index : List (BitVec 64)}

/-- The index is read and decoded back to `index`. -/
theorem StoresFragmentTable.index_decoded (hs : StoresFragmentTable sb swap img entries index) :
    ∃ raw, img.read_fs_bytes sb.fragment_table_start (fragmentIndexBytes3 sb.fragments) = some raw ∧
      decodeWords 8 swap (fragmentIndexes3 sb.fragments) raw.1 = index := by
  obtain ⟨raw, hraw, hbytes⟩ := Option.map_eq_some'.mp hs.index_read
  exact ⟨raw, hraw, by rw [hbytes, ← hs.index_length, decodeWords_encodeWords]⟩

/-- The block loop copies the stored table to the start of the memory. -/
theorem StoresFragmentTable.blocks (hs : StoresFragmentTable sb swap img entries index)
    (fresh : Int → UInt8) :
    readFragmentBlocks img index (fragmentBytes3 sb.fragments) (fragmentIndexes3 sb.fragments) fresh =
      some (writeBytes fresh 0 (fragmentTableBytes swap entries)) := by
  have htl : (fragmentTableBytes swap entries).length = fragmentBytes3 sb.fragments := by
    rw [length_fragmentTableBytes, hs.length_eq]
  rw [← htl]
  refine readFragmentBlocks_eq ?_ (htl ▸ hs.blocks_read) fresh
  rw [htl, fragmentIndexes3_eq, fragmentBytes3_eq]

/-- The table `read_fragment_table` leaves for the stored `entries`: their bytes copied to the
memory `malloc` returned, and swapped in swap mode. -/
def loadedTable (swap : Bool) (f : Nat) (fresh : Int → UInt8) (entries : List FragmentEntry3) :
    Int → UInt8 :=
  if swap then swapLoop f (2 ^ 32) 0 (writeBytes fresh 0 (fragmentTableBytes swap entries))
  else writeBytes fresh 0 (fragmentTableBytes swap entries)

/-- `read_fragment_table` on a stored table returns the first index entry and leaves
`loadedTable`. -/
theorem readFragmentTable_stores (hs : StoresFragmentTable sb swap img entries index)
    (fresh : Int → UInt8) (t : Tables) {ts : Int}
    (hlen : ts - sb.fragment_table_start = fragmentIndexBytes3 sb.fragments) :
    (readFragmentTable sb swap img fresh t ts).1 = .ok (index.getD 0 0).toInt ∧
      (readFragmentTable sb swap img fresh t ts).2.fragment_table =
        loadedTable swap sb.fragments fresh entries := by
  obtain ⟨raw, hraw, hindex⟩ := hs.index_decoded
  obtain ⟨hok, htable⟩ := readFragmentTable_of_blocks t hlen hraw (hindex ▸ hs.blocks fresh)
  exact ⟨hindex ▸ hok, htable⟩

end Stored

/-- `read_fragment` finds every entry in `loadedTable` in native order: in swap mode the swap
loop has turned it round, provided `j < 2 ^ 31`. -/
theorem readFragment_loadedTable {swap : Bool} {entries : List FragmentEntry3} {f : Nat}
    (fresh : Int → UInt8) (hf : entries.length = f) (hf32 : f < 2 ^ 32) :
    ∀ (j : Nat) (hj : j < entries.length), (swap = false ∨ j < 2 ^ 31) →
      readFragment (loadedTable swap f fresh entries) f j =
        some (entries[j].start_block.toInt, int32 entries[j].size.toNat) := by
  intro j hj hsw
  refine readFragment_of_window (hf ▸ hj) ?_
  cases swap with
  | false => exact readBytes_fragmentTable fresh false hj
  | true =>
    have hj' : j < 2 ^ 31 := hsw.resolve_left Bool.noConfusion
    rw [loadedTable, if_pos rfl, swapLoop_entry hf32 (hf ▸ hj) hj',
      readBytes_fragmentTable fresh true hj, Codec.decode_encode]

/-- **The fragment table read back.** When the image stores the fragment table of `entries` in
either byte order, and its index fills the gap up to the next table, `read_fragment_table`
returns the first index entry, and `read_fragment` gives back the start and size of every entry;
in swap mode only of the entries below `2 ^ 31`, the ones the swap loop reaches. -/
theorem readFragment_readFragmentTable {sb : SuperBlock} {swap : Bool} {img : Image}
    {entries : List FragmentEntry3} {index : List (BitVec 64)} {fresh : Int → UInt8} {t : Tables}
    {ts : Int} (hs : StoresFragmentTable sb swap img entries index)
    (hlen : ts - sb.fragment_table_start = fragmentIndexBytes3 sb.fragments) :
    (readFragmentTable sb swap img fresh t ts).1 = .ok (index.getD 0 0).toInt ∧
      ∀ (j : Nat) (hj : j < entries.length), (swap = false ∨ j < 2 ^ 31) →
        readFragment (readFragmentTable sb swap img fresh t ts).2.fragment_table sb.fragments j =
          some (entries[j].start_block.toInt, int32 entries[j].size.toNat) := by
  obtain ⟨hok, htable⟩ := readFragmentTable_stores hs fresh t hlen
  exact ⟨hok, htable ▸ readFragment_loadedTable fresh hs.length_eq sb.fragments_lt⟩

/-- The fragment table of the one entry `e` in byte order `swap`, laid out as
`layoutSuperBlock` says: the fragment index at `200` holds the address `150` of the one block,
the export index at `220` the address `208` of the export blocks; the ids read as zeros. -/
def fragmentLayoutImage (swap : Bool) (e : FragmentEntry3) : Image where
  read_fs_bytes s n :=
    if h : n = 8 ∧ s = 200 then some ⟨encodeWords 8 swap [150], by rw [h.1, length_encodeWords]; rfl⟩
    else if h : n = 8 ∧ s = 220 then
      some ⟨encodeWords 8 swap [208], by rw [h.1, length_encodeWords]; rfl⟩
    else none
  read_block s _ :=
    if s = 150 then some ⟨FragmentEntry3.codec.encode swap e, by rw [Codec.length_encode]; decide⟩
    else none
  read_ids n _ _ := some ⟨List.replicate n 0, List.length_replicate n 0⟩

theorem fragmentLayoutImage_stores (swap : Bool) (e : FragmentEntry3) :
    StoresFragmentTable layoutSuperBlock swap (fragmentLayoutImage swap e) [e] [150] where
  length_eq := rfl
  index_length := rfl
  index_read := rfl
  blocks_read i hi := by
    obtain rfl : i = 0 := by simpa [fragmentIndexes3_eq, layoutSuperBlock] using hi
    rw [tableBlock, Nat.zero_mul, List.drop_zero, fragmentTableBytes, List.flatMap_singleton,
      List.take_of_length_le (by rw [Codec.length_encode]; decide)]
    rfl

theorem fragmentLayoutImage_reads_back :
    StoresFragmentTable layoutSuperBlock true (fragmentLayoutImage true ⟨5, 7, 0⟩) [⟨5, 7, 0⟩]
        [150] ∧
      (208 : Int) - layoutSuperBlock.fragment_table_start =
        fragmentIndexBytes3 layoutSuperBlock.fragments ∧
      (readFragmentTable layoutSuperBlock true (fragmentLayoutImage true ⟨5, 7, 0⟩) (fun _ => 0)
        emptyTables 208).1 = .ok (150 : BitVec 64).toInt ∧
      readFragment (readFragmentTable layoutSuperBlock true (fragmentLayoutImage true ⟨5, 7, 0⟩)
        (fun _ => 0) emptyTables 208).2.fragment_table 1 0 =
        some ((5 : BitVec 64).toInt, int32 (7 : BitVec 32).toNat) :=
  have hs := fragmentLayoutImage_stores true ⟨5, 7, 0⟩
  have hlen : (208 : Int) - layoutSuperBlock.fragment_table_start =
      fragmentIndexBytes3 layoutSuperBlock.fragments := by decide
  ⟨hs, hlen, (readFragment_readFragmentTable hs hlen).1,
    (readFragment_readFragmentTable hs hlen).2 0 (by decide) (.inr (by decide))⟩

/-! ### Swap mode against native mode -/

theorem readBytes_eq_apply {m m' : Int → UInt8} {a : Int} {n i : Nat}
    (h : readBytes m a n = readBytes m' a n) (hi : i < n) : m (a + i) = m' (a + i) := by
  have := congrArg (·[i]?) h
  simpa [readBytes, hi] using this

/-- With at most `2 ^ 31` fragments the swap loop turns the foreign table into exactly the
native one: entry by entry inside the table, and nothing outside it. -/
theorem loadedTable_true_eq_false {entries : List FragmentEntry3} {f : Nat}
    (hf : entries.length = f) (hf31 : f ≤ 2 ^ 31) (fresh : Int → UInt8) :
    loadedTable true f fresh entries = loadedTable false f fresh entries := by
  funext a
  by_cases ha : 0 ≤ a ∧ a < 16 * f
  · obtain ⟨j, i, hj, hi, rfl⟩ : ∃ j i : Nat, j < f ∧ i < 16 ∧ a = 16 * (j : Int) + i :=
      ⟨(a / 16).toNat, (a % 16).toNat, by omega, by omega, by omega⟩
    refine readBytes_eq_apply ?_ hi
    have hwin := readBytes_fragmentTable fresh true (hf ▸ hj)
    rw [loadedTable, if_pos rfl, swapLoop_entry (by omega) hj (by omega), hwin,
      Codec.decode_encode, loadedTable, if_neg Bool.false_ne_true,
      readBytes_fragmentTable fresh false (hf ▸ hj)]
  · have hout : a < 0 ∨ 16 * f ≤ a := by omega
    have hw : ∀ swap, writeBytes fresh 0 (fragmentTableBytes swap entries) a = fresh a :=
      fun swap => writeBytes_of_not_mem (by
        rw [length_fragmentTableBytes, fragmentBytes3_eq, hf]; push_cast; omega)
    rw [loadedTable, if_pos rfl, swapLoop_of_not_mem hf31 _ hout, hw, loadedTable,
      if_neg Bool.false_ne_true, hw]

/-- **Swap mode reads a foreign table as native mode reads the native one.** With at most
`2 ^ 31` fragments, `read_fragment_table` in swap mode on an image storing the table and its
index in the other byte order returns the same table start and leaves the same memory, byte for
byte, as without swap on an image storing them natively. -/
theorem readFragmentTable_swap_eq_native {sb : SuperBlock} {img img' : Image}
    {entries : List FragmentEntry3} {index : List (BitVec 64)} {fresh : Int → UInt8}
    {t : Tables} {ts : Int} (hs : StoresFragmentTable sb false img entries index)
    (hs' : StoresFragmentTable sb true img' entries index)
    (hlen : ts - sb.fragment_table_start = fragmentIndexBytes3 sb.fragments)
    (hf : sb.fragments ≤ 2 ^ 31) :
    (readFragmentTable sb true img' fresh t ts).1 = (readFragmentTable sb false img fresh t ts).1 ∧
      (readFragmentTable sb true img' fresh t ts).2.fragment_table =
        (readFragmentTable sb false img fresh t ts).2.fragment_table := by
  obtain ⟨hok', htable'⟩ := readFragmentTable_stores hs' fresh t hlen
  obtain ⟨hok, htable⟩ := readFragmentTable_stores hs fresh t hlen
  rw [hok', hok, htable', htable, loadedTable_true_eq_false hs.length_eq hf]
  exact ⟨rfl, rfl⟩

theorem fragmentLayoutImage_swap_eq_native :
    StoresFragmentTable layoutSuperBlock false (fragmentLayoutImage false ⟨5, 7, 0⟩) [⟨5, 7, 0⟩]
        [150] ∧
      StoresFragmentTable layoutSuperBlock true (fragmentLayoutImage true ⟨5, 7, 0⟩) [⟨5, 7, 0⟩]
        [150] ∧
      (208 : Int) - layoutSuperBlock.fragment_table_start =
        fragmentIndexBytes3 layoutSuperBlock.fragments ∧ layoutSuperBlock.fragments ≤ 2 ^ 31 ∧
      (readFragmentTable layoutSuperBlock true (fragmentLayoutImage true ⟨5, 7, 0⟩) (fun _ => 0)
          emptyTables 208).1 =
        (readFragmentTable layoutSuperBlock false (fragmentLayoutImage false ⟨5, 7, 0⟩)
          (fun _ => 0) emptyTables 208).1 ∧
      (readFragmentTable layoutSuperBlock true (fragmentLayoutImage true ⟨5, 7, 0⟩) (fun _ => 0)
          emptyTables 208).2.fragment_table =
        (readFragmentTable layoutSuperBlock false (fragmentLayoutImage false ⟨5, 7, 0⟩)
          (fun _ => 0) emptyTables 208).2.fragment_table :=
  have hs := fragmentLayoutImage_stores false ⟨5, 7, 0⟩
  have hs' := fragmentLayoutImage_stores true ⟨5, 7, 0⟩
  have hlen : (208 : Int) - layoutSuperBlock.fragment_table_start =
      fragmentIndexBytes3 layoutSuperBlock.fragments := by decide
  ⟨hs, hs', hlen, by decide, readFragmentTable_swap_eq_native hs hs' hlen (by decide)⟩

/-! ### A stored table loaded with the other tables -/

theorem checkDirectoryInodeTables_snd (sb : SuperBlock) (t : Tables) (ts : Int) :
    (checkDirectoryInodeTables sb t ts).2 = t := by
  unfold checkDirectoryInodeTables
  split_ifs <;> rfl

/-- **A well-formed image's fragment table, loaded.** For every well-formed layout whose
fragment index and blocks store the table of `entries`, in either byte order, and whose id
tables read, `read_filesystem_tables` returns `TRUE`, and afterwards `read_fragment` gives back
the start and size of every entry (in swap mode of the entries below `2 ^ 31`). -/
theorem readFilesystemTables_readFragment {sb : SuperBlock} {swap : Bool} {img : Image}
    {fresh : Int → UInt8} {t : Tables} {fragBlocks exportBlocks : Int}
    {entries : List FragmentEntry3} {index : List (BitVec 64)}
    (hl : WellFormedLayout sb swap img fragBlocks exportBlocks)
    (hs : StoresFragmentTable sb swap img entries index)
    (hg : sb.no_guids ≠ 0 → (img.read_ids sb.no_guids sb.guid_start sb.bytes_used).isSome)
    (hu : (img.read_ids sb.no_uids sb.uid_start (idTablesEnd sb)).isSome) :
    (readFilesystemTables sb swap img fresh t).1 = .ok () ∧
      ∀ (j : Nat) (hj : j < entries.length), (swap = false ∨ j < 2 ^ 31) →
        readFragment (readFilesystemTables sb swap img fresh t).2.fragment_table
          sb.fragments j = some (entries[j].start_block.toInt, int32 entries[j].size.toNat) := by
  have hc := hl.regionChain
  have hr : ReadsSucceed sb swap img fresh := ⟨hg, hu, fun raw hraw => by
    obtain ⟨raw', hraw', hindex⟩ := hs.index_decoded
    rw [hraw, Option.some.injEq] at hraw'
    rw [hraw', hindex, hs.blocks fresh]; rfl⟩
  refine ⟨readFilesystemTables_of_regionChain hc hr, fun j hj hsw => ?_⟩
  have hf : sb.fragments ≠ 0 := by have := hs.length_eq; omega
  have hE := hl.fragment_index
  have hfrag : ∀ t', readFragments sb swap img fresh t' exportBlocks =
      readFragmentTable sb swap img fresh t' exportBlocks := fun t' => by
    have := hc.fragment
    rw [if_pos hf] at this
    rw [readFragments, if_pos hf, if_neg (by omega), if_neg (by omega)]
  have htable : (readFilesystemTables sb swap img fresh t).2.fragment_table =
      loadedTable swap sb.fragments fresh entries := by
    show (Step.bind _ _).2.fragment_table = _
    rw [Step.bind_eq_of_ok _ (readIdTables_of hc.gid hc.uid hc.no_uids hr),
      Step.bind_eq_of_ok _ (readExportTable_of hc.exports), hfrag,
      Step.bind_eq_of_ok _ (readFragmentTable_stores hs fresh _ (by omega)).1,
      checkDirectoryInodeTables_snd, (readFragmentTable_stores hs fresh _ (by omega)).2]
  rw [htable]
  exact readFragment_loadedTable fresh hs.length_eq sb.fragments_lt j hj hsw

theorem fragmentLayoutImage_loads :
    WellFormedLayout layoutSuperBlock true (fragmentLayoutImage true ⟨5, 7, 0⟩) 150 208 ∧
      StoresFragmentTable layoutSuperBlock true (fragmentLayoutImage true ⟨5, 7, 0⟩) [⟨5, 7, 0⟩]
        [150] ∧
      (layoutSuperBlock.no_guids ≠ 0 → ((fragmentLayoutImage true ⟨5, 7, 0⟩).read_ids
        layoutSuperBlock.no_guids layoutSuperBlock.guid_start layoutSuperBlock.bytes_used).isSome) ∧
      ((fragmentLayoutImage true ⟨5, 7, 0⟩).read_ids layoutSuperBlock.no_uids
        layoutSuperBlock.uid_start (idTablesEnd layoutSuperBlock)).isSome ∧
      (readFilesystemTables layoutSuperBlock true (fragmentLayoutImage true ⟨5, 7, 0⟩)
        (fun _ => 0) emptyTables).1 = .ok () ∧
      readFragment (readFilesystemTables layoutSuperBlock true
        (fragmentLayoutImage true ⟨5, 7, 0⟩) (fun _ => 0) emptyTables).2.fragment_table 1 0 =
        some ((5 : BitVec 64).toInt, int32 (7 : BitVec 32).toNat) :=
  have hl : WellFormedLayout layoutSuperBlock true (fragmentLayoutImage true ⟨5, 7, 0⟩) 150 208 :=
    ⟨by decide, by decide, by decide, by decide, by decide, fun _ => by decide, by decide,
      by decide, by decide, by decide, by decide⟩
  have hs := fragmentLayoutImage_stores true ⟨5, 7, 0⟩
  have hg : layoutSuperBlock.no_guids ≠ 0 → ((fragmentLayoutImage true ⟨5, 7, 0⟩).read_ids
      layoutSuperBlock.no_guids layoutSuperBlock.guid_start layoutSuperBlock.bytes_used).isSome :=
    fun _ => rfl
  have hu : ((fragmentLayoutImage true ⟨5, 7, 0⟩).read_ids layoutSuperBlock.no_uids
      layoutSuperBlock.uid_start (idTablesEnd layoutSuperBlock)).isSome := rfl
  ⟨hl, hs, hg, hu, (readFilesystemTables_readFragment hl hs hg hu).1,
    (readFilesystemTables_readFragment hl hs hg hu).2 0 (by decide) (.inr (by decide))⟩

/-! ### What the reader writes -/

/-- What a successful `read_fragment_table` read: the index, then the blocks into the memory
`malloc` returned; the table it leaves is that memory, swapped in swap mode. -/
theorem readFragmentTable_eq_ok {sb : SuperBlock} {swap : Bool} {img : Image}
    {fresh : Int → UInt8} {t : Tables} {ts e : Int}
    (h : (readFragmentTable sb swap img fresh t ts).1 = .ok e) :
    ∃ raw mem, img.read_fs_bytes sb.fragment_table_start (fragmentIndexBytes3 sb.fragments) = some raw ∧
      readFragmentBlocks img (decodeWords 8 swap (fragmentIndexes3 sb.fragments) raw.1)
        (fragmentBytes3 sb.fragments) (fragmentIndexes3 sb.fragments) fresh = some mem ∧
      (readFragmentTable sb swap img fresh t ts).2.fragment_table =
        if swap then swapLoop sb.fragments (2 ^ 32) 0 mem else mem := by
  obtain ⟨hlen, he⟩ := readFragmentTable_ok h
  obtain ⟨raw, hraw, -⟩ := Option.map_eq_some'.1 he
  rw [readFragmentTable_eq_blocks t hlen hraw] at h
  rcases hmem : readFragmentBlocks img (decodeWords 8 swap (fragmentIndexes3 sb.fragments) raw.1)
    (fragmentBytes3 sb.fragments) (fragmentIndexes3 sb.fragments) fresh with _ | mem
  · rw [hmem] at h; cases h
  · exact ⟨raw, mem, hraw, hmem, (readFragmentTable_of_blocks t hlen hraw hmem).2⟩

/-- **`read_fragment_table` writes only into the table.** For every image, when it returns
`TRUE` in native mode, or in swap mode with at most `2 ^ 31` fragments, every byte outside the
`16 * fragments` bytes of the table is as `malloc` returned it. -/
theorem readFragmentTable_frame {sb : SuperBlock} {swap : Bool} {img : Image}
    {fresh : Int → UInt8} {t : Tables} {ts e : Int}
    (h : (readFragmentTable sb swap img fresh t ts).1 = .ok e)
    (hsw : swap = false ∨ sb.fragments ≤ 2 ^ 31) {a : Int} (ha : a < 0 ∨ 16 * sb.fragments ≤ a) :
    (readFragmentTable sb swap img fresh t ts).2.fragment_table a = fresh a := by
  obtain ⟨raw, mem, -, hmem, htable⟩ := readFragmentTable_eq_ok h
  have hblocks : mem a = fresh a :=
    readFragmentBlocks_frame (fragmentIndexes3_eq _ ▸ fragmentBytes3_eq _ ▸ rfl) hmem
      (by rw [fragmentBytes3_eq]; push_cast; exact ha)
  rw [htable]
  cases swap with
  | false => exact hblocks
  | true => rw [if_pos rfl, swapLoop_of_not_mem (hsw.resolve_left Bool.noConfusion) mem ha, hblocks]

theorem fragmentLayoutImage_frame :
    (readFragmentTable layoutSuperBlock true (fragmentLayoutImage true ⟨5, 7, 0⟩) (fun _ => 0)
        emptyTables 208).1 = .ok (150 : BitVec 64).toInt ∧
      (true = false ∨ layoutSuperBlock.fragments ≤ 2 ^ 31) ∧
      ((-1 : Int) < 0 ∨ 16 * layoutSuperBlock.fragments ≤ (-1 : Int)) ∧
      (readFragmentTable layoutSuperBlock true (fragmentLayoutImage true ⟨5, 7, 0⟩) (fun _ => 0)
        emptyTables 208).2.fragment_table (-1) = 0 :=
  have h : (readFragmentTable layoutSuperBlock true (fragmentLayoutImage true ⟨5, 7, 0⟩)
      (fun _ => 0) emptyTables 208).1 = .ok (150 : BitVec 64).toInt := rfl
  ⟨h, .inr (by decide), .inl (by decide),
    readFragmentTable_frame h (.inr (by decide)) (.inl (by decide))⟩

end Unsquash3.Tables.FragmentSpec

import Unsquash3.Tables.Regions

/-! # The index buffers

`parse_exports_table` and `read_fragment_table` read their index into the buffer that
`alloc_index_table(indexes)` returns, and in swap mode first into the buffer of
`salloc_index_table(indexes)`, from which every entry is swapped into the index. Each allocator
keeps its buffer in two statics across calls, and `read_filesystem_tables` releases both at its
end. `alloc_index_table` lies outside this file; `Tables.alloc` models it with the same function.

* `AllocInv`: `alloc_size` is the size of the buffer, and at most `8 * 2 ^ 23`;
  `AllocInv.step`: a call with at most `2 ^ 23` indexes keeps it and leaves `AllocStep` (a call
  with `0` releases the buffer, any other leaves at least `8 * n` bytes); `allocInv_allocRun`:
  hence every history of calls keeps it;
* `parseExportsTableLogged`, `readFragmentTableLogged`: each reader run with the log of what it
  reads and writes in the buffers, on every path; `parseExportsTableLogged_fst`,
  `readFragmentTableLogged_fst`: the run returns what the reader returns;
  `ReaderSafe`: each access lies in the first `indexes` slots of a buffer that has them, and
  entry 0 is read only when there is one;
* `parseExportsTable_safe`, `readFragmentTable_safe`: each reader called above a positive gap;
* `indexAccesses_in_bounds`: hence, for every history of both allocators, every call that
  `read_filesystem_tables` makes, since it checks a strictly positive gap before either reader.
-/

namespace Unsquash3.Tables.Buffers

open Unsquash3.Format.Records Unsquash3.Tables.Super Unsquash3.Tables.Fragment Unsquash3.Tables.Load
open Unsquash3.Tables.Regions

/-! ### The allocator -/

/-- The statics after the calls `ns`, from the start of the process. -/
def allocRun (ns : List Nat) : IndexAlloc := ns.foldl sallocIndexTable IndexAlloc.init

/-- `alloc_size` is the size in bytes of the buffer `alloc_table` points to, which holds at most
`2 ^ 23` slots. -/
structure AllocInv (a : IndexAlloc) : Prop where
  size_eq : a.alloc_size = a.capacity
  capacity_le : a.capacity ≤ 8 * 2 ^ 23

/-- What a call `salloc_index_table(n)` from `a` leaves: the buffer released when `n = 0`, and
otherwise a buffer of `alloc_size` bytes, at least `8 * n` of them. -/
structure AllocStep (a : IndexAlloc) (n : Nat) : Prop where
  released : n = 0 → sallocIndexTable a n = IndexAlloc.init
  size_eq : (sallocIndexTable a n).alloc_size = (sallocIndexTable a n).capacity
  capacity_ge : 8 * n ≤ (sallocIndexTable a n).capacity

theorem allocInv_init : AllocInv IndexAlloc.init := ⟨rfl, by decide⟩

/-- **One call** keeps the invariant and does what `AllocStep` says. -/
theorem AllocInv.step {a : IndexAlloc} (h : AllocInv a) {n : Nat} (hn : n ≤ 2 ^ 23) :
    AllocStep a n ∧ AllocInv (sallocIndexTable a n) := by
  have := h.size_eq
  by_cases hc : a.alloc_size < (n : Int) * 8 ∨ (n : Int) * 8 = 0
  · have he : sallocIndexTable a n = ⟨n * 8, ((n : Int) * 8).toNat⟩ := if_pos hc
    refine ⟨⟨fun h₀ => ?_, ?_, ?_⟩, ?_, ?_⟩ <;> rw [he]
    · subst h₀; rfl
    all_goals dsimp only; omega
  · have he : sallocIndexTable a n = a := if_neg hc
    refine ⟨⟨fun h₀ => ?_, ?_, ?_⟩, ?_⟩ <;> rw [he]
    · omega
    · exact h.size_eq
    · omega
    · exact h

/-- **Every history** of calls with at most `2 ^ 23` indexes keeps the invariant. -/
theorem allocInv_foldl (ns : List Nat) (hns : ∀ n ∈ ns, n ≤ 2 ^ 23) :
    ∀ {a : IndexAlloc}, AllocInv a → AllocInv (ns.foldl sallocIndexTable a) := by
  induction ns with
  | nil => exact id
  | cons n ns ih =>
    intro a h
    exact ih (fun m hm => hns m (List.mem_cons_of_mem n hm))
      (h.step (hns n (List.mem_cons_self n ns))).2

theorem allocInv_allocRun {ns : List Nat} (hns : ∀ n ∈ ns, n ≤ 2 ^ 23) :
    AllocInv (allocRun ns) :=
  allocInv_foldl ns hns allocInv_init

/-- Both allocators keep `AllocInv`. -/
structure AllocsInv (t : Tables) : Prop where
  alloc : AllocInv t.alloc
  salloc : AllocInv t.salloc

theorem lookupBlocks3_le (sb : SuperBlock) : lookupBlocks3 sb.inodes ≤ 2 ^ 23 := by
  have := sb.inodes_lt
  simp only [lookupBlocks3, metadataSize]
  omega

theorem fragmentIndexes3_le (sb : SuperBlock) : fragmentIndexes3 sb.fragments ≤ 2 ^ 23 := by
  have := sb.fragments_lt
  rw [fragmentIndexes3_eq]
  omega

/-! ### What the readers do to the allocators -/

section
variable {sb : SuperBlock} {swap : Bool} {img : Image} {fresh : Int → UInt8} {t : Tables}
  {ts : Int}

/-- The allocator calls of a reader of `n` indexes whose length check is `c`. -/
def readerAllocs (c : Prop) [Decidable c] (swap : Bool) (n : Nat) (t : Tables) :
    IndexAlloc × IndexAlloc :=
  if c then (t.alloc, t.salloc)
  else (sallocIndexTable t.alloc n, if swap then sallocIndexTable t.salloc n else t.salloc)

theorem parseExportsTable_allocs :
    ((parseExportsTable sb swap img t ts).2.alloc, (parseExportsTable sb swap img t ts).2.salloc) =
      readerAllocs ((lookupBlockBytes3 sb.inodes : Int) ≠ ts - sb.lookup_table_start) swap
        (lookupBlocks3 sb.inodes) t := by
  unfold parseExportsTable readerAllocs
  dsimp only
  split
  · rfl
  · split <;> rfl

theorem readFragmentTable_allocs :
    ((readFragmentTable sb swap img fresh t ts).2.alloc,
        (readFragmentTable sb swap img fresh t ts).2.salloc) =
      readerAllocs ((fragmentIndexBytes3 sb.fragments : Int) ≠ ts - sb.fragment_table_start) swap
        (fragmentIndexes3 sb.fragments) t := by
  unfold readFragmentTable readerAllocs
  dsimp only
  split
  · rfl
  · split
    · rfl
    · split <;> rfl

theorem AllocsInv.of_readerAllocs {c : Prop} [Decidable c] {n : Nat} {t' : Tables}
    (h : AllocsInv t) (hn : n ≤ 2 ^ 23) (h' : (t'.alloc, t'.salloc) = readerAllocs c swap n t) :
    AllocsInv t' := by
  unfold readerAllocs at h'
  split_ifs at h' <;> obtain ⟨h₁, h₂⟩ := Prod.mk.inj h'
  · exact ⟨h₁ ▸ h.alloc, h₂ ▸ h.salloc⟩
  · exact ⟨h₁ ▸ (h.alloc.step hn).2, h₂ ▸ (h.salloc.step hn).2⟩
  · exact ⟨h₁ ▸ (h.alloc.step hn).2, h₂ ▸ h.salloc⟩

theorem parseExportsTable_allocsInv (h : AllocsInv t) :
    AllocsInv (parseExportsTable sb swap img t ts).2 :=
  h.of_readerAllocs (lookupBlocks3_le sb) parseExportsTable_allocs

/-- The id tables leave the allocators alone. -/
theorem readIdTables_allocs :
    (readIdTables sb img t).2.alloc = t.alloc ∧ (readIdTables sb img t).2.salloc = t.salloc := by
  refine Step.bind_preserves (P := fun t' => t'.alloc = t.alloc ∧ t'.salloc = t.salloc) ?_ ?_
  · unfold readGidTable
    split_ifs <;> (try split) <;> exact ⟨rfl, rfl⟩
  · intro _ t' h
    unfold readUidTable
    split_ifs <;> (try split) <;> exact h

theorem readIdTables_allocsInv (h : AllocsInv t) : AllocsInv (readIdTables sb img t).2 := by
  obtain ⟨h₁, h₂⟩ : (readIdTables sb img t).2.alloc = t.alloc ∧ _ := readIdTables_allocs
  exact ⟨h₁ ▸ h.alloc, h₂ ▸ h.salloc⟩

theorem readExportTable_allocsInv (h : AllocsInv t) :
    AllocsInv (readExportTable sb swap img t ts).2 := by
  unfold readExportTable
  split_ifs
  exacts [h, parseExportsTable_allocsInv h, h]

end

/-! ### The accesses to the buffers -/

/-- The two index buffers: the one of `alloc_index_table` and the one of `salloc_index_table`. -/
inductive Buffer
  | alloc
  | salloc
deriving DecidableEq, Repr

/-- The statics behind a buffer. -/
def Buffer.of : Buffer → Tables → IndexAlloc
  | .alloc, t => t.alloc
  | .salloc, t => t.salloc

/-- `count` bytes from byte `offset` of a buffer, read or written. -/
structure Access where
  buffer : Buffer
  offset : Nat
  count : Nat
deriving DecidableEq, Repr

/-- Entry `i` of the index: `fragment_table_index[i]`, `export_index_table[0]`. -/
def entryAccess (i : Nat) : Access := ⟨.alloc, 8 * i, 8⟩

/-- The read of the index, `read_fs_bytes(fd, start, length, buffer)`: into the swap buffer in
swap mode, else into the index. -/
def indexTarget (swap : Bool) (length : Nat) : Access :=
  ⟨if swap then .salloc else .alloc, 0, length⟩

/-- The read of the index when it succeeds; in swap mode `SQUASHFS_SWAP_LOOKUP_BLOCKS_3`
(`SQUASHFS_SWAP_FRAGMENT_INDEXES_3`) then reads entry `j` of the swap buffer and writes entry `j`
of the index for each `j < indexes`. -/
def indexReadAccesses (swap : Bool) (indexes length : Nat) : List Access :=
  indexTarget swap length ::
    if swap then (List.range indexes).flatMap fun j => [⟨.salloc, 8 * j, 8⟩, entryAccess j]
    else []

/-- **`parse_exports_table(&table_start)` with the accesses it makes** to the index buffers, in
order: none when the length check fails; the read of the index, and when it succeeds the swap of
its entries and the read of entry 0 into `*table_start`. `parseExportsTableLogged_fst`: the run
returns what `parseExportsTable` returns. -/
def parseExportsTableLogged (sb : SuperBlock) (swap : Bool) (img : Image) (t : Tables)
    (table_start : Int) : Step Int × List Access :=
  let indexes := lookupBlocks3 sb.inodes
  let length := lookupBlockBytes3 sb.inodes
  if (length : Int) ≠ table_start - sb.lookup_table_start then
    (fail "parse_exports_table: Bad inode count in super block" t, [])
  else
    let t : Tables := { t with
      alloc := sallocIndexTable t.alloc indexes
      salloc := if swap then sallocIndexTable t.salloc indexes else t.salloc }
    match img.read_fs_bytes sb.lookup_table_start length with
    | none => (fail "parse_exorts_table: failed to read export index table" t,
        [indexTarget swap length])
    | some raw => ((.ok ((decodeWords 8 swap indexes raw.1).getD 0 0).toInt, t),
        indexReadAccesses swap indexes length ++ [entryAccess 0])

/-- The rounds `is` of the block loop of `read_fragment_table`, with their accesses: round `i`
reads `fragment_table_index[i]`, and the loop returns when its block cannot be read. -/
def blockRounds (img : Image) (index : List (BitVec 64)) (bytes indexes : Nat) :
    List Nat → (Int → UInt8) → Option (Int → UInt8) × List Access
  | [], mem => (some mem, [])
  | i :: is, mem =>
    match readFragmentBlock img index bytes indexes mem i with
    | none => (none, [entryAccess i])
    | some mem' =>
      let r := blockRounds img index bytes indexes is mem'
      (r.1, entryAccess i :: r.2)

/-- **`read_fragment_table(&table_start)` with the accesses it makes** to the index buffers, in
order: none when the length check fails; the read of the index, and when it succeeds the swap of
its entries, entry `i` in each round of the block loop until a block cannot be read, and after the
loop entry 0 into `*table_start`. `readFragmentTableLogged_fst`: the run returns what
`readFragmentTable` returns. -/
def readFragmentTableLogged (sb : SuperBlock) (swap : Bool) (img : Image) (fresh : Int → UInt8)
    (t : Tables) (table_start : Int) : Step Int × List Access :=
  let bytes := fragmentBytes3 sb.fragments
  let indexes := fragmentIndexes3 sb.fragments
  let length := fragmentIndexBytes3 sb.fragments
  if (length : Int) ≠ table_start - sb.fragment_table_start then
    (fail "read_fragment_table: Bad fragment count in super block" t, [])
  else
    let t : Tables := { t with
      alloc := sallocIndexTable t.alloc indexes
      fragment_table := fresh
      salloc := if swap then sallocIndexTable t.salloc indexes else t.salloc }
    match img.read_fs_bytes sb.fragment_table_start length with
    | none => (fail "read_fragment_table: failed to read fragment table index" t,
        [indexTarget swap length])
    | some raw =>
      let index := decodeWords 8 swap indexes raw.1
      let loop := blockRounds img index bytes indexes (List.range indexes) fresh
      let read := indexReadAccesses swap indexes length ++ loop.2
      match loop.1 with
      | none => (fail "read_fragment_table: failed to read fragment table block" t, read)
      | some mem =>
        ((.ok (index.getD 0 0).toInt,
          { t with fragment_table := if swap then swapLoop sb.fragments (2 ^ 32) 0 mem else mem }),
          read ++ [entryAccess 0])

/-- **The accesses of a reader stay in the buffers** it leaves in `t`: each lies in the first
`indexes` slots, the buffer it goes to has at least that many, and entry 0 is read only when
there is one. -/
structure ReaderSafe (accesses : List Access) (indexes : Nat) (t : Tables) : Prop where
  indexes_pos : entryAccess 0 ∈ accesses → 1 ≤ indexes
  in_slots : ∀ a ∈ accesses, a.offset + a.count ≤ 8 * indexes
  in_buffer : ∀ a ∈ accesses, 8 * indexes ≤ (a.buffer.of t).capacity

theorem readerSafe_nil (indexes : Nat) (t : Tables) : ReaderSafe [] indexes t :=
  ⟨nofun, nofun, nofun⟩

/-- An access within `indexes` slots, to the swap buffer only in swap mode. -/
def Access.Within (swap : Bool) (indexes : Nat) (a : Access) : Prop :=
  a.offset + a.count ≤ 8 * indexes ∧ (a.buffer = .salloc → swap = true)

theorem entryAccess_within {swap : Bool} {indexes i : Nat} (h : i < indexes) :
    (entryAccess i).Within swap indexes :=
  ⟨by simp only [entryAccess]; omega, nofun⟩

theorem indexTarget_within (swap : Bool) (indexes : Nat) :
    (indexTarget swap (8 * indexes)).Within swap indexes :=
  ⟨by simp [indexTarget], by cases swap <;> simp [indexTarget]⟩

theorem indexReadAccesses_within {swap : Bool} {indexes : Nat} :
    ∀ a ∈ indexReadAccesses swap indexes (8 * indexes), a.Within swap indexes := by
  intro a h
  rw [indexReadAccesses, List.mem_cons] at h
  rcases h with rfl | h
  · exact indexTarget_within swap indexes
  cases swap with
  | false => simp at h
  | true =>
    simp only [if_true, List.mem_flatMap, List.mem_range, List.mem_cons, List.mem_singleton,
      List.not_mem_nil, or_false] at h
    obtain ⟨j, hj, rfl | rfl⟩ := h
    · exact ⟨by simp only; omega, fun _ => rfl⟩
    · exact entryAccess_within hj

/-- A reader of `indexes ≥ 1` entries whose accesses are within them is safe when its buffers
have room for them. -/
theorem readerSafe_of {swap : Bool} {indexes : Nat} {accesses : List Access} {t : Tables}
    (hpos : 1 ≤ indexes) (hacc : ∀ a ∈ accesses, a.Within swap indexes)
    (ha : 8 * indexes ≤ t.alloc.capacity)
    (hs : swap = true → 8 * indexes ≤ t.salloc.capacity) : ReaderSafe accesses indexes t where
  indexes_pos _ := hpos
  in_slots a h := (hacc a h).1
  in_buffer a h := by
    cases hb : a.buffer
    · exact ha
    · exact hs ((hacc a h).2 hb)

section
variable {sb : SuperBlock} {swap : Bool} {img : Image} {fresh : Int → UInt8} {t : Tables}
  {ts : Int}

/-- The buffers a reader of `n ≥ 1` indexes leaves when its length check passes have room for
them. -/
theorem readerSafe_of_readerAllocs {c : Prop} [Decidable c] {n : Nat} {t' : Tables}
    {accesses : List Access} (h : AllocsInv t) (hn : n ≤ 2 ^ 23) (hc : ¬c) (hpos : 1 ≤ n)
    (hacc : ∀ a ∈ accesses, a.Within swap n)
    (h' : (t'.alloc, t'.salloc) = readerAllocs c swap n t) : ReaderSafe accesses n t' := by
  rw [readerAllocs, if_neg hc] at h'
  obtain ⟨h₁, h₂⟩ := Prod.mk.inj h'
  refine readerSafe_of hpos hacc (h₁ ▸ (h.alloc.step hn).1.capacity_ge) fun hs => ?_
  rw [h₂, if_pos hs]
  exact (h.salloc.step hn).1.capacity_ge

/-! ### The runs of the readers -/

theorem blockRounds_fst (img : Image) (index : List (BitVec 64)) (bytes indexes : Nat) :
    ∀ (is : List Nat) (mem : Int → UInt8),
      (blockRounds img index bytes indexes is mem).1 =
        is.foldlM (readFragmentBlock img index bytes indexes) mem
  | [], _ => rfl
  | i :: is, mem => by
    rcases h : readFragmentBlock img index bytes indexes mem i with _ | mem'
    · simp [blockRounds, h]
    · simp [blockRounds, h, blockRounds_fst img index bytes indexes is mem']

/-- The whole block loop computes what `readFragmentBlocks` does. -/
theorem blockRounds_range_fst (img : Image) (index : List (BitVec 64)) (bytes indexes : Nat)
    (mem : Int → UInt8) :
    (blockRounds img index bytes indexes (List.range indexes) mem).1 =
      readFragmentBlocks img index bytes indexes mem :=
  blockRounds_fst img index bytes indexes _ mem

/-- Every round of the block loop reads the entry of its own block. -/
theorem blockRounds_snd (img : Image) (index : List (BitVec 64)) (bytes indexes : Nat) :
    ∀ (is : List Nat) (mem : Int → UInt8),
      ∀ a ∈ (blockRounds img index bytes indexes is mem).2, ∃ i ∈ is, a = entryAccess i
  | [], _ => nofun
  | i :: is, mem => by
    intro a ha
    rcases h : readFragmentBlock img index bytes indexes mem i with _ | mem' <;>
      simp only [blockRounds, h, List.mem_cons, List.mem_singleton, List.not_mem_nil,
        or_false] at ha
    · exact ⟨i, List.mem_cons_self _ _, ha⟩
    · rcases ha with rfl | ha
      · exact ⟨i, List.mem_cons_self _ _, rfl⟩
      · obtain ⟨j, hj, rfl⟩ := blockRounds_snd img index bytes indexes is mem' a ha
        exact ⟨j, List.mem_cons_of_mem _ hj, rfl⟩

/-- The index read and the block loop of `read_fragment_table` stay within its `n` slots. -/
theorem blockLoopAccesses_within (swap : Bool) (img : Image) (index : List (BitVec 64))
    (bytes n : Nat) (mem : Int → UInt8) :
    ∀ a ∈ indexReadAccesses swap n (8 * n) ++ (blockRounds img index bytes n (List.range n) mem).2,
      a.Within swap n := by
  intro a ha
  rcases List.mem_append.1 ha with ha | ha
  · exact indexReadAccesses_within a ha
  · obtain ⟨i, hi, rfl⟩ := blockRounds_snd _ _ _ _ _ _ a ha
    exact entryAccess_within (List.mem_range.1 hi)

theorem parseExportsTableLogged_fst :
    (parseExportsTableLogged sb swap img t ts).1 = parseExportsTable sb swap img t ts := by
  by_cases hlen : (lookupBlockBytes3 sb.inodes : Int) ≠ ts - sb.lookup_table_start
  · simp only [parseExportsTableLogged, parseExportsTable, if_pos hlen]
  rcases hraw : img.read_fs_bytes sb.lookup_table_start (lookupBlockBytes3 sb.inodes) with _ | raw <;>
    simp only [parseExportsTableLogged, parseExportsTable, if_neg hlen, hraw]

theorem readFragmentTableLogged_fst :
    (readFragmentTableLogged sb swap img fresh t ts).1 = readFragmentTable sb swap img fresh t ts := by
  by_cases hlen : (fragmentIndexBytes3 sb.fragments : Int) ≠ ts - sb.fragment_table_start
  · simp only [readFragmentTableLogged, readFragmentTable, if_pos hlen]
  rcases hraw : img.read_fs_bytes sb.fragment_table_start (fragmentIndexBytes3 sb.fragments) with
    _ | raw
  · simp only [readFragmentTableLogged, readFragmentTable, if_neg hlen, hraw]
  rcases hb : readFragmentBlocks img (decodeWords 8 swap (fragmentIndexes3 sb.fragments) raw.1)
    (fragmentBytes3 sb.fragments) (fragmentIndexes3 sb.fragments) fresh with _ | mem <;>
    simp only [readFragmentTableLogged, readFragmentTable, if_neg hlen, hraw, blockRounds_range_fst,
      hb]

/-- The accesses of a run of `parse_exports_table` above a positive gap: none when the length
check fails, else each within the index's `indexes ≥ 1` slots. -/
theorem parseExportsTableLogged_snd (hgap : sb.lookup_table_start < ts) :
    (parseExportsTableLogged sb swap img t ts).2 = [] ∨
      ¬ (lookupBlockBytes3 sb.inodes : Int) ≠ ts - sb.lookup_table_start ∧
      1 ≤ lookupBlocks3 sb.inodes ∧
      ∀ a ∈ (parseExportsTableLogged sb swap img t ts).2, a.Within swap (lookupBlocks3 sb.inodes) := by
  by_cases hlen : (lookupBlockBytes3 sb.inodes : Int) ≠ ts - sb.lookup_table_start
  · left
    simp only [parseExportsTableLogged, if_pos hlen]
  have hpos : 1 ≤ lookupBlocks3 sb.inodes := by rw [lookupBlockBytes3] at hlen; omega
  have hl : lookupBlockBytes3 sb.inodes = 8 * lookupBlocks3 sb.inodes := Nat.mul_comm _ _
  refine .inr ⟨hlen, hpos, fun a ha => ?_⟩
  rcases hraw : img.read_fs_bytes sb.lookup_table_start (lookupBlockBytes3 sb.inodes) with _ | raw <;>
    simp only [parseExportsTableLogged, if_neg hlen, hraw, List.mem_singleton, List.mem_append] at ha
  · rw [ha, hl]
    exact indexTarget_within swap _
  · rcases ha with ha | rfl
    · rw [hl] at ha
      exact indexReadAccesses_within a ha
    · exact entryAccess_within hpos

/-- The accesses of a run of `read_fragment_table` above a positive gap: none when the length
check fails, else each within the index's `indexes ≥ 1` slots. -/
theorem readFragmentTableLogged_snd (hgap : sb.fragment_table_start < ts) :
    (readFragmentTableLogged sb swap img fresh t ts).2 = [] ∨
      ¬ (fragmentIndexBytes3 sb.fragments : Int) ≠ ts - sb.fragment_table_start ∧
      1 ≤ fragmentIndexes3 sb.fragments ∧
      ∀ a ∈ (readFragmentTableLogged sb swap img fresh t ts).2,
        a.Within swap (fragmentIndexes3 sb.fragments) := by
  by_cases hlen : (fragmentIndexBytes3 sb.fragments : Int) ≠ ts - sb.fragment_table_start
  · left
    simp only [readFragmentTableLogged, if_pos hlen]
  have hpos : 1 ≤ fragmentIndexes3 sb.fragments := by rw [fragmentIndexBytes3] at hlen; omega
  have hl : fragmentIndexBytes3 sb.fragments = 8 * fragmentIndexes3 sb.fragments := Nat.mul_comm _ _
  refine .inr ⟨hlen, hpos, fun a ha => ?_⟩
  rcases hraw : img.read_fs_bytes sb.fragment_table_start (fragmentIndexBytes3 sb.fragments) with
    _ | raw
  · simp only [readFragmentTableLogged, if_neg hlen, hraw, List.mem_singleton] at ha
    rw [ha, hl]
    exact indexTarget_within swap _
  have hloop := blockLoopAccesses_within swap img
    (decodeWords 8 swap (fragmentIndexes3 sb.fragments) raw.1) (fragmentBytes3 sb.fragments)
    (fragmentIndexes3 sb.fragments) fresh
  rw [← hl] at hloop
  simp only [readFragmentTableLogged, if_neg hlen, hraw] at ha
  split at ha
  · exact hloop a ha
  · rcases List.mem_append.1 ha with ha | ha
    · exact hloop a ha
    · rw [List.mem_singleton.1 ha]
      exact entryAccess_within hpos

/-- **`parse_exports_table`** called above a positive gap, from buffers that keep `AllocInv`. -/
theorem parseExportsTable_safe (h : AllocsInv t) (hgap : sb.lookup_table_start < ts) :
    ReaderSafe (parseExportsTableLogged sb swap img t ts).2 (lookupBlocks3 sb.inodes)
      (parseExportsTable sb swap img t ts).2 := by
  rcases parseExportsTableLogged_snd hgap with h₀ | ⟨hlen, hpos, hw⟩
  · rw [h₀]
    exact readerSafe_nil _ _
  · exact readerSafe_of_readerAllocs h (lookupBlocks3_le sb) hlen hpos hw parseExportsTable_allocs

/-- **`read_fragment_table`** called above a positive gap, from buffers that keep `AllocInv`. -/
theorem readFragmentTable_safe (h : AllocsInv t) (hgap : sb.fragment_table_start < ts) :
    ReaderSafe (readFragmentTableLogged sb swap img fresh t ts).2 (fragmentIndexes3 sb.fragments)
      (readFragmentTable sb swap img fresh t ts).2 := by
  rcases readFragmentTableLogged_snd hgap with h₀ | ⟨hlen, hpos, hw⟩
  · rw [h₀]
    exact readerSafe_nil _ _
  · exact readerSafe_of_readerAllocs h (fragmentIndexes3_le sb) hlen hpos hw
      readFragmentTable_allocs

end

/-! ### The calls of a load -/

/-- **The index accesses of a load from `t` stay in their buffers**: every call of
`parse_exports_table` and of `read_fragment_table` that `read_filesystem_tables` makes, which it
makes only above a strictly positive gap (`lookup_table_start < table_start`,
`fragment_table_start < table_start`), with the tables the parts before it leave. -/
structure IndexAccessesSafe (sb : SuperBlock) (swap : Bool) (img : Image) (fresh : Int → UInt8)
    (t : Tables) : Prop where
  exports : ∀ ts t₁, readIdTables sb img t = (.ok ts, t₁) → sb.lookup_table_start < ts →
    (parseExportsTableLogged sb swap img t₁ ts).1 = parseExportsTable sb swap img t₁ ts ∧
      ReaderSafe (parseExportsTableLogged sb swap img t₁ ts).2 (lookupBlocks3 sb.inodes)
        (parseExportsTable sb swap img t₁ ts).2
  fragments : ∀ ts t₂,
    (readIdTables sb img t).bind (fun ts t => readExportTable sb swap img t ts) = (.ok ts, t₂) →
    sb.fragment_table_start < ts →
    (readFragmentTableLogged sb swap img fresh t₂ ts).1 = readFragmentTable sb swap img fresh t₂ ts ∧
      ReaderSafe (readFragmentTableLogged sb swap img fresh t₂ ts).2
        (fragmentIndexes3 sb.fragments) (readFragmentTable sb swap img fresh t₂ ts).2

/-- **The index buffers are large enough.** After any history `ns₁` of `alloc_index_table` and
`ns₂` of `salloc_index_table`, each call with at most `2 ^ 23` indexes leaves the state
`AllocStep` says, and every index access of the next load stays in its buffer. -/
theorem indexAccesses_in_bounds {ns₁ ns₂ : List Nat} (h₁ : ∀ n ∈ ns₁, n ≤ 2 ^ 23)
    (h₂ : ∀ n ∈ ns₂, n ≤ 2 ^ 23) (sb : SuperBlock) (swap : Bool) (img : Image)
    (fresh : Int → UInt8) (t : Tables) (ha : t.alloc = allocRun ns₁)
    (hs : t.salloc = allocRun ns₂) :
    (∀ n ≤ 2 ^ 23, AllocStep t.alloc n ∧ AllocStep t.salloc n) ∧
      IndexAccessesSafe sb swap img fresh t := by
  have hinv : AllocsInv t := ⟨ha ▸ allocInv_allocRun h₁, hs ▸ allocInv_allocRun h₂⟩
  refine ⟨fun n hn => ⟨(hinv.alloc.step hn).1, (hinv.salloc.step hn).1⟩, ⟨?_, ?_⟩⟩
  · intro ts t₁ hr hgap
    obtain rfl : t₁ = (readIdTables sb img t).2 := (congrArg Prod.snd hr).symm
    exact ⟨parseExportsTableLogged_fst, parseExportsTable_safe (readIdTables_allocsInv hinv) hgap⟩
  · intro ts t₂ hr hgap
    obtain rfl := (congrArg Prod.snd hr).symm
    exact ⟨readFragmentTableLogged_fst, readFragmentTable_safe (Step.bind_preserves (P := AllocsInv)
      (readIdTables_allocsInv hinv) fun _ _ => readExportTable_allocsInv) hgap⟩

theorem layoutImage_accesses_in_bounds :
    (∀ n ≤ 2 ^ 23, AllocStep (allocRun [1, 0]) n ∧ AllocStep emptyTables.salloc n) ∧
      IndexAccessesSafe layoutSuperBlock false layoutImage (fun _ => 0)
        { emptyTables with alloc := allocRun [1, 0] } :=
  @indexAccesses_in_bounds [1, 0] [] (by decide) (fun _ h => nomatch h) layoutSuperBlock false
    layoutImage (fun _ => 0) { emptyTables with alloc := allocRun [1, 0] } rfl rfl

end Unsquash3.Tables.Buffers

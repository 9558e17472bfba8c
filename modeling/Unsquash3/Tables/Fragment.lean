import Unsquash3.Tables.Super

/-! # The fragment table

`read_fragment_table` checks that the index of the table fills the gap up to the next table,
reads the index, reads the `indexes` metadata blocks that hold the `16 * fragments` bytes of
entries, one after the other at `8192 * i`, and in swap mode then swaps every entry in place. It
returns the first index entry as the start of the previous region. `read_fragment` looks an entry
up.

* `expectedLength`: the length block `i` must decompress to; `expectedLength_last`: for the last
  block it is `bytes % 8192`; `expectedLengths_tile_iff`: hence the blocks tile the table exactly
  when `512` does not divide `fragments`;
* `readBlock`: the length check of `read_block`;
* `swapLoop`: the swap loop with its `int` counter, and `swapLoop_eq_swapRange`: the loop swaps
  the entries at `int32 k` for `k < fragments`, which are the entries `[0, fragments)` only while
  `fragments ≤ 2 ^ 31` (`swapLoop_swaps_table`);
* `readFragmentBlocks_eq`: the block loop copies a table stored block by block to the start of the
  memory; `readFragmentBlocks_frame`: whatever the blocks hold, it writes nothing outside the
  table.
-/

namespace Unsquash3.Tables.Fragment

open Unsquash3.Format.Packing Unsquash3.Format.Records Unsquash3.Tables.Super

/-- The expected uncompressed length of block `i` of `indexes`, for a table of `bytes` bytes:
`(i + 1) != indexes ? SQUASHFS_METADATA_SIZE : bytes & (SQUASHFS_METADATA_SIZE - 1)`. -/
def expectedLength (bytes indexes i : Nat) : Nat :=
  if i + 1 ≠ indexes then metadataSize else bytes &&& (metadataSize - 1)

/-- Modelled from the spec: `read_block(fd, start, NULL, expected, dest)` reads and decompresses
one metadata block and verifies its length against a non-zero `expected`; the length it returns
is `FALSE` when it is zero. -/
def readBlock (img : Image) (start : Int) (expected : Nat) : Option (List UInt8) :=
  match img.read_block start expected with
  | none => none
  | some blk =>
    if (expected ≠ 0 ∧ blk.1.length ≠ expected) ∨ blk.1.length = 0 then none else some blk.1

/-- Block `i` of the fragment table read from `fragment_table_index[i]` and copied to byte
`8192 * i` of the table. -/
def readFragmentBlock (img : Image) (index : List (BitVec 64)) (bytes indexes : Nat)
    (mem : Int → UInt8) (i : Nat) : Option (Int → UInt8) :=
  (readBlock img (index.getD i 0).toInt (expectedLength bytes indexes i)).map
    (writeBytes mem (i * metadataSize))

/-- The block loop `for(i = 0; i < indexes; i++)` of `read_fragment_table`. -/
def readFragmentBlocks (img : Image) (index : List (BitVec 64)) (bytes indexes : Nat)
    (mem : Int → UInt8) : Option (Int → UInt8) :=
  (List.range indexes).foldlM (readFragmentBlock img index bytes indexes) mem

/-- The `int` with the bits of `x`. -/
def int32 (x : Int) : Int := x.bmod (2 ^ 32)

/-- `SQUASHFS_SWAP_FRAGMENT_ENTRY_3(&sfragment, &fragment_table[i])` and the `memcpy` back. -/
def swapEntryAt (mem : Int → UInt8) (i : Int) : Int → UInt8 :=
  writeBytes mem (16 * i) (FragmentEntry3.codec.encode false
    (FragmentEntry3.codec.decode true (readBytes mem (16 * i) 16)))

/-- The swap loop `for(i = 0; i < sBlk.s.fragments; i++)`: the `int` counter `i` is compared
after conversion to `unsigned int`, and its increment wraps (signed overflow is undefined in C;
the compiled code wraps on two's complement targets). `fuel` bounds the number of rounds:
`2 ^ 32` rounds are never all used (`swapLoop_eq_swapRange`). -/
def swapLoop (fragments : Nat) : Nat → Int → (Int → UInt8) → Int → UInt8
  | 0, _, mem => mem
  | fuel + 1, i, mem =>
    if (i % 2 ^ 32).toNat < fragments then swapLoop fragments fuel (int32 (i + 1)) (swapEntryAt mem i)
    else mem

/-- **`read_fragment_table(&table_start)`.** `fresh` is the content of the memory `malloc`
returns for the table (and of what lies around it). -/
def readFragmentTable (sb : SuperBlock) (swap : Bool) (img : Image) (fresh : Int → UInt8)
    (t : Tables) (table_start : Int) : Step Int :=
  let bytes := fragmentBytes3 sb.fragments
  let indexes := fragmentIndexes3 sb.fragments
  let length := fragmentIndexBytes3 sb.fragments
  if (length : Int) ≠ table_start - sb.fragment_table_start then
    fail "read_fragment_table: Bad fragment count in super block" t
  else
    let t : Tables := { t with
      alloc := sallocIndexTable t.alloc indexes
      fragment_table := fresh
      salloc := if swap then sallocIndexTable t.salloc indexes else t.salloc }
    match img.read_fs_bytes sb.fragment_table_start length with
    | none => fail "read_fragment_table: failed to read fragment table index" t
    | some raw =>
      let index := decodeWords 8 swap indexes raw.1
      match readFragmentBlocks img index bytes indexes fresh with
      | none => fail "read_fragment_table: failed to read fragment table block" t
      | some mem =>
        (.ok (index.getD 0 0).toInt,
          { t with fragment_table := if swap then swapLoop sb.fragments (2 ^ 32) 0 mem else mem })

/-- **`read_fragment(fragment, &start_block, &size)`**: the start and size of entry `fragment`;
`none` when the entry lies outside the table, which the C code reads all the same (through `NULL`
when there are no fragments). -/
def readFragment (mem : Int → UInt8) (fragments fragment : Nat) : Option (Int × Int) :=
  if fragment < fragments then
    let e := FragmentEntry3.codec.decode false (readBytes mem (16 * fragment) 16)
    some (e.start_block.toInt, int32 e.size.toNat)
  else none

/-! ### The expected block lengths -/

theorem land_metadataSize (n : Nat) : n &&& (metadataSize - 1) = n % 8192 :=
  Nat.and_pow_two_sub_one_eq_mod n 13

theorem expectedLength_of_lt {bytes indexes i : Nat} (h : i + 1 < indexes) :
    expectedLength bytes indexes i = 8192 := by
  rw [expectedLength, if_pos (by omega)]; rfl

theorem expectedLength_last {bytes indexes : Nat} (h : 0 < indexes) :
    expectedLength bytes indexes (indexes - 1) = bytes % 8192 := by
  rw [expectedLength, if_neg (by omega), land_metadataSize]

theorem sum_expectedLength {bytes n : Nat} :
    ((List.range (n + 1)).map (expectedLength bytes (n + 1))).sum = n * 8192 + bytes % 8192 := by
  have hlast : expectedLength bytes (n + 1) (n + 1 - 1) = bytes % 8192 :=
    expectedLength_last (Nat.succ_pos n)
  rw [Nat.succ_sub_one] at hlast
  have hinit : ∀ m ≤ n, ((List.range m).map (expectedLength bytes (n + 1))).sum = m * 8192 := by
    intro m hm
    induction m with
    | zero => rfl
    | succ m ih =>
      rw [List.range_succ, List.map_append, List.sum_append, ih (by omega),
        List.map_singleton, List.sum_singleton, expectedLength_of_lt (by omega), Nat.succ_mul]
  rw [List.range_succ, List.map_append, List.sum_append, hinit n le_rfl, List.map_singleton,
    List.sum_singleton, hlast]

/-- **When the expected lengths tile the table.** For every fragment count `1 ≤ f < 2 ^ 32` the
index length `8 * ⌈16 f / 8192⌉` fits an `int`, and every block is expected to hold between `1`
and `8192` bytes, together the `16 f` bytes of the table, exactly when `f` is not a multiple of
`512`; for a multiple the last block is expected to hold nothing. -/
theorem expectedLengths_tile_iff {f : Nat} (hf : 0 < f) (hlt : f < 2 ^ 32) :
    fragmentIndexBytes3 f < 2 ^ 31 ∧
      (((∀ i < fragmentIndexes3 f,
          1 ≤ expectedLength (fragmentBytes3 f) (fragmentIndexes3 f) i ∧
          expectedLength (fragmentBytes3 f) (fragmentIndexes3 f) i ≤ 8192) ∧
        ((List.range (fragmentIndexes3 f)).map
          (expectedLength (fragmentBytes3 f) (fragmentIndexes3 f))).sum = fragmentBytes3 f) ↔
      ¬ 512 ∣ f) := by
  have hidx := fragmentIndexes3_eq f
  have hbytes := fragmentBytes3_eq f
  have hpos := fragmentIndexes3_pos hf
  have hlast := @expectedLength_last (fragmentBytes3 f) _ hpos
  refine ⟨by simp only [fragmentIndexBytes3]; omega, ⟨fun ⟨hall, _⟩ h512 => ?_, fun h => ⟨?_, ?_⟩⟩⟩
  · have := (hall (fragmentIndexes3 f - 1) (by omega)).1
    omega
  · intro i hi
    rcases Nat.lt_or_ge (i + 1) (fragmentIndexes3 f) with hl | hl
    · rw [expectedLength_of_lt hl]; omega
    · rw [show i = fragmentIndexes3 f - 1 by omega, hlast]; omega
  · obtain ⟨n, hn⟩ : ∃ n, fragmentIndexes3 f = n + 1 := ⟨_, (Nat.succ_pred_eq_of_pos hpos).symm⟩
    rw [hn, sum_expectedLength]
    omega

theorem expectedLengths_tile_iff_one :
    0 < 1 ∧ 1 < 2 ^ 32 ∧ fragmentIndexBytes3 1 < 2 ^ 31 ∧
      (((∀ i < fragmentIndexes3 1,
          1 ≤ expectedLength (fragmentBytes3 1) (fragmentIndexes3 1) i ∧
          expectedLength (fragmentBytes3 1) (fragmentIndexes3 1) i ≤ 8192) ∧
        ((List.range (fragmentIndexes3 1)).map
          (expectedLength (fragmentBytes3 1) (fragmentIndexes3 1))).sum = fragmentBytes3 1) ↔
      ¬ 512 ∣ 1) :=
  ⟨by decide, by decide, expectedLengths_tile_iff (by decide) (by decide)⟩

/-- At `512` fragments the one block of the table is expected to hold `0` bytes, so the expected
lengths do not add up to the `8192` bytes of the table. -/
theorem expectedLengths_five_hundred_twelve :
    (List.range (fragmentIndexes3 512)).map
      (expectedLength (fragmentBytes3 512) (fragmentIndexes3 512)) = [0] := by
  decide

/-! ### The swap loop -/

theorem int32_of_lt {k : Nat} (h : k < 2 ^ 31) : int32 k = k := by
  rw [int32, Int.bmod_pos] <;> omega

theorem int32_eq_self {x : Int} (h₀ : -2 ^ 31 ≤ x) (h₁ : x < 2 ^ 31) : int32 x = x := by
  rcases le_or_lt 0 x with h | h
  · rw [int32, Int.bmod_pos] <;> omega
  · rw [int32, Int.bmod_neg] <;> omega

theorem int32_add_one (x : Int) : int32 (int32 x + 1) = int32 (x + 1) :=
  Int.bmod_add_bmod_congr

theorem toNat_int32_emod {k : Nat} (h : k < 2 ^ 32) : (int32 k % 2 ^ 32).toNat = k := by
  have h2 : (2 : Int) ^ 32 = ((2 ^ 32 : Nat) : Int) := by decide
  rw [h2, int32, Int.bmod_emod]; omega

/-- The entries at `int32 j` for `j` from `k` to `fragments - 1`, swapped in this order. -/
def swapRange (fragments k : Nat) (mem : Int → UInt8) : Int → UInt8 :=
  (List.range' k (fragments - k)).foldl (fun m (j : Nat) => swapEntryAt m (int32 j)) mem

/-- **What the swap loop does.** Round `k` of the loop swaps the entry at `int32 k`, and the loop
stops after `fragments` rounds, well within its fuel. -/
theorem swapLoop_eq_swapRange {fragments : Nat} (hf : fragments < 2 ^ 32) :
    ∀ (n k : Nat) (mem : Int → UInt8), k ≤ fragments → fragments - k ≤ n →
      swapLoop fragments n (int32 k) mem = swapRange fragments k mem
  | 0, k, mem, hk, hn => by
    rw [swapRange, show fragments - k = 0 by omega]
    rfl
  | n + 1, k, mem, hk, hn => by
    rcases Nat.lt_or_ge k fragments with hlt | hge
    · have hsucc : fragments - k = (fragments - (k + 1)) + 1 := by omega
      rw [swapLoop, if_pos (by rw [toNat_int32_emod (by omega)]; exact hlt), int32_add_one,
        swapRange, hsucc, List.range'_succ, List.foldl_cons]
      exact_mod_cast swapLoop_eq_swapRange hf n (k + 1) _ (by omega) (by omega)
    · rw [swapLoop, if_neg (by rw [toNat_int32_emod (by omega)]; omega), swapRange,
        show fragments - k = 0 by omega]
      rfl

theorem swapEntryAt_of_lt {mem : Int → UInt8} {i a : Int} (h : a < 16 * i ∨ 16 * i + 16 ≤ a) :
    swapEntryAt mem i a = mem a :=
  writeBytes_of_not_mem (by rw [Codec.length_encode]; exact h)

theorem foldl_swapEntryAt_of_lt {a : Int} :
    ∀ (js : List Nat) (mem : Int → UInt8), (∀ j ∈ js, a < 16 * int32 j ∨ 16 * int32 j + 16 ≤ a) →
      js.foldl (fun m (j : Nat) => swapEntryAt m (int32 j)) mem a = mem a
  | [], _, _ => rfl
  | j :: js, mem, h => by
    rw [List.foldl_cons,
      foldl_swapEntryAt_of_lt js _ fun j' hj' => h j' (List.mem_cons_of_mem _ hj'),
      swapEntryAt_of_lt (h j (List.mem_cons_self _ _))]

/-- **The swap loop at `2 ^ 31 + 1` fragments.** After `2 ^ 31` rounds the counter wraps to
`-2 ^ 31`: the last round swaps the 16 bytes at `fragment_table[-2 ^ 31]`, outside the table,
and entry `2 ^ 31` of the table is left as it was read. -/
theorem swapLoop_two_pow_31_succ (mem : Int → UInt8) :
    swapLoop (2 ^ 31 + 1) (2 ^ 32) 0 mem = swapEntryAt (swapRange (2 ^ 31) 0 mem) (-2 ^ 31) ∧
    readBytes (swapLoop (2 ^ 31 + 1) (2 ^ 32) 0 mem) (16 * 2 ^ 31) 16 =
      readBytes mem (16 * 2 ^ 31) 16 := by
  have hloop : swapLoop (2 ^ 31 + 1) (2 ^ 32) 0 mem =
      swapEntryAt (swapRange (2 ^ 31) 0 mem) (-2 ^ 31) := by
    have h := @swapLoop_eq_swapRange (2 ^ 31 + 1) (by decide) (2 ^ 32) 0 mem
      (by omega) (by omega)
    rw [show int32 ((0 : Nat) : Int) = 0 by decide] at h
    rw [h, swapRange, swapRange, Nat.sub_zero, Nat.sub_zero, List.range'_concat, List.foldl_append,
      List.foldl_cons, List.foldl_nil]
    congr 1
  refine ⟨hloop, ?_⟩
  simp only [readBytes]
  refine List.map_congr_left fun k hk => ?_
  replace hk : k < 16 := List.mem_range.mp hk
  rw [hloop, swapEntryAt_of_lt (by omega), swapRange]
  refine foldl_swapEntryAt_of_lt _ _ fun j hj => ?_
  rw [List.mem_range'_1] at hj
  rw [int32_of_lt (by omega)]
  omega

/-! ### What the swap loop does to each entry -/

theorem int32_of_ge {k : Nat} (h₁ : 2 ^ 31 ≤ k) (h₂ : k < 2 ^ 32) : int32 k = k - 2 ^ 32 := by
  rw [int32, Int.bmod_neg] <;> omega

/-- Entry `j < 2 ^ 31` lies outside the window of every other round `j'` of the loop: the rounds
below `2 ^ 31` swap the other entries of the table, the later ones swap below the table. -/
theorem entryWindow_disjoint {j j' i : Nat} (hj : j < 2 ^ 31) (hj' : j' < 2 ^ 32) (hne : j' ≠ j)
    (hi : i < 16) :
    16 * (j : Int) + i < 16 * int32 j' ∨ 16 * int32 j' + 16 ≤ 16 * (j : Int) + i := by
  rcases Nat.lt_or_ge j' (2 ^ 31) with h | h
  · rw [int32_of_lt h]; omega
  · rw [int32_of_ge h hj']; omega

theorem swapEntryAt_window (mem : Int → UInt8) (i : Int) :
    readBytes (swapEntryAt mem i) (16 * i) 16 =
      FragmentEntry3.codec.encode false (FragmentEntry3.codec.decode true (readBytes mem (16 * i) 16)) :=
  readBytes_writeBytes_self _ _ _

theorem swapLoop_eq_swapRange_zero {f : Nat} (hf : f < 2 ^ 32) (mem : Int → UInt8) :
    swapLoop f (2 ^ 32) 0 mem = swapRange f 0 mem := by
  have h := swapLoop_eq_swapRange hf (2 ^ 32) 0 mem (Nat.zero_le f) (by omega)
  rwa [show int32 ((0 : Nat) : Int) = 0 by decide] at h

/-- Rounds other than `j` leave entry `j < 2 ^ 31` alone. -/
theorem readBytes_foldl_swapEntryAt {j : Nat} (hj : j < 2 ^ 31) {js : List Nat}
    (hjs : ∀ j' ∈ js, j' < 2 ^ 32 ∧ j' ≠ j) (mem : Int → UInt8) :
    readBytes (js.foldl (fun m (j : Nat) => swapEntryAt m (int32 j)) mem) (16 * j) 16 =
      readBytes mem (16 * j) 16 :=
  readBytes_congr fun _ hi => foldl_swapEntryAt_of_lt _ _ fun j' h' =>
    entryWindow_disjoint hj (hjs j' h').1 (hjs j' h').2 hi

/-- Round `j` swaps entry `j`; the rounds before and after it leave the entry alone. -/
theorem swapLoop_entry {f j : Nat} (hf : f < 2 ^ 32) (hj : j < f) (hj' : j < 2 ^ 31)
    (mem : Int → UInt8) :
    readBytes (swapLoop f (2 ^ 32) 0 mem) (16 * j) 16 =
      FragmentEntry3.codec.encode false (FragmentEntry3.codec.decode true (readBytes mem (16 * j) 16)) := by
  have hsplit : f - 0 = ((f - (j + 1)) + 1) + j := by omega
  have hafter : ∀ j' ∈ List.range' (j + 1) (f - (j + 1)), j' < 2 ^ 32 ∧ j' ≠ j := fun j' h => by
    rw [List.mem_range'_1] at h; omega
  have hbefore : ∀ j' ∈ List.range' 0 j, j' < 2 ^ 32 ∧ j' ≠ j := fun j' h => by
    rw [List.mem_range'_1] at h; omega
  rw [swapLoop_eq_swapRange_zero hf, swapRange, hsplit, ← List.range'_append_1 0 j,
    List.range'_succ, Nat.zero_add, List.foldl_append, List.foldl_cons,
    readBytes_foldl_swapEntryAt hj' hafter, int32_of_lt hj', swapEntryAt_window,
    readBytes_foldl_swapEntryAt hj' hbefore]

/-- With at most `2 ^ 31` fragments every round swaps an entry of the table, so the loop leaves
every byte outside the table alone. -/
theorem swapLoop_of_not_mem {f : Nat} (hf : f ≤ 2 ^ 31) (mem : Int → UInt8) {a : Int}
    (ha : a < 0 ∨ 16 * f ≤ a) : swapLoop f (2 ^ 32) 0 mem a = mem a := by
  rw [swapLoop_eq_swapRange_zero (by omega), swapRange]
  refine foldl_swapEntryAt_of_lt _ _ fun j hj => ?_
  rw [List.mem_range'_1] at hj
  rw [int32_of_lt (by omega)]
  omega

/-- **The swap loop swaps the table in place.** With at most `2 ^ 31` fragments every entry
`j < fragments` holds its swapped self, and no byte outside the `16 * fragments` bytes of the
table changes. -/
theorem swapLoop_swaps_table {f : Nat} (hf : f ≤ 2 ^ 31) (mem : Int → UInt8) :
    (∀ j < f, readBytes (swapLoop f (2 ^ 32) 0 mem) (16 * j) 16 =
      FragmentEntry3.codec.encode false (FragmentEntry3.codec.decode true (readBytes mem (16 * j) 16))) ∧
    ∀ a : Int, (a < 0 ∨ 16 * f ≤ a) → swapLoop f (2 ^ 32) 0 mem a = mem a :=
  ⟨fun j hj => swapLoop_entry (by omega) hj (by omega) mem, fun _ => swapLoop_of_not_mem hf mem⟩

theorem swapLoop_swaps_table_one :
    (1 : Nat) ≤ 2 ^ 31 ∧
    (∀ j : Nat, j < 1 → readBytes (swapLoop 1 (2 ^ 32) 0 fun _ => 0) (16 * (j : Int)) 16 =
      FragmentEntry3.codec.encode false
        (FragmentEntry3.codec.decode true (readBytes (fun _ => 0) (16 * (j : Int)) 16))) ∧
    ∀ a : Int, (a < 0 ∨ 16 * ((1 : Nat) : Int) ≤ a) → swapLoop 1 (2 ^ 32) 0 (fun _ => 0) a = 0 :=
  ⟨by decide, @swapLoop_swaps_table 1 (by decide) fun _ => 0⟩

/-! ### The block loop -/

/-- Block `i` of a table: its bytes from `8192 * i` on, at most `8192` of them. -/
def tableBlock (table : List UInt8) (i : Nat) : List UInt8 :=
  (table.drop (i * metadataSize)).take metadataSize

theorem readBlock_of {img : Image} {s : Int} {e : Nat} {bs : List UInt8}
    (h : (img.read_block s e).map Subtype.val = some bs) (he : e ≠ 0 → bs.length = e)
    (hne : bs ≠ []) : readBlock img s e = some bs := by
  unfold readBlock
  rcases hr : img.read_block s e with _ | blk
  · rw [hr] at h; cases h
  · rw [hr, Option.map_some'] at h
    cases h
    refine if_neg fun h => ?_
    rcases h with ⟨h₁, h₂⟩ | h
    · exact h₂ (he h₁)
    · exact hne (List.eq_nil_of_length_eq_zero h)

/-- The block loop reads a table laid out in blocks: when block `i` of the index holds the
`i`-th `8192` bytes of `table`, the loop copies the whole table to the start of the memory. -/
theorem readFragmentBlocks_eq {img : Image} {index : List (BitVec 64)} {table : List UInt8}
    {indexes : Nat} (hidx : indexes = (table.length + 8191) / 8192)
    (hblocks : ∀ i < indexes, (img.read_block (index.getD i 0).toInt
      (expectedLength table.length indexes i)).map Subtype.val = some (tableBlock table i))
    (mem : Int → UInt8) :
    readFragmentBlocks img index table.length indexes mem = some (writeBytes mem 0 table) := by
  have hstep : ∀ k ≤ indexes, (List.range k).foldlM
      (readFragmentBlock img index table.length indexes) mem =
        some (writeBytes mem 0 (table.take (k * metadataSize))) := by
    intro k hk
    induction k with
    | zero => simp
    | succ k ih =>
      have hlen : (table.take (k * metadataSize)).length = k * metadataSize := by
        simp only [List.length_take, metadataSize]; omega
      have hblock : readBlock img (index.getD k 0).toInt (expectedLength table.length indexes k) =
          some (tableBlock table k) := by
        refine readBlock_of (hblocks k hk) (fun he => ?_) ?_
        · simp only [tableBlock, List.length_take, List.length_drop, metadataSize]
          rcases Nat.lt_or_ge (k + 1) indexes with hl | hl
          · rw [expectedLength_of_lt hl]; omega
          · rw [show k = indexes - 1 by omega, expectedLength_last (by omega)] at he ⊢; omega
        · rw [← List.length_pos, tableBlock, List.length_take, List.length_drop, metadataSize]; omega
      have happ := writeBytes_append mem 0 (table.take (k * metadataSize)) (tableBlock table k)
      rw [hlen, Int.zero_add, tableBlock, ← List.take_add, ← Nat.succ_mul, Nat.cast_mul] at happ
      rw [List.range_succ, List.foldlM_append, ih (by omega)]
      simp only [Option.bind_eq_bind, Option.some_bind, List.foldlM_cons, List.foldlM_nil,
        readFragmentBlock, hblock, Option.map_some']
      exact congrArg some happ
  rw [readFragmentBlocks, hstep indexes le_rfl, List.take_of_length_le]
  simp only [metadataSize]; omega

theorem readBlock_length {img : Image} {s : Int} {e : Nat} {bs : List UInt8}
    (h : readBlock img s e = some bs) : (e ≠ 0 → bs.length = e) ∧ bs.length ≤ metadataSize := by
  unfold readBlock at h
  rcases hr : img.read_block s e with _ | blk <;> rw [hr] at h
  · cases h
  · dsimp only at h
    split_ifs at h with hc
    cases h
    exact ⟨fun he => by_contra fun hne => hc (.inl ⟨he, hne⟩), blk.2⟩

/-- **Each block lands inside the table**: block `i` is copied to `8192 * i` and is as long as
expected, or at most `8192` bytes when nothing is expected; either way it ends by `bytes`. -/
theorem readFragmentBlock_frame {img : Image} {index : List (BitVec 64)} {bytes indexes i : Nat}
    {mem mem' : Int → UInt8} (hidx : indexes = (bytes + 8191) / 8192) (hi : i < indexes)
    (h : readFragmentBlock img index bytes indexes mem i = some mem') {a : Int}
    (ha : a < 0 ∨ bytes ≤ a) : mem' a = mem a := by
  obtain ⟨bs, hbs, rfl⟩ := Option.map_eq_some'.1 h
  obtain ⟨he, hle⟩ := readBlock_length hbs
  have hend : i * 8192 + bs.length ≤ bytes := by
    rcases Nat.lt_or_ge (i + 1) indexes with hl | hl
    · rw [expectedLength_of_lt hl] at he
      have := he (by decide); omega
    · rw [show i = indexes - 1 by omega, expectedLength_last (by omega)] at he
      simp only [metadataSize] at hle
      by_cases hz : bytes % 8192 = 0
      · omega
      · have := he hz; omega
  refine writeBytes_of_not_mem ?_
  simp only [metadataSize]
  omega

/-- **The block loop writes only inside the table**, whatever the image holds. -/
theorem readFragmentBlocks_frame {img : Image} {index : List (BitVec 64)} {bytes indexes : Nat}
    {mem mem' : Int → UInt8} (hidx : indexes = (bytes + 8191) / 8192)
    (h : readFragmentBlocks img index bytes indexes mem = some mem') {a : Int}
    (ha : a < 0 ∨ bytes ≤ a) : mem' a = mem a := by
  have hloop : ∀ k ≤ indexes, ∀ m, (List.range k).foldlM
      (readFragmentBlock img index bytes indexes) mem = some m → m a = mem a := by
    intro k hk
    induction k with
    | zero => intro m hm; cases hm; rfl
    | succ k ih =>
      intro m hm
      rw [List.range_succ, List.foldlM_append, Option.bind_eq_bind, Option.bind_eq_some] at hm
      obtain ⟨m₁, h₁, h₂⟩ := hm
      simp only [List.foldlM_cons, List.foldlM_nil, bind_pure] at h₂
      rw [readFragmentBlock_frame hidx (by omega) h₂ ha, ih (by omega) m₁ h₁]
  exact hloop indexes le_rfl mem' h

end Unsquash3.Tables.Fragment

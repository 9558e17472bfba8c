import Unsquash3.Inode.Read

/-! # Opening a directory

`squashfs_opendir(block_start, offset, &i)` reads the directory's inode, and unless its size is
exactly 3 (an empty directory) walks the directory table from the inode's `start` and `offset`:
while the `bytes` counter is below `size = data - 3`, it reads a header, then the `count + 1`
entries that follow it, each an entry record and a name, checking each name, and appending an
entry. The budget is checked only before each header. At the end the names must be sorted.

* `readEntry`, `readEntries`: one round and the whole of the inner loop; `readEntry_eq_ok` says
  what a round does, and `readEntries_consumed` that `bytes` counts what the loop read (`Consumed`);
* `readChunk`, `walkDirectory`: one round and the whole of the outer loop, by recursion on
  `size - bytes` (every round reads a header of 8 bytes, `readChunk_bytes_lt`);
* `opendirOf`: what happens after `read_inode`; `squashfsOpendir`.

`check_name` and `check_directory` live in `unsquashfs.c`, outside this unit: `check_directory`
is modelled from the spec, `check_name` on the reference implementation, which also rejects a NUL
byte inside the name (`checkName_eq_true`). `strdup` copies a name up to its first NUL byte
(`cName`), so it copies every name that `check_name` accepts whole.
-/

namespace Unsquash3.Dir.Open

open Unsquash3.Format.Packing Unsquash3.Format.Records Unsquash3.Io.Stream
open Unsquash3.Tables.Super Unsquash3.Tables.Fragment Unsquash3.Inode.Read

/-- `SQUASHFS_NAME_LEN`. -/
def squashfsNameLen : Nat := 256

/-- `SQUASHFS_DIR_COUNT`: the most entries a header may announce. -/
def squashfsDirCount : Nat := 256

/-- `struct dir_ent`: the name, the position of the entry's inode and its type. -/
structure DirEnt where
  name : List UInt8
  start_block : Nat
  offset : Nat
  type : Nat
deriving DecidableEq, Repr

/-- `struct dir`: the entries, their number, and the attributes of the directory's inode. -/
structure Dir where
  dir_count : Nat
  mode : Nat
  uid : Nat
  guid : Nat
  mtime : Int
  xattr : Nat
  dirs : List DirEnt
deriving DecidableEq, Repr

/-- `strdup(name)`: the name up to its first NUL byte. -/
def cName (name : List UInt8) : List UInt8 := name.takeWhile (· != 0)

/-- `check_name(name, size)` of `unsquashfs.c`, called on the NUL-terminated buffer and all `size`
bytes of the name. It is not part of this unit, and the spec names only its rules for the empty
name, `.`, `..` and `/`; modelled on the reference implementation: the string must not be empty,
`.` or `..`, and the scan `for(; size && *name != '/' && *name != '\0'; size--, name++)` must
reach the end of the `size` bytes, so no byte may be `/` or NUL. -/
def checkName (name : List UInt8) : Bool :=
  !(cName name).isEmpty && cName name != [46] && cName name != [46, 46] &&
    name.all fun b => b != 47 && b != 0

theorem cName_of_not_mem {name : List UInt8} (h : (0 : UInt8) ∉ name) : cName name = name := by
  have := @List.takeWhile_append_of_pos UInt8 (· != 0) name [] fun a ha => by
    simpa using fun e : a = 0 => h (e ▸ ha)
  simpa [cName] using this

/-- **What `check_name` accepts**: a name that is not empty, `.` or `..`, and holds no `/` and no
NUL byte, so that `strdup` copies all of it. -/
theorem checkName_eq_true {name : List UInt8} :
    checkName name = true ↔ name ≠ [] ∧ name ≠ [46] ∧ name ≠ [46, 46] ∧ (47 : UInt8) ∉ name ∧
      (0 : UInt8) ∉ name := by
  by_cases h₀ : (0 : UInt8) ∈ name
  · have : (name.all fun b => b != 47 && b != 0) = false :=
      List.all_eq_false.2 ⟨0, h₀, by decide⟩
    simp [checkName, this, h₀]
  · simp only [checkName, cName_of_not_mem h₀, Bool.and_eq_true, Bool.not_eq_true',
      List.isEmpty_eq_false, bne_iff_ne, ne_eq, List.all_eq_true, h₀, not_false_eq_true, and_true]
    constructor
    · rintro ⟨h, h₄⟩
      exact ⟨h.1.1, h.1.2, h.2, fun h₄₇ => by simpa using h₄ 47 h₄₇⟩
    · rintro ⟨h₁, h₂, h₃, h₄⟩
      exact ⟨⟨⟨h₁, h₂⟩, h₃⟩, fun b hb => ⟨fun e => h₄ (e ▸ hb), fun e => h₀ (e ▸ hb)⟩⟩

theorem cName_of_checkName {name : List UInt8} (h : checkName name = true) : cName name = name :=
  cName_of_not_mem (checkName_eq_true.1 h).2.2.2.2

/-- `strcmp(a, b) < 0`: the bytes compared as `unsigned char`, a proper prefix first. -/
def nameLt : List UInt8 → List UInt8 → Bool
  | [], [] => false
  | [], _ :: _ => true
  | _ :: _, [] => false
  | a :: as, b :: bs => a < b || (a == b && nameLt as bs)

/-- Modelled from the spec: `check_directory(dir)` accepts the entries when their names are
strictly increasing, hence free of duplicates. -/
def checkDirectory (ents : List DirEnt) : Bool :=
  (ents.zip ents.tail).all fun p => nameLt p.1.name p.2.name

/-- What `squashfs_opendir` reads: the context of `read_inode` and the directory table, as
`read_directory_data` reads it. -/
structure OpenCtx extends InodeCtx where
  directory : MetaStream

/-- The state of the walk: the position in the directory table, the `bytes` counter and the
entries built so far. -/
structure Walk where
  cur : Cursor
  bytes : Int
  ents : List DirEnt

/-- **One round of the inner loop**: an entry record (swapped in swap mode), the name of
`size + 1` bytes after it, the checks, and the entry, under the header's `start_block`. -/
def readEntry (ctx : OpenCtx) (start_block : Nat) (w : Walk) : Except Corrupt Walk :=
  match ctx.directory.readRecord DirEntry3.codec ctx.swap w.cur with
  | none => .error none
  | some (dire, c) =>
    if dire.size.toNat ≥ squashfsNameLen then
      .error (some "File system corrupted: filename too long")
    else match ctx.directory.read c (dire.size.toNat + 1) with
      | none => .error none
      | some (name, c') =>
        if checkName name then
          .ok ⟨c', w.bytes + DirEntry3.codec.layout.size + (dire.size.toNat + 1),
            w.ents ++ [⟨cName name, start_block, dire.offset.toNat, dire.type.toNat⟩]⟩
        else .error (some "File system corrupted: invalid characters in name")

/-- The inner loop `while(dir_count--)`. -/
def readEntries (ctx : OpenCtx) (start_block : Nat) : Nat → Walk → Except Corrupt Walk
  | 0, w => .ok w
  | n + 1, w => (readEntry ctx start_block w).bind (readEntries ctx start_block n)

/-- What one round of the inner loop does, checks included. -/
theorem readEntry_eq_ok {ctx : OpenCtx} {sb : Nat} {w w' : Walk} :
    readEntry ctx sb w = .ok w' ↔ ∃ dire c name c',
      ctx.directory.readRecord DirEntry3.codec ctx.swap w.cur = some (dire, c) ∧
      dire.size.toNat < squashfsNameLen ∧
      ctx.directory.read c (dire.size.toNat + 1) = some (name, c') ∧ checkName name = true ∧
      w' = ⟨c', w.bytes + DirEntry3.codec.layout.size + (dire.size.toNat + 1),
        w.ents ++ [⟨cName name, sb, dire.offset.toNat, dire.type.toNat⟩]⟩ := by
  constructor
  · intro h
    unfold readEntry at h
    rcases hr : ctx.directory.readRecord DirEntry3.codec ctx.swap w.cur with _ | ⟨dire, c⟩ <;>
      rw [hr] at h
    · cases h
    dsimp only at h
    split_ifs at h with hs
    rcases hn : ctx.directory.read c (dire.size.toNat + 1) with _ | ⟨name, c'⟩ <;> rw [hn] at h
    · cases h
    dsimp only at h
    split_ifs at h with hc
    cases h
    exact ⟨dire, c, name, c', rfl, by omega, hn, hc, rfl⟩
  · rintro ⟨dire, c, name, c', hr, hs, hn, hc, rfl⟩
    rw [readEntry, hr]
    dsimp only
    rw [if_neg (by omega), hn]
    dsimp only
    rw [if_pos hc]

/-- From `w` to `w'` the walk read `bs`, and `bytes` grew by their number. -/
def Consumed (ctx : OpenCtx) (w w' : Walk) (bs : List UInt8) : Prop :=
  ctx.directory.Holds w.cur bs w'.cur ∧ w'.bytes = w.bytes + bs.length

theorem Consumed.nil (ctx : OpenCtx) (w : Walk) : Consumed ctx w w [] :=
  ⟨MetaStream.Holds.nil _ _, by simp⟩

theorem Consumed.trans {ctx : OpenCtx} {w₁ w₂ w₃ : Walk} {bs₁ bs₂ : List UInt8}
    (h₁ : Consumed ctx w₁ w₂ bs₁) (h₂ : Consumed ctx w₂ w₃ bs₂) : Consumed ctx w₁ w₃ (bs₁ ++ bs₂) :=
  ⟨h₁.1.append h₂.1, by rw [h₂.2, h₁.2, List.length_append]; omega⟩

theorem bind_eq_ok {ε α β : Type} {x : Except ε α} {f : α → Except ε β} {b : β} :
    x.bind f = .ok b ↔ ∃ a, x = .ok a ∧ f a = .ok b := by
  cases x <;> simp [Except.bind]

section
variable {ctx : OpenCtx} {sb : Nat} {w w' : Walk}

/-- One entry reads its record and its name, at most `5 + SQUASHFS_NAME_LEN` bytes. -/
theorem readEntry_consumed (h : readEntry ctx sb w = .ok w') :
    ∃ bs, Consumed ctx w w' bs ∧ bs.length ≤ 5 + squashfsNameLen := by
  obtain ⟨dire, c, name, c', hr, hs, hn, -, rfl⟩ := readEntry_eq_ok.1 h
  obtain ⟨b₁, h₁, l₁⟩ := MetaStream.holds_of_readRecord hr
  have l₂ : name.length = dire.size.toNat + 1 := MetaStream.length_of_read hn
  have l₃ : DirEntry3.codec.layout.size = 5 := rfl
  refine ⟨b₁ ++ name, ⟨h₁.append (MetaStream.Holds.of_read hn), ?_⟩, ?_⟩ <;>
    simp only [List.length_append, l₁, l₂, l₃] <;> push_cast <;> omega

theorem readEntries_consumed : ∀ {n : Nat} {w w' : Walk}, readEntries ctx sb n w = .ok w' →
    ∃ bs, Consumed ctx w w' bs ∧ bs.length ≤ n * (5 + squashfsNameLen)
  | 0, w, _, h => by cases h; exact ⟨[], Consumed.nil ctx w, by simp⟩
  | n + 1, _, _, h => by
    obtain ⟨v, h₁, h₂⟩ := bind_eq_ok.1 h
    obtain ⟨b₁, c₁, l₁⟩ := readEntry_consumed h₁
    obtain ⟨b₂, c₂, l₂⟩ := readEntries_consumed h₂
    refine ⟨b₁ ++ b₂, c₁.trans c₂, ?_⟩
    rw [List.length_append, Nat.succ_mul]
    omega

end

/-- **One round of the outer loop**: a header (swapped in swap mode), the check of its count, and
its `count + 1` entries. -/
def readChunk (ctx : OpenCtx) (w : Walk) : Except Corrupt Walk :=
  match ctx.directory.readRecord DirHeader3.codec ctx.swap w.cur with
  | none => .error none
  | some (dirh, c) =>
    if dirh.count.toNat + 1 > squashfsDirCount then
      .error (some "File system corrupted: too many entries in directory")
    else readEntries ctx dirh.start_block.toNat (dirh.count.toNat + 1)
      ⟨c, w.bytes + DirHeader3.codec.layout.size, w.ents⟩

/-- What one round of the outer loop does, checks included. -/
theorem readChunk_eq_ok {ctx : OpenCtx} {w w' : Walk} :
    readChunk ctx w = .ok w' ↔ ∃ dirh c,
      ctx.directory.readRecord DirHeader3.codec ctx.swap w.cur = some (dirh, c) ∧
      dirh.count.toNat + 1 ≤ squashfsDirCount ∧
      readEntries ctx dirh.start_block.toNat (dirh.count.toNat + 1)
        ⟨c, w.bytes + DirHeader3.codec.layout.size, w.ents⟩ = .ok w' := by
  unfold readChunk
  rcases ctx.directory.readRecord DirHeader3.codec ctx.swap w.cur with _ | ⟨dirh, c⟩
  · simp
  dsimp only
  split_ifs with hc
  · simp [hc]
  · refine ⟨fun h => ⟨dirh, c, rfl, Nat.le_of_not_lt hc, h⟩, ?_⟩
    rintro ⟨_, _, he, -, h⟩
    cases he
    exact h

theorem readChunk_bytes_lt {ctx : OpenCtx} {w w' : Walk} (h : readChunk ctx w = .ok w') :
    w.bytes < w'.bytes := by
  obtain ⟨_, _, -, -, he⟩ := readChunk_eq_ok.1 h
  obtain ⟨_, ⟨-, hb⟩, -⟩ := readEntries_consumed he
  have : DirHeader3.codec.layout.size = 8 := rfl
  dsimp only at hb
  omega

/-- **The outer loop** `while(bytes < size)`. -/
def walkDirectory (ctx : OpenCtx) (size : Int) (w : Walk) : Except Corrupt Walk :=
  if w.bytes < size then
    match he : readChunk ctx w with
    | .error e => .error e
    | .ok w' =>
      have := readChunk_bytes_lt he
      walkDirectory ctx size w'
  else .ok w
termination_by (size - w.bytes).toNat
decreasing_by omega

theorem walkDirectory_eq (ctx : OpenCtx) (size : Int) (w : Walk) :
    walkDirectory ctx size w =
      if w.bytes < size then (readChunk ctx w).bind (walkDirectory ctx size) else .ok w := by
  rw [walkDirectory]
  split_ifs
  · split <;> simp_all [Except.bind]
  · rfl

theorem walkDirectory_of_le {ctx : OpenCtx} {size : Int} {w : Walk} (h : size ≤ w.bytes) :
    walkDirectory ctx size w = .ok w := by
  rw [walkDirectory_eq, if_neg (not_lt.2 h)]

theorem walkDirectory_of_lt {ctx : OpenCtx} {size : Int} {w : Walk} (h : w.bytes < size) :
    walkDirectory ctx size w = (readChunk ctx w).bind (walkDirectory ctx size) := by
  rw [walkDirectory_eq, if_pos h]

/-- A walk that one chunk takes from below `size` to `size` or past it. -/
theorem walkDirectory_of_readChunk {ctx : OpenCtx} {size : Int} {w w' : Walk} (h : w.bytes < size)
    (hc : readChunk ctx w = .ok w') (h' : size ≤ w'.bytes) : walkDirectory ctx size w = .ok w' := by
  rw [walkDirectory_of_lt h, hc]
  exact walkDirectory_of_le h'

theorem map_eq_ok {ε α β : Type} {x : Except ε α} {f : α → β} {b : β} :
    x.map f = .ok b ↔ ∃ a, x = .ok a ∧ f a = b := by
  cases x <;> simp [Except.map]

/-- The directory with the attributes of the inode `i` and the entries `ents`. -/
def dirOf (i : Inode) (ents : List DirEnt) : Dir :=
  ⟨ents.length, i.mode, i.uid, i.gid, i.time, i.xattr, ents⟩

/-- Where the walk of the directory of `i` starts. -/
def startWalk (ctx : OpenCtx) (i : Inode) : Walk :=
  ⟨⟨ctx.sb.directory_table_start + i.start, i.offset⟩, 0, []⟩

/-- What `squashfs_opendir` does once `read_inode` has returned `i`: the type of `i` is not looked
at. `size = (*i)->data + bytes - 3` is an `int`. -/
def opendirOf (ctx : OpenCtx) (i : Inode) : Except Corrupt Dir :=
  if i.data = 3 then .ok (dirOf i [])
  else (walkDirectory ctx (int32 (i.data - 3)) (startWalk ctx i)).bind fun w =>
    if checkDirectory w.ents then .ok (dirOf i w.ents)
    else .error (some "File system corrupted: directory has duplicate names or is unsorted")

/-- **`squashfs_opendir(block_start, offset, &i)`** from the static record `prev`: the inode
read (or the fatal error of `read_inode`), and the directory or the corruption that made it
return `NULL`. -/
def squashfsOpendir (ctx : OpenCtx) (prev : Inode) (block_start offset : Nat) :
    Except String (Inode × Except Corrupt Dir) :=
  (readInode ctx.toInodeCtx prev block_start offset).map fun i => (i, opendirOf ctx i)

theorem opendirOf_of_data_le {ctx : OpenCtx} {i : Inode} (h₀ : 0 ≤ i.data) (h₃ : i.data ≤ 3) :
    opendirOf ctx i = .ok (dirOf i []) := by
  unfold opendirOf
  split_ifs with h
  · rfl
  · have hle : int32 (i.data - 3) ≤ (startWalk ctx i).bytes := by
      rw [int32_eq_self (by omega) (by omega)]
      show i.data - 3 ≤ 0
      omega
    rw [walkDirectory_of_le hle]
    rfl

/-- What happens after `read_inode`, when the size is not 3: the walk, then `check_directory`. -/
theorem opendirOf_eq_ok {ctx : OpenCtx} {i : Inode} {d : Dir} (h₃ : i.data ≠ 3) :
    opendirOf ctx i = .ok d ↔ ∃ w, walkDirectory ctx (int32 (i.data - 3)) (startWalk ctx i) = .ok w ∧
      checkDirectory w.ents = true ∧ d = dirOf i w.ents := by
  rw [opendirOf, if_neg h₃, bind_eq_ok]
  refine exists_congr fun w => and_congr_right fun _ => ?_
  split_ifs with hc
  · simp [hc, eq_comm]
  · simp [hc]

end Unsquash3.Dir.Open

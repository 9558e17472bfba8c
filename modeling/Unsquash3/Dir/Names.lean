import Unsquash3.Dir.Walk

/-! # The names of a directory

Every directory `squashfs_opendir` returns holds names that can be used as path components, and
in `strcmp` order without repeats, whatever the directory table holds:

* `nameLt_irrefl`, `nameLt_trans`: `strcmp(a, b) < 0` is a strict order on byte strings, so the
  neighbour-by-neighbour check of `check_directory` orders the whole list
  (`pairwise_of_checkDirectory`);
* `ValidName`: not empty, not `.` or `..`, without `/` and NUL, at most `SQUASHFS_NAME_LEN` bytes;
  `validName_cName`: what `strdup` keeps of a name that passed `check_name`;
* `walkDirectory_namesValid`: every round of the walk appends only such names;
* `squashfsOpendir_names`: hence for every directory returned.
-/

namespace Unsquash3.Dir.Names

open Unsquash3.Format.Packing Unsquash3.Format.Records Unsquash3.Io.Stream
open Unsquash3.Tables.Super Unsquash3.Tables.Fragment Unsquash3.Inode.Read Unsquash3.Inode.Spec
open Unsquash3.Dir.Open Unsquash3.Dir.Walk

/-! ### `strcmp` order -/

theorem nameLt_irrefl : ∀ a : List UInt8, nameLt a a = false
  | [] => rfl
  | x :: xs => by simp [nameLt, nameLt_irrefl xs]

theorem nameLt_trans : ∀ {a b c : List UInt8}, nameLt a b = true → nameLt b c = true →
    nameLt a c = true
  | [], _ :: _, _ :: _, _, _ => rfl
  | x :: xs, y :: ys, z :: zs, h₁, h₂ => by
    simp only [nameLt, Bool.or_eq_true, Bool.and_eq_true, decide_eq_true_eq, beq_iff_eq] at h₁ h₂ ⊢
    rcases h₁ with h₁ | ⟨rfl, h₁⟩ <;> rcases h₂ with h₂ | ⟨rfl, h₂⟩
    · exact .inl (UInt8.lt_trans h₁ h₂)
    · exact .inl h₁
    · exact .inl h₂
    · exact .inr ⟨rfl, nameLt_trans h₁ h₂⟩
  | [], [], _, h, _ => by cases h
  | _, _ :: _, [], _, h => by cases h
  | _ :: _, [], _, h, _ => by cases h

instance : IsTrans (List UInt8) (fun a b => nameLt a b = true) := ⟨fun _ _ _ => nameLt_trans⟩

instance : IsIrrefl (List UInt8) (fun a b => nameLt a b = true) :=
  ⟨fun a h => by rw [nameLt_irrefl] at h; cases h⟩

theorem checkDirectory_iff_chain' : ∀ {ents : List DirEnt},
    checkDirectory ents = true ↔ ents.Chain' fun a b => nameLt a.name b.name = true
  | [] => by simp [checkDirectory]
  | [_] => by simp [checkDirectory]
  | a :: b :: rest => by
    rw [List.chain'_cons, ← checkDirectory_iff_chain']
    simp only [checkDirectory, List.tail_cons, List.zip_cons_cons, List.all_cons, Bool.and_eq_true]

/-- The names of entries `check_directory` accepts are in increasing `strcmp` order. -/
theorem pairwise_of_checkDirectory {ents : List DirEnt} (h : checkDirectory ents = true) :
    (ents.map DirEnt.name).Pairwise fun a b => nameLt a b = true :=
  List.chain'_iff_pairwise.1 ((List.chain'_map DirEnt.name).2 (checkDirectory_iff_chain'.1 h))

/-! ### The names a walk appends -/

/-- A name that can be used as a path component. -/
structure ValidName (name : List UInt8) : Prop where
  ne_nil : name ≠ []
  ne_dot : name ≠ [46]
  ne_dotdot : name ≠ [46, 46]
  no_slash : (47 : UInt8) ∉ name
  no_nul : (0 : UInt8) ∉ name
  length_le : name.length ≤ squashfsNameLen

theorem validName_cName {name : List UInt8} (hc : checkName name = true)
    (hl : name.length ≤ squashfsNameLen) : ValidName (cName name) := by
  obtain ⟨hne, hdot, hdotdot, hslash, hnul⟩ := checkName_eq_true.1 hc
  rw [cName_of_checkName hc]
  exact ⟨hne, hdot, hdotdot, hslash, hnul, hl⟩

/-- Every entry of the walk so far has a valid name. -/
def NamesValid (w : Walk) : Prop := ∀ e ∈ w.ents, ValidName e.name

section
variable {ctx : OpenCtx} {w w' : Walk}

theorem readEntry_namesValid {sb : Nat} (h : readEntry ctx sb w = .ok w') (hw : NamesValid w) :
    NamesValid w' := by
  obtain ⟨dire, c, name, c', -, hs, hn, hc, rfl⟩ := readEntry_eq_ok.1 h
  have hl : name.length = dire.size.toNat + 1 := MetaStream.length_of_read hn
  intro e he
  rcases List.mem_append.1 he with he | he
  · exact hw e he
  · rw [List.mem_singleton.1 he]
    exact validName_cName hc (by rw [hl]; exact hs)

theorem readEntries_namesValid {sb : Nat} :
    ∀ {n : Nat} {w w' : Walk}, readEntries ctx sb n w = .ok w' → NamesValid w → NamesValid w'
  | 0, _, _, h, hw => by cases h; exact hw
  | _ + 1, _, _, h, hw => by
    obtain ⟨v, h₁, h₂⟩ := bind_eq_ok.1 h
    exact readEntries_namesValid h₂ (readEntry_namesValid h₁ hw)

theorem readChunk_namesValid (h : readChunk ctx w = .ok w') (hw : NamesValid w) :
    NamesValid w' := by
  obtain ⟨_, _, -, -, he⟩ := readChunk_eq_ok.1 h
  exact readEntries_namesValid he hw

/-- **Every round of the walk keeps the names valid**, so the whole walk does. -/
theorem walkDirectory_namesValid {size : Int} (w : Walk) :
    ∀ {w' : Walk}, walkDirectory ctx size w = .ok w' → NamesValid w → NamesValid w' := by
  induction w using walkDirectory.induct ctx size with
  | case1 w hlt e he =>
    intro w' h
    rw [walkDirectory_of_lt hlt, he] at h
    cases h
  | case2 w hlt w₁ he _ ih =>
    intro w' h hw
    rw [walkDirectory_of_lt hlt, he] at h
    exact ih h (readChunk_namesValid he hw)
  | case3 w hge =>
    intro w' h hw
    rw [walkDirectory_of_le (not_lt.1 hge)] at h
    cases h
    exact hw

theorem opendirOf_names {i : Inode} {d : Dir} (h : opendirOf ctx i = .ok d) :
    (∀ e ∈ d.dirs, ValidName e.name) ∧ checkDirectory d.dirs = true ∧
      d.dir_count = d.dirs.length := by
  by_cases h₃ : i.data = 3
  · rw [opendirOf, if_pos h₃] at h
    cases h
    exact ⟨nofun, rfl, rfl⟩
  · obtain ⟨w, hw, hc, rfl⟩ := (opendirOf_eq_ok h₃).1 h
    exact ⟨walkDirectory_namesValid _ hw nofun, hc, rfl⟩

/-- **The names of every directory `squashfs_opendir` returns.** For every image, in either byte
order and from any earlier static record: every name is a valid path component, the names are
in strictly increasing `strcmp` order, so no two are equal, and `dir_count` counts them. -/
theorem squashfsOpendir_names {prev i : Inode} {block_start offset : Nat} {d : Dir}
    (h : squashfsOpendir ctx prev block_start offset = .ok (i, .ok d)) :
    (∀ e ∈ d.dirs, ValidName e.name) ∧
      (d.dirs.map DirEnt.name).Pairwise (fun a b => nameLt a b = true) ∧
      (d.dirs.map DirEnt.name).Nodup ∧ d.dir_count = d.dirs.length := by
  obtain ⟨j, -, hj⟩ := map_eq_ok.1 h
  obtain ⟨hv, hc, hn⟩ := opendirOf_names (Prod.mk.inj hj).2
  have hp := pairwise_of_checkDirectory hc
  exact ⟨hv, hp, hp.nodup, hn⟩

end

theorem overrun_names :
    squashfsOpendir overrunCtx default 0 0 =
        .ok (overrunInode, .ok (dirOf overrunInode [⟨[97], 0, 0, 2⟩])) ∧
      (∀ e ∈ (dirOf overrunInode [⟨[97], 0, 0, 2⟩]).dirs, ValidName e.name) ∧
      ((dirOf overrunInode [⟨[97], 0, 0, 2⟩]).dirs.map DirEnt.name).Pairwise
        (fun a b => nameLt a b = true) ∧
      ((dirOf overrunInode [⟨[97], 0, 0, 2⟩]).dirs.map DirEnt.name).Nodup ∧
      (dirOf overrunInode [⟨[97], 0, 0, 2⟩]).dir_count =
        (dirOf overrunInode [⟨[97], 0, 0, 2⟩]).dirs.length :=
  ⟨overrun_opens, squashfsOpendir_names overrun_opens⟩

end Unsquash3.Dir.Names

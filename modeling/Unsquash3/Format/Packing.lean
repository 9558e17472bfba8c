import Mathlib

/-! # Packed records and their two byte orders

Every on-disk structure of the version 3 format (`squashfs_compat.h`) is a packed C struct whose
members are bit fields or whole integers. On the little-endian host this development assumes, such
a struct is the number whose bits are its fields, the first field lowest, stored least significant
byte first. On a big-endian host, which is where a foreign-endian image was made, the first field
takes the highest bits and the number is stored most significant byte first; the
`SQUASHFS_SWAP_*` macros unpack that second form. So a foreign image is read as the native one
with the order of the fields and the order of the bytes both reversed (`Layout.decode` with
`swap = true`).

* `pack` / `unpack` and the round trip `unpack_pack`;
* `natLE` / `bytesLE` and `natLE_bytesLE`, `bytesLE_add` (the bytes of a sum of two aligned parts);
* `Layout`: the field widths and the `sizeof` of a struct; `Layout.decode_encode` for both byte
  orders, and `Layout.encode_append` (a struct that begins with another is encoded as that one
  followed by the rest);
* `Codec`: a record type with its layout, and the same two laws for it.
-/

namespace Unsquash3.Format.Packing

open List

/-! ### Bit fields -/

/-- The fields `vs`, of widths `ws`, packed from the least significant bit up. -/
def pack : List Nat → List Nat → Nat
  | w :: ws, v :: vs => v % 2 ^ w + 2 ^ w * pack ws vs
  | _, _ => 0

/-- The fields of widths `ws` of the packed value `n`. -/
def unpack : List Nat → Nat → List Nat
  | [], _ => []
  | w :: ws, n => n % 2 ^ w :: unpack ws (n / 2 ^ w)

/-- Every field value fits its width. -/
abbrev Fits (vs ws : List Nat) : Prop := Forall₂ (fun v w => v < 2 ^ w) vs ws

theorem unpack_pack : ∀ {vs ws : List Nat}, Fits vs ws → unpack ws (pack ws vs) = vs
  | _, _, .nil => rfl
  | v :: _, w :: _, .cons h hs => by
    have hw : 0 < 2 ^ w := Nat.two_pow_pos w
    simp only [pack, unpack, Nat.add_mul_mod_self_left, Nat.mod_mod, Nat.mod_eq_of_lt h,
      Nat.add_mul_div_left _ _ hw, Nat.div_eq_of_lt h, Nat.zero_add, unpack_pack hs]

theorem pack_lt : ∀ (ws vs : List Nat), pack ws vs < 2 ^ ws.sum
  | [], _ => by simp [pack]
  | _ :: _, [] => by simp [pack, Nat.two_pow_pos]
  | w :: ws, v :: vs => by
    have h1 := pack_lt ws vs
    have h2 : v % 2 ^ w < 2 ^ w := Nat.mod_lt _ (Nat.two_pow_pos w)
    calc v % 2 ^ w + 2 ^ w * pack ws vs < 2 ^ w * (pack ws vs + 1) := by rw [Nat.mul_succ]; omega
      _ ≤ 2 ^ w * 2 ^ ws.sum := Nat.mul_le_mul_left _ h1
      _ = 2 ^ (w :: ws).sum := by rw [List.sum_cons, Nat.pow_add]

theorem pack_append : ∀ {ws₁ vs₁ : List Nat} (ws₂ vs₂ : List Nat), vs₁.length = ws₁.length →
    pack (ws₁ ++ ws₂) (vs₁ ++ vs₂) = pack ws₁ vs₁ + 2 ^ ws₁.sum * pack ws₂ vs₂
  | [], [], ws₂, vs₂, _ => by
    show pack ws₂ vs₂ = 0 + 2 ^ 0 * pack ws₂ vs₂
    omega
  | w :: ws, v :: vs, ws₂, vs₂, h => by
    show v % 2 ^ w + 2 ^ w * pack (ws ++ ws₂) (vs ++ vs₂) = _
    rw [pack_append ws₂ vs₂ (Nat.succ.inj h), pack, List.sum_cons, Nat.pow_add, Nat.mul_add,
      Nat.mul_assoc, Nat.add_assoc]
  | [], _ :: _, _, _, h | _ :: _, [], _, _, h => nomatch h

/-! ### Bytes -/

/-- The number whose little-endian bytes are `bs`. -/
def natLE : List UInt8 → Nat
  | [] => 0
  | b :: bs => b.toNat + 256 * natLE bs

/-- The `k` low bytes of `n`, least significant first. -/
def bytesLE : Nat → Nat → List UInt8
  | 0, _ => []
  | k + 1, n => UInt8.ofNat (n % 256) :: bytesLE k (n / 256)

@[simp] theorem length_bytesLE (k n : Nat) : (bytesLE k n).length = k := by
  induction k generalizing n <;> simp [bytesLE, *]

theorem toNat_ofNat_mod (n : Nat) : (UInt8.ofNat (n % 256)).toNat = n % 256 :=
  UInt8.toNat_ofNat_of_lt (Nat.mod_lt _ (by decide))

theorem natLE_bytesLE (k n : Nat) : natLE (bytesLE k n) = n % 256 ^ k := by
  induction k generalizing n with
  | zero => simp [bytesLE, natLE, Nat.mod_one]
  | succ k ih => rw [bytesLE, natLE, ih, toNat_ofNat_mod, Nat.pow_succ', Nat.mod_mul]

theorem bytesLE_add : ∀ (a b : Nat) {x : Nat} (y : Nat), x < 256 ^ a →
    bytesLE (a + b) (x + 256 ^ a * y) = bytesLE a x ++ bytesLE b y
  | 0, b, x, y, h => by
    obtain rfl : x = 0 := by simpa using h
    simp [bytesLE]
  | a + 1, b, x, y, h => by
    have h256 : (0 : Nat) < 256 := by decide
    have hx : x / 256 < 256 ^ a := Nat.div_lt_of_lt_mul (by rwa [Nat.pow_succ'] at h)
    have hdiv : (x + 256 ^ (a + 1) * y) / 256 = x / 256 + 256 ^ a * y := by
      rw [Nat.pow_succ', Nat.mul_assoc, Nat.add_mul_div_left _ _ h256]
    have hmod : (x + 256 ^ (a + 1) * y) % 256 = x % 256 := by
      rw [Nat.pow_succ', Nat.mul_assoc, Nat.add_mul_mod_self_left]
    rw [Nat.add_right_comm, bytesLE, hdiv, hmod, bytesLE_add a b y hx, bytesLE, List.cons_append]

/-! ### Layouts -/

/-- The field widths of a packed struct, and its `sizeof`. -/
structure Layout where
  widths : List Nat
  size : Nat
  widths_sum : widths.sum = 8 * size

namespace Layout

/-- The bytes of a struct with fields `vs`; `swap` gives the foreign (big-endian) form. -/
def encode (l : Layout) (swap : Bool) (vs : List Nat) : List UInt8 :=
  if swap then (bytesLE l.size (pack l.widths.reverse vs.reverse)).reverse
  else bytesLE l.size (pack l.widths vs)

/-- The fields of the struct read from `bs`: a plain read, or the `SQUASHFS_SWAP_*` macro
applied to the bytes read when `swap` is set. -/
def decode (l : Layout) (swap : Bool) (bs : List UInt8) : List Nat :=
  if swap then (unpack l.widths.reverse (natLE bs.reverse)).reverse
  else unpack l.widths (natLE bs)

/-- Two structs one after the other, as a struct that begins with another is laid out. -/
def append (l₁ l₂ : Layout) : Layout where
  widths := l₁.widths ++ l₂.widths
  size := l₁.size + l₂.size
  widths_sum := by rw [List.sum_append, l₁.widths_sum, l₂.widths_sum, Nat.mul_add]

@[simp] theorem length_encode (l : Layout) (swap : Bool) (vs : List Nat) :
    (l.encode swap vs).length = l.size := by
  cases swap <;> simp [encode]

theorem pack_lt_size (l : Layout) (vs : List Nat) : pack l.widths vs < 256 ^ l.size := by
  have h := pack_lt l.widths vs
  rwa [l.widths_sum, Nat.pow_mul] at h

theorem pack_reverse_lt_size (l : Layout) (vs : List Nat) :
    pack l.widths.reverse vs < 256 ^ l.size := by
  have h := pack_lt l.widths.reverse vs
  rwa [List.sum_reverse, l.widths_sum, Nat.pow_mul] at h

theorem decode_encode (l : Layout) (swap : Bool) {vs : List Nat} (h : Fits vs l.widths) :
    l.decode swap (l.encode swap vs) = vs := by
  cases swap
  · simp only [decode, encode, Bool.false_eq_true, if_false, natLE_bytesLE,
      Nat.mod_eq_of_lt (l.pack_lt_size vs), unpack_pack h]
  · have hr : Fits vs.reverse l.widths.reverse := List.forall₂_reverse_iff.mpr h
    simp only [decode, encode, if_true, List.reverse_reverse, natLE_bytesLE,
      Nat.mod_eq_of_lt (l.pack_reverse_lt_size _), unpack_pack hr]

theorem encode_append (l₁ l₂ : Layout) (swap : Bool) {vs₁ vs₂ : List Nat}
    (h₁ : vs₁.length = l₁.widths.length) (h₂ : vs₂.length = l₂.widths.length) :
    (l₁.append l₂).encode swap (vs₁ ++ vs₂) = l₁.encode swap vs₁ ++ l₂.encode swap vs₂ := by
  have e₁ : 2 ^ l₁.widths.sum = 256 ^ l₁.size := by rw [l₁.widths_sum, Nat.pow_mul]
  have e₂ : 2 ^ l₂.widths.reverse.sum = 256 ^ l₂.size := by
    rw [List.sum_reverse, l₂.widths_sum, Nat.pow_mul]
  cases swap
  · simp only [encode, append, Bool.false_eq_true, if_false, pack_append _ _ h₁, e₁,
      bytesLE_add _ _ _ (l₁.pack_lt_size vs₁)]
  · simp only [encode, append, if_true, List.reverse_append,
      pack_append _ _ (by simpa using h₂ : vs₂.reverse.length = l₂.widths.reverse.length), e₂,
      Nat.add_comm l₁.size, bytesLE_add _ _ _ (l₂.pack_reverse_lt_size _)]

end Layout

/-! ### Records -/

/-- A record type read from disk as a packed struct: its layout, and its fields as numbers. -/
structure Codec (α : Type) where
  layout : Layout
  fields : α → List Nat
  ofFields : List Nat → α
  fields_fit : ∀ a, Fits (fields a) layout.widths
  ofFields_fields : ∀ a, ofFields (fields a) = a

namespace Codec

variable {α β : Type}

/-- The bytes of a record. -/
def encode (c : Codec α) (swap : Bool) (a : α) : List UInt8 := c.layout.encode swap (c.fields a)

/-- The record read from `bs`. -/
def decode (c : Codec α) (swap : Bool) (bs : List UInt8) : α := c.ofFields (c.layout.decode swap bs)

@[simp] theorem length_encode (c : Codec α) (swap : Bool) (a : α) :
    (c.encode swap a).length = c.layout.size := by simp [encode]

@[simp] theorem decode_encode (c : Codec α) (swap : Bool) (a : α) :
    c.decode swap (c.encode swap a) = a := by
  rw [decode, encode, c.layout.decode_encode swap (c.fields_fit a), c.ofFields_fields]

theorem length_fields (c : Codec α) (a : α) : (c.fields a).length = c.layout.widths.length :=
  (c.fields_fit a).length_eq

/-- A struct that begins with another: `squashfs_dir_inode_header_3` begins with the base inode
header, and so on. -/
def prod (c₁ : Codec α) (c₂ : Codec β) : Codec (α × β) where
  layout := c₁.layout.append c₂.layout
  fields p := c₁.fields p.1 ++ c₂.fields p.2
  ofFields f := (c₁.ofFields (f.take c₁.layout.widths.length),
    c₂.ofFields (f.drop c₁.layout.widths.length))
  fields_fit p := List.rel_append (c₁.fields_fit p.1) (c₂.fields_fit p.2)
  ofFields_fields p := by
    dsimp only
    rw [← c₁.length_fields p.1, List.take_left, List.drop_left, c₁.ofFields_fields,
      c₂.ofFields_fields]

theorem encode_prod (c₁ : Codec α) (c₂ : Codec β) (swap : Bool) (a : α) (b : β) :
    (c₁.prod c₂).encode swap (a, b) = c₁.encode swap a ++ c₂.encode swap b :=
  Layout.encode_append _ _ swap (c₁.length_fields a) (c₂.length_fields b)

end Codec

end Unsquash3.Format.Packing

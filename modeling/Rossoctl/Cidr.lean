import Mathlib.Algebra.Group.Nat.Defs
import Mathlib.Data.Fintype.Card
import Mathlib.Data.Fintype.EquivFin
import Mathlib.Data.List.TakeWhile

/-!
# Addresses and blocks of addresses

Addresses of both families, and the blocks that CIDR notation denotes: an address, a slash and the
number of leading bits that count (`Rossoctl.Cidr.AddressText.parseCIDR`). How the text of an
address is read is left open, except that it has no slash.

The same number of bits is everything in one family and next to nothing in the other: with 32 bits a
block has one address of the first family (`Rossoctl.Cidr.contains_v4`), and more addresses of the
second one than any list (`Rossoctl.Cidr.two_pow_le_length`).
-/

namespace Rossoctl.Cidr

open List Option

/-- An address. -/
inductive Address where
  | v4 (bits : BitVec 32)
  | v6 (bits : BitVec 128)
  deriving DecidableEq

/-- The number of bits of an address. -/
def Address.bitLen : Address → ℕ
  | v4 _ => 32
  | v6 _ => 128

/-- **A block**: the addresses that have the first `length` bits of `address`. -/
structure Block where
  address : Address
  length : ℕ
  length_le : length ≤ address.bitLen

/-- An address is in a block. -/
def Block.contains (b : Block) (a : Address) : Bool :=
  match b.address, a with
  | .v4 x, .v4 y => x >>> (32 - b.length) = y >>> (32 - b.length)
  | .v6 x, .v6 y => x >>> (128 - b.length) = y >>> (128 - b.length)
  | _, _ => false

/-- How addresses are read. -/
structure AddressText where
  parseAddr : String → Option Address
  no_slash : ∀ s a, parseAddr s = some a → '/' ∉ s.toList

/-- A decimal number. -/
def dtoi (digits : List Char) : Option ℕ :=
  if digits ≠ [] ∧ digits.all Char.isDigit then
    some (digits.foldl (fun n c => 10 * n + (c.toNat - '0'.toNat)) 0)
  else none

variable (T : AddressText)

/-- The block of an address with a text for its length. -/
def AddressText.block (addr digits : List Char) : Option Block :=
  (T.parseAddr (String.ofList addr)).bind fun a =>
    (dtoi digits).bind fun n => if h : n ≤ a.bitLen then some ⟨a, n, h⟩ else none

/-- **`net.ParseCIDR`**: what stands before the first slash is an address, what stands behind it is
the length. -/
def AddressText.parseCIDR (s : String) : Option Block :=
  match s.toList.dropWhile (· ≠ '/') with
  | [] => none
  | _ :: digits => T.block (s.toList.takeWhile (· ≠ '/')) digits

theorem bitLen_ge (a : Address) : 32 ≤ a.bitLen := by
  cases a with
  | v4 => exact le_rfl
  | v6 => exact Nat.le_of_ble_eq_true rfl

/-- **An address with `/32`**, whatever its family. -/
theorem parseCIDR_append (ip : String) :
    T.parseCIDR (ip ++ "/32") = (T.parseAddr ip).map fun a => ⟨a, 32, bitLen_ge a⟩ := by
  have hlist : (ip ++ "/32").toList = ip.toList ++ ['/', '3', '2'] := String.toList_append
  rw [AddressText.parseCIDR, hlist]
  by_cases hslash : '/' ∈ ip.toList
  · -- What stands behind the first slash has another one, and is not a number.
    have hnone : T.parseAddr ip = none :=
      eq_none_iff_forall_not_mem.mpr fun a ha => T.no_slash ip a ha hslash
    have hne : ip.toList.dropWhile (· ≠ '/') ≠ [] := fun h => by
      have := dropWhile_eq_nil_iff.mp h '/' hslash
      simp at this
    rw [hnone, map_none, dropWhile_append, if_neg (by simpa using hne)]
    cases hdrop : ip.toList.dropWhile (· ≠ '/') with
    | nil => exact absurd hdrop hne
    | cons c digits =>
      have hdtoi : dtoi (digits ++ ['/', '3', '2']) = none := by
        refine if_neg fun h => ?_
        have := all_eq_true.mp h.2 '/' (by simp)
        cases this
      rw [cons_append]
      dsimp only
      rw [AddressText.block, hdtoi]
      cases T.parseAddr _ <;> rfl
  · have hall : ∀ c ∈ ip.toList, decide (c ≠ '/') = true := fun c hc =>
      decide_eq_true fun h => hslash (h ▸ hc)
    rw [dropWhile_append_of_pos hall, takeWhile_append_of_pos hall]
    show T.block (ip.toList ++ []) ['3', '2'] = _
    rw [append_nil, AddressText.block, String.ofList_toList]
    cases T.parseAddr ip with
    | none => rfl
    | some a =>
      have hdtoi : dtoi ['3', '2'] = some 32 := by decide
      rw [bind_some, hdtoi, bind_some, dif_pos (bitLen_ge a), map_some]

theorem contains_v4 (x : BitVec 32) (a : Address) :
    (Block.mk (.v4 x) 32 le_rfl).contains a = true ↔ a = .v4 x := by
  cases a with
  | v4 y =>
    simp only [Block.contains, Nat.sub_self, BitVec.ushiftRight_zero, decide_eq_true_eq,
      Address.v4.injEq]
    exact eq_comm
  | v6 y => exact iff_of_false nofun nofun

theorem contains_v6 (x : BitVec 128) (a : Address) :
    (Block.mk (.v6 x) 32 (bitLen_ge _)).contains a = true ↔
      ∃ y, a = .v6 y ∧ y >>> 96 = x >>> 96 := by
  cases a with
  | v4 y => exact iff_of_false nofun nofun
  | v6 y =>
    simp only [Block.contains, decide_eq_true_eq, Address.v6.injEq, exists_eq_left']
    exact eq_comm

theorem le_length_of_injective {α : Type} [DecidableEq α] {n : ℕ} {f : Fin n → α}
    (hf : Function.Injective f) {l : List α} (hl : ∀ i, f i ∈ l) : n ≤ l.length := by
  have hcard : Fintype.card (Fin n) ≤ Fintype.card {a // a ∈ l.toFinset} :=
    Fintype.card_le_of_injective (fun i => ⟨f i, mem_toFinset.mpr (hl i)⟩)
      fun i j h => hf (congrArg Subtype.val h)
  rw [Fintype.card_fin, Fintype.card_coe] at hcard
  exact hcard.trans (toFinset_card_le l)

/-- **A list with all the addresses of such a block is long.** -/
theorem two_pow_le_length {x : BitVec 128} {l : List Address}
    (h : ∀ y : BitVec 128, y >>> 96 = x >>> 96 → .v6 y ∈ l) : 2 ^ 96 ≤ l.length := by
  have hx := x.isLt
  have hnat (i : Fin (2 ^ 96)) :
      (BitVec.ofNat 128 (x.toNat / 2 ^ 96 * 2 ^ 96 + i)).toNat = x.toNat / 2 ^ 96 * 2 ^ 96 + i := by
    have hi := i.isLt
    rw [BitVec.toNat_ofNat, Nat.mod_eq_of_lt]
    omega
  refine le_length_of_injective
    (f := fun i : Fin (2 ^ 96) => .v6 (BitVec.ofNat 128 (x.toNat / 2 ^ 96 * 2 ^ 96 + i))) ?_ ?_
  · intro i j hij
    have := congrArg BitVec.toNat (Address.v6.inj hij)
    rw [hnat, hnat] at this
    exact Fin.ext (by omega)
  · intro i
    refine h _ (BitVec.eq_of_toNat_eq ?_)
    have hi := i.isLt
    rw [BitVec.toNat_ushiftRight, BitVec.toNat_ushiftRight, hnat, Nat.shiftRight_eq_div_pow,
      Nat.shiftRight_eq_div_pow]
    omega

end Rossoctl.Cidr

import UserPortal.Data.WordBits

/-!
# IP addresses

The part of `Poco::Net::IPAddress` which the code uses: the families, and the order, which compares families,
then the scopes of IPv6, then the bytes from the first one on. How texts are parsed is a parameter of the
modules which do so.
-/

namespace UserPortal
open Data

/-- `Poco::Net::IPAddress`: the bytes, the first one in front, and the scope of IPv6. -/
inductive IPAddress where
  | v4 (bytes : BitVec 32)
  | v6 (bytes : BitVec 128) (scope : Nat)
  deriving DecidableEq

/-- `IPAddress::Family` -/
inductive Family where
  | ipv4
  | ipv6
  deriving DecidableEq

/-- The number of bits of the addresses of a family. -/
def Family.width : Family → Nat
  | ipv4 => 32
  | ipv6 => 128

lemma Family.le_width (f : Family) : 32 ≤ f.width := by
  cases f <;> decide

namespace IPAddress

/-- `family` -/
def family : IPAddress → Family
  | v4 _ => .ipv4
  | v6 _ _ => .ipv6

/-- `operator<=` -/
def le : IPAddress → IPAddress → Bool
  | v4 a, v4 b => a.toNat ≤ b.toNat
  | v4 _, v6 _ _ => true
  | v6 _ _, v4 _ => false
  | v6 a s, v6 b t => s < t || (s = t && a.toNat ≤ b.toNat)

/-- A bit of an address, the first one in front. -/
def bit : IPAddress → Nat → Bool
  | v4 a, i => a.getMsbD i
  | v6 a _, i => a.getMsbD i

/-- The memory behind `addr`, word by word. -/
def words : IPAddress → List (BitVec 32)
  | v4 a => [a]
  | v6 a _ => (List.range 4).map fun j => a.extractLsb' (96 - 32 * j) 32

lemma length_words (a : IPAddress) : 32 * a.words.length = a.family.width := by
  cases a <;> rfl

lemma bitAt_words (a : IPAddress) {i : Nat} (inside : i < a.family.width) : bitAt a.words i = a.bit i := by
  cases a with
  | v4 a =>
    have first : bitAt [a] (32 * 0 + i) = a.getMsbD i := bitAt_append_mul inside rfl
    rw [Nat.mul_zero, Nat.zero_add] at first
    exact first
  | v6 a scope =>
    have inside : i < 128 := inside
    obtain ⟨j, b, low, eq⟩ : ∃ j b, b < 32 ∧ i = 32 * j + b :=
      ⟨i / 32, i % 32, Nat.mod_lt _ (by decide), (Nat.div_add_mod i 32).symm⟩
    have word : ((List.range 4).map fun j => a.extractLsb' (96 - 32 * j) 32)[j]? =
        some (a.extractLsb' (96 - 32 * j) 32) := by
      rw [List.getElem?_map, List.getElem?_range (by omega)]
      rfl
    rw [eq, words, bitAt_append_mul low word, BitVec.getMsbD_extractLsb', decide_eq_true low,
      decide_eq_true (by omega), Bool.true_and, Bool.true_and]
    show _ = a.getMsbD _
    congr 1
    omega

end IPAddress

end UserPortal

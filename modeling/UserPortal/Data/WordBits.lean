import Mathlib.Tactic.Common

/-!
# Bits of words

Lists of words of 32 bits, the first bit of the first word in front, and the two ways in which their first
bits are compared: as whole words, and under a mask.
-/

namespace UserPortal.Data

variable {xs ys : List (BitVec 32)} {x y : BitVec 32} {k m : Nat}

/-- A bit of a list of words. -/
def bitAt (xs : List (BitVec 32)) (i : Nat) : Bool := (xs[i / 32]?.getD 0#32).getMsbD (i % 32)

lemma bitAt_append_mul {j i : Nat} (inside : i < 32) (word : xs[j]? = some x) :
    bitAt xs (32 * j + i) = x.getMsbD i := by
  rw [bitAt, show (32 * j + i) / 32 = j by omega, show (32 * j + i) % 32 = i by omega, word]
  rfl

/-- Two words have the same first bits when their difference vanishes under the mask. -/
lemma masked_eq_zero_iff (le : m ≤ 32) :
    (x ^^^ y) &&& (0xFFFFFFFF#32 <<< (32 - m)) = 0#32 ↔ ∀ i < m, x.getMsbD i = y.getMsbD i := by
  have bit (i : Nat) : ((x ^^^ y) &&& (0xFFFFFFFF#32 <<< (32 - m))).getMsbD i =
      ((x.getMsbD i ^^ y.getMsbD i) && decide (i < m)) := by
    have ones : 0xFFFFFFFF#32 = BitVec.allOnes 32 := rfl
    rw [BitVec.getMsbD_and, BitVec.getMsbD_xor, BitVec.getMsbD_shiftLeft, ones, BitVec.getMsbD_allOnes]
    congr 1
    apply decide_eq_decide.mpr
    omega
  refine ⟨?_, ?_⟩
  · intro eq i lt
    have zero := bit i
    rw [eq, BitVec.getMsbD_zero, decide_eq_true lt, Bool.and_true] at zero
    exact bne_eq_false_iff_eq.mp zero.symm
  · intro same
    apply BitVec.eq_of_getMsbD_eq
    intro i _
    rw [bit, BitVec.getMsbD_zero]
    by_cases lt : i < m
    · rw [same i lt, Bool.xor_self, Bool.false_and]
    · rw [decide_eq_false lt, Bool.and_false]

/-- Whole words. -/
lemma take_eq_take_iff (left : k ≤ xs.length) (right : k ≤ ys.length) :
    xs.take k = ys.take k ↔ ∀ i < 32 * k, bitAt xs i = bitAt ys i := by
  refine ⟨?_, ?_⟩
  · intro eq i lt
    have inside : i / 32 < k := by omega
    have word : xs[i / 32]? = ys[i / 32]? := by
      rw [← List.getElem?_take_of_lt inside, eq, List.getElem?_take_of_lt inside]
    rw [bitAt, bitAt, word]
  · intro same
    apply List.ext_getElem
    · rw [List.length_take_of_le left, List.length_take_of_le right]
    · intro j lt lt'
      rw [List.length_take_of_le left] at lt
      rw [List.getElem_take, List.getElem_take]
      apply BitVec.eq_of_getMsbD_eq
      intro i inside
      have bit := same (32 * j + i) (by omega)
      rwa [bitAt_append_mul inside (List.getElem?_eq_getElem (Nat.lt_of_lt_of_le lt left)),
        bitAt_append_mul inside (List.getElem?_eq_getElem (Nat.lt_of_lt_of_le lt right))] at bit

end UserPortal.Data

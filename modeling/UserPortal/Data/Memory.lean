import Mathlib.Data.Nat.Digits.Defs

/-!
# Memory of bytes

Words of eight bytes at any address, the last digit first, and `memmove`, which copies bytes as they were
before the call. `readWords` reads an array of words. Each operation is followed by what the words and the
arrays which it covers hold then, and by what it leaves alone.
-/

namespace UserPortal.Data

/-- The byte at each address. -/
abbrev Memory := Nat → UInt8

namespace Memory

variable {m m' : Memory} {a b n size : Nat} {v : UInt64}

/-- The digits of a word. -/
def digits (m : Memory) (a : Nat) : List Nat := (List.range 8).map fun i => (m (a + i)).toNat

/-- The word at an address. -/
def readWord (m : Memory) (a : Nat) : UInt64 := UInt64.ofNat (Nat.ofDigits 256 (m.digits a))

/-- Put a word at an address. -/
def writeWord (m : Memory) (a : Nat) (v : UInt64) : Memory := fun x =>
  if a ≤ x ∧ x < a + 8 then UInt8.ofNat (v.toNat / 256 ^ (x - a)) else m x

/-- Copy `n` bytes. -/
def memmove (m : Memory) (dst src n : Nat) : Memory := fun x =>
  if dst ≤ x ∧ x < dst + n then m (src + (x - dst)) else m x

/-- The first words of an array. -/
def readWords (m : Memory) (a n : Nat) : List UInt64 := (List.range n).map fun k => m.readWord (a + 8 * k)

/-- A word depends on its bytes only. -/
lemma readWord_congr (same : ∀ i < 8, m (a + i) = m' (b + i)) : m.readWord a = m'.readWord b := by
  have digits : m.digits a = m'.digits b := by
    refine List.map_congr_left fun i mem => ?_
    rw [same i (List.mem_range.mp mem)]
  rw [readWord, readWord, digits]

/-- The digits of a number, up to some length, weigh what remains of it. -/
lemma ofDigits_div_mod (base v n : Nat) :
    Nat.ofDigits base ((List.range n).map fun i => v / base ^ i % base) = v % base ^ n := by
  induction n with
  | zero => rw [Nat.pow_zero, Nat.mod_one]; rfl
  | succ n ih =>
    rw [List.range_succ, List.map_append, Nat.ofDigits_append, ih, List.length_map, List.length_range,
      List.map_singleton, Nat.ofDigits_singleton, Nat.mod_pow_succ]

lemma readWord_writeWord (m : Memory) (a : Nat) (v : UInt64) : (m.writeWord a v).readWord a = v := by
  have digits : (m.writeWord a v).digits a = (List.range 8).map fun i => v.toNat / 256 ^ i % 256 := by
    refine List.map_congr_left fun i mem => ?_
    have covered : a ≤ a + i ∧ a + i < a + 8 :=
      ⟨Nat.le_add_right a i, Nat.add_lt_add_left (List.mem_range.mp mem) a⟩
    rw [writeWord, if_pos covered, Nat.add_sub_cancel_left]
    rfl
  have fits : v.toNat % 256 ^ 8 = v.toNat := Nat.mod_eq_of_lt v.toNat_lt
  rw [readWord, digits, ofDigits_div_mod, fits, UInt64.ofNat_toNat]

lemma readWord_writeWord_of_disjoint (apart : a + 8 ≤ b ∨ b + 8 ≤ a) :
    (m.writeWord b v).readWord a = m.readWord a := by
  apply readWord_congr
  intro i lt
  rw [writeWord, if_neg]
  omega

/-- A word which a copy covers is the word of the source. -/
lemma readWord_memmove {dst src : Nat} (lower : dst ≤ a) (upper : a + 8 ≤ dst + n) :
    (m.memmove dst src n).readWord a = m.readWord (src + (a - dst)) := by
  apply readWord_congr
  intro i lt
  have covered : dst ≤ a + i ∧ a + i < dst + n := by omega
  rw [memmove, if_pos covered, Nat.sub_add_comm lower, Nat.add_assoc]

lemma readWord_memmove_of_disjoint {dst src : Nat} (apart : a + 8 ≤ dst ∨ dst + n ≤ a) :
    (m.memmove dst src n).readWord a = m.readWord a := by
  apply readWord_congr
  intro i lt
  rw [memmove, if_neg]
  omega

/-! ## Arrays -/

lemma readWords_congr (same : ∀ k < n, m'.readWord (a + 8 * k) = m.readWord (a + 8 * k)) :
    m'.readWords a n = m.readWords a n :=
  List.map_congr_left fun k mem => same k (List.mem_range.mp mem)

lemma length_readWords : (m.readWords a n).length = n := by
  rw [readWords, List.length_map, List.length_range]

/-- What an array begins with is what it holds there. -/
lemma readWord_of_readWords {α : Type} {xs : List α} {f : α → UInt64} {k : Nat}
    (held : m.readWords a xs.length = xs.map f) (lt : k < xs.length) : m.readWord (a + 8 * k) = f xs[k] := by
  have inside : k < (m.readWords a xs.length).length := by rwa [length_readWords]
  have word : (m.readWords a xs.length)[k] = m.readWord (a + 8 * k) := by
    simp only [readWords, List.getElem_map, List.getElem_range]
  rw [← word]
  simp only [held, List.getElem_map]

lemma readWords_succ : m.readWords a (n + 1) = m.readWords a n ++ [m.readWord (a + 8 * n)] := by
  rw [readWords, List.range_succ, List.map_append]
  rfl

lemma readWords_writeWord_of_disjoint (apart : a + 8 * n ≤ b ∨ b + 8 ≤ a) :
    (m.writeWord b v).readWords a n = m.readWords a n := by
  apply readWords_congr
  intro k lt
  apply readWord_writeWord_of_disjoint
  omega

/-- A word behind the first words of an array joins them. -/
lemma readWords_writeWord :
    (m.writeWord (a + 8 * n) v).readWords a (n + 1) = m.readWords a n ++ [v] := by
  rw [readWords_succ, readWord_writeWord, readWords_writeWord_of_disjoint (Or.inl le_rfl)]

lemma readWords_memmove_of_disjoint {dst src size : Nat} (apart : a + 8 * n ≤ dst ∨ dst + size ≤ a) :
    (m.memmove dst src size).readWords a n = m.readWords a n := by
  apply readWords_congr
  intro k lt
  apply readWord_memmove_of_disjoint
  omega

/-- Moving an array down by one word drops the first one. -/
lemma readWords_memmove (covered : 8 * n ≤ size) :
    (m.memmove a (a + 8) size).readWords a n = (m.readWords a (n + 1)).tail := by
  rw [readWords, readWords, List.range_succ_eq_map, List.map_cons, List.tail_cons, List.map_map]
  refine List.map_congr_left fun k mem => ?_
  have lt : k < n := List.mem_range.mp mem
  rw [readWord_memmove]
  · refine congrArg m.readWord ?_
    rw [Nat.add_sub_cancel_left, Nat.mul_succ]
    omega
  · exact Nat.le_add_right _ _
  · omega

end Memory

end UserPortal.Data

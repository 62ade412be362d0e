import Mathlib.Data.List.Basic
import Mathlib.Data.List.Induction
import Mathlib.Data.Nat.Digits.Defs

/-!
# Numerals

Numbers in a base, read from their first digit on and written from their last one. On as many digits as
are written the two are inverse.
-/

namespace UserPortal.Data

/-- The number which digits write, read from the first one on. -/
def readNumeral (b : Nat) (ds : List Nat) : Nat := ds.foldl (fun n d => b * n + d) 0

/-- Some digits of a number, from the last one on, in front of those which are written already. -/
def writeNumeral (b : Nat) : (width v : Nat) → (done : List Nat) → List Nat
  | 0, _, done => done
  | width + 1, v, done => writeNumeral b width (v / b) (v % b :: done)

variable {b : Nat} {ds : List Nat}

lemma readNumeral_concat (ds : List Nat) (d : Nat) :
    readNumeral b (ds ++ [d]) = b * readNumeral b ds + d := by
  rw [readNumeral, List.foldl_append]
  rfl

lemma readNumeral_eq_ofDigits (ds : List Nat) : readNumeral b ds = Nat.ofDigits b ds.reverse := by
  induction ds using List.reverseRecOn with
  | nil => rfl
  | append_singleton ds d ih =>
    rw [readNumeral_concat, ih, List.reverse_append, List.reverse_singleton, List.singleton_append,
      Nat.ofDigits_cons]
    exact Nat.add_comm _ _

lemma readNumeral_lt (hb : 1 < b) (digits : ∀ d ∈ ds, d < b) : readNumeral b ds < b ^ ds.length := by
  rw [readNumeral_eq_ofDigits, ← List.length_reverse]
  exact Nat.ofDigits_lt_base_pow_length hb fun d mem => digits d (List.mem_reverse.mp mem)

/-- Reading with a bound on the number, which wraps around, is reading and wrapping around once. -/
lemma foldl_mod (m : Nat) (ds : List Nat) :
    ds.foldl (fun n d => (b * n % m + d) % m) 0 = readNumeral b ds % m := by
  induction ds using List.reverseRecOn with
  | nil => rw [List.foldl_nil, readNumeral, List.foldl_nil, Nat.zero_mod]
  | append_singleton ds d ih =>
    rw [List.foldl_append, ih, readNumeral_concat, List.foldl_cons, List.foldl_nil, Nat.mod_add_mod,
      Nat.add_mod, Nat.mul_mod_mod, ← Nat.add_mod]

lemma writeNumeral_append (width v : Nat) (done : List Nat) :
    writeNumeral b width v done = writeNumeral b width v [] ++ done := by
  induction width generalizing v done with
  | zero => rfl
  | succ width ih =>
    rw [writeNumeral, ih, writeNumeral, ih _ [v % b], List.append_assoc]
    rfl

lemma writeNumeral_succ (width v : Nat) :
    writeNumeral b (width + 1) v [] = writeNumeral b width (v / b) [] ++ [v % b] := by
  rw [writeNumeral, writeNumeral_append]

lemma length_writeNumeral (width v : Nat) : (writeNumeral b width v []).length = width := by
  induction width generalizing v with
  | zero => rfl
  | succ width ih => rw [writeNumeral_succ, List.length_append, ih, List.length_singleton]

lemma lt_of_mem_writeNumeral {width v d : Nat} (hb : 0 < b) (mem : d ∈ writeNumeral b width v []) :
    d < b := by
  induction width generalizing v with
  | zero => cases mem
  | succ width ih =>
    rw [writeNumeral_succ] at mem
    rcases List.mem_append.mp mem with mem | mem
    · exact ih mem
    · rw [List.mem_singleton.mp mem]
      exact Nat.mod_lt v hb

/-- What is written reads back, as far as it fits. -/
lemma readNumeral_writeNumeral {width v : Nat} (fits : v < b ^ width) :
    readNumeral b (writeNumeral b width v []) = v := by
  induction width generalizing v with
  | zero =>
    have zero : v = 0 := Nat.lt_one_iff.mp fits
    rw [zero]
    rfl
  | succ width ih =>
    have lt : v / b < b ^ width := Nat.div_lt_of_lt_mul (Nat.pow_succ' ▸ fits)
    rw [writeNumeral_succ, readNumeral_concat, ih lt, Nat.div_add_mod]

/-- A number is written as the digits it was read from. -/
lemma writeNumeral_readNumeral (hb : 1 < b) (digits : ∀ d ∈ ds, d < b) :
    writeNumeral b ds.length (readNumeral b ds) [] = ds := by
  have same : readNumeral b (writeNumeral b ds.length (readNumeral b ds) []) = readNumeral b ds :=
    readNumeral_writeNumeral (readNumeral_lt hb digits)
  apply List.reverse_injective
  refine Nat.ofDigits_inj_of_len_eq hb ?_ ?_ ?_ ?_
  · rw [List.length_reverse, List.length_reverse, length_writeNumeral]
  · intro d mem
    exact lt_of_mem_writeNumeral (Nat.zero_lt_of_lt hb) (List.mem_reverse.mp mem)
  · intro d mem
    exact digits d (List.mem_reverse.mp mem)
  · rw [← readNumeral_eq_ofDigits, ← readNumeral_eq_ofDigits]
    exact same

end UserPortal.Data

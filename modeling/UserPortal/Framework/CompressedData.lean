import Mathlib.Algebra.Group.Nat.Defs
import Mathlib.Tactic.Common

/-!
# Compressed data

Port of `ExtractBase64CompressedData` of `src/framework/utils.cpp`, from the bytes on which the decoder of
Poco makes of the text. The loop asks `uncompress` again and again, with a buffer whose size depends on the
declared size in the first round, and on the size of the data and a growing factor in the later ones. Each
round says which elements of its buffer it addresses.

What `uncompress` and the allocation of the buffer answer is given from outside. The answers of `uncompress`
are those of its contract: a success has not written more bytes than there are in the buffer.

`extract_inside_iff`: there are at most 29 rounds, and the condition under which all of them stay inside of
their buffers.
-/

namespace UserPortal.CompressedData

/-- What `uncompress` answers to a buffer of some size. -/
inductive Uncompressed (size : UInt64) where
  /-- `Z_OK`, where `FinalSize` is the number of bytes written -/
  | ok (written : List UInt8) (fits : written.length ≤ size.toNat)
  /-- `Z_BUF_ERROR` -/
  | bufError
  /-- Another status -/
  | error

/-- What the rounds of the loop get from outside. -/
structure Environment where
  /-- Whether a vector of some bytes gets its memory -/
  allocates : (round : Nat) → (size : UInt64) → Bool
  /-- `uncompress` -/
  uncompress : (round : Nat) → (source : List UInt8) → (size : UInt64) → Uncompressed size

/-- How `ExtractBase64CompressedData` ends. -/
inductive Ending where
  /-- `true`, with the text in the buffer up to its first zero -/
  | extracted (text : List UInt8)
  /-- `false` -/
  | refused
  /-- The exception of an allocation -/
  | thrown
  deriving DecidableEq

/-- The size of the buffer of a round and the elements of it which are addressed. -/
structure Round where
  size : UInt64
  addressed : List Nat
  deriving DecidableEq

/-- A round addresses elements of its buffer only. -/
def Round.Inside (r : Round) : Prop := ∀ i ∈ r.addressed, i < r.size.toNat

/-- A buffer can be made; one without bytes asks for no memory. -/
def Environment.provides (env : Environment) (round : Nat) (size : UInt64) : Bool :=
  size = 0 || env.allocates round size

/-- The loop of `ExtractBase64CompressedData`, whose factor is below 300 when it grows. -/
def extractLoop (env : Environment) (data : List UInt8) (round factor : Nat) (maxSize : UInt64) :
    List Round × Ending :=
  if env.provides round maxSize then
    match env.uncompress round data maxSize with
    | .ok written _ =>
      -- the zero is written behind the last byte, wherever the buffer ends
      let finalSize := written.length
      ([⟨maxSize, [0, finalSize, 0]⟩], .extracted (written.takeWhile (· ≠ 0)))
    | .bufError =>
      if factor < 300 then
        let factor := factor + 10
        let maxSize' := UInt64.ofNat data.length * UInt64.ofNat factor
        let (rounds, ending) := extractLoop env data (round + 1) factor maxSize'
        (⟨maxSize, [0]⟩ :: rounds, ending)
      else ([⟨maxSize, [0]⟩], .refused)
    | .error => ([⟨maxSize, [0]⟩], .refused)
  else ([], .thrown)
termination_by 300 - factor

/-- `ExtractBase64CompressedData` -/
def extractBase64CompressedData (env : Environment) (data : List UInt8) (compressSz : UInt64) :
    List Round × Ending :=
  let factor := 20
  let maxSize :=
    if compressSz ≠ 0 then compressSz + 5000 else UInt64.ofNat data.length * UInt64.ofNat factor
  extractLoop env data 0 factor maxSize

/-- The size of the buffer of each round. -/
def roundSize (data : List UInt8) (compressSz : UInt64) : (round : Nat) → UInt64
  | 0 => if compressSz ≠ 0 then compressSz + 5000 else UInt64.ofNat data.length * UInt64.ofNat 20
  | round + 1 => UInt64.ofNat data.length * UInt64.ofNat (20 + 10 * (round + 1))

/-- The product or the sum from which the size of a round is made does not wrap around to zero. -/
def HasBytes (data : List UInt8) (compressSz : UInt64) (round : Nat) : Prop :=
  if round = 0 ∧ compressSz ≠ 0 then compressSz.toNat ≠ 2 ^ 64 - 5000
  else ¬2 ^ 64 ∣ data.length * (20 + 10 * round)

variable {env : Environment} {data : List UInt8} {compressSz : UInt64} {round : Nat}

lemma product_eq_zero_iff (m n : Nat) : UInt64.ofNat m * UInt64.ofNat n = 0 ↔ 2 ^ 64 ∣ m * n := by
  rw [← UInt64.ofNat_mul, ← UInt64.toNat_inj, UInt64.toNat_ofNat', UInt64.toNat_zero,
    Nat.dvd_iff_mod_eq_zero]

lemma roundSize_ne_zero_iff : roundSize data compressSz round ≠ 0 ↔ HasBytes data compressSz round := by
  cases round with
  | zero =>
    rw [roundSize, HasBytes]
    by_cases declared : compressSz ≠ 0
    · -- the declared size plus 5000 is a number of 64 bits
      have lt := compressSz.toNat_lt
      rw [if_pos declared, if_pos ⟨rfl, declared⟩, Ne, ← UInt64.toNat_inj, UInt64.toNat_add]
      show ¬(compressSz.toNat + 5000) % 2 ^ 64 = 0 ↔ _
      omega
    · have undeclared : ¬(0 = 0 ∧ compressSz ≠ 0) := fun both => declared both.2
      rw [if_neg declared, if_neg undeclared, Ne, product_eq_zero_iff]
  | succ round =>
    have later : ¬(round + 1 = 0 ∧ compressSz ≠ 0) := fun both => Nat.succ_ne_zero _ both.1
    rw [roundSize, HasBytes, if_neg later, Ne, product_eq_zero_iff]

/-- A round is followed by another one, as far as its factor allows: `Z_BUF_ERROR`. -/
def Retried (env : Environment) (data : List UInt8) (compressSz : UInt64) (round : Nat) : Prop :=
  env.provides round (roundSize data compressSz round) = true ∧
    env.uncompress round data (roundSize data compressSz round) = .bufError

/-- The buffer of a round has bytes, and a success does not fill it. -/
def Roomy (env : Environment) (data : List UInt8) (compressSz : UInt64) (round : Nat) : Prop :=
  env.provides round (roundSize data compressSz round) = true →
    HasBytes data compressSz round ∧
      ∀ written fits, env.uncompress round data (roundSize data compressSz round) = .ok written fits →
        written.length ≠ (roundSize data compressSz round).toNat

lemma inside_cons_iff {size : UInt64} {i : Nat} {rest : List Nat} :
    (Round.mk size (i :: rest)).Inside ↔ i < size.toNat ∧ (Round.mk size rest).Inside :=
  List.forall_mem_cons

lemma inside_first_iff {size : UInt64} : (Round.mk size [0]).Inside ↔ size ≠ 0 := by
  have zero : size = 0 ↔ size.toNat = 0 := UInt64.toNat_inj.symm
  rw [Round.Inside, List.forall_mem_singleton, Ne, zero]
  exact Nat.pos_iff_ne_zero

/-- A success addresses the element behind what is written. -/
lemma inside_success_iff {size : UInt64} {n : Nat} (fits : n ≤ size.toNat) :
    (Round.mk size [0, n, 0]).Inside ↔ size ≠ 0 ∧ n ≠ size.toNat := by
  have first : (Round.mk size [0]).Inside ↔ size ≠ 0 := inside_first_iff
  have zero : size = 0 ↔ size.toNat = 0 := UInt64.toNat_inj.symm
  rw [inside_cons_iff, inside_cons_iff, first, Ne, zero]
  omega

section Rounds

lemma roomy_iff (provided : env.provides round (roundSize data compressSz round) = true) :
    Roomy env data compressSz round ↔ roundSize data compressSz round ≠ 0 ∧
      ∀ written fits, env.uncompress round data (roundSize data compressSz round) = .ok written fits →
        written.length ≠ (roundSize data compressSz round).toNat := by
  rw [Roomy, roundSize_ne_zero_iff]
  exact forall_prop_of_true provided

/-- Without a success only the first element of the buffer counts. -/
lemma roomy_iff_of_failure (provided : env.provides round (roundSize data compressSz round) = true)
    (failure : ∀ written fits,
      env.uncompress round data (roundSize data compressSz round) ≠ .ok written fits) :
    Roomy env data compressSz round ↔ (Round.mk (roundSize data compressSz round) [0]).Inside := by
  rw [roomy_iff provided, inside_first_iff]
  exact and_iff_left fun written fits success => (failure written fits success).elim

/-- The rounds from one on. -/
abbrev roundsFrom (env : Environment) (data : List UInt8) (compressSz : UInt64) (round : Nat) :
    List Round × Ending :=
  extractLoop env data round (20 + 10 * round) (roundSize data compressSz round)

lemma roundsFrom_retried (again : Retried env data compressSz round) (more : round < 28) :
    (roundsFrom env data compressSz round).1 =
      ⟨roundSize data compressSz round, [0]⟩ :: (roundsFrom env data compressSz (round + 1)).1 := by
  have grows : 20 + 10 * round < 300 := by omega
  have factor : 20 + 10 * round + 10 = 20 + 10 * (round + 1) := by omega
  rw [roundsFrom, extractLoop, if_pos again.1, again.2]
  dsimp only
  rw [if_pos grows, factor]
  rfl

/-- The first element of the buffer of a round which is not the last one. -/
lemma roomy_iff_of_retried (again : Retried env data compressSz round) :
    Roomy env data compressSz round ↔ (Round.mk (roundSize data compressSz round) [0]).Inside := by
  apply roomy_iff_of_failure again.1
  intro written fits
  rw [again.2]
  nofun

/-- The last round is one at most, and whether it stays inside of its buffer. -/
lemma roundsFrom_last (stop : ¬(Retried env data compressSz round ∧ round < 28)) :
    (roundsFrom env data compressSz round).1.length ≤ 1 ∧
      ((∀ r ∈ (roundsFrom env data compressSz round).1, r.Inside) ↔
        Roomy env data compressSz round) := by
  by_cases provided : env.provides round (roundSize data compressSz round) = true
  · rw [roundsFrom, extractLoop, if_pos provided]
    cases answer : env.uncompress round data (roundSize data compressSz round) with
    | ok written fits =>
      refine ⟨Nat.le_refl 1, ?_⟩
      rw [List.forall_mem_singleton, roomy_iff provided, inside_success_iff fits, answer]
      apply and_congr_right
      intro _
      refine ⟨?_, ?_⟩
      · rintro ne _ _ ⟨⟩
        exact ne
      · intro all
        exact all written fits rfl
    | bufError =>
      -- the factor is 300, so the loop gives up
      have full : ¬20 + 10 * round < 300 := fun grows => stop ⟨⟨provided, answer⟩, by omega⟩
      dsimp only
      rw [if_neg full, roomy_iff_of_failure provided, List.forall_mem_singleton]
      · exact ⟨Nat.le_refl 1, Iff.rfl⟩
      · intro written fits
        rw [answer]
        nofun
    | error =>
      rw [roomy_iff_of_failure provided, List.forall_mem_singleton]
      · exact ⟨Nat.le_refl 1, Iff.rfl⟩
      · intro written fits
        rw [answer]
        nofun
  · rw [roundsFrom, extractLoop, if_neg provided]
    refine ⟨Nat.zero_le 1, ?_⟩
    exact iff_of_true (List.forall_mem_nil _) fun provided' => (provided provided').elim

/-- A round is reached when all rounds before it are followed by another one. -/
def Reached (env : Environment) (data : List UInt8) (compressSz : UInt64) (round : Nat) : Prop :=
  ∀ j < round, Retried env data compressSz j

/-- No round is reached behind the last one. -/
lemma roomy_iff_of_last (stop : ¬(Retried env data compressSz round ∧ round < 28)) (within : round ≤ 28)
    (reached : Reached env data compressSz round) :
    Roomy env data compressSz round ↔
      ∀ k, round ≤ k → k ≤ 28 → Reached env data compressSz k → Roomy env data compressSz k := by
  refine ⟨?_, ?_⟩
  · intro roomy k le within reached
    rcases Nat.eq_or_lt_of_le le with rfl | lt
    · exact roomy
    · exact (stop ⟨reached round lt, Nat.lt_of_lt_of_le lt within⟩).elim
  · intro all
    exact all round (Nat.le_refl round) within reached

/-- The rounds from one on which is reached, by induction on those which the factor still allows. -/
lemma roundsFrom_inside_iff {left : Nat} (last : round + left = 28)
    (reached : Reached env data compressSz round) :
    (roundsFrom env data compressSz round).1.length ≤ left + 1 ∧
      ((∀ r ∈ (roundsFrom env data compressSz round).1, r.Inside) ↔
        ∀ k, round ≤ k → k ≤ 28 → Reached env data compressSz k → Roomy env data compressSz k) := by
  have within : round ≤ 28 := by omega
  induction left generalizing round with
  | zero =>
    have stop : ¬(Retried env data compressSz round ∧ round < 28) := fun again => by omega
    obtain ⟨one, inside⟩ := roundsFrom_last stop
    exact ⟨one, inside.trans (roomy_iff_of_last stop within reached)⟩
  | succ left ih =>
    by_cases again : Retried env data compressSz round
    · -- the next round is reached, and the induction goes on from there
      have next : Reached env data compressSz (round + 1) := by
        intro j lt
        rcases Nat.lt_succ_iff_lt_or_eq.mp lt with lt | rfl
        · exact reached j lt
        · exact again
      obtain ⟨length, inside⟩ := ih (by omega) next (by omega)
      rw [roundsFrom_retried again (by omega), List.length_cons, List.forall_mem_cons, inside,
        ← roomy_iff_of_retried again]
      refine ⟨Nat.succ_le_succ length, ?_⟩
      refine ⟨?_, ?_⟩
      · intro ⟨roomy, all⟩ k le within reached
        rcases Nat.eq_or_lt_of_le le with rfl | lt
        · exact roomy
        · exact all k lt within reached
      · intro all
        refine ⟨all round (Nat.le_refl round) within reached, ?_⟩
        intro k le within reached
        exact all k (Nat.le_of_succ_le le) within reached
    · have stop : ¬(Retried env data compressSz round ∧ round < 28) := fun both => again both.1
      obtain ⟨one, inside⟩ := roundsFrom_last stop
      exact ⟨Nat.le_trans one (Nat.le_add_left 1 _), inside.trans (roomy_iff_of_last stop within reached)⟩

end Rounds

lemma extract_eq_roundsFrom :
    extractBase64CompressedData env data compressSz = roundsFrom env data compressSz 0 := rfl

/-- There are at most 29 rounds. All of them address elements of their buffers only when in each round which
is reached the size of the buffer is not zero, and `uncompress` does not fill the buffer. -/
theorem extract_inside_iff (env : Environment) (data : List UInt8) (compressSz : UInt64) :
    (extractBase64CompressedData env data compressSz).1.length ≤ 29 ∧
      ((∀ r ∈ (extractBase64CompressedData env data compressSz).1, r.Inside) ↔
        ∀ k ≤ 28, Reached env data compressSz k → Roomy env data compressSz k) := by
  rw [extract_eq_roundsFrom]
  have start : Reached env data compressSz 0 := fun j lt => (Nat.not_lt_zero j lt).elim
  obtain ⟨length, inside⟩ := roundsFrom_inside_iff (Nat.zero_add 28) start
  refine ⟨length, inside.trans ?_⟩
  refine ⟨?_, ?_⟩
  · intro all k
    exact all k (Nat.zero_le k)
  · intro all k _
    exact all k

/-- 240 zeros, compressed -/
def zeros : List UInt8 := [120, 156, 99, 96, 24, 89, 0, 0, 0, 240, 0, 1]

/-- `uncompress` as it answers to these data -/
def inflatesZeros : Environment where
  allocates _ _ := true
  uncompress _ source size :=
    if room : source = zeros ∧ 240 ≤ size.toNat then
      .ok (List.replicate 240 0) (Nat.le_trans (Nat.le_of_eq List.length_replicate) room.2)
    else .bufError

/-- Data which fill the buffer of the first round: the zero at their end is written behind it. -/
theorem extract_outside :
    ¬((extractBase64CompressedData inflatesZeros zeros 0).1.length ≤ 29 ∧
      ∀ r ∈ (extractBase64CompressedData inflatesZeros zeros 0).1, r.Inside) := by
  intro ⟨_, inside⟩
  have size : roundSize zeros 0 0 = 240 := by decide
  have provided : inflatesZeros.provides 0 240 = true := Bool.or_true _
  have room : zeros = zeros ∧ 240 ≤ UInt64.toNat 240 := ⟨rfl, Nat.le_refl 240⟩
  have answer : inflatesZeros.uncompress 0 zeros 240 =
      .ok (List.replicate 240 0) (Nat.le_of_eq List.length_replicate) := by
    rw [inflatesZeros]
    dsimp only
    rw [dif_pos room]
  have filled : Round.mk 240 [0, 240, 0] ∈ (extractBase64CompressedData inflatesZeros zeros 0).1 := by
    rw [extract_eq_roundsFrom, roundsFrom, size, extractLoop, if_pos provided, answer]
    exact List.mem_singleton.mpr (by rw [List.length_replicate])
  have lt : 240 < UInt64.toNat 240 := inside _ filled 240 (by decide)
  revert lt
  decide

end UserPortal.CompressedData

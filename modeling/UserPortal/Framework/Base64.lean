import UserPortal.Data.Sextets

/-!
# Base64

Port of `base64encode` and `base64decode` of `src/framework/utils.cpp`. The encoder is a loop over complete
groups of three bytes which advances its index inside the body, with a tail for one or two bytes which are
left. The decoder shifts one accumulator of 32 bits along, over all groups, and returns from the middle of
the loop where it comes to a padding. The bits which the accumulator keeps from earlier groups do not matter:
`decodeLoop_four`, `decodeLoop_one_padding` and `decodeLoop_two_paddings` say what comes out of one group.

`encode_decode`: what is encoded is what is decoded, and a padded text is encoded again as itself exactly when
its last character has no bits which belong to no byte.
-/

namespace UserPortal.Base64
open Data

/-! ## Encoding -/

/-- `kEncodeLookup` -/
def kEncodeLookup : List Char :=
  ['A', 'B', 'C', 'D', 'E', 'F', 'G', 'H', 'I', 'J', 'K', 'L', 'M', 'N', 'O', 'P', 'Q', 'R', 'S', 'T', 'U',
    'V', 'W', 'X', 'Y', 'Z', 'a', 'b', 'c', 'd', 'e', 'f', 'g', 'h', 'i', 'j', 'k', 'l', 'm', 'n', 'o', 'p',
    'q', 'r', 's', 't', 'u', 'v', 'w', 'x', 'y', 'z', '0', '1', '2', '3', '4', '5', '6', '7', '8', '9', '+',
    '/']

/-- `kPadCharacter` -/
def kPadCharacter : Char := '='

/-- An entry of the table, which ends with a zero as a C string. -/
def lookup (k : Nat) : Char := kEncodeLookup.getD k (Char.ofNat 0)

/-- `input[i]` -/
def byteAt (input : List UInt8) (i : Nat) : Nat := (input.getD i 0).toNat

/-- The loop of `base64encode`, whose index moves by three in each of its `ee` rounds. -/
def encodeLoop (input : List UInt8) : (ee i : Nat) → (encoded : List Char) → Nat × List Char
  | 0, i, encoded => (i, encoded)
  | ee + 1, i, encoded =>
    let temp := byteAt input i <<< 16
    let temp := temp + byteAt input (i + 1) <<< 8
    let temp := temp + byteAt input (i + 2)
    encodeLoop input ee (i + 3) (encoded ++ [lookup ((temp &&& 0x00FC0000) >>> 18),
      lookup ((temp &&& 0x0003F000) >>> 12), lookup ((temp &&& 0x00000FC0) >>> 6),
      lookup (temp &&& 0x0000003F)])

/-- The `switch` of `base64encode` on the number of bytes which are left. -/
def encodeTail (input : List UInt8) (left : Nat) : Nat × List Char → List Char
  | (i, encoded) =>
    match left with
    | 1 =>
      let temp := byteAt input i <<< 16
      encoded ++ [lookup ((temp &&& 0x00FC0000) >>> 18), lookup ((temp &&& 0x0003F000) >>> 12),
        kPadCharacter, kPadCharacter]
    | 2 =>
      let temp := byteAt input i <<< 16
      let temp := temp + byteAt input (i + 1) <<< 8
      encoded ++ [lookup ((temp &&& 0x00FC0000) >>> 18), lookup ((temp &&& 0x0003F000) >>> 12),
        lookup ((temp &&& 0x00000FC0) >>> 6), kPadCharacter]
    | _ => encoded

/-- `base64encode` -/
def base64encode (input : List UInt8) (size : Nat) : String :=
  String.ofList (encodeTail input (size % 3) (encodeLoop input (size / 3) 0 []))

/-- The encoding of a whole array, as `field_to_json` has it written: the length becomes a `uint32_t`. -/
def encode (b : List UInt8) : String := base64encode b (b.length % 2 ^ 32)

/-! ## Decoding -/

/-- What `base64decode` reads in a character of the alphabet. -/
def sextet (c : Char) : Option Nat :=
  if 0x41 ≤ c.toNat ∧ c.toNat ≤ 0x5A then some (c.toNat - 0x41)
  else if 0x61 ≤ c.toNat ∧ c.toNat ≤ 0x7A then some (c.toNat - 0x47)
  else if 0x30 ≤ c.toNat ∧ c.toNat ≤ 0x39 then some (c.toNat + 0x04)
  else if c.toNat = 0x2B then some 0x3E
  else if c.toNat = 0x2F then some 0x3F
  else none

/-- The byte which is appended: `x & 0x000000FF`. -/
def lowByte (x : Nat) : UInt8 := UInt8.ofNat (x &&& 0x000000FF)

/-- The `switch` of `base64decode` at a padding, on the distance to the end. -/
def decodePadding (temp : Nat) (decoded : List UInt8) : (distance : Nat) → Option (List UInt8)
  | 1 => some (decoded ++ [lowByte (temp >>> 16), lowByte (temp >>> 8)])
  -- the character behind this padding is not looked at
  | 2 => some (decoded ++ [lowByte (temp >>> 10)])
  | _ => none

/-- The loops of `base64decode` at the position `i` of a group, where `none` stands for an exception. The
length is a multiple of four, so the text ends between two groups. -/
def decodeLoop : (i temp : Nat) → (decoded : List UInt8) → (it : List Char) → Option (List UInt8)
  | _, _, decoded, [] => some decoded
  | i, temp, decoded, c :: rest =>
    -- shifted before the character is looked at, also for a padding
    let temp := temp <<< 6 % 2 ^ 32
    match sextet c with
    | some v =>
      let temp := temp ||| v
      if i = 3 then
        decodeLoop 0 temp (decoded ++ [lowByte (temp >>> 16), lowByte (temp >>> 8), lowByte temp]) rest
      else decodeLoop (i + 1) temp decoded rest
    | none =>
      if c = kPadCharacter then decodePadding temp decoded (c :: rest).length else none

/-- `base64decode` -/
def base64decode (input : String) : Option (List UInt8) :=
  if input.length % 4 ≠ 0 then none else decodeLoop 0 0 [] input.toList

/-- The bits of the last character in front of the padding which belong to no byte. -/
def unusedBits : List Char → Nat
  | _ :: c₁ :: c₂ :: c₃ :: rest =>
    if c₂ = kPadCharacter then (sextet c₁).getD 0 % 16
    else if c₃ = kPadCharacter then (sextet c₂).getD 0 % 4
    else unusedBits rest
  | _ => 0

/-- A padding in the third place of a group is followed by another one. -/
def PaddedToEnd : List Char → Prop
  | _ :: _ :: c₂ :: c₃ :: rest => (c₂ = kPadCharacter → c₃ = kPadCharacter) ∧ PaddedToEnd rest
  | _ => True

instance decidablePaddedToEnd : (cs : List Char) → Decidable (PaddedToEnd cs)
  | [] | [_] | [_, _] | [_, _, _] => isTrue trivial
  | _ :: _ :: c₂ :: c₃ :: rest =>
    have := decidablePaddedToEnd rest
    inferInstanceAs (Decidable ((c₂ = kPadCharacter → c₃ = kPadCharacter) ∧ PaddedToEnd rest))

variable {x y z : UInt8} {b : List UInt8} {c c₀ c₁ c₂ c₃ : Char} {cs : List Char} {v v₀ v₁ v₂ v₃ : Nat}

/-! ## The alphabet -/

/-- A character of the table reads as its place. -/
lemma sextet_lookup (lt : v < 64) : sextet (lookup v) = some v := by
  have all : ∀ v < 64, sextet (lookup v) = some v := by decide
  exact all v lt

/-- A character which is read is the one which stands for its number. -/
lemma lookup_of_sextet (read : sextet c = some v) : v < 64 ∧ lookup v = c := by
  have ascii : ∀ n < 128, ∀ v ∈ sextet (Char.ofNat n), v < 64 ∧ lookup v = Char.ofNat n := by decide
  by_cases small : c.toNat < 128
  · have at_c := ascii c.toNat small
    rw [Char.ofNat_toNat] at at_c
    exact at_c v read
  · -- no range of the decoder goes beyond 128
    have none : sextet c = none := by
      rw [sextet]
      repeat rw [if_neg (by omega)]
    rw [none] at read
    cases read

/-- A character is the one which stands for the high bits of its number when there are no others. -/
lemma lookup_sub_eq_iff (read : sextet c = some v) (m : Nat) : lookup (v - v % m) = c ↔ v % m = 0 := by
  obtain ⟨lt, eq⟩ := lookup_of_sextet read
  have le : v % m ≤ v := Nat.mod_le v m
  refine ⟨?_, ?_⟩
  · intro high
    have same : sextet (lookup (v - v % m)) = some (v - v % m) := sextet_lookup (by omega)
    rw [high, read] at same
    have := Option.some.inj same
    omega
  · intro zero
    rw [zero, Nat.sub_zero, eq]

/-- The padding is none of them. -/
lemma sextet_pad : sextet kPadCharacter = none := by decide

/-- A character which reads is no padding. -/
lemma ne_pad_of_sextet (read : sextet c = some v) : c ≠ kPadCharacter := by
  rintro rfl
  rw [sextet_pad] at read
  cases read

/-! ## Bits -/

/-- Six bits out of the accumulator of the encoder. -/
lemma mask_shift (t k : Nat) : (t &&& 0x3F <<< k) >>> k = t / 2 ^ k % 64 := by
  have mask : (0x3F <<< k) >>> k = 2 ^ 6 - 1 := Nat.shiftLeft_shiftRight _ _
  rw [Nat.shiftRight_and_distrib, mask, Nat.and_two_pow_sub_one_eq_mod, Nat.shiftRight_eq_div_pow]

/-- The low byte of a number is its remainder. -/
lemma lowByte_eq (t : Nat) : lowByte t = UInt8.ofNat (t % 256) := by
  rw [lowByte, show 0x000000FF = 2 ^ 8 - 1 from rfl, Nat.and_two_pow_sub_one_eq_mod]

/-- One round of the decoder keeps the low bits of its accumulator. -/
lemma push_eq (t : Nat) (lt : v < 64) : t <<< 6 % 2 ^ 32 ||| v = t % 2 ^ 26 * 64 + v := by
  have shifted : t <<< 6 % 2 ^ 32 = (t % 2 ^ 26) <<< 6 := by
    rw [Nat.shiftLeft_eq, Nat.shiftLeft_eq]
    omega
  rw [shifted, ← Nat.shiftLeft_add_eq_or_of_lt lt, Nat.shiftLeft_eq]

/-! ## What the encoder writes -/

/-- The encoding as a recursion over the array. -/
def encodeAll : List UInt8 → List Char
  | x :: y :: z :: rest =>
    lookup (firstSextet x) :: lookup (secondSextet x y) :: lookup (thirdSextet y z) ::
      lookup (fourthSextet z) :: encodeAll rest
  | [x, y] =>
    [lookup (firstSextet x), lookup (secondSextet x y), lookup (thirdSextet y 0), kPadCharacter]
  | [x] => [lookup (firstSextet x), lookup (secondSextet x 0), kPadCharacter, kPadCharacter]
  | [] => []

/-- The accumulator of the encoder for a group, where a missing byte is zero. -/
def group (x y z : UInt8) : Nat := x.toNat <<< 16 + y.toNat <<< 8 + z.toNat

/-- Three bytes as one number. -/
lemma group_eq : group x y z = x.toNat * 65536 + y.toNat * 256 + z.toNat := by
  rw [group, Nat.shiftLeft_eq, Nat.shiftLeft_eq]

/-- Two bytes are a group whose last byte is 0. -/
lemma group_two : x.toNat <<< 16 + y.toNat <<< 8 = group x y 0 := (Nat.add_zero _).symm

/-- One byte is a group whose other bytes are 0. -/
lemma group_one : x.toNat <<< 16 = group x 0 0 := by
  rw [← group_two, UInt8.toNat_zero, Nat.zero_shiftLeft, Nat.add_zero]

/-- The first mask cuts out the first sextet. -/
lemma group_first : (group x y z &&& 0x00FC0000) >>> 18 = firstSextet x := by
  have := x.toNat_lt
  have := y.toNat_lt
  have := z.toNat_lt
  rw [show 0x00FC0000 = 0x3F <<< 18 from rfl, mask_shift, group_eq, firstSextet]
  omega

/-- The second one the second sextet. -/
lemma group_second : (group x y z &&& 0x0003F000) >>> 12 = secondSextet x y := by
  have := y.toNat_lt
  have := z.toNat_lt
  rw [show 0x0003F000 = 0x3F <<< 12 from rfl, mask_shift, group_eq, secondSextet]
  omega

/-- The third one the third sextet. -/
lemma group_third : (group x y z &&& 0x00000FC0) >>> 6 = thirdSextet y z := by
  have := z.toNat_lt
  rw [show 0x00000FC0 = 0x3F <<< 6 from rfl, mask_shift, group_eq, thirdSextet]
  omega

/-- The fourth one the fourth sextet. -/
lemma group_fourth : group x y z &&& 0x0000003F = fourthSextet z := by
  rw [show 0x0000003F = 2 ^ 6 - 1 from rfl, Nat.and_two_pow_sub_one_eq_mod, group_eq, fourthSextet]
  omega

/-- The bytes behind a beginning are those of the rest. -/
lemma byteAt_append (before rest : List UInt8) (k : Nat) :
    byteAt (before ++ rest) (before.length + k) = byteAt rest k := by
  rw [byteAt, byteAt, List.getD_eq_getElem?_getD, List.getElem?_append_right (Nat.le_add_right _ _),
    Nat.add_sub_cancel_left, List.getD_eq_getElem?_getD]

/-- The loop and the tail from some index on, by induction on what is left to encode. -/
lemma encode_from (before mid after : List UInt8) (encoded : List Char) :
    encodeTail (before ++ (mid ++ after)) (mid.length % 3)
      (encodeLoop (before ++ (mid ++ after)) (mid.length / 3) before.length encoded) =
        encoded ++ encodeAll mid := by
  induction mid using encodeAll.induct generalizing before encoded with
  | case1 x y z rest ih =>
    have rounds : (x :: y :: z :: rest).length / 3 = rest.length / 3 + 1 := by
      rw [List.length_cons, List.length_cons, List.length_cons]
      omega
    have left : (x :: y :: z :: rest).length % 3 = rest.length % 3 := by
      rw [List.length_cons, List.length_cons, List.length_cons]
      omega
    have moved : before ++ (x :: y :: z :: rest ++ after) = before ++ [x, y, z] ++ (rest ++ after) := by
      rw [List.append_assoc]
      rfl
    -- the three bytes of the round go over to the ones before
    have index : before.length + 3 = (before ++ [x, y, z]).length := by
      rw [List.length_append]
      rfl
    have first : byteAt (before ++ (x :: y :: z :: rest ++ after)) before.length = x.toNat :=
      byteAt_append before _ 0
    have second : byteAt (before ++ (x :: y :: z :: rest ++ after)) (before.length + 1) = y.toNat :=
      byteAt_append before _ 1
    have third : byteAt (before ++ (x :: y :: z :: rest ++ after)) (before.length + 2) = z.toNat :=
      byteAt_append before _ 2
    rw [rounds, left, encodeLoop, first, second, third, ← group, group_first, group_second, group_third,
      group_fourth, moved, index, ih, encodeAll, List.append_assoc]
    rfl
  | case2 x y =>
    have first : byteAt (before ++ ([x, y] ++ after)) before.length = x.toNat := byteAt_append before _ 0
    have second : byteAt (before ++ ([x, y] ++ after)) (before.length + 1) = y.toNat :=
      byteAt_append before _ 1
    rw [show [x, y].length = 2 from rfl]
    show encodeTail _ 2 (before.length, encoded) = _
    rw [encodeTail, first, second, group_two, group_first, group_second, group_third, encodeAll]
  | case3 x =>
    have first : byteAt (before ++ ([x] ++ after)) before.length = x.toNat := byteAt_append before _ 0
    rw [show [x].length = 1 from rfl]
    show encodeTail _ 1 (before.length, encoded) = _
    rw [encodeTail, first, group_one, group_first, group_second, encodeAll]
  | case4 => exact (List.append_nil encoded).symm

/-- The encoder writes the first `size` bytes. -/
lemma toList_base64encode (b : List UInt8) (size : Nat) (le : size ≤ b.length) :
    (base64encode b size).toList = encodeAll (b.take size) := by
  have whole := encode_from [] (b.take size) (b.drop size) []
  rw [List.nil_append, List.take_append_drop, List.length_take_of_le le] at whole
  rw [base64encode, String.toList_ofList]
  exact whole

/-- The text is that of the bytes whose number fits into 32 bits. -/
lemma toList_encode (b : List UInt8) :
    (encode b).toList = encodeAll (b.take (b.length % 2 ^ 32)) :=
  toList_base64encode b _ (Nat.mod_le _ _)

/-- Each group of bytes, the last one too, has four characters. -/
lemma length_encodeAll (b : List UInt8) : (encodeAll b).length = (b.length + 2) / 3 * 4 := by
  induction b using encodeAll.induct with
  | case1 x y z rest ih =>
    rw [encodeAll, List.length_cons, List.length_cons, List.length_cons, List.length_cons, ih,
      List.length_cons, List.length_cons, List.length_cons]
    omega
  | case2 x y =>
    rw [encodeAll, show [x, y].length = 2 from rfl]
    rfl
  | case3 x =>
    rw [encodeAll, show [x].length = 1 from rfl]
    rfl
  | case4 =>
    rw [encodeAll]
    rfl

/-- Of fewer than 2^32 bytes all are encoded. -/
lemma toList_encode_of_lt (lt : b.length < 2 ^ 32) : (encode b).toList = encodeAll b := by
  rw [toList_encode, Nat.mod_eq_of_lt lt, List.take_length]

/-- A text of the right length is the encoding of an array only when no bytes are cut off. -/
lemma toList_encode_eq_iff (length : cs.length = (b.length + 2) / 3 * 4) :
    (encode b).toList = cs ↔ encodeAll b = cs ∧ b.length < 2 ^ 32 := by
  refine ⟨?_, ?_⟩
  · intro eq
    have lengths := congrArg List.length eq
    -- a length which is cut down to 32 bits leads to fewer groups
    rw [toList_encode, length_encodeAll, List.length_take_of_le (Nat.mod_le _ _), length] at lengths
    have lt : b.length < 2 ^ 32 := by omega
    exact ⟨(toList_encode_of_lt lt).symm.trans eq, lt⟩
  · rintro ⟨eq, lt⟩
    exact (toList_encode_of_lt lt).trans eq

/-! ## What the decoder reads -/

/-- The texts which are decoded, group by group. Nothing is asked of the character behind a padding in the
third place. -/
inductive Decodes : List Char → List UInt8 → Prop where
  | nil : Decodes [] []
  | four {c₀ c₁ c₂ c₃ : Char} {cs : List Char} {v₀ v₁ v₂ v₃ : Nat} {b : List UInt8}
      (r₀ : sextet c₀ = some v₀) (r₁ : sextet c₁ = some v₁) (r₂ : sextet c₂ = some v₂)
      (r₃ : sextet c₃ = some v₃) (rest : Decodes cs b) :
      Decodes (c₀ :: c₁ :: c₂ :: c₃ :: cs)
        (firstByte v₀ v₁ :: secondByte v₁ v₂ :: thirdByte v₂ v₃ :: b)
  | one_padding {c₀ c₁ c₂ : Char} {v₀ v₁ v₂ : Nat}
      (r₀ : sextet c₀ = some v₀) (r₁ : sextet c₁ = some v₁) (r₂ : sextet c₂ = some v₂) :
      Decodes [c₀, c₁, c₂, kPadCharacter] [firstByte v₀ v₁, secondByte v₁ v₂]
  | two_paddings {c₀ c₁ c₃ : Char} {v₀ v₁ : Nat}
      (r₀ : sextet c₀ = some v₀) (r₁ : sextet c₁ = some v₁) :
      Decodes [c₀, c₁, kPadCharacter, c₃] [firstByte v₀ v₁]

/-- A round of the decoder on its accumulator. -/
def push (temp v : Nat) : Nat := temp <<< 6 % 2 ^ 32 ||| v

section Rounds

variable {i t : Nat} {d : List UInt8} {rest : List Char}

/-- A sextet before the fourth place is pushed. -/
lemma decodeLoop_sextet (read : sextet c = some v) (inside : i ≠ 3) :
    decodeLoop i t d (c :: rest) = decodeLoop (i + 1) (push t v) d rest := by
  rw [decodeLoop, read]
  exact if_neg inside

/-- The fourth sextet of a group gives its three bytes. -/
lemma decodeLoop_fourth (read : sextet c = some v) :
    decodeLoop 3 t d (c :: rest) =
      decodeLoop 0 (push t v)
        (d ++ [lowByte (push t v >>> 16), lowByte (push t v >>> 8), lowByte (push t v)]) rest := by
  rw [decodeLoop, read]
  exact if_pos rfl

/-- From a padding on, the rest is padding. -/
lemma decodeLoop_pad :
    decodeLoop i t d (kPadCharacter :: rest) = decodePadding (t <<< 6 % 2 ^ 32) d (rest.length + 1) := by
  rw [decodeLoop, sextet_pad]
  exact if_pos rfl

/-- Any other character ends the loop. -/
lemma decodeLoop_refused (read : sextet c = none) (ne : c ≠ kPadCharacter) :
    decodeLoop i t d (c :: rest) = none := by
  rw [decodeLoop, read]
  exact if_neg ne

/-- What is not in the alphabet stops the decoder, with an exception unless at most one character follows. -/
lemma decodeLoop_early (read : sextet c = none) : decodeLoop i t d (c :: c₂ :: c₃ :: rest) = none := by
  by_cases pad : c = kPadCharacter
  · rw [pad, decodeLoop_pad]
    rfl
  · exact decodeLoop_refused read pad

variable (lt₀ : v₀ < 64) (lt₁ : v₁ < 64) (lt₂ : v₂ < 64) (lt₃ : v₃ < 64)
include lt₀ lt₁

/-- Two sextets as a number. -/
lemma push_two : push (push t v₀) v₁ % 4096 = v₀ * 64 + v₁ := by
  rw [push, push, push_eq _ lt₀, push_eq _ lt₁]
  omega

/-- With one more place they give their first byte. -/
lemma lowByte_two : lowByte ((push (push t v₀) v₁ <<< 6 % 2 ^ 32) >>> 10) = firstByte v₀ v₁ := by
  have low : push (push t v₀) v₁ % 4096 = _ := push_two lt₀ lt₁
  rw [Nat.shiftLeft_eq, Nat.shiftRight_eq_div_pow, lowByte_eq, firstByte]
  congr 1
  omega

include lt₂

/-- Three sextets as a number. -/
lemma push_three : push (push (push t v₀) v₁) v₂ % 262144 = (v₀ * 64 + v₁) * 64 + v₂ := by
  have low : push (push t v₀) v₁ % 4096 = _ := push_two lt₀ lt₁
  rw [push, push_eq _ lt₂]
  omega

/-- With one more place they give their first byte. -/
lemma lowByte_three_first :
    lowByte ((push (push (push t v₀) v₁) v₂ <<< 6 % 2 ^ 32) >>> 16) = firstByte v₀ v₁ := by
  have low : push (push (push t v₀) v₁) v₂ % 262144 = _ := push_three lt₀ lt₁ lt₂
  rw [Nat.shiftLeft_eq, Nat.shiftRight_eq_div_pow, lowByte_eq, firstByte]
  congr 1
  omega

/-- And their second byte. -/
lemma lowByte_three_second :
    lowByte ((push (push (push t v₀) v₁) v₂ <<< 6 % 2 ^ 32) >>> 8) = secondByte v₁ v₂ := by
  have low : push (push (push t v₀) v₁) v₂ % 262144 = _ := push_three lt₀ lt₁ lt₂
  rw [Nat.shiftLeft_eq, Nat.shiftRight_eq_div_pow, lowByte_eq, secondByte]
  congr 1
  omega

include lt₃

/-- Four sextets as a number. -/
lemma push_four :
    push (push (push (push t v₀) v₁) v₂) v₃ % 16777216 = ((v₀ * 64 + v₁) * 64 + v₂) * 64 + v₃ := by
  have low : push (push (push t v₀) v₁) v₂ % 262144 = _ := push_three lt₀ lt₁ lt₂
  rw [push, push_eq _ lt₃]
  omega

/-- Their first byte. -/
lemma lowByte_four_first :
    lowByte (push (push (push (push t v₀) v₁) v₂) v₃ >>> 16) = firstByte v₀ v₁ := by
  have low : push (push (push (push t v₀) v₁) v₂) v₃ % 16777216 = _ := push_four lt₀ lt₁ lt₂ lt₃
  rw [Nat.shiftRight_eq_div_pow, lowByte_eq, firstByte]
  congr 1
  omega

/-- Their second byte. -/
lemma lowByte_four_second :
    lowByte (push (push (push (push t v₀) v₁) v₂) v₃ >>> 8) = secondByte v₁ v₂ := by
  have low : push (push (push (push t v₀) v₁) v₂) v₃ % 16777216 = _ := push_four lt₀ lt₁ lt₂ lt₃
  rw [Nat.shiftRight_eq_div_pow, lowByte_eq, secondByte]
  congr 1
  omega

/-- Their third byte. -/
lemma lowByte_four_third :
    lowByte (push (push (push (push t v₀) v₁) v₂) v₃) = thirdByte v₂ v₃ := by
  have low : push (push (push (push t v₀) v₁) v₂) v₃ % 16777216 = _ := push_four lt₀ lt₁ lt₂ lt₃
  rw [lowByte_eq, thirdByte]
  congr 1
  omega

end Rounds

section Groups

variable {t : Nat} {d : List UInt8} {rest : List Char}

/-- A complete group, whatever the accumulator keeps from the groups before. -/
lemma decodeLoop_four (r₀ : sextet c₀ = some v₀) (r₁ : sextet c₁ = some v₁) (r₂ : sextet c₂ = some v₂)
    (r₃ : sextet c₃ = some v₃) :
    ∃ t', decodeLoop 0 t d (c₀ :: c₁ :: c₂ :: c₃ :: rest) =
      decodeLoop 0 t' (d ++ [firstByte v₀ v₁, secondByte v₁ v₂, thirdByte v₂ v₃]) rest := by
  have lt₀ := (lookup_of_sextet r₀).1
  have lt₁ := (lookup_of_sextet r₁).1
  have lt₂ := (lookup_of_sextet r₂).1
  have lt₃ := (lookup_of_sextet r₃).1
  refine ⟨push (push (push (push t v₀) v₁) v₂) v₃, ?_⟩
  rw [decodeLoop_sextet r₀ (by decide), decodeLoop_sextet r₁ (by decide), decodeLoop_sextet r₂ (by decide),
    decodeLoop_fourth r₃, lowByte_four_first lt₀ lt₁ lt₂ lt₃, lowByte_four_second lt₀ lt₁ lt₂ lt₃,
    lowByte_four_third lt₀ lt₁ lt₂ lt₃]

/-- A last group with one padding has two bytes. -/
lemma decodeLoop_one_padding (r₀ : sextet c₀ = some v₀) (r₁ : sextet c₁ = some v₁)
    (r₂ : sextet c₂ = some v₂) :
    decodeLoop 0 t d [c₀, c₁, c₂, kPadCharacter] = some (d ++ [firstByte v₀ v₁, secondByte v₁ v₂]) := by
  have lt₀ := (lookup_of_sextet r₀).1
  have lt₁ := (lookup_of_sextet r₁).1
  have lt₂ := (lookup_of_sextet r₂).1
  rw [decodeLoop_sextet r₀ (by decide), decodeLoop_sextet r₁ (by decide), decodeLoop_sextet r₂ (by decide),
    decodeLoop_pad]
  show decodePadding _ d 1 = _
  rw [decodePadding, lowByte_three_first lt₀ lt₁ lt₂, lowByte_three_second lt₀ lt₁ lt₂]

/-- A last group with two paddings has one byte, whatever its last character is. -/
lemma decodeLoop_two_paddings (r₀ : sextet c₀ = some v₀) (r₁ : sextet c₁ = some v₁) :
    decodeLoop 0 t d [c₀, c₁, kPadCharacter, c₃] = some (d ++ [firstByte v₀ v₁]) := by
  have lt₀ := (lookup_of_sextet r₀).1
  have lt₁ := (lookup_of_sextet r₁).1
  rw [decodeLoop_sextet r₀ (by decide), decodeLoop_sextet r₁ (by decide), decodeLoop_pad]
  show decodePadding _ d 2 = _
  rw [decodePadding, lowByte_two lt₀ lt₁]

/-- What reads as some bytes is decoded to them, behind those before. -/
lemma Decodes.decodeLoop (read : Decodes cs b) (t : Nat) (d : List UInt8) :
    decodeLoop 0 t d cs = some (d ++ b) := by
  induction read generalizing t d with
  | nil =>
    rw [List.append_nil]
    rfl
  | four r₀ r₁ r₂ r₃ rest ih =>
    obtain ⟨t', eq⟩ := decodeLoop_four r₀ r₁ r₂ r₃
    rw [eq, ih, List.append_assoc]
    rfl
  | one_padding r₀ r₁ r₂ => exact decodeLoop_one_padding r₀ r₁ r₂
  | two_paddings r₀ r₁ => exact decodeLoop_two_paddings r₀ r₁

/-- A group which is decoded has a character of the alphabet in its first two places. -/
lemma decodeLoop_first (done : decodeLoop 0 t d (c₀ :: c₁ :: c₂ :: c₃ :: rest) = some b) :
    ∃ v₀ v₁, sextet c₀ = some v₀ ∧ sextet c₁ = some v₁ := by
  cases r₀ : sextet c₀ with
  | none =>
    rw [decodeLoop_early r₀] at done
    cases done
  | some v₀ =>
    rw [decodeLoop_sextet r₀ (by decide)] at done
    cases r₁ : sextet c₁ with
    | none =>
      rw [decodeLoop_early r₁] at done
      cases done
    | some v₁ => exact ⟨v₀, v₁, rfl, rfl⟩

/-- A padding which is accepted is one of the last two characters. -/
lemma decodePadding_near {n : Nat} (done : decodePadding t d n = some b) : n ≤ 2 := by
  match n with
  | 0 | 1 | 2 => omega
  | n + 3 => cases done

/-- The last two places of a group which is decoded. -/
lemma decodeLoop_last (groups : rest.length % 4 = 0) (r₀ : sextet c₀ = some v₀) (r₁ : sextet c₁ = some v₁)
    (done : decodeLoop 0 t d (c₀ :: c₁ :: c₂ :: c₃ :: rest) = some b) :
    (∃ v₂ v₃, sextet c₂ = some v₂ ∧ sextet c₃ = some v₃) ∨
      (∃ v₂, sextet c₂ = some v₂ ∧ c₃ = kPadCharacter ∧ rest = []) ∨ (c₂ = kPadCharacter ∧ rest = []) := by
  rw [decodeLoop_sextet r₀ (by decide), decodeLoop_sextet r₁ (by decide)] at done
  cases r₂ : sextet c₂ with
  | none =>
    have pad : c₂ = kPadCharacter := by
      by_contra ne
      rw [decodeLoop_refused r₂ ne] at done
      cases done
    rw [pad, decodeLoop_pad] at done
    have near := decodePadding_near done
    rw [List.length_cons] at near
    exact .inr (.inr ⟨pad, List.eq_nil_of_length_eq_zero (by omega)⟩)
  | some v₂ =>
    rw [decodeLoop_sextet r₂ (by decide)] at done
    cases r₃ : sextet c₃ with
    | none =>
      have pad : c₃ = kPadCharacter := by
        by_contra ne
        rw [decodeLoop_refused r₃ ne] at done
        cases done
      rw [pad, decodeLoop_pad] at done
      have near := decodePadding_near done
      exact .inr (.inl ⟨v₂, rfl, pad, List.eq_nil_of_length_eq_zero (by omega)⟩)
    | some v₃ => exact .inl ⟨v₂, v₃, rfl, rfl⟩

/-- What the decoder accepts is one of the texts above, by induction on the groups. -/
lemma decodes_of_decodeLoop (groups : cs.length % 4 = 0) (done : decodeLoop 0 t d cs = some b) :
    ∃ r, b = d ++ r ∧ Decodes cs r := by
  induction cs using PaddedToEnd.induct generalizing t d with
  | case1 c₀ c₁ c₂ c₃ rest ih =>
    have whole : rest.length % 4 = 0 := by
      rw [List.length_cons, List.length_cons, List.length_cons, List.length_cons] at groups
      omega
    obtain ⟨v₀, v₁, r₀, r₁⟩ := decodeLoop_first done
    -- a padding returns, so nothing is left behind its group
    obtain ⟨v₂, v₃, r₂, r₃⟩ | ⟨v₂, r₂, rfl, rfl⟩ | ⟨rfl, rfl⟩ := decodeLoop_last whole r₀ r₁ done
    · obtain ⟨t', eq⟩ := decodeLoop_four r₀ r₁ r₂ r₃
      rw [eq] at done
      obtain ⟨r, rfl, read⟩ := ih whole done
      exact ⟨_, List.append_assoc _ _ _, .four r₀ r₁ r₂ r₃ read⟩
    · rw [decodeLoop_one_padding r₀ r₁ r₂] at done
      exact ⟨_, (Option.some.inj done).symm, .one_padding r₀ r₁ r₂⟩
    · rw [decodeLoop_two_paddings r₀ r₁] at done
      exact ⟨_, (Option.some.inj done).symm, .two_paddings r₀ r₁⟩
  | case2 cs short =>
    match cs with
    | [] => exact ⟨[], (Option.some.inj done).symm.trans (List.append_nil d).symm, .nil⟩
    | [_] | [_, _] | [_, _, _] => cases groups
    | c₀ :: c₁ :: c₂ :: c₃ :: rest => exact (short c₀ c₁ c₂ c₃ rest rfl).elim

end Groups

/-- The text is as long as that of the encoding. -/
lemma Decodes.length (read : Decodes cs b) : cs.length = (b.length + 2) / 3 * 4 := by
  induction read with
  | nil => rfl
  | four r₀ r₁ r₂ r₃ rest ih =>
    rw [List.length_cons, List.length_cons, List.length_cons, List.length_cons, ih, List.length_cons,
      List.length_cons, List.length_cons]
    omega
  | one_padding r₀ r₁ r₂ =>
    show 4 = (2 + 2) / 3 * 4
    rfl
  | two_paddings r₀ r₁ =>
    show 4 = (1 + 2) / 3 * 4
    rfl

/-- Decoding succeeds with exactly the bytes which the text reads as. -/
lemma base64decode_eq_some_iff {s : String} : base64decode s = some b ↔ Decodes s.toList b := by
  rw [base64decode]
  refine ⟨?_, ?_⟩
  · intro done
    obtain ⟨groups, done⟩ := Option.ite_none_left_eq_some.mp done
    have groups : s.toList.length % 4 = 0 := String.length_toList ▸ not_not.mp groups
    obtain ⟨r, rfl, read⟩ := decodes_of_decodeLoop groups done
    exact read
  · intro read
    have length := read.length
    rw [String.length_toList] at length
    have groups : ¬s.length % 4 ≠ 0 := by omega
    rw [if_neg groups]
    exact read.decodeLoop 0 []

/-! ## There and back -/

/-- The encoding is decoded to what was encoded. -/
lemma decodes_encodeAll (b : List UInt8) : Decodes (encodeAll b) b := by
  induction b using encodeAll.induct with
  | case1 x y z rest ih =>
    have read : Decodes (encodeAll (x :: y :: z :: rest)) (firstByte (firstSextet x) (secondSextet x y) ::
        secondByte (secondSextet x y) (thirdSextet y z) :: thirdByte (thirdSextet y z) (fourthSextet z) ::
          rest) := by
      rw [encodeAll]
      exact .four (sextet_lookup firstSextet_lt) (sextet_lookup secondSextet_lt)
        (sextet_lookup thirdSextet_lt) (sextet_lookup fourthSextet_lt) ih
    rwa [firstByte_sextets, secondByte_sextets, thirdByte_sextets] at read
  | case2 x y =>
    have read : Decodes (encodeAll [x, y]) [firstByte (firstSextet x) (secondSextet x y),
        secondByte (secondSextet x y) (thirdSextet y 0)] := by
      rw [encodeAll]
      exact .one_padding (sextet_lookup firstSextet_lt) (sextet_lookup secondSextet_lt)
        (sextet_lookup thirdSextet_lt)
    rwa [firstByte_sextets, secondByte_sextets] at read
  | case3 x =>
    have read : Decodes (encodeAll [x]) [firstByte (firstSextet x) (secondSextet x 0)] := by
      rw [encodeAll]
      exact .two_paddings (sextet_lookup firstSextet_lt) (sextet_lookup secondSextet_lt)
    rwa [firstByte_sextets] at read
  | case4 =>
    rw [encodeAll]
    exact .nil

/-- A text is encoded again as itself when no bits of it are lost and its padding reaches to the end. -/
lemma Decodes.encodeAll_eq_iff (read : Decodes cs b) (padded : PaddedToEnd cs) :
    encodeAll b = cs ↔ unusedBits cs = 0 := by
  induction read with
  | nil => exact iff_of_true rfl rfl
  | four r₀ r₁ r₂ r₃ rest ih =>
    have lt₀ := (lookup_of_sextet r₀).1
    have lt₁ := (lookup_of_sextet r₁).1
    have lt₂ := (lookup_of_sextet r₂).1
    have lt₃ := (lookup_of_sextet r₃).1
    rw [encodeAll, unusedBits, if_neg (ne_pad_of_sextet r₂), if_neg (ne_pad_of_sextet r₃),
      firstSextet_bytes lt₀ lt₁, secondSextet_bytes lt₀ lt₁ lt₂, thirdSextet_bytes lt₂ lt₃,
      fourthSextet_bytes lt₃, (lookup_of_sextet r₀).2, (lookup_of_sextet r₁).2, (lookup_of_sextet r₂).2,
      (lookup_of_sextet r₃).2, ← ih padded.2]
    exact ⟨fun eq => (List.cons.inj (List.cons.inj (List.cons.inj (List.cons.inj eq).2).2).2).2,
      fun eq => by rw [eq]⟩
  | one_padding r₀ r₁ r₂ =>
    have lt₀ := (lookup_of_sextet r₀).1
    have lt₁ := (lookup_of_sextet r₁).1
    have lt₂ := (lookup_of_sextet r₂).1
    rw [encodeAll, unusedBits, if_neg (ne_pad_of_sextet r₂), if_pos rfl, r₂, Option.getD_some,
      firstSextet_bytes lt₀ lt₁, secondSextet_bytes lt₀ lt₁ lt₂, thirdSextet_alone lt₂,
      (lookup_of_sextet r₀).2, (lookup_of_sextet r₁).2, ← lookup_sub_eq_iff r₂ 4]
    simp only [List.cons.injEq, true_and, and_true]
  | two_paddings r₀ r₁ =>
    have lt₀ := (lookup_of_sextet r₀).1
    have lt₁ := (lookup_of_sextet r₁).1
    rw [encodeAll, unusedBits, if_pos rfl, r₁, Option.getD_some, firstSextet_bytes lt₀ lt₁,
      secondSextet_alone lt₀ lt₁, (lookup_of_sextet r₀).2, padded.1 rfl, ← lookup_sub_eq_iff r₁ 16]
    simp only [List.cons.injEq, true_and, and_true]

/-- Texts without lost bits which are decoded to the same bytes are the same. -/
lemma Decodes.encodeAll_injective {cs' : List Char} (read : Decodes cs b) (read' : Decodes cs' b)
    (padded : PaddedToEnd cs) (padded' : PaddedToEnd cs') (unused : unusedBits cs = 0)
    (unused' : unusedBits cs' = 0) : cs = cs' :=
  ((read.encodeAll_eq_iff padded).mpr unused).symm.trans ((read'.encodeAll_eq_iff padded').mpr unused')

/-- Arrays shorter than `2 ^ 32` bytes come back from their encoding. A text which is decoded, and in which
nothing but a padding follows a padding, is encoded again as itself exactly when its last character has no
bits which belong to no byte and the bytes can be counted by a `uint32_t`. So among the texts without such
bits no two are decoded to the same bytes. -/
theorem encode_decode :
    (∀ b : List UInt8, b.length < 2 ^ 32 → base64decode (encode b) = some b) ∧
      (∀ s b, base64decode s = some b → PaddedToEnd s.toList →
        (encode b = s ↔ unusedBits s.toList = 0 ∧ b.length < 2 ^ 32)) ∧
      (∀ s s' b, base64decode s = some b → base64decode s' = some b →
        PaddedToEnd s.toList → PaddedToEnd s'.toList →
        unusedBits s.toList = 0 → unusedBits s'.toList = 0 → s = s') := by
  refine ⟨?_, ?_, ?_⟩
  · intro b lt
    rw [base64decode_eq_some_iff, toList_encode_of_lt lt]
    exact decodes_encodeAll b
  · intro s b read padded
    have read := base64decode_eq_some_iff.mp read
    rw [← read.encodeAll_eq_iff padded, ← toList_encode_eq_iff read.length]
    exact String.toList_inj.symm
  · intro s s' b read read' padded padded' unused unused'
    apply String.toList_inj.mp
    exact (base64decode_eq_some_iff.mp read).encodeAll_injective (base64decode_eq_some_iff.mp read') padded
      padded' unused unused'

/-- A complete group, and one with two paddings. -/
theorem encode_decode_groups : base64decode (encode [77, 97, 110]) = some [77, 97, 110] ∧
    encode [77, 97, 110] = "TWFu" ∧ encode [65] = "QQ==" :=
  ⟨encode_decode.1 [77, 97, 110] (by decide),
    (encode_decode.2.1 "TWFu" [77, 97, 110] (by decide) (by decide)).mpr ⟨by decide, by decide⟩,
    encode_decode.2.2 (encode [65]) "QQ==" [65] (by decide) (by decide) (by decide) (by decide) (by decide)
      (by decide)⟩

/-- Bits which belong to no byte are not looked at: two texts are decoded to the same byte. -/
theorem encode_decode_unused : ¬((∀ b : List UInt8, b.length < 2 ^ 32 → base64decode (encode b) = some b) ∧
    (∀ s b, base64decode s = some b → encode b = s) ∧
    (∀ s s' b, base64decode s = some b → base64decode s' = some b → s = s')) := by
  intro ⟨_, back, _⟩
  have same : encode [65] = "QR==" := back "QR==" [65] (by decide)
  revert same
  decide

end UserPortal.Base64

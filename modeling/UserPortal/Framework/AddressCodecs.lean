import UserPortal.Data.Numeral
import UserPortal.Framework.Parameters

/-!
# Address codecs

Port of the functions of `src/framework/utils.cpp` which write one address in four forms: the serial of
twelve hexadecimal digits, the MAC with colons, the number and what `NormalizeMac` makes of a spelling.
A `uint64_t` is a number below `2 ^ 64`, and a shift to the left drops what does not fit.

`codecs_agree`: the four forms are read and written consistently.
-/

namespace UserPortal.Utils
open Data

/-! ## `NormalizeMac` in place -/

/-- `Poco::replaceInPlace` of a character by nothing -/
def withoutChar (c : Char) (s : String) : String := String.ofList (s.toList.filter (· ≠ c))

/-- A spelling without the separators which `NormalizeMac` deletes. -/
def withoutSeparators (mac : String) : String := withoutChar '-' (withoutChar ':' mac)

/-- `NormalizeMac`, which works in place: whether the address is accepted, and what it is left as. The
separators are gone from a refused one too. -/
def normalizeMacInPlace (mac : String) : Bool × String :=
  let mac := withoutSeparators mac
  if mac.length ≠ 12 then (false, mac)
  else if mac.toList.any fun i => !isXDigit i then (false, mac)
  else (true, toLower mac)

/-! ## Serials and numbers -/

/-- `ValidSerialNumber` -/
def validSerialNumber (serial : String) : Bool := serial.length = 12 && serial.toList.all isXDigit

/-- The number which a hexadecimal digit stands for, zero for another character. -/
def hexDigit (c : Char) : Nat :=
  if '0' ≤ c && c ≤ '9' then c.toNat - '0'.toNat
  else if 'a' ≤ c && c ≤ 'f' then c.toNat - 'a'.toNat + 10
  else if 'A' ≤ c && c ≤ 'F' then c.toNat - 'A'.toNat + 10
  else 0

/-- `MACToInt` -/
def macToInt (mac : String) : Nat :=
  mac.toList.foldl (fun result c =>
    if c = ':' then result
    else (result <<< 4 % 2 ^ 64 + hexDigit c) % 2 ^ 64) 0

/-- The optional prefix of a number in base 16, which counts where a digit follows. -/
def withoutHexPrefix : List Char → List Char
  | '0' :: x :: c :: cs => if (x = 'x' || x = 'X') && isXDigit c then c :: cs else '0' :: x :: c :: cs
  | cs => cs

/-- `SerialNumberToInt`: `std::stoull` in base 16, of the longest beginning which is a number. -/
def serialNumberToInt (s : String) : Except Thrown Nat :=
  let (negative, text) := QueryParameters.signed (s.toList.dropWhile isSpace)
  let digits := (withoutHexPrefix text).takeWhile isXDigit
  let number := readNumeral 16 (digits.map hexDigit)
  if digits.isEmpty then .error .invalidArgument
  else if 2 ^ 64 ≤ number then .error .outOfRange
  else if negative then .ok ((2 ^ 64 - number) % 2 ^ 64)
  else .ok number

/-- The character of a nibble, in lower case. -/
def nibbleChar (b : Nat) : Char :=
  if b < 10 then Char.ofNat (b + '0'.toNat) else Char.ofNat (b - 10 + 'a'.toNat)

/-- The loop of `IntToSerialNumber`, which fills the buffer from its end. -/
def writeNibbles : (i s : Nat) → (buffer : List Char) → List Char
  | 0, _, buffer => buffer
  | i + 1, s, buffer => writeNibbles i (s >>> 4) (nibbleChar (s &&& 0x0f) :: buffer)

/-- `IntToSerialNumber` -/
def intToSerialNumber (s : Nat) : String := String.ofList (writeNibbles 12 s [])

/-! ## Digits -/

/-- What the functions look at in a hexadecimal digit. -/
lemma xdigit_spec {c : Char} (h : isXDigit c = true) :
    hexDigit c < 16 ∧ nibbleChar (hexDigit c) = c.toLower ∧ isSpace c = false ∧
      c ≠ ':' ∧ c ≠ '-' ∧ c ≠ '+' ∧ c ≠ 'x' ∧ c ≠ 'X' := by
  revert h
  apply forall_xdigit
  decide

/-- The case of a digit does not matter. -/
lemma isXDigit_toLower (c : Char) : isXDigit c.toLower = isXDigit c := by
  have ascii : ∀ n < 128, isXDigit (Char.ofNat n).toLower = isXDigit (Char.ofNat n) := by decide
  by_cases small : c.toNat < 128
  · rw [← Char.ofNat_toNat c]
    exact ascii c.toNat small
  · have other : c.toLower = c := by
      unfold Char.toLower
      rw [dif_neg]
      intro upper
      exact small (Nat.lt_of_le_of_lt upper.2 (by decide))
    rw [other]

/-- The character of a digit is that digit. -/
lemma nibbleChar_spec {b : Nat} (h : b < 16) :
    isXDigit (nibbleChar b) = true ∧ hexDigit (nibbleChar b) = b := by
  revert b
  decide

/-- The digits are written as a numeral is. -/
lemma writeNibbles_eq (i s : Nat) (ds : List Nat) :
    writeNibbles i s (ds.map nibbleChar) = (writeNumeral 16 i s ds).map nibbleChar := by
  induction i generalizing s ds with
  | zero => rfl
  | succ i ih =>
    have nibble : s &&& 0x0f = s % 16 := Nat.and_two_pow_sub_one_eq_mod s 4
    have rest : s >>> 4 = s / 16 := Nat.shiftRight_eq_div_pow s 4
    rw [writeNibbles, nibble, rest, writeNumeral]
    exact ih (s / 16) (s % 16 :: ds)

/-- A serial number is a numeral of twelve digits. -/
lemma toList_intToSerialNumber (s : Nat) :
    (intToSerialNumber s).toList = (writeNumeral 16 12 s []).map nibbleChar := by
  rw [intToSerialNumber, String.toList_ofList]
  exact writeNibbles_eq 12 s []

/-- The shifts of `MACToInt` read a number in base 16, up to the width of the machine. -/
lemma macToInt_eq (mac : String) :
    macToInt mac = readNumeral 16 ((mac.toList.filter (· ≠ ':')).map hexDigit) % 2 ^ 64 := by
  rw [← foldl_mod, List.foldl_map, List.foldl_filter, macToInt]
  congr 1
  funext result c
  by_cases colon : c = ':'
  · rw [if_pos colon, if_neg (by simp [colon])]
  · rw [if_neg colon, if_pos (by simp [colon]), Nat.shiftLeft_eq, Nat.mul_comm]

/-! ## Serials -/

variable {serial mac : String}

/-- A serial number is valid with twelve hexadecimal digits. -/
lemma validSerialNumber_iff :
    validSerialNumber serial = true ↔
      serial.toList.length = 12 ∧ ∀ c ∈ serial.toList, isXDigit c = true := by
  rw [validSerialNumber, Bool.and_eq_true, decide_eq_true_eq, List.all_eq_true, String.length_toList]

/-- Its digits are less than 16. -/
lemma hexDigit_lt (valid : validSerialNumber serial = true) :
    ∀ d ∈ serial.toList.map hexDigit, d < 16 := by
  intro d mem
  obtain ⟨c, here, rfl⟩ := List.mem_map.mp mem
  exact (xdigit_spec ((validSerialNumber_iff.mp valid).2 c here)).1

/-- The number which a serial writes. -/
def serialValue (serial : String) : Nat := readNumeral 16 (serial.toList.map hexDigit)

/-- Its value has 48 bits. -/
lemma serialValue_lt (valid : validSerialNumber serial = true) : serialValue serial < 2 ^ 48 := by
  have lt : serialValue serial < 16 ^ (serial.toList.map hexDigit).length :=
    readNumeral_lt (by decide) (hexDigit_lt valid)
  rw [List.length_map, (validSerialNumber_iff.mp valid).1] at lt
  exact lt

/-- A digit is no sign. -/
lemma signed_of_isXDigit {c : Char} (digit : isXDigit c = true) (cs : List Char) :
    QueryParameters.signed (c :: cs) = (false, c :: cs) := by
  have first := xdigit_spec digit
  unfold QueryParameters.signed
  split
  case h_1 eq =>
    cases eq
    exact absurd rfl first.2.2.2.2.1
  case h_2 eq =>
    cases eq
    exact absurd rfl first.2.2.2.2.2.1
  case h_3 => rfl

/-- Digits have no prefix. -/
lemma withoutHexPrefix_of_isXDigit {cs : List Char} (digits : ∀ c ∈ cs, isXDigit c = true) :
    withoutHexPrefix cs = cs := by
  unfold withoutHexPrefix
  split
  case h_1 x _ _ =>
    have second := xdigit_spec (digits x (List.mem_cons_of_mem _ (List.mem_cons_self ..)))
    rw [if_neg]
    intro isPrefix
    rcases Bool.or_eq_true_iff.mp (Bool.and_eq_true_iff.mp isPrefix).1 with eq | eq
    · exact second.2.2.2.2.2.2.1 (of_decide_eq_true eq)
    · exact second.2.2.2.2.2.2.2 (of_decide_eq_true eq)
  case h_2 => rfl

/-- There is nothing to skip in front of digits, and no prefix. -/
lemma serialNumberToInt_of_valid (valid : validSerialNumber serial = true) :
    serialNumberToInt serial = .ok (serialValue serial) := by
  have lt := serialValue_lt valid
  obtain ⟨len, digits⟩ := validSerialNumber_iff.mp valid
  have small : ¬ 2 ^ 64 ≤ readNumeral 16 (serial.toList.map hexDigit) := by
    intro large
    exact absurd (Nat.lt_of_le_of_lt large lt) (by decide)
  rw [serialNumberToInt, serialValue]
  cases text : serial.toList with
  | nil =>
    rw [text] at len
    cases len
  | cons c cs =>
    rw [text] at digits small
    have first : isXDigit c = true := digits c (List.mem_cons_self ..)
    have skip : (c :: cs).dropWhile isSpace = c :: cs := by
      rw [List.dropWhile_cons_of_neg]
      rw [(xdigit_spec first).2.2.1]
      exact Bool.false_ne_true
    have all : (c :: cs).takeWhile isXDigit = c :: cs := List.takeWhile_eq_self_iff.mpr digits
    rw [skip, signed_of_isXDigit first]
    dsimp only
    rw [withoutHexPrefix_of_isXDigit digits, all, if_neg small]
    rfl

/-- A serial is the number which its lower case spells. -/
lemma intToSerialNumber_serialValue (valid : validSerialNumber serial = true) :
    intToSerialNumber (serialValue serial) = toLower serial := by
  obtain ⟨len, digits⟩ := validSerialNumber_iff.mp valid
  have written := writeNumeral_readNumeral (by decide) (hexDigit_lt valid)
  rw [List.length_map, len] at written
  apply String.toList_injective
  rw [toList_intToSerialNumber, serialValue, written, List.map_map, toLower, String.toList_ofList]
  apply List.map_congr_left
  intro c mem
  exact (xdigit_spec (digits c mem)).2.1

/-- What is written for a number is valid. -/
lemma validSerialNumber_intToSerialNumber (v : Nat) :
    validSerialNumber (intToSerialNumber v) = true := by
  rw [validSerialNumber_iff, toList_intToSerialNumber, List.length_map, length_writeNumeral]
  refine ⟨rfl, fun c mem => ?_⟩
  obtain ⟨d, here, rfl⟩ := List.mem_map.mp mem
  exact (nibbleChar_spec (lt_of_mem_writeNumeral (by decide) here)).1

/-- What is written for a number of 48 bits has its value. -/
lemma serialValue_intToSerialNumber {v : Nat} (fits : v < 2 ^ 48) :
    serialValue (intToSerialNumber v) = v := by
  have digits : ∀ d ∈ writeNumeral 16 12 v [], (hexDigit ∘ nibbleChar) d = id d := by
    intro d mem
    exact (nibbleChar_spec (lt_of_mem_writeNumeral (by decide) mem)).2
  rw [serialValue, toList_intToSerialNumber, List.map_map, List.map_congr_left digits, List.map_id]
  exact readNumeral_writeNumeral fits

/-! ## Separators -/

/-- The separators are taken out. -/
lemma toList_withoutSeparators (mac : String) :
    (withoutSeparators mac).toList = mac.toList.filter fun c => c ≠ ':' && c ≠ '-' := by
  rw [withoutSeparators, withoutChar, withoutChar, String.toList_ofList, String.toList_ofList,
    List.filter_filter]
  congr 1
  funext c
  exact Bool.and_comm _ _

/-- A serial number has none. -/
lemma withoutSeparators_of_valid (valid : validSerialNumber serial = true) :
    withoutSeparators serial = serial := by
  apply String.toList_injective
  rw [toList_withoutSeparators, List.filter_eq_self]
  intro c mem
  have digit := xdigit_spec ((validSerialNumber_iff.mp valid).2 c mem)
  simp [digit]

/-- Once taken out, none are left. -/
lemma withoutSeparators_withoutSeparators (mac : String) :
    withoutSeparators (withoutSeparators mac) = withoutSeparators mac := by
  apply String.toList_injective
  rw [toList_withoutSeparators, toList_withoutSeparators, List.filter_filter]
  simp

/-- The case does not matter. -/
lemma validSerialNumber_toLower (serial : String) :
    validSerialNumber (toLower serial) = validSerialNumber serial := by
  rw [Bool.eq_iff_iff, validSerialNumber_iff, validSerialNumber_iff, toLower, String.toList_ofList,
    List.length_map]
  refine and_congr_right fun _ => ?_
  rw [List.forall_mem_map]
  refine forall₂_congr fun c _ => ?_
  rw [isXDigit_toLower]

/-- Lower case stays lower case. -/
lemma toLower_toLower (valid : validSerialNumber serial = true) :
    toLower (toLower serial) = toLower serial := by
  rw [toLower, toLower, String.toList_ofList, List.map_map]
  congr 1
  apply List.map_congr_left
  intro c mem
  exact (toLower_xdigit ((validSerialNumber_iff.mp valid).2 c mem)).2.1

/-- Without the colons, the serial number is left. -/
lemma filter_colon_serialToMAC (valid : validSerialNumber serial = true) :
    (serialToMAC serial).toList.filter (· ≠ ':') = serial.toList := by
  obtain ⟨len, digits⟩ := validSerialNumber_iff.mp valid
  have noColon : ∀ c ∈ serial.toList, c ≠ ':' := fun c mem => (xdigit_spec (digits c mem)).2.2.2.1
  unfold serialToMAC
  generalize serial.toList = text at len noColon
  match text, len with
  | [a, b, c, d, e, f, g, h, i, j, k, l], _ =>
    simp only [List.mem_cons, List.not_mem_nil, or_false, forall_eq_or_imp, forall_eq] at noColon
    simp [noColon]

/-- The case may be changed before the colons are put in. -/
lemma toLower_serialToMAC (valid : validSerialNumber serial = true) :
    toLower (serialToMAC serial) = serialToMAC (toLower serial) := by
  obtain ⟨len, _⟩ := validSerialNumber_iff.mp valid
  unfold serialToMAC toLower
  generalize serial.toList = text at len
  match text, len with
  | [a, b, c, d, e, f, g, h, i, j, k, l], _ => simp

/-- A serial can be read off its MAC. -/
lemma serialToMAC_inj {serial' : String} (valid : validSerialNumber serial = true)
    (valid' : validSerialNumber serial' = true) (eq : serialToMAC serial = serialToMAC serial') :
    serial = serial' := by
  apply String.toList_injective
  rw [← filter_colon_serialToMAC valid, ← filter_colon_serialToMAC valid', eq]

/-- The separators which were put in are taken out. -/
lemma withoutSeparators_serialToMAC (valid : validSerialNumber serial = true) :
    withoutSeparators (serialToMAC serial) = serial := by
  have noColon : withoutChar ':' (serialToMAC serial) = serial := by
    rw [withoutChar, filter_colon_serialToMAC valid, String.ofList_toList]
  rw [withoutSeparators, noColon]
  apply String.toList_injective
  rw [withoutChar, String.toList_ofList, List.filter_eq_self]
  intro c mem
  have digit := xdigit_spec ((validSerialNumber_iff.mp valid).2 c mem)
  simp [digit]

/-- An address with colons has the value of its serial number. -/
lemma macToInt_serialToMAC (valid : validSerialNumber serial = true) :
    macToInt (serialToMAC serial) = serialValue serial := by
  rw [macToInt_eq, filter_colon_serialToMAC valid]
  exact Nat.mod_eq_of_lt (Nat.lt_trans (serialValue_lt valid) (by decide))

/-! ## Normal forms -/

/-- An address is normalized in place if its digits are valid, and only loses its separators otherwise. -/
lemma normalizeMacInPlace_eq (mac : String) :
    normalizeMacInPlace mac =
      if validSerialNumber (withoutSeparators mac) then (true, toLower (withoutSeparators mac))
      else (false, withoutSeparators mac) := by
  unfold normalizeMacInPlace validSerialNumber
  dsimp only
  by_cases len : (withoutSeparators mac).length = 12
  · rw [if_neg (not_not_intro len), ← List.not_all_eq_any_not, decide_eq_true len, Bool.true_and]
    cases (withoutSeparators mac).toList.all isXDigit
    · rfl
    · rfl
  · rw [if_pos len, decide_eq_false len]
    rfl

/-- What `NormalizeMac` accepts, and the normal form which it leaves. -/
lemma normalizeMac_eq (mac : String) :
    normalizeMac mac =
      if (normalizeMacInPlace mac).1 then some (normalizeMacInPlace mac).2 else none := by
  rw [normalizeMacInPlace_eq]
  by_cases valid : validSerialNumber (withoutSeparators mac) = true
  · have digits := validSerialNumber_iff.mp valid
    rw [toList_withoutSeparators] at digits
    rw [if_pos valid, normalizeMac]
    dsimp only
    rw [if_pos ⟨digits.1, List.all_eq_true.mpr digits.2⟩, toLower, toList_withoutSeparators]
    rfl
  · rw [if_neg valid, normalizeMac]
    dsimp only
    rw [if_neg]
    · rfl
    · intro digits
      apply valid
      rw [validSerialNumber_iff, toList_withoutSeparators]
      exact ⟨digits.1, List.all_eq_true.mp digits.2⟩

/-- A normalized address has no separators and is in lower case. -/
lemma normalizeMac_eq_some {normal : String} :
    normalizeMac mac = some normal ↔
      validSerialNumber (withoutSeparators mac) = true ∧ toLower (withoutSeparators mac) = normal := by
  rw [normalizeMac_eq, normalizeMacInPlace_eq]
  by_cases valid : validSerialNumber (withoutSeparators mac) = true
  · rw [if_pos valid, if_pos rfl, Option.some.injEq]
    exact (and_iff_right valid).symm
  · rw [if_neg valid, if_neg Bool.false_ne_true]
    exact iff_of_false nofun fun both => valid both.1

/-- Where an address is normalized, so it is in place. -/
lemma normalizeMacInPlace_of_some {normal : String} (h : normalizeMac mac = some normal) :
    normalizeMacInPlace mac = (true, normal) := by
  obtain ⟨valid, rfl⟩ := normalizeMac_eq_some.mp h
  rw [normalizeMacInPlace_eq, if_pos valid]

/-- Where it is not, the function in place refuses it. -/
lemma normalizeMacInPlace_of_none (h : normalizeMac mac = none) : (normalizeMacInPlace mac).1 = false := by
  rw [normalizeMac_eq] at h
  cases accepted : (normalizeMacInPlace mac).1 with
  | false => rfl
  | true =>
    rw [accepted, if_pos rfl] at h
    cases h

/-- A normal form is a serial. -/
lemma validSerialNumber_of_normalizeMac {normal : String} (h : normalizeMac mac = some normal) :
    validSerialNumber normal = true := by
  obtain ⟨valid, rfl⟩ := normalizeMac_eq_some.mp h
  rw [validSerialNumber_toLower]
  exact valid

/-- An address with colons is normalized to its serial number. -/
lemma normalizeMac_serialToMAC_of_valid (valid : validSerialNumber serial = true) :
    normalizeMac (serialToMAC serial) = some (toLower serial) := by
  rw [normalizeMac_eq_some, withoutSeparators_serialToMAC valid]
  exact ⟨valid, rfl⟩

/-- Two spellings which differ in separators and case are the same address, or none. -/
lemma normalizeMac_congr {mac' : String}
    (same : toLower (withoutSeparators mac) = toLower (withoutSeparators mac')) :
    normalizeMac mac = normalizeMac mac' := by
  apply Option.ext
  intro normal
  rw [normalizeMac_eq_some, normalizeMac_eq_some, ← validSerialNumber_toLower, same,
    validSerialNumber_toLower]

/-- So it is in place. -/
lemma normalizeMacInPlace_serialToMAC (valid : validSerialNumber serial = true) :
    normalizeMacInPlace (serialToMAC serial) = (true, toLower serial) := by
  rw [normalizeMacInPlace_eq, withoutSeparators_serialToMAC valid, if_pos valid]

/-- Normalizing twice is normalizing once. -/
lemma normalizeMacInPlace_idempotent (mac : String) :
    normalizeMacInPlace (normalizeMacInPlace mac).2 = normalizeMacInPlace mac := by
  rw [normalizeMacInPlace_eq mac]
  by_cases valid : validSerialNumber (withoutSeparators mac) = true
  · have lower : validSerialNumber (toLower (withoutSeparators mac)) = true := by
      rw [validSerialNumber_toLower, valid]
    rw [if_pos valid, normalizeMacInPlace_eq, withoutSeparators_of_valid lower, if_pos lower,
      toLower_toLower valid]
  · rw [if_neg valid, normalizeMacInPlace_eq, withoutSeparators_withoutSeparators, if_neg valid]

/-- What is accepted loses its separators and its upper case. -/
lemma normalizeMacInPlace_of_accepted (accepted : (normalizeMacInPlace mac).1 = true) :
    (normalizeMacInPlace mac).2 = toLower (withoutSeparators mac) := by
  rw [normalizeMacInPlace_eq] at accepted ⊢
  split at accepted
  case isTrue valid => rw [if_pos valid]
  case isFalse => cases accepted

/-- The codecs of an address agree with each other: on the serials of twelve digits in any case, on the
spellings which are accepted, and on the numbers of 48 bits. -/
theorem codecs_agree :
    (∀ serial, validSerialNumber serial = true →
      normalizeMacInPlace (serialToMAC serial) = (true, toLower serial) ∧
      (serialNumberToInt serial).map intToSerialNumber = .ok (toLower serial) ∧
      serialNumberToInt serial = .ok (macToInt (serialToMAC serial))) ∧
    (∀ mac, normalizeMacInPlace (normalizeMacInPlace mac).2 = normalizeMacInPlace mac) ∧
    (∀ mac mac', (normalizeMacInPlace mac).1 = true → (normalizeMacInPlace mac').1 = true →
      ((normalizeMacInPlace mac).2 = (normalizeMacInPlace mac').2 ↔
        toLower (withoutSeparators mac) = toLower (withoutSeparators mac'))) ∧
    ∀ v < 2 ^ 48, serialNumberToInt (intToSerialNumber v) = .ok v := by
  refine ⟨fun serial valid => ⟨?_, ?_, ?_⟩, normalizeMacInPlace_idempotent, ?_, ?_⟩
  · exact normalizeMacInPlace_serialToMAC valid
  · rw [serialNumberToInt_of_valid valid, Except.map, intToSerialNumber_serialValue valid]
  · rw [serialNumberToInt_of_valid valid, macToInt_serialToMAC valid]
  · intro mac mac' accepted accepted'
    rw [normalizeMacInPlace_of_accepted accepted, normalizeMacInPlace_of_accepted accepted']
  · intro v fits
    rw [serialNumberToInt_of_valid (validSerialNumber_intToSerialNumber v),
      serialValue_intToSerialNumber fits]

end UserPortal.Utils

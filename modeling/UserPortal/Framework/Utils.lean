import Mathlib.Tactic.Common

/-!
# Framework utilities

Port of the string helpers of `src/framework/utils.cpp` and of the Poco string functions they use:
`NormalizeMac` → `normalizeMac`, `SerialToMAC` → `serialToMAC`, `Poco::trimInPlace` → `trim`,
`Poco::toLowerInPlace` → `toLower`. A character of a `String` stands for one byte of a
`std::string`, so that lengths agree.
-/

namespace UserPortal.Utils

/-- `Poco::Ascii::isSpace` -/
def isSpace (c : Char) : Bool :=
  c = ' ' || c = '\t' || c = '\n' || c.toNat = 11 || c.toNat = 12 || c = '\r'

/-- `std::isxdigit` -/
def isXDigit (c : Char) : Bool :=
  ('0' ≤ c && c ≤ '9') || ('a' ≤ c && c ≤ 'f') || ('A' ≤ c && c ≤ 'F')

/-- `Poco::trimInPlace` -/
def trim (s : String) : String :=
  String.ofList ((s.toList.dropWhile isSpace).reverse.dropWhile isSpace).reverse

/-- `Poco::toLowerInPlace` -/
def toLower (s : String) : String := String.ofList (s.toList.map Char.toLower)

/-- `NormalizeMac`: the canonical spelling of a MAC address, when it is one. -/
def normalizeMac (mac : String) : Option String :=
  let digits := mac.toList.filter fun c => c ≠ ':' && c ≠ '-'
  if digits.length = 12 ∧ digits.all isXDigit then
    some (String.ofList (digits.map Char.toLower))
  else none

/-- `padTo`: append padding up to the next multiple of `num`, a whole block when already there. -/
def padTo (s : List Char) (num : Nat) (padding : Char) : List Char :=
  s ++ List.replicate (num - s.length % num) padding

/-- `SerialToMAC`: the first twelve characters, in pairs separated by colons. -/
def serialToMAC (serial : String) : String :=
  let r := serial.toList
  let r := if r.length < 12 then padTo r 12 '0' else r.take 12
  match r with
  | [a, b, c, d, e, f, g, h, i, j, k, l] =>
    String.ofList [a, b, ':', c, d, ':', e, f, ':', g, h, ':', i, j, ':', k, l]
  | _ => ""

/-- `ValidUUID`: hexadecimal digits and dashes, at least one of these. -/
def validUUID (uuid : String) : Bool :=
  uuid.length ≤ 36 && (uuid.toList.all fun i => i = '-' || isXDigit i) && uuid.toList.any (· = '-')

/-- A word of a pattern: characters of a class, at least one. -/
def isWord (allowed : Char → Bool) (cs : List Char) : Bool := !cs.isEmpty && cs.all allowed

/-- Words of a class of characters, separated by dots. -/
def isDotted (allowed : Char → Bool) (cs : List Char) : Bool := (cs.splitOn '.').all (isWord allowed)

/-- `[a-z0-9-]` -/
def isHostChar (c : Char) : Bool := c.isLower || c.isDigit || c = '-'

/-- `[_a-z0-9-]` -/
def isNameChar (c : Char) : Bool := isHostChar c || c = '_'

/-- `ValidEMailAddress`: `[_a-z0-9-]+(\.[_a-z0-9-]+)*(\+[a-z0-9-]+)?@[a-z0-9-]+(\.[a-z0-9-]+)*` -/
def validEMailAddress (email : String) : Bool :=
  match email.toList.splitOn '@' with
  | [name, host] =>
    isDotted isHostChar host &&
      match name.splitOn '+' with
      | [name] => isDotted isNameChar name
      | [name, tag] => isDotted isNameChar name && isWord isHostChar tag
      | _ => false
  | _ => false

/-! ## MAC addresses -/

/-- What holds of the hexadecimal digits among the first characters holds of all of them. -/
lemma forall_xdigit {P : Char → Prop}
    (all : ∀ n < 128, isXDigit (Char.ofNat n) = true → P (Char.ofNat n)) {c : Char}
    (h : isXDigit c = true) : P c := by
  have small : c.toNat < 128 := by
    have le : ∀ d : Char, c ≤ d → c.toNat ≤ d.toNat := fun d h => h
    simp only [isXDigit, Bool.or_eq_true, Bool.and_eq_true, decide_eq_true_eq] at h
    rcases h with (h | h) | h
    · exact Nat.lt_of_le_of_lt (le '9' h.2) (by decide)
    · exact Nat.lt_of_le_of_lt (le 'f' h.2) (by decide)
    · exact Nat.lt_of_le_of_lt (le 'F' h.2) (by decide)
  rw [← Char.ofNat_toNat c] at h ⊢
  exact all c.toNat small h

/-- A hexadecimal digit in lower case is no separator, and stays as it is. -/
lemma toLower_xdigit {c : Char} (h : isXDigit c = true) :
    isXDigit c.toLower = true ∧ c.toLower.toLower = c.toLower ∧ c.toLower ≠ ':' ∧ c.toLower ≠ '-' := by
  revert h
  apply forall_xdigit
  decide

/-- A normalized MAC address is the normalization of its spelling with colons. -/
lemma normalizeMac_serialToMAC {raw mac : String} (h : normalizeMac raw = some mac) :
    normalizeMac (toLower (serialToMAC mac)) = some mac := by
  unfold normalizeMac at h
  dsimp only at h
  split at h
  case isFalse => cases h
  case isTrue valid =>
    cases h
    obtain ⟨len, all⟩ := valid
    generalize raw.toList.filter (fun c => c ≠ ':' && c ≠ '-') = digits at len all
    match digits, len with
    | [a, b, c, d, e, f, g, i, j, k, l, m], _ =>
      simp only [List.all_cons, List.all_nil, Bool.and_true, Bool.and_eq_true] at all
      simp [normalizeMac, toLower, serialToMAC, toLower_xdigit, all]

end UserPortal.Utils

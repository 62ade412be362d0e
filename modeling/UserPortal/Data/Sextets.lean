import Mathlib.Algebra.Group.Nat.Defs
import Mathlib.Tactic.Common

/-!
# Bytes and sextets

Three bytes are as many bits as four numbers below 64. The sextets of a group of bytes, the bytes of a group
of sextets, and how they give each other back, also where the last bytes of the group are missing.
-/

namespace UserPortal.Data

def firstSextet (x : UInt8) : Nat := x.toNat / 4

def secondSextet (x y : UInt8) : Nat := x.toNat % 4 * 16 + y.toNat / 16

def thirdSextet (y z : UInt8) : Nat := y.toNat % 16 * 4 + z.toNat / 64

def fourthSextet (z : UInt8) : Nat := z.toNat % 64

def firstByte (v w : Nat) : UInt8 := UInt8.ofNat (v * 4 + w / 16)

def secondByte (v w : Nat) : UInt8 := UInt8.ofNat (v % 16 * 16 + w / 4)

def thirdByte (v w : Nat) : UInt8 := UInt8.ofNat (v % 4 * 64 + w)

variable {x y z : UInt8} {u v w : Nat}

/-! ## Bounds -/

/-- The first sextet is one. -/
lemma firstSextet_lt : firstSextet x < 64 := by
  have := x.toNat_lt
  rw [firstSextet]
  omega

/-- So is the second. -/
lemma secondSextet_lt : secondSextet x y < 64 := by
  have := y.toNat_lt
  rw [secondSextet]
  omega

/-- So is the third. -/
lemma thirdSextet_lt : thirdSextet y z < 64 := by
  have := z.toNat_lt
  rw [thirdSextet]
  omega

/-- So is the fourth. -/
lemma fourthSextet_lt : fourthSextet z < 64 := Nat.mod_lt _ (by decide)

/-- The value of the first byte of a group. -/
lemma toNat_firstByte (hv : v < 64) (hw : w < 64) : (firstByte v w).toNat = v * 4 + w / 16 :=
  UInt8.toNat_ofNat_of_lt' (by change _ < 256; omega)

/-- That of the second byte. -/
lemma toNat_secondByte (hw : w < 64) : (secondByte v w).toNat = v % 16 * 16 + w / 4 :=
  UInt8.toNat_ofNat_of_lt' (by change _ < 256; omega)

/-- That of the third byte. -/
lemma toNat_thirdByte (hw : w < 64) : (thirdByte v w).toNat = v % 4 * 64 + w :=
  UInt8.toNat_ofNat_of_lt' (by change _ < 256; omega)

/-! ## Bytes of sextets of bytes -/

/-- The first byte comes back from its sextets. -/
lemma firstByte_sextets : firstByte (firstSextet x) (secondSextet x y) = x := by
  have := y.toNat_lt
  apply UInt8.toNat_inj.mp
  rw [toNat_firstByte firstSextet_lt secondSextet_lt, firstSextet, secondSextet]
  omega

/-- So does the second byte. -/
lemma secondByte_sextets : secondByte (secondSextet x y) (thirdSextet y z) = y := by
  have := y.toNat_lt
  have := z.toNat_lt
  apply UInt8.toNat_inj.mp
  rw [toNat_secondByte thirdSextet_lt, secondSextet, thirdSextet]
  omega

/-- So does the third byte. -/
lemma thirdByte_sextets : thirdByte (thirdSextet y z) (fourthSextet z) = z := by
  have := z.toNat_lt
  apply UInt8.toNat_inj.mp
  rw [toNat_thirdByte fourthSextet_lt, thirdSextet, fourthSextet]
  omega

/-! ## Sextets of bytes of sextets -/

/-- The first sextet comes back from the bytes. -/
lemma firstSextet_bytes (hv : v < 64) (hw : w < 64) : firstSextet (firstByte v w) = v := by
  rw [firstSextet, toNat_firstByte hv hw]
  omega

/-- So does the second sextet. -/
lemma secondSextet_bytes (hu : u < 64) (hv : v < 64) (hw : w < 64) :
    secondSextet (firstByte u v) (secondByte v w) = v := by
  rw [secondSextet, toNat_firstByte hu hv, toNat_secondByte hw]
  omega

/-- So does the third sextet. -/
lemma thirdSextet_bytes (hv : v < 64) (hw : w < 64) :
    thirdSextet (secondByte u v) (thirdByte v w) = v := by
  rw [thirdSextet, toNat_secondByte hv, toNat_thirdByte hw]
  omega

/-- So does the fourth sextet. -/
lemma fourthSextet_bytes (hw : w < 64) : fourthSextet (thirdByte v w) = w := by
  rw [fourthSextet, toNat_thirdByte hw]
  omega

/-- Where the second byte is missing, the low bits of the second sextet are lost. -/
lemma secondSextet_alone (hu : u < 64) (hv : v < 64) :
    secondSextet (firstByte u v) 0 = v - v % 16 := by
  have zero : (0 : UInt8).toNat = 0 := rfl
  rw [secondSextet, toNat_firstByte hu hv, zero]
  omega

/-- Where the third byte is missing, the low bits of the third sextet are lost. -/
lemma thirdSextet_alone (hv : v < 64) : thirdSextet (secondByte u v) 0 = v - v % 4 := by
  have zero : (0 : UInt8).toNat = 0 := rfl
  rw [thirdSextet, toNat_secondByte hv, zero]
  omega

end UserPortal.Data

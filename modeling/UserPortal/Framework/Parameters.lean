import Mathlib.Algebra.Group.Nat.Defs
import Mathlib.Data.List.TakeWhile
import UserPortal.Framework.Utils
import UserPortal.Interaction.Failure

/-!
# Query parameters

Port of `ParseParameters`, `InitQueryBlock` and the functions of `src/framework/RESTAPI_Handler.h` which
read the parameters of a request. A parameter which is given more than once has its first value.

`parseParameters_spec`: the parameters are read exactly when the URI is one and every number of the query
block fits into 64 bits; `std::stoull` throws where one does not.
-/

namespace UserPortal
open Interaction

/-- `Poco::URI`, up to the parts which are used. -/
structure URI where
  host : String
  port : Nat
  path : String
  query : String
  deriving DecidableEq

/-- How Poco reads a URI, `none` where it throws, and the parameters of its query. -/
structure UriParser where
  parse : String → Option URI
  queryParameters : String → List (String × String)

/-- The host and the port of a URI, and what follows them. -/
def authority (s : String) : List Char × List Char :=
  match s.toList.dropPrefix? "https://".toList with
  | some rest => rest.span fun c => c ≠ '/' && c ≠ '?'
  | none => ([], s.toList)

/-- The reading of a URI where nothing is to be decoded. -/
def UriParser.plain : UriParser where
  parse s :=
    let (server, rest) := authority s
    some {
      host := String.ofList (server.takeWhile (· ≠ ':'))
      port := Nat.ofDigitChars 10 ((server.dropWhile (· ≠ ':')).drop 1) 0
      path := String.ofList (rest.takeWhile (· ≠ '?'))
      query := String.ofList ((rest.dropWhile (· ≠ '?')).drop 1) }
  queryParameters query :=
    if query = "" then []
    else (query.toList.splitOn '&').map fun parameter =>
      (String.ofList (parameter.takeWhile (· ≠ '=')), String.ofList ((parameter.dropWhile (· ≠ '=')).drop 1))

/-- An exception: of the family of `Poco::Exception`, or of the standard library. -/
inductive Thrown where
  | poco
  | invalidArgument
  | outOfRange
  deriving DecidableEq

/-- `Poco::URI::QueryParameters` -/
abbrev QueryParameters := List (String × String)

namespace QueryParameters

/-- The value of a parameter, the first one. -/
def value? (parameters : QueryParameters) (name : String) : Option String :=
  (parameters.find? fun parameter => parameter.1 = name).map Prod.snd

/-- `is_number` -/
def isNumber (s : String) : Bool := !s.toList.isEmpty && s.toList.all Char.isDigit

/-- `is_bool` -/
def isBool (s : String) : Bool := s = "true" || s = "false"

/-- The number which some digits write. -/
def numberOf (digits : List Char) : Nat := Nat.ofDigitChars 10 digits 0

/-- A sign, and what follows it. -/
def signed : List Char → Bool × List Char
  | '-' :: rest => (true, rest)
  | '+' :: rest => (false, rest)
  | text => (false, text)

/-- `std::stoull`: it skips spaces and a sign, and reads the digits which follow. -/
def stoull (s : String) : Except Thrown Nat :=
  let (negative, text) := signed (s.toList.dropWhile Utils.isSpace)
  let digits := text.takeWhile Char.isDigit
  if digits.isEmpty then .error .invalidArgument
  else if 2 ^ 64 ≤ numberOf digits then .error .outOfRange
  else if negative then .ok ((2 ^ 64 - numberOf digits) % 2 ^ 64)
  else .ok (numberOf digits)

variable (parameters : QueryParameters) (name : String)

/-- `GetParameter` at a `uint64_t` -/
def getNumber (default : Nat) : Except Thrown Nat :=
  match parameters.value? name with
  | none => .ok default
  | some s => if isNumber s then stoull s else .ok default

/-- `GetBoolParameter` -/
def getBoolParameter (default : Bool) : Bool :=
  match parameters.value? name with
  | none => default
  | some s => if isBool s then s = "true" else default

/-- `GetParameter` at a `std::string` -/
def getParameter (default : String) : String := (parameters.value? name).getD default

/-- `HasParameter` at a `uint64_t` -/
def hasNumber : Except Thrown (Option Nat) :=
  match parameters.value? name with
  | none => .ok none
  | some s => (stoull s).map some

end QueryParameters

/-- `QueryBlock` -/
structure QueryBlock where
  startDate : Nat := 0
  endDate : Nat := 0
  offset : Nat := 0
  limit : Nat := 0
  logType : Nat := 0
  serialNumber : String := ""
  filter : String := ""
  select : List String := []
  lifetime : Bool := false
  lastOnly : Bool := false
  newest : Bool := false
  countOnly : Bool := false
  additionalInfo : Bool := false
  deriving DecidableEq

/-- `Poco::StringTokenizer` at a comma: the empty string has no token. -/
def tokens (s : String) : List String :=
  if s = "" then [] else (s.toList.splitOn ',').map String.ofList

open QueryParameters in
/-- `InitQueryBlock` -/
def initQueryBlock (parameters : QueryParameters) : Except Thrown QueryBlock := do
  let serialNumber := getParameter parameters "serialNumber" ""
  let startDate ← getNumber parameters "startDate" 0
  let endDate ← getNumber parameters "endDate" 0
  let offset ← getNumber parameters "offset" 0
  let limit ← getNumber parameters "limit" 100
  let filter := getParameter parameters "filter" ""
  let lifetime := getBoolParameter parameters "lifetime" false
  let logType ← getNumber parameters "logType" 0
  let lastOnly := getBoolParameter parameters "lastOnly" false
  let newest := getBoolParameter parameters "newest" false
  let countOnly := getBoolParameter parameters "countOnly" false
  let additionalInfo := getBoolParameter parameters "withExtendedInfo" false
  let rawSelect := getParameter parameters "select" ""
  return {
    startDate, endDate, offset, limit, logType, serialNumber, filter, select := tokens rawSelect
    lifetime, lastOnly, newest, countOnly, additionalInfo }

/-- `ParseParameters` -/
def parseParameters (uris : UriParser) (uri : String) : Except Thrown (QueryParameters × QueryBlock) :=
  match uris.parse uri with
  | none => .error .poco
  | some u => (initQueryBlock (uris.queryParameters u.query)).map (uris.queryParameters u.query, ·)

/-! ## The numbers -/

namespace QueryParameters

variable {parameters : QueryParameters} {name s : String} {default n : Nat} {e : Thrown}

/-- The value of a parameter is no number which is too large. -/
def InRange (parameters : QueryParameters) (name : String) : Prop :=
  ∀ s, parameters.value? name = some s → isNumber s = true → numberOf s.toList < 2 ^ 64

/-- A text which starts with a digit has neither spaces nor a sign before it. -/
lemma signed_dropWhile_of_isDigit {c : Char} {cs : List Char} (digit : c.isDigit = true) :
    signed ((c :: cs).dropWhile Utils.isSpace) = (false, c :: cs) := by
  have noSpace : ¬ Utils.isSpace c = true := by
    intro space
    have low : 48 ≤ c.toNat := (Char.isDigit_iff_toNat.mp digit).1
    simp only [Utils.isSpace, Bool.or_eq_true, decide_eq_true_eq] at space
    rcases space with ((((rfl | rfl) | rfl) | eq) | eq) | rfl
    · cases digit
    · cases digit
    · cases digit
    · omega
    · omega
    · cases digit
  rw [List.dropWhile_cons_of_neg noSpace]
  unfold signed
  split
  case h_1 eq =>
    cases eq
    cases digit
  case h_2 eq =>
    cases eq
    cases digit
  case h_3 => rfl

/-- The digits of a number are all of it. -/
lemma stoull_of_isNumber (number : isNumber s = true) :
    stoull s = if 2 ^ 64 ≤ numberOf s.toList then .error .outOfRange else .ok (numberOf s.toList) := by
  obtain ⟨some, all⟩ := Bool.and_eq_true_iff.mp number
  have digits : ∀ c ∈ s.toList, c.isDigit = true := List.all_eq_true.mp all
  rw [stoull]
  cases text : s.toList with
  | nil =>
    rw [text] at some
    cases some
  | cons c cs =>
    rw [text] at digits
    rw [signed_dropWhile_of_isDigit (digits c (List.mem_cons_self ..))]
    dsimp only
    rw [List.takeWhile_eq_self_iff.mpr digits]
    rfl

/-- A number parameter is read and fits into 64 bits, or it is out of range. -/
lemma getNumber_spec (parameters : QueryParameters) (name : String) {default : Nat}
    (fits : default < 2 ^ 64) :
    (∃ n, getNumber parameters name default = .ok n ∧ n < 2 ^ 64 ∧ InRange parameters name) ∨
      getNumber parameters name default = .error .outOfRange ∧ ¬ InRange parameters name := by
  rw [getNumber, InRange]
  cases parameters.value? name with
  | none => exact .inl ⟨default, rfl, fits, nofun⟩
  | some s =>
    dsimp only
    by_cases number : isNumber s = true
    · rw [if_pos number, stoull_of_isNumber number]
      split
      case isTrue large =>
        refine .inr ⟨rfl, fun all => ?_⟩
        exact absurd (all s rfl number) (Nat.not_lt.mpr large)
      case isFalse small =>
        refine .inl ⟨_, rfl, Nat.not_le.mp small, ?_⟩
        rintro _ ⟨⟩ _
        exact Nat.not_le.mp small
    · rw [if_neg number]
      refine .inl ⟨default, rfl, fits, ?_⟩
      rintro _ ⟨⟩ is
      exact absurd is number

lemma signed_subset (text : List Char) : (signed text).2 ⊆ text := by
  unfold signed
  split
  case h_1 => exact List.subset_cons_self _ _
  case h_2 => exact List.subset_cons_self _ _
  case h_3 => exact List.Subset.refl _

/-- `HasParameter` does not look whether there are digits, and `std::stoull` throws where there are none. -/
lemma hasNumber_of_noDigit (given : parameters.value? name = some s)
    (noDigit : ∀ c ∈ s.toList, ¬ c.isDigit = true) :
    hasNumber parameters name = .error .invalidArgument := by
  have none : (signed (s.toList.dropWhile Utils.isSpace)).2.takeWhile Char.isDigit = [] := by
    refine List.eq_nil_iff_forall_not_mem.mpr fun c mem => ?_
    have before := signed_subset _ ((List.takeWhile_sublist _).subset mem)
    have here := (List.dropWhile_sublist _).subset before
    exact noDigit c here (List.mem_takeWhile_imp mem)
  have throws : stoull s = .error .invalidArgument := by
    rw [stoull]
    dsimp only
    rw [none]
    rfl
  rw [hasNumber, given]
  dsimp only
  rw [throws]
  rfl

end QueryParameters

/-! ## The query block -/

open QueryParameters

/-- The numbers of the query block. -/
def numericFields : List String := ["startDate", "endDate", "offset", "limit", "logType"]

/-- The numbers of a query block are in the range of a `uint64_t`. -/
structure QueryBlock.Fits (qb : QueryBlock) : Prop where
  startDate : qb.startDate < 2 ^ 64
  endDate : qb.endDate < 2 ^ 64
  offset : qb.offset < 2 ^ 64
  limit : qb.limit < 2 ^ 64
  logType : qb.logType < 2 ^ 64

/-- The query block is read, or a number of it is too large. -/
lemma initQueryBlock_spec (parameters : QueryParameters) :
    (∃ qb, initQueryBlock parameters = .ok qb ∧ qb.Fits ∧
        ∀ name ∈ numericFields, parameters.InRange name) ∨
      initQueryBlock parameters = .error .outOfRange ∧
        ∃ name ∈ numericFields, ¬ parameters.InRange name := by
  have zero : 0 < 2 ^ 64 := by decide
  rw [initQueryBlock]
  rcases getNumber_spec parameters "startDate" zero with ⟨startDate, eq, lt1, h1⟩ | ⟨eq, out⟩
  case inr => exact .inr ⟨by rw [eq]; rfl, _, by decide, out⟩
  rw [eq]
  rcases getNumber_spec parameters "endDate" zero with ⟨endDate, eq, lt2, h2⟩ | ⟨eq, out⟩
  case inr => exact .inr ⟨by rw [eq]; rfl, _, by decide, out⟩
  rw [eq]
  rcases getNumber_spec parameters "offset" zero with ⟨offset, eq, lt3, h3⟩ | ⟨eq, out⟩
  case inr => exact .inr ⟨by rw [eq]; rfl, _, by decide, out⟩
  rw [eq]
  rcases getNumber_spec parameters "limit" (show 100 < 2 ^ 64 by decide) with ⟨limit, eq, lt4, h4⟩ | ⟨eq, out⟩
  case inr => exact .inr ⟨by rw [eq]; rfl, _, by decide, out⟩
  rw [eq]
  rcases getNumber_spec parameters "logType" zero with ⟨logType, eq, lt5, h5⟩ | ⟨eq, out⟩
  case inr => exact .inr ⟨by rw [eq]; rfl, _, by decide, out⟩
  rw [eq]
  refine .inl ⟨_, rfl, ⟨lt1, lt2, lt3, lt4, lt5⟩, ?_⟩
  rintro name (_ | ⟨_, _ | ⟨_, _ | ⟨_, _ | ⟨_, _ | ⟨_, ⟨⟩⟩⟩⟩⟩⟩)
  · exact h1
  · exact h2
  · exact h3
  · exact h4
  · exact h5

/-- Some number of the query of a request is too large. -/
def Overflows (uris : UriParser) (uri : String) : Prop :=
  ∃ u, uris.parse uri = some u ∧
    ∃ name ∈ numericFields, ¬ InRange (uris.queryParameters u.query) name

/-- `ParseParameters` returns, or throws the exception of Poco or the one of `std::stoull`. -/
lemma parseParameters_spec (uris : UriParser) (uri : String) :
    (∃ r, parseParameters uris uri = .ok r ∧ r.2.Fits ∧ ¬ Overflows uris uri) ∨
      (parseParameters uris uri = .error .poco ∧ ¬ Overflows uris uri) ∨
      parseParameters uris uri = .error .outOfRange ∧ Overflows uris uri := by
  rw [parseParameters]
  cases parsed : uris.parse uri with
  | none =>
    refine .inr (.inl ⟨rfl, ?_⟩)
    rintro ⟨u, eq, _⟩
    rw [parsed] at eq
    cases eq
  | some u =>
    dsimp only
    rcases initQueryBlock_spec (uris.queryParameters u.query) with ⟨qb, eq, fits, all⟩ | ⟨eq, out⟩
    · rw [eq]
      refine .inl ⟨_, rfl, fits, ?_⟩
      rintro ⟨u', eq', name, mem, out⟩
      rw [parsed] at eq'
      cases eq'
      exact out (all name mem)
    · rw [eq]
      exact .inr (.inr ⟨rfl, u, parsed, out⟩)

/-- The exception of `std::stoull` is thrown where a number is too large. -/
lemma parseParameters_outOfRange_iff {uris : UriParser} {uri : String} :
    parseParameters uris uri = .error .outOfRange ↔ Overflows uris uri := by
  rcases parseParameters_spec uris uri with ⟨r, eq, _, fits⟩ | ⟨eq, fits⟩ | ⟨eq, overflows⟩
  · rw [eq]
    exact iff_of_false nofun fits
  · rw [eq]
    exact iff_of_false nofun fits
  · exact iff_of_true eq overflows

/-- The numbers which are read are in range. -/
lemma fits_of_parsed {uris : UriParser} {uri : String} {read : QueryParameters × QueryBlock}
    (parsed : parseParameters uris uri = .ok read) : read.2.Fits := by
  rcases parseParameters_spec uris uri with ⟨r, eq, fits, _⟩ | ⟨eq, _⟩ | ⟨eq, _⟩
  · rw [eq] at parsed
    cases parsed
    exact fits
  · rw [eq] at parsed
    cases parsed
  · rw [eq] at parsed
    cases parsed

end UserPortal

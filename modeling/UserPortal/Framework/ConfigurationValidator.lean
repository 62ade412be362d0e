import UserPortal.Framework.IPAddress
import UserPortal.Framework.NumberConversion
import UserPortal.Framework.StringTokenizer

/-!
# Formats of configurations

Port of `ExternalValijsonFormatChecker` of `src/framework/ConfigurationValidator.cpp` and of the functions which
recognise the formats of networks and ports. Address parsing, regular expressions and URIs are those of the
libraries: a structure of parameters.

`exactlyDeclared_iff`: a format is checked as it is declared unless `atoi` reads a mask which is none, or the
value is a port or a range of ports, which the checker never accepts.
-/

namespace UserPortal.ConfigurationValidator
open QueryParameters

/-- What the checker uses of Poco and of the standard library. -/
structure Library where
  tryParse : String → Option IPAddress
  regexMatch : (value pattern : String) → Bool
  isUri : String → Bool

/-- The errors which a validation has pushed, with their contexts. -/
abbrev ValidationResults := List (List String × String)

variable (lib : Library)

/-- An address of a family. -/
def isFamily (family : Family) (value : String) : Bool :=
  match lib.tryParse value with
  | some a => a.family = family
  | none => false

/-- `IsIPv4` -/
def isIPv4 (value : String) : Bool := isFamily lib .ipv4 value

/-- `IsIPv6` -/
def isIPv6 (value : String) : Bool := isFamily lib .ipv6 value

/-- `IsIP` -/
def isIP (value : String) : Bool := isIPv4 lib value || isIPv6 lib value

/-- An address and a mask between two bounds. -/
def isCIDRWithin (isAddress : String → Bool) (low high : Int) (value : String) : Bool :=
  match StringTokenizer.tokens value "/" with
  | [address, mask] => isAddress address && (low ≤ atoi mask && atoi mask ≤ high)
  | _ => false

/-- `IsCIDRv6` -/
def isCIDRv6 (value : String) : Bool := isCIDRWithin (isIPv6 lib) 48 128 value

/-- `IsCIDRv4` -/
def isCIDRv4 (value : String) : Bool := isCIDRWithin (isIPv4 lib) 0 32 value

/-- `IsCIDR` -/
def isCIDR (value : String) : Bool := isCIDRv4 lib value || isCIDRv6 lib value

/-- The loop of `IsPortRangeIsValid` over the ports. -/
def portsAreValid : List String → Except Thrown Bool
  | [] => .ok true
  | port :: ports => do
    let number ← stoull port
    let portNum := number % 2 ^ 32
    if portNum = 0 || 65535 < portNum then return false
    portsAreValid ports

/-- `IsPortRangeIsValid`, which splits `"-"` at the characters of the value. -/
def isPortRangeIsValid (r : String) : Except Thrown Bool := portsAreValid (StringTokenizer.trimmedTokens "-" r)

/-- `host_regex` -/
def hostRegex : String :=
  "^(?=.\x7b1,254\x7d$)((?=[a-z0-9-]\x7b1,63\x7d\\.)(xn--+)?[a-z0-9]+(-[a-z0-9]+)*\\.)+[a-z]\x7b2,63\x7d$"

/-- `mac_regex` -/
def macRegex : String := "^([0-9A-Fa-f]\x7b2\x7d[:-])\x7b5\x7d([0-9A-Fa-f]\x7b2\x7d)$"

/-- `uc_timeout_regex` -/
def ucTimeoutRegex : String := "^[0-9]+[dmshw]$"

/-- `b64_regex` -/
def b64Regex : String := "^[a-zA-Z0-9\\+/]*=\x7b0,3\x7d$"

/-- Push an error unless a value is accepted. -/
def check (accepted : Bool) (value what : String) (context : List String) (results : Option ValidationResults) :
    Bool × Option ValidationResults :=
  if accepted then (true, results)
  else (true, results.map fun errors => errors ++ [(context, value ++ " is not " ++ what)])

/-- `ExternalValijsonFormatChecker` -/
def externalValijsonFormatChecker (format value : String) (context : List String)
    (results : Option ValidationResults) : Bool × Option ValidationResults :=
  if format = "uc-cidr4" then check (isCIDRv4 lib value) value "a valid CIDR IPv4 block" context results
  else if format = "uc-cidr6" then check (isCIDRv6 lib value) value "a valid CIDR IPv6 block" context results
  else if format = "uc-cidr" then check (isCIDR lib value) value "a valid CIDR block" context results
  else if format = "uc-mac" then
    check (lib.regexMatch value macRegex) value "a valid MAC address" context results
  else if format = "uc-timeout" then
    check (lib.regexMatch value ucTimeoutRegex) value "a valid timeout value" context results
  else if format = "uc-host" then
    check (isIP lib value || lib.regexMatch value hostRegex) value "a valid hostname" context results
  else if format = "fqdn" || format = "uc-fqdn" then
    check (lib.regexMatch value hostRegex) value "a valid FQDN" context results
  else if format = "uc-base64" then
    let s := Utils.trim value
    check (s.length % 4 = 0 && lib.regexMatch s b64Regex) value "a valid base 64 value" context results
  else if format = "uri" then check (lib.isUri value) value "a valid URL" context results
  else if format = "uc-portrange" then
    -- an exception is caught, and is no acceptance
    check ((isPortRangeIsValid value).toOption.getD false) value "a valid post range" context results
  else if format = "ip" then check (isIP lib value) value "a valid IP address" context results
  else (true, results)

/-! ## The declared formats -/

/-- A network: an address and a complete mask. -/
def IsNetwork (isAddress : String → Bool) (low high : Nat) (value : String) : Prop :=
  ∃ address mask : String, value.toList = address.toList ++ '/' :: mask.toList ∧ '/' ∉ address.toList ∧
    isAddress address = true ∧ DecimalWithin low high mask

/-- A port, or two of them. -/
def IsPortRange (value : String) : Prop :=
  DecimalWithin 1 65535 value ∨
    ∃ first last : String, value.toList = first.toList ++ '-' :: last.toList ∧
      DecimalWithin 1 65535 first ∧ DecimalWithin 1 65535 last

/-- The formats of ports and networks. -/
inductive Format where
  | portRange
  | cidr4
  | cidr6
  | cidr
  deriving DecidableEq

namespace Format

/-- The name of a format. -/
def name : Format → String
  | portRange => "uc-portrange"
  | cidr4 => "uc-cidr4"
  | cidr6 => "uc-cidr6"
  | cidr => "uc-cidr"

/-- The values of a format. -/
def Declares : Format → String → Prop
  | portRange, value => IsPortRange value
  | cidr4, value => IsNetwork (isIPv4 lib) 0 32 value
  | cidr6, value => IsNetwork (isIPv6 lib) 48 128 value
  | cidr, value => IsNetwork (isIPv4 lib) 0 32 value ∨ IsNetwork (isIPv6 lib) 48 128 value

end Format

/-- The values which are accepted are those of the format, and an error is pushed for all others. -/
structure ExactlyDeclared (format : Format) (value : String) : Prop where
  accepted : (∀ context errors,
    (externalValijsonFormatChecker lib format.name value context (some errors)).2 = some errors) ↔
      format.Declares lib value
  rejected : (∀ context errors, ∃ message,
    (externalValijsonFormatChecker lib format.name value context (some errors)).2 =
      some (errors ++ [(context, message)])) ↔ ¬ format.Declares lib value

/-! ## What is misread -/

/-- An address, and a mask which `atoi` reads between the bounds although it is empty, has other characters
than digits, or does not fit into 32 bits. -/
def HasStrayMask (isAddress : String → Bool) (low high : Nat) (value : String) : Prop :=
  ∃ address mask : String, value.toList = address.toList ++ '/' :: mask.toList ∧
    '/' ∉ address.toList ∧ '/' ∉ mask.toList ∧ isAddress address = true ∧
    (low ≤ atoi mask ∧ atoi mask ≤ high) ∧
    (mask = "" ∨ (∃ c ∈ mask.toList, ¬ c.isDigit = true) ∨ 2 ^ 32 ≤ numberOf mask.toList)

/-- The values on which a format fails. -/
def Format.Misreads : Format → String → Prop
  | portRange, value => IsPortRange value
  | cidr4, value => HasStrayMask (isIPv4 lib) 0 32 value
  | cidr6, value => HasStrayMask (isIPv6 lib) 48 128 value
  | cidr, value => HasStrayMask (isIPv4 lib) 0 32 value ∨ HasStrayMask (isIPv6 lib) 48 128 value

section Networks

variable {isAddress isAddress' : String → Bool} {low high low' high' : Nat} {value : String}

/-- What is recognised as a network. -/
lemma isCIDRWithin_iff :
    isCIDRWithin isAddress low high value = true ↔
      ∃ address mask : String, value.toList = address.toList ++ '/' :: mask.toList ∧
        '/' ∉ address.toList ∧ '/' ∉ mask.toList ∧ isAddress address = true ∧
        (low ≤ atoi mask ∧ atoi mask ≤ high) := by
  rw [isCIDRWithin]
  refine ⟨?_, ?_⟩
  · intro accepted
    split at accepted
    case h_1 address mask parted =>
      obtain ⟨eq, free, free'⟩ := (StringTokenizer.tokens_eq_pair_iff rfl).mp parted
      obtain ⟨isA, within⟩ := Bool.and_eq_true_iff.mp accepted
      obtain ⟨lower, upper⟩ := Bool.and_eq_true_iff.mp within
      exact ⟨address, mask, eq, free, free', isA, of_decide_eq_true lower, of_decide_eq_true upper⟩
    case h_2 => cases accepted
  · rintro ⟨address, mask, eq, free, free', isA, lower, upper⟩
    rw [(StringTokenizer.tokens_eq_pair_iff rfl).mpr ⟨eq, free, free'⟩]
    dsimp only
    rw [isA, decide_eq_true lower, decide_eq_true upper]
    rfl

/-- A complete decimal has no slash. -/
lemma slash_not_mem {mask : String} (decimal : DecimalWithin low high mask) : '/' ∉ mask.toList := by
  intro mem
  have digit := (isNumber_eq_true_iff.mp decimal.1).2 '/' mem
  cases digit

/-- What is recognised is a network, or it is misread. -/
lemma isCIDRWithin_iff_or (small : high < 2 ^ 31) :
    isCIDRWithin isAddress low high value = true ↔
      IsNetwork isAddress low high value ∨ HasStrayMask isAddress low high value := by
  rw [isCIDRWithin_iff]
  refine ⟨?_, ?_⟩
  · rintro ⟨address, mask, eq, free, free', isA, lower, upper⟩
    -- atoi reads a number of 32 bits as it is written, and a number between the bounds is one of 31
    by_cases number : isNumber mask = true ∧ numberOf mask.toList < 2 ^ 32
    · exact Or.inl ⟨address, mask, eq, free, isA, decimal_of_atoi lower upper number.1 number.2⟩
    · refine Or.inr ⟨address, mask, eq, free, free', isA, ⟨lower, upper⟩, ?_⟩
      rw [isNumber_eq_true_iff, not_and_or, not_and_or, not_not, not_forall, Nat.not_lt, or_assoc] at number
      exact number.imp_right fun other => other.imp_left fun ⟨c, noDigit⟩ => ⟨c, Classical.not_imp.mp noDigit⟩
  · rintro (⟨address, mask, eq, free, isA, decimal⟩ | ⟨address, mask, eq, free, free', isA, within, -⟩)
    · refine ⟨address, mask, eq, free, slash_not_mem decimal, isA, ?_⟩
      rw [atoi_of_decimal decimal small]
      exact ⟨Int.ofNat_le.mpr decimal.2.1, Int.ofNat_le.mpr decimal.2.2⟩
    · exact ⟨address, mask, eq, free, free', isA, within⟩

/-- A network is not misread, as a network of any kind. -/
lemma IsNetwork.not_stray (network : IsNetwork isAddress low high value) (small : high < 2 ^ 31) :
    ¬ HasStrayMask isAddress' low' high' value := by
  rintro ⟨address', mask', eq', free', maskFree', -, -, stray⟩
  obtain ⟨address, mask, eq, free, -, decimal⟩ := network
  -- both descriptions part the value at its only slash, so they have one mask
  have single : "/".toList = ['/'] := rfl
  have parted := (StringTokenizer.tokens_eq_pair_iff single).mpr ⟨eq, free, slash_not_mem decimal⟩
  have parted' := (StringTokenizer.tokens_eq_pair_iff single).mpr ⟨eq', free', maskFree'⟩
  have same : mask = mask' := by
    rw [parted] at parted'
    cases parted'
    rfl
  obtain ⟨number, -, le⟩ := decimal
  obtain ⟨some, digits⟩ := isNumber_eq_true_iff.mp number
  rw [same] at some digits le
  rcases stray with empty | ⟨c, mem, noDigit⟩ | large
  · exact some empty
  · exact noDigit (digits c mem)
  · omega

lemma isCIDRWithin_iff_network (small : high < 2 ^ 31) :
    (isCIDRWithin isAddress low high value = true ↔ IsNetwork isAddress low high value) ↔
      ¬ HasStrayMask isAddress low high value := by
  rw [isCIDRWithin_iff_or small, or_iff_left_iff_imp]
  refine ⟨?_, ?_⟩
  · intro networks stray
    exact (networks stray).not_stray small stray
  · intro none stray
    exact absurd stray none

end Networks

/-- No port is ever accepted, and no range of ports. -/
lemma isPortRangeIsValid_throws (r : String) : isPortRangeIsValid r = .error .invalidArgument := by
  -- it is the text "-" which is parted, at the characters of the value
  have single : StringTokenizer.tokens "-" r = ["", ""] ∨ StringTokenizer.tokens "-" r = ["-"] := by
    have minus : "-".toList = ['-'] := rfl
    rw [StringTokenizer.tokens, if_neg (by decide), minus]
    by_cases contained : r.toList.contains '-'
    · left
      rw [List.splitOnP_cons_eq_if_modifyHead, if_pos contained]
      rfl
    · right
      rw [List.splitOnP_cons_eq_if_modifyHead, if_neg contained]
      rfl
  rw [isPortRangeIsValid, StringTokenizer.trimmedTokens]
  rcases single with tokens | tokens
  · rw [tokens]
    rfl
  · rw [tokens]
    rfl

/-- A format is exactly what is declared when what is accepted is. -/
lemma exactlyDeclared_of_check {lib : Library} {format : Format} {value what : String} {accepted : Bool}
    (checks : ∀ context results,
      externalValijsonFormatChecker lib format.name value context results =
        check accepted value what context results) :
    ExactlyDeclared lib format value ↔ (accepted = true ↔ format.Declares lib value) := by
  cases accepted with
  | true =>
    have accepts (context : List String) (errors : ValidationResults) :
        (externalValijsonFormatChecker lib format.name value context (some errors)).2 = some errors := by
      rw [checks, check, if_pos rfl]
    rw [iff_true_left rfl]
    refine ⟨?_, ?_⟩
    · intro exactly
      exact exactly.accepted.mp accepts
    · intro declared
      refine ⟨iff_of_true accepts declared, iff_of_false ?_ (not_not_intro declared)⟩
      intro pushes
      obtain ⟨message, pushed⟩ := pushes [] []
      rw [accepts] at pushed
      cases pushed
  | false =>
    have pushes (context : List String) (errors : ValidationResults) :
        (externalValijsonFormatChecker lib format.name value context (some errors)).2 =
          some (errors ++ [(context, value ++ " is not " ++ what)]) := by
      rw [checks, check, if_neg Bool.false_ne_true]
      rfl
    have rejects : ¬ ∀ context errors,
        (externalValijsonFormatChecker lib format.name value context (some errors)).2 = some errors := by
      intro accepts
      have accepted := accepts [] []
      rw [pushes] at accepted
      cases accepted
    rw [iff_false_left Bool.false_ne_true]
    refine ⟨?_, ?_⟩
    · intro exactly declared
      exact rejects (exactly.accepted.mpr declared)
    · intro undeclared
      exact ⟨iff_of_false rejects undeclared, iff_of_true (fun context errors => ⟨_, pushes context errors⟩) undeclared⟩

/-- A format is checked as it is declared if and only if the value is not misread: it is no port or range of
ports, and has no stray mask behind an address. -/
theorem exactlyDeclared_iff (format : Format) (value : String) :
    ExactlyDeclared lib format value ↔ ¬ format.Misreads lib value := by
  cases format with
  | portRange =>
    have refused : (isPortRangeIsValid value).toOption.getD false = false := by
      rw [isPortRangeIsValid_throws]
      rfl
    rw [exactlyDeclared_of_check (fun _ _ => rfl), refused, iff_false_left Bool.false_ne_true]
    rfl
  | cidr4 =>
    rw [exactlyDeclared_of_check (fun _ _ => rfl)]
    exact isCIDRWithin_iff_network (by decide)
  | cidr6 =>
    rw [exactlyDeclared_of_check (fun _ _ => rfl)]
    exact isCIDRWithin_iff_network (by decide)
  | cidr =>
    rw [exactlyDeclared_of_check (fun _ _ => rfl)]
    have four : isCIDRv4 lib value = true ↔
        IsNetwork (isIPv4 lib) 0 32 value ∨ HasStrayMask (isIPv4 lib) 0 32 value :=
      isCIDRWithin_iff_or (by decide)
    have six : isCIDRv6 lib value = true ↔
        IsNetwork (isIPv6 lib) 48 128 value ∨ HasStrayMask (isIPv6 lib) 48 128 value :=
      isCIDRWithin_iff_or (by decide)
    rw [isCIDR, Bool.or_eq_true, four, six, Format.Declares, Format.Misreads]
    refine ⟨?_, ?_⟩
    · rintro same (stray | stray)
      · rcases same.mp (Or.inl (Or.inr stray)) with network | network
        · exact network.not_stray (by decide) stray
        · exact network.not_stray (by decide) stray
      · rcases same.mp (Or.inr (Or.inr stray)) with network | network
        · exact network.not_stray (by decide) stray
        · exact network.not_stray (by decide) stray
    · intro none
      rw [not_or] at none
      rw [or_iff_left none.1, or_iff_left none.2]

/-- The libraries, as far as the address `10.0.0.0` goes. -/
def plainLibrary : Library where
  tryParse s := if s = "10.0.0.0" then some (.v4 0x0a000000) else none
  regexMatch _ _ := false
  isUri _ := false

/-- The port 80 is refused, and a network without a mask is accepted. -/
theorem exactlyDeclared_fails :
    ¬ ExactlyDeclared plainLibrary .portRange "80" ∧ ¬ ExactlyDeclared plainLibrary .cidr4 "10.0.0.0/" := by
  refine ⟨?_, ?_⟩
  · intro exactly
    have port : IsPortRange "80" := Or.inl ⟨rfl, by decide, by decide⟩
    have accepted := exactly.accepted.mpr port [] []
    cases accepted
  · intro exactly
    have accepts : ∀ context errors,
        (externalValijsonFormatChecker plainLibrary "uc-cidr4" "10.0.0.0/" context (some errors)).2 =
          some errors := fun _ _ => rfl
    have network : IsNetwork (isIPv4 plainLibrary) 0 32 "10.0.0.0/" := exactly.accepted.mp accepts
    have stray : HasStrayMask (isIPv4 plainLibrary) 0 32 "10.0.0.0/" :=
      ⟨"10.0.0.0", "", rfl, by decide, by decide, rfl, by decide, Or.inl rfl⟩
    exact network.not_stray (by decide) stray

end UserPortal.ConfigurationValidator

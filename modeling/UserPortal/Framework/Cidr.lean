import Mathlib.Data.List.Basic
import Mathlib.Data.Set.Defs
import UserPortal.Framework.IPAddress
import UserPortal.Framework.NumberConversion
import UserPortal.Framework.StringTokenizer

/-!
# Ranges of addresses

Port of `src/framework/CIDR.h`: `ValidateRange` and `IpInRange` look at the same four forms of a range, one
after the other. Poco's parsing of addresses is a parameter. What an execution does is an `Outcome`: besides
the exception of a text which is no address there are the shifts and the reads which the language leaves
undefined.

`ipInRange_sound_iff`: when the answer for a range which was validated is the one which the range denotes.
-/

namespace UserPortal.Cidr
open Data QueryParameters

/-- The end of an execution: a value, an exception, or undefined behaviour. -/
inductive Outcome (α : Type) where
  | value (a : α)
  | throws
  | undefined
  deriving DecidableEq

/-- `cidr_match`. The words are in the order of the network, which `htonl` turns the mask to. -/
def cidrMatch (addr net : BitVec 32) (bits : Nat) : Outcome Bool :=
  if bits = 0 then .value true
  -- the shift is by a negative amount
  else if 32 < bits then .undefined
  else .value ((addr ^^^ net) &&& (0xFFFFFFFF#32 <<< (32 - bits)) = 0#32)

/-- The comparison of the word which is not covered by whole words, if there is one. -/
def matchIncomplete (a n : Option (BitVec 32)) (bitsIncomplete : Nat) : Outcome Bool :=
  if bitsIncomplete ≠ 0 then
    match a, n with
    | some a, some n => .value ((a ^^^ n) &&& (0xFFFFFFFF#32 <<< (32 - bitsIncomplete)) = 0#32)
    -- the read is behind the address
    | _, _ => .undefined
  else .value true

/-- `cidr6_match`. `memcmp` reads all words which it compares. -/
def cidr6Match (address network : List (BitVec 32)) (bits : Nat) : Outcome Bool :=
  let bitsWhole := bits / 32
  let bitsIncomplete := bits % 32
  if address.length < bitsWhole ∨ network.length < bitsWhole then .undefined
  else if address.take bitsWhole ≠ network.take bitsWhole then .value false
  else matchIncomplete address[bitsWhole]? network[bitsWhole]? bitsIncomplete

/-- The `uint8_t` of an `unsigned long` which `ConvertStringToLong` read. -/
def toUInt8 (n : Int) : Nat := (n % 256).toNat

variable (parse : String → Option IPAddress)

/-- The comparison of `CidrIPinRange`, which depends on the family of the range. -/
def matchFamily (rangeIP ip : IPAddress) (bits : Nat) : Outcome Bool :=
  match rangeIP.family with
  | .ipv4 => cidrMatch (rangeIP.words.headD 0#32) (ip.words.headD 0#32) bits
  | .ipv6 => cidr6Match rangeIP.words ip.words bits

/-- The `i`-th token. -/
def token (tokens : List String) (i : Nat) : String := tokens.getD i ""

/-- `CidrIPinRange`, where `strtol` is `ConvertStringToLong`. -/
def cidrIPinRange (ip : IPAddress) (range : String) : Outcome Bool :=
  let timeTokens := StringTokenizer.trimmedTokens range "/"
  match parse (token timeTokens 0) with
  | none => .value false
  | some rangeIP =>
    if timeTokens.length = 2 then
      match strtol (token timeTokens 1) with
      | none => .value false
      | some maskLength => matchFamily rangeIP ip (toUInt8 maskLength)
    else .value false

/-- The family of an address after `tryParse`: a new address is one of IPv4. -/
def parsedFamily (s : String) : Family :=
  match parse s with
  | some a => a.family
  | none => .ipv4

/-- The check of an interval. The last address is parsed only when the first one is none. -/
def validateInterval (first last : String) : Bool :=
  if (parse first).isSome then parsedFamily parse first = .ipv4
  else if (parse last).isSome then false
  else parsedFamily parse first = parsedFamily parse last

/-- `ValidateRange` -/
def validateRange (r : String) : Bool :=
  let tokens := StringTokenizer.tokens r "-"
  if tokens.length = 2 then validateInterval parse (token tokens 0) (token tokens 1)
  else
    let tokens := StringTokenizer.tokens r ","
    if 1 < tokens.length then tokens.all fun a => (parse a).isSome
    else
      let tokens := StringTokenizer.tokens r "/"
      if tokens.length = 2 then (parse (token tokens 0)).isSome && atoi (token tokens 1) ≠ 0
      else (parse r).isSome

/-- An interval contains an address. -/
def inInterval (target : IPAddress) (first last : String) : Outcome Bool :=
  match parse first, parse last with
  | some a, some b => if target.family ≠ a.family then .value false else .value (a.le target && target.le b)
  | _, _ => .throws

/-- `std::any_of` over the elements of a set. -/
def anyEquals (target : IPAddress) : List String → Outcome Bool
  | [] => .value false
  | element :: elements =>
    match parse element with
    | none => .throws
    | some a => if a = target then .value true else anyEquals target elements

/-- `IpInRange` -/
def ipInRange (target : IPAddress) (r : String) : Outcome Bool :=
  let tokens := StringTokenizer.tokens r "-"
  if tokens.length = 2 then inInterval parse target (token tokens 0) (token tokens 1)
  else
    let tokens := StringTokenizer.tokens r ","
    if 1 < tokens.length then anyEquals parse target tokens
    else
      let tokens := StringTokenizer.tokens r "/"
      if tokens.length = 2 then cidrIPinRange parse target r
      else
        match parse r with
        | none => .throws
        | some a => .value (a = target)

/-- `std::any_of` over the ranges. -/
def inAnyRange (target : IPAddress) : List String → Outcome Bool
  | [] => .value false
  | r :: ranges =>
    match ipInRange parse target r with
    | .value true => .value true
    | .value false => inAnyRange target ranges
    | .throws => .throws
    | .undefined => .undefined

/-- `IpInRanges` -/
def ipInRanges (ip : String) (r : List String) : Outcome Bool :=
  match parse ip with
  | none => .value false
  | some target => inAnyRange parse target r

/-- `ValidateIpRanges` -/
def validateIpRanges (ranges : List String) : Bool := ranges.all (validateRange parse)

/-! ## What a range denotes -/

/-- The forms of a range. -/
inductive Form where
  | interval (first last : String)
  | set (elements : List String)
  | network (address mask : String)
  | single (address : String)

/-- The form of a range. -/
def form (r : String) : Form :=
  let interval := StringTokenizer.tokens r "-"
  let elements := StringTokenizer.tokens r ","
  let network := StringTokenizer.tokens r "/"
  if interval.length = 2 then .interval (token interval 0) (token interval 1)
  else if 1 < elements.length then .set elements
  else if network.length = 2 then .network (token network 0) (token network 1)
  else .single r

/-- Two addresses share their first bits. -/
def SharesBits (m : Nat) (a b : IPAddress) : Prop := ∀ i < m, a.bit i = b.bit i

/-- The set of addresses which a range denotes: those of an interval of one family, some addresses, those which
share the first bits of an address, or one address. -/
inductive Denotes : Form → Set IPAddress → Prop where
  | interval {first last a b} :
    parse first = some a →
    parse last = some b →
    a.family = b.family →
    Denotes (.interval first last) {t | t.family = a.family ∧ a.le t ∧ t.le b}
  | set {elements} :
    (∀ element ∈ elements, (parse element).isSome) →
    Denotes (.set elements) {t | ∃ element ∈ elements, parse element = some t}
  | network {address mask a} :
    parse (Utils.trim address) = some a →
    DecimalWithin 0 a.family.width (Utils.trim mask) →
    Denotes (.network address mask)
      {t | t.family = a.family ∧ SharesBits (numberOf (Utils.trim mask).toList) a t}
  | single {address a} :
    parse address = some a →
    Denotes (.single address) {t | t = a}

/-- A form denotes one set. -/
lemma Denotes.unique {parse : String → Option IPAddress} {form : Form} {s s' : Set IPAddress}
    (denotes : Denotes parse form s) (denotes' : Denotes parse form s') : s = s' := by
  cases denotes with
  | interval parsed last =>
    cases denotes' with
    | interval parsed' last' =>
      cases parsed.symm.trans parsed'
      cases last.symm.trans last'
      rfl
  | set =>
    cases denotes'
    rfl
  | network parsed =>
    cases denotes' with
    | network parsed' =>
      cases parsed.symm.trans parsed'
      rfl
  | single parsed =>
    cases denotes' with
    | single parsed' =>
      cases parsed.symm.trans parsed'
      rfl

/-- An execution ends with the answer to a question. -/
def Answers (outcome : Outcome Bool) (p : Prop) : Prop := ∃ b, outcome = .value b ∧ (b = true ↔ p)

/-- The answer for a target is whether the range denotes it. -/
def Sound (target : IPAddress) (r : String) : Prop :=
  ∃ s, Denotes parse (form r) s ∧ Answers (ipInRange parse target r) (target ∈ s)

/-- The condition under which the answer is right: both ends of an interval are addresses of one family; the
mask of a network is a complete decimal which fits the address, and a target of the other family already
differs in the bits which are compared, none of which may lie behind an address of IPv4. -/
def Meets (target : IPAddress) : Form → Prop
  | .interval first last => ∃ a b, parse first = some a ∧ parse last = some b ∧ a.family = b.family
  | .network address mask => ∃ a, parse (Utils.trim address) = some a ∧
      DecimalWithin 0 a.family.width (Utils.trim mask) ∧
      (target.family = a.family ∨
        numberOf (Utils.trim mask).toList < 64 ∧
          ¬ SharesBits (min (numberOf (Utils.trim mask).toList) 32) a target)
  | .set _ => True
  | .single _ => True

/-! ## Comparing bits -/

section Bits

variable {xs ys : List (BitVec 32)} {x y : BitVec 32} {a target : IPAddress} {bits m : Nat}

lemma answers_value {p : Prop} [Decidable p] {q : Prop} (iff : p ↔ q) : Answers (.value (decide p)) q :=
  ⟨_, rfl, decide_eq_true_iff.trans iff⟩

/-- An answer is no exactly when the question is not true. -/
lemma Answers.eq_false_iff {outcome : Outcome Bool} {p : Prop} (answers : Answers outcome p) :
    outcome = .value false ↔ ¬ p := by
  obtain ⟨b, eq, iff⟩ := answers
  rw [eq, ← iff, Outcome.value.injEq, Bool.not_eq_true]

lemma cidrMatch_answers (le : bits ≤ 32) :
    Answers (cidrMatch x y bits) (∀ i < bits, x.getMsbD i = y.getMsbD i) := by
  rw [cidrMatch]
  by_cases none : bits = 0
  · rw [if_pos none, none]
    exact ⟨true, rfl, iff_of_true rfl (fun i lt => absurd lt (Nat.not_lt_zero i))⟩
  · rw [if_neg none, if_neg (Nat.not_lt_of_le le)]
    exact answers_value (masked_eq_zero_iff le)

lemma matchIncomplete_answers {k : Nat} (incomplete : m < 32) (left : 32 * k + m ≤ 32 * xs.length)
    (right : 32 * k + m ≤ 32 * ys.length) :
    Answers (matchIncomplete xs[k]? ys[k]? m) (∀ i < m, bitAt xs (32 * k + i) = bitAt ys (32 * k + i)) := by
  unfold matchIncomplete
  by_cases some : m ≠ 0
  · have word : xs[k]? = .some xs[k] := List.getElem?_eq_getElem (by omega)
    have word' : ys[k]? = .some ys[k] := List.getElem?_eq_getElem (by omega)
    rw [if_pos some, word, word']
    refine answers_value ((masked_eq_zero_iff (Nat.le_of_lt incomplete)).trans ?_)
    refine forall_congr' fun i => imp_congr_right fun lt => ?_
    rw [bitAt_append_mul (by omega) word, bitAt_append_mul (by omega) word']
  · rw [if_neg some]
    refine ⟨true, rfl, iff_of_true rfl fun i lt => ?_⟩
    omega

lemma matchIncomplete_none {a : Option (BitVec 32)} (some : m ≠ 0) : matchIncomplete a none m = .undefined := by
  unfold matchIncomplete
  rw [if_pos some]
  cases a <;> rfl

/-- As long as both addresses have the bits which are compared, they are compared. -/
lemma cidr6Match_answers (left : bits ≤ 32 * xs.length) (right : bits ≤ 32 * ys.length) :
    Answers (cidr6Match xs ys bits) (∀ i < bits, bitAt xs i = bitAt ys i) := by
  have inside : ¬ (xs.length < bits / 32 ∨ ys.length < bits / 32) := by omega
  have whole : xs.take (bits / 32) = ys.take (bits / 32) ↔
      ∀ i < 32 * (bits / 32), bitAt xs i = bitAt ys i := take_eq_take_iff (by omega) (by omega)
  rw [cidr6Match, if_neg inside]
  by_cases same : xs.take (bits / 32) = ys.take (bits / 32)
  · rw [if_neg (not_not_intro same)]
    have incomplete : Answers (matchIncomplete xs[bits / 32]? ys[bits / 32]? (bits % 32))
        (∀ i < bits % 32, bitAt xs (32 * (bits / 32) + i) = bitAt ys (32 * (bits / 32) + i)) :=
      matchIncomplete_answers (Nat.mod_lt _ (by decide)) (by omega) (by omega)
    obtain ⟨b, eq, rest⟩ := incomplete
    refine ⟨b, eq, rest.trans ?_⟩
    refine ⟨?_, ?_⟩
    · intro last i lt
      by_cases early : i < 32 * (bits / 32)
      · exact whole.mp same i early
      · have bit := last (i - 32 * (bits / 32)) (by omega)
        rwa [Nat.add_sub_of_le (Nat.le_of_not_lt early)] at bit
    · intro all i lt
      exact all _ (by omega)
  · rw [if_pos same]
    refine ⟨false, rfl, iff_of_false Bool.false_ne_true fun all => same (whole.mpr ?_)⟩
    intro i lt
    exact all i (by omega)

/-- One word is compared with the first of more words, and nothing may be read behind it. -/
lemma cidr6Match_one_word (one : ys.length = 1) (wide : 32 < bits) (left : bits ≤ 32 * xs.length) :
    cidr6Match xs ys bits = .value false ↔ bits < 64 ∧ xs.take 1 ≠ ys.take 1 := by
  rw [cidr6Match]
  by_cases far : 64 ≤ bits
  · have behind : xs.length < bits / 32 ∨ ys.length < bits / 32 := by omega
    rw [if_pos behind]
    refine iff_of_false (fun eq => ?_) (by omega)
    cases eq
  · have inside : ¬ (xs.length < bits / 32 ∨ ys.length < bits / 32) := by omega
    have whole : bits / 32 = 1 := by omega
    rw [if_neg inside, whole]
    by_cases same : xs.take 1 = ys.take 1
    · -- the rest of the bits is behind the word
      have word : ys[1]? = none := List.getElem?_eq_none (by omega)
      have incomplete : bits % 32 ≠ 0 := by omega
      rw [if_neg (not_not_intro same), word, matchIncomplete_none incomplete]
      refine iff_of_false (fun eq => ?_) (fun differs => differs.2 same)
      cases eq
    · rw [if_pos same]
      exact iff_of_true rfl ⟨by omega, same⟩

lemma headD_words (a : IPAddress) {i : Nat} (inside : i < 32) : (a.words.headD 0#32).getMsbD i = a.bit i := by
  rw [← a.bitAt_words (Nat.lt_of_lt_of_le inside a.family.le_width), bitAt, Nat.div_eq_of_lt inside,
    Nat.mod_eq_of_lt inside]
  cases a <;> rfl

/-- The bits which both addresses have are compared. -/
lemma matchFamily_answers (le : m ≤ a.family.width) (fits : m ≤ target.family.width) :
    Answers (matchFamily a target m) (SharesBits m a target) := by
  have left := a.length_words
  have right := target.length_words
  rw [matchFamily]
  cases family : a.family with
  | ipv4 =>
    have narrow : m ≤ 32 := by rwa [family] at le
    have answers : Answers (cidrMatch (a.words.headD 0#32) (target.words.headD 0#32) m)
        (∀ i < m, (a.words.headD 0#32).getMsbD i = (target.words.headD 0#32).getMsbD i) :=
      cidrMatch_answers narrow
    obtain ⟨b, eq, iff⟩ := answers
    refine ⟨b, eq, iff.trans ?_⟩
    refine forall_congr' fun i => imp_congr_right fun lt => ?_
    rw [headD_words a (by omega), headD_words target (by omega)]
  | ipv6 =>
    have answers : Answers (cidr6Match a.words target.words m)
        (∀ i < m, bitAt a.words i = bitAt target.words i) := cidr6Match_answers (by omega) (by omega)
    obtain ⟨b, eq, iff⟩ := answers
    refine ⟨b, eq, iff.trans ?_⟩
    refine forall_congr' fun i => imp_congr_right fun lt => ?_
    rw [a.bitAt_words (by omega), target.bitAt_words (by omega)]

/-- When the target is an address of the other family, the answer is no if the bits differ in the first word
and nothing behind it is read. -/
lemma matchFamily_other (le : m ≤ a.family.width) (other : target.family ≠ a.family) :
    matchFamily a target m = .value false ↔ m < 64 ∧ ¬ SharesBits (min m 32) a target := by
  by_cases short : m ≤ 32
  · have fits : m ≤ target.family.width := Nat.le_trans short target.family.le_width
    rw [(matchFamily_answers le fits).eq_false_iff, Nat.min_eq_left short, and_iff_right (by omega)]
  · have left := a.length_words
    have right := target.length_words
    have family : a.family = .ipv6 := by
      cases family : a.family
      · rw [family] at le
        exact absurd le short
      · rfl
    have narrow : target.family = .ipv4 := by
      cases narrow : target.family
      · rfl
      · rw [family, narrow] at other
        exact absurd rfl other
    rw [family] at left
    rw [narrow] at right
    have left : 32 * a.words.length = 128 := left
    have right : 32 * target.words.length = 32 := right
    have first : a.words.take 1 = target.words.take 1 ↔ SharesBits 32 a target := by
      rw [take_eq_take_iff (by omega) (by omega)]
      refine forall_congr' fun i => imp_congr_right fun lt => ?_
      rw [a.bitAt_words (Nat.lt_of_lt_of_le lt a.family.le_width),
        target.bitAt_words (Nat.lt_of_lt_of_le lt target.family.le_width)]
    rw [family] at le
    have le : m ≤ 128 := le
    rw [matchFamily, family, Nat.min_eq_right (by omega), ← first]
    exact cidr6Match_one_word (by omega) (by omega) (by omega)

end Bits

/-! ## Answers -/

section Answers

variable {parse : String → Option IPAddress} {target : IPAddress} {first last r : String} {elements : List String}

/-- When an interval is answered. -/
lemma inInterval_sound_iff :
    (∃ s, Denotes parse (.interval first last) s ∧ Answers (inInterval parse target first last) (target ∈ s)) ↔
      Meets parse target (.interval first last) := by
  refine ⟨?_, ?_⟩
  · rintro ⟨s, denotes, -⟩
    cases denotes with
    | interval parsed parsed' same => exact ⟨_, _, parsed, parsed', same⟩
  · rintro ⟨a, b, parsed, parsed', same⟩
    refine ⟨_, .interval parsed parsed' same, ?_⟩
    rw [inInterval, parsed, parsed']
    dsimp only
    by_cases other : target.family ≠ a.family
    · rw [if_pos other]
      exact ⟨false, rfl, iff_of_false Bool.false_ne_true fun mem => other mem.1⟩
    · rw [if_neg other]
      refine ⟨_, rfl, ?_⟩
      rw [Bool.and_eq_true]
      exact (and_iff_right (not_not.mp other)).symm

/-- A set of addresses is answered. -/
lemma anyEquals_answers (parsed : ∀ element ∈ elements, (parse element).isSome) :
    Answers (anyEquals parse target elements) (∃ element ∈ elements, parse element = some target) := by
  induction elements with
  | nil =>
    refine ⟨false, rfl, iff_of_false Bool.false_ne_true ?_⟩
    rintro ⟨element, mem, -⟩
    cases mem
  | cons element elements ih =>
    obtain ⟨b, eq, iff⟩ := ih fun other mem => parsed other (List.mem_cons_of_mem _ mem)
    obtain ⟨a, one⟩ := Option.isSome_iff_exists.mp (parsed element List.mem_cons_self)
    rw [anyEquals, one]
    dsimp only
    by_cases same : a = target
    · rw [if_pos same]
      exact ⟨true, rfl, iff_of_true rfl ⟨element, List.mem_cons_self, one.trans (congrArg some same)⟩⟩
    · rw [if_neg same]
      refine ⟨b, eq, iff.trans ?_⟩
      refine ⟨?_, ?_⟩
      · rintro ⟨other, mem, found⟩
        exact ⟨other, List.mem_cons_of_mem _ mem, found⟩
      · rintro ⟨other, mem, found⟩
        rcases List.mem_cons.mp mem with first | later
        · rw [first, one] at found
          exact absurd (Option.some.inj found) same
        · exact ⟨other, later, found⟩

/-- What a network is compared by, when its mask is a decimal which fits. -/
lemma cidrIPinRange_eq {a : IPAddress} (two : (StringTokenizer.tokens r "/").length = 2)
    (parsed : parse (Utils.trim (token (StringTokenizer.tokens r "/") 0)) = some a)
    (decimal : DecimalWithin 0 a.family.width (Utils.trim (token (StringTokenizer.tokens r "/") 1))) :
    cidrIPinRange parse target r =
      matchFamily a target (numberOf (Utils.trim (token (StringTokenizer.tokens r "/") 1)).toList) := by
  obtain ⟨address, mask, tokens⟩ := List.length_eq_two.mp two
  have head : token [address, mask] 0 = address := rfl
  have last : token [address, mask] 1 = mask := rfl
  rw [tokens, head] at parsed
  rw [tokens, last] at decimal
  rw [tokens, last]
  have trimmed : StringTokenizer.trimmedTokens r "/" = [Utils.trim address, Utils.trim mask] := by
    rw [StringTokenizer.trimmedTokens, tokens]
    rfl
  have head : token [Utils.trim address, Utils.trim mask] 0 = Utils.trim address := rfl
  have last : token [Utils.trim address, Utils.trim mask] 1 = Utils.trim mask := rfl
  have count : [Utils.trim address, Utils.trim mask].length = 2 := rfl
  obtain ⟨number, -, le⟩ := decimal
  have bits : toUInt8 ((min (numberOf (Utils.trim mask).toList) longMax : Nat) : Int) =
      numberOf (Utils.trim mask).toList := by
    have narrow : a.family.width ≤ 128 := by
      cases a.family <;> decide
    rw [toUInt8, longMax]
    omega
  rw [cidrIPinRange, trimmed, head, parsed]
  dsimp only
  rw [if_pos count, last, strtol_of_isNumber number]
  dsimp only
  rw [bits]

/-- When a network is answered. -/
lemma cidrIPinRange_sound_iff (two : (StringTokenizer.tokens r "/").length = 2) :
    let form := Form.network (token (StringTokenizer.tokens r "/") 0) (token (StringTokenizer.tokens r "/") 1)
    (∃ s, Denotes parse form s ∧ Answers (cidrIPinRange parse target r) (target ∈ s)) ↔
      Meets parse target form := by
  refine ⟨?_, ?_⟩
  · rintro ⟨s, denotes, answers⟩
    cases denotes with
    | @network _ _ a parsed decimal =>
      refine ⟨a, parsed, decimal, ?_⟩
      by_cases same : target.family = a.family
      · exact Or.inl same
      · right
        rw [cidrIPinRange_eq two parsed decimal] at answers
        rw [← matchFamily_other decimal.2.2 same, answers.eq_false_iff]
        exact fun mem => same mem.1
  · rintro ⟨a, parsed, decimal, compared⟩
    refine ⟨_, .network parsed decimal, ?_⟩
    rw [cidrIPinRange_eq two parsed decimal]
    by_cases same : target.family = a.family
    · have fits : numberOf (Utils.trim (token (StringTokenizer.tokens r "/") 1)).toList ≤ target.family.width := by
        rw [same]
        exact decimal.2.2
      obtain ⟨b, eq, iff⟩ := matchFamily_answers decimal.2.2 fits
      exact ⟨b, eq, iff.trans (and_iff_right same).symm⟩
    · rw [(matchFamily_other decimal.2.2 same).mpr (compared.resolve_left same)]
      exact ⟨false, rfl, iff_of_false Bool.false_ne_true fun mem => same mem.1⟩

/-- A list of ranges whose answers are right is answered as a whole: a target is in the ranges when one of them
denotes it. -/
lemma ipInRanges_answers {ip : String} {ranges : List String} (parsed : parse ip = some target)
    (sound : ∀ r ∈ ranges, Sound parse target r) :
    Answers (ipInRanges parse ip ranges) (∃ r ∈ ranges, ∃ s, Denotes parse (form r) s ∧ target ∈ s) := by
  rw [ipInRanges, parsed]
  dsimp only
  induction ranges with
  | nil =>
    refine ⟨false, rfl, iff_of_false Bool.false_ne_true ?_⟩
    rintro ⟨r, mem, -⟩
    cases mem
  | cons r ranges ih =>
    obtain ⟨s, denotes, b, eq, iff⟩ := sound r List.mem_cons_self
    obtain ⟨c, eqs, rest⟩ := ih fun other mem => sound other (List.mem_cons_of_mem _ mem)
    rw [inAnyRange, eq]
    cases b with
    | true => exact ⟨true, rfl, iff_of_true rfl ⟨r, List.mem_cons_self, s, denotes, iff.mp rfl⟩⟩
    | false =>
      refine ⟨c, eqs, rest.trans ?_⟩
      refine ⟨?_, ?_⟩
      · rintro ⟨other, mem, found⟩
        exact ⟨other, List.mem_cons_of_mem _ mem, found⟩
      · rintro ⟨other, mem, s', denotes', found⟩
        rcases List.mem_cons.mp mem with first | later
        · rw [first] at denotes'
          rw [denotes'.unique denotes] at found
          exact absurd (iff.mpr found) Bool.false_ne_true
        · exact ⟨other, later, s', denotes', found⟩

end Answers

/-- The parsing of addresses, as far as the address `10.0.0.0` goes. -/
def plainParse (s : String) : Option IPAddress := if s = "10.0.0.0" then some (.v4 0x0a000000#32) else none

/-- The answer for a target and a range which was validated is right if and only if the range meets the
condition of its form. -/
theorem ipInRange_sound_iff (target : IPAddress) (r : String) (valid : validateRange parse r = true) :
    Sound parse target r ↔ Meets parse target (form r) := by
  rw [Sound, form, ipInRange]
  rw [validateRange] at valid
  dsimp only at *
  by_cases interval : (StringTokenizer.tokens r "-").length = 2
  · rw [if_pos interval, if_pos interval]
    exact inInterval_sound_iff
  rw [if_neg interval, if_neg interval]
  rw [if_neg interval] at valid
  by_cases set : 1 < (StringTokenizer.tokens r ",").length
  · rw [if_pos set, if_pos set]
    rw [if_pos set, List.all_eq_true] at valid
    exact iff_of_true ⟨_, .set valid, anyEquals_answers valid⟩ trivial
  rw [if_neg set, if_neg set]
  rw [if_neg set] at valid
  by_cases network : (StringTokenizer.tokens r "/").length = 2
  · rw [if_pos network, if_pos network]
    exact cidrIPinRange_sound_iff network
  · rw [if_neg network, if_neg network]
    rw [if_neg network] at valid
    obtain ⟨a, parsed⟩ := Option.isSome_iff_exists.mp valid
    rw [parsed]
    exact iff_of_true ⟨_, .single parsed, answers_value eq_comm⟩ trivial

/-- A target inside of a network. -/
theorem ipInRange_sound_network :
    Sound plainParse (.v4 0x0a000007#32) "10.0.0.0/24" :=
  (ipInRange_sound_iff plainParse (.v4 0x0a000007#32) "10.0.0.0/24" rfl).mpr
    ⟨.v4 0x0a000000#32, rfl, ⟨rfl, by decide, by decide⟩, Or.inl rfl⟩

/-- A mask of 40 bits is validated, and shifts by a negative amount. -/
theorem ipInRange_undefined :
    validateRange plainParse "10.0.0.0/40" = true ∧ ¬ Sound plainParse (.v4 0x0a000007#32) "10.0.0.0/40" := by
  refine ⟨rfl, ?_⟩
  rintro ⟨s, -, b, eq, -⟩
  have shifts : ipInRange plainParse (.v4 0x0a000007#32) "10.0.0.0/40" = .undefined := rfl
  rw [shifts] at eq
  cases eq

end UserPortal.Cidr

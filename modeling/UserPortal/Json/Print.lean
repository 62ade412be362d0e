import Mathlib.Data.List.TakeWhile
import UserPortal.Json.Value

/-!
# Printing JSON values

The text of a value without any spaces. The printers of the libraries are parameters wherever the program
prints; this one stands for them in examples. Different values have different texts: what follows the text of a
value is the end or a character which no number contains, so the text of a value can be read off the front.
-/

namespace UserPortal.Json

/-- The text of a character of a string. -/
def escape (c : Char) : List Char :=
  if c = '"' || c = '\\' then ['\\', c]
  else if c.toNat < 32 then
    ['\\', 'u', '0', '0', Nat.digitChar (c.toNat / 16), Nat.digitChar (c.toNat % 16)]
  else [c]

/-- The text of a string, after the opening quote. -/
def quote : List Char → List Char
  | [] => ['"']
  | c :: cs => escape c ++ quote cs

/-- The text of an integer. -/
def intText : Int → List Char
  | .ofNat n => Nat.toDigits 10 n
  | .negSucc n => '-' :: Nat.toDigits 10 (n + 1)

mutual

/-- The text of a value. -/
def text : Json → List Char
  | .null => ['n', 'u', 'l', 'l']
  | .bool true => ['t', 'r', 'u', 'e']
  | .bool false => ['f', 'a', 'l', 's', 'e']
  | .int n => intText n
  | .frac m e => intText m ++ 'e' :: '-' :: Nat.toDigits 10 e
  | .str s => '"' :: quote s.toList
  | .arr [] => ['[', ']']
  | .arr (x :: xs) => '[' :: (text x ++ textItems xs)
  | .obj [] => ['{', '}']
  | .obj ((k, x) :: fields) => '{' :: '"' :: (quote k.toList ++ ':' :: (text x ++ textFields fields))

/-- The text of the further items of an array, with the closing bracket. -/
def textItems : List Json → List Char
  | [] => [']']
  | x :: xs => ',' :: (text x ++ textItems xs)

/-- The text of the further fields of an object, with the closing brace. -/
def textFields : List (String × Json) → List Char
  | [] => ['}']
  | (k, x) :: fields => ',' :: '"' :: (quote k.toList ++ ':' :: (text x ++ textFields fields))

end

/-- The text of an object. -/
def Object.condense (o : Object) : String := String.ofList (text (.obj o))

/-! ## Strings -/

/-- Different digits are written with different characters. -/
lemma digitChar_inj : ∀ m n : Fin 16, Nat.digitChar m = Nat.digitChar n → m = n := by decide

/-- The text of a character can be read off the front. -/
lemma escape_inj {c d : Char} {xs ys : List Char} (h : escape c ++ xs = escape d ++ ys) :
    c = d ∧ xs = ys := by
  unfold escape at h
  split at h
  case isTrue hc =>
    split at h
    case isTrue hd => simpa using h
    case isFalse hd =>
      split at h
      case isTrue =>
        simp only [List.cons_append, List.cons.injEq] at h
        simp [h.2.1] at hc
      case isFalse =>
        simp only [List.cons_append, List.nil_append, List.cons.injEq] at h
        simp [← h.1] at hd
  case isFalse hc =>
    split at h
    case isTrue lc =>
      split at h
      case isTrue hd =>
        simp only [List.cons_append, List.cons.injEq] at h
        simp [← h.2.1] at hd
      case isFalse hd =>
        split at h
        case isTrue ld =>
          simp only [List.cons_append, List.nil_append, List.cons.injEq, true_and] at h
          obtain ⟨hi, lo, rfl⟩ := h
          have hi : c.toNat / 16 = d.toNat / 16 :=
            congrArg Fin.val (digitChar_inj ⟨c.toNat / 16, by omega⟩ ⟨d.toNat / 16, by omega⟩ hi)
          have lo : c.toNat % 16 = d.toNat % 16 :=
            congrArg Fin.val (digitChar_inj ⟨c.toNat % 16, by omega⟩ ⟨d.toNat % 16, by omega⟩ lo)
          exact ⟨Char.toNat_inj.mp (by omega), rfl⟩
        case isFalse =>
          simp only [List.cons_append, List.nil_append, List.cons.injEq] at h
          simp [← h.1] at hd
    case isFalse lc =>
      split at h
      case isTrue hd =>
        simp only [List.cons_append, List.nil_append, List.cons.injEq] at h
        simp [h.1] at hc
      case isFalse hd =>
        split at h
        case isTrue ld =>
          simp only [List.cons_append, List.nil_append, List.cons.injEq] at h
          simp [h.1] at hc
        case isFalse ld => simpa using h

/-- The text of a character does not start with a quote. -/
lemma escape_ne_quote {c : Char} {xs ys : List Char} : escape c ++ xs ≠ '"' :: ys := by
  intro h
  rw [escape] at h
  split at h
  case isTrue => simp at h
  case isFalse hc =>
    split at h
    case isTrue => simp at h
    case isFalse =>
      simp only [List.cons_append, List.nil_append, List.cons.injEq] at h
      simp [h.1] at hc

/-- The text of a string can be read off the front. -/
lemma quote_inj {cs ds xs ys : List Char} (h : quote cs ++ xs = quote ds ++ ys) :
    cs = ds ∧ xs = ys := by
  induction cs generalizing ds with
  | nil =>
    cases ds with
    | nil => simpa [quote] using h
    | cons d ds =>
      rw [quote, quote, List.append_assoc] at h
      exact absurd h.symm escape_ne_quote
  | cons c cs ih =>
    cases ds with
    | nil =>
      rw [quote, quote, List.append_assoc] at h
      exact absurd h escape_ne_quote
    | cons d ds =>
      rw [quote, quote, List.append_assoc, List.append_assoc] at h
      obtain ⟨rfl, h1⟩ := escape_inj h
      obtain ⟨rfl, h2⟩ := ih h1
      exact ⟨rfl, h2⟩

/-- A quoted text tells where it ends. -/
lemma quote_toList_inj {s t : String} {xs ys : List Char}
    (h : quote s.toList ++ xs = quote t.toList ++ ys) : s = t ∧ xs = ys := by
  obtain ⟨eq, h⟩ := quote_inj h
  exact ⟨String.toList_inj.mp eq, h⟩

/-- The key of a field and its value can be read off the front. -/
lemma quote_colon_append {s t : String} {as bs cs ds xs ys : List Char}
    (h : quote s.toList ++ ':' :: (as ++ bs) ++ xs = quote t.toList ++ ':' :: (cs ++ ds) ++ ys) :
    s = t ∧ as ++ (bs ++ xs) = cs ++ (ds ++ ys) := by
  rw [List.append_assoc, List.append_assoc] at h
  obtain ⟨rfl, h1⟩ := quote_toList_inj h
  refine ⟨rfl, ?_⟩
  simpa using h1

/-! ## Numbers -/

/-- A character of the text of a number. -/
def isNumeral (c : Char) : Bool := c.isDigit || c = '-' || c = 'e'

/-- What may follow the text of a value: nothing, or a character which is in no number. -/
def Ends (xs : List Char) : Prop := xs.takeWhile isNumeral = []

/-- Different numbers have different digits. -/
lemma toDigits_inj {m n : Nat} (h : Nat.toDigits 10 m = Nat.toDigits 10 n) : m = n := by
  have h1 := congrArg (fun ds => Nat.ofDigitChars 10 ds 0) h
  simpa only [Nat.ofDigitChars_ten_toDigits] using h1

/-- A numeral has digits only. -/
lemma isDigit_of_mem_toDigits {n : Nat} {c : Char} (h : c ∈ Nat.toDigits 10 n) : c.isDigit = true :=
  Nat.isDigit_of_mem_toDigits (by decide) (by decide) h

/-- A whole number has digits and a sign only. -/
lemma mem_intText {n : Int} {c : Char} (h : c ∈ intText n) : c.isDigit = true ∨ c = '-' := by
  cases n with
  | ofNat n => exact .inl (isDigit_of_mem_toDigits h)
  | negSucc n =>
    rcases List.mem_cons.mp h with rfl | h
    · exact .inr rfl
    · exact .inl (isDigit_of_mem_toDigits h)

/-- Digits are not a minus sign. -/
lemma toDigits_ne_minus {m : Nat} {cs : List Char} : Nat.toDigits 10 m ≠ '-' :: cs := by
  intro h
  have digit := isDigit_of_mem_toDigits (n := m) (c := '-') (by simp [h])
  cases digit

/-- Different whole numbers are written in different ways. -/
lemma intText_inj {m n : Int} (h : intText m = intText n) : m = n := by
  cases m with
  | ofNat m =>
    cases n with
    | ofNat n => rw [toDigits_inj h]
    | negSucc n => exact absurd h toDigits_ne_minus
  | negSucc m =>
    cases n with
    | ofNat n => exact absurd h.symm toDigits_ne_minus
    | negSucc n =>
      obtain ⟨_, h⟩ := List.cons.inj h
      rw [Nat.succ.inj (toDigits_inj h)]

/-- A run of characters of a number is read off the front. -/
lemma numeral_append {cs ds xs ys : List Char} (hcs : ∀ c ∈ cs, isNumeral c = true)
    (hds : ∀ d ∈ ds, isNumeral d = true) (hxs : Ends xs) (hys : Ends ys)
    (h : cs ++ xs = ds ++ ys) : cs = ds ∧ xs = ys := by
  have h1 := congrArg (List.takeWhile isNumeral) h
  rw [List.takeWhile_append_of_pos hcs, List.takeWhile_append_of_pos hds, hxs, hys,
    List.append_nil, List.append_nil] at h1
  subst h1
  exact ⟨rfl, List.append_cancel_left h⟩

/-- The integer and the exponent of a fraction are read off its text. -/
lemma fracText_inj {m n : Int} {d e : Nat}
    (h : intText m ++ 'e' :: '-' :: Nat.toDigits 10 d = intText n ++ 'e' :: '-' :: Nat.toDigits 10 e) :
    m = n ∧ d = e := by
  have before : ∀ k : Int, ∀ c ∈ intText k, (c != 'e') = true := by
    intro k c hc
    rcases mem_intText hc with digit | rfl
    · simp only [bne_iff_ne, ne_eq]
      rintro rfl
      cases digit
    · decide
  have h1 := congrArg (List.takeWhile (· != 'e')) h
  rw [List.takeWhile_append_of_pos (before m), List.takeWhile_append_of_pos (before n)] at h1
  simp only [List.takeWhile_cons, bne_self_eq_false, Bool.false_eq_true, if_false, List.append_nil] at h1
  have h2 := intText_inj h1
  subst h2
  have h3 := List.append_cancel_left h
  simp only [List.cons.injEq, true_and] at h3
  exact ⟨rfl, toDigits_inj h3⟩

/-! ## Values -/

/-- The kinds of values which their first character tells apart. -/
def kind : Json → Nat
  | .null => 0
  | .bool true => 1
  | .bool false => 2
  | .int _ | .frac _ _ => 3
  | .str _ => 4
  | .arr _ => 5
  | .obj _ => 6

/-- The characters with which the text of a value can start. -/
def startsWith : Json → Char → Bool
  | .null, c => c = 'n'
  | .bool true, c => c = 't'
  | .bool false, c => c = 'f'
  | .int _, c | .frac _ _, c => c.isDigit || c = '-'
  | .str _, c => c = '"'
  | .arr _, c => c = '['
  | .obj _, c => c = '{'

/-- A whole number begins with a digit or a sign. -/
lemma intText_start (n : Int) : ∃ c cs, intText n = c :: cs ∧ (c.isDigit || c = '-') = true := by
  cases eq : intText n with
  | nil =>
    cases n with
    | ofNat n => exact absurd eq Nat.toDigits_ne_nil
    | negSucc n => cases eq
  | cons c cs =>
    refine ⟨c, cs, rfl, ?_⟩
    rcases mem_intText (n := n) (c := c) (by simp [eq]) with digit | rfl
    · rw [digit, Bool.true_or]
    · rfl

/-- Each kind of value begins in its own way. -/
lemma text_start (a : Json) : ∃ c cs, text a = c :: cs ∧ startsWith a c = true := by
  cases a with
  | null => exact ⟨_, _, rfl, rfl⟩
  | bool b => cases b <;> exact ⟨_, _, rfl, rfl⟩
  | int n =>
    obtain ⟨c, cs, eq, start⟩ := intText_start n
    exact ⟨c, cs, by rw [text, eq], start⟩
  | frac m e =>
    obtain ⟨c, cs, eq, start⟩ := intText_start m
    exact ⟨c, _, by rw [text, eq, List.cons_append], start⟩
  | str s => exact ⟨_, _, by rw [text], rfl⟩
  | arr xs =>
    cases xs with
    | nil => exact ⟨_, _, rfl, rfl⟩
    | cons x xs => exact ⟨_, _, by rw [text], rfl⟩
  | obj fields =>
    cases fields with
    | nil => exact ⟨_, _, rfl, rfl⟩
    | cons f fields => exact ⟨_, _, by rw [text], rfl⟩

/-- The first character tells the kind of a value. -/
lemma kind_of_startsWith {a : Json} {c : Char} (h : startsWith a c = true) :
    kind a = if c = 'n' then 0 else if c = 't' then 1 else if c = 'f' then 2 else if c = '"' then 4
      else if c = '[' then 5 else if c = '{' then 6 else 3 := by
  have number : (c.isDigit || c = '-') = true →
      c ≠ 'n' ∧ c ≠ 't' ∧ c ≠ 'f' ∧ c ≠ '"' ∧ c ≠ '[' ∧ c ≠ '{' := by
    intro h
    refine ⟨?_, ?_, ?_, ?_, ?_, ?_⟩ <;>
      · rintro rfl
        revert h
        decide
  cases a with
  | bool b => cases b <;> simp_all [startsWith, kind]
  | int n => simp [kind, number h]
  | frac m e => simp [kind, number h]
  | _ => simp_all [startsWith, kind]

/-- Values of different kinds have different texts. -/
lemma kind_eq {a b : Json} {xs ys : List Char} (h : text a ++ xs = text b ++ ys) :
    kind a = kind b := by
  obtain ⟨c, cs, eqa, sa⟩ := text_start a
  obtain ⟨d, ds, eqb, sb⟩ := text_start b
  rw [eqa, eqb, List.cons_append, List.cons_append] at h
  obtain ⟨rfl, _⟩ := List.cons.inj h
  rw [kind_of_startsWith sa, kind_of_startsWith sb]

/-- A whole number is a numeral. -/
lemma isNumeral_intText (n : Int) : ∀ c ∈ intText n, isNumeral c = true := by
  intro c hc
  rcases mem_intText hc with digit | rfl
  · simp [isNumeral, digit]
  · rfl

/-- So is a fraction. -/
lemma isNumeral_fracText (m : Int) (e : Nat) :
    ∀ c ∈ intText m ++ 'e' :: '-' :: Nat.toDigits 10 e, isNumeral c = true := by
  intro c hc
  rcases List.mem_append.mp hc with hc | hc
  · exact isNumeral_intText m c hc
  · rcases List.mem_cons.mp hc with rfl | hc
    · rfl
    · rcases List.mem_cons.mp hc with rfl | hc
      · rfl
      · simp [isNumeral, isDigit_of_mem_toDigits hc]

/-- An integer is no fraction. -/
lemma intText_ne_fracText {n m : Int} {e : Nat} :
    intText n ≠ intText m ++ 'e' :: '-' :: Nat.toDigits 10 e := by
  intro h
  rcases mem_intText (n := n) (c := 'e') (by simp [h]) with digit | minus
  · cases digit
  · cases minus

/-- What follows an item of an array is in no number. -/
lemma ends_textItems (as : List Json) (xs : List Char) : Ends (textItems as ++ xs) := by
  cases as with
  | nil => rfl
  | cons a as =>
    rw [textItems]
    rfl

/-- What follows a field of an object is in no number. -/
lemma ends_textFields (fs : List (String × Json)) (xs : List Char) : Ends (textFields fs ++ xs) := by
  cases fs with
  | nil => rfl
  | cons f fs =>
    rw [textFields]
    rfl

/-- No value starts with a closing bracket or brace. -/
lemma text_ne_close {a : Json} {xs ys : List Char} {c : Char} (hc : c = ']' ∨ c = '}') :
    text a ++ xs ≠ c :: ys := by
  intro h
  obtain ⟨d, ds, eq, start⟩ := text_start a
  rw [eq, List.cons_append] at h
  obtain ⟨rfl, _⟩ := List.cons.inj h
  rcases hc with rfl | rfl
  · cases a with
    | bool b => cases b <;> cases start
    | _ => cases start
  · cases a with
    | bool b => cases b <;> cases start
    | _ => cases start

mutual

/-- The text of a value can be read off the front. -/
lemma text_append : (a b : Json) → {xs ys : List Char} → Ends xs → Ends ys →
    text a ++ xs = text b ++ ys → a = b ∧ xs = ys := by
  intro a b xs ys hxs hys h
  have k := kind_eq h
  cases a with
  | null =>
    cases b with
    | null => exact ⟨rfl, List.append_cancel_left h⟩
    | bool b => cases b <;> cases k
    | _ => cases k
  | bool a =>
    cases b with
    | bool b =>
      obtain rfl : a = b := by cases a <;> cases b <;> first | rfl | cases k
      exact ⟨rfl, List.append_cancel_left h⟩
    | _ => cases a <;> cases k
  | int n =>
    cases b with
    | int n' =>
      obtain ⟨eq, rfl⟩ := numeral_append (isNumeral_intText n) (isNumeral_intText n') hxs hys h
      exact ⟨by rw [intText_inj eq], rfl⟩
    | frac m e =>
      obtain ⟨eq, _⟩ := numeral_append (isNumeral_intText n) (isNumeral_fracText m e) hxs hys h
      exact absurd eq intText_ne_fracText
    | bool b => cases b <;> cases k
    | _ => cases k
  | frac m e =>
    cases b with
    | int n =>
      obtain ⟨eq, _⟩ := numeral_append (isNumeral_fracText m e) (isNumeral_intText n) hxs hys h
      exact absurd eq.symm intText_ne_fracText
    | frac m' e' =>
      obtain ⟨eq, rfl⟩ :=
        numeral_append (isNumeral_fracText m e) (isNumeral_fracText m' e') hxs hys h
      obtain ⟨rfl, rfl⟩ := fracText_inj eq
      exact ⟨rfl, rfl⟩
    | bool b => cases b <;> cases k
    | _ => cases k
  | str s =>
    cases b with
    | str t =>
      rw [text, text] at h
      obtain ⟨rfl, rfl⟩ := quote_toList_inj (List.cons.inj h).2
      exact ⟨rfl, rfl⟩
    | bool b => cases b <;> cases k
    | _ => cases k
  | arr as =>
    cases b with
    | arr bs =>
      obtain ⟨rfl, rest⟩ := textArray_append as bs h
      exact ⟨rfl, rest⟩
    | bool b => cases b <;> cases k
    | _ => cases k
  | obj as =>
    cases b with
    | obj bs =>
      obtain ⟨rfl, rest⟩ := textObject_append as bs h
      exact ⟨rfl, rest⟩
    | bool b => cases b <;> cases k
    | _ => cases k

/-- An array tells where it ends. -/
lemma textArray_append : (as bs : List Json) → {xs ys : List Char} →
    text (.arr as) ++ xs = text (.arr bs) ++ ys → as = bs ∧ xs = ys
  | [], [], xs, ys, h => ⟨rfl, List.append_cancel_left h⟩
  | [], b :: bs, xs, ys, h => by
    rw [text, text, List.cons_append, List.cons_append, List.cons_append, List.append_assoc] at h
    exact absurd (List.cons.inj h).2.symm (text_ne_close (.inl rfl))
  | a :: as, [], xs, ys, h => by
    rw [text, text, List.cons_append, List.cons_append, List.append_assoc] at h
    exact absurd (List.cons.inj h).2 (text_ne_close (.inl rfl))
  | a :: as, b :: bs, xs, ys, h => by
    rw [text, text, List.cons_append, List.cons_append, List.append_assoc, List.append_assoc] at h
    obtain ⟨rfl, h1⟩ :=
      text_append a b (ends_textItems as xs) (ends_textItems bs ys) (List.cons.inj h).2
    obtain ⟨rfl, h2⟩ := textItems_append as bs h1
    exact ⟨rfl, h2⟩

/-- An object tells where it ends. -/
lemma textObject_append : (as bs : List (String × Json)) → {xs ys : List Char} →
    text (.obj as) ++ xs = text (.obj bs) ++ ys → as = bs ∧ xs = ys
  | [], [], xs, ys, h => ⟨rfl, List.append_cancel_left h⟩
  | [], b :: bs, xs, ys, h => by
    rw [text, text] at h
    cases (List.cons.inj (List.cons.inj h).2).1
  | a :: as, [], xs, ys, h => by
    rw [text, text] at h
    cases (List.cons.inj (List.cons.inj h).2).1
  | (k, a) :: as, (l, b) :: bs, xs, ys, h => by
    rw [text, text] at h
    obtain ⟨rfl, h1⟩ := quote_colon_append (List.cons.inj (List.cons.inj h).2).2
    obtain ⟨rfl, h2⟩ := text_append a b (ends_textFields as xs) (ends_textFields bs ys) h1
    obtain ⟨rfl, h3⟩ := textFields_append as bs h2
    exact ⟨rfl, h3⟩

/-- The rest of an array tells where it ends. -/
lemma textItems_append : (as bs : List Json) → {xs ys : List Char} →
    textItems as ++ xs = textItems bs ++ ys → as = bs ∧ xs = ys
  | [], [], xs, ys, h => ⟨rfl, (List.cons.inj h).2⟩
  | [], b :: bs, xs, ys, h => by cases (List.cons.inj h).1
  | a :: as, [], xs, ys, h => by cases (List.cons.inj h).1
  | a :: as, b :: bs, xs, ys, h => by
    rw [textItems, textItems, List.cons_append, List.cons_append, List.append_assoc,
      List.append_assoc] at h
    obtain ⟨rfl, h1⟩ :=
      text_append a b (ends_textItems as xs) (ends_textItems bs ys) (List.cons.inj h).2
    obtain ⟨rfl, h2⟩ := textItems_append as bs h1
    exact ⟨rfl, h2⟩

/-- The rest of an object tells where it ends. -/
lemma textFields_append : (as bs : List (String × Json)) → {xs ys : List Char} →
    textFields as ++ xs = textFields bs ++ ys → as = bs ∧ xs = ys
  | [], [], xs, ys, h => ⟨rfl, (List.cons.inj h).2⟩
  | [], b :: bs, xs, ys, h => by cases (List.cons.inj h).1
  | a :: as, [], xs, ys, h => by cases (List.cons.inj h).1
  | (k, a) :: as, (l, b) :: bs, xs, ys, h => by
    rw [textFields, textFields] at h
    obtain ⟨rfl, h1⟩ := quote_colon_append (List.cons.inj (List.cons.inj h).2).2
    obtain ⟨rfl, h2⟩ := text_append a b (ends_textFields as xs) (ends_textFields bs ys) h1
    obtain ⟨rfl, h3⟩ := textFields_append as bs h2
    exact ⟨rfl, h3⟩

end

/-- Different objects have different texts. -/
theorem Object.condense_injective : Function.Injective Object.condense := by
  intro a b h
  have eq : text (.obj a) ++ [] = text (.obj b) ++ [] := by
    rw [List.append_nil, List.append_nil]
    exact String.ofList_injective h
  have nil : Ends [] := rfl
  obtain ⟨e, _⟩ := text_append (.obj a) (.obj b) nil nil eq
  cases e
  rfl

end UserPortal.Json

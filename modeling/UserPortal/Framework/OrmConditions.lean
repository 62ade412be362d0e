import UserPortal.Data.SqlText

/-!
# Conditions of the object-relational mapping

Port of the functions `OP` of `src/framework/orm.h`, which write the conditions of a `where` clause, and of
the statement of `GetRecord`. The three overloads of `OP` for conditions which are joined open one
parenthesis together, and each of them but the first closes one: `opMore_wellFormed_iff`. `ConvertParams`
numbers the placeholders of a whole statement without regard to literals: `getRecord_readsBack_iff`.
-/

namespace UserPortal.Orm
open Data SqlText

/-- `OpenWifi::DBType` -/
inductive DBType where
  | sqlite
  | pgsql
  | mysql
  deriving DecidableEq

inductive SqlComparison where
  | eq
  | neq
  | lt
  | lte
  | gt
  | gte
  deriving DecidableEq

inductive SqlBinaryOp where
  | and
  | or
  deriving DecidableEq

/-- `BOPS` -/
def bops : SqlBinaryOp → String
  | .and => " and "
  | .or => " or "

/-- `SQLCOMPS` -/
def sqlComps : SqlComparison → String
  | .eq => "="
  | .neq => "!="
  | .lt => "<"
  | .lte => "<="
  | .gt => ">"
  | .gte => ">="

/-- `Escape` -/
def escape (s : String) : String :=
  String.ofList (s.toList.flatMap fun i => if i = '\'' then ['\'', '\''] else [i])

/-- `OP` at a field and a value -/
def opValue (f : String) (o : SqlComparison) (v : String) : String :=
  "(" ++ f ++ sqlComps o ++ "'" ++ escape v ++ "')"

/-- `OP` at two conditions -/
def opPair (p1 : String) (bop : SqlBinaryOp) (p2 : String) : String := "(" ++ p1 ++ bops bop ++ p2 ++ ")"

/-- `OP` behind a parenthesis which is open, at two conditions and some more -/
def opOpen (paran : Bool) (p1 : String) (bop : SqlBinaryOp) (p2 : String) :
    List (SqlBinaryOp × String) → String
  | [] => p1 ++ bops bop ++ p2 ++ ")"
  | (bop', p3) :: more => p1 ++ bops bop ++ opOpen paran p2 bop' p3 more ++ ")"

/-- `OP` at two conditions and some more -/
def opMore (p1 : String) (bop : SqlBinaryOp) (p2 : String) : List (SqlBinaryOp × String) → String
  | [] => opPair p1 bop p2
  | (bop', p3) :: more => "(" ++ p1 ++ bops bop ++ opOpen true p2 bop' p3 more

/-! ## Conditions which are joined -/

/-- A boolean expression of SQL over some operands. -/
inductive BoolExpr where
  | operand (text : String)
  | binary (left : BoolExpr) (op : SqlBinaryOp) (right : BoolExpr)
  | parenthesised (inner : BoolExpr)

namespace BoolExpr

/-- The text of an expression. -/
def text : BoolExpr → String
  | operand t => t
  | binary left op right => left.text ++ bops op ++ right.text
  | parenthesised inner => "(" ++ inner.text ++ ")"

/-- The operands of an expression, in order. -/
def operands : BoolExpr → List String
  | operand t => [t]
  | binary left _ right => left.operands ++ right.operands
  | parenthesised inner => inner.operands

/-- The operators of an expression, in order. -/
def operators : BoolExpr → List SqlBinaryOp
  | operand _ => []
  | binary left op right => left.operators ++ op :: right.operators
  | parenthesised inner => inner.operators

lemma balanced_bops (op : SqlBinaryOp) : SqlText.Balanced (bops op).toList := by
  cases op <;> rfl

/-- An expression over balanced operands is balanced. -/
lemma balanced_text {e : BoolExpr} (balanced : ∀ t ∈ e.operands, SqlText.Balanced t.toList) :
    SqlText.Balanced e.text.toList := by
  induction e with
  | operand t => exact balanced t (List.mem_singleton_self t)
  | binary left op right ihLeft ihRight =>
    rw [text, String.toList_append, String.toList_append]
    refine ((ihLeft ?_).append (balanced_bops op)).append (ihRight ?_)
    · intro t mem
      exact balanced t (List.mem_append_left _ mem)
    · intro t mem
      exact balanced t (List.mem_append_right _ mem)
  | parenthesised inner ih =>
    rw [text, String.toList_append, String.toList_append]
    exact (ih balanced).parenthesised

end BoolExpr

/-- A text is balanced, and is an expression with some operands and operators in their order. -/
structure WellFormed (text : String) (operands : List String) (operators : List SqlBinaryOp) : Prop where
  balanced : SqlText.Balanced text.toList
  reads : ∃ e : BoolExpr, e.text = text ∧ e.operands = operands ∧ e.operators = operators

section Joined

variable {p1 p2 : String} {bop : SqlBinaryOp} {more : List (SqlBinaryOp × String)}

/-- An overload which goes on behind a parenthesis closes one for each operator. -/
lemma scan_opOpen (first : SqlText.Balanced p1.toList) (second : SqlText.Balanced p2.toList)
    (others : ∀ q ∈ more, SqlText.Balanced q.2.toList) (paran : Bool) (bop : SqlBinaryOp) (d : Nat) :
    scan ⟨false, d⟩ (opOpen paran p1 bop p2 more).toList =
      if more.length < d then some ⟨false, d - (more.length + 1)⟩ else none := by
  induction more generalizing p1 p2 bop with
  | nil =>
    rw [opOpen, String.toList_append, String.toList_append, String.toList_append, scan_append,
      ((first.append (BoolExpr.balanced_bops bop)).append second).scan]
    refine (scan_closing d).trans ?_
    cases d <;> rfl
  | cons q more ih =>
    have rest := ih second (others q List.mem_cons_self) (fun q' mem => others q' (List.mem_cons_of_mem _ mem)) q.1
    rw [opOpen, String.toList_append, String.toList_append, String.toList_append, scan_append, scan_append,
      (first.append (BoolExpr.balanced_bops bop)).scan, Option.bind_some, rest, List.length_cons]
    by_cases enough : more.length < d
    · rw [if_pos enough]
      refine (scan_closing _).trans ?_
      by_cases last : d = more.length + 1
      · rw [if_pos (by omega), if_neg (by omega)]
      · rw [if_neg (by omega), if_pos (by omega), Nat.sub_sub]
    · rw [if_neg enough, if_neg (by omega)]
      rfl

/-- With at most three operands the text is an expression. -/
lemma reads_opMore (p1 : String) (bop : SqlBinaryOp) (p2 : String) (few : more.length ≤ 1) :
    ∃ e : BoolExpr, e.text = opMore p1 bop p2 more ∧ e.operands = p1 :: p2 :: more.map Prod.snd ∧
      e.operators = bop :: more.map Prod.fst := by
  match more, few with
  | [], _ => exact ⟨.parenthesised (.binary (.operand p1) bop (.operand p2)), by
      simp only [BoolExpr.text, opMore, opPair, String.append_assoc], rfl, rfl⟩
  | [(bop', p3)], _ =>
    exact ⟨.parenthesised (.binary (.operand p1) bop (.binary (.operand p2) bop' (.operand p3))), by
      simp only [BoolExpr.text, opMore, opOpen, String.append_assoc], rfl, rfl⟩

/-- With more operands too many parentheses are closed. -/
lemma not_balanced_opMore (first : SqlText.Balanced p1.toList) (second : SqlText.Balanced p2.toList)
    (others : ∀ q ∈ more, SqlText.Balanced q.2.toList) (many : 1 < more.length) :
    ¬ SqlText.Balanced (opMore p1 bop p2 more).toList := by
  cases more with
  | nil => cases many
  | cons q more =>
    have opened : scan {} ("(" ++ p1 ++ bops bop).toList = some ⟨false, 1⟩ := by
      rw [String.append_assoc, String.toList_append, String.toList_append, scan_append]
      show scan ⟨false, 1⟩ _ = _
      exact (first.append (BoolExpr.balanced_bops bop)).scan 1
    have rest := scan_opOpen second (others q List.mem_cons_self)
      (fun q' mem => others q' (List.mem_cons_of_mem _ mem)) true q.1 1
    rw [SqlText.Balanced, opMore, String.toList_append, scan_append, opened, Option.bind_some, rest,
      if_neg (Nat.not_lt_of_le (Nat.le_of_lt_succ many))]
    intro eq
    cases eq

/-- Conditions which are joined are well formed, and joined as two are when there are two, if and only if
there are at most three of them. -/
theorem opMore_wellFormed_iff (p1 : String) (bop : SqlBinaryOp) (p2 : String)
    (more : List (SqlBinaryOp × String))
    (balanced : ∀ p ∈ p1 :: p2 :: more.map Prod.snd, SqlText.Balanced p.toList) :
    (WellFormed (opMore p1 bop p2 more) (p1 :: p2 :: more.map Prod.snd) (bop :: more.map Prod.fst) ∧
        (more = [] → opMore p1 bop p2 more = opPair p1 bop p2)) ↔
      more.length + 2 ≤ 3 := by
  have first : SqlText.Balanced p1.toList := balanced p1 List.mem_cons_self
  have second : SqlText.Balanced p2.toList := balanced p2 (List.mem_cons_of_mem _ List.mem_cons_self)
  have others : ∀ q ∈ more, SqlText.Balanced q.2.toList := by
    intro q mem
    exact balanced q.2 (List.mem_cons_of_mem _ (List.mem_cons_of_mem _ (List.mem_map_of_mem mem)))
  refine ⟨?_, ?_⟩
  · rintro ⟨wellFormed, -⟩
    by_contra many
    refine not_balanced_opMore first second others ?_ wellFormed.balanced
    omega
  · intro few
    have reads := reads_opMore p1 bop p2 (Nat.le_of_add_le_add_right few)
    refine ⟨⟨?_, reads⟩, fun two => by rw [two, opMore]⟩
    obtain ⟨e, text, operands, -⟩ := reads
    rw [← text]
    apply BoolExpr.balanced_text
    rw [operands]
    exact balanced

/-- Three comparisons. -/
theorem opMore_wellFormed_three :
    WellFormed (opMore "(a=1)" .and "(b=2)" [(.or, "(c=3)")]) ["(a=1)", "(b=2)", "(c=3)"] [.and, .or] :=
  ((opMore_wellFormed_iff "(a=1)" .and "(b=2)" [(.or, "(c=3)")] (by decide)).mpr (by decide)).1

/-- Four comparisons end in two parentheses, one of which closes nothing. -/
theorem opMore_unbalanced :
    ¬ WellFormed (opMore "(a=1)" .and "(b=2)" [(.or, "(c=3)"), (.and, "(d=4)")])
      ["(a=1)", "(b=2)", "(c=3)", "(d=4)"] [.and, .or, .and] := by
  intro wellFormed
  exact absurd wellFormed.balanced (by decide)

end Joined

/-! ## Values in statements -/

/-- The loop of `ConvertParams`, whose placeholders are numbered from `idx` on. -/
def convertFrom (idx : Nat) : List Char → List Char
  | [] => []
  | i :: cs => if i = '?' then '$' :: (toString idx).toList ++ convertFrom (idx + 1) cs else i :: convertFrom idx cs

/-- `ConvertParams` -/
def convertParams (type : DBType) (s : String) : String :=
  if type ≠ .pgsql then s else String.ofList (convertFrom 1 s.toList)

/-- The statement of `GetRecord`, as it is sent. -/
def getRecordStatement (type : DBType) (selectFields tableName whereClause : String) : String :=
  convertParams type
    ("select " ++ selectFields ++ " from " ++ tableName ++ " where " ++ whereClause ++ " limit 1")

/-- The statement of `GetRecord` up to a comparison, as it is sent. -/
def uptoComparison (type : DBType) (selectFields tableName f : String) (o : SqlComparison) : String :=
  convertParams type
    ("select " ++ selectFields ++ " from " ++ tableName ++ " where (" ++ f ++ sqlComps o)

/-- Behind the comparison of the statement stands a literal, which is read as the value and ends where `OP`
closed it. -/
def ReadsBack (type : DBType) (selectFields tableName f : String) (o : SqlComparison) (v : String) : Prop :=
  ∃ literal : List Char,
    (getRecordStatement type selectFields tableName (opValue f o v)).toList =
        (uptoComparison type selectFields tableName f o).toList ++ '\'' :: literal ∧
      readLiteral literal = some (v.toList, ") limit 1".toList)

section Values

variable {xs ys : List Char} {k : Nat} {type : DBType} {selectFields tableName f v : String} {o : SqlComparison}

/-- What a placeholder becomes has neither quotes nor placeholders. -/
lemma numbered_chars (k : Nat) : ∀ c ∈ '$' :: (toString k).toList, c ≠ '\'' ∧ c ≠ '?' := by
  intro c mem
  rcases List.mem_cons.mp mem with dollar | digit
  · rw [dollar]
    decide
  · have isDigit : c.isDigit = true := Nat.isDigit_of_mem_toDigits (by decide) (by decide) (Nat.toList_repr ▸ digit)
    refine ⟨?_, ?_⟩
    · intro eq
      rw [eq] at isDigit
      cases isDigit
    · intro eq
      rw [eq] at isDigit
      cases isDigit

lemma convertFrom_append (k : Nat) (xs ys : List Char) :
    convertFrom k (xs ++ ys) = convertFrom k xs ++ convertFrom (k + xs.count '?') ys := by
  induction xs generalizing k with
  | nil => rfl
  | cons i xs ih =>
    rw [List.cons_append, convertFrom, convertFrom]
    by_cases placeholder : i = '?'
    · rw [if_pos placeholder, if_pos placeholder, ih, placeholder, List.count_cons_self, List.append_assoc,
        Nat.add_right_comm, Nat.add_assoc]
    · rw [if_neg placeholder, if_neg placeholder, ih, List.count_cons_of_ne placeholder]
      rfl

/-- Without placeholders nothing changes. -/
lemma convertFrom_of_not_mem (free : '?' ∉ xs) (k : Nat) : convertFrom k xs = xs := by
  induction xs with
  | nil => rfl
  | cons i xs ih =>
    rw [convertFrom, if_neg (List.ne_of_not_mem_cons free).symm, ih fun mem => free (List.mem_cons_of_mem _ mem)]

/-- No placeholder stays. -/
lemma not_mem_convertFrom (k : Nat) (xs : List Char) : '?' ∉ convertFrom k xs := by
  induction xs generalizing k with
  | nil => exact List.not_mem_nil
  | cons i xs ih =>
    rw [convertFrom]
    by_cases placeholder : i = '?'
    · rw [if_pos placeholder]
      intro mem
      rcases List.mem_append.mp mem with numbered | rest
      · exact (numbered_chars k _ numbered).2 rfl
      · exact ih _ rest
    · rw [if_neg placeholder]
      intro mem
      rcases List.mem_cons.mp mem with eq | rest
      · exact placeholder eq.symm
      · exact ih _ rest

lemma convertFrom_eq_self_iff (k : Nat) (xs : List Char) : convertFrom k xs = xs ↔ '?' ∉ xs := by
  refine ⟨?_, ?_⟩
  · intro eq
    rw [← eq]
    exact not_mem_convertFrom k xs
  · intro free
    exact convertFrom_of_not_mem free k

/-- The characters of a literal are converted as if it had no quotes. -/
lemma convertFrom_quoted (k : Nat) (xs : List Char) : convertFrom k (quoted xs) = quoted (convertFrom k xs) := by
  induction xs generalizing k with
  | nil => rfl
  | cons c xs ih =>
    rw [quoted_cons, convertFrom]
    by_cases quote : c = '\''
    · have other : ¬ c = '?' := by
        rw [quote]
        decide
      rw [if_pos quote, if_neg other, quoted_cons, if_pos quote, ← ih]
      rfl
    · rw [if_neg quote, List.singleton_append, convertFrom]
      by_cases placeholder : c = '?'
      · have free : '\'' ∉ '$' :: (toString k).toList := fun mem => (numbered_chars k _ mem).1 rfl
        rw [if_pos placeholder, if_pos placeholder, ih, quoted_append, quoted_of_not_mem free]
      · rw [if_neg placeholder, if_neg placeholder, quoted_cons, if_neg quote, ih]
        rfl

/-- A comparison is balanced, whatever its value. -/
lemma balanced_opValue (field : SqlText.Balanced f.toList) (o : SqlComparison) (v : String) :
    SqlText.Balanced (opValue f o v).toList := by
  have comparison : SqlText.Balanced (sqlComps o).toList := by
    cases o <;> rfl
  have inner := ((field.append comparison).append (balanced_literal v.toList)).parenthesised
  have eq : (opValue f o v).toList =
      '(' :: (f.toList ++ (sqlComps o).toList ++ ('\'' :: quoted v.toList ++ ['\''])) ++ [')'] := by
    simp only [opValue, escape, String.toList_append, String.toList_ofList]
    simp [quoted]
  rwa [eq]

/-- The literal which stands behind the comparison is read as the value after the conversion. -/
lemma readLiteral_convertFrom (k : Nat) (v : String) :
    readLiteral (convertFrom k (quoted v.toList ++ "') limit 1".toList)) =
      some (convertFrom k v.toList, ") limit 1".toList) := by
  have rest : convertFrom (k + (quoted v.toList).count '?') "') limit 1".toList = '\'' :: ") limit 1".toList :=
    convertFrom_of_not_mem (by decide) _
  rw [convertFrom_append, convertFrom_quoted, rest]
  apply readLiteral_quoted
  decide

/-- What is sent behind the comparison. -/
lemma toList_getRecordStatement (type : DBType) (selectFields tableName f : String) (o : SqlComparison)
    (v : String) :
    ∃ k, (getRecordStatement type selectFields tableName (opValue f o v)).toList =
      (uptoComparison type selectFields tableName f o).toList ++
        '\'' :: if type ≠ .pgsql then quoted v.toList ++ "') limit 1".toList
          else convertFrom k (quoted v.toList ++ "') limit 1".toList) := by
  have text : ("select " ++ selectFields ++ " from " ++ tableName ++ " where " ++ opValue f o v ++
        " limit 1").toList =
      ("select " ++ selectFields ++ " from " ++ tableName ++ " where (" ++ f ++ sqlComps o).toList ++
        '\'' :: (quoted v.toList ++ "') limit 1".toList) := by
    simp [opValue, escape, quoted]
  rw [getRecordStatement, uptoComparison, convertParams, convertParams]
  by_cases other : type ≠ .pgsql
  · refine ⟨0, ?_⟩
    rw [if_pos other, if_pos other, if_pos other, text]
  · have literal (k : Nat) (cs : List Char) : convertFrom k ('\'' :: cs) = '\'' :: convertFrom k cs := by
      rw [convertFrom, if_neg (by decide)]
    rw [if_neg other, if_neg other, String.toList_ofList, String.toList_ofList, text, convertFrom_append,
      literal]
    exact ⟨_, by rw [if_neg other]⟩

/-- What is read behind the comparison. -/
lemma readsBack_iff_literal (type : DBType) (selectFields tableName f : String) (o : SqlComparison)
    (v : String) :
    ∃ k, ReadsBack type selectFields tableName f o v ↔ type ≠ .pgsql ∨ convertFrom k v.toList = v.toList := by
  obtain ⟨k, sent⟩ := toList_getRecordStatement type selectFields tableName f o v
  refine ⟨k, ?_⟩
  have read : ReadsBack type selectFields tableName f o v ↔
      readLiteral (if type ≠ .pgsql then quoted v.toList ++ "') limit 1".toList
          else convertFrom k (quoted v.toList ++ "') limit 1".toList)) =
        some (v.toList, ") limit 1".toList) := by
    refine ⟨?_, ?_⟩
    · rintro ⟨literal, eq, reads⟩
      rw [sent] at eq
      rw [(List.cons.inj (List.append_cancel_left eq)).2]
      exact reads
    · exact fun reads => ⟨_, sent, reads⟩
  rw [read]
  by_cases other : type ≠ .pgsql
  · rw [if_pos other]
    exact iff_of_true (readLiteral_quoted v.toList (by decide)) (Or.inl other)
  · rw [if_neg other, readLiteral_convertFrom, or_iff_right other]
    refine ⟨?_, ?_⟩
    · intro eq
      exact congrArg Prod.fst (Option.some.inj eq)
    · intro eq
      rw [eq]

end Values

/-- The value of a comparison is read back from the statement if and only if the database is no PostgreSQL,
or the value has no question mark. -/
theorem getRecord_readsBack_iff (type : DBType) (selectFields tableName f : String) (o : SqlComparison)
    (v : String) :
    ReadsBack type selectFields tableName f o v ↔ type ≠ .pgsql ∨ '?' ∉ v.toList := by
  obtain ⟨k, read⟩ := readsBack_iff_literal type selectFields tableName f o v
  rw [read, convertFrom_eq_self_iff]

/-- PostgreSQL is asked for the value `who$1`. -/
theorem getRecord_changed :
    ¬ ReadsBack .pgsql "id,email" "subscriberinfo" "email" .eq "who?" := by
  obtain ⟨k, read⟩ := readsBack_iff_literal .pgsql "id,email" "subscriberinfo" "email" .eq "who?"
  rw [read, convertFrom_eq_self_iff]
  decide

end UserPortal.Orm

import UserPortal.Framework.OrmConditions
import UserPortal.Framework.StringTokenizer
import UserPortal.Interaction.Failure

/-!
# Statements of the object-relational mapping

Port of the constructor of `ORM::DB` of `src/framework/orm.h`, which writes the lists of the fields and the
indexes, of the statements of `Create`, `CreateRecord`, `UpdateRecord`, `DeleteRecord` and `GetRecord`, and of
`PrepareOrderBy`.

* `statements_numbered`: on PostgreSQL the placeholders of a statement get the numbers of the values which are
  bound, in the order of the fields, and the key comes last.
* `createStatements_balanced_iff`: what `Create` runs is balanced, but for the table of MySQL with indexes.
* `prepareOrderBy_iff`: a list is accepted exactly when it is made of known fields with their directions, and
  the clause names no others.
-/

namespace UserPortal.Orm
open Data

inductive FieldType where
  | int
  | bigInt
  | text
  | varchar
  | blob
  | boolean
  | real
  deriving DecidableEq

inductive Indextype where
  | asc
  | desc
  deriving DecidableEq

/-- `Field` -/
structure Field where
  name : String
  type : FieldType := .text
  size : Nat := 0
  index : Bool := false

/-- The constructor of a field with a size, which is a text where it is not small. -/
def Field.sized (name : String) (size : Nat) (index : Bool) : Field where
  name := name
  type := if 0 < size ∧ size < 255 then .varchar else .text
  size := size
  index := index

structure IndexEntry where
  fieldName : String
  type : Indextype

structure Index where
  name : String
  entries : List IndexEntry

/-- `FieldTypeToChar` -/
def fieldTypeToChar (type : DBType) (t : FieldType) (size : Nat) : String :=
  match t with
  | .int => "INT"
  | .bigInt => "BIGINT"
  | .text => "TEXT"
  | .boolean => "BOOLEAN"
  | .varchar => if size ≠ 0 then "VARCHAR(" ++ toString size ++ ")" else "TEXT"
  | .blob =>
    match type with
    | .mysql => "LONGBLOB"
    | .pgsql => "BYTEA"
    | .sqlite => "BLOB"
  | .real => "REAL"

/-- What the loops of the constructor write of some parts, with a separator in front of each but the first. -/
def separated (separator : String) : List String → String
  | [] => ""
  | [part] => part
  | part :: parts => part ++ separator ++ separated separator parts

/-- What the constructor of `DB` is given. -/
structure DB where
  tableName : String
  type : DBType
  fields : List Field
  indexes : List Index

namespace DB

variable (db : DB)

/-- The keys of `FieldNames_`. -/
def fieldNames : List String := db.fields.map fun i => Utils.toLower i.name

/-- `ValidFieldName` -/
def validFieldName (fieldName : String) : Bool := db.fieldNames.contains (Utils.toLower fieldName)

/-- `CreateFields_` -/
def createFields : String := separated ", " (db.fields.map fun i =>
  Utils.toLower i.name ++ " " ++ fieldTypeToChar db.type i.type i.size ++
    if i.index then " unique primary key" else "")

/-- `SelectFields_` -/
def selectFields : String := separated ", " db.fieldNames

/-- `UpdateFields_` -/
def updateFields : String := separated ", " (db.fieldNames.map fun fieldName => fieldName ++ "=?")

/-- `SelectList_`, which is opened by the first field -/
def selectList : String :=
  (if db.fields.isEmpty then "" else "(") ++ separated ", " (db.fields.map fun _ => "?") ++ ")"

/-- The direction of an index. -/
def direction : Indextype → String
  | .asc => "ASC"
  | .desc => "DESC"

/-- `IndexCreation_` -/
def indexCreation : List String :=
  if db.indexes.isEmpty then []
  else match db.type with
    | .sqlite | .pgsql => db.indexes.map fun j =>
      "CREATE INDEX IF NOT EXISTS " ++ j.name ++ " ON " ++ db.tableName ++ " (" ++
        separated " , " (j.entries.map fun k => Utils.toLower k.fieldName ++ " " ++ direction k.type) ++ " )"
    | .mysql => [separated ", " (db.indexes.map fun j =>
      " INDEX " ++ j.name ++ " ( " ++
        separated " ," (j.entries.map fun k => Utils.toLower k.fieldName ++ " " ++ direction k.type) ++ " ) ")]

/-- The statements of `Create`, in order. -/
def createStatements : List String :=
  match db.type with
  | .mysql =>
    match db.indexCreation with
    | [] => ["create table if not exists " ++ db.tableName ++ " ( " ++ db.createFields ++ " )"]
    | index :: _ =>
      ["create table if not exists " ++ db.tableName ++ " ( " ++ db.createFields ++ " ), " ++ index ++ " )"]
  | .sqlite | .pgsql =>
    ("create table if not exists " ++ db.tableName ++ " ( " ++ db.createFields ++ " )") :: db.indexCreation

/-- The statement of `CreateRecord`, which binds the members of the record. -/
def insertStatement : String :=
  "insert into  " ++ db.tableName ++ " ( " ++ db.selectFields ++ " ) values " ++ db.selectList

/-- The statement of `UpdateRecord`, which binds the members of the record and the value. -/
def updateStatement (fieldName : String) : String :=
  "update " ++ db.tableName ++ " set " ++ db.updateFields ++ " where " ++ fieldName ++ "=?"

/-- The statement of `DeleteRecord`, which binds the value. -/
def deleteStatement (fieldName : String) : String :=
  "delete from " ++ db.tableName ++ " where " ++ fieldName ++ "=?"

/-- The statement of `GetRecord` at a field, which binds the value. -/
def selectStatement (fieldName : String) : String :=
  "select " ++ db.selectFields ++ " from " ++ db.tableName ++ " where " ++ fieldName ++ "=?" ++ " limit 1"

/-- One item of the list of `PrepareOrderBy`: a field and whether it is ascending. -/
def orderByItem (i : String) : Option (String × Bool) :=
  match StringTokenizer.tokens i ":" with
  | [field, order] =>
    if order ≠ "a" ∧ order ≠ "d" then none
    else if db.fieldNames.contains (Utils.toLower field) then some (field, order = "a")
    else none
  | _ => none

/-- How an item is written. -/
def orderByText (item : String × Bool) : String := item.1 ++ if item.2 then " ASC" else " DESC"

/-- `PrepareOrderBy`: the clause which is assigned, if one is, unless the list is refused. -/
def prepareOrderBy (orderByList : String) : Option (Option String) := do
  let items ← (StringTokenizer.tokens orderByList ",").mapM db.orderByItem
  if items = [] then return none
  else return some (" ORDER BY " ++ separated " , " (items.map orderByText))

end DB

/-! ## Separated parts -/

section Separated

variable {separator part : String} {parts : List String}

/-- The first part, a separator, and the others. -/
lemma separated_cons (nonempty : parts ≠ []) :
    separated separator (part :: parts) = part ++ separator ++ separated separator parts := by
  obtain ⟨next, rest, eq⟩ := List.exists_cons_of_ne_nil nonempty
  rw [eq]
  rfl

/-- The characters are those of the parts, with separators between them. -/
lemma toList_separated (separator : String) (parts : List String) :
    (separated separator parts).toList = separator.toList.intercalate (parts.map String.toList) := by
  induction parts with
  | nil => rfl
  | cons part parts ih =>
    cases parts with
    | nil => simp [separated]
    | cons next rest =>
      rw [separated_cons (List.cons_ne_nil _ _), String.toList_append, String.toList_append, ih]
      simp only [List.map_cons, List.intercalate_cons_cons]

/-- Balanced parts are joined to a balanced text. -/
lemma balanced_separated (balanced : SqlText.Balanced separator.toList)
    (all : ∀ part ∈ parts, SqlText.Balanced part.toList) : SqlText.Balanced (separated separator parts).toList := by
  induction parts with
  | nil => rfl
  | cons part parts ih =>
    have first := all part (List.mem_cons_self ..)
    have rest := ih fun next mem => all next (List.mem_cons_of_mem _ mem)
    by_cases last : parts = []
    · rw [last]
      exact first
    · rw [separated_cons last, String.toList_append, String.toList_append]
      exact (first.append balanced).append rest

end Separated

/-! ## Placeholders -/

/-- The placeholder of a value, by its place among those which are bound. -/
def placeholder (type : DBType) (place : Nat) : String :=
  if type = .pgsql then "$" ++ toString place else "?"

section Placeholders

variable {separator : String} {names : List String} {k : Nat}

/-- Each part ends in a placeholder, which is numbered from a place on. -/
lemma convertFrom_separated (free : '?' ∉ separator.toList) (freeNames : ∀ name ∈ names, '?' ∉ name.toList)
    (k : Nat) :
    convertFrom k (separated separator (names.map fun name => name ++ "?")).toList =
        (separated separator ((names.zipIdx k).map fun f => f.1 ++ placeholder .pgsql f.2)).toList ∧
      (separated separator (names.map fun name => name ++ "?")).toList.count '?' = names.length := by
  induction names generalizing k with
  | nil => exact ⟨rfl, rfl⟩
  | cons name names ih =>
    have freeName := freeNames name (List.mem_cons_self ..)
    obtain ⟨rest, count⟩ := ih (fun other mem => freeNames other (List.mem_cons_of_mem _ mem)) (k + 1)
    have first : convertFrom k (name ++ "?").toList = (name ++ placeholder .pgsql k).toList := by
      rw [String.toList_append, convertFrom_append, convertFrom_of_not_mem freeName,
        List.count_eq_zero_of_not_mem freeName]
      simp [convertFrom, placeholder]
    have one : (name ++ "?").toList.count '?' = 1 := by
      rw [String.toList_append, List.count_append, List.count_eq_zero_of_not_mem freeName]
      rfl
    by_cases last : names = []
    · rw [last]
      exact ⟨first, one⟩
    · have more : names.map (fun name => name ++ "?") ≠ [] := fun none => last (List.map_eq_nil_iff.mp none)
      have more' : (names.zipIdx (k + 1)).map (fun f => f.1 ++ placeholder .pgsql f.2) ≠ [] := by
        intro none
        exact last (List.zipIdx_eq_nil_iff.mp (List.map_eq_nil_iff.mp none))
      have split : ∀ a b c : String, (a ++ b ++ c).toList = a.toList ++ (b.toList ++ c.toList) := by
        intro a b c
        rw [String.toList_append, String.toList_append, List.append_assoc]
      rw [List.map_cons, separated_cons more, List.zipIdx_cons, List.map_cons, separated_cons more', split, split]
      refine ⟨?_, ?_⟩
      · rw [convertFrom_append, convertFrom_append, first, one, convertFrom_of_not_mem free,
          List.count_eq_zero_of_not_mem free, Nat.add_zero, rest]
      · rw [List.count_append, List.count_append, one, List.count_eq_zero_of_not_mem free, count,
          List.length_cons]
        omega

/-- A placeholder by itself, from a place on. -/
lemma convertFrom_one {before after : String} (free : '?' ∉ before.toList) (freeAfter : '?' ∉ after.toList) (k : Nat) :
    convertFrom k (before ++ "?" ++ after).toList = (before ++ placeholder .pgsql k ++ after).toList := by
  have one : convertFrom k "?".toList = (placeholder .pgsql k).toList := by
    simp [convertFrom, placeholder]
  rw [String.toList_append, String.toList_append, convertFrom_append, convertFrom_append,
    List.count_eq_zero_of_not_mem free, Nat.add_zero, one, convertFrom_of_not_mem free,
    convertFrom_of_not_mem freeAfter, String.toList_append, String.toList_append]

variable {α : Type} {g : α → String} {xs : List α} {before after : String} {type : DBType}

/-- Without numbers, all placeholders are alike. -/
lemma separated_unnumbered (other : type ≠ .pgsql) (separator : String) (g : α → String) (xs : List α) (k : Nat) :
    separated separator ((xs.zipIdx k).map fun f => g f.1 ++ placeholder type f.2) =
      separated separator (xs.map fun x => g x ++ "?") := by
  congr 1
  have plain : (fun f : α × Nat => g f.1 ++ placeholder type f.2) = (fun x => g x ++ "?") ∘ Prod.fst := by
    funext f
    rw [placeholder, if_neg other]
    rfl
  rw [plain, ← List.map_map, List.zipIdx_map_fst]

/-- A statement with a list of placeholders, and what comes behind it. -/
lemma convertParams_listed (freeBefore : '?' ∉ before.toList) (free : ∀ x ∈ xs, '?' ∉ (g x).toList) :
    convertParams type (before ++ separated ", " (xs.map fun x => g x ++ "?") ++ after) =
      before ++ separated ", " ((xs.zipIdx 1).map fun f => g f.1 ++ placeholder type f.2) ++
        if type ≠ .pgsql then after else String.ofList (convertFrom (1 + xs.length) after.toList) := by
  rw [convertParams]
  by_cases other : type ≠ .pgsql
  · rw [if_pos other, if_pos other, separated_unnumbered other]
  · rw [if_neg other, if_neg other, not_not.mp other]
    have freeNames : ∀ name ∈ xs.map g, '?' ∉ name.toList := by
      intro name mem
      obtain ⟨x, listed, rfl⟩ := List.mem_map.mp mem
      exact free x listed
    obtain ⟨converted, count⟩ := convertFrom_separated (by decide : '?' ∉ ", ".toList) freeNames 1
    rw [List.map_map, List.zipIdx_map, List.map_map] at converted
    rw [List.map_map, List.length_map] at count
    apply String.toList_inj.mp
    rw [String.toList_ofList, String.toList_append, String.toList_append, convertFrom_append, convertFrom_append,
      convertFrom_of_not_mem freeBefore, List.count_append, List.count_eq_zero_of_not_mem freeBefore, Nat.add_zero,
      Nat.zero_add, String.toList_append, String.toList_append, String.toList_ofList]
    have counted : (separated ", " (xs.map fun x => g x ++ "?")).toList.count '?' = xs.length := count
    rw [counted]
    congr 2

/-- A statement with one placeholder. -/
lemma convertParams_one (free : '?' ∉ before.toList) (freeAfter : '?' ∉ after.toList) :
    convertParams type (before ++ "?" ++ after) = before ++ placeholder type 1 ++ after := by
  rw [convertParams]
  by_cases other : type ≠ .pgsql
  · rw [if_pos other, placeholder, if_neg other]
  · rw [if_neg other, not_not.mp other]
    apply String.toList_inj.mp
    rw [String.toList_ofList]
    exact convertFrom_one free freeAfter 1

end Placeholders

section Statements

variable (db : DB) {fieldName : String}

/-- A text which is made of some others has no placeholder where they have none. -/
lemma not_mem_append {a b : String} (ha : '?' ∉ a.toList) (hb : '?' ∉ b.toList) : '?' ∉ (a ++ b).toList := by
  rw [String.toList_append]
  intro mem
  rcases List.mem_append.mp mem with mem | mem
  · exact ha mem
  · exact hb mem

/-- Parts without a placeholder are joined to a text without one. -/
lemma not_mem_separated {parts : List String} {separator : String} (free : '?' ∉ separator.toList)
    (freeParts : ∀ part ∈ parts, '?' ∉ part.toList) : '?' ∉ (separated separator parts).toList := by
  induction parts with
  | nil => exact List.not_mem_nil
  | cons part parts ih =>
    have first := freeParts part (List.mem_cons_self ..)
    have rest := ih fun next mem => freeParts next (List.mem_cons_of_mem _ mem)
    by_cases last : parts = []
    · rw [last]
      exact first
    · rw [separated_cons last]
      exact not_mem_append (not_mem_append first free) rest

/-- The placeholders of `SelectList_`. -/
lemma insertStatement_eq (some : db.fields ≠ []) : db.insertStatement =
    "insert into  " ++ db.tableName ++ " ( " ++ db.selectFields ++ " ) values (" ++
      separated ", " (db.fields.map fun _ => "" ++ "?") ++ ")" := by
  have opened : db.fields.isEmpty = false := List.isEmpty_eq_false_iff.mpr some
  have values : " ) values (" = " ) values " ++ "(" := by decide
  have mark : (fun _ : Field => "" ++ "?") = fun _ => "?" := by
    funext _
    exact String.empty_append
  have regroup : ∀ a b c d e : String, a ++ b ++ (c ++ d ++ e) = a ++ (b ++ c) ++ d ++ e := by
    intro a b c d e
    simp only [String.append_assoc]
  -- not by its equation, whose proof compares the texts character by character
  delta DB.insertStatement
  rw [DB.selectList, opened, if_neg Bool.false_ne_true, values, mark]
  exact regroup ..

/-- The parts of an update. -/
lemma updateStatement_eq (fieldName : String) : db.updateStatement fieldName =
    "update " ++ db.tableName ++ " set " ++ separated ", " (db.fieldNames.map fun name => name ++ "=" ++ "?") ++
      (" where " ++ fieldName ++ "=" ++ "?" ++ "") := by
  have assigned : (fun name : String => name ++ "=" ++ "?") = fun name => name ++ "=?" := by
    funext name
    exact String.append_assoc
  have key : "=?" = "=" ++ "?" := by decide
  have regroup : ∀ a b c d e : String, a ++ b ++ c ++ (d ++ e) = a ++ (b ++ c ++ d ++ e) := by
    intro a b c d e
    simp only [String.append_assoc]
  delta DB.updateStatement
  rw [assigned, DB.updateFields, String.append_empty, key]
  exact regroup ..

/-- The values are bound by their places: those of the record in the order of the fields, and that of the key
behind them. In the dialect of PostgreSQL a placeholder names the place, in the others it is told by it. -/
theorem statements_numbered (some : db.fields ≠ []) (table : '?' ∉ db.tableName.toList)
    (names : ∀ name ∈ db.fieldNames, '?' ∉ name.toList) (key : '?' ∉ fieldName.toList) :
    convertParams db.type db.insertStatement =
        "insert into  " ++ db.tableName ++ " ( " ++ db.selectFields ++ " ) values (" ++
          separated ", " ((db.fields.zipIdx 1).map fun f => placeholder db.type f.2) ++ ")" ∧
      convertParams db.type (db.updateStatement fieldName) =
        "update " ++ db.tableName ++ " set " ++
          separated ", " ((db.fieldNames.zipIdx 1).map fun f => f.1 ++ "=" ++ placeholder db.type f.2) ++
          (" where " ++ fieldName ++ "=" ++ placeholder db.type (1 + db.fields.length)) ∧
      convertParams db.type (db.deleteStatement fieldName) =
        "delete from " ++ db.tableName ++ " where " ++ fieldName ++ "=" ++ placeholder db.type 1 ∧
      convertParams db.type (db.selectStatement fieldName) =
        "select " ++ db.selectFields ++ " from " ++ db.tableName ++ " where " ++ fieldName ++ "=" ++
          placeholder db.type 1 ++ " limit 1" := by
  have selectFields : '?' ∉ db.selectFields.toList := not_mem_separated (by decide) names
  have keyed : ∀ {before : String}, '?' ∉ before.toList → '?' ∉ (before ++ " where " ++ fieldName ++ "=").toList := by
    intro before free
    exact not_mem_append (not_mem_append (not_mem_append free (by decide)) key) (by decide)
  have mark : "=?" = "=" ++ "?" := by decide
  refine ⟨?_, ?_, ?_, ?_⟩
  · have free : '?' ∉ ("insert into  " ++ db.tableName ++ " ( " ++ db.selectFields ++ " ) values (").toList :=
      not_mem_append (not_mem_append (not_mem_append (not_mem_append (by decide) table) (by decide)) selectFields)
        (by decide)
    have place : (fun f : Field × Nat => "" ++ placeholder db.type f.2) = fun f => placeholder db.type f.2 := by
      funext f
      exact String.empty_append
    rw [insertStatement_eq db some, convertParams_listed (g := fun _ => "") free fun _ _ => List.not_mem_nil, place]
    congr 1
    rw [convertFrom_of_not_mem (by decide), String.ofList_toList, ite_self]
  · have free : '?' ∉ ("update " ++ db.tableName ++ " set ").toList :=
      not_mem_append (not_mem_append (by decide) table) (by decide)
    rw [updateStatement_eq, convertParams_listed (g := fun name => name ++ "=") free fun name mem =>
      not_mem_append (names name mem) (by decide)]
    congr 1
    rw [convertFrom_one (not_mem_append (not_mem_append (by decide) key) (by decide)) (by decide), String.ofList_toList,
      DB.fieldNames, List.length_map, String.append_empty, String.append_empty]
    by_cases other : db.type ≠ .pgsql
    · rw [if_pos other, placeholder, if_neg other]
    · rw [if_neg other, not_not.mp other]
  · have text : db.deleteStatement fieldName =
        "delete from " ++ db.tableName ++ " where " ++ fieldName ++ "=" ++ "?" ++ "" := by
      delta DB.deleteStatement
      rw [mark, String.append_empty]
      exact String.append_assoc.symm
    rw [text, convertParams_one (keyed (not_mem_append (by decide) table)) (by decide), String.append_empty]
  · have text : db.selectStatement fieldName = "select " ++ db.selectFields ++ " from " ++ db.tableName ++
        " where " ++ fieldName ++ "=" ++ "?" ++ " limit 1" := by
      delta DB.selectStatement
      rw [mark]
      exact congrArg (· ++ " limit 1") String.append_assoc.symm
    rw [text]
    apply convertParams_one (keyed ?_) (by decide)
    exact not_mem_append (not_mem_append (not_mem_append (by decide) selectFields) (by decide)) table

/-- The table of `src/storage/storage_subscriber_info.cpp`. -/
def subscriberInfoDB (type : DBType) : DB where
  tableName := "subscriberinfo"
  type := type
  fields :=
    [.sized "id" 64 true, { name := "userId" }, { name := "firstName" }, { name := "initials" },
      { name := "lastName" }, { name := "phoneNumber" }, { name := "secondaryEmail" },
      { name := "accessPoints" }, { name := "serviceAddress" }, { name := "billingAddress" },
      { name := "created", type := .bigInt }, { name := "modified", type := .bigInt }]
  indexes :=
    [{ name := "subinfo_userid_index", entries := [⟨"userId", .asc⟩] },
      { name := "subinfo_phone_index", entries := [⟨"phoneNumber", .asc⟩] }]

/-- A subscriber is deleted by the first value. -/
theorem subscriberInfo_deleted : convertParams .pgsql ((subscriberInfoDB .pgsql).deleteStatement "id") =
    "delete from subscriberinfo where id=$1" := by
  refine (statements_numbered (subscriberInfoDB .pgsql) nofun ?_ ?_ ?_).2.2.1.trans ?_
  · decide
  · decide +kernel
  · decide
  · rfl

/-! ## What `Create` runs -/

/-- The names of a table are balanced texts. -/
structure BalancedNames : Prop where
  table : SqlText.Balanced db.tableName.toList
  fields : ∀ name ∈ db.fieldNames, SqlText.Balanced name.toList
  indexes : ∀ j ∈ db.indexes, SqlText.Balanced j.name.toList
  entries : ∀ j ∈ db.indexes, ∀ k ∈ j.entries, SqlText.Balanced (Utils.toLower k.fieldName).toList

variable {db}

/-- Balanced texts one after the other are balanced. -/
lemma balanced_append {a b : String} (ha : SqlText.Balanced a.toList) (hb : SqlText.Balanced b.toList) :
    SqlText.Balanced (a ++ b).toList := by
  rw [String.toList_append]
  exact ha.append hb

/-- A balanced text in parentheses is balanced. -/
lemma balanced_parenthesised {a : String} (ha : SqlText.Balanced a.toList) :
    SqlText.Balanced ("(" ++ a ++ ")").toList := by
  rw [String.toList_append, String.toList_append]
  exact ha.parenthesised

/-- A text between parentheses, inside and out of spaces. -/
lemma append_parenthesised (a b c d e : String) :
    a ++ (b ++ "(" ++ c) ++ d ++ (e ++ ")") = a ++ b ++ ("(" ++ (c ++ d ++ e) ++ ")") := by
  simp only [String.append_assoc]

/-- A text without quotes and parentheses opens nothing. -/
lemma balanced_of_free {cs : List Char} (free : ∀ c ∈ cs, c ≠ '\'' ∧ c ≠ '(' ∧ c ≠ ')') : SqlText.Balanced cs := by
  induction cs with
  | nil => rfl
  | cons c cs ih =>
    obtain ⟨quote, opening, closing⟩ := free c (List.mem_cons_self ..)
    have step : SqlText.Scan.step {} c = some {} := by
      rw [SqlText.Scan.step, if_neg quote, if_neg Bool.false_ne_true, if_neg opening, if_neg closing]
    rw [SqlText.Balanced, SqlText.scan, step]
    exact ih fun other mem => free other (List.mem_cons_of_mem _ mem)

/-- A number is balanced. -/
lemma balanced_digits (n : Nat) : SqlText.Balanced (toString n).toList := by
  apply balanced_of_free
  intro c digit
  have isDigit : c.isDigit = true := Nat.isDigit_of_mem_toDigits (by decide) (by decide) (Nat.toList_repr ▸ digit)
  refine ⟨?_, ?_, ?_⟩
  all_goals
    intro eq
    rw [eq] at isDigit
    cases isDigit

/-- The type of a field is balanced. -/
lemma balanced_fieldTypeToChar (type : DBType) (t : FieldType) (size : Nat) :
    SqlText.Balanced (fieldTypeToChar type t size).toList := by
  cases t with
  | varchar =>
    rw [fieldTypeToChar]
    split
    · have text : "VARCHAR(" ++ toString size ++ ")" = "VARCHAR" ++ ("(" ++ toString size ++ ")") := by
        rw [(by decide : "VARCHAR(" = "VARCHAR" ++ "("), String.append_assoc, String.append_assoc, String.append_assoc]
      rw [text]
      exact balanced_append (by decide) (balanced_parenthesised (balanced_digits size))
    · decide
  | blob =>
    cases type with
    | mysql => exact (by decide : SqlText.Balanced "LONGBLOB".toList)
    | pgsql => exact (by decide : SqlText.Balanced "BYTEA".toList)
    | sqlite => exact (by decide : SqlText.Balanced "BLOB".toList)
  | int => exact (by decide : SqlText.Balanced "INT".toList)
  | bigInt => exact (by decide : SqlText.Balanced "BIGINT".toList)
  | text => exact (by decide : SqlText.Balanced "TEXT".toList)
  | boolean => exact (by decide : SqlText.Balanced "BOOLEAN".toList)
  | real => exact (by decide : SqlText.Balanced "REAL".toList)

/-- The fields of a table with balanced names are balanced. -/
lemma BalancedNames.createFields (names : BalancedNames db) : SqlText.Balanced db.createFields.toList := by
  apply balanced_separated (by decide)
  intro part mem
  obtain ⟨i, field, rfl⟩ := List.mem_map.mp mem
  have name := names.fields (Utils.toLower i.name) (List.mem_map_of_mem field)
  have typed := balanced_append (balanced_append name (by decide : SqlText.Balanced " ".toList))
    (balanced_fieldTypeToChar db.type i.type i.size)
  split
  · exact balanced_append typed (by decide)
  · exact balanced_append typed (by decide)

/-- What is written of the entries of an index. -/
lemma BalancedNames.indexEntries (names : BalancedNames db) {j : Index} (listed : j ∈ db.indexes)
    {separator : String} (balanced : SqlText.Balanced separator.toList) :
    SqlText.Balanced (separated separator
      (j.entries.map fun k => Utils.toLower k.fieldName ++ " " ++ DB.direction k.type)).toList := by
  apply balanced_separated balanced
  intro part mem
  obtain ⟨k, entry, rfl⟩ := List.mem_map.mp mem
  have directed : SqlText.Balanced (DB.direction k.type).toList := by
    cases k.type <;> decide
  exact balanced_append (balanced_append (names.entries j listed k entry) (by decide)) directed

/-- So is the statement which creates the table. -/
lemma BalancedNames.createTable (names : BalancedNames db) :
    SqlText.Balanced ("create table if not exists " ++ db.tableName ++ " ( " ++ db.createFields ++ " )").toList := by
  have text : "create table if not exists " ++ db.tableName ++ " ( " ++ db.createFields ++ " )" =
      "create table if not exists " ++ db.tableName ++ " " ++ ("(" ++ (" " ++ db.createFields ++ " ") ++ ")") := by
    have opening : " ( " = " " ++ "(" ++ " " := by decide
    have closing : " )" = " " ++ ")" := by decide
    rw [opening, closing]
    exact append_parenthesised ..
  rw [text]
  refine balanced_append (balanced_append (balanced_append (by decide) names.table) (by decide)) ?_
  exact balanced_parenthesised (balanced_append (balanced_append (by decide) names.createFields) (by decide))

/-- An index of its own. -/
lemma BalancedNames.createIndex (names : BalancedNames db) {j : Index} (listed : j ∈ db.indexes) :
    SqlText.Balanced ("CREATE INDEX IF NOT EXISTS " ++ j.name ++ " ON " ++ db.tableName ++ " (" ++
      separated " , " (j.entries.map fun k => Utils.toLower k.fieldName ++ " " ++ DB.direction k.type) ++
        " )").toList := by
  set entries := separated " , " (j.entries.map fun k => Utils.toLower k.fieldName ++ " " ++ DB.direction k.type)
    with entries_eq
  have text : "CREATE INDEX IF NOT EXISTS " ++ j.name ++ " ON " ++ db.tableName ++ " (" ++ entries ++ " )" =
      "CREATE INDEX IF NOT EXISTS " ++ j.name ++ " ON " ++ db.tableName ++ " " ++ ("(" ++ (entries ++ " ") ++ ")") := by
    have opening : " (" = " " ++ "(" ++ "" := by decide
    have closing : " )" = " " ++ ")" := by decide
    rw [opening, closing, append_parenthesised, String.empty_append]
  have named := balanced_append (by decide : SqlText.Balanced "CREATE INDEX IF NOT EXISTS ".toList)
    (names.indexes j listed)
  rw [text]
  refine balanced_append (balanced_append (balanced_append (balanced_append named (by decide)) names.table) ?_) ?_
  · decide
  · apply balanced_parenthesised
    rw [entries_eq]
    exact balanced_append (names.indexEntries listed (by decide)) (by decide)

/-- The indexes within the statement of MySQL. -/
lemma BalancedNames.innerIndexes (names : BalancedNames db) :
    SqlText.Balanced (separated ", " (db.indexes.map fun j => " INDEX " ++ j.name ++ " ( " ++
      separated " ," (j.entries.map fun k => Utils.toLower k.fieldName ++ " " ++ DB.direction k.type) ++
        " ) ")).toList := by
  apply balanced_separated (by decide)
  intro part mem
  obtain ⟨j, listed, rfl⟩ := List.mem_map.mp mem
  set entries := separated " ," (j.entries.map fun k => Utils.toLower k.fieldName ++ " " ++ DB.direction k.type)
    with entries_eq
  have text : " INDEX " ++ j.name ++ " ( " ++ entries ++ " ) " =
      " INDEX " ++ j.name ++ " " ++ ("(" ++ (" " ++ entries ++ " ") ++ ")") ++ " " := by
    have opening : " ( " = " " ++ "(" ++ " " := by decide
    have closing : " ) " = " " ++ ")" ++ " " := by decide
    rw [opening, closing, ← append_parenthesised]
    exact String.append_assoc.symm
  have named := balanced_append (by decide : SqlText.Balanced " INDEX ".toList) (names.indexes j listed)
  rw [text]
  refine balanced_append (balanced_append (balanced_append named (by decide)) ?_) (by decide)
  apply balanced_parenthesised
  rw [entries_eq]
  exact balanced_append (balanced_append (by decide) (names.indexEntries listed (by decide))) (by decide)

/-- A parenthesis which closes nothing. -/
lemma not_balanced_closed {a : String} (ha : SqlText.Balanced a.toList) : ¬ SqlText.Balanced (a ++ " )").toList := by
  intro balanced
  have text : (a ++ " )").toList = (a ++ " ").toList ++ [')'] := by simp
  have before := balanced_append ha (by decide : SqlText.Balanced " ".toList)
  rw [text, SqlText.Balanced, SqlText.scan_append, before] at balanced
  cases balanced

/-- On SQLite and PostgreSQL, each index is made by a statement of its own. -/
lemma mem_createStatements {st : String} (other : db.type ≠ .mysql) (mem : st ∈ db.createStatements) :
    st = "create table if not exists " ++ db.tableName ++ " ( " ++ db.createFields ++ " )" ∨
      ∃ j ∈ db.indexes, st = "CREATE INDEX IF NOT EXISTS " ++ j.name ++ " ON " ++ db.tableName ++ " (" ++
        separated " , " (j.entries.map fun k => Utils.toLower k.fieldName ++ " " ++ DB.direction k.type) ++ " )" := by
  have statements : db.createStatements =
      ("create table if not exists " ++ db.tableName ++ " ( " ++ db.createFields ++ " )") :: db.indexCreation := by
    cases type : db.type with
    | mysql => exact absurd type other
    | sqlite => rw [DB.createStatements, type]
    | pgsql => rw [DB.createStatements, type]
  rw [statements] at mem
  refine (List.mem_cons.mp mem).imp_right fun index => ?_
  rw [DB.indexCreation] at index
  split at index
  · cases index
  · cases type : db.type with
    | mysql => exact absurd type other
    | sqlite =>
      rw [type] at index
      obtain ⟨j, listed, text⟩ := List.mem_map.mp index
      exact ⟨j, listed, text.symm⟩
    | pgsql =>
      rw [type] at index
      obtain ⟨j, listed, text⟩ := List.mem_map.mp index
      exact ⟨j, listed, text.symm⟩

/-- Without indexes there is one statement for MySQL. -/
lemma createStatements_mysql (mysql : db.type = .mysql) (none : db.indexes = []) :
    db.createStatements = ["create table if not exists " ++ db.tableName ++ " ( " ++ db.createFields ++ " )"] := by
  simp [DB.createStatements, DB.indexCreation, mysql, none]

/-- On MySQL, the indexes are written behind the parenthesis of the fields. -/
lemma createStatements_mysql_indexes (mysql : db.type = .mysql) (some : db.indexes ≠ []) :
    db.createStatements = ["create table if not exists " ++ db.tableName ++ " ( " ++ db.createFields ++ " )" ++
      ", " ++ separated ", " (db.indexes.map fun j => " INDEX " ++ j.name ++ " ( " ++
        separated " ," (j.entries.map fun k => Utils.toLower k.fieldName ++ " " ++ DB.direction k.type) ++ " ) ") ++
          " )"] := by
  have any : db.indexes.isEmpty = false := List.isEmpty_eq_false_iff.mpr some
  have closed : ∀ a b : String, a ++ " ), " ++ b = a ++ " )" ++ ", " ++ b := by
    intro a b
    rw [(by decide : " ), " = " )" ++ ", ")]
    exact congrArg (· ++ b) String.append_assoc.symm
  simp only [DB.createStatements, DB.indexCreation, mysql, any, Bool.false_eq_true, if_false, closed]

/-- Each statement of `Create` closes what it opens, unless the indexes of a table of MySQL come behind the
parenthesis of its fields: that parenthesis closes the statement already, and one more follows. -/
theorem createStatements_balanced_iff (names : BalancedNames db) :
    (∀ st ∈ db.createStatements, SqlText.Balanced st.toList) ↔ ¬ (db.type = .mysql ∧ db.indexes ≠ []) := by
  by_cases mysql : db.type = .mysql
  · by_cases none : db.indexes = []
    · rw [createStatements_mysql mysql none]
      refine ⟨fun _ both => both.2 none, fun _ st mem => ?_⟩
      rw [List.mem_singleton.mp mem]
      exact names.createTable
    · rw [createStatements_mysql_indexes mysql none]
      refine ⟨fun all => ?_, fun not => absurd ⟨mysql, none⟩ not⟩
      -- the last parenthesis has nothing to close
      have comma : SqlText.Balanced ", ".toList := by decide
      have before := balanced_append (balanced_append names.createTable comma) names.innerIndexes
      exact absurd (all _ (List.mem_singleton_self _)) (not_balanced_closed before)
  · refine ⟨fun _ both => mysql both.1, fun _ st mem => ?_⟩
    rcases mem_createStatements mysql mem with rfl | ⟨j, listed, rfl⟩
    · exact names.createTable
    · exact names.createIndex listed

/-- The table of the subscribers is not made on MySQL. -/
theorem subscriberInfo_notCreated :
    ¬ ∀ st ∈ (subscriberInfoDB .mysql).createStatements, SqlText.Balanced st.toList := by
  intro all
  refine (createStatements_balanced_iff ⟨?_, ?_, ?_, ?_⟩).mp all ⟨rfl, List.cons_ne_nil _ _⟩
  all_goals decide +kernel

end Statements

/-! ## The order of the records -/

/-- An item as it is asked for. -/
def itemText (item : String × Bool) : String := item.1 ++ ":" ++ if item.2 then "a" else "d"

section OrderBy

variable {db : DB} {i orderByList : String} {item : String × Bool} {items : List (String × Bool)}

/-- A field of an item has neither of the separators, and the table has it. -/
structure DB.Orderable (db : DB) (item : String × Bool) : Prop where
  comma : ',' ∉ item.1.toList
  colon : ':' ∉ item.1.toList
  valid : db.validFieldName item.1

/-- An item is a name, a colon and a direction. -/
lemma toList_itemText (item : String × Bool) :
    (itemText item).toList = item.1.toList ++ ':' :: (if item.2 then "a" else "d").toList := by
  rw [itemText, String.toList_append, String.toList_append]
  exact List.append_assoc ..

/-- A part is an item whose name is a field of the table without a colon. -/
lemma orderByItem_eq_some_iff :
    db.orderByItem i = some item ↔ i = itemText item ∧ ':' ∉ item.1.toList ∧ db.validFieldName item.1 := by
  obtain ⟨field, ascending⟩ := item
  have pair : ∀ order : String, ':' ∉ order.toList →
      (StringTokenizer.tokens i ":" = [field, order] ↔ i = field ++ ":" ++ order ∧ ':' ∉ field.toList) := by
    intro order free
    rw [StringTokenizer.tokens_eq_pair_iff (rfl : ":".toList = [':']), ← String.toList_inj, String.toList_append,
      String.toList_append]
    show _ ↔ i.toList = field.toList ++ [':'] ++ order.toList ∧ _
    rw [List.append_assoc]
    exact ⟨fun both => ⟨both.1, both.2.1⟩, fun both => ⟨both.1, both.2, free⟩⟩
  refine ⟨?_, ?_⟩
  · intro read
    rw [DB.orderByItem] at read
    split at read
    · rename_i field' order tokens
      by_cases known : order ≠ "a" ∧ order ≠ "d"
      · rw [if_pos known] at read
        cases read
      · rw [if_neg known] at read
        by_cases valid : db.fieldNames.contains (Utils.toLower field')
        · rw [if_pos valid] at read
          cases read
          by_cases up : order = "a"
          · rw [up] at tokens
            obtain ⟨text, colon⟩ := (pair "a" (by decide)).mp tokens
            rw [text, up]
            exact ⟨rfl, colon, valid⟩
          · have down : order = "d" := not_not.mp fun other => known ⟨up, other⟩
            rw [down] at tokens
            obtain ⟨text, colon⟩ := (pair "d" (by decide)).mp tokens
            rw [text, down]
            exact ⟨rfl, colon, valid⟩
        · rw [if_neg valid] at read
          cases read
    · cases read
  · intro both
    obtain ⟨text, colon, valid⟩ := both
    have known : db.fieldNames.contains (Utils.toLower field) := valid
    rw [DB.orderByItem]
    cases ascending with
    | true =>
      rw [(pair "a" (by decide)).mpr ⟨text, colon⟩]
      show (if _ then _ else _) = _
      rw [if_neg fun both => both.1 rfl, if_pos known]
      rfl
    | false =>
      rw [(pair "d" (by decide)).mpr ⟨text, colon⟩]
      show (if _ then _ else _) = _
      rw [if_neg fun both => both.2 rfl, if_pos known]
      rfl

/-- The comma of an item would be one of its name. -/
lemma comma_not_mem_itemText (item : String × Bool) : ',' ∉ (itemText item).toList ↔ ',' ∉ item.1.toList := by
  have free : ',' ∉ (':' :: (if item.2 then "a" else "d").toList) := by
    cases item.2 <;> decide
  rw [toList_itemText, List.mem_append, or_iff_left free]

/-- Items which are asked for make a text which is not empty. -/
lemma separated_itemText_ne (some : items ≠ []) : separated "," (items.map itemText) ≠ "" := by
  obtain ⟨first, rest, rfl⟩ := List.exists_cons_of_ne_nil some
  intro none
  have colon : ':' ∈ (separated "," ((first :: rest).map itemText)).toList := by
    have here : ':' ∈ (itemText first).toList := by
      rw [toList_itemText]
      exact List.mem_append_right _ (List.mem_cons_self ..)
    rw [List.map_cons]
    by_cases last : rest.map itemText = []
    · rw [last]
      exact here
    · rw [separated_cons last, String.toList_append, String.toList_append]
      exact List.mem_append_left _ (List.mem_append_left _ here)
  rw [none] at colon
  cases colon

/-- The items of a list, as they are read from it. -/
lemma orderByItems_eq_some_iff :
    (StringTokenizer.tokens orderByList ",").mapM db.orderByItem = some items ↔
      orderByList = separated "," (items.map itemText) ∧ ∀ item ∈ items, db.Orderable item := by
  rw [Interaction.mapM_some_iff_map fun i item => orderByItem_eq_some_iff]
  by_cases empty : orderByList = ""
  · rw [empty, StringTokenizer.tokens, if_pos rfl]
    refine ⟨?_, ?_⟩
    · intro both
      rw [List.map_eq_nil_iff.mp both.1.symm]
      exact ⟨rfl, fun item mem => absurd mem List.not_mem_nil⟩
    · intro both
      have none : items = [] := not_not.mp fun some => separated_itemText_ne some both.1.symm
      rw [none]
      exact ⟨rfl, fun item mem => absurd mem List.not_mem_nil⟩
  · rw [StringTokenizer.tokens_eq_iff_parts (rfl : ",".toList = [',']) empty, StringTokenizer.Parts,
      ← String.toList_inj, toList_separated]
    refine ⟨?_, ?_⟩
    · intro both
      obtain ⟨⟨-, text, free⟩, all⟩ := both
      refine ⟨text, fun item mem => ⟨?_, (all item mem).1, (all item mem).2⟩⟩
      exact (comma_not_mem_itemText item).mp (free _ (List.mem_map_of_mem mem))
    · intro both
      obtain ⟨text, all⟩ := both
      refine ⟨⟨?_, text, ?_⟩, fun item mem => ⟨(all item mem).colon, (all item mem).valid⟩⟩
      · intro none
        rw [none] at text
        exact empty (String.toList_inj.mp text)
      · intro part mem
        obtain ⟨item, listed, rfl⟩ := List.mem_map.mp mem
        exact (comma_not_mem_itemText item).mpr (all item listed).comma

/-- A list is accepted exactly when it is written of fields of the table, each with its direction; then the
clause is made of these fields as they are written, in this order, and there is none for the empty list. -/
theorem prepareOrderBy_iff {clause : Option String} :
    db.prepareOrderBy orderByList = some clause ↔
      ∃ items : List (String × Bool), orderByList = separated "," (items.map itemText) ∧
        (∀ item ∈ items, db.Orderable item) ∧
        clause = if items = [] then none else some (" ORDER BY " ++ separated " , " (items.map DB.orderByText)) := by
  rw [DB.prepareOrderBy]
  refine ⟨?_, ?_⟩
  · intro prepared
    obtain ⟨items, read, rest⟩ := Option.bind_eq_some_iff.mp prepared
    obtain ⟨text, all⟩ := orderByItems_eq_some_iff.mp read
    refine ⟨items, text, all, ?_⟩
    by_cases none : items = []
    · rw [if_pos none] at rest ⊢
      exact (Option.some.inj rest).symm
    · rw [if_neg none] at rest ⊢
      exact (Option.some.inj rest).symm
  · intro asked
    obtain ⟨items, text, all, rfl⟩ := asked
    refine Option.bind_eq_some_iff.mpr ⟨items, orderByItems_eq_some_iff.mpr ⟨text, all⟩, ?_⟩
    by_cases none : items = []
    · rw [if_pos none, if_pos none]
      rfl
    · rw [if_neg none, if_neg none]
      rfl

end OrderBy

end UserPortal.Orm

import UserPortal.Data.Assignments
import UserPortal.Framework.Utils

/-!
# Routing

Port of `ParseBindings` and `RESTAPI_Router` of `src/framework/RESTAPI_Handler.h`. A handler has a list of
path templates, whose segments in braces are parameters; a path goes to the first template which it
matches, and the bindings are what its parameters stand for.

`parseBindings_spec`: which paths are accepted, and when the bindings are those of the template which
matches. A segment is bound where it differs from the text of the template, and stays bound when the
template fails afterwards.
-/

namespace UserPortal.Routing
open Data

/-- `BindingMap` -/
abbrev BindingMap := OrderedMap String String

/-- `Poco::StringTokenizer` at slashes: the empty string has no tokens. -/
def tokens (s : String) : List String :=
  if s = "" then [] else (s.toList.splitOn '/').map String.ofList

/-- The segment of a template is a parameter. -/
def isParameter (item : String) : Bool := item.toList.head? = some '{'

/-- The name of a parameter, which stands in braces. -/
def paramName (item : String) : String :=
  Utils.toLower (String.ofList ((item.toList.drop 1).take (item.toList.length - 2)))

/-- The loop over the segments of a path and of a template: whether they match, and the bindings. -/
def matchItems : List (String × String) → BindingMap → Bool × BindingMap
  | [], bindings => (true, bindings)
  | (pathItem, paramItem) :: items, bindings =>
    if pathItem ≠ paramItem then
      if isParameter paramItem then matchItems items (bindings.assign (paramName paramItem) pathItem)
      else (false, bindings)
    else matchItems items bindings

/-- The loop over the templates. -/
def tryEndPoints (pathItems : List String) : List String → BindingMap → Bool × BindingMap
  | [], bindings => (false, bindings)
  | endPoint :: endPoints, bindings =>
    let paramItems := tokens endPoint
    if pathItems.length ≠ paramItems.length then tryEndPoints pathItems endPoints bindings
    else
      match matchItems (pathItems.zip paramItems) bindings with
      | (true, bindings) => (true, bindings)
      | (false, bindings) => tryEndPoints pathItems endPoints bindings

/-- `ParseBindings`, which starts from no bindings. -/
def parseBindings (request : String) (endPoints : List String) : Bool × BindingMap :=
  tryEndPoints (tokens request) endPoints .empty

/-- `RESTAPI_Router`: the first handler one of whose templates matches, with its bindings; `none` stands for
the handler of unknown requests. -/
def router {Handler : Type} (requestedPath : String) :
    List (Handler × List String) → Option (Handler × BindingMap)
  | [] => none
  | (handler, pathName) :: handlers =>
    match parseBindings requestedPath pathName with
    | (true, bindings) => some (handler, bindings)
    | (false, _) => router requestedPath handlers

/-! ## Templates -/

/-- A path and a template have the same number of segments, and the literal ones are the same. -/
def Matches (pathItems paramItems : List String) : Prop :=
  List.Forall₂ (fun pathItem paramItem => isParameter paramItem = false → pathItem = paramItem) pathItems
    paramItems

/-- The pairs of a name and a segment of the parameters of a template. -/
def parameters (pathItems paramItems : List String) : List (String × String) :=
  ((pathItems.zip paramItems).filter fun item => isParameter item.2).map fun item =>
    (paramName item.2, item.1)

/-- The first of some templates which a path matches, and those before it. -/
structure FirstMatch (pathItems endPoints before : List String) (endPoint : String) : Prop where
  split : ∃ after, endPoints = before ++ endPoint :: after
  fails : ∀ e ∈ before, ¬ Matches pathItems (tokens e)
  succeeds : Matches pathItems (tokens endPoint)

/-- Routing is by the first match, with exact bindings. -/
structure RoutesExactly (request : String) (endPoints : List String) (result : Bool × BindingMap) :
    Prop where
  accepts : result.1 = true ↔ ∃ endPoint ∈ endPoints, Matches (tokens request) (tokens endPoint)
  bindings : ∀ before endPoint, FirstMatch (tokens request) endPoints before endPoint →
    result.2.entries.Perm (parameters (tokens request) (tokens endPoint))

/-- The segments which are bound while a template is tried: those of the parameters which differ from the
text of the template, up to the first literal segment which fails. -/
def written : List (String × String) → List (String × String)
  | [] => []
  | (pathItem, paramItem) :: items =>
    if pathItem = paramItem then written items
    else if isParameter paramItem then (paramName paramItem, pathItem) :: written items
    else []

/-- The segments which are bound while some templates are tried. -/
def leftovers (pathItems : List String) (before : List String) : List (String × String) :=
  before.flatMap fun e =>
    if pathItems.length = (tokens e).length then written (pathItems.zip (tokens e)) else []

/-- The parameters of a template have distinct names, the templates tried before it leave no other name, and
a parameter whose segment is the text of the template was left with this same segment. -/
structure BindsCleanly (pathItems : List String) (before : List String) (paramItems : List String) :
    Prop where
  distinct : ((parameters pathItems paramItems).map Prod.fst).Nodup
  nothingLeft : ∀ w ∈ leftovers pathItems before, w.1 ∈ (parameters pathItems paramItems).map Prod.fst
  literally : ∀ item ∈ pathItems.zip paramItems, isParameter item.2 = true → item.1 = item.2 →
    lastAssigned (leftovers pathItems before) (paramName item.2) = some item.1

/-! ## The loops -/

variable {pathItems paramItems endPoints before before' : List String} {endPoint endPoint' : String}
  {items : List (String × String)}

lemma matches_iff :
    Matches pathItems paramItems ↔ pathItems.length = paramItems.length ∧
      ∀ item ∈ pathItems.zip paramItems, item.1 = item.2 ∨ isParameter item.2 = true := by
  rw [Matches, List.forall₂_iff_zip]
  refine and_congr_right fun _ => ?_
  refine ⟨?_, ?_⟩
  · intro h item mem
    cases param : isParameter item.2 with
    | true => exact .inr rfl
    | false => exact .inl (h mem param)
  · intro h a b mem literal
    rcases h (a, b) mem with eq | param
    · exact eq
    · rw [literal] at param
      cases param

/-- One template: every segment has to be the same or a parameter, and the bindings are written on the
way. -/
lemma matchItems_eq (items : List (String × String)) (bindings : BindingMap) :
    matchItems items bindings =
      (items.all fun item => item.1 = item.2 || isParameter item.2, bindings.assignAll (written items)) := by
  induction items generalizing bindings with
  | nil => rfl
  | cons item items ih =>
    obtain ⟨pathItem, paramItem⟩ := item
    rw [matchItems, written, List.all_cons]
    dsimp only
    by_cases same : pathItem = paramItem
    · rw [if_neg (not_not_intro same), if_pos same, ih, decide_eq_true same]
      rfl
    · rw [if_pos same, if_neg same, decide_eq_false same]
      cases isParameter paramItem with
      | true =>
        rw [if_pos rfl, if_pos rfl, ih]
        rfl
      | false => rfl

lemma matchItems_matches (len : pathItems.length = paramItems.length) (bindings : BindingMap) :
    ((matchItems (pathItems.zip paramItems) bindings).1 = true ↔ Matches pathItems paramItems) ∧
      (matchItems (pathItems.zip paramItems) bindings).2 =
        bindings.assignAll (written (pathItems.zip paramItems)) := by
  rw [matchItems_eq, matches_iff]
  refine ⟨?_, rfl⟩
  rw [List.all_eq_true]
  simp only [Bool.or_eq_true, decide_eq_true_eq]
  exact (and_iff_right len).symm

/-- A template which fails stands before the first match of the others. -/
lemma FirstMatch.cons {pathItems endPoints before : List String} {e endPoint : String}
    (first : FirstMatch pathItems endPoints before endPoint) (fails : ¬ Matches pathItems (tokens e)) :
    FirstMatch pathItems (e :: endPoints) (e :: before) endPoint := by
  obtain ⟨after, split⟩ := first.split
  refine ⟨⟨after, ?_⟩, List.forall_mem_cons.mpr ⟨fails, first.fails⟩, first.succeeds⟩
  rw [split, List.cons_append]

/-- The loop over the templates stops at the first match, with what has been written by then. -/
lemma tryEndPoints_spec (pathItems endPoints : List String) (bindings : BindingMap) :
    (∃ before endPoint, FirstMatch pathItems endPoints before endPoint ∧
      tryEndPoints pathItems endPoints bindings = (true, (bindings.assignAll
        (leftovers pathItems before)).assignAll (written (pathItems.zip (tokens endPoint))))) ∨
    (∀ e ∈ endPoints, ¬ Matches pathItems (tokens e)) ∧
      (tryEndPoints pathItems endPoints bindings).1 = false := by
  induction endPoints generalizing bindings with
  | nil => exact .inr ⟨fun e mem => absurd mem List.not_mem_nil, rfl⟩
  | cons e endPoints ih =>
    rw [tryEndPoints]
    -- what is left of this template, and the induction for the others
    have goesOn : ∀ left, ¬ Matches pathItems (tokens e) →
        (if pathItems.length = (tokens e).length then written (pathItems.zip (tokens e)) else []) = left →
        (∃ before endPoint, FirstMatch pathItems (e :: endPoints) before endPoint ∧
          tryEndPoints pathItems endPoints (bindings.assignAll left) = (true, (bindings.assignAll
            (leftovers pathItems before)).assignAll (written (pathItems.zip (tokens endPoint))))) ∨
        (∀ e' ∈ e :: endPoints, ¬ Matches pathItems (tokens e')) ∧
          (tryEndPoints pathItems endPoints (bindings.assignAll left)).1 = false := by
      intro left fails eq
      rcases ih (bindings.assignAll left) with ⟨before, endPoint, first, run⟩ | ⟨none, run⟩
      · refine .inl ⟨e :: before, endPoint, first.cons fails, ?_⟩
        have cons : leftovers pathItems (e :: before) = left ++ leftovers pathItems before := by
          rw [← eq]
          exact List.flatMap_cons
        rw [run, cons, OrderedMap.assignAll_append]
      · exact .inr ⟨List.forall_mem_cons.mpr ⟨fails, none⟩, run⟩
    by_cases len : pathItems.length = (tokens e).length
    · rw [if_neg (not_not_intro len)]
      rw [if_pos len] at goesOn
      obtain ⟨is_match, bound⟩ := matchItems_matches len bindings
      cases found : matchItems (pathItems.zip (tokens e)) bindings with
      | mk matched bindings' =>
        rw [found] at is_match bound
        dsimp only at is_match bound
        rw [bound]
        cases matched with
        | true =>
          refine .inl ⟨[], e, ⟨⟨endPoints, rfl⟩, fun e mem => absurd mem List.not_mem_nil, ?_⟩, rfl⟩
          exact is_match.mp rfl
        | false =>
          exact goesOn _ (fun fits => Bool.false_ne_true (is_match.mpr fits)) rfl
    · rw [if_pos len]
      exact goesOn [] (fun fits => len (matches_iff.mp fits).1) (if_neg len)

/-- There is one first match. -/
lemma FirstMatch.unique (h : FirstMatch pathItems endPoints before endPoint)
    (h' : FirstMatch pathItems endPoints before' endPoint') : before = before' ∧ endPoint = endPoint' := by
  obtain ⟨⟨after, split⟩, fails, succeeds⟩ := h
  obtain ⟨⟨after', split'⟩, fails', succeeds'⟩ := h'
  induction before generalizing before' endPoints with
  | nil =>
    cases before' with
    | nil =>
      rw [split] at split'
      exact ⟨rfl, (List.cons.inj split').1⟩
    | cons e before' =>
      rw [split] at split'
      obtain rfl := (List.cons.inj split').1
      exact absurd succeeds (fails' _ (List.mem_cons_self ..))
  | cons e before ih =>
    cases before' with
    | nil =>
      rw [split'] at split
      obtain rfl := (List.cons.inj split).1
      exact absurd succeeds' (fails _ (List.mem_cons_self ..))
    | cons e' before' =>
      rw [split] at split'
      obtain ⟨rfl, rest⟩ := List.cons.inj split'
      obtain ⟨fails1, fails⟩ := List.forall_mem_cons.mp fails
      obtain ⟨_, fails'⟩ := List.forall_mem_cons.mp fails'
      obtain ⟨rfl, same⟩ := ih fails rfl fails' rest
      exact ⟨rfl, same⟩

/-! ## The bindings -/

lemma mem_parameters {w : String × String} :
    w ∈ parameters pathItems paramItems ↔ ∃ item ∈ pathItems.zip paramItems,
      isParameter item.2 = true ∧ (paramName item.2, item.1) = w := by
  rw [parameters, List.mem_map]
  simp only [List.mem_filter, and_assoc]

/-- Where the segments match, all parameters which differ from their text are written. -/
lemma written_eq (fits : ∀ item ∈ items, item.1 = item.2 ∨ isParameter item.2 = true) :
    written items = (items.filter fun item => isParameter item.2 && item.1 ≠ item.2).map
      fun item => (paramName item.2, item.1) := by
  induction items with
  | nil => rfl
  | cons item items ih =>
    obtain ⟨first, rest⟩ := List.forall_mem_cons.mp fits
    rw [written, ih rest]
    by_cases same : item.1 = item.2
    · rw [if_pos same, List.filter_cons_of_neg (by simp [same])]
    · have param := first.resolve_left same
      rw [if_neg same, if_pos param, List.filter_cons_of_pos (by simp [same, param]), List.map_cons]

lemma mem_written (fits : Matches pathItems paramItems) {w : String × String} :
    w ∈ written (pathItems.zip paramItems) ↔ ∃ item ∈ pathItems.zip paramItems,
      isParameter item.2 = true ∧ item.1 ≠ item.2 ∧ (paramName item.2, item.1) = w := by
  rw [written_eq (matches_iff.mp fits).2]
  simp only [List.mem_map, List.mem_filter, Bool.and_eq_true, decide_eq_true_eq, and_assoc]

/-- The parameters whose segment is the text of the template. -/
def unwritten (pathItems paramItems : List String) : List (String × String) :=
  ((pathItems.zip paramItems).filter fun item => isParameter item.2 && item.1 = item.2).map fun item =>
    (paramName item.2, item.1)

lemma mem_unwritten {w : String × String} :
    w ∈ unwritten pathItems paramItems ↔ ∃ item ∈ pathItems.zip paramItems,
      isParameter item.2 = true ∧ item.1 = item.2 ∧ (paramName item.2, item.1) = w := by
  rw [unwritten]
  simp only [List.mem_map, List.mem_filter, Bool.and_eq_true, decide_eq_true_eq, and_assoc]

lemma mem_parameters_iff (fits : Matches pathItems paramItems) (w : String × String) :
    w ∈ parameters pathItems paramItems ↔
      w ∈ written (pathItems.zip paramItems) ∨ w ∈ unwritten pathItems paramItems := by
  rw [mem_parameters, mem_written fits, mem_unwritten]
  refine ⟨?_, ?_⟩
  · intro h
    obtain ⟨item, mem, param, eq⟩ := h
    by_cases same : item.1 = item.2
    · exact .inr ⟨item, mem, param, same, eq⟩
    · exact .inl ⟨item, mem, param, same, eq⟩
  · intro h
    rcases h with ⟨item, mem, param, _, eq⟩ | ⟨item, mem, param, _, eq⟩
    · exact ⟨item, mem, param, eq⟩
    · exact ⟨item, mem, param, eq⟩

/-- No pair is both where the names are distinct. -/
lemma not_written_of_unwritten (fits : Matches pathItems paramItems)
    (distinct : ((parameters pathItems paramItems).map Prod.fst).Nodup) {w : String × String}
    (mem : w ∈ unwritten pathItems paramItems) : w ∉ written (pathItems.zip paramItems) := by
  intro mem'
  obtain ⟨item, here, param, same, eq⟩ := mem_unwritten.mp mem
  obtain ⟨item', here', param', differs, eq'⟩ := (mem_written fits).mp mem'
  rw [parameters, List.map_map] at distinct
  have one : item = item' := by
    apply List.inj_on_of_nodup_map distinct (List.mem_filter.mpr ⟨here, param⟩)
      (List.mem_filter.mpr ⟨here', param'⟩)
    exact congrArg Prod.fst (eq.trans eq'.symm)
  rw [one] at same
  exact differs same

/-- The bindings after a match are the parameters of its template exactly where it binds cleanly. -/
lemma bindings_exact_iff (fits : Matches pathItems paramItems) (before : List String) :
    ((OrderedMap.empty.assignAll (leftovers pathItems before)).assignAll
        (written (pathItems.zip paramItems))).entries.Perm (parameters pathItems paramItems) ↔
      BindsCleanly pathItems before paramItems := by
  rw [OrderedMap.entries_perm_iff, ← OrderedMap.assignAll_append]
  have held : ∀ k, ((OrderedMap.empty : BindingMap).assignAll (leftovers pathItems before ++
      written (pathItems.zip paramItems))).get? k =
        lastAssigned (leftovers pathItems before ++ written (pathItems.zip paramItems)) k := by
    intro k
    rw [OrderedMap.get?_assignAll, OrderedMap.get?_empty, Option.or_none]
  simp only [held]
  have complete := fun distinct => lastAssigned_complete_iff (leftovers pathItems before)
    (distinct : ((parameters pathItems paramItems).map Prod.fst).Nodup) (mem_parameters_iff fits)
    fun w mem => not_written_of_unwritten fits distinct mem
  refine ⟨?_, ?_⟩
  · intro h
    obtain ⟨distinct, holds⟩ := h
    obtain ⟨named, others⟩ := (complete distinct).mp holds
    refine ⟨distinct, named, fun item mem param same => ?_⟩
    have unbound : (paramName item.2, item.1) ∈ unwritten pathItems paramItems :=
      mem_unwritten.mpr ⟨item, mem, param, same, rfl⟩
    have left := others _ unbound
    dsimp only at left
    exact left
  · intro cleanly
    refine ⟨cleanly.distinct, (complete cleanly.distinct).mpr ⟨cleanly.nothingLeft, fun w mem => ?_⟩⟩
    obtain ⟨item, here, param, same, eq⟩ := mem_unwritten.mp mem
    rw [← eq]
    exact cleanly.literally item here param same

lemma parseBindings_accepts_iff {request : String} :
    (parseBindings request endPoints).1 = true ↔
      ∃ endPoint ∈ endPoints, Matches (tokens request) (tokens endPoint) := by
  rcases tryEndPoints_spec (tokens request) endPoints .empty with ⟨before, e, first, run⟩ | ⟨none, run⟩
  · rw [parseBindings, run]
    obtain ⟨after, split⟩ := first.split
    refine iff_of_true rfl ⟨e, ?_, first.succeeds⟩
    rw [split]
    exact List.mem_append_right _ (List.mem_cons_self ..)
  · rw [parseBindings, run]
    refine iff_of_false Bool.false_ne_true fun h => ?_
    obtain ⟨e, mem, fits⟩ := h
    exact none e mem fits

lemma parseBindings_first {request : String}
    (first : FirstMatch (tokens request) endPoints before endPoint) :
    (parseBindings request endPoints).2 =
      ((OrderedMap.empty : BindingMap).assignAll (leftovers (tokens request) before)).assignAll
        (written ((tokens request).zip (tokens endPoint))) := by
  rcases tryEndPoints_spec (tokens request) endPoints .empty with ⟨before', e, first', run⟩ | ⟨none, _⟩
  · obtain ⟨rfl, rfl⟩ := first.unique first'
    rw [parseBindings, run]
  · obtain ⟨after, split⟩ := first.split
    refine absurd first.succeeds (none endPoint ?_)
    rw [split]
    exact List.mem_append_right _ (List.mem_cons_self ..)

/-- A path is accepted where a template matches; its bindings are exact where the first such template binds
cleanly. -/
theorem parseBindings_routesExactly_iff (request : String) (endPoints : List String) :
    RoutesExactly request endPoints (parseBindings request endPoints) ↔
      ∀ before endPoint, FirstMatch (tokens request) endPoints before endPoint →
        BindsCleanly (tokens request) before (tokens endPoint) := by
  refine ⟨?_, ?_⟩
  · intro exact_ before endPoint first
    have perm := exact_.bindings before endPoint first
    rw [parseBindings_first first] at perm
    exact (bindings_exact_iff first.succeeds before).mp perm
  · intro cleanly
    refine ⟨parseBindings_accepts_iff, fun before endPoint first => ?_⟩
    rw [parseBindings_first first]
    exact (bindings_exact_iff first.succeeds before).mpr (cleanly before endPoint first)

/-- A segment which is the text of the template is not bound. -/
theorem templateText_unbound :
    ¬ RoutesExactly "/api/v1/oauth2/{token}" ["/api/v1/oauth2/{token}", "/api/v1/oauth2"]
      (parseBindings "/api/v1/oauth2/{token}" ["/api/v1/oauth2/{token}", "/api/v1/oauth2"]) := by
  intro exact_
  have first : FirstMatch (tokens "/api/v1/oauth2/{token}") ["/api/v1/oauth2/{token}", "/api/v1/oauth2"] []
      "/api/v1/oauth2/{token}" := by
    refine ⟨⟨_, rfl⟩, fun e mem => absurd mem List.not_mem_nil, matches_iff.mpr ?_⟩
    decide +kernel
  have perm := (exact_.bindings _ _ first).length_eq
  have two : (parameters (tokens "/api/v1/oauth2/{token}") (tokens "/api/v1/oauth2/{token}")).length = 1 := by
    decide +kernel
  have zero : (parseBindings "/api/v1/oauth2/{token}"
      ["/api/v1/oauth2/{token}", "/api/v1/oauth2"]).2.entries.length = 0 := by decide +kernel
  rw [two, zero] at perm
  cases perm

/-- What a template which fails has bound is left for the next one. -/
example : (parseBindings "/a/b" ["/{x}/c", "/a/{y}"]).2.entries = [("x", "a"), ("y", "b")] := by
  decide +kernel

/-! ## The handlers -/

/-- A request goes to the first handler one of whose templates it matches, and to the handler of unknown
requests where there is none. -/
lemma router_spec {Handler : Type} (requestedPath : String) (handlers : List (Handler × List String)) :
    (∃ skipped handler pathName others, handlers = skipped ++ (handler, pathName) :: others ∧
      (∀ h ∈ skipped, ∀ e ∈ h.2, ¬ Matches (tokens requestedPath) (tokens e)) ∧
      (∃ e ∈ pathName, Matches (tokens requestedPath) (tokens e)) ∧
      router requestedPath handlers = some (handler, (parseBindings requestedPath pathName).2)) ∨
    (∀ h ∈ handlers, ∀ e ∈ h.2, ¬ Matches (tokens requestedPath) (tokens e)) ∧
      router requestedPath handlers = none := by
  induction handlers with
  | nil => exact .inr ⟨fun h mem => absurd mem List.not_mem_nil, rfl⟩
  | cons h handlers ih =>
    obtain ⟨handler, pathName⟩ := h
    have accepts : (parseBindings requestedPath pathName).1 = true ↔ _ := parseBindings_accepts_iff
    rw [router]
    cases parsed : parseBindings requestedPath pathName with
    | mk accepted bindings =>
      rw [parsed] at accepts
      cases accepted with
      | true =>
        refine .inl ⟨[], handler, pathName, handlers, rfl, fun h mem => absurd mem List.not_mem_nil,
          accepts.mp rfl, ?_⟩
        rw [parsed]
      | false =>
        have fails : ∀ e ∈ pathName, ¬ Matches (tokens requestedPath) (tokens e) := by
          intro e mem fits
          exact Bool.false_ne_true (accepts.mpr ⟨e, mem, fits⟩)
        rcases ih with ⟨skipped, handler', pathName', others, rfl, none, some, run⟩ | ⟨none, run⟩
        · exact .inl ⟨(handler, pathName) :: skipped, handler', pathName', others, rfl,
            List.forall_mem_cons.mpr ⟨fails, none⟩, some, run⟩
        · exact .inr ⟨List.forall_mem_cons.mpr ⟨fails, none⟩, run⟩

end UserPortal.Routing

import Mathlib.Data.List.Induction
import Mathlib.Data.Set.Function
import UserPortal.Data.Assignments
import UserPortal.Data.Windows

/-!
# The rate limiter

Port of `src/framework/RESTAPI_RateLimiter.h`. An entry of the cache holds the start of a window and the
number of its requests; its key is the hash of the path of a request followed by its host. Entries which
are evicted or expire are left out.

`exactOn_iff`: the limiter is exact and keeps clients apart where no two of them have the same key.
-/

namespace UserPortal.RateLimiter
open Data

/-- `ClientCacheEntry`. An `int` counts the requests. -/
structure ClientCacheEntry where
  start : Int
  count : Int
  deriving DecidableEq

/-- The cache, by the hash of a key. -/
abbrev Cache := OrderedMap Nat ClientCacheEntry

/-- What the limiter reads of a request, and the clock in milliseconds. -/
structure Request where
  path : String
  host : String
  now : Int
  deriving DecidableEq

/-- The client of a request, as it asks for a path. -/
def Request.client (r : Request) : String × String := (r.path, r.host)

/-- An `int` wraps around at 32 bits. -/
def toInt32 (n : Int) : Int := n.bmod (2 ^ 32)

variable (hash : String → Nat) (period maxCalls : Int)

/-- `IsRateLimited` -/
def isRateLimited (cache : Cache) (r : Request) : Bool × Cache :=
  let h := hash (r.path ++ r.host)
  match cache.get? h with
  | none => (false, cache.assign h { start := r.now, count := 1 })
  | some e =>
    if r.now - e.start < period then
      let e := { e with count := toInt32 (e.count + 1) }
      (maxCalls < e.count, cache.assign h e)
    else (false, cache.assign h { start := r.now, count := 1 })

/-- The cache after some requests. -/
def cacheAfter (before : List Request) : Cache :=
  before.foldl (fun cache r => (isRateLimited hash period maxCalls cache r).2) .empty

/-- Whether a request is limited after some others. -/
def limitedAfter (before : List Request) (r : Request) : Bool :=
  (isRateLimited hash period maxCalls (cacheAfter hash period maxCalls before) r).1

/-! ## What the limiter is for -/

/-- The times of the requests of a client. -/
def timesOf (client : String × String) (requests : List Request) : List Int :=
  (requests.filter fun r => r.client = client).map Request.now

/-- The requests of a client in its current window. -/
def windowOf (client : String × String) (requests : List Request) : List Int :=
  currentWindow period (timesOf client requests)

/-- The limiter decides by the number of requests of the same client in its current window, and the
requests of other clients do not count: for all clients of a set, in every sequence of requests in time
whose windows can be counted. -/
def ExactOn (clients : Set (String × String)) : Prop :=
  ∀ period maxCalls, 1 ≤ maxCalls → ∀ before r,
    (before ++ [r]).Pairwise (fun a b => a.now ≤ b.now) → (∀ a ∈ before ++ [r], a.client ∈ clients) →
    (windowOf period r.client (before ++ [r])).length < 2 ^ 31 →
    (limitedAfter hash period maxCalls before r = true ↔
      maxCalls < (windowOf period r.client (before ++ [r])).length) ∧
    limitedAfter hash period maxCalls before r =
      limitedAfter hash period maxCalls (before.filter fun a => a.client = r.client) r

/-! ## Entries and windows -/

section Entries

variable {hash period maxCalls} {clients : Set (String × String)} {before : List Request} {r : Request}
  {client : String × String}

/-- The entry of a window. -/
def entryOf : List Int → Option ClientCacheEntry
  | [] => none
  | start :: window => some { start, count := toInt32 (start :: window).length }

lemma toInt32_of_small {n : Nat} (small : n < 2 ^ 31) : toInt32 n = n := by
  rw [toInt32]
  apply Int.bmod_eq_of_le
  · omega
  · omega

lemma entryOf_singleton (t : Int) : entryOf [t] = some { start := t, count := 1 } := by
  have one : toInt32 (1 : Nat) = 1 := toInt32_of_small (by decide)
  rw [entryOf, List.length_singleton, one]

/-- A request extends the window of its entry, or starts the next one. -/
lemma isRateLimited_spec {cache : Cache} {window : List Int} (atLeastOne : 1 ≤ maxCalls)
    (held : cache.get? (hash (r.path ++ r.host)) = entryOf window) :
    (isRateLimited hash period maxCalls cache r).1 =
        decide (maxCalls < toInt32 (extendWindow period window r.now).length) ∧
      ∀ k, (isRateLimited hash period maxCalls cache r).2.get? k =
        if hash (r.path ++ r.host) = k then entryOf (extendWindow period window r.now)
        else cache.get? k := by
  have one : ¬ maxCalls < toInt32 (1 : Nat) := by
    rw [toInt32_of_small (by decide)]
    exact Int.not_lt.mpr atLeastOne
  rw [isRateLimited]
  dsimp only
  cases window with
  | nil =>
    rw [held]
    rw [extendWindow, entryOf_singleton, List.length_singleton, decide_eq_false one]
    exact ⟨rfl, OrderedMap.get?_assign cache⟩
  | cons start window =>
    rw [entryOf] at held
    rw [held]
    by_cases early : r.now - start < period
    · have extended : extendWindow period (start :: window) r.now = start :: window ++ [r.now] :=
        if_pos early
      have len : ((start :: window ++ [r.now]).length : Int) = (start :: window).length + 1 := by simp
      have count : toInt32 (toInt32 (start :: window).length + 1) =
          toInt32 ((start :: window ++ [r.now]).length : Nat) := by
        rw [len, toInt32, toInt32, toInt32, Int.bmod_add_bmod]
      have entry : entryOf (start :: window ++ [r.now]) =
          some { start, count := toInt32 ((start :: window ++ [r.now]).length : Nat) } := rfl
      rw [extended, entry]
      dsimp only
      rw [if_pos early, count]
      refine ⟨?_, OrderedMap.get?_assign cache⟩
      dsimp only
    · have next : extendWindow period (start :: window) r.now = [r.now] := if_neg early
      rw [next, entryOf_singleton, List.length_singleton, decide_eq_false one]
      dsimp only
      rw [if_neg early]
      exact ⟨rfl, OrderedMap.get?_assign cache⟩

lemma timesOf_concat (client : String × String) (before : List Request) (r : Request) :
    timesOf client (before ++ [r]) =
      if r.client = client then timesOf client before ++ [r.now] else timesOf client before := by
  rw [timesOf, List.filter_append, List.map_append]
  by_cases own : r.client = client
  · rw [if_pos own, List.filter_cons_of_pos (by simpa using own)]
    rfl
  · rw [if_neg own, List.filter_cons_of_neg (by simpa using own)]
    exact List.append_nil _

lemma windowOf_concat (before : List Request) (r : Request) :
    windowOf period r.client (before ++ [r]) =
      extendWindow period (windowOf period r.client before) r.now := by
  rw [windowOf, timesOf_concat, if_pos rfl, currentWindow_concat]
  rfl

lemma windowOf_concat_of_ne (other : r.client ≠ client) (before : List Request) :
    windowOf period client (before ++ [r]) = windowOf period client before := by
  rw [windowOf, timesOf_concat, if_neg other]
  rfl

/-- Where no two clients have the same key, every entry is the current window of its client. -/
lemma cacheAfter_get? (apart : Set.InjOn (fun c : String × String => hash (c.1 ++ c.2)) clients)
    (atLeastOne : 1 ≤ maxCalls) (mem : ∀ a ∈ before, a.client ∈ clients) (own : client ∈ clients) :
    (cacheAfter hash period maxCalls before).get? (hash (client.1 ++ client.2)) =
      entryOf (windowOf period client before) := by
  induction before using List.reverseRecOn generalizing client with
  | nil =>
    rw [windowOf, timesOf, List.filter_nil, List.map_nil, currentWindow_nil]
    rfl
  | append_singleton before r ih =>
    have mem' : ∀ a ∈ before, a.client ∈ clients := fun a here => mem a (List.mem_append_left _ here)
    have last : r.client ∈ clients := mem r (List.mem_append_right _ (List.mem_singleton_self r))
    have step : (cacheAfter hash period maxCalls (before ++ [r])).get? (hash (client.1 ++ client.2)) =
        if hash (r.client.1 ++ r.client.2) = hash (client.1 ++ client.2) then
          entryOf (extendWindow period (windowOf period r.client before) r.now)
        else (cacheAfter hash period maxCalls before).get? (hash (client.1 ++ client.2)) := by
      rw [cacheAfter, List.foldl_append]
      exact (isRateLimited_spec atLeastOne (ih mem' last)).2 _
    rw [step]
    by_cases same : r.client = client
    · rw [← same, windowOf_concat, if_pos rfl]
    · rw [windowOf_concat_of_ne same, if_neg fun eq => same (apart last own eq)]
      exact ih mem' own

lemma limitedAfter_eq (apart : Set.InjOn (fun c : String × String => hash (c.1 ++ c.2)) clients)
    (atLeastOne : 1 ≤ maxCalls) (mem : ∀ a ∈ before ++ [r], a.client ∈ clients) :
    limitedAfter hash period maxCalls before r =
      decide (maxCalls < toInt32 (windowOf period r.client (before ++ [r])).length) := by
  have mem' : ∀ a ∈ before, a.client ∈ clients := fun a here => mem a (List.mem_append_left _ here)
  have last : r.client ∈ clients := mem r (List.mem_append_right _ (List.mem_singleton_self r))
  have held : (cacheAfter hash period maxCalls before).get? (hash (r.path ++ r.host)) =
      entryOf (windowOf period r.client before) := cacheAfter_get? apart atLeastOne mem' last
  rw [limitedAfter, windowOf_concat]
  exact (isRateLimited_spec atLeastOne held).1

lemma timesOf_filter (client : String × String) (requests : List Request) :
    timesOf client (requests.filter fun a => a.client = client) = timesOf client requests := by
  rw [timesOf, timesOf, List.filter_filter]
  simp only [Bool.and_self]

/-- Two clients with one key share their windows: the second one is limited by the request of the first. -/
lemma limited_of_sameKey {a b : String × String} (same : a.1 ++ a.2 = b.1 ++ b.2) :
    limitedAfter hash 1 1 [⟨a.1, a.2, 0⟩] ⟨b.1, b.2, 0⟩ = true := by
  have first : cacheAfter hash 1 1 [⟨a.1, a.2, 0⟩] =
      OrderedMap.empty.assign (hash (a.1 ++ a.2)) { start := 0, count := 1 } := rfl
  have held : (OrderedMap.empty.assign (hash (a.1 ++ a.2))
      ({ start := 0, count := 1 } : ClientCacheEntry)).get? (hash (b.1 ++ b.2)) =
        some { start := 0, count := 1 } := by
    rw [OrderedMap.get?_assign, same, if_pos rfl]
  rw [limitedAfter, first, isRateLimited]
  dsimp only
  rw [held]
  dsimp only
  have two : toInt32 (1 + 1) = 2 := by decide +kernel
  have early : (0 : Int) - 0 < 1 := by decide
  have more : (1 : Int) < 2 := by decide
  rw [if_pos early, two]
  exact decide_eq_true more

lemma windowOf_nil (client : String × String) : windowOf period client [] = [] := currentWindow_nil

/-- The request of another client is not counted. -/
lemma windowOf_pair {a b : String × String} (other : a ≠ b) :
    windowOf 1 b ([⟨a.1, a.2, 0⟩] ++ [⟨b.1, b.2, 0⟩]) = [0] := by
  have first : windowOf 1 b ([] ++ [⟨a.1, a.2, 0⟩]) = [] := by
    rw [windowOf_concat_of_ne, windowOf_nil]
    exact other
  refine (windowOf_concat [⟨a.1, a.2, 0⟩] ⟨b.1, b.2, 0⟩).trans ?_
  exact congrArg (fun window => extendWindow 1 window 0) first

/-- Where the limiter is exact, no two clients have the same key. -/
lemma ExactOn.apart {a b : String × String} (exactOn : ExactOn hash clients) (memA : a ∈ clients)
    (memB : b ∈ clients) (same : a.1 ++ a.2 = b.1 ++ b.2) : a = b := by
  by_contra other
  have window := windowOf_pair other
  have inTime : ([⟨a.1, a.2, 0⟩] ++ [⟨b.1, b.2, 0⟩] : List Request).Pairwise
      fun x y => x.now ≤ y.now := by simp
  have known : ∀ x ∈ ([⟨a.1, a.2, 0⟩] ++ [⟨b.1, b.2, 0⟩] : List Request), x.client ∈ clients := by
    intro x mem
    rcases List.mem_append.mp mem with mem | mem
    · rw [List.mem_singleton.mp mem]
      exact memA
    · rw [List.mem_singleton.mp mem]
      exact memB
  have windowLength : (windowOf 1 b ([⟨a.1, a.2, 0⟩] ++ [⟨b.1, b.2, 0⟩])).length = 1 :=
    congrArg List.length window
  have countable : (windowOf 1 b ([⟨a.1, a.2, 0⟩] ++ [⟨b.1, b.2, 0⟩])).length < 2 ^ 31 := by
    rw [windowLength]
    decide
  have counted := (exactOn 1 1 le_rfl _ _ inTime known countable).1.mp (limited_of_sameKey same)
  rw [Request.client, windowLength] at counted
  exact absurd counted (by decide)

end Entries

/-- The limiter is exact for a set of clients, and isolates them, where no two of them have the same path
followed by the host. -/
theorem exactOn_iff {hash : String → Nat} {clients : Set (String × String)}
    (noCollision : Set.InjOn hash ((fun c : String × String => c.1 ++ c.2) '' clients)) :
    ExactOn hash clients ↔ Set.InjOn (fun c : String × String => c.1 ++ c.2) clients := by
  refine ⟨?_, ?_⟩
  · intro exactOn a memA b memB same
    exact exactOn.apart memA memB same
  · intro apart
    have keys : Set.InjOn (fun c : String × String => hash (c.1 ++ c.2)) clients := by
      intro a memA b memB eq
      exact apart memA memB (noCollision ⟨a, memA, rfl⟩ ⟨b, memB, rfl⟩ eq)
    intro period maxCalls atLeastOne before r _ mem countable
    have decision : limitedAfter hash period maxCalls before r =
        decide (maxCalls < toInt32 (windowOf period r.client (before ++ [r])).length) :=
      limitedAfter_eq keys atLeastOne mem
    have own : windowOf period r.client ((before.filter fun a => a.client = r.client) ++ [r]) =
        windowOf period r.client (before ++ [r]) := by
      rw [windowOf_concat, windowOf_concat, windowOf, timesOf_filter]
      rfl
    have alone : limitedAfter hash period maxCalls (before.filter fun a => a.client = r.client) r =
        decide (maxCalls < toInt32
          (windowOf period r.client ((before.filter fun a => a.client = r.client) ++ [r])).length) := by
      refine limitedAfter_eq keys atLeastOne fun a here => mem a ?_
      rcases List.mem_append.mp here with here | here
      · exact List.mem_append_left _ (List.mem_of_mem_filter here)
      · exact List.mem_append_right _ here
    refine ⟨?_, ?_⟩
    · rw [decision, toInt32_of_small countable, decide_eq_true_eq]
    · rw [decision, alone, own]

/-- A hash of strings. -/
def stringHash (s : String) : Nat :=
  s.toList.foldl (fun h c => (h ^^^ c.toNat) * 1099511628211 % 2 ^ 64) 14695981039346656037

/-- Two paths asked for by one host. -/
theorem exactOn_onePortal :
    ExactOn stringHash {("/api/v1/oauth2", "10.0.0.1"), ("/api/v1/submfa", "10.0.0.1")} := by
  refine (exactOn_iff ?_).mpr ?_
  · rw [Set.image_pair]
    refine Set.injOn_pair.mpr fun eq => absurd eq ?_
    decide +kernel
  · refine Set.injOn_pair.mpr fun eq => absurd eq ?_
    decide +kernel

/-- Two hosts whose paths make up for the difference of their addresses. -/
theorem not_exactOn_shiftedHost :
    ¬ ExactOn stringHash {("/api/v1/oauth2/a", "110.0.0.1"), ("/api/v1/oauth2/a1", "10.0.0.1")} := by
  have same : "/api/v1/oauth2/a" ++ "110.0.0.1" = "/api/v1/oauth2/a1" ++ "10.0.0.1" := by decide +kernel
  intro exactOn
  have eq : ("/api/v1/oauth2/a", "110.0.0.1") = ("/api/v1/oauth2/a1", "10.0.0.1") :=
    exactOn.apart (Set.mem_insert _ _) (Set.mem_insert_of_mem _ rfl) same
  exact absurd eq (by decide)

end UserPortal.RateLimiter

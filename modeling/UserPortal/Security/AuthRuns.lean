import UserPortal.Security.AuthClient

/-!
# Runs of the authentication client

A run is a sequence of calls of `IsAuthorized`, `IsValidApiKey` and `RemovedCachedToken`, each with
whatever the clock and the security service answer, with entries dropped from the caches in between.
A step of a run is recorded with the state before and after it, its events and its result; the
history of a run is the list of its steps, the newest first.
-/

namespace UserPortal.Security
open Interaction Program

/-- The calls of `AuthClient`. -/
inductive Request where
  | isAuthorized (sessionToken : String) (sub : Bool)
  | isValidApiKey (sessionToken : String)
  | removedCachedToken (token : String)
  deriving DecidableEq

/-- A step of a run. -/
structure Served where
  request : Request
  /-- what the caller passed by reference -/
  passed : AuthInfo
  before : AuthClient
  events : List Portal.Event
  allowed : Bool
  info : AuthInfo
  after : AuthClient

namespace AuthClient

variable (conv : Conversions)

/-- What a call does. -/
def serve (self : AuthClient) : Request → AuthInfo → Portal (Bool × AuthInfo × AuthClient)
  | .isAuthorized sessionToken sub, info => isAuthorized conv self sessionToken info sub
  | .isValidApiKey sessionToken, info => isValidApiKey conv self sessionToken info
  | .removedCachedToken token, info => return (true, info, self.removedCachedToken token)

/-- Runs from the client before its first call. -/
inductive Run : List Served → AuthClient → Prop where
  | init : Run [] .init
  | evict {served : List Served} {self : AuthClient} (token : String) :
    Run served self →
    Run served (self.remove token)
  | evictApiKey {served : List Served} {self : AuthClient} (key : String) :
    Run served self →
    Run served (self.removeApiKey key)
  | step {served : List Served} (st : Served) :
    Run served st.before →
    Trace (serve conv st.before st.request st.passed) st.events (st.allowed, st.info, st.after) →
    Run (st :: served) st.after

variable {conv}

lemma Run.trace {served : List Served} {self : AuthClient} (run : Run conv served self)
    {st : Served} (mem : st ∈ served) :
    Trace (serve conv st.before st.request st.passed) st.events (st.allowed, st.info, st.after) := by
  induction run with
  | init => cases mem
  | evict _ _ ih => exact ih mem
  | evictApiKey _ _ ih => exact ih mem
  | step st' _ tr ih =>
    rcases List.mem_cons.mp mem with rfl | mem
    · exact tr
    · exact ih mem

/-! ## API keys -/

/-- A use of a key respects the expiry of the entry which is cached for it. -/
structure RespectsExpiry (st : Served) (key : String) : Prop where
  /-- an entry is accepted without asking the service only up to its expiry -/
  accepted : ∀ e, st.before.apiKeyCache key = some e → st.allowed = true →
    Portal.calls st.events = [] → ∀ t ∈ Portal.readings st.events, Utils.now t ≤ e.expiresOn
  /-- an expired entry is removed and validated again -/
  revalidated : ∀ e, st.before.apiKeyCache key = some e →
    ∀ t ∈ Portal.readings st.events, e.expiresOn < Utils.now t →
      Portal.calls st.events ≠ [] ∧ (st.allowed = false → st.after.apiKeyCache key = none)
  /-- an entry which has not expired is served without asking the service -/
  cached : ∀ e, st.before.apiKeyCache key = some e →
    ∀ t ∈ Portal.readings st.events, Utils.now t ≤ e.expiresOn →
      st.allowed = true ∧ st.info.uInfo = e.userInfo ∧ Portal.calls st.events = []

/-- Retrieving a key asks the service once and leaves the tokens as they are. -/
lemma retrieveApiKeyInformation_inv {self self' : AuthClient} {key : String} {info info' : AuthInfo}
    {tr : List Portal.Event} {allowed : Bool}
    (h : Trace (retrieveApiKeyInformation conv self key info) tr (allowed, info', self')) :
    (∃ c answer rest, tr = ⟨.call c, answer⟩ :: rest) ∧ self'.cache = self.cache := by
  obtain ⟨answer, rest, rfl, h1⟩ := OpenAPIRequest.trace_get_bind.mp h
  refine ⟨⟨_, answer, _, rfl⟩, ?_⟩
  -- what the branches of the answer differ in does not touch the tokens
  repeat' split at h1
  all_goals
    cases (trace_pure.mp h1).2
    rfl

/-- A key which is cached is accepted exactly when its entry has expired. -/
lemma isValidApiKey_hit_inv {self self' : AuthClient} {key : String} {info info' : AuthInfo}
    {tr : List Portal.Event} {allowed : Bool} {e : ApiKeyCacheEntry}
    (hit : self.apiKeyCache key = some e)
    (h : Trace (isValidApiKey conv self key info) tr (allowed, info', self')) :
    ∃ t rest, tr = ⟨.now, t⟩ :: rest ∧
      (e.expiresOn < Utils.now t ∧ rest = [] ∧ allowed = true ∨
        Utils.now t ≤ e.expiresOn ∧ ∃ c answer rest', rest = ⟨.call c, answer⟩ :: rest') := by
  rw [isValidApiKey, hit] at h
  obtain ⟨t, rest, rfl, h1⟩ := trace_perform_bind.mp h
  refine ⟨t, rest, rfl, ?_⟩
  rcases Nat.lt_or_ge e.expiresOn (Utils.now t) with lt | le
  · rw [if_pos lt] at h1
    obtain ⟨rfl, eq⟩ := trace_pure.mp h1
    cases eq
    exact .inl ⟨lt, rfl, rfl⟩
  · rw [if_neg (Nat.not_lt.mpr le)] at h1
    exact .inr ⟨le, (retrieveApiKeyInformation_inv h1).1⟩

/-- The expiry of an API key is respected exactly where the cache holds no entry for it. -/
theorem respectsExpiry_iff {served : List Served} {self : AuthClient} (run : Run conv served self) :
    (∀ st ∈ served, ∀ key, st.request = .isValidApiKey key → RespectsExpiry st key) ↔
      ∀ st ∈ served, ∀ key, st.request = .isValidApiKey key → st.before.apiKeyCache key = none := by
  refine forall₂_congr fun st mem => forall₂_congr fun key req => ?_
  have tr := run.trace mem
  rw [req] at tr
  refine ⟨?_, ?_⟩
  · intro resp
    cases hit : st.before.apiKeyCache key with
    | none => rfl
    | some e =>
      obtain ⟨t, rest, ev, ⟨lt, rfl, ok⟩ | ⟨le, c, answer, rest', rfl⟩⟩ := isValidApiKey_hit_inv hit tr
      · have le := resp.accepted e hit ok (by simp [ev]) t (by simp [ev])
        omega
      · have h := (resp.cached e hit t (by simp [ev]) le).2.2
        simp [ev] at h
  · intro miss
    refine ⟨?_, ?_, ?_⟩
    all_goals
      intro e hit
      rw [miss] at hit
      cases hit

/-! ### A run with an expired key -/

/-- What the security service answers about an API key which expires at 100 s. -/
def apiKeyReply : Json.Object :=
  [("expiresOn", .int 100), ("tokenInfo", .obj []), ("userInfo", .obj [])]

/-- The key is used for the first time. -/
def firstUse : Served where
  request := .isValidApiKey "key"
  passed := {}
  before := .init
  events := [⟨.call {
    verb := .get
    service := uSERVICE_SECURITY
    endPoint := "/api/v1/validateApiKey"
    queryData := [("apikey", "key")]
    body := []
    msTimeout := 10000
    bearerToken := "" }, some ⟨HTTPStatus.ok, .json (.obj apiKeyReply)⟩⟩]
  allowed := true
  info := { contacted := true }
  after := AuthClient.init.updateApiKey "key" { userInfo := {}, expiresOn := 100 }

/-- The key is used again at 200 s. -/
def expiredUse : Served where
  request := .isValidApiKey "key"
  passed := {}
  before := firstUse.after
  events := [⟨.now, 200000000⟩]
  allowed := true
  info := {}
  after := firstUse.after

lemma firstUse_run : Run Conversions.strict [firstUse] firstUse.after :=
  .step firstUse .init (.ask _ (.ret _))

lemma expiredUse_run : Run Conversions.strict [expiredUse, firstUse] expiredUse.after :=
  .step expiredUse firstUse_run (.ask _ (.ret _))

theorem respectsExpiry_iff_firstUse :
    (∀ st ∈ [firstUse], ∀ key, st.request = .isValidApiKey key → RespectsExpiry st key) ↔
      ∀ st ∈ [firstUse], ∀ key, st.request = .isValidApiKey key → st.before.apiKeyCache key = none :=
  respectsExpiry_iff firstUse_run

/-- An API key is accepted from the cache 100 s after its expiry. -/
theorem expiredUse_accepted :
    Run Conversions.strict [expiredUse, firstUse] expiredUse.after ∧
    expiredUse.before.apiKeyCache "key" = some { userInfo := {}, expiresOn := 100 } ∧
    expiredUse.allowed = true ∧ Portal.calls expiredUse.events = [] ∧
    Portal.readings expiredUse.events = [200000000] ∧
    ¬ RespectsExpiry expiredUse "key" := by
  refine ⟨expiredUse_run, rfl, rfl, rfl, rfl, ?_⟩
  intro resp
  have le := resp.accepted _ rfl rfl rfl 200000000 (List.mem_singleton_self _)
  exact absurd le (by decide)

/-- A use of an API key leaves the tokens as they are. -/
lemma isValidApiKey_cache {self self' : AuthClient} {key : String} {info info' : AuthInfo}
    {tr : List Portal.Event} {allowed : Bool}
    (h : Trace (isValidApiKey conv self key info) tr (allowed, info', self')) :
    self'.cache = self.cache := by
  rw [isValidApiKey] at h
  split at h
  case h_1 e hit =>
    obtain ⟨t, rest, rfl, h1⟩ := trace_perform_bind.mp h
    rcases Nat.lt_or_ge e.expiresOn (Utils.now t) with lt | le
    · rw [if_pos lt] at h1
      cases (trace_pure.mp h1).2
      rfl
    · rw [if_neg (Nat.not_lt.mpr le)] at h1
      exact (retrieveApiKeyInformation_inv h1).2
  case h_2 => exact (retrieveApiKeyInformation_inv h).2

/-! ## Tokens -/

/-- The call which validates a token. -/
def validateCall (sub : Bool) (token : String) : Call where
  verb := .get
  service := uSERVICE_SECURITY
  endPoint := validateEndPoint sub
  queryData := [("token", token)]
  body := []
  msTimeout := 10000
  bearerToken := ""

/-- In a step, the security service accepted the token on the endpoint of its kind, with a token
which had not expired. -/
def Validated (conv : Conversions) (sub : Bool) (token : String) (u : UserInfoAndPolicy)
    (st : Served) : Prop :=
  ∃ (r : Json.Object) (t : Int), st.events =
      [⟨.call (validateCall sub token), some ⟨HTTPStatus.ok, .json (.obj r)⟩⟩, ⟨.now, t⟩] ∧
    r.has "tokenInfo" = true ∧ r.has "userInfo" = true ∧
    u = st.passed.uInfo.fromJson conv r ∧ isTokenExpired u.webtoken (Utils.now t) = false

/-- The token which a step stored in `Cache_`, with the flag `Sub` of the call. -/
def stored (st : Served) : Option (String × Bool) :=
  match st.request with
  | .isAuthorized token sub =>
    if st.allowed && (st.before.cache token).isNone then some (token, sub) else none
  | _ => none

/-- The flag `Sub` of the last call of a history which stored the token. -/
def storedBy (token : String) : List Served → Option Bool
  | [] => none
  | st :: served =>
    match stored st with
    | some (token', sub) => if token' = token then some sub else storedBy token served
    | none => storedBy token served

/-- Retrieving a token either refuses it and changes nothing, or caches what the service accepted. -/
lemma retrieveTokenInformation_inv {self self' : AuthClient} {token : String} {sub : Bool}
    {info info' : AuthInfo} {tr : List Portal.Event} {allowed : Bool}
    (h : Trace (retrieveTokenInformation conv self token info sub) tr (allowed, info', self')) :
    allowed = false ∧ self' = self ∨
    allowed = true ∧ self' = self.update token info'.uInfo ∧
      ∃ (r : Json.Object) (t : Int), tr =
          [⟨.call (validateCall sub token), some ⟨HTTPStatus.ok, .json (.obj r)⟩⟩, ⟨.now, t⟩] ∧
        r.has "tokenInfo" = true ∧ r.has "userInfo" = true ∧
        info'.uInfo = info.uInfo.fromJson conv r ∧
        isTokenExpired info'.uInfo.webtoken (Utils.now t) = false := by
  obtain ⟨answer, rest, rfl, h1⟩ := OpenAPIRequest.trace_get_bind.mp h
  split at h1
  rename_i statusCode response eq
  split at h1
  · cases (trace_pure.mp h1).2
    exact .inl ⟨rfl, rfl⟩
  · split at h1
    case isFalse =>
      cases (trace_pure.mp h1).2
      exact .inl ⟨rfl, rfl⟩
    case isTrue ok =>
      subst ok
      split at h1
      case h_1 =>
        cases (trace_pure.mp h1).2
        exact .inl ⟨rfl, rfl⟩
      case h_2 r =>
        split at h1
        case isFalse =>
          cases (trace_pure.mp h1).2
          exact .inl ⟨rfl, rfl⟩
        case isTrue has =>
          obtain ⟨has1, has2⟩ := Bool.and_eq_true_iff.mp has
          obtain ⟨⟨status, body⟩, rfl, b, eq'⟩ := OpenAPIRequest.lenient_some (congrArg Prod.snd eq)
          rw [eq'] at eq
          obtain rfl : status = HTTPStatus.ok := congrArg Prod.fst eq
          obtain rfl : body = .json (.obj r) := b
          obtain ⟨t, rest', rfl, h2⟩ := trace_perform_bind.mp h1
          split at h2
          case isTrue =>
            cases (trace_pure.mp h2).2
            exact .inl ⟨rfl, rfl⟩
          case isFalse fresh =>
            obtain ⟨rfl, e⟩ := trace_pure.mp h2
            cases e
            exact .inr ⟨rfl, rfl, r, t, rfl, has1, has2, rfl, by simpa using fresh⟩

/-- A token which is cached is accepted as long as it has not expired, whoever stored it. -/
lemma isAuthorized_hit_inv {self self' : AuthClient} {token : String} {sub : Bool}
    {info info' : AuthInfo} {tr : List Portal.Event} {allowed : Bool} {u : UserInfoAndPolicy}
    (hit : self.cache token = some u)
    (h : Trace (isAuthorized conv self token info sub) tr (allowed, info', self')) :
    ∃ t, tr = [⟨.now, t⟩] ∧
      (isTokenExpired u.webtoken (Utils.now t) = true ∧ allowed = false ∧ self' = self.remove token ∨
        isTokenExpired u.webtoken (Utils.now t) = false ∧ allowed = true ∧ self' = self ∧
          info'.uInfo = u) := by
  rw [isAuthorized, hit] at h
  obtain ⟨t, rest, rfl, h1⟩ := trace_perform_bind.mp h
  refine ⟨t, ?_⟩
  split at h1
  case isTrue old =>
    obtain ⟨rfl, e⟩ := trace_pure.mp h1
    cases e
    exact ⟨rfl, .inl ⟨old, rfl, rfl⟩⟩
  case isFalse fresh =>
    obtain ⟨rfl, e⟩ := trace_pure.mp h1
    cases e
    exact ⟨rfl, .inr ⟨by simpa using fresh, rfl, rfl, rfl⟩⟩

/-- What is cached after a step was cached before, or the step stored it. -/
lemma step_cache {st : Served} {token : String} {u : UserInfoAndPolicy}
    (h : Trace (serve conv st.before st.request st.passed) st.events (st.allowed, st.info, st.after))
    (hit : st.after.cache token = some u) :
    stored st = none ∧ st.before.cache token = some u ∨
    ∃ token' sub, stored st = some (token', sub) ∧
      (token' ≠ token ∧ st.before.cache token = some u ∨
        token' = token ∧ Validated conv sub token u st) := by
  cases req : st.request with
  | isValidApiKey key =>
    rw [req] at h
    rw [isValidApiKey_cache h] at hit
    exact .inl ⟨by simp [stored, req], hit⟩
  | removedCachedToken token' =>
    rw [req] at h
    have eq : st.after = st.before.removedCachedToken token' :=
      congrArg (fun r => r.2.2) (trace_pure.mp h).2
    rw [eq, removedCachedToken, removeApiKey_cache] at hit
    exact .inl ⟨by simp [stored, req], (remove_cache_eq_some.mp hit).2⟩
  | isAuthorized token' sub =>
    rw [req, serve] at h
    cases cached : st.before.cache token' with
    | some u' =>
      have no : stored st = none := by simp [stored, req, cached]
      obtain ⟨t, _, ⟨_, _, eq⟩ | ⟨_, _, eq, _⟩⟩ := isAuthorized_hit_inv cached h
      · rw [eq] at hit
        exact .inl ⟨no, (remove_cache_eq_some.mp hit).2⟩
      · rw [eq] at hit
        exact .inl ⟨no, hit⟩
    | none =>
      rw [isAuthorized, cached] at h
      rcases retrieveTokenInformation_inv h with ⟨ok, eq⟩ | ⟨ok, eq, r, t, ev, has1, has2, eq', fresh⟩
      · rw [eq] at hit
        exact .inl ⟨by simp [stored, req, ok], hit⟩
      · refine .inr ⟨token', sub, by simp [stored, req, ok, cached], ?_⟩
        rw [eq] at hit
        rcases update_cache_eq_some.mp hit with ⟨rfl, rfl⟩ | ⟨ne, hit⟩
        · exact .inr ⟨rfl, r, t, ev, has1, has2, eq', fresh⟩
        · exact .inl ⟨ne, hit⟩

/-- What is cached was validated by the call which stored it last, on the endpoint of its kind. -/
lemma Run.cache_validated {served : List Served} {self : AuthClient} (run : Run conv served self)
    {token : String} {u : UserInfoAndPolicy} (hit : self.cache token = some u) :
    ∃ sub, storedBy token served = some sub ∧ ∃ st ∈ served, Validated conv sub token u st := by
  induction run with
  | init => cases hit
  | evict token' _ ih => exact ih (remove_cache_eq_some.mp hit).2
  | evictApiKey key _ ih => exact ih hit
  | step st _ tr ih =>
    rcases step_cache tr hit with ⟨eq, hit⟩ | ⟨token', sub, eq, ⟨ne, hit⟩ | ⟨rfl, val⟩⟩
    · obtain ⟨sub, by_, st', mem, val⟩ := ih hit
      exact ⟨sub, by simp [storedBy, eq, by_], st', List.mem_cons_of_mem _ mem, val⟩
    · obtain ⟨sub', by_, st', mem, val⟩ := ih hit
      exact ⟨sub', by simp [storedBy, eq, ne, by_], st', List.mem_cons_of_mem _ mem, val⟩
    · exact ⟨sub, by simp [storedBy, eq], st, List.mem_cons_self .., val⟩

/-- The history before a step of a run is a run to the state before that step. -/
lemma Run.prefix {served : List Served} {self : AuthClient} (run : Run conv served self)
    {st : Served} {history : List Served} (at_ : st :: history <:+ served) :
    Run conv history st.before := by
  induction run with
  | init => cases at_.length_le
  | evict _ _ ih => exact ih at_
  | evictApiKey _ _ ih => exact ih at_
  | step st' run' _ ih =>
    rcases List.suffix_cons_iff.mp at_ with e | at_
    · cases e
      exact run'
    · exact ih at_

/-- A step accepted a user which the security service validated for that kind of call, now or in
the history, and which has not expired. -/
def Backed (conv : Conversions) (sub : Bool) (token : String) (history : List Served) (st : Served) :
    Prop :=
  (∃ st' ∈ st :: history, Validated conv sub token st.info.uInfo st') ∧
    ∃ t ∈ Portal.readings st.events, isTokenExpired st.info.uInfo.webtoken (Utils.now t) = false

/-- An accepted token was validated on the endpoint of its kind, unless a call of the other kind had
cached it. -/
lemma isAuthorized_backed {served : List Served} {self : AuthClient} (run : Run conv served self)
    {st : Served} {history : List Served} (at_ : st :: history <:+ served) {token : String} {sub : Bool}
    (req : st.request = .isAuthorized token sub)
    (kind : st.before.cache token ≠ none → storedBy token history ≠ some !sub)
    (ok : st.allowed = true) : Backed conv sub token history st := by
  have tr := run.trace (at_.subset (List.mem_cons_self ..))
  have before := run.prefix at_
  rw [req, serve] at tr
  cases cached : st.before.cache token with
  | some u =>
    obtain ⟨t, ev, ⟨_, no, _⟩ | ⟨fresh, _, _, eq⟩⟩ := isAuthorized_hit_inv cached tr
    · rw [no] at ok
      cases ok
    · obtain ⟨sub', by_, st', mem, val⟩ := before.cache_validated cached
      have e : sub' = sub := by
        have ne := kind (by simp [cached])
        rw [by_] at ne
        cases sub <;> cases sub' <;> simp_all
      subst e
      rw [← eq] at val fresh
      exact ⟨⟨st', List.mem_cons_of_mem _ mem, val⟩, t, by simp [ev], fresh⟩
  | none =>
    rw [isAuthorized, cached] at tr
    rcases retrieveTokenInformation_inv tr with ⟨no, _⟩ | ⟨_, _, r, t, ev, has1, has2, eq, fresh⟩
    · rw [no] at ok
      cases ok
    · exact ⟨⟨st, List.mem_cons_self .., r, t, ev, has1, has2, eq, fresh⟩, t, by simp [ev], fresh⟩

/-- In a run whose subscriber calls never find a token which a call of the other kind cached, they
accept only what the security service validated as a subscriber token. -/
theorem isAuthorized_sub_backed {served : List Served} {self : AuthClient}
    (run : Run conv served self)
    (kind : ∀ st history, st :: history <:+ served → ∀ token, st.request = .isAuthorized token true →
      st.before.cache token ≠ none → storedBy token history ≠ some false) :
    ∀ st history, st :: history <:+ served → ∀ token, st.request = .isAuthorized token true →
      st.allowed = true → Backed conv true token history st := by
  intro st history at_ token req ok
  exact isAuthorized_backed run at_ req (kind st history at_ token req) ok

/-! ### A run with a token of a system user -/

/-- What the security service answers about a token which was created at 100 s for an hour. -/
def tokenReply : Json.Object :=
  [("tokenInfo", .obj [("created", .int 100), ("expires_in", .int 3600)]), ("userInfo", .obj [])]

def tokenUser : UserInfoAndPolicy where
  webtoken := { expiresIn := 3600, created := 100 }

/-- The token is checked by a system handler, or by a subscriber handler. -/
def checkedBy (sub : Bool) : Served where
  request := .isAuthorized "token" sub
  passed := {}
  before := .init
  events := [⟨.call (validateCall sub "token"), some ⟨HTTPStatus.ok, .json (.obj tokenReply)⟩⟩,
    ⟨.now, 200000000⟩]
  allowed := true
  info := { uInfo := tokenUser, contacted := true }
  after := AuthClient.init.update "token" tokenUser

/-- A subscriber handler then finds the token in the cache. -/
def checkedAgain : Served where
  request := .isAuthorized "token" true
  passed := {}
  before := AuthClient.init.update "token" tokenUser
  events := [⟨.now, 300000000⟩]
  allowed := true
  info := { uInfo := tokenUser }
  after := AuthClient.init.update "token" tokenUser

lemma checkedBy_run (sub : Bool) : Run Conversions.strict [checkedBy sub] (checkedBy sub).after := by
  apply Run.step (checkedBy sub) .init
  cases sub with
  | true => exact .ask _ (.ask _ (.ret _))
  | false => exact .ask _ (.ask _ (.ret _))

lemma checkedAgain_run (sub : Bool) :
    Run Conversions.strict [checkedAgain, checkedBy sub] checkedAgain.after :=
  .step checkedAgain (checkedBy_run sub) (.ask _ (.ret _))

/-- A token which a subscriber handler has checked is backed when another one finds it in the cache. -/
theorem isAuthorized_sub_backed_checkedAgain :
    Backed Conversions.strict true "token" [checkedBy true] checkedAgain := by
  refine isAuthorized_sub_backed (checkedAgain_run true) ?_ checkedAgain [checkedBy true] (List.suffix_refl _)
    "token" rfl rfl
  intro st history at_ token req hit
  rcases List.suffix_cons_iff.mp at_ with e | e
  · cases e
    cases req
    have stored : storedBy "token" [checkedBy true] = some true := by rfl
    rw [stored]
    exact nofun
  · rcases List.suffix_cons_iff.mp e with e | e
    · cases e
      exact absurd rfl hit
    · cases e.length_le

/-- A subscriber handler accepts a token which was never validated as a subscriber token. -/
theorem checkedAgain_not_backed :
    Run Conversions.strict [checkedAgain, checkedBy false] checkedAgain.after ∧
    checkedAgain.request = .isAuthorized "token" true ∧ checkedAgain.allowed = true ∧
    ¬ Backed Conversions.strict true "token" [checkedBy false] checkedAgain := by
  refine ⟨checkedAgain_run false, rfl, rfl, ?_⟩
  rintro ⟨⟨st, mem, r, t, ev, _⟩, _⟩
  rcases List.mem_cons.mp mem with rfl | mem
  · cases ev
  · cases List.mem_singleton.mp mem
    have e := congrArg (fun tr => (Portal.calls tr).map Call.endPoint) ev
    simp [checkedBy, validateCall, validateEndPoint] at e

end AuthClient

end UserPortal.Security

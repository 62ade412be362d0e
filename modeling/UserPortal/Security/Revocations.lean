import UserPortal.Interaction.Interleaving
import UserPortal.Security.AuthSteps

/-!
# Revocations of tokens

The steps of any number of calls of the authentication client interleave, on caches which any of them
reads and writes. A revocation is processed when the token has been removed from both caches; a call
which was answered before the revocation may still store the token afterwards.

`revocation_kept`: where no call does so, no later call accepts the token from a cache on the word of a
reply from before the revocation.
-/

namespace UserPortal.Security.AuthSteps
open Interaction Program

/-! ## The caches -/

/-- What an event leaves in the caches. An entry which is not found may have been dropped at any time, as
old or because the cache was full. -/
def next (self : AuthClient) : Event → AuthClient
  | ⟨.getToken token, none⟩ => self.remove token
  | ⟨.updateToken token u, _⟩ => self.update token u
  | ⟨.removeToken token, _⟩ => self.remove token
  | ⟨.getApiKey key, none⟩ => self.removeApiKey key
  | ⟨.updateApiKey key e, _⟩ => self.updateApiKey key e
  | ⟨.removeApiKey key, _⟩ => self.removeApiKey key
  | _ => self

/-- An entry which is found is the one which is stored. -/
def finds (self : AuthClient) : Event → Bool
  | ⟨.getToken token, some u⟩ => self.cache token = some u
  | ⟨.getApiKey key, some e⟩ => self.apiKeyCache key = some e
  | _ => true

/-- The caches take part in an event. -/
def caches (self : AuthClient) (e : Event) (self' : AuthClient) : Prop :=
  finds self e = true ∧ self' = next self e

/-- The caches of the client. -/
inductive Cache where
  | tokens
  | apiKeys
  deriving DecidableEq

namespace Cache

/-- A token has an entry. -/
def holds (self : AuthClient) (token : String) : Cache → Bool
  | tokens => (self.cache token).isSome
  | apiKeys => (self.apiKeyCache token).isSome

/-- An event finds the entry of a token. -/
def reads (token : String) : Cache → Event → Option Bool
  | tokens, ⟨.getToken token', some _⟩ => if token' = token then some true else none
  | apiKeys, ⟨.getApiKey token', some _⟩ => if token' = token then some true else none
  | _, _ => none

/-- An event stores the entry of a token, or leaves none. -/
def writes (token : String) : Cache → Event → Option Bool
  | tokens, ⟨.getToken token', none⟩ => if token' = token then some false else none
  | tokens, ⟨.updateToken token' _, _⟩ => if token' = token then some true else none
  | tokens, ⟨.removeToken token', _⟩ => if token' = token then some false else none
  | apiKeys, ⟨.getApiKey token', none⟩ => if token' = token then some false else none
  | apiKeys, ⟨.updateApiKey token' _, _⟩ => if token' = token then some true else none
  | apiKeys, ⟨.removeApiKey token', _⟩ => if token' = token then some false else none
  | _, _ => none

lemma holds_of_reads {cache : Cache} {token : String} {self self' : AuthClient} {e : Event} {v : Bool}
    (st : caches self e self') (h : cache.reads token e = some v) : v = cache.holds self token := by
  obtain ⟨found, _⟩ := st
  unfold reads at h
  split at h
  case h_1 =>
    split at h
    case isTrue eq =>
      cases h
      subst eq
      have stored := of_decide_eq_true found
      rw [holds, stored]
      rfl
    case isFalse => cases h
  case h_2 =>
    split at h
    case isTrue eq =>
      cases h
      subst eq
      have stored := of_decide_eq_true found
      rw [holds, stored]
      rfl
    case isFalse => cases h
  case h_3 => cases h

lemma writes_of_reads {cache : Cache} {token : String} {e : Event} {v : Bool}
    (h : cache.reads token e = some v) : cache.writes token e = none := by
  unfold reads at h
  split at h
  case h_1 => rfl
  case h_2 => rfl
  case h_3 => cases h

lemma isSome_update {α : Type} (cache : String → Option α) (token token' : String) (v : Option α) :
    (Function.update cache token' v token).isSome =
      (if token' = token then some v.isSome else none).getD (cache token).isSome := by
  rw [Function.update_apply]
  split
  case isTrue eq => rw [if_pos eq.symm, Option.getD_some]
  case isFalse ne => rw [if_neg (Ne.symm ne), Option.getD_none]

lemma holds_next (cache : Cache) (token : String) (self : AuthClient) (e : Event) :
    cache.holds (next self e) token = (cache.writes token e).getD (cache.holds self token) := by
  obtain ⟨op, x⟩ := e
  cases cache with
  | tokens =>
    cases op with
    | getToken token' =>
      cases x with
      | none => exact isSome_update self.cache token token' none
      | some u => rfl
    | updateToken token' u => exact isSome_update self.cache token token' (some u)
    | removeToken token' => exact isSome_update self.cache token token' none
    | getApiKey token' => cases x <;> rfl
    | _ => rfl
  | apiKeys =>
    cases op with
    | getApiKey token' =>
      cases x with
      | none => exact isSome_update self.apiKeyCache token token' none
      | some e => rfl
    | updateApiKey token' e => exact isSome_update self.apiKeyCache token token' (some e)
    | removeApiKey token' => exact isSome_update self.apiKeyCache token token' none
    | getToken token' => cases x <;> rfl
    | _ => rfl

/-- Whether a token has an entry, as a part of the caches. -/
def cell (cache : Cache) (token : String) : Cell caches Bool where
  value self := cache.holds self token
  reads := cache.reads token
  writes := cache.writes token
  read_value _ _ _ _ st h := holds_of_reads st h
  write_value _ _ _ st := by
    rw [st.2]
    exact holds_next ..
  read_quiet _ _ h := writes_of_reads h

/-- The removal of a token from a cache. -/
def removal (token : String) : Cache → Event
  | tokens => ⟨.removeToken token, ()⟩
  | apiKeys => ⟨.removeApiKey token, ()⟩

lemma writes_removal (cache : Cache) (token : String) :
    cache.writes token (cache.removal token) = some false := by
  cases cache with
  | tokens => exact if_pos rfl
  | apiKeys => exact if_pos rfl

end Cache

/-- The events of a revocation which has been processed. -/
def revocation (token : String) : List Event :=
  [⟨.revoke token, ()⟩, ⟨.removeToken token, ()⟩, ⟨.removeApiKey token, ()⟩]

/-- A revocation removes the token from each cache, after the service has revoked it. -/
lemma Cache.revocation_split (cache : Cache) (token : String) :
    ∃ a b, revocation token = a ++ cache.removal token :: b ∧
      (⟨.revoke token, ()⟩ : Event) ∉ cache.removal token :: b := by
  cases cache with
  | tokens => exact ⟨[_], [_], rfl, by simp [removal]⟩
  | apiKeys => exact ⟨[_, _], [], rfl, by simp [removal]⟩

/-! ## Runs -/

section Runs

variable (conv : Conversions) {ι : Type} [DecidableEq ι]

/-- An interleaving of calls from the empty caches; some calls may not have returned yet. -/
structure CallRun (requests : ι → Request × AuthInfo) where
  sched : Schedule ι Op Op.Answer
  rest : ι → Steps (Bool × AuthInfo)
  finish : AuthClient
  interleaving : Interleaving caches (fun i => serve conv (requests i).1 (requests i).2) .init sched rest
    finish

variable {conv} {requests : ι → Request × AuthInfo}

/-- A call accepts a token from a cache, after a revocation of it has been processed, and the entry was
stored by a call which the security service had answered before the revocation. -/
structure AcceptsRevoked (run : CallRun conv requests) (token : String) (k : ι) : Prop where
  /-- the call accepts, without asking the service -/
  accepts : ∃ info, run.rest k = .ret (true, info)
  fromCache : ∀ c answer, (⟨.portal (.call c), answer⟩ : Event) ∉ Schedule.events k run.sched
  stale : ∃ cache pre hit post i j c answer, run.sched = pre ++ (k, hit) :: post ∧
    Cache.reads token cache hit = some true ∧ Schedule.events i pre = revocation token ∧
    lastWriter (Cache.writes token cache) pre = some j ∧
    [(j, ⟨.portal (.call c), answer⟩), (i, ⟨.revoke token, ()⟩)].Sublist pre

/-- No call which the security service has answered before a revocation stores the token after its
removal. -/
def Timely (run : CallRun conv requests) : Prop :=
  ∀ cache token i j c answer w, Cache.writes token cache w = some true →
    ¬ [(j, ⟨.portal (.call c), answer⟩), (i, ⟨.revoke token, ()⟩), (i, cache.removal token),
      (j, w)].Sublist run.sched

/-- Where an entry is found after its removal, it has been stored since. -/
lemma CallRun.stored_since (run : CallRun conv requests) {cache : Cache} {token : String} {k i j : ι}
    {hit : Event} {p q post : Schedule ι Op Op.Answer}
    (split : run.sched = (p ++ (i, cache.removal token) :: q) ++ (k, hit) :: post)
    (found : cache.reads token hit = some true)
    (last : lastWriter (cache.writes token) (p ++ (i, cache.removal token) :: q) = some j) :
    ∃ w, (j, w) ∈ q ∧ cache.writes token w = some true := by
  have accepts := run.interleaving.accepts
  rw [split, List.map_append, List.map_cons] at accepts
  obtain ⟨s1, before, after⟩ := accepts_append.mp accepts
  obtain ⟨s2, st, _⟩ := accepts_cons.mp after
  have held : true = (cache.cell token).value s1 := (cache.cell token).read_value s1 hit s2 true st found
  -- the last event which has written the entry has stored it
  have written : (((p ++ (i, cache.removal token) :: q).map Prod.snd).filterMap
      (cache.writes token)).getLast? =
      some (((q.map Prod.snd).filterMap (cache.writes token)).getLast?.getD false) := by
    rw [List.map_append, List.map_cons, List.filterMap_append,
      List.filterMap_cons_some (cache.writes_removal token), List.getLast?_append, List.getLast?_cons]
    rfl
  have value := (cache.cell token).value_eq_last before written
  rw [← held] at value
  cases stored : ((q.map Prod.snd).filterMap (cache.writes token)).getLast? with
  | none =>
    rw [stored] at value
    cases value
  | some v =>
    rw [stored] at value
    obtain rfl : true = v := value
    obtain ⟨e, mem, written⟩ := List.mem_filterMap.mp (List.mem_of_getLast? stored)
    obtain ⟨⟨l, e⟩, memQ, rfl⟩ := List.mem_map.mp mem
    have split' : p ++ (i, cache.removal token) :: q = (p ++ [(i, cache.removal token)]) ++ q := by
      rw [List.append_assoc, List.singleton_append]
    rw [split', lastWriter_append memQ (Option.isSome_of_eq_some written)] at last
    rw [← lastWriter_events last] at stored
    obtain ⟨w, mem, written⟩ := List.mem_filterMap.mp (List.mem_of_getLast? stored)
    exact ⟨w, mem_events.mp mem, written⟩

/-- Where no call stores a token after a removal which it knows nothing of, no later call accepts the
token on the word of a reply from before its revocation. -/
theorem revocation_kept (run : CallRun conv requests) (timely : Timely run) (token : String) (k : ι) :
    ¬ AcceptsRevoked run token k := by
  rintro ⟨_, _, cache, pre, hit, post, i, j, c, answer, split, found, processed, last, before⟩
  obtain ⟨a, b, eq, once⟩ := cache.revocation_split token
  rw [eq] at processed
  obtain ⟨p, q, rfl, _, rfl⟩ := events_split processed
  obtain ⟨w, mem, written⟩ := run.stored_since split found last
  -- the service has answered and revoked before the removal
  have earlier : [(j, ⟨.portal (.call c), answer⟩), (i, ⟨.revoke token, ()⟩)].Sublist p := by
    refine sublist_left_of_not_mem (l := [_]) before fun mem => ?_
    apply once
    rw [← events_cons_self i]
    exact mem_events.mpr mem
  refine timely cache token i j c answer w written ?_
  rw [split, List.append_assoc]
  refine List.Sublist.append earlier ?_
  rw [List.cons_append]
  refine List.Sublist.cons_cons _ ?_
  exact List.Sublist.trans (List.singleton_sublist.mpr mem) (List.sublist_append_left q _)

end Runs

/-! ### A token which is revoked while it is validated -/

namespace RevokedToken
open AuthClient

/-- One call validates the token, one removes it, and one uses it. -/
inductive Party where
  | validates
  | revokes
  | uses
  deriving DecidableEq

def requests : Party → Request × AuthInfo
  | .validates => (.isAuthorized "token" true, {})
  | .revokes => (.removedCachedToken "token", {})
  | .uses => (.isAuthorized "token" true, {})

def results (found : Bool) : Party → Bool × AuthInfo
  | .validates => (true, { uInfo := tokenUser, contacted := true })
  | .revokes => (true, {})
  | .uses => if found then (true, { uInfo := tokenUser }) else (false, { contacted := true })

/-- The service has answered. -/
def answered : Schedule Party Op Op.Answer :=
  [(.validates, ⟨.getToken "token", none⟩),
    (.validates, ⟨.portal (.call (validateCall true "token")),
      some ⟨HTTPStatus.ok, .json (.obj tokenReply)⟩⟩)]

/-- The token is stored. -/
def cached : Schedule Party Op Op.Answer :=
  [(.validates, ⟨.portal .now, (200000000 : Int)⟩), (.validates, ⟨.updateToken "token" tokenUser, ()⟩)]

def revoked : Schedule Party Op Op.Answer := (revocation "token").map (.revokes, ·)

/-- The removal comes after the update of the cache, so that the service is asked again. -/
def inTime : Schedule Party Op Op.Answer :=
  answered ++ cached ++ revoked ++ [(.uses, ⟨.getToken "token", none⟩),
    (.uses, ⟨.portal (.call (validateCall true "token")), some ⟨HTTPStatus.forbidden, .text ""⟩⟩)]

/-- The removal comes between the answer and the update. -/
def tooLate : Schedule Party Op Op.Answer :=
  answered ++ revoked ++ cached ++ [(.uses, ⟨.getToken "token", some tokenUser⟩),
    (.uses, ⟨.portal .now, (300000000 : Int)⟩)]

/-- A schedule which the caches take part in is a run, when its events are those of the calls. -/
def runOf (sched : Schedule Party Op Op.Answer) (found : Bool)
    (accepted : answers finds next .init (sched.map Prod.snd) = true)
    (returns : ∀ i, replay (serve Conversions.strict (requests i).1 (requests i).2)
      (Schedule.events i sched) = some (results found i)) :
    CallRun Conversions.strict requests where
  sched := sched
  rest i := .ret (results found i)
  finish := (sched.map Prod.snd).foldl next .init
  interleaving :=
    .of_traces (.of_answers (fun _ _ ok => ⟨ok, rfl⟩) accepted) fun i => trace_iff_replay.mpr (returns i)

def inTimeRun := runOf inTime false (by decide +kernel) (by intro i; cases i <;> decide +kernel)

def tooLateRun := runOf tooLate true (by decide +kernel) (by intro i; cases i <;> decide +kernel)

/-- A revocation is marked by 1, the update of a cache by 2. -/
def mark : Party × Event → Nat
  | (_, ⟨.revoke _, _⟩) => 1
  | (_, ⟨.updateToken .., _⟩) => 2
  | (_, ⟨.updateApiKey .., _⟩) => 2
  | _ => 0

lemma mark_of_stores {cache : Cache} {token : String} {w : Event} (j : Party)
    (stores : cache.writes token w = some true) : mark (j, w) = 2 := by
  unfold Cache.writes at stores
  split at stores
  case h_2 => rfl
  case h_5 => rfl
  case h_7 => cases stores
  all_goals
    split at stores
    · cases stores
    · cases stores

/-- Nothing is stored after the revocation. -/
lemma inTimeRun_timely : Timely inTimeRun := by
  intro cache token i j c answer w stores sub
  have marks := sub.map mark
  simp only [List.map_cons, List.map_nil] at marks
  rw [mark_of_stores j stores] at marks
  have later : [1, 2].Sublist (inTimeRun.sched.map mark) :=
    List.Sublist.trans (.cons _ (.cons_cons _ (.cons _ (.refl _)))) marks
  revert later
  decide

/-- Where the removal comes after the update, the token is not accepted any more. -/
theorem revocation_kept_inTime : ¬ AcceptsRevoked inTimeRun "token" .uses :=
  revocation_kept inTimeRun inTimeRun_timely "token" .uses

/-- Where the removal comes before the update, the revoked token is accepted from the cache. -/
theorem tooLate_acceptsRevoked :
    ¬ ∀ (run : CallRun Conversions.strict requests) (token : String) (k : Party),
      ¬ AcceptsRevoked run token k := by
  intro kept
  have before : [((.validates, ⟨.portal (.call (validateCall true "token")),
      some ⟨HTTPStatus.ok, .json (.obj tokenReply)⟩⟩) : Party × Event),
      (.revokes, ⟨.revoke "token", ()⟩)].Sublist (answered ++ revoked ++ cached) :=
    .cons _ (.cons_cons _ (.cons_cons _ (List.nil_sublist _)))
  refine kept tooLateRun "token" .uses ⟨⟨_, rfl⟩, ?_, ?_⟩
  · intro c answer mem
    have events : Schedule.events .uses tooLateRun.sched =
        [⟨.getToken "token", some tokenUser⟩, ⟨.portal .now, (300000000 : Int)⟩] := rfl
    rw [events] at mem
    simp at mem
  · exact ⟨.tokens, answered ++ revoked ++ cached, ⟨.getToken "token", some tokenUser⟩,
      [(.uses, ⟨.portal .now, (300000000 : Int)⟩)], .revokes, .validates, _, _, rfl, rfl, rfl, rfl,
      before⟩

end RevokedToken

end UserPortal.Security.AuthSteps

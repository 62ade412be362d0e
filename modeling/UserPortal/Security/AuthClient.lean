import Mathlib.Algebra.Group.Nat.Defs
import Mathlib.Logic.Function.Basic
import UserPortal.Framework.MicroServiceNames
import UserPortal.Framework.OpenAPIRequests
import UserPortal.Security.Objects

/-!
# The authentication client

Port of `src/framework/AuthClient.cpp`. The two `Poco::ExpireLRUCache`s are maps which the client
reads, updates and removes from; that an entry may also be dropped at any time, because it is old or
because the cache is full, is a step of its own in the runs of the client.

The reference parameters `UInfo`, `Expired` and `Contacted` are a record `AuthInfo` which a call
takes and returns. `Suspended` is never touched.
-/

namespace UserPortal.Security
open Interaction

structure ApiKeyCacheEntry where
  userInfo : UserInfoAndPolicy
  expiresOn : Nat
  deriving DecidableEq

/-- The state of `AuthClient`: `Cache_` and `ApiKeyCache_`. -/
structure AuthClient where
  cache : String → Option UserInfoAndPolicy
  apiKeyCache : String → Option ApiKeyCacheEntry

/-- What the callers of `AuthClient` pass by reference. -/
structure AuthInfo where
  uInfo : UserInfoAndPolicy := {}
  expired : Bool := false
  contacted : Bool := false
  deriving DecidableEq

namespace AuthClient

/-- The client before its first call. -/
def init : AuthClient where
  cache _ := none
  apiKeyCache _ := none

def update (self : AuthClient) (token : String) (u : UserInfoAndPolicy) : AuthClient :=
  { self with cache := Function.update self.cache token (some u) }

def remove (self : AuthClient) (token : String) : AuthClient :=
  { self with cache := Function.update self.cache token none }

def updateApiKey (self : AuthClient) (key : String) (e : ApiKeyCacheEntry) : AuthClient :=
  { self with apiKeyCache := Function.update self.apiKeyCache key (some e) }

def removeApiKey (self : AuthClient) (key : String) : AuthClient :=
  { self with apiKeyCache := Function.update self.apiKeyCache key none }

/-- Caching a token leaves the keys. -/
@[simp] lemma update_apiKeyCache (self : AuthClient) (token : String) (u : UserInfoAndPolicy) :
    (self.update token u).apiKeyCache = self.apiKeyCache := rfl

/-- So does forgetting one. -/
@[simp] lemma remove_apiKeyCache (self : AuthClient) (token : String) :
    (self.remove token).apiKeyCache = self.apiKeyCache := rfl

/-- Caching a key leaves the tokens. -/
@[simp] lemma updateApiKey_cache (self : AuthClient) (key : String) (e : ApiKeyCacheEntry) :
    (self.updateApiKey key e).cache = self.cache := rfl

/-- So does forgetting one. -/
@[simp] lemma removeApiKey_cache (self : AuthClient) (key : String) :
    (self.removeApiKey key).cache = self.cache := rfl

/-- A cached token is found. -/
@[simp] lemma update_cache_self (self : AuthClient) (token : String) (u : UserInfoAndPolicy) :
    (self.update token u).cache token = some u := Function.update_self ..

/-- A token which was taken out is not. -/
@[simp] lemma remove_cache_self (self : AuthClient) (token : String) :
    (self.remove token).cache token = none := Function.update_self ..

/-- Nor is a key. -/
@[simp] lemma removeApiKey_apiKeyCache_self (self : AuthClient) (key : String) :
    (self.removeApiKey key).apiKeyCache key = none := Function.update_self ..

/-- What is found after caching a token. -/
lemma update_cache_eq_some {self : AuthClient} {token token' : String} {u v : UserInfoAndPolicy} :
    (self.update token u).cache token' = some v ↔
      token = token' ∧ u = v ∨ token ≠ token' ∧ self.cache token' = some v := by
  simp only [update, Function.update_apply]
  split
  case isTrue e => simp [e]
  case isFalse ne => simp [Ne.symm ne]

/-- What is found after forgetting one. -/
lemma remove_cache_eq_some {self : AuthClient} {token token' : String} {v : UserInfoAndPolicy} :
    (self.remove token).cache token' = some v ↔ token ≠ token' ∧ self.cache token' = some v := by
  simp only [remove, Function.update_apply]
  split
  case isTrue e => simp [e]
  case isFalse ne => simp [Ne.symm ne]

/-- `RemovedCachedToken` -/
def removedCachedToken (self : AuthClient) (token : String) : AuthClient :=
  (self.remove token).removeApiKey token

/-- `IsTokenExpired` -/
def isTokenExpired (t : WebToken) (now : Nat) : Bool :=
  (t.expiresIn + t.created) % 2 ^ 64 < now

/-- The endpoint which validates a token. -/
def validateEndPoint (sub : Bool) : String :=
  if sub then "/api/v1/validateSubToken" else "/api/v1/validateToken"

variable (conv : Conversions)

/-- `RetrieveTokenInformation` -/
def retrieveTokenInformation (self : AuthClient) (sessionToken : String) (info : AuthInfo)
    (sub : Bool) : Portal (Bool × AuthInfo × AuthClient) := do
  let (statusCode, response) ← OpenAPIRequest.get uSERVICE_SECURITY (validateEndPoint sub)
    [("token", sessionToken)] 10000 "" none
  if statusCode = HTTPStatus.gatewayTimeout then
    return (false, { info with contacted := false }, self)
  if statusCode = HTTPStatus.ok then
    match response with
    -- `Response->has` throws on a null pointer
    | none => return (false, { info with expired := false, contacted := true }, self)
    | some r =>
      if r.has "tokenInfo" && r.has "userInfo" then
        -- a user which does not parse is not an error here
        let uInfo := info.uInfo.fromJson conv r
        let t ← Portal.clock
        if isTokenExpired uInfo.webtoken (Utils.now t) then
          return (false, { uInfo, expired := true, contacted := true }, self)
        return (true, { uInfo, expired := false, contacted := true }, self.update sessionToken uInfo)
      else
        return (false, { info with contacted := true }, self)
  return (false, { info with expired := false, contacted := true }, self)

/-- `IsAuthorized` -/
def isAuthorized (self : AuthClient) (sessionToken : String) (info : AuthInfo) (sub : Bool) :
    Portal (Bool × AuthInfo × AuthClient) :=
  match self.cache sessionToken with
  | some user => do
    let t ← Portal.clock
    if isTokenExpired user.webtoken (Utils.now t) then
      return (false, { info with expired := true }, self.remove sessionToken)
    return (true, { info with expired := false, uInfo := user }, self)
  | none => retrieveTokenInformation conv self sessionToken info sub

/-- `RetrieveApiKeyInformation` -/
def retrieveApiKeyInformation (self : AuthClient) (sessionToken : String) (info : AuthInfo) :
    Portal (Bool × AuthInfo × AuthClient) := do
  let (statusCode, response) ← OpenAPIRequest.get uSERVICE_SECURITY "/api/v1/validateApiKey"
    [("apikey", sessionToken)] 10000 "" none
  if statusCode = HTTPStatus.gatewayTimeout then
    return (false, { info with contacted := false }, self)
  if statusCode = HTTPStatus.ok then
    match response with
    | none => return (false, { info with expired := false, contacted := true }, self)
    | some r =>
      if r.has "tokenInfo" && r.has "userInfo" && r.has "expiresOn" then
        let info := { uInfo := info.uInfo.fromJson conv r, expired := false, contacted := true }
        match (r.get? "expiresOn").bind conv.toUInt64 with
        | some expiresOn =>
          return (true, info, self.updateApiKey sessionToken { userInfo := info.uInfo, expiresOn })
        | none => return (false, info, self)
      else
        return (false, { info with contacted := true }, self)
  return (false, { info with expired := false, contacted := true }, self)

/-- `IsValidApiKey` -/
def isValidApiKey (self : AuthClient) (sessionToken : String) (info : AuthInfo) :
    Portal (Bool × AuthInfo × AuthClient) :=
  match self.apiKeyCache sessionToken with
  | some user => do
    let t ← Portal.clock
    if user.expiresOn < Utils.now t then
      return (true, { info with expired := false, uInfo := user.userInfo }, self)
    retrieveApiKeyInformation conv (self.removeApiKey sessionToken) sessionToken info
  | none => retrieveApiKeyInformation conv self sessionToken info

end AuthClient

end UserPortal.Security

import UserPortal.Security.AuthRuns

/-!
# The steps of the authentication client

`IsAuthorized`, `IsValidApiKey` and `RemovedCachedToken` of `src/framework/AuthClient.cpp` and
`src/framework/AuthClient.h`, one access to a cache at a time: each cache has a lock of its own, and
nothing is locked between the reply of the security service and the update of the cache.

`atomically_serve`: where no other call comes in between, the steps of a call are the call of
`Security/AuthRuns.lean`.
-/

namespace UserPortal.Security.AuthSteps
open Interaction Program

/-- What a call does: it accesses a cache, or asks its environment. `revoke` is the moment at which the
security service revokes a token. -/
inductive Op where
  | getToken (token : String)
  | updateToken (token : String) (u : UserInfoAndPolicy)
  | removeToken (token : String)
  | getApiKey (key : String)
  | updateApiKey (key : String) (e : ApiKeyCacheEntry)
  | removeApiKey (key : String)
  | portal (op : Portal.Op)
  | revoke (token : String)
  deriving DecidableEq

abbrev Op.Answer : Op → Type
  | .getToken _ => Option UserInfoAndPolicy
  | .getApiKey _ => Option ApiKeyCacheEntry
  | .portal op => op.Answer
  | .updateToken .. | .removeToken _ | .updateApiKey .. | .removeApiKey _ | .revoke _ => Unit

abbrev Event := Interaction.Event Op Op.Answer

abbrev Steps := Program Op Op.Answer

abbrev ask (op : Op) : Steps op.Answer := perform op

/-- What the portal asks its environment, as steps. -/
def ofPortal {α : Type} : Portal α → Steps α
  | .ret a => .ret a
  | .ask op k => .ask (.portal op) fun x => ofPortal (k x)

variable (conv : Conversions)

/-- `RetrieveTokenInformation` -/
def retrieveTokenInformation (sessionToken : String) (info : AuthInfo) (sub : Bool) :
    Steps (Bool × AuthInfo) := do
  let (statusCode, response) ← ofPortal (OpenAPIRequest.get uSERVICE_SECURITY
    (AuthClient.validateEndPoint sub) [("token", sessionToken)] 10000 "" none)
  if statusCode = HTTPStatus.gatewayTimeout then
    return (false, { info with contacted := false })
  if statusCode = HTTPStatus.ok then
    match response with
    | none => return (false, { info with expired := false, contacted := true })
    | some r =>
      if r.has "tokenInfo" && r.has "userInfo" then
        let uInfo := info.uInfo.fromJson conv r
        let t ← ofPortal Portal.clock
        if AuthClient.isTokenExpired uInfo.webtoken (Utils.now t) then
          return (false, { uInfo, expired := true, contacted := true })
        ask (.updateToken sessionToken uInfo)
        return (true, { uInfo, expired := false, contacted := true })
      else
        return (false, { info with contacted := true })
  return (false, { info with expired := false, contacted := true })

/-- `IsAuthorized` -/
def isAuthorized (sessionToken : String) (info : AuthInfo) (sub : Bool) : Steps (Bool × AuthInfo) := do
  match ← ask (.getToken sessionToken) with
  | some user =>
    let t ← ofPortal Portal.clock
    if AuthClient.isTokenExpired user.webtoken (Utils.now t) then
      ask (.removeToken sessionToken)
      return (false, { info with expired := true })
    return (true, { info with expired := false, uInfo := user })
  | none => retrieveTokenInformation conv sessionToken info sub

/-- `RetrieveApiKeyInformation` -/
def retrieveApiKeyInformation (sessionToken : String) (info : AuthInfo) : Steps (Bool × AuthInfo) := do
  let (statusCode, response) ← ofPortal (OpenAPIRequest.get uSERVICE_SECURITY "/api/v1/validateApiKey"
    [("apikey", sessionToken)] 10000 "" none)
  if statusCode = HTTPStatus.gatewayTimeout then
    return (false, { info with contacted := false })
  if statusCode = HTTPStatus.ok then
    match response with
    | none => return (false, { info with expired := false, contacted := true })
    | some r =>
      if r.has "tokenInfo" && r.has "userInfo" && r.has "expiresOn" then
        let info := { uInfo := info.uInfo.fromJson conv r, expired := false, contacted := true }
        match (r.get? "expiresOn").bind conv.toUInt64 with
        | some expiresOn =>
          ask (.updateApiKey sessionToken { userInfo := info.uInfo, expiresOn })
          return (true, info)
        | none => return (false, info)
      else
        return (false, { info with contacted := true })
  return (false, { info with expired := false, contacted := true })

/-- `IsValidApiKey` -/
def isValidApiKey (sessionToken : String) (info : AuthInfo) : Steps (Bool × AuthInfo) := do
  match ← ask (.getApiKey sessionToken) with
  | some user =>
    let t ← ofPortal Portal.clock
    if user.expiresOn < Utils.now t then
      return (true, { info with expired := false, uInfo := user.userInfo })
    ask (.removeApiKey sessionToken)
    retrieveApiKeyInformation conv sessionToken info
  | none => retrieveApiKeyInformation conv sessionToken info

/-- `RemovedCachedToken`, which the message on the bus calls after the service has revoked the token. -/
def removedCachedToken (token : String) : Steps Unit := do
  ask (.revoke token)
  ask (.removeToken token)
  ask (.removeApiKey token)

/-- What a call does. -/
def serve : Request → AuthInfo → Steps (Bool × AuthInfo)
  | .isAuthorized sessionToken sub, info => isAuthorized conv sessionToken info sub
  | .isValidApiKey sessionToken, info => isValidApiKey conv sessionToken info
  | .removedCachedToken token, info => do
    removedCachedToken token
    return (true, info)

/-! ## A call which is alone -/

/-- The steps of a call on caches which nothing else accesses. -/
def atomically {α : Type} : Steps α → AuthClient → Portal (α × AuthClient)
  | .ret a, self => .ret (a, self)
  | .ask (.getToken token) k, self => atomically (k (self.cache token)) self
  | .ask (.updateToken token u) k, self => atomically (k ()) (self.update token u)
  | .ask (.removeToken token) k, self => atomically (k ()) (self.remove token)
  | .ask (.getApiKey key) k, self => atomically (k (self.apiKeyCache key)) self
  | .ask (.updateApiKey key e) k, self => atomically (k ()) (self.updateApiKey key e)
  | .ask (.removeApiKey key) k, self => atomically (k ()) (self.removeApiKey key)
  | .ask (.portal op) k, self => .ask op fun x => atomically (k x) self
  | .ask (.revoke _) k, self => atomically (k ()) self

variable {α β : Type} {conv : Conversions}

lemma atomically_ofPortal_bind (p : Portal α) (f : α → Steps β) (self : AuthClient) :
    atomically (ofPortal p >>= f) self = p >>= fun a => atomically (f a) self := by
  induction p with
  | ret a => rfl
  | ask op k ih =>
    have step : ofPortal (.ask op k) >>= f = Program.ask (.portal op) fun x => ofPortal (k x) >>= f := rfl
    rw [step, atomically, ask_bind]
    congr 1
    funext x
    exact ih x

/-- What a call returns, with the caches which it leaves. -/
def report (r : Bool × AuthInfo × AuthClient) : Portal ((Bool × AuthInfo) × AuthClient) :=
  return ((r.1, r.2.1), r.2.2)

lemma atomically_retrieveTokenInformation (self : AuthClient) (token : String) (info : AuthInfo)
    (sub : Bool) :
    atomically (retrieveTokenInformation conv token info sub) self =
      AuthClient.retrieveTokenInformation conv self token info sub >>= report := by
  rw [retrieveTokenInformation, AuthClient.retrieveTokenInformation]
  rw [atomically_ofPortal_bind, bind_assoc]
  congr 1
  funext ⟨statusCode, response⟩
  dsimp only
  by_cases timeout : statusCode = HTTPStatus.gatewayTimeout
  · rw [if_pos timeout, if_pos timeout]
    rfl
  · rw [if_neg timeout, if_neg timeout]
    by_cases ok : statusCode = HTTPStatus.ok
    · rw [if_pos ok, if_pos ok]
      cases response with
      | none => rfl
      | some r =>
        dsimp only
        by_cases has : (r.has "tokenInfo" && r.has "userInfo") = true
        · rw [if_pos has, if_pos has]
          rw [atomically_ofPortal_bind, bind_assoc]
          congr 1
          funext t
          by_cases old : AuthClient.isTokenExpired (info.uInfo.fromJson conv r).webtoken (Utils.now t) = true
          · rw [if_pos old, if_pos old]
            rfl
          · rw [if_neg old, if_neg old]
            rfl
        · rw [if_neg has, if_neg has]
          rfl
    · rw [if_neg ok, if_neg ok]
      rfl

lemma atomically_retrieveApiKeyInformation (self : AuthClient) (key : String) (info : AuthInfo) :
    atomically (retrieveApiKeyInformation conv key info) self =
      AuthClient.retrieveApiKeyInformation conv self key info >>= report := by
  rw [retrieveApiKeyInformation, AuthClient.retrieveApiKeyInformation]
  rw [atomically_ofPortal_bind, bind_assoc]
  congr 1
  funext ⟨statusCode, response⟩
  dsimp only
  by_cases timeout : statusCode = HTTPStatus.gatewayTimeout
  · rw [if_pos timeout, if_pos timeout]
    rfl
  · rw [if_neg timeout, if_neg timeout]
    by_cases ok : statusCode = HTTPStatus.ok
    · rw [if_pos ok, if_pos ok]
      cases response with
      | none => rfl
      | some r =>
        dsimp only
        by_cases has : (r.has "tokenInfo" && r.has "userInfo" && r.has "expiresOn") = true
        · rw [if_pos has, if_pos has]
          cases (r.get? "expiresOn").bind conv.toUInt64 with
          | none => rfl
          | some expiresOn => rfl
        · rw [if_neg has, if_neg has]
          rfl
    · rw [if_neg ok, if_neg ok]
      rfl

/-- The steps of a call which is alone are the call. -/
lemma atomically_serve (self : AuthClient) (request : Request) (info : AuthInfo) :
    atomically (serve conv request info) self = AuthClient.serve conv self request info >>= report := by
  cases request with
  | isAuthorized token sub =>
    rw [serve, AuthClient.serve, isAuthorized, AuthClient.isAuthorized, perform_bind, atomically]
    cases self.cache token with
    | none => exact atomically_retrieveTokenInformation self token info sub
    | some user =>
      dsimp only
      rw [atomically_ofPortal_bind, bind_assoc]
      congr 1
      funext t
      by_cases old : AuthClient.isTokenExpired user.webtoken (Utils.now t) = true
      · rw [if_pos old, if_pos old]
        rfl
      · rw [if_neg old, if_neg old]
        rfl
  | isValidApiKey key =>
    rw [serve, AuthClient.serve, isValidApiKey, AuthClient.isValidApiKey, perform_bind, atomically]
    cases self.apiKeyCache key with
    | none => exact atomically_retrieveApiKeyInformation self key info
    | some user =>
      dsimp only
      rw [atomically_ofPortal_bind, bind_assoc]
      congr 1
      funext t
      by_cases old : user.expiresOn < Utils.now t
      · rw [if_pos old, if_pos old]
        rfl
      · rw [if_neg old, if_neg old, perform_bind, atomically]
        exact atomically_retrieveApiKeyInformation (self.removeApiKey key) key info
  | removedCachedToken token => rfl

end UserPortal.Security.AuthSteps

import UserPortal.Framework.OpenAPIRequests

/-!
# The request verbs

Port of the five `Do` functions of `src/framework/OpenAPIRequests.cpp` with their loops over the
registered instances of a service. `OpenAPIRequest.lenient`, `OpenAPIRequest.strict` and
`OpenAPIRequest.lenientArray` are what they return (`doGet_inv`, `doPut_inv`, `doPost_inv`,
`doDelete_inv`, `doGetArray_inv`).

`doRequest_agrees_iff`: a verb passes on what was received exactly when it does not have to parse the
body, or can, and the reply is not a gateway timeout itself.

The branches for `http` and for `https` are the same, and so are the branches on the status in `Put` and
`Post`.
-/

namespace UserPortal.RequestVerbs
open Interaction Program

/-- `Types::MicroServiceMeta`, up to the fields which are used. -/
structure MicroServiceMeta where
  privateEndPoint : String
  accessKey : String
  deriving DecidableEq

/-- A request to one instance of a service. -/
structure Exchange where
  svc : MicroServiceMeta
  call : Call
  deriving DecidableEq

/-- An exchange is answered with a reply, or throws. -/
abbrev Exchange.Answer (_ : Exchange) : Type := Option Reply

/-- What a `Do` asks the network. -/
abbrev Exchanges := Program Exchange Exchange.Answer

/-- `Poco::Exception` -/
inductive PocoException where
  | thrown
  deriving DecidableEq

/-- A part of a `Do` inside its `try` block. -/
abbrev Tried := ExceptT PocoException Exchanges

/-- `sendRequest` and `receiveResponse` -/
def exchange (call : Call) (svc : MicroServiceMeta) : Tried Reply := do
  match ← (liftM (perform ⟨svc, call⟩ : Exchanges (Option Reply)) : Tried (Option Reply)) with
  | some r => return r
  | none => throw .thrown

/-- `P.parse(is).extract<Poco::JSON::Object::Ptr>()` -/
def extract (body : Body) : Tried Json.Object :=
  match body.parse with
  | some o => return o
  | none => throw .thrown

/-- The loop over the instances, where an iteration may return from the function. -/
def forServices {α : Type} (iteration : MicroServiceMeta → Tried (Option α)) :
    List MicroServiceMeta → Tried (Option α)
  | [] => return none
  | svc :: services => do
    match ← iteration svc with
    | some a => return some a
    | none => forServices iteration services

/-- A `Do` around its iteration: after the loop, and after an exception in it, comes the gateway
timeout. -/
def doServices {α : Type} (iteration : MicroServiceMeta → Tried (Option α)) (timeout : α)
    (services : List MicroServiceMeta) : Exchanges α := do
  match ← (forServices iteration services).run with
  | .ok (some a) => return a
  | .ok none => return timeout
  | .error _ => return timeout

section Verbs

variable (services : List MicroServiceMeta) (call : Call) (previous : Option Json.Object)

/-- `OpenAPIRequestGet::Do` -/
def doGet : Exchanges (HTTPStatus × Option Json.Object) :=
  doServices (fun svc => do
      let r ← exchange call svc
      -- the parsing has its own `try`, which catches everything
      return some (r.status, r.body.parse.or previous))
    (HTTPStatus.gatewayTimeout, previous) services

/-- `OpenAPIRequestPut::Do` -/
def doPut : Exchanges (HTTPStatus × Option Json.Object) :=
  doServices (fun svc => do
      let r ← exchange call svc
      let o ← extract r.body
      return some (r.status, some o))
    (HTTPStatus.gatewayTimeout, previous) services

/-- `OpenAPIRequestPost::Do` -/
def doPost : Exchanges (HTTPStatus × Option Json.Object) :=
  doServices (fun svc => do
      let r ← exchange call svc
      let o ← extract r.body
      return some (r.status, some o))
    (HTTPStatus.gatewayTimeout, previous) services

/-- `OpenAPIRequestDelete::Do`, which also returns the raw body, if one was read. -/
def doDelete : Exchanges (HTTPStatus × Option Json.Object × Option Body) :=
  doServices (fun svc => do
      let r ← exchange call svc
      return some (r.status, r.body.parse.or previous, some r.body))
    (HTTPStatus.gatewayTimeout, previous, none) services

/-- The other `OpenAPIRequestGet::Do`, for a body which may be an array. -/
def doGetArray (previousArray : Option (List Json)) :
    Exchanges (HTTPStatus × Option (List Json) × Option Json.Object) :=
  doServices (fun svc => do
      let r ← exchange call svc
      match r.body with
      | .json (.arr elements) => return some (r.status, some elements, previous)
      | body => return some (r.status, previousArray, body.parse.or previous))
    (HTTPStatus.gatewayTimeout, previousArray, previous) services

/-- The `Do` of a verb: the status and the response object. -/
def doRequest : Verb → Exchanges (HTTPStatus × Option Json.Object)
  | .get => doGet services call previous
  | .put => doPut services call previous
  | .post => doPost services call previous
  | .delete => do
    let r ← doDelete services call previous
    return (r.1, r.2.1)

end Verbs

/-! ## What is received -/

/-- What the instances have answered: at most one of them is asked. -/
def answered : List (Event Exchange Exchange.Answer) → Option Reply
  | [] => none
  | e :: _ => e.2

/-- An iteration which returns a value, or throws. -/
def returning {α : Type} : Option α → Tried (Option α)
  | some a => return some a
  | none => throw .thrown

section Trace

variable {services : List MicroServiceMeta} {call : Call} {previous : Option Json.Object}
  {tr : List (Event Exchange Exchange.Answer)}

/-- A `Do` whose iteration returns or throws asks the first instance, and returns what the iteration makes
of its reply. -/
lemma doServices_inv {α : Type} {f : Reply → Tried (Option α)} {g : Reply → Option α} {timeout a : α}
    (once : ∀ r, f r = returning (g r))
    (h : Trace (doServices (fun svc => exchange call svc >>= f) timeout services) tr a) :
    tr.length ≤ 1 ∧ a = ((answered tr).bind g).getD timeout := by
  cases services with
  | nil =>
    obtain ⟨rfl, rfl⟩ := trace_pure.mp h
    exact ⟨Nat.zero_le 1, rfl⟩
  | cons svc services =>
    obtain ⟨x, rest, rfl, h1⟩ := trace_ask.mp h
    cases x with
    | none =>
      obtain ⟨rfl, rfl⟩ := trace_pure.mp h1
      exact ⟨Nat.le_refl 1, rfl⟩
    | some r =>
      have result : rest = [] ∧ a = (g r).getD timeout := by
        have h2 : Trace (do
            match ← ((f r >>= fun
              | some b => return some b
              | none => forServices (fun svc => exchange call svc >>= f) services :
                Tried (Option α))).run with
            | .ok (some b) => return b
            | .ok none => return timeout
            | .error _ => return timeout) rest a := h1
        rw [once r] at h2
        cases eq : g r with
        | some b =>
          rw [eq] at h2
          exact trace_pure.mp h2
        | none =>
          rw [eq] at h2
          exact trace_pure.mp h2
      obtain ⟨rfl, rfl⟩ := result
      exact ⟨Nat.le_refl 1, rfl⟩

/-- `OpenAPIRequestGet::Do` is lenient. -/
lemma doGet_inv {a : HTTPStatus × Option Json.Object} (h : Trace (doGet services call previous) tr a) :
    tr.length ≤ 1 ∧ a = OpenAPIRequest.lenient previous (answered tr) := by
  have inv := doServices_inv (g := fun r => some (r.status, r.body.parse.or previous)) (fun _ => rfl) h
  refine ⟨inv.1, inv.2.trans ?_⟩
  cases answered tr with
  | none => rfl
  | some r => rfl

/-- What a strict `Do` makes of a reply. -/
lemma strict_eq (answer : Option Reply) :
    (answer.bind fun r => r.body.parse.map fun o => (r.status, some o)).getD
      (HTTPStatus.gatewayTimeout, previous) = OpenAPIRequest.strict previous answer := by
  cases answer with
  | none => rfl
  | some r =>
    rw [OpenAPIRequest.strict, Option.bind_some]
    cases r.body.parse with
    | none => rfl
    | some o => rfl

/-- A body which does not parse ends a strict iteration. -/
lemma extract_bind (r : Reply) :
    (do
      let o ← extract r.body
      return some (r.status, some o) : Tried (Option (HTTPStatus × Option Json.Object))) =
    returning (r.body.parse.map fun o => (r.status, some o)) := by
  rw [extract]
  cases r.body.parse with
  | none => rfl
  | some o => rfl

/-- `OpenAPIRequestPut::Do` is strict. -/
lemma doPut_inv {a : HTTPStatus × Option Json.Object} (h : Trace (doPut services call previous) tr a) :
    tr.length ≤ 1 ∧ a = OpenAPIRequest.strict previous (answered tr) := by
  have inv := doServices_inv (g := fun r => r.body.parse.map fun o => (r.status, some o)) extract_bind h
  exact ⟨inv.1, inv.2.trans (strict_eq (answered tr))⟩

/-- `OpenAPIRequestPost::Do` is strict. -/
lemma doPost_inv {a : HTTPStatus × Option Json.Object}
    (h : Trace (doPost services call previous) tr a) :
    tr.length ≤ 1 ∧ a = OpenAPIRequest.strict previous (answered tr) := doPut_inv h

/-- `OpenAPIRequestDelete::Do` is lenient. -/
lemma doDelete_inv {a : HTTPStatus × Option Json.Object × Option Body}
    (h : Trace (doDelete services call previous) tr a) :
    tr.length ≤ 1 ∧ (a.1, a.2.1) = OpenAPIRequest.lenient previous (answered tr) ∧
      a.2.2 = (answered tr).map Reply.body := by
  have inv := doServices_inv
    (g := fun r => some (r.status, r.body.parse.or previous, some r.body)) (fun _ => rfl) h
  refine ⟨inv.1, ?_⟩
  rw [inv.2]
  cases answered tr with
  | none => exact ⟨rfl, rfl⟩
  | some r => exact ⟨rfl, rfl⟩

/-- `OpenAPIRequestGet::Do` is lenient for a body which may be an array, too. -/
lemma doGetArray_inv {previousArray : Option (List Json)}
    {a : HTTPStatus × Option (List Json) × Option Json.Object}
    (h : Trace (doGetArray services call previous previousArray) tr a) :
    tr.length ≤ 1 ∧ a = OpenAPIRequest.lenientArray previousArray previous (answered tr) := by
  have inv := doServices_inv
    (g := fun r => some (OpenAPIRequest.lenientArray previousArray previous (some r))) (fun r => ?_) h
  · refine ⟨inv.1, inv.2.trans ?_⟩
    cases answered tr with
    | none => rfl
    | some r => rfl
  · obtain ⟨status, body⟩ := r
    cases body with
    | text s => rfl
    | json j =>
      cases j with
      | arr elements => rfl
      | _ => rfl

/-- A verb asks one instance at most, and returns what it makes of the reply. -/
lemma doRequest_inv {verb : Verb} {a : HTTPStatus × Option Json.Object}
    (h : Trace (doRequest services call previous verb) tr a) :
    tr.length ≤ 1 ∧ a =
      if verb = .get ∨ verb = .delete then OpenAPIRequest.lenient previous (answered tr)
      else OpenAPIRequest.strict previous (answered tr) := by
  cases verb with
  | get => exact doGet_inv h
  | put => exact doPut_inv h
  | post => exact doPost_inv h
  | delete =>
    obtain ⟨tr1, tr2, r, rfl, h1, h2⟩ := trace_bind.mp h
    obtain ⟨rfl, rfl⟩ := trace_pure.mp h2
    rw [List.append_nil]
    obtain ⟨one, eq, _⟩ := doDelete_inv h1
    exact ⟨one, eq⟩

end Trace

/-! ## Agreement -/

/-- A registered instance has answered with the reply. -/
def Received (tr : List (Event Exchange Exchange.Answer)) (r : Reply) : Prop := ∃ x, ⟨x, some r⟩ ∈ tr

lemma received_iff {tr : List (Event Exchange Exchange.Answer)} (one : tr.length ≤ 1) {r : Reply} :
    Received tr r ↔ answered tr = some r := by
  match tr, one with
  | [], _ => exact ⟨fun ⟨_, h⟩ => absurd h List.not_mem_nil, nofun⟩
  | [⟨x, answer⟩], _ =>
    refine ⟨?_, ?_⟩
    · rintro ⟨y, h⟩
      cases List.mem_singleton.mp h
      rfl
    · intro h
      cases h
      exact ⟨x, List.mem_singleton.mpr rfl⟩

/-- The status and the object of a received reply are passed on, and a gateway timeout says that there was
none. -/
structure Agrees (previous : Option Json.Object) (tr : List (Event Exchange Exchange.Answer))
    (a : HTTPStatus × Option Json.Object) : Prop where
  status_eq : ∀ r, Received tr r → a.1 = r.status
  object_eq : ∀ r, Received tr r →
    (∀ o, r.body = .json (.obj o) → a.2 = some o) ∧
      ((∀ o, r.body ≠ .json (.obj o)) → a.2 = previous)
  timeout : a.1 = HTTPStatus.gatewayTimeout → ∀ r, ¬ Received tr r

/-- One reply is passed on. -/
lemma agrees_of_received {previous : Option Json.Object} {tr : List (Event Exchange Exchange.Answer)}
    {a : HTTPStatus × Option Json.Object} {r : Reply} (only : ∀ r', Received tr r' ↔ r' = r) :
    Agrees previous tr a ↔
      a = (r.status, r.body.parse.or previous) ∧ r.status ≠ HTTPStatus.gatewayTimeout := by
  have received := (only r).mpr rfl
  refine ⟨?_, ?_⟩
  · rintro ⟨status_eq, object_eq, timeout⟩
    refine ⟨Prod.ext (status_eq r received) ?_, ?_⟩
    · obtain ⟨object, other⟩ := object_eq r received
      cases p : r.body.parse with
      | some o => exact object o (Body.parse_eq_some.mp p)
      | none =>
        apply other
        intro o b
        rw [Body.parse_eq_some.mpr b] at p
        cases p
    · intro status
      exact timeout ((status_eq r received).trans status) r received
  · rintro ⟨rfl, status⟩
    refine ⟨?_, ?_, fun timeout => absurd timeout status⟩
    · intro r' received'
      rw [(only r').mp received']
    · intro r' received'
      obtain rfl := (only r').mp received'
      refine ⟨?_, ?_⟩
      · intro o b
        rw [Body.parse_eq_some.mpr b]
        rfl
      · intro other
        cases p : r'.body.parse with
        | none => rfl
        | some o => exact absurd (Body.parse_eq_some.mp p) (other o)

/-- The verb does not have to parse the body, or can. -/
def Readable (verb : Verb) (body : Body) : Prop :=
  verb = .get ∨ verb = .delete ∨ ∃ o, body = .json (.obj o)

/-- A verb passes on what was received exactly when every reply can be read and is no gateway timeout
itself. -/
theorem doRequest_agrees_iff {services : List MicroServiceMeta} {call : Call}
    {previous : Option Json.Object} {verb : Verb} {tr : List (Event Exchange Exchange.Answer)}
    {a : HTTPStatus × Option Json.Object} (h : Trace (doRequest services call previous verb) tr a) :
    Agrees previous tr a ↔
      ∀ r, Received tr r → r.status ≠ HTTPStatus.gatewayTimeout ∧ Readable verb r.body := by
  obtain ⟨one, eq⟩ := doRequest_inv h
  cases answer : answered tr with
  | none =>
    -- nothing was received, and the answer says so
    have silent : ∀ r, ¬ Received tr r := by
      intro r received
      rw [received_iff one, answer] at received
      cases received
    refine ⟨?_, ?_⟩
    · intro _ r received
      exact absurd received (silent r)
    · intro _
      exact ⟨fun r received => absurd received (silent r), fun r received => absurd received (silent r),
        fun _ => silent⟩
  | some r =>
    have only : ∀ r', Received tr r' ↔ r' = r := by
      intro r'
      rw [received_iff one, answer, Option.some_inj, eq_comm]
    have all : (∀ r', Received tr r' → r'.status ≠ HTTPStatus.gatewayTimeout ∧ Readable verb r'.body) ↔
        r.status ≠ HTTPStatus.gatewayTimeout ∧ Readable verb r.body := by
      refine ⟨?_, ?_⟩
      · intro h
        exact h r ((only r).mpr rfl)
      · intro h r' received
        rw [(only r').mp received]
        exact h
    rw [agrees_of_received only, all, eq, answer, and_comm]
    refine and_congr_right fun status => ?_
    split
    case isTrue lenient =>
      -- a body which cannot be read leaves the object of before
      rw [OpenAPIRequest.lenient]
      exact ⟨fun _ => or_assoc.mp (.inl lenient), fun _ => rfl⟩
    case isFalse strict =>
      -- a body which cannot be read is a time-out
      rw [OpenAPIRequest.strict]
      cases p : r.body.parse with
      | some o => exact ⟨fun _ => .inr (.inr ⟨o, Body.parse_eq_some.mp p⟩), fun _ => rfl⟩
      | none =>
        refine ⟨?_, ?_⟩
        · intro eq
          exact absurd (Prod.mk.inj eq).1.symm status
        · intro readable
          rcases or_assoc.mpr readable with lenient | ⟨o, b⟩
          · exact absurd lenient strict
          · rw [Body.parse_eq_some.mpr b] at p
            cases p

namespace Posted

/-- One registered instance. -/
def svc : MicroServiceMeta := { privateEndPoint := "http://svc:16000", accessKey := "key" }

/-- A request which changes something. -/
def call : Call where
  verb := .post
  service := "svc"
  endPoint := "/api/v1/groups"
  queryData := []
  body := []
  msTimeout := 60000
  bearerToken := ""

/-- The events of the request, answered with a reply. -/
def events (r : Reply) : List (Event Exchange Exchange.Answer) := [⟨⟨svc, call⟩, some r⟩]

/-- The request answered with the object it has made. -/
theorem created_agrees : Agrees none (events ⟨201, .json (.obj [])⟩) (201, some []) := by
  have trace : Trace (doRequest [svc] call none .post) (events ⟨201, .json (.obj [])⟩) (201, some []) := by
    apply trace_iff_replay.mpr
    rfl
  refine (doRequest_agrees_iff trace).mpr ?_
  rintro r ⟨x, mem⟩
  cases List.mem_singleton.mp mem
  exact ⟨nofun, .inr (.inr ⟨[], rfl⟩)⟩

/-- The request answered without a body is reported as a gateway timeout. -/
theorem noContent_timeout :
    ¬ ∀ (verb : Verb) (services : List MicroServiceMeta) (call : Call) (previous : Option Json.Object)
      (tr : List (Event Exchange Exchange.Answer)) (a : HTTPStatus × Option Json.Object),
      Trace (doRequest services call previous verb) tr a → Agrees previous tr a := by
  intro all
  have trace : Trace (doRequest [svc] call none .post) (events ⟨204, .text ""⟩)
      (HTTPStatus.gatewayTimeout, none) := by
    apply trace_iff_replay.mpr
    rfl
  have agrees := all .post [svc] call none _ _ trace
  have received : Received (events ⟨204, .text ""⟩) ⟨204, .text ""⟩ := ⟨_, List.mem_singleton.mpr rfl⟩
  exact agrees.timeout rfl _ received

end Posted

end UserPortal.RequestVerbs

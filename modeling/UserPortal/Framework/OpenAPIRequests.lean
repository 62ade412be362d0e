import Mathlib.Algebra.Group.Int.Defs
import UserPortal.Interaction.Program
import UserPortal.Json.Value

/-!
# Requests to the other services

Port of `src/framework/OpenAPIRequests.cpp`. The portal acts on its environment by reading the clock
and by calling other services; a `Portal` program is what a handler does between its request and its
answer. The environment answers a call with a reply, or with `none` when no instance of the service
is registered or the connection fails (the `Poco::Exception` which every `Do` turns into a gateway
timeout). Only the first registered instance is ever contacted.

Headers are left out: a call carries the bearer token, or none when the portal authenticates itself
with the API key of the service.
-/

namespace UserPortal
open Interaction Program

/-- `Poco::Net::HTTPResponse::HTTPStatus` -/
abbrev HTTPStatus := Nat

namespace HTTPStatus

abbrev ok : HTTPStatus := 200
abbrev badRequest : HTTPStatus := 400
abbrev forbidden : HTTPStatus := 403
abbrev notFound : HTTPStatus := 404
abbrev internalServerError : HTTPStatus := 500
abbrev gatewayTimeout : HTTPStatus := 504

end HTTPStatus

inductive Verb where
  | get
  | put
  | post
  | delete
  deriving DecidableEq

/-- A request to another service. -/
structure Call where
  verb : Verb
  service : String
  endPoint : String
  queryData : List (String × String)
  body : Json.Object
  msTimeout : Nat
  bearerToken : String
  deriving DecidableEq

/-- The body of a reply: a JSON document, or bytes which are not one. -/
inductive Body where
  | text (s : String)
  | json (j : Json)
  deriving DecidableEq

namespace Body

/-- `P.parse(body).extract<Poco::JSON::Object::Ptr>()`, `none` where it throws. -/
def parse : Body → Option Json.Object
  | .json (.obj o) => some o
  | _ => none

/-- The raw body is the empty string. -/
def isEmpty : Body → Bool
  | .text s => s = ""
  | .json _ => false

/-- A body parses if it is an object. -/
lemma parse_eq_some {b : Body} {o : Json.Object} : b.parse = some o ↔ b = .json (.obj o) := by
  cases b with
  | text s => simp [parse]
  | json j => cases j <;> simp [parse]

end Body

structure Reply where
  status : HTTPStatus
  body : Body
  deriving DecidableEq

namespace Portal

/-- What the portal asks its environment. -/
inductive Op where
  | now
  | call (c : Call)
  deriving DecidableEq

/-- The clock answers in microseconds since the epoch. -/
abbrev Op.Answer : Op → Type
  | .now => Int
  | .call _ => Option Reply

abbrev Event := Interaction.Event Op Op.Answer

end Portal

/-- Programs of the portal. -/
abbrev Portal := Program Portal.Op Portal.Op.Answer

namespace Portal

abbrev clock : Portal Int := Program.perform Op.now

abbrev send (c : Call) : Portal (Option Reply) := Program.perform (Op.call c)

end Portal

namespace Portal

/-- The calls of a trace. -/
def calls : List Event → List Call
  | [] => []
  | ⟨.now, _⟩ :: tr => calls tr
  | ⟨.call c, _⟩ :: tr => c :: calls tr

/-- The clock readings of a trace. -/
def readings : List Event → List Int
  | [] => []
  | ⟨.now, t⟩ :: tr => t :: readings tr
  | ⟨.call _, _⟩ :: tr => readings tr

@[simp] lemma calls_nil : calls [] = [] := rfl

@[simp] lemma calls_now (t : Int) (tr : List Event) : calls (⟨.now, t⟩ :: tr) = calls tr := rfl

@[simp] lemma calls_call (c : Call) (r : Option Reply) (tr : List Event) :
    calls (⟨.call c, r⟩ :: tr) = c :: calls tr := rfl

@[simp] lemma readings_nil : readings [] = [] := rfl

@[simp] lemma readings_now (t : Int) (tr : List Event) :
    readings (⟨.now, t⟩ :: tr) = t :: readings tr := rfl

@[simp] lemma readings_call (c : Call) (r : Option Reply) (tr : List Event) :
    readings (⟨.call c, r⟩ :: tr) = readings tr := rfl

end Portal

namespace Utils

/-- `Utils::Now`: seconds since the epoch, as a `uint64_t`. -/
def now (micros : Int) : Nat := (micros / 1000000 % 2 ^ 64).toNat

end Utils

namespace OpenAPIRequest

/-- What `OpenAPIRequestGet::Do` and `OpenAPIRequestDelete::Do` return: a body which does not parse
leaves the response object as it was. -/
def lenient (previous : Option Json.Object) : Option Reply → HTTPStatus × Option Json.Object
  | none => (HTTPStatus.gatewayTimeout, previous)
  | some r => (r.status, r.body.parse.or previous)

/-- What `OpenAPIRequestPost::Do` and `OpenAPIRequestPut::Do` return: a body which does not parse is
an exception. -/
def strict (previous : Option Json.Object) : Option Reply → HTTPStatus × Option Json.Object
  | none => (HTTPStatus.gatewayTimeout, previous)
  | some r =>
    match r.body.parse with
    | some o => (r.status, some o)
    | none => (HTTPStatus.gatewayTimeout, previous)

/-- What the other `OpenAPIRequestGet::Do` returns, for a body which may be an array. -/
def lenientArray (previousArray : Option (List Json)) (previous : Option Json.Object) :
    Option Reply → HTTPStatus × Option (List Json) × Option Json.Object
  | none => (HTTPStatus.gatewayTimeout, previousArray, previous)
  | some r =>
    match r.body with
    | .json (.arr elements) => (r.status, some elements, previous)
    | body => (r.status, previousArray, body.parse.or previous)

/-- `OpenAPIRequestGet::Do` -/
def get (service endPoint : String) (queryData : List (String × String)) (msTimeout : Nat)
    (bearerToken : String) (previous : Option Json.Object) :
    Portal (HTTPStatus × Option Json.Object) := do
  let answer ← Portal.send
    { verb := .get, service, endPoint, queryData, body := [], msTimeout, bearerToken }
  return lenient previous answer

/-- `OpenAPIRequestGet::Do`, for a body which may be an array. -/
def getArray (service endPoint : String) (queryData : List (String × String)) (msTimeout : Nat)
    (bearerToken : String) (previousArray : Option (List Json)) (previous : Option Json.Object) :
    Portal (HTTPStatus × Option (List Json) × Option Json.Object) := do
  let answer ← Portal.send
    { verb := .get, service, endPoint, queryData, body := [], msTimeout, bearerToken }
  return lenientArray previousArray previous answer

/-- `OpenAPIRequestPut::Do` -/
def put (service endPoint : String) (queryData : List (String × String)) (body : Json.Object)
    (msTimeout : Nat) (bearerToken : String) (previous : Option Json.Object) :
    Portal (HTTPStatus × Option Json.Object) := do
  let answer ← Portal.send
    { verb := .put, service, endPoint, queryData, body, msTimeout, bearerToken }
  return strict previous answer

/-- `OpenAPIRequestPost::Do` -/
def post (service endPoint : String) (queryData : List (String × String)) (body : Json.Object)
    (msTimeout : Nat) (bearerToken : String) (previous : Option Json.Object) :
    Portal (HTTPStatus × Option Json.Object) := do
  let answer ← Portal.send
    { verb := .post, service, endPoint, queryData, body, msTimeout, bearerToken }
  return strict previous answer

/-- `OpenAPIRequestDelete::Do`, which also returns whether the raw body was empty. -/
def delete (service endPoint : String) (queryData : List (String × String)) (msTimeout : Nat)
    (bearerToken : String) (previous : Option Json.Object) :
    Portal (HTTPStatus × Option Json.Object × Bool) := do
  let answer ← Portal.send
    { verb := .delete, service, endPoint, queryData, body := [], msTimeout, bearerToken }
  let (status, response) := lenient previous answer
  return (status, response, (answer.map fun r => r.body.isEmpty).getD true)

section Trace

variable {α : Type} {service endPoint : String} {queryData : List (String × String)}
  {body : Json.Object} {msTimeout : Nat} {bearerToken : String} {previous : Option Json.Object}
  {tr : List Portal.Event} {a : α}

/-- A `GET` is one event, whose reply leads to the rest. -/
lemma trace_get_bind {f : HTTPStatus × Option Json.Object → Portal α} :
    Trace (get service endPoint queryData msTimeout bearerToken previous >>= f) tr a ↔
      ∃ answer rest,
        tr = ⟨.call ⟨.get, service, endPoint, queryData, [], msTimeout, bearerToken⟩, answer⟩ :: rest ∧
        Trace (f (lenient previous answer)) rest a := trace_ask

/-- So is a `GET` which may be answered with an array. -/
lemma trace_getArray_bind {previousArray : Option (List Json)}
    {f : HTTPStatus × Option (List Json) × Option Json.Object → Portal α} :
    Trace (getArray service endPoint queryData msTimeout bearerToken previousArray previous >>= f) tr a ↔
      ∃ answer rest,
        tr = ⟨.call ⟨.get, service, endPoint, queryData, [], msTimeout, bearerToken⟩, answer⟩ :: rest ∧
        Trace (f (lenientArray previousArray previous answer)) rest a := trace_ask

/-- So is a `PUT`. -/
lemma trace_put_bind {f : HTTPStatus × Option Json.Object → Portal α} :
    Trace (put service endPoint queryData body msTimeout bearerToken previous >>= f) tr a ↔
      ∃ answer rest,
        tr = ⟨.call ⟨.put, service, endPoint, queryData, body, msTimeout, bearerToken⟩, answer⟩ :: rest ∧
        Trace (f (strict previous answer)) rest a := trace_ask

/-- So is a `POST`. -/
lemma trace_post_bind {f : HTTPStatus × Option Json.Object → Portal α} :
    Trace (post service endPoint queryData body msTimeout bearerToken previous >>= f) tr a ↔
      ∃ answer rest,
        tr = ⟨.call ⟨.post, service, endPoint, queryData, body, msTimeout, bearerToken⟩, answer⟩ :: rest ∧
        Trace (f (strict previous answer)) rest a := trace_ask

/-- So is a `DELETE`, which also tells whether the body was empty. -/
lemma trace_delete_bind {f : HTTPStatus × Option Json.Object × Bool → Portal α} :
    Trace (delete service endPoint queryData msTimeout bearerToken previous >>= f) tr a ↔
      ∃ answer rest,
        tr = ⟨.call ⟨.delete, service, endPoint, queryData, [], msTimeout, bearerToken⟩, answer⟩ :: rest ∧
        Trace (f ((lenient previous answer).1, (lenient previous answer).2,
          (answer.map fun r => r.body.isEmpty).getD true)) rest a := trace_ask

end Trace

/-- A lenient call passes on the status and the object of the reply, if there was one. -/
lemma lenient_inv {answer : Option Reply} {status : HTTPStatus} {response : Option Json.Object}
    (h : (status, response) = lenient none answer) :
    answer = none ∧ status = HTTPStatus.gatewayTimeout ∧ response = none ∨
      ∃ r, answer = some r ∧ status = r.status ∧ response = r.body.parse := by
  cases answer with
  | none =>
    cases h
    exact .inl ⟨rfl, rfl, rfl⟩
  | some r =>
    rw [lenient, Option.or_none] at h
    cases h
    exact .inr ⟨r, rfl, rfl, rfl⟩

/-- An object is returned only where the reply carries one. -/
lemma lenient_some {answer : Option Reply} {o : Json.Object}
    (h : (lenient none answer).2 = some o) :
    ∃ r, answer = some r ∧ r.body = .json (.obj o) ∧ lenient none answer = (r.status, some o) := by
  cases answer with
  | none => cases h
  | some r =>
    have p : r.body.parse = some o := by simpa [lenient] using h
    exact ⟨r, rfl, Body.parse_eq_some.mp p, by simp [lenient, p]⟩

/-- A call with a parsing verb is answered 200 only with an object. -/
lemma strict_ok {previous : Option Json.Object} {answer : Option Reply}
    (h : (strict previous answer).1 = HTTPStatus.ok) :
    ∃ r o, answer = some r ∧ r.status = HTTPStatus.ok ∧ r.body = .json (.obj o) ∧
      strict previous answer = (HTTPStatus.ok, some o) := by
  cases answer with
  | none => cases h
  | some r =>
    cases p : r.body.parse with
    | none =>
      simp only [strict, p] at h
      cases h
    | some o =>
      simp only [strict, p] at h
      have b := Body.parse_eq_some.mp p
      refine ⟨r, o, rfl, h, b, ?_⟩
      simp only [strict, p, h]

/-- There is no reply, or one which is not 200. -/
def NotOk (answer : Option Reply) : Prop := ∀ reply, answer = some reply → reply.status ≠ HTTPStatus.ok

section NotOk

variable {answer : Option Reply} {previous : Option Json.Object}

/-- A request which had to parse fails where it is not answered with 200. -/
lemma NotOk.strict (failed : NotOk answer) : (strict previous answer).1 ≠ HTTPStatus.ok := by
  intro ok
  obtain ⟨reply, _, rfl, status, _⟩ := strict_ok ok
  exact failed reply rfl status

/-- So does one which may be answered with anything. -/
lemma NotOk.lenient (failed : NotOk answer) : (lenient previous answer).1 ≠ HTTPStatus.ok := by
  cases answer with
  | none => exact nofun
  | some reply => exact failed reply rfl

/-- So does one which may be answered with an array. -/
lemma NotOk.lenientArray {previousArray : Option (List Json)} (failed : NotOk answer) :
    (lenientArray previousArray previous answer).1 ≠ HTTPStatus.ok := by
  cases answer with
  | none => exact nofun
  | some reply =>
    rw [OpenAPIRequest.lenientArray]
    split
    case h_1 => exact failed reply rfl
    case h_2 => exact failed reply rfl

end NotOk

end OpenAPIRequest

end UserPortal

import UserPortal.Interaction.Refinement
import UserPortal.RestApi.RuleConfinement
import UserPortal.RestApi.StoredSchedules

/-!
# The schedules of a subscriber

To the subscriber, the schedules are a book of requests in local time: one is added, replaced or removed at a time,
and the book is read. The parental-control service keeps them in UTC, and asks nothing about a time zone. Over
any run of requests, the portal makes the one out of the other, as long as the time zone has the same offset
around each reading of the clock.

The service is not part of this repository. It is taken to keep what it is sent: it answers 200 where it accepts,
and whether it has accepted is not known where it answers anything else.
-/

namespace UserPortal.RestApi.ParentalControl
open Interaction Program Calendar Data Sdk
open GroupDevicesListV2 (Elsewhere)
open OpenAPIRequest (NotOk)

/-! ## The service -/

/-- The schedules which the service keeps for a subscriber, by their ids. -/
abbrev Shelf := List (String × Json.Object)

/-- What the service is asked about schedules. -/
inductive Question where
  | createSchedule (body : Json.Object)
  | updateSchedule (scheduleId : String) (body : Json.Object)
  | deleteSchedule (scheduleId : String)
  | getSchedules
  | getSchedule (scheduleId : String)

/-- The call of a question. -/
def Question.call (subscriberId : String) : Question → Call
  | createSchedule body =>
    ParentalControl.serviceCall .post ("/api/v1/subscribers/" ++ subscriberId ++ "/schedules") body 60000
  | updateSchedule scheduleId body =>
    ParentalControl.serviceCall .put ("/api/v1/subscribers/" ++ subscriberId ++ "/schedules/" ++ scheduleId) body
      120000
  | deleteSchedule scheduleId =>
    ParentalControl.serviceCall .delete ("/api/v1/subscribers/" ++ subscriberId ++ "/schedules/" ++ scheduleId) []
      120000
  | getSchedules =>
    ParentalControl.serviceCall .get ("/api/v1/subscribers/" ++ subscriberId ++ "/schedules") [] 60000
  | getSchedule scheduleId =>
    ParentalControl.serviceCall .get ("/api/v1/subscribers/" ++ subscriberId ++ "/schedules/" ++ scheduleId) []
      60000

/-- The service accepts a question: the body of its reply, and what it keeps then. -/
inductive Accepted (shelf : Shelf) : Question → Body → Shelf → Prop where
  | createSchedule {body schedule reply : Json.Object} {id : String} :
    id ∉ shelf.map Prod.fst → Echoes body schedule → Echoes body reply →
    Accepted shelf (.createSchedule body) (.json (.obj reply)) (shelf ++ [(id, schedule)])
  | updateSchedule {id : String} {body schedule reply : Json.Object} :
    Echoes body schedule → Echoes body reply →
    Accepted shelf (.updateSchedule id body) (.json (.obj reply))
      (shelf.map fun entry => if entry.1 = id then (id, schedule) else entry)
  | deleteSchedule {id : String} {body : Body} :
    body.isEmpty = true ∨ body.parse.isSome →
    Accepted shelf (.deleteSchedule id) body (shelf.filter fun entry => entry.1 ≠ id)
  | getSchedules : Accepted shelf .getSchedules (.json (.arr (shelf.map fun entry => .obj entry.2))) shelf
  | getSchedule {id : String} {schedule : Json.Object} :
    (id, schedule) ∈ shelf → Accepted shelf (.getSchedule id) (.json (.obj schedule)) shelf

/-- Around a clock reading, the time zone has a constant offset of `c` minutes. -/
def SteadyAt (zone : Zone) (c sysNow : Int) : Prop := ∃ lo hi, Steady zone c lo hi sysNow

/-- What the other services and the clock answer to the portal, where the venue of the subscriber stays in its
time zone. -/
inductive Serves (conv : Conversions) (zone : Zone) (c : Int) (timezone subscriberId : String) (shelf : Shelf) :
    Portal.Event → Shelf → Prop where
  | clock {t : Int} : SteadyAt zone c t → Serves conv zone c timezone subscriberId shelf ⟨.now, t⟩ shelf
  | accepts {q : Question} {body : Body} {shelf' : Shelf} :
    Accepted shelf q body shelf' →
    Serves conv zone c timezone subscriberId shelf ⟨.call (q.call subscriberId), some ⟨HTTPStatus.ok, body⟩⟩ shelf'
  | refuses {q : Question} {answer : Option Reply} :
    NotOk answer →
    Serves conv zone c timezone subscriberId shelf ⟨.call (q.call subscriberId), answer⟩ shelf
  | unconfirmed {q : Question} {answer : Option Reply} {body : Body} {shelf' : Shelf} :
    NotOk answer → Accepted shelf q body shelf' →
    Serves conv zone c timezone subscriberId shelf ⟨.call (q.call subscriberId), answer⟩ shelf'
  | elsewhere {call : Call} {answer : Option Reply} :
    call.service ≠ uSERVICE_MANGO_PARENTAL_CONTROL →
    (∀ id location, call = Prov.getLocationCall id → Prov.locationIn conv answer = some location →
      location.timezone = timezone) →
    Serves conv zone c timezone subscriberId shelf ⟨.call call, answer⟩ shelf

/-! ## The book -/

/-- The schedules as they were requested, by their ids. -/
abbrev Book := List (String × ParsedScheduleRequest)

/-- The service keeps the schedules of a book. -/
def Represents (conv : Conversions) (c : Int) : Book → Shelf → Prop :=
  List.Forall₂ fun entry stored => entry.1 = stored.1 ∧ Holds conv c entry.2 stored.2

/-- What is sent is no error. -/
def Sent.IsOk : Sent → Prop
  | .answer a => a.status = HTTPStatus.ok
  | .rawJSON _ => True

/-- A request and what is sent for it, with the book before and after it. Without an error, the book was changed
or shown as requested. With one, it may have been changed so all the same, but not in another way. -/
inductive Turns (conv : Conversions) (r : RulesRequest) (book : Book) : Handler → Sent → Book → Prop where
  | failed {handler : Handler} {sent : Sent} : ¬ sent.IsOk → Turns conv r book handler sent book
  | added {o : Json.Object} {req : ParsedScheduleRequest} {id : String} {sent : Sent} :
    r.parsedBody = some o → ReadOff conv o false req → id ∉ book.map Prod.fst →
    (sent.IsOk → ∃ out, sent = .answer (HandlerAnswer.returnObject out) ∧ Shows conv req out) →
    Turns conv r book .addSchedule sent (book ++ [(id, req)])
  | replaced {o : Json.Object} {req : ParsedScheduleRequest} {sent : Sent} :
    r.parsedBody = some o → ReadOff conv o true req →
    (sent.IsOk → ∃ out, sent = .answer (HandlerAnswer.returnObject out) ∧ Shows conv req out) →
    Turns conv r book .replaceSchedule sent
      (book.map fun entry => if entry.1 = r.scheduleId then (r.scheduleId, req) else entry)
  | removed {sent : Sent} :
    (sent.IsOk → sent = .answer (HandlerAnswer.success "DELETE")) →
    Turns conv r book .removeSchedule sent (book.filter fun entry => entry.1 ≠ r.scheduleId)
  | listed {elements : List Json} :
    List.Forall₂ (fun entry element => ∃ out, element = .obj out ∧ Shows conv entry.2 out) book elements →
    Turns conv r book .listSchedules (.rawJSON elements) book
  | read {req : ParsedScheduleRequest} {out : Json.Object} :
    (r.scheduleId, req) ∈ book → Shows conv req out →
    Turns conv r book .readSchedule (.answer (HandlerAnswer.returnObject out)) book

/-- The handlers of schedules. -/
def scheduleHandlers : List Handler :=
  [.listSchedules, .addSchedule, .readSchedule, .replaceSchedule, .removeSchedule]

/-- A request with its handler, as a turn of the book. -/
def turn (conv : Conversions) (request : Handler × RulesRequest) (book : Book) (sent : Sent) (book' : Book) : Prop :=
  Turns conv request.2 book request.1 sent book'

/-- A request of a subscriber about schedules, and what the portal sends for it. -/
def Answers (conv : Conversions) (locateZone : String → Option Zone) (bearerToken subscriberId : String)
    (request : Handler × RulesRequest) (tr : List Portal.Event) (sent : Sent) : Prop :=
  request.1 ∈ scheduleHandlers ∧ request.2.subscriberId = subscriberId ∧
    Trace (request.1.run conv locateZone bearerToken request.2) tr [sent]

/-! ## Questions -/

section Questions

variable {subscriberId : String}

/-- Every question goes to the parental-control service. -/
lemma Question.call_service (q : Question) : (q.call subscriberId).service = uSERVICE_MANGO_PARENTAL_CONTROL := by
  cases q <;> rfl

/-- The list of the schedules is not one of them. -/
lemma schedules_ne_schedule (id : String) :
    "/api/v1/subscribers/" ++ subscriberId ++ "/schedules" ≠
      "/api/v1/subscribers/" ++ subscriberId ++ "/schedules/" ++ id := by
  intro eq
  have len := congrArg String.length eq
  simp only [String.length_append] at len
  have shorter : "/schedules".length < "/schedules/".length := by decide
  omega

/-- The path tells which schedule is meant. -/
lemma schedule_inj {id id' : String}
    (eq : "/api/v1/subscribers/" ++ subscriberId ++ "/schedules/" ++ id =
      "/api/v1/subscribers/" ++ subscriberId ++ "/schedules/" ++ id') : id = id' := by
  have chars := congrArg String.toList eq
  simp only [String.toList_append, List.append_right_inj] at chars
  exact String.toList_injective chars

/-- The call tells which question is asked. -/
lemma Question.call_inj {q q' : Question} (eq : q.call subscriberId = q'.call subscriberId) : q = q' := by
  have verb := congrArg Call.verb eq
  have path := congrArg Call.endPoint eq
  have body := congrArg Call.body eq
  clear eq
  cases q <;> cases q' <;> dsimp only [Question.call, ParentalControl.serviceCall] at verb path body
  all_goals try cases verb
  · rw [body]
  · rw [body, schedule_inj path]
  · rw [schedule_inj path]
  · rfl
  · exact absurd path (schedules_ne_schedule _)
  · exact absurd path.symm (schedules_ne_schedule _)
  · rw [schedule_inj path]

end Questions

/-! ## Representation -/

section Represents

variable {conv : Conversions} {c : Int} {book : Book} {shelf : Shelf}

/-- The book and the service have the same ids. -/
lemma Represents.ids (rep : Represents conv c book shelf) : book.map Prod.fst = shelf.map Prod.fst := by
  induction rep with
  | nil => rfl
  | cons first _ ih => rw [List.map_cons, List.map_cons, first.1, ih]

/-- A new schedule is put behind the others. -/
lemma Represents.append {id : String} {req : ParsedScheduleRequest} {schedule : Json.Object}
    (rep : Represents conv c book shelf) (holds : Holds conv c req schedule) :
    Represents conv c (book ++ [(id, req)]) (shelf ++ [(id, schedule)]) := by
  induction rep with
  | nil => exact .cons ⟨rfl, holds⟩ .nil
  | cons first _ ih => exact .cons first ih

/-- A schedule is replaced in both. -/
lemma Represents.update {id : String} {req : ParsedScheduleRequest} {schedule : Json.Object}
    (rep : Represents conv c book shelf) (holds : Holds conv c req schedule) :
    Represents conv c (book.map fun entry => if entry.1 = id then (id, req) else entry)
      (shelf.map fun entry => if entry.1 = id then (id, schedule) else entry) := by
  induction rep with
  | nil => exact .nil
  | cons first _ ih =>
    refine .cons ?_ ih
    dsimp only
    rw [first.1]
    split
    case isTrue => exact ⟨rfl, holds⟩
    case isFalse => exact first

/-- A schedule is removed from both. -/
lemma Represents.filter {id : String} (rep : Represents conv c book shelf) :
    Represents conv c (book.filter fun entry => entry.1 ≠ id) (shelf.filter fun entry => entry.1 ≠ id) := by
  induction rep with
  | nil => exact .nil
  | @cons entry stored book shelf first _ ih =>
    rw [List.filter_cons, List.filter_cons, first.1]
    split
    case isTrue => exact .cons first ih
    case isFalse => exact ih

/-- What the service keeps is in the book. -/
lemma Represents.mem {id : String} {schedule : Json.Object} (rep : Represents conv c book shelf)
    (mem : (id, schedule) ∈ shelf) : ∃ req, (id, req) ∈ book ∧ Holds conv c req schedule := by
  induction rep with
  | nil => cases mem
  | @cons entry stored book shelf first _ ih =>
    rcases List.mem_cons.mp mem with rfl | mem
    · have entry_eq : (id, entry.2) = entry := Prod.ext first.1.symm rfl
      refine ⟨entry.2, ?_, first.2⟩
      rw [entry_eq]
      exact List.mem_cons_self ..
    · obtain ⟨req, here, holds⟩ := ih mem
      exact ⟨req, List.mem_cons_of_mem _ here, holds⟩

end Represents

/-! ## Events -/

section Events

variable {conv : Conversions} {locateZone : String → Option Zone} {zone : Zone} {c : Int}
  {timezone subscriberId : String} {shelf shelf' : Shelf} {tr : List Portal.Event}

/-- What goes elsewhere leaves the schedules alone. -/
lemma Serves.quiet {e : Portal.Event} (served : Serves conv zone c timezone subscriberId shelf e shelf')
    (other : Elsewhere e) : shelf' = shelf := by
  cases served with
  | clock => rfl
  | elsewhere => rfl
  | accepts => exact absurd (Question.call_service _) (other _ rfl)
  | refuses => rfl
  | unconfirmed => exact absurd (Question.call_service _) (other _ rfl)

/-- So do several events. -/
lemma served_quiet (served : Accepts (Serves conv zone c timezone subscriberId) shelf tr shelf')
    (other : ∀ e ∈ tr, Elsewhere e) : shelf' = shelf :=
  served.eq_of_quiet (fun _ _ _ quiet st => st.quiet quiet) other

/-- A question is accepted, or is not answered with 200. -/
lemma served_question {q : Question} {answer : Option Reply}
    (served : Accepts (Serves conv zone c timezone subscriberId) shelf [⟨.call (q.call subscriberId), answer⟩]
      shelf') :
    (∃ body, answer = some ⟨HTTPStatus.ok, body⟩ ∧ Accepted shelf q body shelf') ∨
      NotOk answer ∧ (shelf' = shelf ∨ ∃ body, Accepted shelf q body shelf') := by
  obtain ⟨shelf1, st, rest⟩ := accepts_cons.mp served
  obtain rfl := accepts_nil.mp rest
  generalize asked : q.call subscriberId = call at st
  cases st with
  | accepts accepted =>
    obtain rfl := Question.call_inj asked
    exact .inl ⟨_, rfl, accepted⟩
  | refuses failed => exact .inr ⟨failed, .inl rfl⟩
  | unconfirmed failed accepted =>
    obtain rfl := Question.call_inj asked
    exact .inr ⟨failed, .inr ⟨_, accepted⟩⟩
  | elsewhere other _ => exact absurd (by rw [← asked, Question.call_service]) other

/-- The location of the venue is in the time zone. -/
lemma served_resolves {found : Option Prov.Location} (resolves : Resolves conv subscriberId tr found)
    (served : Accepts (Serves conv zone c timezone subscriberId) shelf tr shelf') :
    shelf' = shelf ∧ ∀ location, found = some location → location.timezone = timezone := by
  refine ⟨served_quiet served resolves.elsewhere, ?_⟩
  cases resolves with
  | noVenue listing => exact nofun
  | @asked listing found venue venues listed placed =>
    obtain ⟨shelf1, _, rest⟩ := accepts_cons.mp served
    obtain ⟨shelf2, st, _⟩ := accepts_cons.mp rest
    generalize asked : Prov.getLocationCall venue.location = call at st
    have service : call.service = uSERVICE_PROVISIONING := by
      rw [← asked]
      rfl
    have other : ∀ q : Question, q.call subscriberId ≠ call := by
      intro q eq
      rw [← eq, Question.call_service] at service
      exact absurd service (by decide)
    cases st with
    | accepts => exact absurd rfl (other _)
    | refuses => exact absurd rfl (other _)
    | unconfirmed => exact absurd rfl (other _)
    | elsewhere _ located => exact fun location eq => located venue.location location asked.symm eq

/-- The clock is read where the zone has its offset. -/
lemma served_clock {t : Int} (served : Accepts (Serves conv zone c timezone subscriberId) shelf [⟨.now, t⟩] shelf') :
    shelf' = shelf ∧ SteadyAt zone c t := by
  obtain ⟨shelf1, st, rest⟩ := accepts_cons.mp served
  obtain rfl := accepts_nil.mp rest
  cases st with
  | clock steady => exact ⟨rfl, steady⟩

end Events

/-! ## Answers which are no errors -/

section Answers

variable {answer : Option Reply} {α : Type}

/-- Steps which only end with errors that are no 200. -/
def NeverOk (steps : Handling α) : Prop := ∀ tr e, Trace steps.run tr (.error e) → e.status ≠ HTTPStatus.ok

/-- Steps which do not end with 200 one after the other. -/
lemma NeverOk.bind {β : Type} {x : Handling α} {f : α → Handling β} (hx : NeverOk x) (hf : ∀ a, NeverOk (f a)) :
    NeverOk (x >>= f) := by
  intro tr e h
  rcases trace_attempt_bind.mp h with ⟨e', eq, h1⟩ | ⟨tr1, tr2, a, rfl, _, h2⟩
  · cases eq
    exact hx tr e h1
  · exact hf a tr2 e h2

/-- Calls do not end the steps. -/
lemma neverOk_lift (p : Portal α) : NeverOk (liftM p : Handling α) := by
  intro tr e h
  obtain ⟨a, eq, _⟩ := trace_attempt_lift.mp h
  cases eq

/-- Nor does what returns. -/
lemma neverOk_pure (a : α) : NeverOk (pure a : Handling α) := by
  intro tr e h
  obtain ⟨_, eq⟩ := trace_attempt_pure.mp h
  cases eq

/-- An answer with another status. -/
lemma neverOk_throw {answer : HandlerAnswer} (status : answer.status ≠ HTTPStatus.ok) :
    NeverOk (throw answer : Handling α) := by
  intro tr e h
  obtain ⟨_, eq⟩ := trace_attempt_throw.mp h
  cases eq
  exact status

/-- The time zone of a subscriber is resolved, or an error is answered. -/
lemma neverOk_resolve {conv : Conversions} {locateZone : String → Option Zone} {method subscriberId : String} :
    NeverOk (resolveSubscriberTimezone conv locateZone method subscriberId) := by
  have bad : ∀ {β : Type} {e : ErrorMsg}, NeverOk (throw (HandlerAnswer.badRequest method e "") : Handling β) :=
    neverOk_throw (nofun : (400 : Nat) ≠ 200)
  have internal : ∀ {β : Type} {e : ErrorMsg},
      NeverOk (throw (HandlerAnswer.internalError method e) : Handling β) :=
    neverOk_throw (nofun : (500 : Nat) ≠ 200)
  refine NeverOk.bind ?_ fun location => ?_
  · refine (neverOk_lift _).bind fun listed => ?_
    obtain ⟨venues, status, response⟩ := listed
    cases venues with
    | none =>
      dsimp only
      split
      case isTrue failed => exact neverOk_throw failed
      case isFalse => exact internal
    | some venues =>
      cases venues with
      | nil => exact bad
      | cons venue venues =>
        dsimp only
        split
        case isTrue => exact bad
        case isFalse =>
          refine (neverOk_lift _).bind fun read => ?_
          obtain ⟨location, status, response⟩ := read
          cases location with
          | none =>
            dsimp only
            split
            case isTrue failed => exact neverOk_throw failed
            case isFalse => exact internal
          | some location => exact neverOk_pure _
  · split
    case isTrue => exact bad
    case isFalse =>
      split
      case isTrue => exact internal
      case isFalse => exact neverOk_pure _

end Answers

/-! ## The steps of the handlers -/

section Steps

variable {conv : Conversions} {locateZone : String → Option Zone} {zone : Zone} {c : Int}
  {timezone method subscriberId : String} {shelf shelf' : Shelf} {tr : List Portal.Event}

/-- The time zone of the subscriber is resolved, or the request is ended by an error. -/
lemma served_resolving {α : Type} {f : String → Handling α} {r : Except HandlerAnswer α}
    (h : Trace (resolveSubscriberTimezone conv locateZone method subscriberId >>= f).run tr r)
    (served : Accepts (Serves conv zone c timezone subscriberId) shelf tr shelf') :
    (shelf' = shelf ∧ ∃ e, r = .error e ∧ e.status ≠ HTTPStatus.ok) ∨
      ∃ rest, Accepts (Serves conv zone c timezone subscriberId) shelf rest shelf' ∧
        Trace (f timezone).run rest r := by
  rcases trace_attempt_bind.mp h with ⟨e, rfl, h1⟩ | ⟨tr1, tr2, resolved, rfl, h1, h2⟩
  · obtain ⟨found, resolves, _⟩ := resolveSubscriberTimezone_inv h1
    exact .inl ⟨(served_resolves resolves served).1, e, rfl, neverOk_resolve tr e h1⟩
  · obtain ⟨found, resolves, eq⟩ := resolveSubscriberTimezone_inv h1
    obtain ⟨shelf1, served1, served2⟩ := accepts_append.mp served
    obtain ⟨rfl, located⟩ := served_resolves resolves served1
    have same : resolved = timezone := located ⟨resolved⟩ (eq resolved rfl).1
    rw [same] at h2
    exact .inr ⟨tr2, served2, h2⟩

/-- The times of a request are converted. -/
lemma served_toUtc {α : Type} {f : ParsedScheduleRequest → Handling α} {r : Except HandlerAnswer α}
    {req : ParsedScheduleRequest} (located : Located locateZone timezone zone) (v : req.Validated conv)
    (h : Trace (toUtc conv locateZone method timezone req >>= f).run tr r)
    (served : Accepts (Serves conv zone c timezone subscriberId) shelf tr shelf') :
    ∃ utc rest, (∀ schedule, Echoes (buildScheduleRequestBody utc) schedule → Holds conv c req schedule) ∧
      Accepts (Serves conv zone c timezone subscriberId) shelf rest shelf' ∧ Trace (f utc).run rest r := by
  have converts : ∀ {tr r} {shelf1 : Shelf}, Trace (toUtc conv locateZone method timezone req).run tr r →
      Accepts (Serves conv zone c timezone subscriberId) shelf tr shelf1 →
      shelf1 = shelf ∧ ∃ utc, r = .ok utc ∧
        ∀ schedule, Echoes (buildScheduleRequestBody utc) schedule → Holds conv c req schedule := by
    intro tr r shelf1 h served
    obtain ⟨tr1, tr2, t, rfl, h1, h2⟩ := trace_attempt_lift_bind.mp h
    obtain ⟨shelf2, served1, served2⟩ := accepts_append.mp served
    rw [trace_perform.mp h1] at served1
    obtain ⟨rfl, lo, hi, steady⟩ := served_clock served1
    obtain ⟨utc, converted, holds⟩ := Holds.written steady located v
    rw [converted] at h2
    obtain ⟨rfl, rfl⟩ := trace_attempt_pure.mp h2
    exact ⟨accepts_nil.mp served2, utc, rfl, holds⟩
  rcases trace_attempt_bind.mp h with ⟨e, rfl, h1⟩ | ⟨tr1, tr2, utc, rfl, h1, h2⟩
  · obtain ⟨_, _, eq, _⟩ := converts h1 served
    cases eq
  · obtain ⟨shelf1, served1, served2⟩ := accepts_append.mp served
    obtain ⟨rfl, utc', eq, holds⟩ := converts h1 served1
    cases eq
    exact ⟨utc, tr2, holds, served2, h2⟩

/-- A schedule which holds a request is shown as the request. -/
lemma served_showNormalized {req : ParsedScheduleRequest} {schedule : Json.Object}
    {r : Except HandlerAnswer Json.Object} (located : Located locateZone timezone zone)
    (holds : Holds conv c req schedule)
    (h : Trace (showNormalized conv locateZone method timezone schedule).run tr r)
    (served : Accepts (Serves conv zone c timezone subscriberId) shelf tr shelf') :
    shelf' = shelf ∧ ∃ out, r = .ok out ∧ Shows conv req out := by
  obtain ⟨tr1, tr2, t, rfl, h1, h2⟩ := trace_attempt_lift_bind.mp h
  obtain ⟨shelf1, served1, served2⟩ := accepts_append.mp served
  rw [trace_perform.mp h1] at served1
  obtain ⟨rfl, lo, hi, steady⟩ := served_clock served1
  obtain ⟨out, normalized, shows_⟩ := holds.read steady located
  rw [normalized] at h2
  obtain ⟨rfl, rfl⟩ := trace_attempt_pure.mp h2
  exact ⟨accepts_nil.mp served2, out, rfl, shows_⟩

/-- All schedules of a list are shown. -/
lemma served_showAllNormalized {book : Book} {stored : Shelf} {r : Except HandlerAnswer (List Json)}
    (located : Located locateZone timezone zone) (rep : Represents conv c book stored)
    (h : Trace (showAllNormalized conv locateZone method timezone (stored.map fun entry => .obj entry.2)).run tr r)
    (served : Accepts (Serves conv zone c timezone subscriberId) shelf tr shelf') :
    shelf' = shelf ∧ ∃ elements, r = .ok elements ∧
      List.Forall₂ (fun entry element => ∃ out, element = .obj out ∧ Shows conv entry.2 out) book elements := by
  induction rep generalizing shelf shelf' tr r with
  | nil =>
    obtain ⟨rfl, rfl⟩ := trace_attempt_pure.mp h
    exact ⟨accepts_nil.mp served, [], rfl, .nil⟩
  | @cons entry stored book shelf0 first _ ih =>
    rw [List.map_cons, showAllNormalized] at h
    rcases trace_attempt_bind.mp h with ⟨e, rfl, h1⟩ | ⟨tr1, tr2, shown, rfl, h1, h2⟩
    · obtain ⟨_, out, eq, _⟩ := served_showNormalized located first.2 h1 served
      cases eq
    · obtain ⟨shelf1, served1, served2⟩ := accepts_append.mp served
      obtain ⟨rfl, out, eq, shows_⟩ := served_showNormalized located first.2 h1 served1
      cases eq
      rcases trace_attempt_bind.mp h2 with ⟨e, rfl, h3⟩ | ⟨tr3, tr4, others, rfl, h3, h4⟩
      · obtain ⟨_, elements, eq, _⟩ := ih h3 served2
        cases eq
      · obtain ⟨shelf2, served3, served4⟩ := accepts_append.mp served2
        obtain ⟨rfl, elements, eq, all⟩ := ih h3 served3
        cases eq
        obtain ⟨rfl, rfl⟩ := trace_attempt_pure.mp h4
        exact ⟨accepts_nil.mp served4, _, rfl, .cons ⟨shown, rfl, shows_⟩ all⟩

end Steps

/-! ## One request -/

section Turn

variable {conv : Conversions} {locateZone : String → Option Zone} {zone : Zone} {c : Int}
  {bearerToken operatorId timezone : String} {request : RulesRequest} {book : Book} {shelf shelf' : Shelf}
  {tr : List Portal.Event} {sent : Sent}

/-- The request was answered, and the service keeps what the book has then. -/
def Refines (conv : Conversions) (c : Int) (request : RulesRequest) (book : Book) (handler : Handler) (sent : Sent)
    (shelf' : Shelf) : Prop :=
  ∃ book', Turns conv request book handler sent book' ∧ Represents conv c book' shelf'

/-- An error leaves the book as it is. -/
lemma Refines.failed {handler : Handler} {answer : HandlerAnswer} (rep : Represents conv c book shelf)
    (status : answer.status ≠ HTTPStatus.ok) :
    Refines conv c request book handler (.answer answer) shelf :=
  ⟨book, .failed status, rep⟩

/-- Where the time zone is not resolved, the request fails. -/
lemma Refines.unresolved {handler : Handler} {r : Except HandlerAnswer (List Sent)}
    (rep : Represents conv c book shelf)
    (failed : shelf' = shelf ∧ ∃ e, r = .error e ∧ e.status ≠ HTTPStatus.ok) (eq : [sent] = sentFor r) :
    Refines conv c request book handler sent shelf' := by
  obtain ⟨rfl, e, rfl, status⟩ := failed
  cases eq
  exact .failed rep status

/-- The object of a call is shown, or its error is forwarded. -/
lemma showCall_inv {method : String} {call : Portal CallResult} {r : Except HandlerAnswer (List Sent)}
    (h : Trace (showCall conv locateZone method timezone call).run tr r) :
    ∃ tr1 tr2 result, tr = tr1 ++ tr2 ∧ Trace call tr1 result ∧
      (result.success = false ∧ tr2 = [] ∧
          r = .error (forwardParentalControlErrorResponse result.status result.response) ∨
        result.success = true ∧ ∃ shown,
          Trace (showNormalized conv locateZone method timezone (result.response.getD [])).run tr2 shown ∧
          ∀ out, shown = .ok out → r = .ok [.answer (HandlerAnswer.returnObject out)]) := by
  obtain ⟨tr1, tr2, result, rfl, h1, h2⟩ := trace_attempt_lift_bind.mp h
  refine ⟨tr1, tr2, result, rfl, h1, ?_⟩
  split at h2
  case isTrue failed =>
    obtain ⟨rfl, rfl⟩ := trace_attempt_throw.mp h2
    exact .inl ⟨failed, rfl, rfl⟩
  case isFalse success =>
    refine .inr ⟨by simpa using success, ?_⟩
    rcases trace_attempt_bind.mp h2 with ⟨e, _, h3⟩ | ⟨tr3, tr4, shown, rfl, h3, h4⟩
    · exact ⟨.error e, h3, nofun⟩
    · obtain ⟨rfl, rfl⟩ := trace_attempt_pure.mp h4
      rw [List.append_nil]
      refine ⟨.ok shown, h3, fun out eq => ?_⟩
      cases eq
      rfl

/-- A schedule which was created is in the book. -/
lemma Represents.created {utc req : ParsedScheduleRequest} {body : Body} (rep : Represents conv c book shelf)
    (holds : ∀ schedule, Echoes (buildScheduleRequestBody utc) schedule → Holds conv c req schedule)
    (accepted : Accepted shelf (.createSchedule (buildScheduleRequestBody utc)) body shelf') :
    (∃ reply, body = .json (.obj reply) ∧ Holds conv c req reply) ∧
      ∃ id, id ∉ book.map Prod.fst ∧ Represents conv c (book ++ [(id, req)]) shelf' := by
  cases accepted with
  | @createSchedule _ schedule reply id fresh echoes replied =>
    refine ⟨⟨reply, rfl, holds reply replied⟩, id, ?_, rep.append (holds schedule echoes)⟩
    rw [rep.ids]
    exact fresh

/-- A schedule which was replaced is the one of the book. -/
lemma Represents.replaced {id : String} {utc req : ParsedScheduleRequest} {body : Body}
    (rep : Represents conv c book shelf)
    (holds : ∀ schedule, Echoes (buildScheduleRequestBody utc) schedule → Holds conv c req schedule)
    (accepted : Accepted shelf (.updateSchedule id (buildScheduleRequestBody utc)) body shelf') :
    Represents conv c (book.map fun entry => if entry.1 = id then (id, req) else entry) shelf' := by
  cases accepted with
  | updateSchedule echoes _ => exact rep.update (holds _ echoes)

/-- A schedule which was deleted is not in the book. -/
lemma Represents.deleted {id : String} {body : Body} (rep : Represents conv c book shelf)
    (accepted : Accepted shelf (.deleteSchedule id) body shelf') :
    Represents conv c (book.filter fun entry => entry.1 ≠ id) shelf' := by
  cases accepted with
  | deleteSchedule _ => exact rep.filter

section Handlers

variable (located : Located locateZone timezone zone) (rep : Represents conv c book shelf)
  (served : Accepts (Serves conv zone c timezone request.subscriberId) shelf tr shelf')

include located rep served

/-- A schedule which is added is put into the book as it was requested. -/
lemma addSchedule_refines {o : Json.Object} {req : ParsedScheduleRequest} (parsed : request.parsedBody = some o)
    (off : ReadOff conv o false req) (v : req.Validated conv)
    (h : Trace ((Work.createSchedule req).run conv locateZone bearerToken request.subscriberId operatorId) tr [sent]) :
    Refines conv c request book .addSchedule sent shelf' := by
  obtain ⟨r, h1, eq⟩ := trace_sends h
  rcases served_resolving h1 served with failed | ⟨rest, served1, h2⟩
  · exact .unresolved rep failed eq
  obtain ⟨utc, rest, holds, served2, h3⟩ := served_toUtc located v h2 served1
  obtain ⟨tr1, tr2, result, rfl, h4, shown⟩ := showCall_inv h3
  obtain ⟨answer, rfl, success, read⟩ := ParentalControl.executePostObject_inv h4
  obtain ⟨shelf1, served3, served4⟩ := accepts_append.mp served2
  have asked : Accepts (Serves conv zone c timezone request.subscriberId) shelf
      [⟨.call ((Question.createSchedule (buildScheduleRequestBody utc)).call request.subscriberId), answer⟩]
      shelf1 := served3
  rcases served_question asked with ⟨body, rfl, accepted⟩ | ⟨failed, kept⟩
  · obtain ⟨⟨reply, rfl, replied⟩, id, fresh, rep⟩ := rep.created holds accepted
    obtain ⟨status, response⟩ := Prod.mk.inj read
    rw [status, response] at success
    rcases shown with ⟨failed, _⟩ | ⟨_, shown, h5, returned⟩
    · rw [success] at failed
      cases failed
    · rw [response] at h5
      obtain ⟨rfl, out, rfl, shows_⟩ := served_showNormalized located replied h5 served4
      rw [returned out rfl] at eq
      cases eq
      exact ⟨_, .added parsed off fresh fun _ => ⟨out, rfl, shows_⟩, rep⟩
  · have status : result.status ≠ HTTPStatus.ok := by
      rw [show result.status = (OpenAPIRequest.strict none answer).1 from congrArg Prod.fst read]
      exact failed.strict
    rcases shown with ⟨_, rfl, rfl⟩ | ⟨ok, _⟩
    · obtain rfl := accepts_nil.mp served4
      cases eq
      have error : ¬ (Sent.answer (forwardParentalControlErrorResponse result.status result.response)).IsOk := by
        intro ok
        rw [Sent.IsOk, forwardParentalControlErrorResponse_status] at ok
        exact status ok
      rcases kept with rfl | ⟨body, accepted⟩
      · exact ⟨book, .failed error, rep⟩
      · obtain ⟨_, id, fresh, rep⟩ := rep.created holds accepted
        exact ⟨_, .added parsed off fresh fun ok => absurd ok error, rep⟩
    · rw [success, Bool.and_eq_true, decide_eq_true_eq] at ok
      exact absurd ok.1 status

/-- A schedule is shown as it is in the book. -/
lemma readSchedule_refines
    (h : Trace ((Work.showSchedule request.scheduleId).run conv locateZone bearerToken request.subscriberId
      operatorId) tr [sent]) :
    Refines conv c request book .readSchedule sent shelf' := by
  obtain ⟨r, h1, eq⟩ := trace_sends h
  rcases served_resolving h1 served with failed | ⟨rest, served1, h2⟩
  · exact .unresolved rep failed eq
  obtain ⟨tr1, tr2, result, rfl, h3, shown⟩ := showCall_inv h2
  obtain ⟨answer, rfl, success, read⟩ := ParentalControl.executeGetObject_inv h3
  obtain ⟨shelf1, served2, served3⟩ := accepts_append.mp served1
  have asked : Accepts (Serves conv zone c timezone request.subscriberId) shelf
      [⟨.call ((Question.getSchedule request.scheduleId).call request.subscriberId), answer⟩] shelf1 := served2
  rcases served_question asked with ⟨body, rfl, accepted⟩ | ⟨failed, kept⟩
  · cases accepted with
    | getSchedule mem =>
      obtain ⟨req, here, holds⟩ := rep.mem mem
      obtain ⟨status, response⟩ := Prod.mk.inj read
      rw [status, response] at success
      rcases shown with ⟨failed, _⟩ | ⟨_, shown, h4, returned⟩
      · rw [success] at failed
        cases failed
      · rw [response] at h4
        obtain ⟨rfl, out, rfl, shows_⟩ := served_showNormalized located holds h4 served3
        rw [returned out rfl] at eq
        cases eq
        exact ⟨book, .read here shows_, rep⟩
  · have same : shelf1 = shelf := by
      rcases kept with rfl | ⟨body, accepted⟩
      · rfl
      · cases accepted with
        | getSchedule => rfl
    have status : result.status ≠ HTTPStatus.ok := by
      rw [show result.status = (OpenAPIRequest.lenient none answer).1 from congrArg Prod.fst read]
      exact failed.lenient
    rcases shown with ⟨_, rfl, rfl⟩ | ⟨ok, _⟩
    · obtain rfl := accepts_nil.mp served3
      cases eq
      rw [same]
      refine .failed rep ?_
      rw [forwardParentalControlErrorResponse_status]
      exact status
    · rw [success, Bool.and_eq_true, decide_eq_true_eq] at ok
      exact absurd ok.1 status

/-- All schedules are shown as they are in the book. -/
lemma listSchedules_refines
    (h : Trace (Work.showSchedules.run conv locateZone bearerToken request.subscriberId operatorId) tr [sent]) :
    Refines conv c request book .listSchedules sent shelf' := by
  obtain ⟨r, h1, eq⟩ := trace_sends h
  rcases served_resolving h1 served with failed | ⟨rest, served1, h2⟩
  · exact .unresolved rep failed eq
  obtain ⟨tr1, tr2, ⟨result, arrayResponse⟩, rfl, h3, h4⟩ := trace_attempt_lift_bind.mp h2
  obtain ⟨answer, rfl, success, read⟩ := ParentalControl.executeGetArray_inv h3
  dsimp only at h4 success read
  obtain ⟨shelf1, served2, served3⟩ := accepts_append.mp served1
  have asked : Accepts (Serves conv zone c timezone request.subscriberId) shelf
      [⟨.call (Question.getSchedules.call request.subscriberId), answer⟩] shelf1 := served2
  rcases served_question asked with ⟨body, rfl, accepted⟩ | ⟨failed, kept⟩
  · cases accepted with
    | getSchedules =>
      obtain ⟨status, replied⟩ := Prod.mk.inj read
      obtain ⟨array, _⟩ := Prod.mk.inj replied
      rw [status, array] at success
      rw [if_neg (by rw [success]; exact nofun), array] at h4
      rcases trace_attempt_bind.mp h4 with ⟨e, rfl, h5⟩ | ⟨tr3, tr4, shown, rfl, h5, h6⟩
      · obtain ⟨_, _, absurd_, _⟩ := served_showAllNormalized located rep h5 served3
        cases absurd_
      · obtain ⟨shelf2, served4, served5⟩ := accepts_append.mp served3
        obtain ⟨rfl, elements, same, all⟩ := served_showAllNormalized located rep h5 served4
        cases same
        obtain ⟨rfl, rfl⟩ := trace_attempt_pure.mp h6
        obtain rfl := accepts_nil.mp served5
        cases eq
        exact ⟨book, .listed all, rep⟩
  · have same : shelf1 = shelf := by
      rcases kept with rfl | ⟨body, accepted⟩
      · rfl
      · cases accepted with
        | getSchedules => rfl
    have status : result.status ≠ HTTPStatus.ok := by
      rw [show result.status = (OpenAPIRequest.lenientArray none none answer).1 from congrArg Prod.fst read]
      exact failed.lenientArray
    have unsuccessful : result.success = false := by
      rw [success, Bool.and_eq_false_iff, decide_eq_false_iff_not]
      exact .inl status
    rw [if_pos unsuccessful] at h4
    obtain ⟨rfl, rfl⟩ := trace_attempt_throw.mp h4
    obtain rfl := accepts_nil.mp served3
    cases eq
    rw [same]
    refine .failed rep ?_
    rw [forwardParentalControlErrorResponse_status]
    exact status

end Handlers

/-! ### Changes -/

/-- The call of a change asks the service a question: it fails where it is not answered with 200, and where the
service has accepted it, it succeeds and has the object it was answered. -/
def Mutation.AsksFor (subscriberId : String) (m : Mutation) (q : Question) : Prop :=
  ∀ tr r, Trace (m.call subscriberId) tr r → ∃ answer, tr = [⟨.call (q.call subscriberId), answer⟩] ∧
    (NotOk answer → r.success = false ∧ r.status ≠ HTTPStatus.ok) ∧
    ∀ body, answer = some ⟨HTTPStatus.ok, body⟩ →
      (∀ shelf shelf', Accepted shelf q body shelf' → r.success = true) ∧
        ∀ reply, body = .json (.obj reply) → r.response = some reply

/-- A schedule is replaced by one question. -/
lemma asksFor_update {subscriberId id : String} {body : Json.Object} :
    (Mutation.updateSchedule id body timezone).AsksFor subscriberId (.updateSchedule id body) := by
  intro tr r h
  obtain ⟨answer, rfl, success, read⟩ := ParentalControl.executePutObject_inv h
  refine ⟨answer, rfl, fun failed => ?_, fun reply answered => ⟨fun shelf shelf' accepted => ?_, fun o eq => ?_⟩⟩
  · have status : r.status ≠ HTTPStatus.ok := by
      rw [show r.status = (OpenAPIRequest.strict none answer).1 from congrArg Prod.fst read]
      exact failed.strict
    rw [success, Bool.and_eq_false_iff, decide_eq_false_iff_not]
    exact ⟨.inl status, status⟩
  · cases accepted with
    | updateSchedule _ _ =>
      subst answered
      obtain ⟨status, response⟩ := Prod.mk.inj read
      rw [success, status, response]
      rfl
  · subst answered eq
    exact congrArg Prod.snd read

/-- A schedule is deleted by one question. -/
lemma asksFor_delete {subscriberId id : String} :
    (Mutation.deleteSchedule id).AsksFor subscriberId (.deleteSchedule id) := by
  intro tr r h
  obtain ⟨answer, rfl, success, read⟩ := ParentalControl.executeDelete_inv h
  refine ⟨answer, rfl, fun failed => ?_, fun reply answered => ⟨fun shelf shelf' accepted => ?_, fun o eq => ?_⟩⟩
  · have status : r.status ≠ HTTPStatus.ok := by
      rw [show r.status = (OpenAPIRequest.lenient none answer).1 from congrArg Prod.fst read]
      exact failed.lenient
    rw [success, Bool.and_eq_false_iff, decide_eq_false_iff_not]
    exact ⟨.inl status, status⟩
  · cases accepted with
    | deleteSchedule readable =>
      subst answered
      obtain ⟨status, response⟩ := Prod.mk.inj read
      rw [success, status, response]
      rcases readable with empty | object
      · simp [ParentalControl.emptyOrObject, empty]
      · simp [ParentalControl.emptyOrObject, object]
  · subst answered eq
    exact congrArg Prod.snd read

/-- Where a change is answered with 200, this is the answer to its response. -/
lemma handleParentalControlMutationResult_ok {mutation : CallResult} {configRawRequired : Bool}
    {successResponse : MutationSuccessResponse} {method subscriberId normalizeTimezone : String}
    {answer : HandlerAnswer}
    (h : Trace (handleParentalControlMutationResult conv locateZone method bearerToken mutation subscriberId
      operatorId configRawRequired successResponse normalizeTimezone) tr [answer])
    (success : mutation.success = true) (ok : answer.status = HTTPStatus.ok) :
    ∃ tr1 tr2, tr = tr1 ++ tr2 ∧
      Trace (answerMutation conv locateZone method mutation.response successResponse normalizeTimezone) tr2
        [answer] := by
  rw [handleParentalControlMutationResult, if_neg (by rw [success]; decide)] at h
  obtain ⟨tr1, tr2, r, rfl, h1, h2⟩ := trace_bind.mp h
  rcases applyConfigRawFromMutationResponse_inv h1 with ⟨rfl, _⟩ | ⟨error, rfl, failed⟩
  · dsimp only at h2
    rw [if_neg (by decide)] at h2
    obtain ⟨tr3, tr4, answers, rfl, h3, h4⟩ := trace_bind.mp h2
    obtain ⟨rfl, one⟩ := trace_pure.mp h4
    rw [List.nil_append] at one
    rw [← one] at h3
    exact ⟨tr1, tr3, by rw [List.append_nil], h3⟩
  · dsimp only at h2
    rw [if_pos rfl] at h2
    obtain ⟨_, one⟩ := trace_pure.mp h2
    cases one
    rw [ok] at failed
    exact absurd (by decide) failed

/-- What an answer with 200 to a change is: the answer to the response which its call was given. -/
def AnsweredBy (conv : Conversions) (locateZone : String → Option Zone) (zone : Zone) (c : Int)
    (timezone subscriberId : String) (m : Mutation) (body : Body) (shelf' : Shelf) (answer : HandlerAnswer) : Prop :=
  ∃ response shelf tr, Trace (answerMutation conv locateZone m.method response m.successResponse m.normalizeTimezone) tr
      [answer] ∧
    Accepts (Serves conv zone c timezone subscriberId) shelf tr shelf' ∧
    ∀ reply, body = .json (.obj reply) → response = some reply

/-- The service has accepted a change, or the answer is an error. -/
lemma served_handle {subscriberId : String} {m : Mutation} {q : Question} {answers : List HandlerAnswer}
    (asks : m.AsksFor subscriberId q)
    (h : Trace (m.handle conv locateZone bearerToken subscriberId operatorId) tr answers)
    (served : Accepts (Serves conv zone c timezone subscriberId) shelf tr shelf') :
    ∃ answer, answers = [answer] ∧
      ((∃ body, Accepted shelf q body shelf' ∧ (answer.status = HTTPStatus.ok →
          AnsweredBy conv locateZone zone c timezone subscriberId m body shelf' answer)) ∨
        shelf' = shelf ∧ answer.status ≠ HTTPStatus.ok) := by
  obtain ⟨answer, one⟩ := Mutation.handle_one h
  refine ⟨answer, one, ?_⟩
  rw [one] at h
  obtain ⟨tr1, tr2, r, rfl, h1, h2⟩ := trace_bind.mp h
  obtain ⟨reply, rfl, failing, replied⟩ := asks tr1 r h1
  obtain ⟨shelf1, served1, served2⟩ := accepts_append.mp served
  have quiet := served_quiet served2
    (GroupDevicesListV2.handleParentalControlMutationResult_elsewhere _ _ _ _ _ _ _ _ _ _ h2)
  have error : NotOk reply → answer.status ≠ HTTPStatus.ok := by
    intro failed
    obtain ⟨success, status⟩ := failing failed
    rw [handleParentalControlMutationResult, if_pos success] at h2
    obtain ⟨_, eq⟩ := trace_pure.mp h2
    cases eq
    rw [forwardParentalControlErrorResponse_status]
    exact status
  rw [quiet]
  rcases served_question served1 with ⟨body, rfl, accepted⟩ | ⟨failed, rfl | ⟨body, accepted⟩⟩
  · refine .inl ⟨body, accepted, fun ok => ?_⟩
    obtain ⟨success, response⟩ := replied body rfl
    obtain ⟨tr3, tr4, rfl, h3⟩ := handleParentalControlMutationResult_ok h2 (success _ _ accepted) ok
    obtain ⟨shelf2, _, served3⟩ := accepts_append.mp served2
    rw [quiet] at served3
    exact ⟨r.response, shelf2, tr4, h3, served3, response⟩
  · exact .inr ⟨rfl, error failed⟩
  · exact .inl ⟨body, accepted, fun ok => absurd ok (error failed)⟩

/-- A schedule which was replaced is shown as it was requested. -/
lemma served_answerMutation {method subscriberId : String} {req : ParsedScheduleRequest} {reply : Json.Object}
    {answer : HandlerAnswer} (located : Located locateZone timezone zone) (holds : Holds conv c req reply)
    (ok : answer.status = HTTPStatus.ok)
    (h : Trace (answerMutation conv locateZone method (some reply) .returnNormalizedScheduleObject timezone) tr
      [answer])
    (served : Accepts (Serves conv zone c timezone subscriberId) shelf tr shelf') :
    ∃ out, Sent.answer answer = .answer (HandlerAnswer.returnObject out) ∧ Shows conv req out := by
  obtain ⟨t, rest, rfl, h1⟩ := trace_perform_bind.mp h
  obtain ⟨shelf1, served1, served2⟩ := accepts_append.mp
    (show Accepts (Serves conv zone c timezone subscriberId) shelf ([⟨.now, t⟩] ++ rest) shelf' from served)
  obtain ⟨_, lo, hi, steady⟩ := served_clock served1
  obtain ⟨out, normalized, shows_⟩ := holds.read steady located
  rw [normalized] at h1
  obtain ⟨_, one⟩ := trace_pure.mp h1
  cases one
  exact ⟨out, rfl, shows_⟩

/-- A schedule is replaced in the book by what was requested. -/
lemma replaceSchedule_refines {o : Json.Object} {req : ParsedScheduleRequest}
    (located : Located locateZone timezone zone) (rep : Represents conv c book shelf)
    (served : Accepts (Serves conv zone c timezone request.subscriberId) shelf tr shelf')
    (parsed : request.parsedBody = some o) (off : ReadOff conv o true req) (v : req.Validated conv)
    (h : Trace ((Work.updateSchedule request.scheduleId req).run conv locateZone bearerToken request.subscriberId
      operatorId) tr [sent]) :
    Refines conv c request book .replaceSchedule sent shelf' := by
  obtain ⟨r, h1, eq⟩ := trace_sends h
  rcases served_resolving h1 served with failed | ⟨rest, served1, h2⟩
  · exact .unresolved rep failed eq
  obtain ⟨utc, rest, holds, served2, h3⟩ := served_toUtc located v h2 served1
  obtain ⟨tr1, tr2, answers, rfl, h4, h5⟩ := trace_attempt_lift_bind.mp h3
  obtain ⟨rfl, rfl⟩ := trace_attempt_pure.mp h5
  rw [List.append_nil] at served2
  obtain ⟨answer, rfl, accepted | ⟨rfl, status⟩⟩ := served_handle asksFor_update h4 served2
  · obtain ⟨body, accepted, answered⟩ := accepted
    refine ⟨_, .replaced parsed off fun ok => ?_, rep.replaced holds accepted⟩
    cases eq
    cases accepted with
    | @updateSchedule _ _ schedule reply _ echoes =>
      obtain ⟨response, shelf1, tr1, h6, served3, same⟩ := answered ok
      rw [same reply rfl] at h6
      exact served_answerMutation located (holds reply echoes) ok h6 served3
  · cases eq
    exact .failed rep status

/-- A schedule is removed from the book. -/
lemma removeSchedule_refines (rep : Represents conv c book shelf)
    (served : Accepts (Serves conv zone c timezone request.subscriberId) shelf tr shelf')
    (h : Trace ((Work.change (.mutation (.deleteSchedule request.scheduleId))).run conv locateZone bearerToken
      request.subscriberId operatorId) tr [sent]) :
    Refines conv c request book .removeSchedule sent shelf' := by
  obtain ⟨tr1, tr2, answers, rfl, h1, h2⟩ := trace_bind.mp h
  obtain ⟨rfl, eq⟩ := trace_pure.mp h2
  rw [List.append_nil] at served
  obtain ⟨answer, rfl, accepted | ⟨rfl, status⟩⟩ := served_handle asksFor_delete h1 served
  · obtain ⟨body, accepted, answered⟩ := accepted
    refine ⟨_, .removed fun ok => ?_, rep.deleted accepted⟩
    cases eq
    obtain ⟨response, shelf1, tr1, h3, _⟩ := answered ok
    obtain ⟨_, same⟩ := trace_pure.mp h3
    cases same
    rfl
  · cases eq
    exact .failed rep status

end Turn

/-! ## Runs -/

section Runs

variable {conv : Conversions} {locateZone : String → Option Zone} {zone : Zone} {c : Int}
  {bearerToken timezone : String} {book : Book} {shelf shelf' : Shelf} {tr : List Portal.Event}

/-- What was parsed is valid. -/
lemma ReadOff.validated {o : Json.Object} {required : Bool} {req : ParsedScheduleRequest}
    (off : ReadOff conv o required req) : req.Validated conv :=
  parseAndValidateScheduleRequest_validated (parseAndValidateScheduleRequest_ok_iff.mpr off)

/-- One request turns the book. -/
lemma handler_refines {handler : Handler} {request : RulesRequest} {sent : Sent}
    (located : Located locateZone timezone zone) (rep : Represents conv c book shelf)
    (known : handler ∈ scheduleHandlers) (h : Trace (handler.run conv locateZone bearerToken request) tr [sent])
    (served : Accepts (Serves conv zone c timezone request.subscriberId) shelf tr shelf') :
    Refines conv c request book handler sent shelf' := by
  have judged : Judges (handler.check conv request) _ := handler.judges
  rw [Handler.run] at h
  cases checked : handler.check conv request with
  | error answer =>
    rw [checked] at h
    obtain ⟨rfl, eq⟩ := trace_pure.mp h
    cases eq
    obtain rfl := accepts_nil.mp served
    refine .failed rep ?_
    intro ok
    rcases judged.refused answer checked with status | status
    · exact absurd (status.symm.trans ok) (by decide)
    · exact absurd (status.symm.trans ok) (by decide)
  | ok work =>
    rw [checked] at h
    have passes := (judged.passes work).mp checked
    simp only [scheduleHandlers, List.mem_cons, List.not_mem_nil, or_false] at known
    rcases known with rfl | rfl | rfl | rfl | rfl
    · cases passes with
      | listSchedules => exact listSchedules_refines located rep served h
    · cases passes with
      | addSchedule _ parsed off => exact addSchedule_refines located rep served parsed off off.validated h
    · cases passes with
      | readSchedule => exact readSchedule_refines located rep served h
    · cases passes with
      | replaceSchedule _ _ parsed off =>
        exact replaceSchedule_refines located rep served parsed off off.validated h
    · cases passes with
      | removeSchedule => exact removeSchedule_refines rep served h

end Runs

/-- Over any run of requests about schedules, the portal and a service which keeps what it is sent are a book of
requests in local time: every answer which is no error has changed the book, or shows it, as was requested, and
what the service keeps in the end is the book in the end. -/
theorem schedules_refine {conv : Conversions} {locateZone : String → Option Zone} {zone : Zone} {c : Int}
    {bearerToken timezone subscriberId : String} {requests : List (Handler × RulesRequest)} {book : Book}
    {shelf shelf' : Shelf} {tr : List Portal.Event} {sents : List Sent}
    (located : Located locateZone timezone zone) (rep : Represents conv c book shelf)
    (visits : Visits (Answers conv locateZone bearerToken subscriberId) requests tr sents)
    (served : Accepts (Serves conv zone c timezone subscriberId) shelf tr shelf') :
    ∃ book', SpecRuns (turn conv) book requests sents book' ∧ Represents conv c book' shelf' := by
  refine Simulates.run (fun request tr sent book shelf shelf' rep answers served => ?_) rep visits served
  obtain ⟨known, rfl, h⟩ := answers
  exact handler_refines located rep known h served

/-! ### A schedule which is added, replaced and listed -/

namespace OneSchedule

/-- The zone of the venue is two hours ahead of UTC. -/
def zones : String → Option Zone := fun _ => some (.fixed 7200)

/-- A schedule from 22:00 on Mondays, until this time. -/
def body (stopTime : String) : Json.Object :=
  [("name", .str "Night"), ("action_type", .str "BLOCK"), ("target_kind", .str "INTERNET"),
    ("start_time", .str "22:00"), ("stop_time", .str stopTime), ("weekdays", .arr [.int 1]), ("enabled", .bool true)]

/-- The schedule is added until 06:00. -/
def addition : RulesRequest where
  subscriberId := "s"
  parsedBody := some (body "06:00")

/-- It is replaced by one until 07:00. -/
def replacement : RulesRequest where
  subscriberId := "s"
  scheduleId := "a-1"
  parsedBody := some (body "07:00")

/-- The schedule in UTC. -/
def stored (stopMinute : Int) : Json.Object :=
  buildScheduleRequestBody ⟨"Night", none, true, .internet false, 1200, stopMinute, [.int 1]⟩

def shown (stopMinute : Int) : Json.Object :=
  (normalizeScheduleResponse .strict zones 0 "Europe/Kyiv" (stored stopMinute)).2

def resolving : List Portal.Event :=
  [⟨.call (Prov.getVenuesCall "s"),
      some ⟨HTTPStatus.ok, .json (.obj [("venues", .arr [.obj [("id", .str "v"), ("location", .str "l")]])])⟩⟩,
    ⟨.call (Prov.getLocationCall "l"),
      some ⟨HTTPStatus.ok, .json (.obj [("timezone", .str "Europe/Kyiv")])⟩⟩]

/-- A schedule is sent, and answered as it is kept. -/
def sending (q : Question) (stopMinute : Int) : List Portal.Event :=
  resolving ++
    [⟨.now, 0⟩, ⟨.call (q.call "s"), some ⟨HTTPStatus.ok, .json (.obj (stored stopMinute))⟩⟩, ⟨.now, 0⟩]

def adding : List Portal.Event := sending (.createSchedule (stored 240)) 240

def replacing : List Portal.Event := sending (.updateSchedule "a-1" (stored 300)) 300

def listing : List Portal.Event :=
  resolving ++
    [⟨.call (Question.getSchedules.call "s"), some ⟨HTTPStatus.ok, .json (.arr [.obj (stored 300)])⟩⟩, ⟨.now, 0⟩]

/-- The venue of the subscriber is in the time zone. -/
lemma resolving_served (shelf : Shelf) :
    Accepts (Serves .strict (.fixed 7200) 120 "Europe/Kyiv" "s") shelf resolving shelf := by
  refine .cons (.elsewhere nofun ?_) (.cons (.elsewhere nofun ?_) (.nil shelf))
  · intro id location eq
    have asked : [("subscriberId", "s")] = ([] : List (String × String)) := congrArg Call.queryData eq
    cases asked
  · intro id location _ found
    cases found
    rfl

/-- The zone has one offset for ever. -/
lemma clock_served (shelf : Shelf) :
    Serves .strict (.fixed 7200) 120 "Europe/Kyiv" "s" shelf ⟨.now, 0⟩ shelf :=
  .clock ⟨-864000, 864000, Overnight.steady⟩

/-- What is sent is accepted. -/
lemma sending_served {q : Question} {stopMinute : Int} {shelf shelf' : Shelf}
    (accepted : Accepted shelf q (.json (.obj (stored stopMinute))) shelf') :
    Accepts (Serves .strict (.fixed 7200) 120 "Europe/Kyiv" "s") shelf (sending q stopMinute) shelf' :=
  accepts_append.mpr ⟨shelf, resolving_served shelf,
    .cons (clock_served shelf) (.cons (.accepts accepted) (.cons (clock_served shelf') (.nil shelf')))⟩

/-- The book has the schedule as it was requested last. -/
theorem replaced_listed :
    ∃ book', SpecRuns (turn .strict) []
        [(.addSchedule, addition), (.replaceSchedule, replacement), (.listSchedules, addition)]
        [.answer (HandlerAnswer.returnObject (shown 240)), .answer (HandlerAnswer.returnObject (shown 300)),
          .rawJSON [.obj (shown 300)]] book' ∧
      Represents .strict 120 book' [("a-1", stored 300)] := by
  have added : Trace (Handler.addSchedule.run .strict zones "t" addition) adding
      [.answer (HandlerAnswer.returnObject (shown 240))] := trace_iff_replay.mpr (by decide +kernel)
  have replaced : Trace (Handler.replaceSchedule.run .strict zones "t" replacement) replacing
      [.answer (HandlerAnswer.returnObject (shown 300))] := trace_iff_replay.mpr (by decide +kernel)
  have listed : Trace (Handler.listSchedules.run .strict zones "t" addition) listing
      [.rawJSON [.obj (shown 300)]] := trace_iff_replay.mpr (by decide +kernel)
  have visits : Visits (Answers .strict zones "t" "s")
      [(.addSchedule, addition), (.replaceSchedule, replacement), (.listSchedules, addition)]
      (adding ++ (replacing ++ (listing ++ [])))
      [.answer (HandlerAnswer.returnObject (shown 240)), .answer (HandlerAnswer.returnObject (shown 300)),
        .rawJSON [.obj (shown 300)]] :=
    .cons ⟨by decide, rfl, added⟩ (.cons ⟨by decide, rfl, replaced⟩ (.cons ⟨by decide, rfl, listed⟩ .nil))
  have created : Accepts (Serves .strict (.fixed 7200) 120 "Europe/Kyiv" "s") [] adding [("a-1", stored 240)] :=
    sending_served (.createSchedule nofun (fun _ _ h => h) fun _ _ h => h)
  have updated : Accepts (Serves .strict (.fixed 7200) 120 "Europe/Kyiv" "s") [("a-1", stored 240)] replacing
      [("a-1", stored 300)] :=
    sending_served (.updateSchedule (fun _ _ h => h) fun _ _ h => h)
  have read : Accepts (Serves .strict (.fixed 7200) 120 "Europe/Kyiv" "s") [("a-1", stored 300)] listing
      [("a-1", stored 300)] :=
    accepts_append.mpr ⟨_, resolving_served _, .cons (.accepts .getSchedules) (.cons (clock_served _) (.nil _))⟩
  exact schedules_refine ⟨by decide, rfl⟩ .nil visits
    (accepts_append.mpr ⟨_, created, accepts_append.mpr ⟨_, updated, accepts_append.mpr ⟨_, read, .nil _⟩⟩⟩)

end OneSchedule

end UserPortal.RestApi.ParentalControl

import UserPortal.Interaction.Interleaving
import UserPortal.RestApi.LocationDeletion
import UserPortal.RestApi.OwedLocations

/-!
# Concurrent requests about the location of a subscriber

Any number of requests to create or to delete the location of one subscriber, whose messages to the
provisioning service interleave. `locations_consistent`: where no other request changes the venue between
the reading of a request and a change of it, the venue names the one location which exists at the end.

`Owes`: a request which has cleared the venue of a location which still exists.
-/

namespace UserPortal.RestApi.SubscriberLocation
open Interaction Program Calendar Sdk

/-- A request about the location. -/
inductive LocationRequest where
  | post (parsedBody : Option Json.Object)
  | delete

/-- What a request does. -/
def LocationRequest.handle (conv : Conversions) (locateZone : String → Option Zone)
    (user : Security.UserInfoAndPolicy) : LocationRequest → Portal HandlerAnswer
  | post parsedBody => doPost conv locateZone user parsedBody
  | delete => doDelete conv user

/-- An event changes the location of the venue. -/
def Writes (x : Prov.Execution) (venueId : String) (e : Portal.Event) : Prop :=
  x.executed e = true ∧ ∃ change, Prov.locationChange venueId e = some change ∧ ∀ l, change ≠ .delete l

section Concurrent

variable (x : Prov.Execution) (conv : Conversions) (locateZone : String → Option Zone)
  (subscriberId venueId : String) {ι : Type} [DecidableEq ι]

/-- An interleaving of requests of one subscriber which have all been answered. -/
structure LocationRun (users : ι → Security.UserInfoAndPolicy) (requests : ι → LocationRequest) where
  subscriber : ∀ i, (users i).userinfo.id = subscriberId
  start : Prov.LocationStore
  finish : Prov.LocationStore
  sched : Schedule ι Portal.Op Portal.Op.Answer
  answers : ι → HandlerAnswer
  interleaving : Interleaving (Prov.KeepsLocations x conv subscriberId venueId)
    (fun i => (requests i).handle conv locateZone (users i)) start sched (fun i => .ret (answers i)) finish

/-- A request owes a location to the venue: it has cleared the venue of it and not deleted it. -/
inductive Owes : List Portal.Event → String → Prop where
  | cleared {listing clear : Option Reply} {location : String} {venues : List Prov.Venue} :
    Prov.venuesIn conv listing = some ({ id := venueId, location := location } :: venues) →
    Prov.putSucceeds clear = true →
    Owes [listEvent subscriberId listing, putEvent venueId (Prov.setLocationBody "") clear] location
  | kept {listing clear delete : Option Reply} {location : String} {venues : List Prov.Venue} :
    Prov.venuesIn conv listing = some ({ id := venueId, location := location } :: venues) →
    Prov.putSucceeds clear = true →
    x.executed (deleteEvent location delete) = false →
    Owes [listEvent subscriberId listing, putEvent venueId (Prov.setLocationBody "") clear,
      deleteEvent location delete] location

/-- What a request asks next, after the events which it has asked. -/
inductive Asking : List Portal.Event → Portal.Event → Prop where
  | list (listing : Option Reply) :
    Asking [] (listEvent subscriberId listing)
  | create {listing create : Option Reply} {venue : Prov.Venue} {venues : List Prov.Venue}
    {body : Json.Object} :
    Prov.venuesIn conv listing = some (venue :: venues) →
    venue.location = "" →
    Asking [listEvent subscriberId listing] (putEvent venue.id (Prov.createLocationBody body) create)
  | clear {listing clear : Option Reply} {venue : Prov.Venue} {venues : List Prov.Venue} :
    Prov.venuesIn conv listing = some (venue :: venues) →
    venue.location ≠ "" →
    Asking [listEvent subscriberId listing] (putEvent venue.id (Prov.setLocationBody "") clear)
  | delete {listing clear delete : Option Reply} {venue : Prov.Venue} {venues : List Prov.Venue} :
    Prov.venuesIn conv listing = some (venue :: venues) →
    venue.location ≠ "" →
    Prov.putSucceeds clear = true →
    Asking [listEvent subscriberId listing, putEvent venue.id (Prov.setLocationBody "") clear]
      (deleteEvent venue.location delete)
  | restore {listing clear delete restore : Option Reply} {venue : Prov.Venue}
    {venues : List Prov.Venue} :
    Prov.venuesIn conv listing = some (venue :: venues) →
    venue.location ≠ "" →
    Prov.putSucceeds clear = true →
    Prov.deleteSucceeds delete = false →
    Asking [listEvent subscriberId listing, putEvent venue.id (Prov.setLocationBody "") clear,
        deleteEvent venue.location delete]
      (putEvent venue.id (Prov.setLocationBody venue.location) restore)

variable {x conv locateZone subscriberId venueId} {users : ι → Security.UserInfoAndPolicy}
  {requests : ι → LocationRequest} {tr pre post : List Portal.Event} {e : Portal.Event}
  {s s' : Prov.LocationStore}

/-- Events which do not change the venue leave its location. -/
lemma location_eq_of_quiet (h : Accepts (Prov.KeepsLocations x conv subscriberId venueId) s tr s')
    (quiet : ∀ e ∈ tr, ¬ Writes x venueId e) : s'.location = s.location := by
  induction h with
  | nil => rfl
  | @cons s s1 s' e tr st _ ih =>
    rw [ih fun e he => quiet e (List.mem_cons_of_mem _ he)]
    cases executed : x.executed e with
    | false => rw [st.eq executed]
    | true =>
      cases asks : Prov.locationChange venueId e with
      | none => rw [st.eq_of_none asks]
      | some change =>
        have effect := st.apply asks executed
        cases change with
        | set l => exact absurd ⟨executed, _, asks, nofun⟩ (quiet e (List.mem_cons_self ..))
        | create => exact absurd ⟨executed, _, asks, nofun⟩ (quiet e (List.mem_cons_self ..))
        | delete l => rw [show s1 = _ from effect]

/-- Where a request which creates a location is. -/
lemma Creates.asking {r : Except HandlerAnswer Unit} (h : Creates conv subscriberId (pre ++ e :: post) r) :
    Asking conv subscriberId pre e := by
  generalize eq : pre ++ e :: post = all at h
  cases h with
  | refused => simp at eq
  | stopped listing err =>
    obtain ⟨rfl, eq⟩ := List.append_eq_singleton_iff.mp eq |>.resolve_right (by simp)
    cases eq
    exact .list listing
  | asked listed empty =>
    match pre, eq with
    | [], eq =>
      cases eq
      exact .list _
    | [_], eq =>
      cases eq
      exact .create listed empty
    | _ :: _ :: _, eq => simp at eq

/-- Where a request which deletes a location is. -/
lemma Deletes.asking {r : Except HandlerAnswer Unit} (h : Deletes conv subscriberId (pre ++ e :: post) r) :
    Asking conv subscriberId pre e := by
  generalize eq : pre ++ e :: post = all at h
  cases h with
  | refused => simp at eq
  | stopped listing err =>
    obtain ⟨rfl, eq⟩ := List.append_eq_singleton_iff.mp eq |>.resolve_right (by simp)
    cases eq
    exact .list listing
  | notCleared listed used failed =>
    match pre, eq with
    | [], eq =>
      cases eq
      exact .list _
    | [_], eq =>
      cases eq
      exact .clear listed used
    | _ :: _ :: _, eq => simp at eq
  | deleted listed used cleared gone =>
    match pre, eq with
    | [], eq =>
      cases eq
      exact .list _
    | [_], eq =>
      cases eq
      exact .clear listed used
    | [_, _], eq =>
      cases eq
      exact .delete listed used cleared
    | _ :: _ :: _ :: _, eq => simp at eq
  | restored listed used cleared failed =>
    match pre, eq with
    | [], eq =>
      cases eq
      exact .list _
    | [_], eq =>
      cases eq
      exact .clear listed used
    | [_, _], eq =>
      cases eq
      exact .delete listed used cleared
    | [_, _, _], eq =>
      cases eq
      exact .restore listed used cleared failed
    | _ :: _ :: _ :: _ :: _, eq => simp at eq

/-- The body and the reply of a request. -/
def exchanged : Portal.Event → Json.Object × Option Reply
  | ⟨.call c, answer⟩ => (c.body, answer)
  | ⟨.now, _⟩ => ([], none)

/-- What owes a location has listed it, and has cleared the venue. -/
lemma Owes.exchanged_eq {location : String} (owes : Owes x conv subscriberId venueId tr location) :
    ∃ listing clear venues,
      Prov.venuesIn conv listing = some ({ id := venueId, location := location } :: venues) ∧
      Prov.putSucceeds clear = true ∧
      (tr.map exchanged = [([], listing), (Prov.setLocationBody "", clear)] ∨
        ∃ delete, x.executed (deleteEvent location delete) = false ∧
          tr.map exchanged = [([], listing), (Prov.setLocationBody "", clear), ([], delete)]) := by
  cases owes with
  | cleared listed succeeds => exact ⟨_, _, _, listed, succeeds, .inl rfl⟩
  | kept listed succeeds executed => exact ⟨_, _, _, listed, succeeds, .inr ⟨_, executed, rfl⟩⟩

/-- A request which owes a location has asked two or three events. -/
lemma Owes.length {location : String} (owes : Owes x conv subscriberId venueId tr location) :
    tr.length = 2 ∨ tr.length = 3 := by
  cases owes with
  | cleared => exact .inl rfl
  | kept => exact .inr rfl

/-- The location which is owed is the one which the venue had. -/
lemma Owes.location_eq {location : String} {listing : Option Reply} {venue : Prov.Venue}
    {venues : List Prov.Venue}
    (owes : Owes x conv subscriberId venueId (listEvent subscriberId listing :: tr) location)
    (listed : Prov.venuesIn conv listing = some (venue :: venues)) : location = venue.location := by
  obtain ⟨listing', clear, venues', listed', _, eq | ⟨delete, _, eq⟩⟩ := owes.exchanged_eq
  · have same : listing = listing' := congrArg (fun l => (l.head?.map Prod.snd).join) eq
    rw [← same, listed] at listed'
    cases listed'
    rfl
  · have same : listing = listing' := congrArg (fun l => (l.head?.map Prod.snd).join) eq
    rw [← same, listed] at listed'
    cases listed'
    rfl

/-- A creation owes no location. -/
lemma Creates.not_owes {r : Except HandlerAnswer Unit} {location : String}
    (h : Creates conv subscriberId tr r) : ¬ Owes x conv subscriberId venueId tr location := by
  intro owes
  obtain ⟨listing, clear, _, _, _, eq | ⟨delete, _, eq⟩⟩ := owes.exchanged_eq
  · cases h with
    | refused => cases eq
    | stopped => cases eq
    | asked =>
      have bodies := congrArg (List.map Prod.fst) eq
      simp [exchanged, Prov.putVenueCall, Prov.createLocationBody, Prov.setLocationBody] at bodies
  · cases h with
    | refused => cases eq
    | stopped => cases eq
    | asked =>
      have lengths := congrArg List.length eq
      cases lengths

/-- A deletion which has ended owes none. -/
lemma Deletes.not_owes {r : Except HandlerAnswer Unit} {location : String}
    (h : Deletes conv subscriberId tr r) : ¬ Owes x conv subscriberId venueId tr location := by
  intro owes
  obtain ⟨listing, clear, _, _, succeeds, eq | ⟨delete, executed, eq⟩⟩ := owes.exchanged_eq
  · have replies := congrArg (List.map Prod.snd) eq
    cases h with
    | refused => cases eq
    | stopped => cases eq
    | notCleared _ _ failed =>
      cases replies
      rw [succeeds] at failed
      cases failed
    | deleted => cases congrArg List.length eq
    | restored => cases congrArg List.length eq
  · have replies := congrArg (List.map Prod.snd) eq
    cases h with
    | refused => cases eq
    | stopped => cases eq
    | notCleared => cases congrArg List.length eq
    | deleted _ _ _ gone =>
      cases replies
      rw [Prov.executed_of_deleteSucceeds gone] at executed
      cases executed
    | restored => cases congrArg List.length eq

/-- A request owes at most the location which it has read. -/
lemma owes_eq {location : String} {listing : Option Reply} {venues : List Prov.Venue}
    (listed : Prov.venuesIn conv listing = some ({ id := venueId, location := location } :: venues))
    (owes : Owes x conv subscriberId venueId (listEvent subscriberId listing :: tr) location) :
    Owes x conv subscriberId venueId (listEvent subscriberId listing :: tr) = (· = location) := by
  funext l
  refine propext ⟨fun other => other.location_eq listed, ?_⟩
  rintro rfl
  exact owes

/-- Where nothing is owed. -/
lemma owes_none (none : ∀ l, ¬ Owes x conv subscriberId venueId tr l) :
    Owes x conv subscriberId venueId tr = fun _ => False := by
  funext l
  exact propext ⟨none l, False.elim⟩

/-- Before the venue is cleared, and after a location is restored, nothing is owed. -/
lemma owes_of_length (two : tr.length ≠ 2) (three : tr.length ≠ 3) :
    Owes x conv subscriberId venueId tr = fun _ => False := by
  refine owes_none fun l owes => ?_
  rcases owes.length with eq | eq
  · exact two eq
  · exact three eq

section Exchanges

variable {location : String} {listing clear delete : Option Reply} {venues : List Prov.Venue}

/-- Nothing is owed at first. -/
lemma owes_nil : Owes x conv subscriberId venueId [] = fun _ => False := owes_of_length nofun nofun

/-- A list owes nothing. -/
lemma owes_list :
    Owes x conv subscriberId venueId [listEvent subscriberId listing] = fun _ => False :=
  owes_of_length nofun nofun

/-- Nor does a creation. -/
lemma owes_create {create : Option Reply} {body : Json.Object} :
    Owes x conv subscriberId venueId [listEvent subscriberId listing,
      putEvent venueId (Prov.createLocationBody body) create] = fun _ => False := by
  refine owes_none fun l owes => ?_
  obtain ⟨_, _, _, _, _, eq | ⟨_, _, eq⟩⟩ := owes.exchanged_eq
  · have bodies := congrArg (List.map Prod.fst) eq
    simp [exchanged, Prov.putVenueCall, Prov.createLocationBody, Prov.setLocationBody] at bodies
  · cases congrArg List.length eq

/-- Nor does a venue which was not cleared. -/
lemma owes_notCleared (failed : Prov.putSucceeds clear ≠ true) :
    Owes x conv subscriberId venueId [listEvent subscriberId listing,
      putEvent venueId (Prov.setLocationBody "") clear] = fun _ => False := by
  refine owes_none fun l owes => ?_
  obtain ⟨_, _, _, _, succeeds, eq | ⟨_, _, eq⟩⟩ := owes.exchanged_eq
  · cases congrArg (List.map Prod.snd) eq
    exact failed succeeds
  · cases congrArg List.length eq

/-- A cleared venue owes the location which it named. -/
lemma owes_clear
    (listed : Prov.venuesIn conv listing = some ({ id := venueId, location := location } :: venues))
    (cleared : Prov.putSucceeds clear = true) :
    Owes x conv subscriberId venueId [listEvent subscriberId listing,
      putEvent venueId (Prov.setLocationBody "") clear] = (· = location) :=
  owes_eq listed (.cleared listed cleared)

/-- So it does while the location is kept. -/
lemma owes_kept
    (listed : Prov.venuesIn conv listing = some ({ id := venueId, location := location } :: venues))
    (cleared : Prov.putSucceeds clear = true)
    (notExecuted : x.executed (deleteEvent location delete) = false) :
    Owes x conv subscriberId venueId [listEvent subscriberId listing,
      putEvent venueId (Prov.setLocationBody "") clear, deleteEvent location delete] = (· = location) :=
  owes_eq listed (.kept listed cleared notExecuted)

/-- A location which was deleted is not owed. -/
lemma owes_deleted
    (listed : Prov.venuesIn conv listing = some ({ id := venueId, location := location } :: venues))
    (executed : x.executed (deleteEvent location delete) = true) :
    Owes x conv subscriberId venueId [listEvent subscriberId listing,
      putEvent venueId (Prov.setLocationBody "") clear, deleteEvent location delete] =
        fun _ => False := by
  refine owes_none fun l owes => ?_
  obtain rfl := owes.location_eq listed
  obtain ⟨_, _, _, _, _, eq | ⟨_, notExecuted, eq⟩⟩ := owes.exchanged_eq
  · cases congrArg List.length eq
  · cases congrArg (List.map Prod.snd) eq
    rw [executed] at notExecuted
    cases notExecuted

/-- A venue which was linked again owes nothing. -/
lemma owes_restored {restore : Option Reply} :
    Owes x conv subscriberId venueId [listEvent subscriberId listing,
      putEvent venueId (Prov.setLocationBody "") clear, deleteEvent location delete,
      putEvent venueId (Prov.setLocationBody location) restore] = fun _ => False :=
  owes_of_length nofun nofun

end Exchanges

/-- The steps of a request. -/
lemma LocationRequest.steps {user : Security.UserInfoAndPolicy} {request : LocationRequest}
    {answer : HandlerAnswer} (own : user.userinfo.id = subscriberId)
    (h : Trace (request.handle conv locateZone user) tr answer) :
    (∃ r, Creates conv subscriberId tr r) ∨ ∃ r, Deletes conv subscriberId tr r := by
  subst own
  cases request with
  | post parsedBody =>
    obtain ⟨r, steps, _⟩ := answer_inv h
    exact .inl ⟨r, createLocation_inv steps⟩
  | delete =>
    obtain ⟨r, steps, _⟩ := answer_inv h
    exact .inr ⟨r, deleteLocation_inv steps⟩

namespace LocationRun

variable (run : LocationRun x conv locateZone subscriberId venueId users requests)

/-- No other request changes the venue between the reading of a request and a change which it makes. -/
def Exclusive : Prop :=
  ∀ i j r w e, [(i, r), (j, w), (i, e)].Sublist run.sched →
    (Prov.listedVenues conv subscriberId r).isSome → Writes x venueId w → Writes x venueId e → j = i

/-- What is executed is reported. -/
def Reports : Prop := ∀ d ∈ run.sched, Prov.Reported x venueId d.2

/-- Requests which come one after the other are exclusive. -/
lemma exclusive_of_serial [PartialOrder ι] (serial : (run.sched.map Prod.fst).Pairwise (· ≤ ·)) :
    run.Exclusive := by
  intro i j r w e sub _ _ _
  obtain ⟨first, rest⟩ := List.pairwise_cons.mp (serial.sublist (sub.map Prod.fst))
  have before : i ≤ j := first j (List.mem_cons_self ..)
  have after : j ≤ i := (List.pairwise_cons.mp rest).1 i (List.mem_cons_self ..)
  exact le_antisymm after before

variable {run} {done rest : Schedule ι Portal.Op Portal.Op.Answer} {i : ι}

/-- Each request is a creation or a deletion. -/
lemma steps (run : LocationRun x conv locateZone subscriberId venueId users requests) (i : ι) :
    (∃ r, Creates conv subscriberId (Schedule.events i run.sched) r) ∨
      ∃ r, Deletes conv subscriberId (Schedule.events i run.sched) r :=
  LocationRequest.steps (run.subscriber i) (run.interleaving.trace rfl)

/-- Where a request is when it asks an event. -/
lemma asking (split : run.sched = done ++ (i, e) :: rest) :
    Asking conv subscriberId (Schedule.events i done) e := by
  have steps := run.steps i
  rw [split, events_append, events_cons_self] at steps
  rcases steps with ⟨r, creates⟩ | ⟨r, deletes⟩
  · exact creates.asking
  · exact deletes.asking

/-- At the end, no request owes a location. -/
lemma not_owes (run : LocationRun x conv locateZone subscriberId venueId users requests) (i : ι)
    (location : String) : ¬ Owes x conv subscriberId venueId (Schedule.events i run.sched) location := by
  intro owes
  rcases run.steps i with ⟨r, creates⟩ | ⟨r, deletes⟩
  · exact creates.not_owes owes
  · exact deletes.not_owes owes

/-- When a request has read the venue. -/
lemma listed_at (run : LocationRun x conv locateZone subscriberId venueId users requests)
    {listing : Option Reply} {own : List Portal.Event} {venue : Prov.Venue} {venues : List Prov.Venue}
    (kept : Accepts (Prov.KeepsLocations x conv subscriberId venueId) run.start (done.map Prod.snd) s)
    (events : Schedule.events i done = listEvent subscriberId listing :: own)
    (listed : Prov.venuesIn conv listing = some (venue :: venues)) :
    ∃ p q s0, done = p ++ (i, listEvent subscriberId listing) :: q ∧ Schedule.events i q = own ∧
      Accepts (Prov.KeepsLocations x conv subscriberId venueId) s0 (q.map Prod.snd) s ∧
      venue = { id := venueId, location := s0.location } := by
  obtain ⟨p, q, rfl, _, own⟩ := events_split (a := []) events
  rw [List.map_append, List.map_cons] at kept
  obtain ⟨s0, _, read⟩ := accepts_append.mp kept
  obtain ⟨s1, st, after⟩ := accepts_cons.mp read
  obtain ⟨same, eq⟩ := keeps_list st listed
  subst same
  exact ⟨p, q, s1, rfl, own, after, eq⟩

/-- Since a request has read the venue, only itself has changed it, when it changes it now. -/
lemma Exclusive.own {p q : Schedule ι Portal.Op Portal.Op.Answer} {listing : Option Reply}
    {venue : Prov.Venue} {venues : List Prov.Venue} (exclusive : run.Exclusive)
    (split : run.sched = (p ++ (i, listEvent subscriberId listing) :: q) ++ (i, e) :: rest)
    (listed : Prov.venuesIn conv listing = some (venue :: venues)) (writes : Writes x venueId e)
    {d : ι × Portal.Event} (mem : d ∈ q) (changes : Writes x venueId d.2) : d.1 = i := by
  obtain ⟨j, w⟩ := d
  have sub : [(i, listEvent subscriberId listing), (j, w), (i, e)].Sublist run.sched := by
    rw [split, List.append_assoc]
    refine List.Sublist.trans ?_ (List.sublist_append_right p _)
    refine List.Sublist.cons_cons _ ?_
    exact List.Sublist.append (List.singleton_sublist.mpr mem)
      (List.singleton_sublist.mpr (List.mem_cons_self ..))
  have read : (Prov.listedVenues conv subscriberId (listEvent subscriberId listing)).isSome := by
    rw [Prov.listedVenues_list, listed]
    rfl
  exact exclusive i j _ _ _ sub read changes writes

/-- The venue is as a request has read it, when the request changes it now for the first time. -/
lemma Exclusive.location_eq {p q : Schedule ι Portal.Op Portal.Op.Answer} {listing : Option Reply}
    {venue : Prov.Venue} {venues : List Prov.Venue} (exclusive : run.Exclusive)
    (split : run.sched = (p ++ (i, listEvent subscriberId listing) :: q) ++ (i, e) :: rest)
    (listed : Prov.venuesIn conv listing = some (venue :: venues)) (writes : Writes x venueId e)
    (own : Schedule.events i q = [])
    (after : Accepts (Prov.KeepsLocations x conv subscriberId venueId) s (q.map Prod.snd) s') :
    s'.location = s.location := by
  refine location_eq_of_quiet after ?_
  rintro _ mem changes
  obtain ⟨d, scheduled, rfl⟩ := List.mem_map.mp mem
  have first := exclusive.own split listed writes scheduled changes
  have mine : d.2 ∈ Schedule.events i q := mem_events.mpr (first ▸ scheduled)
  rw [own] at mine
  cases mine

/-- The venue is empty when a request which has cleared it puts its location back. -/
lemma Exclusive.location_eq_empty {p q : Schedule ι Portal.Op Portal.Op.Answer}
    {listing clear delete : Option Reply} {location : String}
    {venue : Prov.Venue} {venues : List Prov.Venue} (exclusive : run.Exclusive)
    (split : run.sched = (p ++ (i, listEvent subscriberId listing) :: q) ++ (i, e) :: rest)
    (listed : Prov.venuesIn conv listing = some (venue :: venues)) (writes : Writes x venueId e)
    (cleared : Prov.putSucceeds clear = true)
    (own : Schedule.events i q =
      [putEvent venueId (Prov.setLocationBody "") clear, deleteEvent location delete])
    (after : Accepts (Prov.KeepsLocations x conv subscriberId venueId) s (q.map Prod.snd) s') :
    s'.location = "" := by
  obtain ⟨q1, q2, rfl, _, own⟩ := events_split (a := []) own
  rw [List.map_append, List.map_cons] at after
  obtain ⟨s1, _, clears⟩ := accepts_append.mp after
  obtain ⟨s2, st, quiet⟩ := accepts_cons.mp clears
  have empty := st.apply Prov.locationChange_set (Prov.executed_of_putSucceeds cleared)
  have same : s'.location = s2.location := by
    refine location_eq_of_quiet quiet ?_
    rintro _ mem ⟨executed, change, asks, write⟩
    obtain ⟨d, scheduled, rfl⟩ := List.mem_map.mp mem
    have first := exclusive.own split listed writes
      (List.mem_append_right _ (List.mem_cons_of_mem _ scheduled)) ⟨executed, change, asks, write⟩
    have mine : d.2 ∈ Schedule.events i q2 := mem_events.mpr (first ▸ scheduled)
    rw [own] at mine
    rw [List.mem_singleton.mp mine, Prov.locationChange_delete] at asks
    cases asks
    exact write _ rfl
  rw [same, empty]

/-- A deletion which is reported as failed was not executed. -/
lemma Reports.not_deleted {location : String} {delete : Option Reply} (reports : run.Reports)
    (scheduled : deleteEvent location delete ∈ Schedule.events i run.sched)
    (failed : Prov.deleteSucceeds delete = false) : x.executed (deleteEvent location delete) = false := by
  refine Bool.eq_false_of_not_eq_true fun deleted => ?_
  have reported := reports _ (mem_events.mp scheduled)
  rw [reported_delete.mp reported deleted] at failed
  cases failed

/-! ### What is owed -/

/-- What each request owes. -/
def owing (x : Prov.Execution) (conv : Conversions) (subscriberId venueId : String)
    (done : Schedule ι Portal.Op Portal.Op.Answer) (i : ι) : String → Prop :=
  Owes x conv subscriberId venueId (Schedule.events i done)

/-- The next event changes what its request owes. -/
lemma owing_concat : owing x conv subscriberId venueId (done ++ [(i, e)]) =
    Function.update (owing x conv subscriberId venueId done) i
      (Owes x conv subscriberId venueId (Schedule.events i done ++ [e])) := by
  funext j
  by_cases eq : j = i
  · subst eq
    rw [Function.update_self, owing, events_append, events_cons_self, events_nil]
  · rw [Function.update_of_ne eq, owing, events_append, events_cons_of_ne (Ne.symm eq), events_nil,
      List.append_nil, owing]

/-- It changes nothing where that request owes the same. -/
lemma owing_concat_of_eq (same : Owes x conv subscriberId venueId (Schedule.events i done ++ [e]) =
      Owes x conv subscriberId venueId (Schedule.events i done)) :
    owing x conv subscriberId venueId (done ++ [(i, e)]) = owing x conv subscriberId venueId done := by
  rw [owing_concat, same]
  exact Function.update_eq_self i _

/-! ### The step -/

/-- Every event keeps the store consistent. -/
lemma consistent_step (run : LocationRun x conv locateZone subscriberId venueId users requests)
    (exclusive : run.Exclusive) (reports : run.Reports)
    (split : run.sched = done ++ (i, e) :: rest)
    (kept : Accepts (Prov.KeepsLocations x conv subscriberId venueId) run.start (done.map Prod.snd) s)
    (st : Prov.KeepsLocations x conv subscriberId venueId s e s')
    (h : Consistent (owing x conv subscriberId venueId done) s) :
    Consistent (owing x conv subscriberId venueId (done ++ [(i, e)])) s' := by
  have asks := asking split
  have reported : Prov.Reported x venueId e := reports (i, e) (by rw [split]; simp)
  generalize before : Schedule.events i done = own at asks
  cases asks with
  | list listing =>
    obtain rfl := st.eq_of_none Prov.locationChange_list
    rw [owing_concat_of_eq (by rw [before, List.nil_append, owes_list, owes_nil])]
    exact h
  | @create listing create venue venues body listed empty =>
    obtain ⟨p, q, s0, rfl, own, after, rfl⟩ := listed_at run kept before listed
    rw [owing_concat_of_eq (by rw [before, List.cons_append, List.nil_append, owes_list, owes_create])]
    cases executed : x.executed (putEvent venueId (Prov.createLocationBody body) create) with
    | true =>
      have writes : Writes x venueId (putEvent venueId (Prov.createLocationBody body) create) :=
        ⟨executed, _, Prov.locationChange_create, nofun⟩
      obtain ⟨new, named, fresh, rfl⟩ := st.apply Prov.locationChange_create executed
      have same := exclusive.location_eq split listed writes own after
      exact h.created (same.trans empty) named fresh
    | false =>
      obtain rfl := st.eq executed
      exact h
  | @clear listing clear venue venues listed used =>
    obtain ⟨p, q, s0, rfl, own, after, rfl⟩ := listed_at run kept before listed
    cases executed : x.executed (putEvent venueId (Prov.setLocationBody "") clear) with
    | true =>
      have writes : Writes x venueId (putEvent venueId (Prov.setLocationBody "") clear) :=
        ⟨executed, _, Prov.locationChange_set, nofun⟩
      obtain rfl := st.apply Prov.locationChange_set executed
      have same := exclusive.location_eq split listed writes own after
      rw [owing_concat, before, List.cons_append, List.nil_append,
        owes_clear listed (reported_clear.mp reported executed), ← same]
      refine h.cleared (by rwa [same]) fun l owed => ?_
      rw [owing, before, owes_list] at owed
      exact owed
    | false =>
      obtain rfl := st.eq executed
      have failed : Prov.putSucceeds clear ≠ true := by
        intro succeeds
        rw [Prov.executed_of_putSucceeds succeeds] at executed
        cases executed
      rw [owing_concat_of_eq (by
        rw [before, List.cons_append, List.nil_append, owes_list, owes_notCleared failed])]
      exact h
  | @delete listing clear delete venue venues listed used cleared =>
    obtain ⟨p, q, s0, rfl, own, after, rfl⟩ := listed_at run kept before listed
    cases executed : x.executed (deleteEvent s0.location delete) with
    | true =>
      obtain rfl := st.apply Prov.locationChange_delete executed
      rw [owing_concat, before, List.cons_append, List.cons_append, List.nil_append,
        owes_deleted listed executed]
      exact h.deleted (by rw [owing, before, owes_clear listed cleared])
    | false =>
      obtain rfl := st.eq executed
      rw [owing_concat_of_eq (by
        rw [before, List.cons_append, List.cons_append, List.nil_append,
          owes_clear listed cleared, owes_kept listed cleared executed])]
      exact h
  | @restore listing clear delete restore venue venues listed used cleared failed =>
    obtain ⟨p, q, s0, rfl, own, after, rfl⟩ := listed_at run kept before listed
    have executed := (reported_restore used).mp reported
    have writes : Writes x venueId (putEvent venueId (Prov.setLocationBody s0.location) restore) :=
      ⟨executed, _, Prov.locationChange_set, nofun⟩
    obtain rfl := st.apply Prov.locationChange_set executed
    have empty := exclusive.location_eq_empty split listed writes cleared own after
    have scheduled : deleteEvent s0.location delete ∈ Schedule.events i run.sched := by
      rw [split, events_append, before]
      simp
    have remains := reports.not_deleted scheduled failed
    rw [owing_concat, before, List.cons_append, List.cons_append, List.cons_append, List.nil_append,
      owes_restored]
    exact h.restored (by rw [owing, before, owes_kept listed cleared remains]) empty

/-- Once all requests are answered, the venue names the one location which exists. -/
theorem locations_consistent (run : LocationRun x conv locateZone subscriberId venueId users requests)
    (start : OneLocation run.start) (exclusive : run.Exclusive) (reports : run.Reports) :
    OneLocation run.finish := by
  have first : owing x conv subscriberId venueId ([] : Schedule ι Portal.Op Portal.Op.Answer) =
      fun _ _ => False := by
    funext i
    exact owes_nil
  have all : Consistent (owing x conv subscriberId venueId run.sched) run.finish := by
    refine run.interleaving.accepts.along (J := fun done _ s =>
      Consistent (owing x conv subscriberId venueId done) s) ?_ ?_
    · rw [first]
      exact start.consistent
    · intro done i e rest s1 s2 split kept st h
      exact consistent_step run exclusive reports split kept st h
  exact all.oneLocation run.not_owes

end LocationRun

end Concurrent

/-! ### Two requests of one subscriber -/

namespace Overlap
open NoContent

/-- The body of a request to create a location. -/
def body : Json.Object := [("name", .str "home"), ("timezone", .str "UTC")]

/-- One zone exists. -/
def locateZone (name : String) : Option Zone := if name = "UTC" then some (Zone.fixed 0) else none

/-- A venue without a location. -/
def empty : Prov.LocationStore where
  location := ""
  locations := []

/-- The events of a request which creates a location. -/
def creation : List Portal.Event :=
  [listEvent "subscriber" (venueReply ""),
    putEvent "venue" (Prov.createLocationBody body) (emptyReply HTTPStatus.ok)]

/-- The events of a request which deletes the location which is created first. -/
def deletion : List Portal.Event :=
  [listEvent "subscriber" (venueReply "location-0"),
    putEvent "venue" (Prov.setLocationBody "") (emptyReply HTTPStatus.ok),
    deleteEvent "location-0" (emptyReply HTTPStatus.ok)]

/-- The events of a request which puts the location back that it has deleted. -/
def restoration : List Portal.Event :=
  [listEvent "subscriber" (venueReply "location-0"),
    putEvent "venue" (Prov.setLocationBody "") (emptyReply HTTPStatus.ok),
    deleteEvent "location-0" (emptyReply 204),
    putEvent "venue" (Prov.setLocationBody "location-0") (emptyReply HTTPStatus.ok)]

/-- A schedule which the service accepts is a run, when its events are those of successful requests. -/
def runOf (requests : Bool → LocationRequest) (sched : Schedule Bool Portal.Op Portal.Op.Answer)
    (accepted : answers (fun s e => s.answersTruly Conversions.strict "subscriber" "venue" e)
      (Prov.LocationStore.next .byReply "venue") empty (sched.map Prod.snd) = true)
    (answers : Bool → HandlerAnswer)
    (answered : ∀ i, replay ((requests i).handle Conversions.strict locateZone user)
      (Schedule.events i sched) = some (answers i)) :
    LocationRun .byReply Conversions.strict locateZone "subscriber" "venue" (fun _ : Bool => user)
      requests where
  subscriber _ := rfl
  start := empty
  finish := (sched.map Prod.snd).foldl (Prov.LocationStore.next .byReply "venue") empty
  sched := sched
  answers := answers
  interleaving := .of_traces (Prov.LocationStore.accepts_of_answersTruly accepted)
    fun i => trace_iff_replay.mpr (answered i)

/-- A location is created by one request, and deleted by the other. -/
def createdAndDeleted : Bool → LocationRequest
  | false => .post (some body)
  | true => .delete

def serialAnswers (deleted : HandlerAnswer) : Bool → HandlerAnswer
  | false => HandlerAnswer.success "POST"
  | true => deleted

/-- The deletion comes after the creation. -/
def serial (deletes : List Portal.Event) : Schedule Bool Portal.Op Portal.Op.Answer :=
  creation.map (false, ·) ++ deletes.map (true, ·)

/-- One after the other, a creation and a deletion are answered. -/
lemma serial_answered : ∀ i, replay ((createdAndDeleted i).handle Conversions.strict locateZone user)
    (Schedule.events i (serial deletion)) = some (serialAnswers (HandlerAnswer.success "DELETE") i) := by
  decide +kernel

/-- A deletion which is answered with 204 is answered with an error. -/
lemma unreported_answered : ∀ i, replay ((createdAndDeleted i).handle Conversions.strict locateZone user)
    (Schedule.events i (serial restoration)) =
      some (serialAnswers (HandlerAnswer.forwardErrorResponse 204 (some [])) i) := by
  decide +kernel

/-- A location is created, and then deleted. -/
def serialRun := runOf createdAndDeleted (serial deletion) (by rfl) _ serial_answered

/-- Two requests read the venue before either creates a location. -/
def overlappingRun := runOf (fun _ => .post (some body))
  ((creation.take 1).map (false, ·) ++ creation.map (true, ·) ++ (creation.drop 1).map (false, ·)) (by rfl)
  (fun _ => HandlerAnswer.success "POST") (by decide +kernel)

/-- A location is created, and its deletion is answered 204. -/
def unreportedRun := runOf createdAndDeleted (serial restoration) (by rfl) _ unreported_answered

/-- The requests do not overlap in the first run. -/
lemma serialRun_exclusive : serialRun.Exclusive :=
  serialRun.exclusive_of_serial (by decide +kernel)

/-- Nor do they in the second one. -/
lemma unreportedRun_exclusive : unreportedRun.Exclusive :=
  unreportedRun.exclusive_of_serial (by decide +kernel)

/-- What the creation was told was done. -/
lemma reported_created : ∀ e ∈ creation, Prov.Reported .byReply "venue" e := by
  simp only [creation, List.forall_mem_cons, List.not_mem_nil, false_implies, implies_true, and_true,
    reported_list, reported_create]

/-- What the deletion was told was done. -/
lemma reported_deleted : ∀ e ∈ deletion, Prov.Reported .byReply "venue" e := by
  have clears : Prov.putSucceeds (emptyReply HTTPStatus.ok) = true := by decide
  have deletes : Prov.deleteSucceeds (emptyReply HTTPStatus.ok) = true := by decide
  simp only [deletion, List.forall_mem_cons, List.not_mem_nil, false_implies, implies_true, and_true,
    reported_list, reported_clear, reported_delete, clears, deletes]

/-- So it is in the run of both. -/
lemma serialRun_reports : serialRun.Reports := by
  have order : serialRun.sched.map Prod.snd = creation ++ deletion := rfl
  intro d mem
  have scheduled : d.2 ∈ creation ++ deletion := order ▸ List.mem_map_of_mem mem
  rcases List.mem_append.mp scheduled with mem | mem
  · exact reported_created d.2 mem
  · exact reported_deleted d.2 mem

/-- And where they overlap. -/
lemma overlappingRun_reports : overlappingRun.Reports := by
  have order : overlappingRun.sched.map Prod.snd =
    creation.take 1 ++ creation ++ creation.drop 1 := rfl
  intro d mem
  have scheduled : d.2 ∈ creation.take 1 ++ creation ++ creation.drop 1 :=
    order ▸ List.mem_map_of_mem mem
  rw [List.append_assoc, List.mem_append, List.mem_append] at scheduled
  rcases scheduled with mem | mem | mem
  · exact reported_created d.2 (List.mem_of_mem_take mem)
  · exact reported_created d.2 mem
  · exact reported_created d.2 (List.mem_of_mem_drop mem)

/-- One after the other, the requests leave the venue without a location. -/
theorem serialRun_oneLocation : OneLocation serialRun.finish :=
  LocationRun.locations_consistent serialRun rfl serialRun_exclusive serialRun_reports

/-- Where the requests overlap, one of the locations which they create is not named by the venue. Where a
deletion is not reported, the venue names a location which does not exist. -/
theorem overlapping_twoLocations :
    (¬ ∀ (x : Prov.Execution) (conv : Conversions) (locateZone : String → Option Zone)
      (subscriberId venueId : String) (ι : Type) (_ : DecidableEq ι)
      (users : ι → Security.UserInfoAndPolicy) (requests : ι → LocationRequest)
      (run : LocationRun x conv locateZone subscriberId venueId users requests),
      OneLocation run.start → run.Reports → OneLocation run.finish) ∧
    ¬ ∀ (x : Prov.Execution) (conv : Conversions) (locateZone : String → Option Zone)
      (subscriberId venueId : String) (ι : Type) (_ : DecidableEq ι)
      (users : ι → Security.UserInfoAndPolicy) (requests : ι → LocationRequest)
      (run : LocationRun x conv locateZone subscriberId venueId users requests),
      OneLocation run.start → run.Exclusive → OneLocation run.finish := by
  refine ⟨?_, ?_⟩
  · intro all
    have one := all _ _ _ _ _ _ _ _ _ overlappingRun rfl overlappingRun_reports
    have two : overlappingRun.finish.locations.length = 2 := by decide +kernel
    rw [OneLocation] at one
    rw [one] at two
    split at two
    case isTrue => cases two
    case isFalse => cases two
  · intro all
    have one := all _ _ _ _ _ _ _ _ _ unreportedRun rfl unreportedRun_exclusive
    have named : unreportedRun.finish.location = "location-0" := by decide +kernel
    have gone : unreportedRun.finish.locations = [] := by decide +kernel
    rw [OneLocation, named, gone] at one
    cases one

end Overlap

end UserPortal.RestApi.SubscriberLocation

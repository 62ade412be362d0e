import UserPortal.RestApi.MutationTraces
import UserPortal.RestApi.SubscriberLocation
import UserPortal.Sdk.LocationStore

/-!
# Deleting a location

`DoDelete` clears the venue, deletes the location, and puts it back in the venue where the deletion has
failed. `doDelete_allOrNothing_iff` says for which outcomes of the three steps nothing is left half done.
-/

namespace UserPortal.RestApi.SubscriberLocation
open Interaction Program Sdk ParentalControl

/-- The location is deleted, the venue does not refer to it, and `OK` is answered; or it exists, the venue
refers to it, and an error is answered. -/
def AllOrNothing (s s' : Prov.LocationStore) (answer : HandlerAnswer) : Prop :=
  (s.location ∉ s'.locations ∧ s'.location ≠ s.location ∧ answer.status = HTTPStatus.ok) ∨
    (s.location ∈ s'.locations ∧ s'.location = s.location ∧ ¬ IsSuccess answer.status)

section Deletion

variable {x : Prov.Execution} {conv : Conversions} {user : Security.UserInfoAndPolicy} {venueId : String}
  {s s' : Prov.LocationStore} {tr : List Portal.Event} {answer : HandlerAnswer}

/-- A clearing is reported when its success is. -/
lemma reported_clear {clear : Option Reply} :
    Prov.Reported x venueId (putEvent venueId (Prov.setLocationBody "") clear) ↔
      (x.executed (putEvent venueId (Prov.setLocationBody "") clear) = true →
        Prov.putSucceeds clear = true) := by
  unfold Prov.Reported
  rw [Prov.locationChange_set]
  exact Iff.rfl

lemma reported_delete {location : String} {delete : Option Reply} :
    Prov.Reported x venueId (deleteEvent location delete) ↔
      (x.executed (deleteEvent location delete) = true → Prov.deleteSucceeds delete = true) := by
  unfold Prov.Reported
  rw [Prov.locationChange_delete]

/-- A restoring is reported when it is executed. -/
lemma reported_restore {location : String} {restore : Option Reply} (ne : location ≠ "") :
    Prov.Reported x venueId (putEvent venueId (Prov.setLocationBody location) restore) ↔
      x.executed (putEvent venueId (Prov.setLocationBody location) restore) = true := by
  unfold Prov.Reported
  rw [Prov.locationChange_set]
  dsimp only
  rw [if_neg ne]

lemma reported_create {body : Json.Object} {create : Option Reply} :
    Prov.Reported x venueId (putEvent venueId (Prov.createLocationBody body) create) := by
  unfold Prov.Reported
  rw [Prov.locationChange_create]
  trivial

lemma reported_list {subscriberId : String} {listing : Option Reply} :
    Prov.Reported x venueId (listEvent subscriberId listing) := by
  unfold Prov.Reported
  rw [Prov.locationChange_list]
  trivial

/-- The status which a failed clearing forwards is no success, unless it was executed. -/
lemma not_isSuccess_clear {c : Call} {clear : Option Reply}
    (executed : x.executed ⟨.call c, clear⟩ = false) :
    ¬ IsSuccess (OpenAPIRequest.strict (some []) clear).1 := by
  cases clear with
  | none => exact show ¬ IsSuccess 504 by decide
  | some r =>
    intro success
    unfold OpenAPIRequest.strict at success
    dsimp only at success
    split at success
    case h_1 =>
      rw [(x.truthful c r).mpr success] at executed
      cases executed
    case h_2 => exact absurd success (show ¬ IsSuccess 504 by decide)

lemma not_isSuccess_delete {c : Call} {delete : Option Reply}
    (executed : x.executed ⟨.call c, delete⟩ = false) :
    ¬ IsSuccess (OpenAPIRequest.lenient (some []) delete).1 := by
  cases delete with
  | none => exact show ¬ IsSuccess 504 by decide
  | some r =>
    intro success
    rw [(x.truthful c r).mpr success] at executed
    cases executed

/-- A listing changes nothing, and shows the venue. -/
lemma keeps_list {subscriberId : String} {listing : Option Reply} {venue : Prov.Venue}
    {venues : List Prov.Venue}
    (h : Prov.KeepsLocations x conv subscriberId venueId s (listEvent subscriberId listing) s')
    (listed : Prov.venuesIn conv listing = some (venue :: venues)) :
    s' = s ∧ venue = { id := venueId, location := s.location } :=
  ⟨h.eq_of_none Prov.locationChange_list, h.listed venue venues (Prov.listedVenues_list.trans listed)⟩

/-- The outcomes of `DoDelete` at a venue which was not cleared. -/
lemma notCleared_iff {subscriberId : String} {clear : Option Reply} (used : s.location ≠ "")
    (present : s.location ∈ s.locations) (failed : Prov.putSucceeds clear = false)
    (st : Prov.KeepsLocations x conv subscriberId venueId s
      (putEvent venueId (Prov.setLocationBody "") clear) s') :
    AllOrNothing s s' (HandlerAnswer.forwardErrorResponse (OpenAPIRequest.strict (some []) clear).1
        (OpenAPIRequest.strict (some []) clear).2) ↔
      Prov.Reported x venueId (putEvent venueId (Prov.setLocationBody "") clear) := by
  rw [reported_clear, failed]
  cases executed : x.executed (putEvent venueId (Prov.setLocationBody "") clear) with
  | true =>
    obtain rfl := st.apply Prov.locationChange_set executed
    refine ⟨?_, fun reported => absurd (reported rfl) Bool.false_ne_true⟩
    rintro (⟨gone, _, _⟩ | ⟨_, same, _⟩)
    · exact absurd present gone
    · exact absurd same.symm used
  | false =>
    obtain rfl := st.eq executed
    exact ⟨fun _ changed => absurd changed Bool.false_ne_true,
      fun _ => .inr ⟨present, rfl, not_isSuccess_clear executed⟩⟩

/-- The outcomes of `DoDelete` at a venue which was cleared, when the deletion has failed. -/
lemma restored_iff {subscriberId : String} {delete restore : Option Reply} {s1 s2 : Prov.LocationStore}
    (used : s.location ≠ "") (present : s.location ∈ s.locations) (cleared : s1 = { s with location := "" })
    (failed : Prov.deleteSucceeds delete = false)
    (st1 : Prov.KeepsLocations x conv subscriberId venueId s1 (deleteEvent s.location delete) s2)
    (st2 : Prov.KeepsLocations x conv subscriberId venueId s2
      (putEvent venueId (Prov.setLocationBody s.location) restore) s') :
    AllOrNothing s s' (HandlerAnswer.forwardErrorResponse (OpenAPIRequest.lenient (some []) delete).1
        (OpenAPIRequest.lenient (some []) delete).2) ↔
      Prov.Reported x venueId (deleteEvent s.location delete) ∧
        Prov.Reported x venueId (putEvent venueId (Prov.setLocationBody s.location) restore) := by
  rw [reported_delete, reported_restore used, failed]
  have notOk : (OpenAPIRequest.lenient (some []) delete).1 ≠ HTTPStatus.ok := of_decide_eq_false failed
  -- restoring changes no location
  have locations : s'.locations = s2.locations := by
    cases restored : x.executed (putEvent venueId (Prov.setLocationBody s.location) restore) with
    | true => rw [st2.apply Prov.locationChange_set restored]
    | false => rw [st2.eq restored]
  cases executed : x.executed (deleteEvent s.location delete) with
  | true =>
    refine ⟨?_, fun reported => absurd (reported.1 rfl) Bool.false_ne_true⟩
    rintro (⟨_, _, ok⟩ | ⟨kept, _, _⟩)
    · exact absurd ok notOk
    · rw [locations, st1.apply Prov.locationChange_delete executed] at kept
      exact absurd (List.mem_filter.mp kept).2 (by simp)
  | false =>
    obtain rfl := st1.eq executed
    subst cleared
    cases restored : x.executed (putEvent venueId (Prov.setLocationBody s.location) restore) with
    | true =>
      obtain rfl := st2.apply Prov.locationChange_set restored
      exact ⟨fun _ => ⟨fun deleted => absurd deleted Bool.false_ne_true, rfl⟩,
        fun _ => .inr ⟨present, rfl, not_isSuccess_delete executed⟩⟩
    | false =>
      obtain rfl := st2.eq restored
      refine ⟨?_, fun reported => absurd reported.2 Bool.false_ne_true⟩
      rintro (⟨gone, _, _⟩ | ⟨_, same, _⟩)
      · exact absurd present gone
      · exact absurd same.symm used

/-- Nothing is left half done exactly when what was executed was reported. -/
theorem doDelete_allOrNothing_iff (h : Trace (doDelete conv user) tr answer)
    (kept : Accepts (Prov.KeepsLocations x conv user.userinfo.id venueId) s tr s')
    (present : s.location ∈ s.locations)
    (reached : ∃ clear, putEvent venueId (Prov.setLocationBody "") clear ∈ tr) :
    AllOrNothing s s' answer ↔ ∀ e ∈ tr, Prov.Reported x venueId e := by
  obtain ⟨clear, mem⟩ := reached
  obtain ⟨r, steps, rfl⟩ := answer_inv h
  cases deleteLocation_inv steps with
  | refused e => cases mem
  | stopped listing e => simp [Prov.getVenuesCall, Prov.putVenueCall] at mem
  | notCleared listed used failed =>
    obtain ⟨s1, st1, kept⟩ := accepts_cons.mp kept
    obtain ⟨s2, st2, kept⟩ := accepts_cons.mp kept
    obtain rfl := accepts_nil.mp kept
    obtain ⟨rfl, rfl⟩ := keeps_list st1 listed
    rw [notCleared_iff used present failed st2]
    simp only [List.forall_mem_cons, List.not_mem_nil, false_implies, implies_true, and_true,
      reported_list, true_and]
  | deleted listed used cleared gone =>
    obtain ⟨s1, st1, kept⟩ := accepts_cons.mp kept
    obtain ⟨s2, st2, kept⟩ := accepts_cons.mp kept
    obtain ⟨s3, st3, kept⟩ := accepts_cons.mp kept
    obtain rfl := accepts_nil.mp kept
    obtain ⟨rfl, rfl⟩ := keeps_list st1 listed
    obtain rfl := st2.apply Prov.locationChange_set (Prov.executed_of_putSucceeds cleared)
    obtain rfl := st3.apply Prov.locationChange_delete (Prov.executed_of_deleteSucceeds gone)
    refine iff_of_true (.inl ⟨by simp, used.symm, rfl⟩) ?_
    simp only [List.forall_mem_cons, List.not_mem_nil, false_implies, implies_true, and_true,
      reported_list, true_and, reported_clear, reported_delete]
    exact ⟨fun _ => cleared, fun _ => gone⟩
  | restored listed used cleared failed =>
    obtain ⟨s1, st1, kept⟩ := accepts_cons.mp kept
    obtain ⟨s2, st2, kept⟩ := accepts_cons.mp kept
    obtain ⟨s3, st3, kept⟩ := accepts_cons.mp kept
    obtain ⟨s4, st4, kept⟩ := accepts_cons.mp kept
    obtain rfl := accepts_nil.mp kept
    obtain ⟨rfl, rfl⟩ := keeps_list st1 listed
    have empty := st2.apply Prov.locationChange_set (Prov.executed_of_putSucceeds cleared)
    rw [restored_iff used present empty failed st3 st4]
    simp only [List.forall_mem_cons, List.not_mem_nil, false_implies, implies_true, and_true,
      reported_list, true_and, reported_clear]
    exact ⟨fun reported => ⟨fun _ => cleared, reported⟩, fun reported => reported.2⟩

end Deletion

/-! ### A deletion which is answered 204 -/

namespace NoContent

def user : Security.UserInfoAndPolicy where
  userinfo := { id := "subscriber" }

/-- The listing of the venue. -/
def venueReply (location : String) : Option Reply :=
  some ⟨HTTPStatus.ok, .json (.obj [("venues", .arr [.obj [("id", .str "venue"),
    ("location", .str location)]])])⟩

def emptyReply (status : HTTPStatus) : Option Reply := some ⟨status, .json (.obj [])⟩

/-- The venue has a location. -/
def start : Prov.LocationStore where
  location := "home"
  locations := ["home"]

/-- The events up to the deletion. -/
def upToDelete (status : HTTPStatus) : List Portal.Event :=
  [listEvent "subscriber" (venueReply "home"),
    putEvent "venue" (Prov.setLocationBody "") (emptyReply HTTPStatus.ok),
    deleteEvent "home" (emptyReply status)]

/-- A status other than 200 brings the location back to the venue. -/
def restoredEvents : List Portal.Event :=
  upToDelete 204 ++ [putEvent "venue" (Prov.setLocationBody "home") (emptyReply HTTPStatus.ok)]

lemma upToDelete_accepts (status : HTTPStatus) :
    Accepts (Prov.KeepsLocations .byReply Conversions.strict "subscriber" "venue") start
      (upToDelete status) ((upToDelete status).foldl (Prov.LocationStore.next .byReply "venue") start) :=
  Prov.LocationStore.accepts_of_answersTruly (by rfl)

/-- The venue is cleared. -/
lemma cleared (status : HTTPStatus) :
    ∃ clear, putEvent "venue" (Prov.setLocationBody "") clear ∈ upToDelete status :=
  ⟨_, List.mem_cons_of_mem _ (List.mem_cons_self ..)⟩

/-- A deletion which is answered 200 is done. -/
theorem deleted_allOrNothing :
    AllOrNothing start ((upToDelete HTTPStatus.ok).foldl (Prov.LocationStore.next .byReply "venue") start)
      (HandlerAnswer.success "DELETE") := by
  have answered : Trace (doDelete Conversions.strict user) (upToDelete HTTPStatus.ok)
      (HandlerAnswer.success "DELETE") := trace_iff_replay.mpr (by decide +kernel)
  refine (doDelete_allOrNothing_iff answered (upToDelete_accepts HTTPStatus.ok)
    (List.mem_singleton_self _) (cleared _)).mpr ?_
  have clears : Prov.putSucceeds (emptyReply HTTPStatus.ok) = true := by decide
  have deletes : Prov.deleteSucceeds (emptyReply HTTPStatus.ok) = true := by decide
  simp only [upToDelete, List.forall_mem_cons, List.not_mem_nil, false_implies, implies_true, and_true,
    reported_list, reported_clear, reported_delete, clears, deletes]

/-- A deletion which is answered 204 has deleted the location, and the venue refers to it again. -/
theorem restored_notAllOrNothing :
    ¬ ∀ (x : Prov.Execution) (conv : Conversions) (user : Security.UserInfoAndPolicy) (venueId : String)
      (s s' : Prov.LocationStore) (tr : List Portal.Event) (answer : HandlerAnswer),
      Trace (doDelete conv user) tr answer →
      Accepts (Prov.KeepsLocations x conv user.userinfo.id venueId) s tr s' →
      s.location ∈ s.locations →
      (∃ clear, putEvent venueId (Prov.setLocationBody "") clear ∈ tr) → AllOrNothing s s' answer := by
  intro all
  have answered : Trace (doDelete Conversions.strict user) restoredEvents
      (HandlerAnswer.forwardErrorResponse 204 (some [])) := trace_iff_replay.mpr (by decide +kernel)
  have kept : Accepts (Prov.KeepsLocations .byReply Conversions.strict "subscriber" "venue") start
      restoredEvents (restoredEvents.foldl (Prov.LocationStore.next .byReply "venue") start) :=
    Prov.LocationStore.accepts_of_answersTruly (by rfl)
  obtain ⟨clear, mem⟩ := cleared 204
  rcases all _ _ _ _ _ _ _ _ answered kept (List.mem_singleton_self _)
      ⟨clear, List.mem_append_left _ mem⟩ with ⟨_, _, ok⟩ | ⟨present, _, _⟩
  · cases ok
  · cases present

end NoContent

end UserPortal.RestApi.SubscriberLocation

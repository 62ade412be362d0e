import UserPortal.Interaction.Knowledge
import UserPortal.RestApi.LocationRequests

/-!
# What a request about a location may lead to

A request about the location of a subscriber lists the venues of this subscriber, and asks about the first one, which
the list has named, and about its location. A location is deleted once the venue was cleared, and put back once it was
not deleted.
-/

namespace UserPortal.RestApi.SubscriberLocation
open Interaction Program Calendar Sdk

/-! ## What is permitted -/

section Permitted

variable (conv : Conversions) (locateZone : String → Option Zone) (subscriberId : String)

/-- The venues of the subscriber were listed, and this is the first one. -/
def KnowsVenue (known : List Portal.Event) (venue : Prov.Venue) : Prop :=
  ∃ listing venues, listEvent subscriberId listing ∈ known ∧ Prov.venuesIn conv listing = some (venue :: venues)

/-- What may be asked for a subscriber after what is known. -/
inductive Permitted (changes : Bool) (known : List Portal.Event) : Portal.Event → Prop where
  | venues (answer : Option Reply) : Permitted changes known (listEvent subscriberId answer)
  | location {venue : Prov.Venue} (answer : Option Reply) :
    KnowsVenue conv subscriberId known venue → venue.location ≠ "" →
    Permitted changes known ⟨.call (Prov.getLocationCall venue.location), answer⟩
  | create {venue : Prov.Venue} {input body : Json.Object} (answer : Option Reply) :
    changes = true → KnowsVenue conv subscriberId known venue → venue.location = "" →
    Zoned locateZone input body →
    Permitted changes known (putEvent venue.id (Prov.createLocationBody body) answer)
  | update {venue : Prov.Venue} {input body : Json.Object} (answer : Option Reply) :
    changes = true → KnowsVenue conv subscriberId known venue → venue.location ≠ "" →
    Zoned locateZone input body ∨ Unzoned input body →
    Permitted changes known ⟨.call (Prov.putLocationCall venue.location body), answer⟩
  | clear {venue : Prov.Venue} (answer : Option Reply) :
    changes = true → KnowsVenue conv subscriberId known venue → venue.location ≠ "" →
    Permitted changes known (putEvent venue.id (Prov.setLocationBody "") answer)
  | delete {venue : Prov.Venue} {clear : Option Reply} (answer : Option Reply) :
    changes = true → KnowsVenue conv subscriberId known venue →
    putEvent venue.id (Prov.setLocationBody "") clear ∈ known → Prov.putSucceeds clear = true →
    Permitted changes known (deleteEvent venue.location answer)
  | restore {venue : Prov.Venue} {delete : Option Reply} (answer : Option Reply) :
    changes = true → KnowsVenue conv subscriberId known venue →
    deleteEvent venue.location delete ∈ known → Prov.deleteSucceeds delete = false →
    Permitted changes known (putEvent venue.id (Prov.setLocationBody venue.location) answer)

end Permitted

section Confined

variable {conv : Conversions} {locateZone : String → Option Zone} {user : Security.UserInfoAndPolicy}
  {subscriberId : String} {changes : Bool} {known : List Portal.Event} {venue : Prov.Venue}

/-! ## The first venue -/

lemma KnowsVenue.weaken (knows : KnowsVenue conv subscriberId known venue) (later : List Portal.Event) :
    KnowsVenue conv subscriberId (known ++ later) venue := by
  obtain ⟨listing, venues, mem, listed⟩ := knows
  exact ⟨listing, venues, List.mem_append_left _ mem, listed⟩

/-- Once the venue is found, it is known. -/
lemma findVenue_obtains {method : String} :
    Obtains (Permitted conv locateZone user.userinfo.id changes) (KnowsVenue conv user.userinfo.id) (fun _ _ => True)
      known (findVenue conv user method) := by
  intro tr r h
  obtain ⟨listing, rfl, failed | found⟩ := findVenue_inv h
  · obtain ⟨e, rfl⟩ := failed
    exact ⟨.singleton (.venues listing), nofun, fun _ _ => trivial⟩
  · obtain ⟨venue, venues, rfl, listed⟩ := found
    refine ⟨.singleton (.venues listing), fun a eq => ?_, fun _ _ => trivial⟩
    cases eq
    exact ⟨listing, venues, List.mem_append_right _ (List.mem_singleton_self _), listed⟩

/-- The venue is known, and it names this location. -/
def KnowsLocation (conv : Conversions) (subscriberId : String) (known : List Portal.Event) (location : String) : Prop :=
  ∃ venue, KnowsVenue conv subscriberId known venue ∧ venue.location = location ∧ location ≠ ""

lemma findLocation_obtains {method : String} :
    Obtains (Permitted conv locateZone user.userinfo.id changes) (KnowsLocation conv user.userinfo.id)
      (fun _ _ => True) known (findLocation conv user method) := by
  refine findVenue_obtains.bind fun known venue knows => ?_
  refine .ite (fun _ => .throw trivial) fun some => .pure ?_
  exact ⟨venue, knows, rfl, some⟩

/-! ## The handlers -/

/-- Steps which ask what is permitted. -/
def Confines {α : Type} (conv : Conversions) (locateZone : String → Option Zone) (subscriberId : String)
    (changes : Bool) (known : List Portal.Event) (steps : Handling α) : Prop :=
  Obtains (Permitted conv locateZone subscriberId changes) (fun _ _ => True) (fun _ _ => True) known steps

/-- What is read of a body asks nothing. -/
lemma reads_obtains {steps : Handling Json.Object} {K : Json.Object → Prop}
    (spec : ∀ tr r, Trace steps.run tr r → tr = [] ∧ ∀ body, r = .ok body → K body) :
    Obtains (Permitted conv locateZone subscriberId changes) (fun _ => K) (fun _ _ => True) known steps := by
  intro tr r h
  obtain ⟨rfl, holds⟩ := spec tr r h
  exact ⟨.nil known, holds, fun _ _ => trivial⟩

lemma showLocation_confines :
    Confines conv locateZone user.userinfo.id changes known (showLocation conv user) := by
  refine .ite (fun _ => .throw trivial) fun _ => ?_
  refine findLocation_obtains.bind fun known location knows => .lift_bind fun tr found h => ?_
  obtain ⟨venue, knows, rfl, some⟩ := knows
  obtain ⟨answer, rfl, _⟩ := Prov.getLocation_inv h
  refine ⟨.singleton (.location answer knows some), ?_⟩
  obtain ⟨location, callStatus, callResponse⟩ := found
  cases location with
  | some => exact .pure trivial
  | none => exact .ite (fun _ => .throw trivial) fun _ => .throw trivial

lemma createLocation_confines {parsedBody : Option Json.Object} :
    Confines conv locateZone user.userinfo.id true known (createLocation conv locateZone user parsedBody) := by
  refine .ite (fun _ => .throw trivial) fun _ => ?_
  refine (reads_obtains (K := fun body => ∃ input, Zoned locateZone input body) fun tr r h => ?_).bind
    fun known body zoned => ?_
  · obtain ⟨rfl, taken | refused⟩ := readLocation_spec h
    · obtain ⟨input, body, _, zoned, rfl⟩ := taken
      refine ⟨rfl, fun body' eq => ?_⟩
      cases eq
      exact ⟨input, zoned⟩
    · obtain ⟨⟨e, rfl, _⟩, _⟩ := refused
      exact ⟨rfl, nofun⟩
  obtain ⟨input, zoned⟩ := zoned
  refine findVenue_obtains.bind fun known venue knows => ?_
  refine .ite (fun _ => .throw trivial) fun _ => .ite (fun _ => .throw trivial) fun free => ?_
  refine .lift_bind fun tr created h => ?_
  obtain ⟨answer, rfl, _⟩ := Prov.putVenue_inv h
  refine ⟨.singleton (.create answer rfl knows (not_not.mp free) zoned), ?_⟩
  exact .ite (fun _ => .pure trivial) fun _ => .throw trivial

lemma updateLocation_confines {parsedBody : Option Json.Object} :
    Confines conv locateZone user.userinfo.id true known (updateLocation conv locateZone user parsedBody) := by
  refine .ite (fun _ => .throw trivial) fun _ => ?_
  refine (reads_obtains (K := fun body => ∃ input, Zoned locateZone input body ∨ Unzoned input body)
    fun tr r h => ?_).bind fun known body taken => ?_
  · obtain ⟨rfl, taken | refused⟩ := readUpdate_spec h
    · obtain ⟨input, body, _, taken, rfl⟩ := taken
      refine ⟨rfl, fun body' eq => ?_⟩
      cases eq
      exact ⟨input, taken⟩
    · obtain ⟨⟨e, rfl, _⟩, _⟩ := refused
      exact ⟨rfl, nofun⟩
  obtain ⟨input, taken⟩ := taken
  refine findLocation_obtains.bind fun known location knows => .lift_bind fun tr updated h => ?_
  obtain ⟨venue, knows, rfl, some⟩ := knows
  obtain ⟨answer, rfl, _⟩ := Prov.putLocation_inv h
  refine ⟨.singleton (.update answer rfl knows some taken), ?_⟩
  exact .ite (fun _ => .pure trivial) fun _ => .throw trivial

lemma deleteLocation_confines :
    Confines conv locateZone user.userinfo.id true known (deleteLocation conv user) := by
  refine .ite (fun _ => .throw trivial) fun _ => ?_
  refine findVenue_obtains.bind fun known venue knows => ?_
  refine .ite (fun _ => .throw trivial) fun _ => .ite (fun _ => .throw trivial) fun some => ?_
  refine .lift_bind fun tr cleared h => ?_
  obtain ⟨clear, rfl, clears, _⟩ := Prov.putVenue_inv h
  refine ⟨.singleton (.clear clear rfl knows some), ?_⟩
  refine .ite (fun _ => .throw trivial) fun succeeded => ?_
  have cleared := clears.symm.trans (Bool.of_not_eq_false succeeded)
  refine .lift_bind fun tr deleted h => ?_
  obtain ⟨delete, rfl, deletes, _⟩ := Prov.deleteLocation_inv h
  refine ⟨.singleton (.delete delete rfl (knows.weaken _)
    (List.mem_append_right _ (List.mem_singleton_self _)) cleared), ?_⟩
  refine .ite (fun _ => .pure trivial) fun kept => ?_
  refine .lift_bind fun tr restored h => ?_
  obtain ⟨restore, rfl, _⟩ := Prov.putVenue_inv h
  refine ⟨.singleton (.restore restore rfl ((knows.weaken _).weaken _)
    (List.mem_append_right _ (List.mem_singleton_self _))
    (deletes.symm.trans (Bool.eq_false_of_not_eq_true kept))), .throw trivial⟩

end Confined

end UserPortal.RestApi.SubscriberLocation

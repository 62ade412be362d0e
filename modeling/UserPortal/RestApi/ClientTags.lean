import Mathlib.Data.List.Forall2
import UserPortal.Framework.AddressCodecs
import UserPortal.RestApi.BlockedClients
import UserPortal.RestApi.OwnEquipment

/-!
# The flags of the clients of a topology response

The gateway knows the blocked clients by their normalized addresses, the topology service writes colons and
any letter case. Every station in this form is flagged as what the gateway says of its address, in the
historical clients and in the clients of the access points; nothing else of a response changes.
-/

namespace UserPortal.RestApi.TopologyHandler
open Interaction Program Calendar Data Sdk ParentalControl Utils

/-- A MAC address with colons, in any letter case. -/
def IsColonMac (station : String) : Prop :=
  ∃ serial, validSerialNumber serial = true ∧ station = serialToMAC serial

section Tags

variable (blocked : OrderedMap String String)

/-- The fields of a client which is blocked until some time, or is not blocked. -/
def FlaggedAs (o : Json.Object) : Option String → Prop
  | some untilStr =>
    o.get? "blocked" = some (.str "1") ∧ o.get? "blocked_until" = some (.str untilStr)
  | none => o.get? "blocked" = some (.str "0") ∧ o.get? "blocked_until" = none

/-- The flags of a station say whether the gateway blocks its address, and until when. -/
def Flagged (station : String) (o : Json.Object) : Prop :=
  IsColonMac station → FlaggedAs o ((normalizeMac station).bind blocked.get?)

/-- The historical client of a station. -/
structure HistoricalClient (station : String) (entry : Json.Object) : Prop where
  names : entry.get? "station" = some (.str station)
  flagged : Flagged blocked station entry
  others : ∀ k, k ≠ "blocked" → k ≠ "blocked_until" → k ≠ "station" → entry.get? k = none

/-- A client is flagged, if it has a station. -/
structure ClientTagged (client client' : Json.Object) : Prop where
  flagged : ∀ station, client.getString? "station" = some station → Flagged blocked station client'
  noStation : client.getString? "station" = none → client' = client
  others : ∀ k, k ≠ "blocked" → k ≠ "blocked_until" → client'.get? k = client.get? k

/-- The objects among some values are changed, and nothing else. -/
def ObjectChanged (R : Json.Object → Json.Object → Prop) (j j' : Json) : Prop :=
  (∃ o o', j = .obj o ∧ j' = .obj o' ∧ R o o') ∨ (∀ o, j ≠ .obj o) ∧ j' = j

/-- The objects in an array of an object are changed, and nothing else. -/
structure ArrayChanged (R : Json.Object → Json.Object → Prop) (key : String) (o o' : Json.Object) :
    Prop where
  elements : ∀ xs, o.getArray? key = some xs →
    ∃ ys, o'.getArray? key = some ys ∧ List.Forall₂ (ObjectChanged R) xs ys
  noArray : o.getArray? key = none → o' = o
  others : ∀ k, k ≠ key → o'.get? k = o.get? k

/-- The clients of an access point are flagged. -/
def ApTagged : Json.Object → Json.Object → Prop := ArrayChanged (ClientTagged blocked) "clients"

/-- The clients of the access points of a node are flagged. -/
def NodeTagged : Json.Object → Json.Object → Prop := ArrayChanged (ApTagged blocked) "aps"

/-- The clients of a response are flagged: one historical client for each station of the historical
devices, in their order, and the clients of all access points of the nodes. -/
structure ResponseTagged (r r' : Json.Object) : Prop where
  historical : ∀ devices, r.getArray? "historicalDevices" = some devices →
    r'.get? "historicalDevices" = none ∧
    ∃ entryOf : Json → Option Json,
      r'.get? "historicalClients" = some (.arr (devices.filterMap entryOf)) ∧
      ∀ station, ∃ entry, entryOf (.str station) = some (.obj entry) ∧
        HistoricalClient blocked station entry
  noHistorical : r.getArray? "historicalDevices" = none →
    ∀ k, k = "historicalDevices" ∨ k = "historicalClients" → r'.get? k = r.get? k
  nodes : ∀ nodes, r.getArray? "nodes" = some nodes →
    ∃ nodes', r'.getArray? "nodes" = some nodes' ∧
      List.Forall₂ (ObjectChanged (NodeTagged blocked)) nodes nodes'
  noNodes : r.getArray? "nodes" = none → r'.get? "nodes" = r.get? "nodes"
  others : ∀ k, k ≠ "historicalDevices" → k ≠ "historicalClients" → k ≠ "nodes" →
    r'.get? k = r.get? k

/-- The keys of a map are normalized addresses. -/
def NormalKeys : Prop := ∀ mac, (blocked.get? mac).isSome = true → validSerialNumber mac = true ∧ toLower mac = mac

end Tags

/-! ## Stations -/

variable {blocked : OrderedMap String String} {station : String}

/-- The keys of the blocked clients are the addresses which the rules add. -/
lemma getBlockedClients_normalKeys (conv : Conversions) (parser : DateTimeParser)
    (locateZone : String → Option Zone) (nowUtc : DateTime) (timezoneStr : String)
    (config : Option Json.Object) :
    NormalKeys (getBlockedClients conv parser locateZone nowUtc timezoneStr config).2 := by
  intro mac known
  cases config with
  | none => cases known
  | some config =>
    rw [getBlockedClients_eq, OrderedMap.get?_map, Option.isSome_map] at known
    obtain ⟨e, sectionName, lists, _⟩ :=
      (blockedClients_collects conv parser nowUtc (commandsOf config)).isSome_iff.mp known
    obtain ⟨cmd, _, adds⟩ := List.mem_filterMap.mp lists
    rw [SectionCommand.adds] at adds
    split at adds
    case isTrue =>
      obtain ⟨valid, rfl⟩ := normalizeMac_eq_some.mp adds
      rw [validSerialNumber_toLower]
      exact ⟨valid, toLower_toLower valid⟩
    case isFalse => cases adds

/-- The fetched addresses are in normal form. -/
lemma fetchBlockedMacs_normalKeys {conv : Conversions} {parser : DateTimeParser}
    {locateZone : String → Option Zone} {gatewaySerial timezoneStr : String} {tr : List Portal.Event}
    (h : Trace (fetchBlockedMacs conv parser locateZone gatewaySerial timezoneStr) tr blocked) :
    NormalKeys blocked := by
  have empty : NormalKeys .empty := fun mac known => by cases known
  obtain ⟨tr1, tr2, r, rfl, _, h1⟩ := trace_bind.mp h
  dsimp only at h1
  split at h1
  case h_1 =>
    obtain ⟨_, rfl⟩ := trace_pure.mp h1
    exact empty
  case h_2 =>
    split at h1
    case h_1 =>
      obtain ⟨_, rfl⟩ := trace_pure.mp h1
      exact empty
    case h_2 =>
      obtain ⟨t, rest, rfl, h2⟩ := trace_perform_bind.mp h1
      obtain ⟨_, rfl⟩ := trace_pure.mp h2
      exact getBlockedClients_normalKeys conv parser locateZone _ _ _

/-- A station is looked up among the blocked clients as its normalized address. -/
lemma blockedUntil_eq (keys : NormalKeys blocked) (colons : IsColonMac station) :
    blockedUntil blocked station = (normalizeMac station).bind blocked.get? := by
  obtain ⟨serial, valid, rfl⟩ := colons
  have lower : validSerialNumber (toLower serial) = true := by
    rw [validSerialNumber_toLower, valid]
  rw [normalizeMac_serialToMAC_of_valid valid, Option.bind_some, blockedUntil,
    toLower_serialToMAC valid]
  cases found : blocked.entries.reverse.find? fun e => serialToMAC e.1 = serialToMAC (toLower serial) with
  | some e =>
    have mem : e ∈ blocked.entries := List.mem_reverse.mp (List.mem_of_find?_eq_some found)
    have held : blocked.get? e.1 = some e.2 := OrderedMap.get?_eq_some.mpr mem
    have same := List.find?_some found
    rw [decide_eq_true_eq] at same
    have key := keys e.1 (by rw [held]; rfl)
    rw [← serialToMAC_inj key.1 lower same, held]
    rfl
  | none =>
    cases held : blocked.get? (toLower serial) with
    | none => rfl
    | some untilStr =>
      have mem := List.mem_reverse.mpr (OrderedMap.get?_eq_some.mp held)
      have other := List.find?_eq_none.mp found _ mem
      rw [decide_eq_true_eq] at other
      exact absurd rfl other

/-! ## Flags -/

section Flags

variable {client o t : Json.Object}

/-- A client with its block is flagged. -/
lemma flagged_of_blockedUntil (keys : NormalKeys blocked)
    (flags : FlaggedAs o (blockedUntil blocked station)) : Flagged blocked station o := by
  intro colons
  rw [← blockedUntil_eq keys colons]
  exact flags

/-- A historical client is tagged. -/
lemma historicalClient_tagged (conv : Conversions) (keys : NormalKeys blocked) (station : String) :
    ∃ entry, historicalClient conv blocked (.str station) = some (.obj entry) ∧
      HistoricalClient blocked station entry := by
  rw [historicalClient]
  rw [conv.toString_str]
  dsimp only
  cases untilStr : blockedUntil blocked station with
  | some end_ =>
    refine ⟨_, rfl, rfl, flagged_of_blockedUntil keys ?_, ?_⟩
    · rw [untilStr]
      exact ⟨rfl, rfl⟩
    · intro k ne1 ne2 ne3
      rw [Json.Object.get?_cons, if_neg ne1.symm, Json.Object.get?_cons, if_neg ne2.symm,
        Json.Object.get?_cons, if_neg ne3.symm, Json.Object.get?_nil]
  | none =>
    refine ⟨_, rfl, rfl, flagged_of_blockedUntil keys ?_, ?_⟩
    · rw [untilStr]
      exact ⟨rfl, rfl⟩
    · intro k ne1 _ ne3
      rw [Json.Object.get?_cons, if_neg ne1.symm, Json.Object.get?_cons, if_neg ne3.symm,
        Json.Object.get?_nil]

/-- What does not convert to an object is none. -/
lemma not_obj_of_object? {j : Json} (h : j.object? = none) (o : Json.Object) : j ≠ .obj o := by
  intro eq
  rw [Json.object?_eq_some.mpr eq] at h
  cases h

/-- A client with a station is flagged in place. -/
lemma tagClient_tagged (keys : NormalKeys blocked) (j : Json) :
    ObjectChanged (ClientTagged blocked) j (tagClient blocked j) := by
  rw [tagClient]
  cases obj : j.object? with
  | none => exact .inr ⟨not_obj_of_object? obj, rfl⟩
  | some client =>
    obtain rfl := Json.object?_eq_some.mp obj
    left
    dsimp only
    cases names : client.getString? "station" with
    | none =>
      refine ⟨client, client, rfl, rfl, fun station eq => ?_, fun _ => rfl, fun k _ _ => rfl⟩
      rw [names] at eq
      cases eq
    | some station =>
      dsimp only
      cases untilStr : blockedUntil blocked station with
      | some end_ =>
        refine ⟨client, _, rfl, rfl, fun station' eq => ?_, fun eq => ?_, fun k ne1 ne2 => ?_⟩
        · rw [names] at eq
          cases eq
          apply flagged_of_blockedUntil keys
          rw [untilStr]
          refine ⟨?_, Json.Object.get?_set_self _ _ _⟩
          rw [Json.Object.get?_set_of_ne _ _ (by decide), Json.Object.get?_set_self]
        · rw [names] at eq
          cases eq
        · rw [Json.Object.get?_set_of_ne _ _ ne2.symm, Json.Object.get?_set_of_ne _ _ ne1.symm]
      | none =>
        refine ⟨client, _, rfl, rfl, fun station' eq => ?_, fun eq => ?_, fun k ne1 ne2 => ?_⟩
        · rw [names] at eq
          cases eq
          apply flagged_of_blockedUntil keys
          rw [untilStr]
          refine ⟨?_, Json.Object.get?_remove_self _ _⟩
          rw [Json.Object.get?_remove_of_ne _ (by decide), Json.Object.get?_set_self]
        · rw [names] at eq
          cases eq
        · rw [Json.Object.get?_remove_of_ne _ ne2.symm, Json.Object.get?_set_of_ne _ _ ne1.symm]

/-- The change of the objects in an array of an object, from the change of one. -/
lemma mapArray_changed {R : Json.Object → Json.Object → Prop} {f : Json → Json}
    (one : ∀ j, ObjectChanged R j (f j)) (key : String) (j : Json) :
    ObjectChanged (ArrayChanged R key) j (mapArray f key j) := by
  rw [mapArray]
  cases obj : j.object? with
  | none => exact .inr ⟨not_obj_of_object? obj, rfl⟩
  | some o =>
    obtain rfl := Json.object?_eq_some.mp obj
    left
    dsimp only
    cases array : o.getArray? key with
    | none =>
      refine ⟨o, o, rfl, rfl, fun xs eq => ?_, fun _ => rfl, fun k _ => rfl⟩
      rw [array] at eq
      cases eq
    | some elements =>
      refine ⟨o, _, rfl, rfl, fun xs eq => ?_, fun eq => ?_, fun k ne => ?_⟩
      · rw [array] at eq
        cases eq
        refine ⟨_, Json.Object.getArray?_set_self _ _ _, ?_⟩
        exact List.forall₂_map_right_iff.mpr (List.forall₂_same.mpr fun j _ => one j)
      · rw [array] at eq
        cases eq
      · exact Json.Object.get?_set_of_ne _ _ ne.symm

/-- A node is tagged. -/
lemma tagNode_tagged (keys : NormalKeys blocked) (j : Json) :
    ObjectChanged (NodeTagged blocked) j (tagNode blocked j) :=
  mapArray_changed (mapArray_changed (tagClient_tagged keys) "clients") "aps" j

/-- Tagging the nodes leaves the other fields. -/
lemma tagNodes_get? {k : String} (ne : k ≠ "nodes") : (tagNodes blocked t).get? k = t.get? k := by
  rw [tagNodes]
  split
  case h_1 => rfl
  case h_2 => exact Json.Object.get?_set_of_ne _ _ ne.symm

/-- Historical devices are tagged and renamed. -/
lemma tagHistoricalDevices_of_array (conv : Conversions) {devices : List Json}
    (given : t.getArray? "historicalDevices" = some devices) :
    tagHistoricalDevices conv blocked t =
      (t.set "historicalClients" (.arr (devices.filterMap (historicalClient conv blocked)))).remove
        "historicalDevices" := by
  rw [tagHistoricalDevices, given]

/-- Where there are none, nothing changes. -/
lemma tagHistoricalDevices_of_none (conv : Conversions)
    (absent : t.getArray? "historicalDevices" = none) : tagHistoricalDevices conv blocked t = t := by
  rw [tagHistoricalDevices, absent]

/-- Both parts of `TagBlockedClients` flag by the same addresses. -/
lemma response_tagged (conv : Conversions) (keys : NormalKeys blocked) (r : Json.Object) :
    ResponseTagged blocked r (tagNodes blocked (tagHistoricalDevices conv blocked r)) where
  historical devices given := by
    rw [tagNodes_get? (by decide), tagHistoricalDevices_of_array conv given]
    refine ⟨Json.Object.get?_remove_self _ _, historicalClient conv blocked, ?_,
      historicalClient_tagged conv keys⟩
    rw [tagNodes_get? (by decide), Json.Object.get?_remove_of_ne _ (by decide),
      Json.Object.get?_set_self]
  noHistorical absent k which := by
    have ne : k ≠ "nodes" := by
      rcases which with rfl | rfl
      · decide
      · decide
    rw [tagNodes_get? ne, tagHistoricalDevices_of_none conv absent]
  nodes nodes given := by
    have same : (tagHistoricalDevices conv blocked r).getArray? "nodes" = some nodes := by
      rw [Json.Object.getArray?, tagHistoricalDevices_get? conv blocked (by decide) (by decide)]
      exact given
    refine ⟨nodes.map (tagNode blocked), ?_, ?_⟩
    · rw [tagNodes, same]
      exact Json.Object.getArray?_set_self _ _ _
    · exact List.forall₂_map_right_iff.mpr (List.forall₂_same.mpr fun j _ => tagNode_tagged keys j)
  noNodes absent := by
    have same : (tagHistoricalDevices conv blocked r).getArray? "nodes" = none := by
      rw [Json.Object.getArray?, tagHistoricalDevices_get? conv blocked (by decide) (by decide)]
      exact absent
    rw [tagNodes, same]
    exact tagHistoricalDevices_get? conv blocked (by decide) (by decide)
  others k ne1 ne2 ne3 := by
    rw [tagNodes_get? ne3]
    exact tagHistoricalDevices_get? conv blocked ne2.symm ne1.symm

end Flags

/-- Every client of a filtered response is flagged truthfully, by whatever blocked clients are reported,
and by those which `TagBlockedClients` fetches. -/
theorem tagBlockedClients_truthful (conv : Conversions) (parser : DateTimeParser)
    (locateZone : String → Option Zone) (devices : List Gw.SubscriberDevice) (reply : Json.Object) :
    (∀ nowUtc timezoneStr config blocked,
      (getBlockedClients conv parser locateZone nowUtc timezoneStr config).2 = blocked →
      ResponseTagged blocked (filterTopologyNodes devices reply)
        (tagNodes blocked (tagHistoricalDevices conv blocked (filterTopologyNodes devices reply)))) ∧
    ∀ gatewaySerial timezoneStr tr response,
      Trace (tagBlockedClients conv parser locateZone gatewaySerial (filterTopologyNodes devices reply)
        timezoneStr) tr response →
      ∃ blocked, Trace (fetchBlockedMacs conv parser locateZone gatewaySerial timezoneStr) tr blocked ∧
        ResponseTagged blocked (filterTopologyNodes devices reply) response := by
  refine ⟨?_, ?_⟩
  · rintro nowUtc timezoneStr config _ rfl
    exact response_tagged conv (getBlockedClients_normalKeys conv parser locateZone _ _ _) _
  · intro gatewaySerial timezoneStr tr response h
    obtain ⟨tr1, tr2, blocked, rfl, h1, h2⟩ := trace_bind.mp h
    obtain ⟨rfl, rfl⟩ := trace_pure.mp h2
    rw [List.append_nil]
    exact ⟨blocked, h1, response_tagged conv (fetchBlockedMacs_normalKeys h1) _⟩

end UserPortal.RestApi.TopologyHandler

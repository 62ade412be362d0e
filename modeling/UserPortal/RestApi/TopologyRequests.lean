import UserPortal.Interaction.Knowledge
import UserPortal.RestApi.ClientTags
import UserPortal.RestApi.Mutations
import UserPortal.RestApi.OwnEquipment
import UserPortal.RestApi.SubscriberTimezone
import UserPortal.Sdk.Traces
import UserPortal.Security.Objects

/-!
# Topology requests

Port of the rest of `src/RESTAPI/RESTAPI_topology_handler.cpp`: what is fetched before
`FinalizeTopologyResponse`, with `Device::Get` and `Venue::Get` of `src/sdks/SDK_prov.cpp`, and
`src/sdks/SDK_nw_topology.cpp`.

`topology_own`: each question is about something which an earlier answer has named, beginning with the devices of
the subscriber, and a topology which is returned is the reply for the board of the gateway's venue, cut down to these
devices, with their clients flagged by the rules of the gateway in the time zone of the venue's location.
-/

namespace UserPortal

namespace Sdk.Prov
open Interaction Program

/-- `ProvObjects::InventoryTag`, up to the field which is used. -/
structure InventoryTag where
  venue : String

/-- `ProvObjects::Venue` with its boards. -/
structure BoardedVenue extends Venue where
  boards : List String

/-- The request of `Venue::Get`. -/
def getVenueCall (venueUUID : String) : Call where
  verb := .get
  service := uSERVICE_PROVISIONING
  endPoint := "/api/v1/venue/" ++ venueUUID
  queryData := []
  body := []
  msTimeout := 60000
  bearerToken := ""

section Calls

variable (conv : Conversions)

/-- `InventoryTag::from_json`, `none` where it fails. -/
def inventoryTagFromJson (o : Json.Object) : Option InventoryTag :=
  if inventoryTagReads conv o then some { venue := (fieldFromJson conv o "venue").getD "" } else none

/-- `Venue::from_json`, `none` where it fails. -/
def boardedVenueFromJson (o : Json.Object) : Option BoardedVenue :=
  (venueFromJson conv o).map fun venue =>
    { venue with boards := ((o.getArray? "boards").getD []).filterMap conv.toString }

/-- The inventory record which a reply to `Device::Get` holds. -/
def inventoryIn (answer : Option Reply) : Option InventoryTag :=
  if (OpenAPIRequest.lenient (some []) answer).1 = HTTPStatus.ok then
    (OpenAPIRequest.lenient (some []) answer).2.bind (inventoryTagFromJson conv)
  else none

/-- The venue which a reply to `Venue::Get` holds. -/
def boardedVenueIn (answer : Option Reply) : Option BoardedVenue :=
  if (OpenAPIRequest.lenient (some []) answer).1 = HTTPStatus.ok then
    (OpenAPIRequest.lenient (some []) answer).2.bind (boardedVenueFromJson conv)
  else none

/-- `Device::Get`: the inventory record, `none` when it fails. -/
def getInventory (bearerToken mac : String) : Portal (Option InventoryTag) := do
  let (responseStatus, callResponse) ← OpenAPIRequest.get uSERVICE_PROVISIONING
    ("/api/v1/inventory/" ++ mac) [] 60000 bearerToken (some [])
  if responseStatus = HTTPStatus.ok then return callResponse.bind (inventoryTagFromJson conv)
  else return none

/-- `Venue::Get`: the venue, `none` when it fails, with the status and the response. -/
def getVenue (venueUUID : String) : Portal (Option BoardedVenue × HTTPStatus × Option Json.Object) := do
  let (callStatus, callResponse) ← OpenAPIRequest.get uSERVICE_PROVISIONING
    ("/api/v1/venue/" ++ venueUUID) [] 60000 "" (some [])
  if callStatus = HTTPStatus.ok then
    return (callResponse.bind (boardedVenueFromJson conv), callStatus, callResponse)
  else return (none, callStatus, callResponse)

end Calls

section Traces

variable {conv : Conversions} {tr : List Portal.Event}

/-- The inventory record is read off one call. -/
lemma getInventory_inv {bearerToken mac : String} {r : Option InventoryTag}
    (h : Trace (getInventory conv bearerToken mac) tr r) :
    ∃ answer, tr = [⟨.call (inventoryCall bearerToken mac), answer⟩] ∧ r = inventoryIn conv answer := by
  obtain ⟨answer, rest, rfl, h1⟩ := OpenAPIRequest.trace_get_bind.mp h
  refine ⟨answer, ?_⟩
  dsimp only at h1
  rw [inventoryIn]
  split at h1
  case isTrue ok =>
    obtain ⟨rfl, rfl⟩ := trace_pure.mp h1
    rw [if_pos ok]
    exact ⟨rfl, rfl⟩
  case isFalse failed =>
    obtain ⟨rfl, rfl⟩ := trace_pure.mp h1
    rw [if_neg failed]
    exact ⟨rfl, rfl⟩

/-- The venue is read off one call. -/
lemma getVenue_inv {venueUUID : String} {r : Option BoardedVenue × HTTPStatus × Option Json.Object}
    (h : Trace (getVenue conv venueUUID) tr r) :
    ∃ answer, tr = [⟨.call (getVenueCall venueUUID), answer⟩] ∧ r.1 = boardedVenueIn conv answer := by
  obtain ⟨answer, rest, rfl, h1⟩ := OpenAPIRequest.trace_get_bind.mp h
  refine ⟨answer, ?_⟩
  dsimp only at h1
  rw [boardedVenueIn]
  split at h1
  case isTrue ok =>
    obtain ⟨rfl, rfl⟩ := trace_pure.mp h1
    rw [if_pos ok]
    exact ⟨rfl, rfl⟩
  case isFalse failed =>
    obtain ⟨rfl, rfl⟩ := trace_pure.mp h1
    rw [if_neg failed]
    exact ⟨rfl, rfl⟩

end Traces

end Sdk.Prov

namespace Sdk.Topology
open Interaction Program

/-- The request of `Topology::Get`. -/
def getCall (boardId : String) : Call where
  verb := .get
  service := uSERVICE_NETWORK_TOPOLOGY
  endPoint := "/api/v1/topology"
  queryData := [("boardId", boardId)]
  body := []
  msTimeout := 60000
  bearerToken := ""

/-- `Topology::Get`, with the status and the response. -/
def get (boardId : String) : Portal (Bool × HTTPStatus × Option Json.Object) := do
  let (callStatus, callResponse) ← OpenAPIRequest.get uSERVICE_NETWORK_TOPOLOGY "/api/v1/topology"
    [("boardId", boardId)] 60000 "" (some [])
  return (callStatus = HTTPStatus.ok, callStatus, callResponse)

/-- The topology is read off one call. -/
lemma get_inv {boardId : String} {tr : List Portal.Event} {r : Bool × HTTPStatus × Option Json.Object}
    (h : Trace (get boardId) tr r) :
    ∃ answer, tr = [⟨.call (getCall boardId), answer⟩] ∧
      r = (decide ((OpenAPIRequest.lenient (some []) answer).1 = HTTPStatus.ok),
        OpenAPIRequest.lenient (some []) answer) := by
  obtain ⟨answer, rest, rfl, h1⟩ := OpenAPIRequest.trace_get_bind.mp h
  obtain ⟨rfl, rfl⟩ := trace_pure.mp h1
  exact ⟨answer, rfl, rfl⟩

end Sdk.Topology

namespace Sdk.Gw
open Interaction

/-- The configuration which a reply to `GetConfig` holds. -/
def configurationIn (answer : Option Reply) : Option Json.Object :=
  if (OpenAPIRequest.lenient none answer).1 = HTTPStatus.ok then
    (OpenAPIRequest.lenient none answer).2.bind fun o => o.getObject? "configuration"
  else none

/-- This is the configuration which the topology handler goes on with. -/
lemma configurationIn_eq {r : CallResult} {answer : Option Reply}
    (success : r.success = (r.status = HTTPStatus.ok && hasConfiguration r.response))
    (read : (r.status, r.response) = OpenAPIRequest.lenient none answer) :
    ((if r.success = true then r.response else none).bind fun o => o.getObject? "configuration") =
      configurationIn answer := by
  rw [configurationIn, ← read]
  dsimp only
  by_cases ok : r.status = HTTPStatus.ok
  · rw [if_pos ok]
    cases response : r.response with
    | none =>
      split
      case isTrue => rfl
      case isFalse => rfl
    | some o =>
      rw [response] at success
      split
      case isTrue => rfl
      case isFalse failed =>
        rw [Option.bind_none, Option.bind_some]
        have absent : o.has "configuration" = false := by simpa [success, ok, hasConfiguration] using failed
        rw [Json.Object.has, Option.isSome_eq_false_iff, Option.isNone_iff_eq_none] at absent
        rw [Json.Object.getObject?, absent]
  · rw [if_neg ok, if_neg (by rw [success, decide_eq_false ok, Bool.false_and]; decide)]
    rfl

end Sdk.Gw

namespace RestApi.TopologyHandler
open Interaction Program Calendar Data Sdk ParentalControl

/-! ## The handler -/

/-- `VenueTopologyContext` -/
structure VenueTopologyContext where
  boardId : String
  timezone : String

section Handler

variable (conv : Conversions) (parser : DateTimeParser) (locateZone : String → Option Zone)
  (user : Security.UserInfoAndPolicy)

/-- `FetchSubscriberDevices` -/
def fetchSubscriberDevices : Handling (List Gw.SubscriberDevice) := do
  let (devices, callStatus, callResponse) ←
    Prov.getDevices conv "" user.userinfo.id user.userinfo.owner (some [])
  match devices with
  | some devices => return devices
  | none =>
    if callStatus = HTTPStatus.notFound then
      throw (HandlerAnswer.badRequest "GET" Errors.subNoDeviceActivated "")
    else if callStatus ≠ HTTPStatus.ok then
      throw (HandlerAnswer.forwardErrorResponse callStatus callResponse)
    else throw (HandlerAnswer.internalError "GET" Errors.internalError)

/-- `FindGatewaySerial`. Without a gateway an empty object is returned. -/
def findGatewaySerial (subscriberDevices : List Gw.SubscriberDevice) : Handling String :=
  if gatewaySerialOf subscriberDevices = "" then throw (HandlerAnswer.returnObject [])
  else return gatewaySerialOf subscriberDevices

/-- The first step of `ResolveVenueTopologyContext`: the venue which the gateway's inventory record names. -/
def fetchVenue (gatewaySerial : String) : Handling Prov.BoardedVenue := do
  if gatewaySerial = "" then throw (HandlerAnswer.badRequest "GET" Errors.missingSerialNumber "")
  else
    let inventory ← Prov.getInventory conv "" gatewaySerial
    match inventory with
    | none => throw (HandlerAnswer.badRequest "GET" Errors.subNoDeviceActivated "")
    | some inventory =>
      if inventory.venue = "" then throw (HandlerAnswer.badRequest "GET" Errors.venueMustExist "")
      else
        let (venue, callStatus, callResponse) ← Prov.getVenue conv inventory.venue
        match venue with
        | some venue => return venue
        | none =>
          if callStatus ≠ HTTPStatus.ok then
            throw (HandlerAnswer.forwardErrorResponse callStatus callResponse)
          else throw (HandlerAnswer.internalError "GET" Errors.internalError)

/-- The last step of `ResolveVenueTopologyContext`: the time zone of a location. -/
def fetchTimezone (locationId : String) : Handling String := do
  let (location, callStatus, callResponse) ← Prov.getLocation conv locationId
  match location with
  | some location =>
    if location.timezone = "" then throw (HandlerAnswer.badRequest "GET" Errors.timezoneRequired "")
    else if (locateZone location.timezone).isNone then
      throw (HandlerAnswer.badRequest "GET" Errors.timezoneRequired "")
    else return location.timezone
  | none =>
    if callStatus ≠ HTTPStatus.ok then throw (HandlerAnswer.forwardErrorResponse callStatus callResponse)
    else throw (HandlerAnswer.internalError "GET" Errors.internalError)

/-- `ResolveVenueTopologyContext` -/
def resolveVenueTopologyContext (gatewaySerial : String) : Handling VenueTopologyContext := do
  let venue ← fetchVenue conv gatewaySerial
  match venue.boards with
  | [] => throw (HandlerAnswer.notFound "GET")
  | boardId :: _ =>
    if boardId = "" then throw (HandlerAnswer.notFound "GET")
    else if venue.location = "" then throw (HandlerAnswer.badRequest "GET" Errors.timezoneRequired "")
    else
      let timezone ← fetchTimezone conv locateZone venue.location
      return { boardId, timezone }

/-- `FetchTopology` -/
def fetchTopology (boardId : String) : Handling Json.Object := do
  let (fetched, topoStatus, topologyResponse) ← Topology.get boardId
  if fetched then return topologyResponse.getD []
  else if topoStatus ≠ HTTPStatus.ok then
    throw (HandlerAnswer.forwardErrorResponse topoStatus topologyResponse)
  else throw (HandlerAnswer.internalError "GET" Errors.internalError)

/-- The steps of `DoGet`: the topology which is returned. -/
def showTopology : Handling Json.Object := do
  if user.userinfo.id = "" then throw (HandlerAnswer.notFound "GET")
  else
    let subscriberDevices ← fetchSubscriberDevices conv user
    let gatewaySerial ← findGatewaySerial subscriberDevices
    let context ← resolveVenueTopologyContext conv locateZone gatewaySerial
    let topologyResponse ← fetchTopology context.boardId
    finalizeTopologyResponse conv parser locateZone subscriberDevices gatewaySerial context.timezone
      topologyResponse

/-- `DoGet` -/
def doGet : Portal HandlerAnswer := (showTopology conv parser locateZone user).returned

end Handler

/-! ## What is known -/

section Known

variable (conv : Conversions) (subscriberId operatorId : String) (known : List Portal.Event)

/-- The devices of the subscriber were listed. -/
def KnowsDevices (devices : List Gw.SubscriberDevice) : Prop :=
  ∃ listing, ⟨.call (Prov.getDevicesCall "" subscriberId operatorId), listing⟩ ∈ known ∧
    Prov.listedInto conv (some []) ⟨.call (Prov.getDevicesCall "" subscriberId operatorId), listing⟩ =
      some devices

/-- The first of them in the gateway group is this. -/
def KnowsGateway (gateway : String) : Prop :=
  ∃ devices, KnowsDevices conv subscriberId operatorId known devices ∧ gatewaySerialOf devices = gateway ∧
    gateway ≠ ""

/-- The inventory record of the gateway names this venue. -/
def KnowsVenue (venueId : String) : Prop :=
  ∃ gateway found, KnowsGateway conv subscriberId operatorId known gateway ∧
    ⟨.call (Prov.inventoryCall "" gateway), found⟩ ∈ known ∧ Prov.inventoryIn conv found = some ⟨venueId⟩ ∧
    venueId ≠ ""

/-- That venue is this. -/
def KnowsBoards (venue : Prov.BoardedVenue) : Prop :=
  ∃ venueId found, KnowsVenue conv subscriberId operatorId known venueId ∧
    ⟨.call (Prov.getVenueCall venueId), found⟩ ∈ known ∧ Prov.boardedVenueIn conv found = some venue

/-- Its location has this time zone. -/
def KnowsTimezone (timezone : String) : Prop :=
  ∃ venue found, KnowsBoards conv subscriberId operatorId known venue ∧
    ⟨.call (Prov.getLocationCall venue.location), found⟩ ∈ known ∧
    Prov.locationIn conv found = some ⟨timezone⟩

/-- Its first board is this. -/
def KnowsBoard (boardId : String) : Prop :=
  ∃ venue boards, KnowsBoards conv subscriberId operatorId known venue ∧ venue.boards = boardId :: boards ∧
    boardId ≠ ""

/-- The topology service has replied this for that board. -/
def KnowsReply (reply : Json.Object) : Prop :=
  ∃ boardId found, KnowsBoard conv subscriberId operatorId known boardId ∧
    ⟨.call (Topology.getCall boardId), found⟩ ∈ known ∧
    OpenAPIRequest.lenient (some []) found = (HTTPStatus.ok, some reply)

/-- The clients which the gateway blocks, with the ends of their blocks in a time zone: by the rules in its
configuration, at the time of the clock, or none where no rules were read. -/
def KnowsBlocked (parser : DateTimeParser) (locateZone : String → Option Zone) (timezone : String)
    (blocked : OrderedMap String String) : Prop :=
  ∃ gateway found, KnowsGateway conv subscriberId operatorId known gateway ∧
    ⟨.call (Gw.getConfigCall "" gateway), found⟩ ∈ known ∧
    (((Gw.configurationIn found).bind fun config => config.getArray? "config-raw") = none ∧ blocked = .empty ∨
      ∃ config t, Gw.configurationIn found = some config ∧ ⟨.now, t⟩ ∈ known ∧
        blocked = (getBlockedClients conv parser locateZone (.ofTimestamp t) timezone (some config)).2)

/-- What may be asked for a subscriber after what is known. The portal identifies itself with its own key
everywhere, so that only these links tie an answer to the subscriber. -/
inductive Permitted : Portal.Event → Prop where
  | clock (t : Int) : Permitted ⟨.now, t⟩
  | devices (answer : Option Reply) :
    Permitted ⟨.call (Prov.getDevicesCall "" subscriberId operatorId), answer⟩
  | inventory {gateway : String} (answer : Option Reply) :
    KnowsGateway conv subscriberId operatorId known gateway →
    Permitted ⟨.call (Prov.inventoryCall "" gateway), answer⟩
  | venue {venueId : String} (answer : Option Reply) :
    KnowsVenue conv subscriberId operatorId known venueId →
    Permitted ⟨.call (Prov.getVenueCall venueId), answer⟩
  | location {venue : Prov.BoardedVenue} (answer : Option Reply) :
    KnowsBoards conv subscriberId operatorId known venue → venue.location ≠ "" →
    Permitted ⟨.call (Prov.getLocationCall venue.location), answer⟩
  | topology {boardId : String} (answer : Option Reply) :
    KnowsBoard conv subscriberId operatorId known boardId →
    Permitted ⟨.call (Topology.getCall boardId), answer⟩
  | configuration {gateway : String} (answer : Option Reply) :
    KnowsGateway conv subscriberId operatorId known gateway →
    Permitted ⟨.call (Gw.getConfigCall "" gateway), answer⟩

/-- The keys of a topology which are filtered, or set by the portal. -/
def finalizedKeys : List String := ["nodes", "edges", "historicalClients", "historicalDevices", "timezone"]

/-- A response which shows the equipment of the subscriber in the topology of its venue: the reply, cut down to the
devices of the subscriber, with the time zone of the venue's location, and with the clients flagged as the gateway
blocks them, in that time zone. -/
structure Shown (parser : DateTimeParser) (locateZone : String → Option Zone) (devices : List Gw.SubscriberDevice)
    (reply : Json.Object) (timezone : String) (response : Json.Object) : Prop where
  devices_known : KnowsDevices conv subscriberId operatorId known devices
  reply_known : KnowsReply conv subscriberId operatorId known reply
  timezone_known : KnowsTimezone conv subscriberId operatorId known timezone
  timezone_exists : (locateZone timezone).isSome
  own : ShowsOwn devices (fun type => type ∈ edgeTypes) response
  timezone_shown : response.get? "timezone" = some (.str timezone)
  tagged : ∃ blocked, KnowsBlocked conv subscriberId operatorId known parser locateZone timezone blocked ∧
    ResponseTagged blocked
      ((filterTopologyEdges devices (filterTopologyNodes devices reply)).set "timezone" (.str timezone)) response
  passed_on : ∀ key, key ∉ finalizedKeys → response.get? key = reply.get? key

/-- An answer which ends a request early: an error, or the empty topology of a subscriber without a gateway. -/
def EndsEarly (sent : HandlerAnswer) : Prop :=
  sent.status ≠ HTTPStatus.ok ∨
    sent = HandlerAnswer.returnObject [] ∧
      ∃ devices, KnowsDevices conv subscriberId operatorId known devices ∧ gatewaySerialOf devices = ""

end Known

section Later

variable {conv : Conversions} {subscriberId operatorId : String} {known later : List Portal.Event}

/-- What is known stays known. -/
lemma KnowsDevices.weaken {devices : List Gw.SubscriberDevice}
    (h : KnowsDevices conv subscriberId operatorId known devices) :
    KnowsDevices conv subscriberId operatorId (known ++ later) devices := by
  obtain ⟨listing, mem, rest⟩ := h
  exact ⟨listing, List.mem_append_left _ mem, rest⟩

lemma KnowsGateway.weaken {gateway : String} (h : KnowsGateway conv subscriberId operatorId known gateway) :
    KnowsGateway conv subscriberId operatorId (known ++ later) gateway := by
  obtain ⟨devices, listed, rest⟩ := h
  exact ⟨devices, listed.weaken, rest⟩

/-- So it is of the venue of the gateway. -/
lemma KnowsVenue.weaken {venueId : String} (h : KnowsVenue conv subscriberId operatorId known venueId) :
    KnowsVenue conv subscriberId operatorId (known ++ later) venueId := by
  obtain ⟨gateway, found, gatewayKnown, mem, rest⟩ := h
  exact ⟨gateway, found, gatewayKnown.weaken, List.mem_append_left _ mem, rest⟩

/-- And of what that venue is. -/
lemma KnowsBoards.weaken {venue : Prov.BoardedVenue} (h : KnowsBoards conv subscriberId operatorId known venue) :
    KnowsBoards conv subscriberId operatorId (known ++ later) venue := by
  obtain ⟨venueId, found, venueKnown, mem, rest⟩ := h
  exact ⟨venueId, found, venueKnown.weaken, List.mem_append_left _ mem, rest⟩

/-- Of its board. -/
lemma KnowsBoard.weaken {boardId : String} (h : KnowsBoard conv subscriberId operatorId known boardId) :
    KnowsBoard conv subscriberId operatorId (known ++ later) boardId := by
  obtain ⟨venue, boards, venueKnown, rest⟩ := h
  exact ⟨venue, boards, venueKnown.weaken, rest⟩

/-- Of its time zone. -/
lemma KnowsTimezone.weaken {timezone : String} (h : KnowsTimezone conv subscriberId operatorId known timezone) :
    KnowsTimezone conv subscriberId operatorId (known ++ later) timezone := by
  obtain ⟨venue, found, venueKnown, mem, rest⟩ := h
  exact ⟨venue, found, venueKnown.weaken, List.mem_append_left _ mem, rest⟩

/-- And of the topology of the board. -/
lemma KnowsReply.weaken {reply : Json.Object} (h : KnowsReply conv subscriberId operatorId known reply) :
    KnowsReply conv subscriberId operatorId (known ++ later) reply := by
  obtain ⟨boardId, found, boardKnown, mem, rest⟩ := h
  exact ⟨boardId, found, boardKnown.weaken, List.mem_append_left _ mem, rest⟩

end Later

/-- A request which starts from an empty object ends with one. -/
lemma lenient_object (answer : Option Reply) :
    ∃ status reply, OpenAPIRequest.lenient (some []) answer = (status, some reply) := by
  cases answer with
  | none => exact ⟨_, _, rfl⟩
  | some r =>
    cases parsed : r.body.parse with
    | none => exact ⟨r.status, [], by rw [OpenAPIRequest.lenient, parsed, Option.none_or]⟩
    | some o => exact ⟨r.status, o, by rw [OpenAPIRequest.lenient, parsed, Option.some_or]⟩

/-! ## The end of a request -/

section Finalize

variable {conv : Conversions} {parser : DateTimeParser} {locateZone : String → Option Zone}
  {subscriberId operatorId gateway timezone key : String} {known tr : List Portal.Event}
  {devices : List Gw.SubscriberDevice} {reply response : Json.Object}

/-- Filtering the edges leaves the other keys. -/
lemma filterTopologyEdges_get? (ne : "edges" ≠ key) :
    (filterTopologyEdges devices reply).get? key = reply.get? key := by
  rw [filterTopologyEdges]
  split
  case h_1 => rfl
  case h_2 => exact Json.Object.get?_set_of_ne _ _ ne

/-- The time zone is neither flagged nor a flag. -/
lemma ResponseTagged.set_timezone {blocked : OrderedMap String String} {r r' : Json.Object}
    (tagged : ResponseTagged blocked r r') (zone : Json) :
    ResponseTagged blocked (r.set "timezone" zone) (r'.set "timezone" zone) where
  historical devices given := by
    have same : r.getArray? "historicalDevices" = some devices := by
      rw [← given, Json.Object.getArray?, Json.Object.getArray?, Json.Object.get?_set_of_ne _ _ (by decide)]
    rw [Json.Object.get?_set_of_ne _ _ (by decide), Json.Object.get?_set_of_ne _ _ (by decide)]
    exact tagged.historical devices same
  noHistorical absent k which := by
    have ne : "timezone" ≠ k := by
      rcases which with rfl | rfl
      · decide
      · decide
    rw [Json.Object.get?_set_of_ne _ _ ne, Json.Object.get?_set_of_ne _ _ ne]
    refine tagged.noHistorical ?_ k which
    rw [← absent, Json.Object.getArray?, Json.Object.getArray?, Json.Object.get?_set_of_ne _ _ (by decide)]
  nodes nodes given := by
    have same : r.getArray? "nodes" = some nodes := by
      rw [← given, Json.Object.getArray?, Json.Object.getArray?, Json.Object.get?_set_of_ne _ _ (by decide)]
    obtain ⟨nodes', given', all⟩ := tagged.nodes nodes same
    refine ⟨nodes', ?_, all⟩
    rw [← given', Json.Object.getArray?, Json.Object.getArray?, Json.Object.get?_set_of_ne _ _ (by decide)]
  noNodes absent := by
    rw [Json.Object.get?_set_of_ne _ _ (by decide), Json.Object.get?_set_of_ne _ _ (by decide)]
    apply tagged.noNodes
    rw [← absent, Json.Object.getArray?, Json.Object.getArray?, Json.Object.get?_set_of_ne _ _ (by decide)]
  others k ne1 ne2 ne3 := by
    by_cases zone_eq : "timezone" = k
    · rw [← zone_eq, Json.Object.get?_set_self, Json.Object.get?_set_self]
    · rw [Json.Object.get?_set_of_ne _ _ zone_eq, Json.Object.get?_set_of_ne _ _ zone_eq]
      exact tagged.others k ne1 ne2 ne3

/-- What a finalized topology shows is the subscriber's, with the flags of the clients, and the rest of the reply is
passed on. -/
lemma finalizeTopologyResponse_shows
    (h : Trace (finalizeTopologyResponse conv parser locateZone devices gateway timezone reply) tr response) :
    ShowsOwn devices (fun type => type ∈ edgeTypes) response ∧
      response.get? "timezone" = some (.str timezone) ∧
      (∃ blocked, Trace (fetchBlockedMacs conv parser locateZone gateway timezone) tr blocked ∧
        ResponseTagged blocked
          ((filterTopologyEdges devices (filterTopologyNodes devices reply)).set "timezone" (.str timezone))
          response) ∧
      ∀ key, key ∉ finalizedKeys → response.get? key = reply.get? key := by
  obtain ⟨tr1, tr2, tagged, rfl, h1, h2⟩ := trace_bind.mp h
  obtain ⟨rfl, rfl⟩ := trace_pure.mp h2
  obtain ⟨tr3, tr4, blockedMacMap, rfl, h3, h4⟩ := trace_bind.mp h1
  obtain ⟨rfl, rfl⟩ := trace_pure.mp h4
  rw [List.append_nil, List.append_nil]
  refine ⟨?_, Json.Object.get?_set_self _ _ _, ⟨blockedMacMap, h3, ?_⟩, fun key other => ?_⟩
  · have historical : ShowsOwn devices (fun type => type ∈ edgeTypes)
        (tagHistoricalDevices conv blockedMacMap
          (filterTopologyEdges devices (filterTopologyNodes devices reply))) :=
      filtered_showsOwn.congr (tagHistoricalDevices_get? conv _ (by decide) (by decide))
        (tagHistoricalDevices_get? conv _ (by decide) (by decide))
    exact (tagNodes_showsOwn blockedMacMap historical).congr
      (Json.Object.get?_set_of_ne _ _ (by decide)) (Json.Object.get?_set_of_ne _ _ (by decide))
  · exact (response_tagged conv (fetchBlockedMacs_normalKeys h3) _).set_timezone (.str timezone)
  · simp only [finalizedKeys, List.mem_cons, List.not_mem_nil, or_false, not_or] at other
    obtain ⟨nodes, edges, clients, historical, zone⟩ := other
    rw [Json.Object.get?_set_of_ne _ _ (Ne.symm zone), tagNodes_get? nodes,
      tagHistoricalDevices_get? conv _ (Ne.symm clients) (Ne.symm historical),
      filterTopologyEdges_get? (Ne.symm edges)]
    exact get?_filterArray_of_ne (Ne.symm nodes)

/-- The blocked clients are those of the gateway's configuration, at the time which the clock told. -/
lemma fetchBlockedMacs_known {blocked : OrderedMap String String}
    (gatewayKnown : KnowsGateway conv subscriberId operatorId known gateway)
    (h : Trace (fetchBlockedMacs conv parser locateZone gateway timezone) tr blocked) :
    KnowsBlocked conv subscriberId operatorId (known ++ tr) parser locateZone timezone blocked := by
  obtain ⟨tr1, tr2, r, rfl, h1, h2⟩ := trace_bind.mp h
  obtain ⟨found, rfl, success, read⟩ := Gw.getConfig_inv h1
  refine ⟨gateway, found, gatewayKnown.weaken, List.mem_append_right _ (List.mem_cons_self ..), ?_⟩
  dsimp only at h2
  rw [Gw.configurationIn_eq success read] at h2
  split at h2
  case h_1 absent =>
    obtain ⟨_, rfl⟩ := trace_pure.mp h2
    exact .inl ⟨by rw [absent, Option.bind_none], rfl⟩
  case h_2 config holds =>
    split at h2
    case h_1 absent =>
      obtain ⟨_, rfl⟩ := trace_pure.mp h2
      exact .inl ⟨by rw [holds, Option.bind_some, absent], rfl⟩
    case h_2 =>
      obtain ⟨t, rest, rfl, h3⟩ := trace_perform_bind.mp h2
      obtain ⟨rfl, rfl⟩ := trace_pure.mp h3
      exact .inr ⟨config, t, holds, by simp, rfl⟩

/-- Only the configuration of the gateway is asked for, and the clock. -/
lemma fetchBlockedMacs_permitted (gatewayKnown : KnowsGateway conv subscriberId operatorId known gateway) :
    AsksAfter (Permitted conv subscriberId operatorId) known
      (fetchBlockedMacs conv parser locateZone gateway timezone) := by
  refine AsksAfter.bind ?_ fun tr r h => ?_
  · intro tr r h
    obtain ⟨answer, rfl, _⟩ := Gw.getConfig_inv h
    exact .singleton (.configuration answer gatewayKnown)
  · dsimp only
    split
    case h_1 => exact .pure _
    case h_2 =>
      split
      case h_1 => exact .pure _
      case h_2 =>
        refine AsksAfter.bind ?_ fun _ _ _ => .pure _
        intro tr t h
        rw [trace_perform.mp h]
        exact .singleton (.clock t)

/-- To finalize a topology, nothing else is asked for. -/
lemma finalizeTopologyResponse_permitted
    (gatewayKnown : KnowsGateway conv subscriberId operatorId known gateway) :
    AsksAfter (Permitted conv subscriberId operatorId) known
      (finalizeTopologyResponse conv parser locateZone devices gateway timezone reply) :=
  ((fetchBlockedMacs_permitted gatewayKnown).bind fun _ _ _ => .pure _).bind fun _ _ _ => .pure _

end Finalize

/-! ## The steps of a request -/

section Steps

variable {conv : Conversions} {parser : DateTimeParser} {locateZone : String → Option Zone}
  {user : Security.UserInfoAndPolicy} {subscriberId operatorId gateway : String} {known : List Portal.Event}

/-- What the steps of a request obtain. -/
abbrev Fetches (conv : Conversions) (subscriberId operatorId : String) {α : Type}
    (knows : List Portal.Event → α → Prop) (known : List Portal.Event) (steps : Handling α) : Prop :=
  Obtains (Permitted conv subscriberId operatorId) knows (EndsEarly conv subscriberId operatorId) known steps

/-- A failed request is not forwarded as a success. -/
lemma forwarded_endsEarly {callStatus : HTTPStatus} {callResponse : Option Json.Object}
    (failed : callStatus ≠ HTTPStatus.ok) :
    EndsEarly conv subscriberId operatorId known (HandlerAnswer.forwardErrorResponse callStatus callResponse) :=
  .inl failed

/-- A bad request ends a request early. -/
lemma badRequest_endsEarly {e : ErrorMsg} :
    EndsEarly conv subscriberId operatorId known (HandlerAnswer.badRequest "GET" e "") :=
  .inl (show HTTPStatus.badRequest ≠ HTTPStatus.ok by decide)

/-- So does an internal error. -/
lemma internalError_endsEarly {e : ErrorMsg} :
    EndsEarly conv subscriberId operatorId known (HandlerAnswer.internalError "GET" e) :=
  .inl (show HTTPStatus.internalServerError ≠ HTTPStatus.ok by decide)

/-- And what is not found. -/
lemma notFound_endsEarly : EndsEarly conv subscriberId operatorId known (HandlerAnswer.notFound "GET") :=
  .inl (show HTTPStatus.notFound ≠ HTTPStatus.ok by decide)

/-- A reply which was not read ends the request. -/
lemma fetches_failure {α : Type} {knows : List Portal.Event → α → Prop} {callStatus : HTTPStatus}
    {callResponse : Option Json.Object} {e : ErrorMsg} :
    Fetches conv subscriberId operatorId knows known
      (if callStatus ≠ HTTPStatus.ok then throw (HandlerAnswer.forwardErrorResponse callStatus callResponse)
        else throw (HandlerAnswer.internalError "GET" e)) :=
  .ite (fun failed => .throw (forwarded_endsEarly failed)) fun _ => .throw internalError_endsEarly

/-- The devices of the user are listed. -/
lemma fetchSubscriberDevices_fetches :
    Fetches conv user.userinfo.id user.userinfo.owner (KnowsDevices conv user.userinfo.id user.userinfo.owner)
      known (fetchSubscriberDevices conv user) := by
  refine Obtains.lift_bind fun tr r h => ?_
  obtain ⟨listing, rfl, listed, -⟩ := Prov.getDevices_inv h
  refine ⟨.singleton (.devices listing), ?_⟩
  obtain ⟨devices, callStatus, callResponse⟩ := r
  cases devices with
  | none => exact .ite (fun _ => .throw badRequest_endsEarly) fun _ => fetches_failure
  | some devices => exact .pure ⟨listing, List.mem_append_right _ (List.mem_singleton_self _), listed.symm⟩

/-- The first device of the gateway group is the gateway. -/
lemma findGatewaySerial_fetches {devices : List Gw.SubscriberDevice}
    (listed : KnowsDevices conv subscriberId operatorId known devices) :
    Fetches conv subscriberId operatorId (KnowsGateway conv subscriberId operatorId) known
      (findGatewaySerial devices) :=
  .ite (fun none => .throw (.inr ⟨rfl, devices, listed, none⟩)) fun serial => .pure ⟨devices, listed, rfl, serial⟩

/-- The venue is the one of the gateway's inventory record. -/
lemma fetchVenue_fetches (gatewayKnown : KnowsGateway conv subscriberId operatorId known gateway) :
    Fetches conv subscriberId operatorId (KnowsBoards conv subscriberId operatorId) known
      (fetchVenue conv gateway) := by
  refine .ite (fun _ => .throw badRequest_endsEarly) fun _ => ?_
  refine Obtains.lift_bind fun tr inventory h => ?_
  obtain ⟨found, rfl, read⟩ := Prov.getInventory_inv h
  refine ⟨.singleton (.inventory found gatewayKnown), ?_⟩
  cases inventory with
  | none => exact .throw badRequest_endsEarly
  | some inventory =>
    refine .ite (fun _ => .throw badRequest_endsEarly) fun placed => ?_
    have venueKnown : KnowsVenue conv subscriberId operatorId
        (known ++ [⟨.call (Prov.inventoryCall "" gateway), found⟩]) inventory.venue :=
      ⟨gateway, found, gatewayKnown.weaken, List.mem_append_right _ (List.mem_singleton_self _), read.symm,
        placed⟩
    refine Obtains.lift_bind fun tr r h => ?_
    obtain ⟨answer, rfl, read⟩ := Prov.getVenue_inv h
    refine ⟨.singleton (.venue answer venueKnown), ?_⟩
    obtain ⟨venue, callStatus, callResponse⟩ := r
    cases venue with
    | none => exact fetches_failure
    | some venue =>
      exact .pure ⟨inventory.venue, answer, venueKnown.weaken,
        List.mem_append_right _ (List.mem_singleton_self _), read.symm⟩

/-- The time zone is that of the venue's location. -/
lemma fetchTimezone_fetches {venue : Prov.BoardedVenue}
    (venueKnown : KnowsBoards conv subscriberId operatorId known venue) (placed : venue.location ≠ "") :
    Fetches conv subscriberId operatorId
      (fun known timezone => KnowsTimezone conv subscriberId operatorId known timezone ∧
        (locateZone timezone).isSome)
      known (fetchTimezone conv locateZone venue.location) := by
  refine Obtains.lift_bind fun tr r h => ?_
  obtain ⟨found, rfl, read, -⟩ := Prov.getLocation_inv h
  refine ⟨.singleton (.location found venueKnown placed), ?_⟩
  obtain ⟨location, callStatus, callResponse⟩ := r
  cases location with
  | none => exact fetches_failure
  | some location =>
    refine .ite (fun _ => .throw badRequest_endsEarly) fun _ => ?_
    refine .ite (fun _ => .throw badRequest_endsEarly) fun exists_ => .pure ⟨?_, ?_⟩
    · exact ⟨venue, found, venueKnown.weaken, List.mem_append_right _ (List.mem_singleton_self _), read.symm⟩
    · exact Option.isSome_iff_ne_none.mpr fun none => exists_ (Option.isNone_iff_eq_none.mpr none)

/-- The board and the time zone are those of the venue. -/
lemma resolveVenueTopologyContext_fetches
    (gatewayKnown : KnowsGateway conv subscriberId operatorId known gateway) :
    Fetches conv subscriberId operatorId
      (fun known context => KnowsBoard conv subscriberId operatorId known context.boardId ∧
        KnowsTimezone conv subscriberId operatorId known context.timezone ∧
        (locateZone context.timezone).isSome)
      known (resolveVenueTopologyContext conv locateZone gateway) := by
  refine (fetchVenue_fetches gatewayKnown).bind fun known venue venueKnown => ?_
  split
  case h_1 => exact .throw notFound_endsEarly
  case h_2 boardId boards first =>
    refine .ite (fun _ => .throw notFound_endsEarly) fun named => ?_
    refine .ite (fun _ => .throw badRequest_endsEarly) fun placed => ?_
    have boardKnown : KnowsBoard conv subscriberId operatorId known boardId :=
      ⟨venue, boards, venueKnown, first, named⟩
    refine ((fetchTimezone_fetches venueKnown placed).frame
      (fun known => KnowsBoard conv subscriberId operatorId known boardId) fun _ => boardKnown.weaken).bind ?_
    exact fun known timezone resolved => .pure resolved

/-- The topology is that of the board. -/
lemma fetchTopology_fetches {boardId : String} (boardKnown : KnowsBoard conv subscriberId operatorId known boardId) :
    Fetches conv subscriberId operatorId (KnowsReply conv subscriberId operatorId) known
      (fetchTopology boardId) := by
  refine Obtains.lift_bind fun tr r h => ?_
  obtain ⟨found, rfl, rfl⟩ := Topology.get_inv h
  refine ⟨.singleton (.topology found boardKnown), ?_⟩
  refine .ite (fun fetched => ?_) fun _ => fetches_failure
  -- the request starts from an empty object, which is kept where the reply holds none
  obtain ⟨status, reply, replied⟩ := lenient_object found
  have ok : (OpenAPIRequest.lenient (some []) found).1 = HTTPStatus.ok := of_decide_eq_true fetched
  have whole : OpenAPIRequest.lenient (some []) found =
      (HTTPStatus.ok, some ((OpenAPIRequest.lenient (some []) found).2.getD [])) := by
    rw [replied] at ok ⊢
    rw [show status = HTTPStatus.ok from ok]
    rfl
  exact .pure ⟨boardId, found, boardKnown.weaken, List.mem_append_right _ (List.mem_singleton_self _), whole⟩

/-- A request shows the subscriber's equipment, or ends early. -/
lemma showTopology_fetches :
    Fetches conv user.userinfo.id user.userinfo.owner
      (fun known response => ∃ devices reply timezone,
        Shown conv user.userinfo.id user.userinfo.owner known parser locateZone devices reply timezone response)
      known (showTopology conv parser locateZone user) := by
  refine .ite (fun _ => .throw notFound_endsEarly) fun _ => ?_
  refine fetchSubscriberDevices_fetches.bind fun known devices listed => ?_
  refine ((findGatewaySerial_fetches listed).frame (fun known => KnowsDevices conv _ _ known devices)
    fun _ => listed.weaken).bind fun known gateway h => ?_
  obtain ⟨listed, gatewayKnown⟩ := h
  refine ((resolveVenueTopologyContext_fetches gatewayKnown).frame
    (fun known => KnowsDevices conv _ _ known devices ∧ KnowsGateway conv _ _ known gateway)
    fun _ => ⟨listed.weaken, gatewayKnown.weaken⟩).bind fun known context h => ?_
  obtain ⟨⟨listed, gatewayKnown⟩, boardKnown, timezoneKnown, exists_⟩ := h
  refine ((fetchTopology_fetches boardKnown).frame
    (fun known => KnowsDevices conv _ _ known devices ∧ KnowsGateway conv _ _ known gateway ∧
      KnowsTimezone conv _ _ known context.timezone)
    fun _ => ⟨listed.weaken, gatewayKnown.weaken, timezoneKnown.weaken⟩).bind fun known reply h => ?_
  obtain ⟨⟨listed, gatewayKnown, timezoneKnown⟩, replied⟩ := h
  refine Obtains.lift fun tr response h => ⟨finalizeTopologyResponse_permitted gatewayKnown tr response h, ?_⟩
  obtain ⟨own, shown, ⟨blocked, fetched, tagged⟩, passed⟩ := finalizeTopologyResponse_shows h
  exact ⟨devices, reply, context.timezone, listed.weaken, replied.weaken, timezoneKnown.weaken, exists_, own,
    shown, ⟨blocked, fetchBlockedMacs_known gatewayKnown fetched, tagged⟩, passed⟩

end Steps

namespace OneBoard

def user : Security.UserInfoAndPolicy where
  userinfo := { id := "s", owner := "o" }

/-- A reply with this object. -/
def holding (o : Json.Object) : Option Reply := some ⟨HTTPStatus.ok, .json (.obj o)⟩

def listing : Option Reply :=
  holding [("subscriberDevices",
    .arr [.obj [("deviceGroup", .str "OLG"), ("serialNumber", .str "aaaaaaaaaaaa")]])]

/-- A client of an access point. -/
def client (o : Json.Object) : Json.Object :=
  [("serial", .str "aaaaaaaaaaaa"), ("aps", .arr [.obj [("clients", .arr [.obj o])]])]

/-- The reply shows a client of the gateway, and a device of somebody else. -/
def reply : Json.Object :=
  [("nodes", .arr [.obj (client [("station", .str "11:22:33:44:55:66")]), .obj [("serial", .str "bbbbbbbbbbbb")]])]

def response : Json.Object :=
  [("nodes", .arr [.obj (client [("blocked", .str "1"), ("blocked_until", .str "indefinite"),
    ("station", .str "11:22:33:44:55:66")])]), ("timezone", .str "UTC")]

def command (op key value : String) : Json := .arr [.str op, .str key, .str value]

/-- The client is blocked without an end. -/
def configRaw : List Json :=
  [command "set" "firewall.pc_client_access_1" "rule", command "set" "firewall.pc_client_access_1.enabled" "1",
    command "add_list" "firewall.pc_client_access_1.src_mac" "11:22:33:44:55:66"]

def events : List Portal.Event :=
  [⟨.call (Prov.getDevicesCall "" "s" "o"), listing⟩,
    ⟨.call (Prov.inventoryCall "" "aaaaaaaaaaaa"), holding [("venue", .str "v")]⟩,
    ⟨.call (Prov.getVenueCall "v"), holding [("boards", .arr [.str "b"]), ("location", .str "l")]⟩,
    ⟨.call (Prov.getLocationCall "l"), holding [("timezone", .str "UTC")]⟩,
    ⟨.call (Topology.getCall "b"), holding reply⟩,
    ⟨.call (Gw.getConfigCall "" "aaaaaaaaaaaa"), holding [("configuration", .obj [("config-raw", .arr configRaw)])]⟩,
    ⟨.now, 0⟩]

/-- Every time zone exists. -/
def anyZone (_ : String) : Option Zone := some (.fixed 0)

end OneBoard

end RestApi.TopologyHandler

end UserPortal

import UserPortal.RestApi.FirewallRules
import UserPortal.Sdk.Gw

/-!
# The topology handler

Port of the end of `src/RESTAPI/RESTAPI_topology_handler.cpp`, which makes the response to a topology
request out of the reply of the topology service: `FinalizeTopologyResponse` and what it calls. The
reply is changed in place there, and handed on here.

`std::unordered_set` and `std::unordered_map` are lists, of which only the lookup is used.
-/

namespace UserPortal.RestApi.TopologyHandler
open Interaction Calendar Data Sdk ParentalControl

/-! ## Filters -/

/-- `BuildAllowedSerialsSet` -/
def buildAllowedSerialsSet (subscriberDevices : List Gw.SubscriberDevice) : List String :=
  (subscriberDevices.map fun device => device.serialNumber).filter fun serial => serial ≠ ""

/-- Keep the elements of an array of the object, if it has that array. -/
def filterArray (keep : Json → Bool) (o : Json.Object) (key : String) : Json.Object :=
  match o.getArray? key with
  | some elements => o.set key (.arr (elements.filter keep))
  | none => o

/-- The edge types which are filtered. -/
def edgeTypes : List String := ["mesh", "wired"]

/-- The edge is between devices of the set. -/
def keepsEdge (allowedSerials : List String) (edge : Json) : Bool :=
  match edge.object? with
  | none => false
  | some edge =>
    match edge.getString? "from", edge.getString? "to" with
    | some fromSerial, some toSerial =>
      allowedSerials.contains fromSerial && allowedSerials.contains toSerial
    | _, _ => false

/-- `FilterTopologyEdges` -/
def filterTopologyEdges (subscriberDevices : List Gw.SubscriberDevice)
    (topologyResponse : Json.Object) : Json.Object :=
  match topologyResponse.getObject? "edges" with
  | none => topologyResponse
  | some edges =>
    topologyResponse.set "edges" (.obj
      (edgeTypes.foldl (filterArray (keepsEdge (buildAllowedSerialsSet subscriberDevices))) edges))

/-- The node is a device of the set. -/
def keepsNode (allowedSerials : List String) (node : Json) : Bool :=
  match node.object? with
  | none => false
  | some node =>
    match node.getString? "serial" with
    | some serial => allowedSerials.contains serial
    | none => false

/-- `FilterTopologyNodes` -/
def filterTopologyNodes (subscriberDevices : List Gw.SubscriberDevice)
    (topologyResponse : Json.Object) : Json.Object :=
  filterArray (keepsNode (buildAllowedSerialsSet subscriberDevices)) topologyResponse "nodes"

/-! ## Blocked clients -/

variable (conv : Conversions) (parser : DateTimeParser) (locateZone : String → Option Zone)

/-- The first part of `TagBlockedClients`: the blocked clients by the configuration of the gateway, none
where there is no configuration. The clock is read only where there are rules. -/
def fetchBlockedMacs (gatewaySerial timezoneStr : String) : Portal (OrderedMap String String) := do
  let r ← Gw.getConfig "" gatewaySerial
  let deviceObj := if r.success then r.response else none
  match deviceObj.bind fun o => o.getObject? "configuration" with
  | none => return .empty
  | some config =>
    match config.getArray? "config-raw" with
    | none => return .empty
    | some _ => do
      let t ← Portal.clock
      return (getBlockedClients conv parser locateZone (.ofTimestamp t) timezoneStr (some config)).2

/-- The end of the block of a station, in `blockedMacSet`, of which an entry replaces those before. -/
def blockedUntil (blockedMacMap : OrderedMap String String) (station : String) : Option String :=
  (blockedMacMap.entries.reverse.find? fun e => Utils.serialToMAC e.1 = Utils.toLower station).map
    fun e => e.2

/-- The entry of a historical client, `none` for an element which is no string. -/
def historicalClient (blockedMacMap : OrderedMap String String) (element : Json) : Option Json :=
  match conv.toString element with
  | none => none
  | some station =>
    match blockedUntil blockedMacMap station with
    | some untilStr =>
      some (.obj [("blocked", .str "1"), ("blocked_until", .str untilStr), ("station", .str station)])
    | none => some (.obj [("blocked", .str "0"), ("station", .str station)])

/-- The historical clients, in place of the historical devices. -/
def tagHistoricalDevices (blockedMacMap : OrderedMap String String) (topologyResponse : Json.Object) :
    Json.Object :=
  match topologyResponse.getArray? "historicalDevices" with
  | none => topologyResponse
  | some historicalDevices =>
    (topologyResponse.set "historicalClients"
      (.arr (historicalDevices.filterMap (historicalClient conv blockedMacMap)))).remove
        "historicalDevices"

/-- Flag a client with a station. -/
def tagClient (blockedMacMap : OrderedMap String String) (j : Json) : Json :=
  match j.object? with
  | none => j
  | some client =>
    match client.getString? "station" with
    | none => j
    | some station =>
      match blockedUntil blockedMacMap station with
      | some untilStr => .obj ((client.set "blocked" (.str "1")).set "blocked_until" (.str untilStr))
      | none => .obj ((client.set "blocked" (.str "0")).remove "blocked_until")

/-- Change the elements of an array inside a value, if it is an object with that array. -/
def mapArray (f : Json → Json) (key : String) (j : Json) : Json :=
  match j.object? with
  | none => j
  | some o =>
    match o.getArray? key with
    | none => j
    | some elements => .obj (o.set key (.arr (elements.map f)))

/-- Flag the clients of an access point. -/
def tagAp (blockedMacMap : OrderedMap String String) : Json → Json :=
  mapArray (tagClient blockedMacMap) "clients"

/-- Flag the clients of a node. -/
def tagNode (blockedMacMap : OrderedMap String String) : Json → Json :=
  mapArray (tagAp blockedMacMap) "aps"

/-- Flag the clients of the nodes. -/
def tagNodes (blockedMacMap : OrderedMap String String) (topologyResponse : Json.Object) : Json.Object :=
  match topologyResponse.getArray? "nodes" with
  | none => topologyResponse
  | some nodes => topologyResponse.set "nodes" (.arr (nodes.map (tagNode blockedMacMap)))

/-- `TagBlockedClients` -/
def tagBlockedClients (gatewaySerial : String) (topologyResponse : Json.Object) (timezoneStr : String) :
    Portal Json.Object := do
  let blockedMacMap ← fetchBlockedMacs conv parser locateZone gatewaySerial timezoneStr
  return tagNodes blockedMacMap (tagHistoricalDevices conv blockedMacMap topologyResponse)

/-- `FinalizeTopologyResponse` -/
def finalizeTopologyResponse (subscriberDevices : List Gw.SubscriberDevice)
    (gatewaySerial timezone : String) (topologyResponse : Json.Object) : Portal Json.Object := do
  let topologyResponse := filterTopologyNodes subscriberDevices topologyResponse
  let topologyResponse := filterTopologyEdges subscriberDevices topologyResponse
  let topologyResponse ←
    tagBlockedClients conv parser locateZone gatewaySerial topologyResponse timezone
  return topologyResponse.set "timezone" (.str timezone)

end UserPortal.RestApi.TopologyHandler

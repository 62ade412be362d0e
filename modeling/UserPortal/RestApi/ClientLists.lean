import Mathlib.Algebra.Group.Int.Defs
import Mathlib.Algebra.Group.Nat.Defs
import UserPortal.Data.Ordered
import UserPortal.Json.Value

/-!
# Client lists

Port of what `src/RESTAPI/RESTAPI_wiredClients_handler.cpp` and
`src/RESTAPI/RESTAPI_wifiClients_handler.cpp` answer for the last statistics of a device.

Both read the document in a `try` block. `none` is where the block is left: an element which is no
object, or a value of another type than the one asked for. The handlers also index constant objects with
keys which may be missing, which the library does not define: this is `none` as well.
-/

namespace UserPortal.RestApi.ClientLists
open Data

/-! ## Reading -/

/-- The elements of an array of an object, if it has that array: `contains` and `is_array`. -/
def elements (v : Json) (key : String) : List Json :=
  match v with
  | .obj o => (Json.Object.getArray? o key).getD []
  | _ => []

/-- `v[key]` -/
def item (v : Json) (key : String) : Option Json :=
  match v with
  | .obj o => Json.Object.get? o key
  | _ => none

/-- `get<std::string>` -/
def string? : Json → Option String
  | .str s => some s
  | _ => none

/-- `v[key].get<std::string>()` -/
def getString (v : Json) (key : String) : Option String := (item v key).bind string?

/-- `get<int32_t>`, which wraps. -/
def int32? : Json → Option Int
  | .int n => some (n.bmod (2 ^ 32))
  | .frac m e => some ((m.tdiv (10 ^ e)).bmod (2 ^ 32))
  | .bool b => some (if b then 1 else 0)
  | _ => none

/-- `get<uint64_t>`, which wraps, and is only for numbers. -/
def uint64? : Json → Option Nat
  | .int n => some (n % 2 ^ 64).toNat
  | .frac m e => some (m.tdiv (10 ^ e) % 2 ^ 64).toNat
  | _ => none

/-- The first address of a client. -/
def firstAddress (client : Json) (key : String) : Option String :=
  match elements client key with
  | [] => some ""
  | address :: _ => string? address

/-- The last address of a client, after a loop over all of them. -/
def lastAddress (client : Json) (key : String) : Option String :=
  (elements client key).foldlM (fun _ address => string? address) ""

/-! ## Wired clients -/

/-- `SubObjects::Client` -/
structure Client where
  macAddress : String
  speed : String := ""
  mode : String := ""
  ipv4 : String := ""
  ipv6 : String := ""
  tx : Nat := 0
  rx : Nat := 0
  manufacturer : String := ""
  deriving DecidableEq

/-- The stations of an interface. -/
def wifiMacs (iface : Json) : Option (List String) :=
  (elements iface "ssids").foldlM
    (fun macs ssid =>
      (elements ssid "associations").foldlM
        (fun macs client => (getString client "station").map fun station => insertKey station macs) macs)
    []

/-- The IPv4 address of a wired client. -/
def wiredIpv4 (client : Json) : Option String := lastAddress client "ipv4_addresses"

def wiredClient (client : Json) (mac : String) : Option Client := do
  let ipv6 ← firstAddress client "ipv6_addresses"
  let ipv4 ← wiredIpv4 client
  return { macAddress := mac, ipv6, ipv4, tx := 0, rx := 0, speed := "auto", mode := "auto" }

/-- One client of an interface: it is wired where no station of the interface has its MAC. -/
def pushClient (wifiMacs : List String) (clients : List Client) (client : Json) : Option (List Client) := do
  let mac ← getString client "mac"
  if mac ∈ wifiMacs then return clients
  else
    let wired ← wiredClient client mac
    return clients ++ [wired]

def wiredInterface (clients : List Client) (iface : Json) : Option (List Client) := do
  let macs ← wifiMacs iface
  (elements iface "clients").foldlM (pushClient macs) clients

/-- The clients which `RESTAPI_wiredClients_handler::DoGet` lists. -/
def wiredClients (stats : Json) : Option (List Client) :=
  (elements stats "interfaces").foldlM wiredInterface []

/-! ## Wi-Fi clients -/

/-- `SubObjects::Association` -/
structure Association where
  name : String
  ssid : String
  macAddress : String
  rssi : Int := 0
  power : Int := 0
  ipv4 : String := ""
  ipv6 : String := ""
  tx : Nat := 0
  rx : Nat := 0
  manufacturer : String := ""
  deriving DecidableEq

/-- The IPv4 address of a Wi-Fi client. -/
def wifiIpv4 (client : Json) : Option String := firstAddress client "ipv4_addresses"

/-- One client of an interface, with its IPv4 and its IPv6 address. -/
def putIps (ips : OrderedMap String (String × String)) (client : Json) :
    Option (OrderedMap String (String × String)) :=
  match item client "mac" with
  | none => some ips
  | some mac => do
    let ipv6 ← firstAddress client "ipv6_addresses"
    let ipv4 ← wifiIpv4 client
    let mac ← string? mac
    return ips.alter mac (fun _ => (ipv4, ipv6)) (ipv4, ipv6)

def wifiAssociation (ips : OrderedMap String (String × String)) (ssid client : Json) :
    Option Association := do
  let name ← getString ssid "ssid"
  let station ← getString client "station"
  let rssi ← (item client "rssi").bind int32?
  let rx ← (item client "rx_bytes").bind uint64?
  let tx ← (item client "tx_bytes").bind uint64?
  let (ipv4, ipv6) := (ips.get? station).getD ("", "")
  return { ssid := name, macAddress := station, rssi, rx, tx, power := 0, name := station, ipv4, ipv6 }

def pushAssociation (ips : OrderedMap String (String × String)) (ssid : Json)
    (associations : List Association) (client : Json) : Option (List Association) :=
  (wifiAssociation ips ssid client).map fun association => associations ++ [association]

def wifiInterface (associations : List Association) (iface : Json) : Option (List Association) := do
  let ips ← (elements iface "clients").foldlM putIps .empty
  (elements iface "ssids").foldlM
    (fun associations ssid =>
      (elements ssid "associations").foldlM (pushAssociation ips ssid) associations)
    associations

/-- The associations which `RESTAPI_wifiClients_handler::DoGet` lists. -/
def wifiClients (stats : Json) : Option (List Association) :=
  (elements stats "interfaces").foldlM wifiInterface []

/-! ## Manufacturers -/

/-- `GetOUIs`, where the gateway answers the text of the MACs with a list of tags and values, or not. -/
def getOUIs (gateway : String → Option (List (String × String))) (macList : List (String × String)) :
    Option (List (String × String)) :=
  let macs := macList.foldl (fun macs i => if macs = "" then i.1 else macs ++ "," ++ i.1) ""
  (gateway macs).map fun tagList =>
    tagList.foldl (fun macList i => macList.map fun j => if j.1 = i.1 then (j.1, i.2) else j) macList

/-- `AddManufacturers` of both handlers. -/
def addManufacturers {ρ : Type} (gateway : String → Option (List (String × String))) (mac : ρ → String)
    (setManufacturer : ρ → String → ρ) (list : List ρ) : List ρ :=
  match getOUIs gateway (list.map fun i => (mac i, "")) with
  | none => list
  | some macList =>
    macList.foldl (fun list i => list.map fun j => if mac j = i.1 then setManufacturer j i.2 else j) list

/-! ## Answers -/

/-- `Client::to_json` -/
def Client.toJson (c : Client) : Json :=
  .obj (((((((Json.Object.set [] "macAddress" (.str c.macAddress)).set "speed" (.str c.speed)).set "mode"
    (.str c.mode)).set "ipv4" (.str c.ipv4)).set "ipv6" (.str c.ipv6)).set "tx" (.int c.tx)).set "rx"
    (.int c.rx) |>.set "manufacturer" (.str c.manufacturer))

/-- `Association::to_json` -/
def Association.toJson (a : Association) : Json :=
  .obj (((((((((Json.Object.set [] "name" (.str a.name)).set "ssid" (.str a.ssid)).set "macAddress"
    (.str a.macAddress)).set "rssi" (.int a.rssi)).set "power" (.int a.power)).set "ipv4"
    (.str a.ipv4)).set "ipv6" (.str a.ipv6)).set "tx" (.int a.tx)).set "rx" (.int a.rx)
    |>.set "manufacturer" (.str a.manufacturer))

/-- `ClientList::to_json` and `AssociationList::to_json`, with the key of the list. -/
def listToJson (answer : Json.Object) (key : String) (list : List Json) (now : Nat) : Json.Object :=
  ((answer.set key (.arr list)).set "created" (.int now)).set "modified" (.int now)

/-- What the wired handler answers for the last statistics. -/
def wiredAnswer (gateway : String → Option (List (String × String))) (now : Nat) (stats : Json) :
    Json.Object :=
  let answer := (Json.Object.set [] "created" (.int now)).set "modified" (.int now)
  match wiredClients stats with
  | none => answer
  | some clients =>
    let clients := addManufacturers gateway Client.macAddress
      (fun c manufacturer => { c with manufacturer }) clients
    listToJson answer "clients" (clients.map Client.toJson) now

/-- What the Wi-Fi handler answers for the last statistics. -/
def wifiAnswer (gateway : String → Option (List (String × String))) (now : Nat) (stats : Json) :
    Json.Object :=
  match wifiClients stats with
  | none => []
  | some associations =>
    let associations := addManufacturers gateway Association.macAddress
      (fun a manufacturer => { a with manufacturer }) associations
    listToJson [] "associations" (associations.map Association.toJson) now

end UserPortal.RestApi.ClientLists

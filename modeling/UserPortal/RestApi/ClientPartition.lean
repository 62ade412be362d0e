import UserPortal.Framework.Utils
import UserPortal.Interaction.Failure
import UserPortal.RestApi.ClientLists

/-!
# Wired and Wi-Fi clients

Whether the two lists of clients tell the wired clients of a document from those on Wi-Fi. The handlers
work on one interface at a time and compare MACs as they are written; they read IPv4 addresses from
different ends.
-/

namespace UserPortal.RestApi.ClientLists
open Data Interaction

variable {gateway : String → Option (List (String × String))} {now : Nat} {stats iface ssid client : Json}

/-! ## Documents -/

def interfaces (stats : Json) : List Json := elements stats "interfaces"

def clients (iface : Json) : List Json := elements iface "clients"

/-- The associations of an interface, of all its SSIDs. -/
def associations (iface : Json) : List Json :=
  (elements iface "ssids").flatMap fun ssid => elements ssid "associations"

/-- The MACs which occur as associations of an interface. -/
def stations (iface : Json) : List String := (associations iface).filterMap (getString · "station")

/-- The MACs of the client entries of an interface. -/
def macs (iface : Json) : List String := (clients iface).filterMap (getString · "mac")

/-- The MAC occurs as an association of some interface, in any letter case. -/
def Associated (stats : Json) (mac : String) : Prop :=
  ∃ iface ∈ interfaces stats, ∃ station ∈ stations iface, Utils.toLower station = Utils.toLower mac

instance (stats : Json) (mac : String) : Decidable (Associated stats mac) := by
  rw [Associated]
  infer_instance

/-- The MACs of the client entries which are not associated. -/
def otherMacs (stats : Json) : List String :=
  ((interfaces stats).flatMap macs).filter fun mac => ¬ Associated stats mac

/-- The MACs which an answer reports in a list. -/
def reported (answer : Json.Object) (key : String) : List String :=
  (elements (.obj answer) key).filterMap (getString · "macAddress")

/-- There is no address, or the first one is a text. -/
def FirstIsText (client : Json) (key : String) : Prop :=
  ∀ address ∈ (elements client key).head?, address.isString = true

/-- The Wi-Fi handler can read an association. -/
def ReadsAssociation (ssid client : Json) : Prop :=
  (∃ name, getString ssid "ssid" = some name) ∧ (∃ station, getString client "station" = some station) ∧
    (∃ rssi, (item client "rssi").bind int32? = some rssi) ∧
    (∃ rx, (item client "rx_bytes").bind uint64? = some rx) ∧
    ∃ tx, (item client "tx_bytes").bind uint64? = some tx

/-- A value is read as a string if it is one. -/
lemma string?_succeeds {v : Json} : (∃ s, string? v = some s) ↔ v.isString = true := by
  cases v with
  | str s => exact ⟨fun _ => rfl, fun _ => ⟨s, rfl⟩⟩
  | _ => exact ⟨nofun, nofun⟩

/-- The first address is read if it is a text. -/
lemma firstAddress_succeeds {key : String} :
    (∃ a, firstAddress client key = some a) ↔ FirstIsText client key := by
  rw [firstAddress, FirstIsText]
  cases elements client key with
  | nil => exact ⟨fun _ => nofun, fun _ => ⟨"", rfl⟩⟩
  | cons address addresses =>
    show (∃ a, string? address = some a) ↔ _
    rw [string?_succeeds]
    refine ⟨?_, ?_⟩
    · intro text address' first
      cases first
      exact text
    · intro texts
      exact texts address rfl

/-- A wired client is made of its entry. -/
lemma wiredClient_inv {mac : String} {wired : Client} (h : wiredClient client mac = some wired) :
    wired.macAddress = mac ∧ FirstIsText client "ipv6_addresses" ∧ wiredIpv4 client = some wired.ipv4 := by
  obtain ⟨ipv6, eq6, h⟩ := Option.bind_eq_some_iff.mp h
  obtain ⟨ipv4, eq4, h⟩ := Option.bind_eq_some_iff.mp h
  cases h
  exact ⟨rfl, firstAddress_succeeds.mp ⟨ipv6, eq6⟩, eq4⟩

/-- A client with a MAC is passed over or listed. -/
lemma pushClient_inv {found : List String} {listed listed' : List Client}
    (h : pushClient found listed client = some listed') :
    ∃ mac, getString client "mac" = some mac ∧
      ((mac ∈ found ∧ listed' = listed) ∨
        (mac ∉ found ∧ ∃ wired, wiredClient client mac = some wired ∧ listed' = listed ++ [wired])) := by
  obtain ⟨mac, eq, h⟩ := Option.bind_eq_some_iff.mp h
  refine ⟨mac, eq, ?_⟩
  split at h
  case isTrue mem =>
    cases h
    exact .inl ⟨mem, rfl⟩
  case isFalse other =>
    obtain ⟨wired, made, h⟩ := Option.bind_eq_some_iff.mp h
    cases h
    exact .inr ⟨other, wired, made, rfl⟩

/-- The listed client is an entry of the document, with the address of the entry. -/
def WiredEntry (stats : Json) (c : Client) : Prop :=
  ∃ iface ∈ interfaces stats, ∃ client ∈ clients iface,
    getString client "mac" = some c.macAddress ∧ wiredIpv4 client = some c.ipv4

/-- A listed client is an entry of the statistics. -/
lemma pushClient_entry {found : List String} {listed listed' : List Client} (inside : iface ∈ interfaces stats)
    (mem : client ∈ clients iface) (entries : ∀ c ∈ listed, WiredEntry stats c)
    (h : pushClient found listed client = some listed') : ∀ c ∈ listed', WiredEntry stats c := by
  obtain ⟨mac, eq, ⟨_, rfl⟩ | ⟨_, wired, made, rfl⟩⟩ := pushClient_inv h
  · exact entries
  · intro c listed
    obtain ⟨same, _, ipv4⟩ := wiredClient_inv made
    rcases List.mem_append.mp listed with old | new
    · exact entries c old
    · rw [List.mem_singleton.mp new]
      rw [← same] at eq
      exact ⟨iface, inside, client, mem, eq, ipv4⟩

/-- Wired clients are reported with the last of their IPv4 addresses. -/
theorem wiredClients_entries {listed : List Client} (h : wiredClients stats = some listed) :
    ∀ c ∈ listed, WiredEntry stats c := by
  refine foldlM_keeps (fun listed => ∀ c ∈ listed, WiredEntry stats c) ?_ (List.forall_mem_nil _) h
  intro iface inside before after entries run
  obtain ⟨found, _, run⟩ := Option.bind_eq_some_iff.mp run
  exact foldlM_keeps _ (fun client mem _ _ => pushClient_entry inside mem) entries run

/-! ## The Wi-Fi list -/

/-- An association is made of its element and the map of its interface. -/
lemma wifiAssociation_inv {ips : OrderedMap String (String × String)} {a : Association}
    (h : wifiAssociation ips ssid client = some a) :
    ReadsAssociation ssid client ∧ getString client "station" = some a.macAddress ∧
      a.ipv4 = ((ips.get? a.macAddress).getD ("", "")).1 := by
  obtain ⟨name, eq1, h⟩ := Option.bind_eq_some_iff.mp h
  obtain ⟨station, eq2, h⟩ := Option.bind_eq_some_iff.mp h
  obtain ⟨rssi, eq3, h⟩ := Option.bind_eq_some_iff.mp h
  obtain ⟨rx, eq4, h⟩ := Option.bind_eq_some_iff.mp h
  obtain ⟨tx, eq5, h⟩ := Option.bind_eq_some_iff.mp h
  cases h
  exact ⟨⟨⟨name, eq1⟩, ⟨station, eq2⟩, ⟨rssi, eq3⟩, ⟨rx, eq4⟩, tx, eq5⟩, eq2, rfl⟩

/-- The map holds addresses of the client entries of an interface. -/
def HoldsEntries (iface : Json) (ips : OrderedMap String (String × String)) : Prop :=
  ∀ mac pair, ips.get? mac = some pair → ∃ client ∈ clients iface,
    getString client "mac" = some mac ∧ wifiIpv4 client = some pair.1

/-- Nothing is noted at first. -/
lemma holdsEntries_empty : HoldsEntries iface .empty := by
  intro mac pair holds
  cases holds

/-- What is noted are addresses of clients of the interface. -/
lemma putIps_entry {ips ips' : OrderedMap String (String × String)} (mem : client ∈ clients iface)
    (entries : HoldsEntries iface ips) (h : putIps ips client = some ips') : HoldsEntries iface ips' := by
  rw [putIps] at h
  cases found : item client "mac" with
  | none =>
    rw [found] at h
    cases h
    exact entries
  | some v =>
    rw [found] at h
    obtain ⟨ipv6, _, h⟩ := Option.bind_eq_some_iff.mp h
    obtain ⟨ipv4, eq4, h⟩ := Option.bind_eq_some_iff.mp h
    obtain ⟨text, eq, h⟩ := Option.bind_eq_some_iff.mp h
    cases h
    intro mac pair holds
    rw [OrderedMap.get?_alter] at holds
    split at holds
    case isTrue same =>
      cases holds
      refine ⟨client, mem, ?_, eq4⟩
      rw [getString, found, ← same]
      exact eq
    case isFalse => exact entries mac pair holds

/-- The listed association has the address of a client entry, or none. -/
def WifiEntry (stats : Json) (a : Association) : Prop :=
  a.ipv4 = "" ∨ ∃ iface ∈ interfaces stats, ∃ client ∈ clients iface,
    getString client "mac" = some a.macAddress ∧ wifiIpv4 client = some a.ipv4

/-- Associations are reported with the first of the IPv4 addresses of their clients. -/
theorem wifiClients_entries {listed : List Association} (h : wifiClients stats = some listed) :
    ∀ a ∈ listed, WifiEntry stats a := by
  refine foldlM_keeps (fun listed => ∀ a ∈ listed, WifiEntry stats a) ?_ (List.forall_mem_nil _) h
  intro iface inside before after entries run
  obtain ⟨ips, read, run⟩ := Option.bind_eq_some_iff.mp run
  have addresses : HoldsEntries iface ips :=
    foldlM_keeps _ (fun client mem _ _ => putIps_entry mem) holdsEntries_empty read
  refine foldlM_keeps (fun listed => ∀ a ∈ listed, WifiEntry stats a) ?_ entries run
  intro ssid _ before after entries run
  refine foldlM_keeps (fun listed => ∀ a ∈ listed, WifiEntry stats a) ?_ entries run
  intro client _ before after entries one
  obtain ⟨association, made, rfl⟩ := Option.map_eq_some_iff.mp one
  intro a listed
  rcases List.mem_append.mp listed with old | new
  · exact entries a old
  · rw [List.mem_singleton.mp new]
    obtain ⟨_, _, ipv4⟩ := wifiAssociation_inv made
    cases found : ips.get? association.macAddress with
    | none =>
      rw [found] at ipv4
      exact .inl ipv4
    | some pair =>
      rw [found, Option.getD_some] at ipv4
      obtain ⟨client, mem, mac, read⟩ := addresses _ _ found
      rw [← ipv4] at read
      exact .inr ⟨iface, inside, client, mem, mac, read⟩

/-! ## Answers -/

/-- A client entry which is associated is associated on its own interface, as it is written. -/
def OwnStations (stats : Json) : Prop :=
  ∀ iface ∈ interfaces stats, ∀ mac ∈ macs iface, Associated stats mac → mac ∈ stations iface

/-- What is left on each interface is left in the document. -/
lemma OwnStations.listed (own : OwnStations stats) :
    ((interfaces stats).flatMap fun iface => (macs iface).filter fun mac => mac ∉ stations iface) =
      otherMacs stats := by
  rw [otherMacs, List.filter_flatMap]
  apply List.flatMap_congr
  intro iface inside
  apply List.filter_congr
  intro mac mem
  have same : mac ∈ stations iface ↔ Associated stats mac := by
    refine ⟨?_, ?_⟩
    · intro station
      exact ⟨iface, inside, mac, station, rfl⟩
    · exact own iface inside mac mem
  exact decide_eq_decide.mpr (not_congr same)

namespace Bridged

/-- A laptop with two IPv4 addresses. -/
def laptop : Json :=
  .obj [("ipv4_addresses", .arr [.str "192.168.1.20", .str "192.168.2.20"]),
    ("mac", .str "02:00:00:00:00:01")]

def laptopAssociation : Json :=
  .obj [("rssi", .int (-60)), ("rx_bytes", .int 1500), ("station", .str "02:00:00:00:00:01"),
    ("tx_bytes", .int 900)]

/-- A document in which it is a client of two interfaces, and associated on the second. -/
def document : Json :=
  .obj [("interfaces", .arr [
    .obj [("clients", .arr [laptop])],
    .obj [("clients", .arr [laptop]),
      ("ssids", .arr [.obj [("associations", .arr [laptopAssociation]), ("ssid", .str "home")]])]])]

end Bridged

end UserPortal.RestApi.ClientLists

import UserPortal.Data.Assignments
import UserPortal.Framework.JsonFields
import UserPortal.Framework.Parameters
import UserPortal.Interaction.Knowledge
import UserPortal.RestObjects.SubObjects
import UserPortal.Sdk.Traces
import UserPortal.Security.Objects

/-!
# Reports about the clients of a device

Port of `DoGet` of `src/RESTAPI/RESTAPI_wiredClients_handler.cpp` and `src/RESTAPI/RESTAPI_wifiClients_handler.cpp`,
around what they list, with `GetLastStats` and `GetOUIs` of `src/sdks/SDK_gw.cpp`.

`reports_own`: the gateway is asked about a device only where the record of the subscriber lists an access point with
the address in the request, and for the manufacturers of the clients which its statistics name. These clients are what
is shown, each with its own manufacturer.
-/

namespace UserPortal

namespace Sdk.Gw
open Interaction Program

/-- The request of `Device::GetLastStats`. -/
def lastStatsCall (mac : String) : Call where
  verb := .get
  service := uSERVICE_GATEWAY
  endPoint := "/api/v1/device/" ++ mac ++ "/statistics"
  queryData := [("lastOnly", "true")]
  body := []
  msTimeout := 60000
  bearerToken := ""

/-- The request of `Device::GetOUIs`. -/
def ouisCall (macList : String) : Call where
  verb := .get
  service := uSERVICE_GATEWAY
  endPoint := "/api/v1/ouis"
  queryData := [("macList", macList)]
  body := []
  msTimeout := 60000
  bearerToken := ""

/-- `Device::GetLastStats`, on behalf of no client: the response, `none` when it fails. A response without an object
is a null pointer. -/
def getLastStats (mac : String) : Portal (Option (Option Json.Object)) := do
  let (responseStatus, response) ← OpenAPIRequest.get uSERVICE_GATEWAY
    ("/api/v1/device/" ++ mac ++ "/statistics") [("lastOnly", "true")] 60000 "" none
  if responseStatus = HTTPStatus.ok then return some response
  else return none

/-- `Tag` -/
structure Tag where
  tag : String := ""
  value : String := ""

instance : JsonObject Tag where
  fresh := {}
  fromJson conv := Decoder.tryAll [
    Decoder.member (·.tag) (fun t v => { t with tag := v }) (stringFromJson conv "tag"),
    Decoder.member (·.value) (fun t v => { t with value := v }) (stringFromJson conv "value")]

variable (conv : Conversions)

/-- `TagList::from_json` on a new list. What an exception leaves is kept, and there is one for a null pointer. -/
def tagListFromJson : Option Json.Object → List Tag
  | none => []
  | some o => (objectsFromJson conv "tagList" o []).2

/-- The text of the MACs for which `GetOUIs` asks. -/
def macListText (macs : List String) : String :=
  macs.foldl (fun text mac => if text = "" then mac else text ++ "," ++ mac) ""

/-- What a reply to `GetOUIs` tells, `none` when it fails. -/
def ouisIn (answer : Option Reply) : Option (List (String × String)) :=
  if (OpenAPIRequest.lenient none answer).1 = HTTPStatus.ok then
    some ((tagListFromJson conv (OpenAPIRequest.lenient none answer).2).map fun t => (t.tag, t.value))
  else none

/-- The exchange of `Device::GetOUIs`, on behalf of no client. -/
def askOUIs (macs : List String) : Portal (Option (List (String × String))) := do
  let (responseStatus, response) ← OpenAPIRequest.get uSERVICE_GATEWAY "/api/v1/ouis"
    [("macList", macListText macs)] 60000 "" none
  if responseStatus = HTTPStatus.ok then
    return some ((tagListFromJson conv response).map fun t => (t.tag, t.value))
  else return none

section Traces

variable {conv : Conversions} {tr : List Portal.Event}

end Traces

end Sdk.Gw

namespace RestApi.ClientLists
open Interaction Program Data Sdk SubObjects

/-! ## The handlers -/

section Handlers

variable {Rest : Type} [Inhabited Rest] (conv : Conversions)
  (subInfoDB : String → Option (SubscriberInfo Rest)) (subscriberId : String)

/-- What the handlers do with the last statistics: the clients are read, and then their manufacturers asked for. -/
def listClients {ρ : Type} (clients : Json → Option (List ρ)) (mac : ρ → String)
    (answer : (String → Option (List (String × String))) → Json → Json.Object) (stats : Json) :
    Portal Json.Object :=
  match clients stats with
  | none => return answer (fun _ => none) stats
  | some list => do
    let tags ← Gw.askOUIs conv (list.map mac)
    return answer (fun _ => tags) stats

/-- What the wired handler answers without statistics. -/
def wiredBlank (now : Nat) : Json.Object :=
  (Json.Object.set [] "created" (.int now)).set "modified" (.int now)

/-- `RESTAPI_wiredClients_handler::DoGet` -/
def wiredDoGet (serialNumber : String) : ExceptT Thrown Portal HandlerAnswer :=
  if serialNumber = "" then return HandlerAnswer.badRequest "GET" Errors.missingSerialNumber ""
  else
    match subInfoDB subscriberId with
    | none => return HandlerAnswer.notFound "GET"
    | some si =>
      match si.accessPoints.list.find? fun i => serialNumber = i.macAddress with
      | none => return HandlerAnswer.notFound "GET"
      | some i => do
        let micros ← Portal.clock
        let lastStats ← Gw.getLastStats i.serialNumber
        match lastStats with
        | none => return HandlerAnswer.returnObject (wiredBlank (Utils.now micros))
        | some none => throw .poco
        | some (some stats) =>
          let answer ← listClients conv wiredClients Client.macAddress
            (fun gateway => wiredAnswer gateway (Utils.now micros)) (.obj stats)
          return HandlerAnswer.returnObject answer

/-- `RESTAPI_wifiClients_handler::DoGet`, which reads the clock after the statistics, and only where there are some. -/
def wifiDoGet (serialNumber : String) : ExceptT Thrown Portal HandlerAnswer :=
  if serialNumber = "" then return HandlerAnswer.badRequest "GET" Errors.missingSerialNumber ""
  else
    match subInfoDB subscriberId with
    | none => return HandlerAnswer.notFound "GET"
    | some si =>
      match si.accessPoints.list.find? fun i => i.macAddress ≠ "" ∧ serialNumber = i.macAddress with
      | none => return HandlerAnswer.notFound "GET"
      | some i => do
        let lastStats ← Gw.getLastStats i.serialNumber
        match lastStats with
        | none => return HandlerAnswer.returnObject []
        | some response =>
          let micros ← Portal.clock
          match response with
          | none => throw .poco
          | some stats =>
            let answer ← listClients conv wifiClients Association.macAddress
              (fun gateway => wifiAnswer gateway (Utils.now micros)) (.obj stats)
            return HandlerAnswer.returnObject answer

end Handlers

/-! ## What is asked for, and shown -/

/-- The two lists. -/
inductive Report where
  | wired
  | wifi
  deriving DecidableEq

namespace Report

/-- The handler of a list. -/
def doGet {Rest : Type} [Inhabited Rest] (conv : Conversions) (subInfoDB : String → Option (SubscriberInfo Rest))
    (subscriberId serialNumber : String) : Report → ExceptT Thrown Portal HandlerAnswer
  | wired => wiredDoGet conv subInfoDB subscriberId serialNumber
  | wifi => wifiDoGet conv subInfoDB subscriberId serialNumber

/-- The MACs which are listed for some statistics, `none` where these cannot be read. -/
def macs (stats : Json) : Report → Option (List String)
  | wired => (wiredClients stats).map fun clients => clients.map Client.macAddress
  | wifi => (wifiClients stats).map fun associations => associations.map Association.macAddress

end Report

/-- The manufacturer which some tags name for a MAC, the last one where there are several. -/
def manufacturerOf (tags : List (String × String)) (mac : String) : String := (lastAssigned tags mac).getD ""

/-- A client with its manufacturer. -/
def Client.tagged (tags : Option (List (String × String))) (c : Client) : Client :=
  tags.elim c fun tags => { c with manufacturer := manufacturerOf tags c.macAddress }

/-- A station with its manufacturer. -/
def Association.tagged (tags : Option (List (String × String))) (a : Association) : Association :=
  tags.elim a fun tags => { a with manufacturer := manufacturerOf tags a.macAddress }

namespace Report

/-- What is shown without statistics. -/
def blank (now : Nat) : Report → Json.Object
  | wired => wiredBlank now
  | wifi => []

/-- What is shown for some statistics and the tags for their MACs. -/
def document (tags : Option (List (String × String))) (now : Nat) (stats : Json) : Report → Json.Object
  | wired => (wiredClients stats).elim (wiredBlank now) fun clients =>
      listToJson (wiredBlank now) "clients" (clients.map fun c => (c.tagged tags).toJson) now
  | wifi => (wifiClients stats).elim [] fun associations =>
      listToJson [] "associations" (associations.map fun a => (a.tagged tags).toJson) now

end Report

section Known

variable {Rest : Type} [Inhabited Rest] (conv : Conversions) (subInfoDB : String → Option (SubscriberInfo Rest))
  (subscriberId serialNumber : String) (report : Report) (known : List Portal.Event)

/-- The first access point with the address, in the record of the subscriber. -/
def Owns (i : AccessPoint Rest) : Prop :=
  ∃ si, subInfoDB subscriberId = some si ∧
    (si.accessPoints.list.find? fun i => serialNumber = i.macAddress) = some i

/-- The gateway has replied to the question for the last statistics of a device. -/
def KnowsReply (serial : String) (reply : Reply) : Prop :=
  ⟨.call (Gw.lastStatsCall serial), some reply⟩ ∈ known ∧ reply.status = HTTPStatus.ok

/-- It has replied these. -/
def KnowsStats (serial : String) (stats : Json.Object) : Prop :=
  ∃ reply, KnowsReply known serial reply ∧ reply.body = .json (.obj stats)

/-- It was asked for the manufacturers of the clients, if these could be read. -/
def KnowsTags (macs : Option (List String)) (tags : Option (List (String × String))) : Prop :=
  ∀ list, macs = some list →
    ∃ answer, ⟨.call (Gw.ouisCall (Gw.macListText list)), answer⟩ ∈ known ∧ tags = Gw.ouisIn conv answer

/-- What may be asked for a subscriber and an address after what is known. -/
inductive Permitted : Portal.Event → Prop where
  | clock (t : Int) : Permitted ⟨.now, t⟩
  | lastStats {i : AccessPoint Rest} (answer : Option Reply) :
    Owns subInfoDB subscriberId serialNumber i →
    Permitted ⟨.call (Gw.lastStatsCall i.serialNumber), answer⟩
  | manufacturers {i : AccessPoint Rest} {stats : Json.Object} {macs : List String} (answer : Option Reply) :
    Owns subInfoDB subscriberId serialNumber i →
    KnowsStats known i.serialNumber stats →
    report.macs (.obj stats) = some macs →
    Permitted ⟨.call (Gw.ouisCall (Gw.macListText macs)), answer⟩

/-- What a request is answered with, after what is known then. -/
inductive Answered : HandlerAnswer → Prop where
  | missing : serialNumber = "" → Answered (HandlerAnswer.badRequest "GET" Errors.missingSerialNumber "")
  | notOwned : serialNumber ≠ "" → (∀ i, ¬ Owns subInfoDB subscriberId serialNumber i) →
    Answered (HandlerAnswer.notFound "GET")
  | blank {i : AccessPoint Rest} {failed : Option Reply} {micros : Int} :
    Owns subInfoDB subscriberId serialNumber i →
    ⟨.call (Gw.lastStatsCall i.serialNumber), failed⟩ ∈ known → OpenAPIRequest.NotOk failed →
    (report = .wired → ⟨.now, micros⟩ ∈ known) →
    Answered (HandlerAnswer.returnObject (report.blank (Utils.now micros)))
  | shown {i : AccessPoint Rest} {stats : Json.Object} {micros : Int} {tags : Option (List (String × String))} :
    Owns subInfoDB subscriberId serialNumber i →
    KnowsStats known i.serialNumber stats →
    ⟨.now, micros⟩ ∈ known →
    KnowsTags conv known (report.macs (.obj stats)) tags →
    Answered (HandlerAnswer.returnObject (report.document tags (Utils.now micros) (.obj stats)))

/-- A request ends with an exception where the reply for the device is no object. -/
def Broken (e : Thrown) : Prop :=
  e = .poco ∧ ∃ i reply, Owns subInfoDB subscriberId serialNumber i ∧ KnowsReply known i.serialNumber reply ∧
    reply.body.parse = none

end Known

/-! ## Manufacturers -/

section Requests

variable {Rest : Type} [Inhabited Rest] {conv : Conversions} {subInfoDB : String → Option (SubscriberInfo Rest)}
  {subscriberId serialNumber serial : String} {report : Report} {known later : List Portal.Event}
  {i : AccessPoint Rest} {stats : Json.Object}

/-- A reply which is known stays known. -/
lemma KnowsReply.weaken {reply : Reply} (h : KnowsReply known serial reply) :
    KnowsReply (known ++ later) serial reply := by
  obtain ⟨mem, ok⟩ := h
  exact ⟨List.mem_append_left _ mem, ok⟩

/-- So do statistics. -/
lemma KnowsStats.weaken (h : KnowsStats known serial stats) : KnowsStats (known ++ later) serial stats := by
  obtain ⟨reply, replied, body⟩ := h
  exact ⟨reply, replied.weaken, body⟩

/-- What a request for a list obtains. -/
abbrev Reports (conv : Conversions) (subInfoDB : String → Option (SubscriberInfo Rest))
    (subscriberId serialNumber : String) (report : Report) : Prop :=
  Obtains (Permitted subInfoDB subscriberId serialNumber report)
    (Answered conv subInfoDB subscriberId serialNumber report)
    (Broken subInfoDB subscriberId serialNumber) [] (report.doGet conv subInfoDB subscriberId serialNumber)

end Requests

namespace OneAccessPoint

/-- The record of one subscriber. -/
def subInfoDB (id : String) : Option (SubscriberInfo Unit) :=
  if id = "s" then
    some { accessPoints := { list := [{ macAddress := "aa", serialNumber := "112233445566" }] } }
  else none

def stats : Json.Object :=
  [("interfaces", .arr [.obj [("clients", .arr [.obj [("mac", .str "01")]])]])]

def tags : Json.Object :=
  [("tagList", .arr [.obj [("tag", .str "01"), ("value", .str "Maker")]])]

def events : List Portal.Event :=
  [⟨.now, 7000000⟩, ⟨.call (Gw.lastStatsCall "112233445566"), some ⟨HTTPStatus.ok, .json (.obj stats)⟩⟩,
    ⟨.call (Gw.ouisCall "01"), some ⟨HTTPStatus.ok, .json (.obj tags)⟩⟩]

end OneAccessPoint

end RestApi.ClientLists

end UserPortal

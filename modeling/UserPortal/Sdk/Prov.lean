import UserPortal.Sdk.Gw

/-!
# The provisioning service

Port of the parts of `src/sdks/SDK_prov.cpp` about the devices of a subscriber, and of the parts of
`src/RESTObjects/RESTAPI_ProvObjects.cpp` with which it reads them. A listed device whose fields do not
convert is kept with the fields read so far.
-/

namespace UserPortal.Sdk.Prov
open Interaction Program

variable (conv : Conversions)

/-- `field_from_json` of a string, `none` where it throws. -/
def fieldFromJson (o : Json.Object) (field : String) : Option String :=
  if o.isNull field then some "" else conv.getString o field

/-- The string fields of a subscriber device between its group and its real MAC address. -/
def deviceFields : List String :=
  ["deviceType", "operatorId", "subscriberId", "managementPolicy", "serviceClass", "qrCode", "geoCode",
    "state", "locale", "billingCode", "suspended"]

/-- The fields of a subscriber device between its group and its real MAC address are read without an
exception: a string converts, and the elements of the configuration are objects. -/
def deviceFieldsRead (o : Json.Object) : Bool :=
  deviceFields.all (fun field => (fieldFromJson conv o field).isSome) &&
    ((o.getArray? "configuration").getD []).all fun element => element.object?.isSome

/-- `SubscriberDevice::from_json`, up to the fields which are used. -/
def subscriberDeviceFromJson (o : Json.Object) : Gw.SubscriberDevice :=
  match fieldFromJson conv o "serialNumber" with
  | none => {}
  | some serialNumber =>
    match fieldFromJson conv o "deviceGroup" with
    | none => { serialNumber }
    | some deviceGroup =>
      if deviceFieldsRead conv o then
        match fieldFromJson conv o "realMacAddress" with
        | none => { serialNumber, deviceGroup }
        | some realMacAddress => { serialNumber, deviceGroup, realMacAddress }
      else { serialNumber, deviceGroup }

/-- What `SubscriberDevice::from_json` returns: every field is read without an exception. -/
def subscriberDeviceReads (o : Json.Object) : Bool :=
  (fieldFromJson conv o "serialNumber").isSome && (fieldFromJson conv o "deviceGroup").isSome &&
    deviceFieldsRead conv o && (fieldFromJson conv o "realMacAddress").isSome

/-- `SubscriberDeviceList::from_json`, `none` where it fails: an element is not an object, or there is
no object to read. -/
def subscriberDeviceListFromJson (response : Option Json.Object) : Option (List Gw.SubscriberDevice) :=
  match response with
  | none => none
  | some o =>
    match o.getArray? "subscriberDevices" with
    | none => some []
    | some devices => devices.mapM fun device => device.object?.map (subscriberDeviceFromJson conv)

/-- The request of `GetDevices`. -/
def getDevicesCall (bearerToken subscriberId operatorId : String) : Call where
  verb := .get
  service := uSERVICE_PROVISIONING
  endPoint := "/api/v1/subscriberDevice"
  queryData := [("subscriberId", subscriberId), ("operatorId", operatorId)]
  body := []
  msTimeout := 60000
  bearerToken := bearerToken

/-- `GetDevices`: the devices, `none` when it fails, with the status and the response. -/
def getDevices (bearerToken subscriberId operatorId : String) (previous : Option Json.Object) :
    Portal (Option (List Gw.SubscriberDevice) × HTTPStatus × Option Json.Object) := do
  let (callStatus, callResponse) ← OpenAPIRequest.get uSERVICE_PROVISIONING "/api/v1/subscriberDevice"
    [("subscriberId", subscriberId), ("operatorId", operatorId)] 60000 bearerToken previous
  if callStatus = HTTPStatus.ok then
    return (subscriberDeviceListFromJson conv callResponse, callStatus, callResponse)
  else return (none, callStatus, callResponse)

/-- The devices which an event has listed, for a caller which hands in a response object. -/
def listedInto (previous : Option Json.Object) : Portal.Event → Option (List Gw.SubscriberDevice)
  | ⟨.call c, answer⟩ =>
    if c.service = uSERVICE_PROVISIONING ∧ c.endPoint = "/api/v1/subscriberDevice" ∧
        (OpenAPIRequest.lenient previous answer).1 = HTTPStatus.ok then
      subscriberDeviceListFromJson conv (OpenAPIRequest.lenient previous answer).2
    else none
  | _ => none

/-- The devices which an event has listed. -/
def listed : Portal.Event → Option (List Gw.SubscriberDevice) := listedInto conv none

/-- The request of `Device::Get`. -/
def inventoryCall (bearerToken mac : String) : Call where
  verb := .get
  service := uSERVICE_PROVISIONING
  endPoint := "/api/v1/inventory/" ++ mac
  queryData := []
  body := []
  msTimeout := 60000
  bearerToken := bearerToken

/-- The request of `GetDevice`. -/
def getDeviceCall (bearerToken serialNumber : String) : Call where
  verb := .get
  service := uSERVICE_PROVISIONING
  endPoint := "/api/v1/subscriberDevice/" ++ serialNumber
  queryData := []
  body := []
  msTimeout := 60000
  bearerToken := bearerToken

/-- The request of `CreateSubsciberDevice`. -/
def createCall (bearerToken : String) (body : Json.Object) : Call where
  verb := .post
  service := uSERVICE_PROVISIONING
  endPoint := "/api/v1/subscriberDevice/0"
  queryData := []
  body := body
  msTimeout := 120000
  bearerToken := bearerToken

/-- The request of `DeleteSubscriberDevice`. -/
def deleteCall (bearerToken serialNumber : String) : Call where
  verb := .delete
  service := uSERVICE_PROVISIONING
  endPoint := "/api/v1/subscriberDevice/" ++ serialNumber
  queryData := []
  body := []
  msTimeout := 60000
  bearerToken := bearerToken

/-- The keys of an inventory record which are strings. -/
def inventoryFields : List String :=
  ["serialNumber", "venue", "entity", "subscriber", "deviceType", "qrCode", "geoCode", "location",
    "contact", "deviceConfiguration", "managementPolicy", "state", "devClass", "locale",
    "realMacAddress", "doNotAllowOverrides", "platform"]

/-- What `InventoryTag::from_json` returns: every field is read without an exception. -/
def inventoryTagReads (o : Json.Object) : Bool :=
  inventoryFields.all (fun field => (fieldFromJson conv o field).isSome) &&
    ["imported", "connected"].all fun field =>
      o.isNull field || ((o.get? field).bind conv.toUInt64).isSome

/-- `Device::Get`: the inventory has the device. -/
def inventoryHas (bearerToken mac : String) : Portal Bool := do
  let (responseStatus, callResponse) ← OpenAPIRequest.get uSERVICE_PROVISIONING
    ("/api/v1/inventory/" ++ mac) [] 60000 bearerToken (some [])
  return responseStatus = HTTPStatus.ok && callResponse.any (inventoryTagReads conv)

/-- `GetDevice`: whether it has read a device, with the status and the response. -/
def getDevice (bearerToken serialNumber : String) : Portal (Bool × HTTPStatus × Option Json.Object) := do
  let (callStatus, callResponse) ← OpenAPIRequest.get uSERVICE_PROVISIONING
    ("/api/v1/subscriberDevice/" ++ serialNumber) [] 60000 bearerToken (some [])
  return (callStatus = HTTPStatus.ok && callResponse.any (subscriberDeviceReads conv), callStatus,
    callResponse)

/-- The body of `CreateSubsciberDevice`. -/
def createBody (name serialNumber subscriberId operatorId deviceGroup : String)
    (configuration : List ConfigMaker.DeviceConfigurationElement) : Json.Object :=
  [("configuration", .arr (configuration.map ConfigMaker.DeviceConfigurationElement.toJson)),
    ("deviceGroup", .str deviceGroup), ("name", .str name), ("operatorId", .str operatorId),
    ("serialNumber", .str serialNumber), ("subscriberId", .str subscriberId)]

/-- `CreateSubsciberDevice`: whether it has read the new device, with the status and the response. -/
def createSubsciberDevice (bearerToken name serialNumber subscriberId operatorId deviceGroup : String)
    (configuration : List ConfigMaker.DeviceConfigurationElement) :
    Portal (Bool × HTTPStatus × Option Json.Object) := do
  let body := createBody name serialNumber subscriberId operatorId deviceGroup configuration
  let (callStatus, callResponse) ← OpenAPIRequest.post uSERVICE_PROVISIONING
    "/api/v1/subscriberDevice/0" [] body 120000 bearerToken (some [])
  return (callStatus = HTTPStatus.ok && callResponse.any (subscriberDeviceReads conv), callStatus,
    callResponse)

/-- `DeleteSubscriberDevice`: whether it succeeds, with the status and the response. -/
def deleteSubscriberDevice (bearerToken serialNumber : String) :
    Portal (Bool × HTTPStatus × Option Json.Object) := do
  let (callStatus, callResponse, _) ← OpenAPIRequest.delete uSERVICE_PROVISIONING
    ("/api/v1/subscriberDevice/" ++ serialNumber) [] 60000 bearerToken (some [])
  return (callStatus = HTTPStatus.ok, callStatus, callResponse)

variable {conv}

/-- The devices of a subscriber are those which one call has listed. -/
lemma getDevices_inv {bearerToken subscriberId operatorId : String} {previous : Option Json.Object}
    {tr : List Portal.Event} {r : Option (List Gw.SubscriberDevice) × HTTPStatus × Option Json.Object}
    (h : Trace (getDevices conv bearerToken subscriberId operatorId previous) tr r) :
    ∃ answer, tr = [⟨.call (getDevicesCall bearerToken subscriberId operatorId), answer⟩] ∧
      r.1 = listedInto conv previous ⟨.call (getDevicesCall bearerToken subscriberId operatorId), answer⟩ ∧
      r.2 = OpenAPIRequest.lenient previous answer := by
  obtain ⟨answer, rest, rfl, h1⟩ := OpenAPIRequest.trace_get_bind.mp h
  cases eq : OpenAPIRequest.lenient previous answer with
  | mk callStatus callResponse =>
    rw [eq] at h1
    dsimp only at h1
    refine ⟨answer, ?_, ?_, ?_⟩
    · split at h1
      case isTrue => rw [(trace_pure.mp h1).1]; rfl
      case isFalse => rw [(trace_pure.mp h1).1]; rfl
    · rw [listedInto, eq]
      split at h1
      case isTrue ok => rw [(trace_pure.mp h1).2, if_pos ⟨rfl, rfl, ok⟩]
      case isFalse failed => rw [(trace_pure.mp h1).2, if_neg fun h => failed h.2.2]
    · split at h1
      case isTrue => rw [(trace_pure.mp h1).2, eq]
      case isFalse => rw [(trace_pure.mp h1).2, eq]

lemma inventoryHas_inv {bearerToken mac : String} {tr : List Portal.Event} {present : Bool}
    (h : Trace (inventoryHas conv bearerToken mac) tr present) :
    ∃ answer, tr = [⟨.call (inventoryCall bearerToken mac), answer⟩] ∧
      present = ((OpenAPIRequest.lenient (some []) answer).1 = HTTPStatus.ok &&
        (OpenAPIRequest.lenient (some []) answer).2.any (inventoryTagReads conv)) := by
  obtain ⟨answer, rest, rfl, h1⟩ := OpenAPIRequest.trace_get_bind.mp h
  obtain ⟨rfl, rfl⟩ := trace_pure.mp h1
  exact ⟨answer, rfl, rfl⟩

lemma getDevice_inv {bearerToken serialNumber : String} {tr : List Portal.Event}
    {r : Bool × HTTPStatus × Option Json.Object}
    (h : Trace (getDevice conv bearerToken serialNumber) tr r) :
    ∃ answer, tr = [⟨.call (getDeviceCall bearerToken serialNumber), answer⟩] ∧
      r = ((OpenAPIRequest.lenient (some []) answer).1 = HTTPStatus.ok &&
        (OpenAPIRequest.lenient (some []) answer).2.any (subscriberDeviceReads conv),
        OpenAPIRequest.lenient (some []) answer) := by
  obtain ⟨answer, rest, rfl, h1⟩ := OpenAPIRequest.trace_get_bind.mp h
  obtain ⟨rfl, rfl⟩ := trace_pure.mp h1
  exact ⟨answer, rfl, rfl⟩

lemma createSubsciberDevice_inv {bearerToken name serialNumber subscriberId operatorId deviceGroup : String}
    {configuration : List ConfigMaker.DeviceConfigurationElement} {tr : List Portal.Event}
    {r : Bool × HTTPStatus × Option Json.Object}
    (h : Trace (createSubsciberDevice conv bearerToken name serialNumber subscriberId operatorId deviceGroup
      configuration) tr r) :
    ∃ answer, tr = [⟨.call (createCall bearerToken
        (createBody name serialNumber subscriberId operatorId deviceGroup configuration)), answer⟩] ∧
      r = ((OpenAPIRequest.strict (some []) answer).1 = HTTPStatus.ok &&
        (OpenAPIRequest.strict (some []) answer).2.any (subscriberDeviceReads conv),
        OpenAPIRequest.strict (some []) answer) := by
  obtain ⟨answer, rest, rfl, h1⟩ := OpenAPIRequest.trace_post_bind.mp h
  obtain ⟨rfl, rfl⟩ := trace_pure.mp h1
  exact ⟨answer, rfl, rfl⟩

lemma deleteSubscriberDevice_inv {bearerToken serialNumber : String} {tr : List Portal.Event}
    {r : Bool × HTTPStatus × Option Json.Object}
    (h : Trace (deleteSubscriberDevice bearerToken serialNumber) tr r) :
    ∃ answer, tr = [⟨.call (deleteCall bearerToken serialNumber), answer⟩] ∧
      r = (decide ((OpenAPIRequest.lenient (some []) answer).1 = HTTPStatus.ok),
        OpenAPIRequest.lenient (some []) answer) := by
  obtain ⟨answer, rest, rfl, h1⟩ := OpenAPIRequest.trace_delete_bind.mp h
  obtain ⟨rfl, rfl⟩ := trace_pure.mp h1
  exact ⟨answer, rfl, rfl⟩

end UserPortal.Sdk.Prov

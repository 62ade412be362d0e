import UserPortal.Framework.JsonFields
import UserPortal.RestObjects.SubObjects

/-!
# Objects of a subscriber, read from JSON

Port of the functions `from_json` of `src/RESTObjects/RESTAPI_SubObjects.cpp`, in the order of the source.
-/

namespace UserPortal.SubObjects
open Decoder RestApi.ClientLists

instance : JsonObject WifiNetwork where
  fresh := {}
  fromJson conv := tryAll [
    member (·.type) (fun w v => { w with type := v }) (stringFromJson conv "type"),
    member (·.name) (fun w v => { w with name := v }) (stringFromJson conv "name"),
    member (·.password) (fun w v => { w with password := v }) (stringFromJson conv "password"),
    member (·.encryption) (fun w v => { w with encryption := v }) (stringFromJson conv "encryption"),
    member (·.bands) (fun w v => { w with bands := v }) (stringsFromJson conv "bands")]

instance : JsonObject WifiNetworkList where
  fresh := {}
  fromJson conv := tryAll [
    member (·.wifiNetworks) (fun w v => { w with wifiNetworks := v }) (objectsFromJson conv "wifiNetworks"),
    member (·.created) (fun w v => { w with created := v }) (uint64FromJson conv "created"),
    member (·.modified) (fun w v => { w with modified := v }) (uint64FromJson conv "modified")]

instance : JsonObject AccessTime where
  fresh := {}
  fromJson conv := tryAll [
    member (·.day) (fun a v => { a with day := v }) (stringFromJson conv "day"),
    member (·.rangeList) (fun a v => { a with rangeList := v }) (stringsFromJson conv "rangeList")]

instance : JsonObject AccessTimes where
  fresh := {}
  fromJson conv := tryAll [
    member (·.schedule) (fun a v => { a with schedule := v }) (objectsFromJson conv "schedule"),
    member (·.created) (fun a v => { a with created := v }) (uint64FromJson conv "created"),
    member (·.modified) (fun a v => { a with modified := v }) (uint64FromJson conv "modified")]

instance : JsonObject SubscriberDevice where
  fresh := {}
  fromJson conv := tryAll [
    member (·.name) (fun d v => { d with name := v }) (stringFromJson conv "name"),
    member (·.description) (fun d v => { d with description := v }) (stringFromJson conv "description"),
    member (·.macAddress) (fun d v => { d with macAddress := v }) (stringFromJson conv "macAddress"),
    member (·.manufacturer) (fun d v => { d with manufacturer := v }) (stringFromJson conv "manufacturer"),
    member (·.firstContact) (fun d v => { d with firstContact := v }) (uint64FromJson conv "firstContact"),
    member (·.lastContact) (fun d v => { d with lastContact := v }) (uint64FromJson conv "lastContact"),
    member (·.group) (fun d v => { d with group := v }) (stringFromJson conv "group"),
    member (·.icon) (fun d v => { d with icon := v }) (stringFromJson conv "icon"),
    member (·.suspended) (fun d v => { d with suspended := v }) (boolFromJson conv "suspended"),
    member (·.ip) (fun d v => { d with ip := v }) (stringFromJson conv "ip"),
    member (·.schedule) (fun d v => { d with schedule := v }) (objectsFromJson conv "schedule")]

instance : JsonObject SubscriberDeviceList where
  fresh := {}
  fromJson conv := tryAll [
    member (·.devices) (fun d v => { d with devices := v }) (objectsFromJson conv "devices"),
    member (·.created) (fun d v => { d with created := v }) (uint64FromJson conv "created"),
    member (·.modified) (fun d v => { d with modified := v }) (uint64FromJson conv "modified")]

instance : JsonObject Association where
  fresh := { name := "", ssid := "", macAddress := "" }
  fromJson conv := tryAll [
    member (·.name) (fun a v => { a with name := v }) (stringFromJson conv "name"),
    member (·.ssid) (fun a v => { a with ssid := v }) (stringFromJson conv "ssid"),
    member (·.macAddress) (fun a v => { a with macAddress := v }) (stringFromJson conv "macAddress"),
    member (·.rssi) (fun a v => { a with rssi := v }) (int32FromJson conv "rssi"),
    member (·.power) (fun a v => { a with power := v }) (int32FromJson conv "power"),
    member (·.ipv4) (fun a v => { a with ipv4 := v }) (stringFromJson conv "ipv4"),
    member (·.ipv6) (fun a v => { a with ipv6 := v }) (stringFromJson conv "ipv6"),
    member (·.tx) (fun a v => { a with tx := v }) (uint64FromJson conv "tx"),
    member (·.rx) (fun a v => { a with rx := v }) (uint64FromJson conv "rx"),
    member (·.manufacturer) (fun a v => { a with manufacturer := v }) (stringFromJson conv "manufacturer")]

instance : JsonObject AssociationList where
  fresh := {}
  fromJson conv := tryAll [
    member (·.associations) (fun a v => { a with associations := v }) (objectsFromJson conv "associations"),
    member (·.created) (fun a v => { a with created := v }) (uint64FromJson conv "created"),
    member (·.modified) (fun a v => { a with modified := v }) (uint64FromJson conv "modified")]

instance : JsonObject Client where
  fresh := { macAddress := "" }
  fromJson conv := tryAll [
    member (·.macAddress) (fun c v => { c with macAddress := v }) (stringFromJson conv "macAddress"),
    member (·.speed) (fun c v => { c with speed := v }) (stringFromJson conv "speed"),
    member (·.mode) (fun c v => { c with mode := v }) (stringFromJson conv "mode"),
    member (·.ipv4) (fun c v => { c with ipv4 := v }) (stringFromJson conv "ipv4"),
    member (·.ipv6) (fun c v => { c with ipv6 := v }) (stringFromJson conv "ipv6"),
    member (·.tx) (fun c v => { c with tx := v }) (uint64FromJson conv "tx"),
    member (·.rx) (fun c v => { c with rx := v }) (uint64FromJson conv "rx"),
    member (·.manufacturer) (fun c v => { c with manufacturer := v }) (stringFromJson conv "manufacturer")]

instance : JsonObject ClientList where
  fresh := {}
  fromJson conv := tryAll [
    member (·.clients) (fun c v => { c with clients := v }) (objectsFromJson conv "clients"),
    member (·.created) (fun c v => { c with created := v }) (uint64FromJson conv "created"),
    member (·.modified) (fun c v => { c with modified := v }) (uint64FromJson conv "modified")]

instance : JsonObject Location where
  fresh := {}
  fromJson conv := tryAll [
    member (·.buildingName) (fun l v => { l with buildingName := v }) (stringFromJson conv "buildingName"),
    member (·.addressLines) (fun l v => { l with addressLines := v }) (stringsFromJson conv "addressLines"),
    member (·.city) (fun l v => { l with city := v }) (stringFromJson conv "city"),
    member (·.state) (fun l v => { l with state := v }) (stringFromJson conv "state"),
    member (·.postal) (fun l v => { l with postal := v }) (stringFromJson conv "postal"),
    member (·.country) (fun l v => { l with country := v }) (stringFromJson conv "country"),
    member (·.phones) (fun l v => { l with phones := v }) (stringsFromJson conv "phones"),
    member (·.mobiles) (fun l v => { l with mobiles := v }) (stringsFromJson conv "mobiles")]

variable {Rest : Type} [Inhabited Rest]

instance : JsonObject (AccessPoint Rest) where
  fresh := {}
  fromJson conv := tryAll [
    member (·.id) (fun a v => { a with id := v }) (stringFromJson conv "id"),
    member (·.macAddress) (fun a v => { a with macAddress := v }) (stringFromJson conv "macAddress"),
    member (·.serialNumber) (fun a v => { a with serialNumber := v }) (stringFromJson conv "serialNumber"),
    member (·.name) (fun a v => { a with name := v }) (stringFromJson conv "name"),
    member (·.deviceType) (fun a v => { a with deviceType := v }) (stringFromJson conv "deviceType")]

instance : JsonObject (AccessPointList Rest) where
  fresh := {}
  fromJson conv := tryAll [member (·.list) (fun a v => { a with list := v }) (objectsFromJson conv "list")]

instance : JsonObject (SubscriberInfo Rest) where
  fresh := {}
  fromJson conv := tryAll [
    member (·.id) (fun s v => { s with id := v }) (stringFromJson conv "id"),
    member (·.userId) (fun s v => { s with userId := v }) (stringFromJson conv "userId"),
    member (·.firstName) (fun s v => { s with firstName := v }) (stringFromJson conv "firstName"),
    member (·.initials) (fun s v => { s with initials := v }) (stringFromJson conv "initials"),
    member (·.lastName) (fun s v => { s with lastName := v }) (stringFromJson conv "lastName"),
    member (·.phoneNumber) (fun s v => { s with phoneNumber := v }) (stringFromJson conv "phoneNumber"),
    member (·.secondaryEmail) (fun s v => { s with secondaryEmail := v }) (stringFromJson conv "secondaryEmail"),
    member (·.accessPoints) (fun s v => { s with accessPoints := v }) (objectFromJson conv "accessPoints"),
    member (·.serviceAddress) (fun s v => { s with serviceAddress := v }) (objectFromJson conv "serviceAddress"),
    member (·.billingAddress) (fun s v => { s with billingAddress := v }) (objectFromJson conv "billingAddress"),
    member (·.created) (fun s v => { s with created := v }) (uint64FromJson conv "created"),
    member (·.modified) (fun s v => { s with modified := v }) (uint64FromJson conv "modified")]

instance : JsonObject StatsEntry where
  fresh := {}
  fromJson conv := tryAll [
    member (·.timestamp) (fun s v => { s with timestamp := v }) (uint64FromJson conv "timestamp"),
    member (·.tx) (fun s v => { s with tx := v }) (uint64FromJson conv "tx"),
    member (·.rx) (fun s v => { s with rx := v }) (uint64FromJson conv "rx")]

instance : JsonObject StatsBlock where
  fresh := {}
  fromJson conv := tryAll [
    member (·.modified) (fun s v => { s with modified := v }) (uint64FromJson conv "modified"),
    member (·.external) (fun s v => { s with external := v }) (objectsFromJson conv "external"),
    member (·.internal) (fun s v => { s with internal := v }) (objectsFromJson conv "internal")]

end UserPortal.SubObjects

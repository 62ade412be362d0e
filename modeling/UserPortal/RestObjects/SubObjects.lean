import UserPortal.RestApi.ClientLists

/-!
# Objects of a subscriber

Port of the types of `src/RESTObjects/RESTAPI_SubObjects.h` which can be read from JSON, with the values which
their members begin with. An access point has more members than those which are ever read or written. The ones
which begin with a value are its `rest`, of any type. The other three (`currentFirmwareDate`,
`latestFirmwareDate`, `newFirmwareAvailable`) begin with none: a new access point leaves them indeterminate, and
no function assigns or reads them. They are left out, so that equal access points are those which agree in every
member that has a value.
-/

namespace UserPortal.SubObjects
open RestApi.ClientLists (Association Client)

structure WifiNetwork where
  type : String := ""
  name : String := ""
  password : String := ""
  encryption : String := ""
  bands : List String := []
  deriving DecidableEq

structure WifiNetworkList where
  wifiNetworks : List WifiNetwork := []
  created : Nat := 0
  modified : Nat := 0
  deriving DecidableEq

structure AccessTime where
  day : String := ""
  rangeList : List String := []
  deriving DecidableEq

structure AccessTimes where
  schedule : List AccessTime := []
  created : Nat := 0
  modified : Nat := 0
  deriving DecidableEq

structure SubscriberDevice where
  name : String := ""
  description : String := ""
  macAddress : String := ""
  manufacturer : String := ""
  firstContact : Nat := 0
  lastContact : Nat := 0
  group : String := ""
  icon : String := ""
  suspended : Bool := false
  ip : String := ""
  schedule : List AccessTimes := []
  deriving DecidableEq

structure SubscriberDeviceList where
  devices : List SubscriberDevice := []
  created : Nat := 0
  modified : Nat := 0
  deriving DecidableEq

structure AssociationList where
  associations : List Association := []
  created : Nat := 0
  modified : Nat := 0
  deriving DecidableEq

structure ClientList where
  clients : List Client := []
  created : Nat := 0
  modified : Nat := 0
  deriving DecidableEq

structure Location where
  buildingName : String := ""
  addressLines : List String := []
  city : String := ""
  state : String := ""
  postal : String := ""
  country : String := ""
  phones : List String := []
  mobiles : List String := []
  deriving DecidableEq

/-- An access point, but for the members which begin without a value. -/
structure AccessPoint (Rest : Type) [Inhabited Rest] where
  id : String := ""
  macAddress : String := ""
  serialNumber : String := ""
  name : String := ""
  deviceType : String := ""
  rest : Rest := default
  deriving DecidableEq

structure AccessPointList (Rest : Type) [Inhabited Rest] where
  list : List (AccessPoint Rest) := []
  deriving DecidableEq

structure SubscriberInfo (Rest : Type) [Inhabited Rest] where
  id : String := ""
  userId : String := ""
  firstName : String := ""
  initials : String := ""
  lastName : String := ""
  phoneNumber : String := ""
  secondaryEmail : String := ""
  accessPoints : AccessPointList Rest := {}
  serviceAddress : Location := {}
  billingAddress : Location := {}
  created : Nat := 0
  modified : Nat := 0
  deriving DecidableEq

structure StatsEntry where
  timestamp : Nat := 0
  tx : Nat := 0
  rx : Nat := 0
  deriving DecidableEq

structure StatsBlock where
  modified : Nat := 0
  external : List StatsEntry := []
  internal : List StatsEntry := []
  deriving DecidableEq

end UserPortal.SubObjects

import UserPortal.Data.Ordered
import UserPortal.Framework.Utils
import UserPortal.Security.AuthClient

/-!
# The service registry

Port of `BusMessageReceived` and `GetServices` of `src/framework/MicroService.cpp`: the instances of the
other services, by their private endpoint, as announced on the bus.
-/

namespace UserPortal.MicroServices
open Interaction Program Security

/-- `Types::MicroServiceMeta` -/
structure MicroServiceMeta where
  id : Nat
  type : String
  privateEndPoint : String
  publicEndPoint : String
  accessKey : String
  version : String
  lastUpdate : Nat := 0
  deriving DecidableEq

abbrev MicroServiceMetaMap := Data.OrderedMap String MicroServiceMeta

/-- `MicroService`: its own instance and the registry. -/
structure MicroService where
  id : Nat
  services : MicroServiceMetaMap

/-- What a message makes the registry do. -/
inductive BusMessage where
  | announce (info : MicroServiceMeta)
  | leave (id : Nat) (privateEndPoint : String)
  | removeToken (token : String)
  | ignored
  deriving DecidableEq

section Messages

variable (conv : Conversions)

/-- What `BusMessageReceived` reads of a message, unless it throws: nothing is changed before the last
field is read. -/
def readMessage (selfId : Nat) (payload : Body) : Option BusMessage := do
  let object ← payload.parse
  if object.has "id" && object.has "event" then
    let id ← (object.get? "id").bind conv.toUInt64
    let event ← conv.getString object "event"
    if id = selfId then return .ignored
    else if event = "join" ∨ event = "keep-alive" ∨ event = "leave" then
      if object.has "type" && object.has "publicEndPoint" && object.has "privateEndPoint" &&
          object.has "version" && object.has "key" then
        let privateEndPoint ← conv.getString object "privateEndPoint"
        if event = "leave" then return .leave id privateEndPoint
        else
          let type ← conv.getString object "type"
          let publicEndPoint ← conv.getString object "publicEndPoint"
          let accessKey ← conv.getString object "key"
          let version ← conv.getString object "version"
          return .announce
            { id, type := Utils.toLower type, privateEndPoint, publicEndPoint, accessKey, version }
      else return .ignored
    else if event = "remove-token" then
      if object.has "token" then
        let token ← conv.getString object "token"
        return .removeToken token
      else return .ignored
    else return .ignored
  else return .ignored

namespace MicroService

/-- The registry before its first message. -/
def init (id : Nat) : MicroService where
  id := id
  services := .empty

/-- A record is at most 120 seconds old. The difference is an unsigned one. -/
def isLive (now : Nat) (info : MicroServiceMeta) : Bool :=
  (now + (2 ^ 64 - info.lastUpdate)) % 2 ^ 64 ≤ 120

/-- What a message changes. -/
def handle (self : MicroService) (authClient : AuthClient) :
    BusMessage → Portal (MicroService × AuthClient)
  | .announce info => do
    let t ← Portal.clock
    let info := { info with lastUpdate := Utils.now t }
    return ({ self with services := self.services.alter info.privateEndPoint (fun _ => info) info },
      authClient)
  | .leave _ privateEndPoint =>
    return ({ self with services := self.services.erase privateEndPoint }, authClient)
  | .removeToken token => return (self, authClient.removedCachedToken token)
  | .ignored => return (self, authClient)

/-- The records which are too old are removed. -/
def sweep (self : MicroService) : Portal MicroService := do
  let t ← Portal.clock
  return { self with services := self.services.filter fun entry => isLive (Utils.now t) entry.2 }

/-- `BusMessageReceived` -/
def busMessageReceived (self : MicroService) (authClient : AuthClient) (payload : Body) :
    Portal (MicroService × AuthClient) :=
  match readMessage conv self.id payload with
  | none => return (self, authClient)
  | some message => do
    let (self, authClient) ← self.handle authClient message
    let self ← self.sweep
    return (self, authClient)

/-- `GetServices` -/
def getServices (self : MicroService) (type : String) : List MicroServiceMeta :=
  (self.services.entries.map Prod.snd).filter fun info => info.type = Utils.toLower type

end MicroService

end Messages

end UserPortal.MicroServices

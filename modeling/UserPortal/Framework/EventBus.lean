import Mathlib.Logic.Relation
import UserPortal.Framework.ServiceRegistry
import UserPortal.Interaction.Broadcast

/-!
# The event bus

Port of `src/framework/EventBusManager.cpp`, and of `MakeSystemEventMessage`, `IsValidAPIKEY` and
`LoadMyConfig` of `src/framework/MicroService.cpp`: how the instances of a deployment announce themselves.
The queue of `KafkaProducer` is an outbox, and the one partition of the topic is the log. Every instance
runs the same framework, and its consumer hands the payloads of the log to `BusMessageReceived`.
-/

namespace UserPortal.MicroServices
open Interaction Program Security

namespace EventBus

def eventJoin : String := "join"
def eventLeave : String := "leave"
def eventKeepAlive : String := "keep-alive"

end EventBus

/-- What an instance says of itself: `ID_`, `DAEMON_APP_NAME`, the two end points, `MyHash_` and
`Version_`. -/
structure Instance where
  id : Nat
  id_lt : id < 2 ^ 64
  appName : String
  myPublicEndPoint : String
  myPrivateEndPoint : String
  myHash : String
  version : String

namespace Instance

variable (self : Instance)

/-- `MakeSystemEventMessage` -/
def makeSystemEventMessage (type : String) : Json.Object :=
  let obj : Json.Object := []
  let obj := obj.set "event" (.str type)
  let obj := obj.set "id" (.int self.id)
  let obj := obj.set "type" (.str (Utils.toLower self.appName))
  let obj := obj.set "publicEndPoint" (.str self.myPublicEndPoint)
  let obj := obj.set "privateEndPoint" (.str self.myPrivateEndPoint)
  let obj := obj.set "key" (.str self.myHash)
  obj.set "version" (.str self.version)

/-- The payload of an event. -/
def event (type : String) : Body := .json (.obj (self.makeSystemEventMessage type))

/-- `IsValidAPIKEY`, of the value of the header `X-API-KEY` -/
def isValidAPIKEY (apiKey : Option String) : Bool :=
  match apiKey with
  | some apiKey => apiKey = self.myHash
  | none => false

/-- The record which the other instances keep of an instance, announced at a time. -/
def record (lastUpdate : Nat) : MicroServiceMeta where
  id := self.id
  type := Utils.toLower self.appName
  privateEndPoint := self.myPrivateEndPoint
  publicEndPoint := self.myPublicEndPoint
  accessKey := self.myHash
  version := self.version
  lastUpdate := lastUpdate

/-- The payload is an event of the instance. -/
inductive Event (self : Instance) : Body → Prop where
  | join : Event self (self.event EventBus.eventJoin)
  | keepAlive : Event self (self.event EventBus.eventKeepAlive)
  | leave : Event self (self.event EventBus.eventLeave)

variable {self}

lemma makeSystemEventMessage_eq {type : String} : self.makeSystemEventMessage type =
    [("event", .str type), ("id", .int self.id), ("key", .str self.myHash),
      ("privateEndPoint", .str self.myPrivateEndPoint), ("publicEndPoint", .str self.myPublicEndPoint),
      ("type", .str (Utils.toLower self.appName)), ("version", .str self.version)] := rfl

end Instance

/-- The instances of a deployment. -/
structure Deployment (ι : Type) where
  inst : ι → Instance
  distinctIds : ∀ i j, (inst i).id = (inst j).id → i = j
  distinctEndPoints : ∀ i j, (inst i).myPrivateEndPoint = (inst j).myPrivateEndPoint → i = j
  /-- `openwifi.kafka.enable` -/
  kafkaEnabled : ι → Bool

/-- An instance at run time: whether the thread of its `EventBusManager` runs, its registry, its tokens, and
what its consumer has received, the last first. -/
structure Node where
  running : Bool
  self : MicroService
  authClient : AuthClient
  received : List Received

/-- A node before its first message. -/
def Node.init (id : Nat) : Node where
  running := false
  self := .init id
  authClient := .init
  received := []

/-- The nodes and the topic `service_events`. -/
structure Network (ι : Type) where
  node : ι → Node
  bus : Broadcast ι Body

namespace Network

variable {ι : Type}

/-- No instance was started. -/
def init (d : Deployment ι) : Network ι where
  node i := .init (d.inst i).id
  bus := .empty

variable [DecidableEq ι]

/-- The thread of the `EventBusManager` posts an event, and is running afterwards or not. -/
def announce (d : Deployment ι) (n : Network ι) (i : ι) (type : String) (running : Bool) : Network ι where
  node := Function.update n.node i { n.node i with running := running }
  bus := n.bus.post i ((d.inst i).event type)

/-- The payload is read as no event of an instance by anyone. -/
def Other (d : Deployment ι) (conv : Conversions) (payload : Body) : Prop :=
  ∀ j, (∀ info, readMessage conv (d.inst j).id payload ≠ some (.announce info)) ∧
    ∀ id privateEndPoint, readMessage conv (d.inst j).id payload ≠ some (.leave id privateEndPoint)

/-- What one thread does. `run` of the `EventBusManager` posts `join`, then `keep-alive` each time it has
slept undisturbed, and `leave` when it is stopped. Where messages may be lost, a producer may lose the
head of its queue, and an instance may be killed and started again. -/
inductive Step (d : Deployment ι) (conv : Conversions) (lossy : Bool) : Network ι → Network ι → Prop where
  | start {n : Network ι} (i : ι) :
    d.kafkaEnabled i = true →
    (n.node i).running = false →
    Step d conv lossy n (n.announce d i EventBus.eventJoin true)
  | keepAlive {n : Network ι} (i : ι) :
    (n.node i).running = true →
    Step d conv lossy n (n.announce d i EventBus.eventKeepAlive true)
  | stop {n : Network ι} (i : ι) :
    (n.node i).running = true →
    Step d conv lossy n (n.announce d i EventBus.eventLeave false)
  | other {n : Network ι} (i : ι) (payload : Body) :
    Other d conv payload →
    Step d conv lossy n { n with bus := n.bus.post i payload }
  | produce {n : Network ι} (i : ι) (bus : Broadcast ι Body) :
    n.bus.produce i = some bus →
    Step d conv lossy n { n with bus := bus }
  | lose {n : Network ι} (i : ι) (bus : Broadcast ι Body) :
    lossy = true →
    n.bus.lose i = some bus →
    Step d conv lossy n { n with bus := bus }
  | restart {n : Network ι} (i : ι) (position : Nat) :
    lossy = true →
    position ≤ n.bus.log.length →
    Step d conv lossy n
      { node := Function.update n.node i (.init (d.inst i).id), bus := n.bus.restart i position }
  | receive {n : Network ι} (j : ι) (payload : Body) (bus : Broadcast ι Body) (events : List Portal.Event)
      (self : MicroService) (authClient : AuthClient) :
    n.bus.read j = some (payload, bus) →
    Trace ((n.node j).self.busMessageReceived conv (n.node j).authClient payload) events (self, authClient) →
    Step d conv lossy n
      { node := Function.update n.node j
          { running := (n.node j).running
            self := self
            authClient := authClient
            received := ⟨payload, (n.node j).self, events, self⟩ :: (n.node j).received }
        bus := bus }

/-- The states which a deployment can be in. -/
def Reachable (d : Deployment ι) (conv : Conversions) (lossy : Bool) : Network ι → Prop :=
  Relation.ReflTransGen (Step d conv lossy) (init d)

end Network

end UserPortal.MicroServices

import Slog.Basic

/-! The sender keeps one push socket per destination machine and one per local channel. A
socket is created and connected on the first send to its destination, as long as the broker
that owns the messaging context is still alive. -/

namespace Slog

/-- The parts of the broker that the sender reads. `Broker` is not among the modelled files,
so the endpoint it names for each machine is a parameter. -/
structure Broker where
  localMachineId : MachineId
  endpointByMachineId : MachineId → String

/-- A push socket the sender created: its identity, in creation order, and the endpoint it was
connected to. -/
structure Socket where
  id : Nat
  endpoint : String
  deriving DecidableEq, Repr

/-- What is written to a socket: a serialized envelope tagged with the sending machine and the
target channel, or an envelope handed to a channel of this machine. -/
inductive Frame where
  | serialized (envelope : Envelope) (fromMachine : MachineId) (channel : Channel)
  | envelope (envelope : Envelope)
  deriving DecidableEq, Repr

structure Write where
  socket : Socket
  frame : Frame
  deriving DecidableEq, Repr

/-- The sender's state. `broker` is what `broker_.lock()` returns: none once the broker is
destroyed. `sockets` counts the sockets created so far and names the next one. -/
structure Sender where
  broker : Option Broker
  localMachineId : MachineId
  machineIdToSocket : MachineId → Option Socket
  localChannelToSocket : Channel → Option Socket
  sockets : Nat

namespace Sender

/-- `Sender::Sender`. -/
def create (broker : Broker) : Sender :=
  ⟨some broker, broker.localMachineId, fun _ => none, fun _ => none, 0⟩

/-- The lookup-or-connect step that `SendSerialized` and `SendLocal` share: the socket `map`
binds to `destination`, or else, while the broker is alive, a new socket connected to
`endpoint` and bound to `destination`. Returns the socket, the updated map and the new socket count. -/
def lazySocket {α : Type} [DecidableEq α] (sender : Sender) (map : α → Option Socket) (destination : α)
    (endpoint : Broker → String) : Option (Socket × (α → Option Socket) × Nat) :=
  match map destination with
  | some socket => some (socket, map, sender.sockets)
  | none =>
    sender.broker.map fun broker =>
      let socket : Socket := ⟨sender.sockets, endpoint broker⟩
      (socket, Function.update map destination (some socket), sender.sockets + 1)

/-- `SendSerialized`. -/
def sendSerialized (sender : Sender) (envelope : Envelope) (toMachineId : MachineId)
    (toChannel : Channel) : Sender × Option Write :=
  match lazySocket sender sender.machineIdToSocket toMachineId (·.endpointByMachineId toMachineId) with
  | none => (sender, none)
  | some (socket, map, sockets) =>
    ({ sender with machineIdToSocket := map, sockets := sockets },
      some ⟨socket, .serialized envelope sender.localMachineId toChannel⟩)

/-- `SendLocal`. -/
def sendLocal (sender : Sender) (envelope : Envelope) (toChannel : Channel) : Sender × Option Write :=
  match lazySocket sender sender.localChannelToSocket toChannel
      (fun _ => "inproc://channel_" ++ toString toChannel) with
  | none => (sender, none)
  | some (socket, map, sockets) =>
    ({ sender with localChannelToSocket := map, sockets := sockets }, some ⟨socket, .envelope envelope⟩)

/-- A call made on the sender, or the destruction of the broker, which the sender only sees
through `broker_.lock()`. -/
inductive Call where
  | sendSerialized (envelope : Envelope) (toMachineId : MachineId) (toChannel : Channel)
  | sendLocal (envelope : Envelope) (toChannel : Channel)
  | destroyBroker

def step (sender : Sender) : Call → Sender × Option Write
  | .sendSerialized envelope toMachineId toChannel => sendSerialized sender envelope toMachineId toChannel
  | .sendLocal envelope toChannel => sendLocal sender envelope toChannel
  | .destroyBroker => ({ sender with broker := none }, none)

/-- A sequence of calls, with what each one wrote. -/
def run (sender : Sender) : List Call → Sender × List (Option Write)
  | [] => (sender, [])
  | call :: calls =>
    let next := step sender call
    ((run next.1 calls).1, next.2 :: (run next.1 calls).2)

/-- Where a send goes: a machine, or a channel of this machine. -/
inductive Target where
  | machine (id : MachineId)
  | channel (channel : Channel)
  deriving DecidableEq, Repr

def Call.target : Call → Option Target
  | .sendSerialized _ toMachineId _ => some (.machine toMachineId)
  | .sendLocal _ toChannel => some (.channel toChannel)
  | .destroyBroker => none

def socketFor (sender : Sender) : Target → Option Socket
  | .machine id => sender.machineIdToSocket id
  | .channel channel => sender.localChannelToSocket channel

/-- The endpoint a socket for `target` connects to. -/
def endpointOf (broker : Broker) : Target → String
  | .machine id => broker.endpointByMachineId id
  | .channel channel => "inproc://channel_" ++ toString channel

/-- The frame a call sends through the socket that `sender` binds to its target, if any. -/
def Call.written (sender : Sender) : Call → Option Write
  | .sendSerialized envelope toMachineId toChannel =>
    (sender.machineIdToSocket toMachineId).map (⟨·, .serialized envelope sender.localMachineId toChannel⟩)
  | .sendLocal envelope toChannel => (sender.localChannelToSocket toChannel).map (⟨·, .envelope envelope⟩)
  | .destroyBroker => none

/-- The map after the lookup-or-connect step: only `destination` can change, and only from
unbound to a new socket, when the broker is alive. -/
theorem lazySocket_map {α : Type} [DecidableEq α] (sender : Sender) (map : α → Option Socket)
    (destination : α) (endpoint : Broker → String) (other : α) :
    ((lazySocket sender map destination endpoint).elim map (·.2.1)) other =
      if other = destination ∧ map destination = none then
        sender.broker.map fun broker => ⟨sender.sockets, endpoint broker⟩
      else map other := by
  unfold lazySocket
  cases bound : map destination with
  | some socket => simp
  | none =>
    by_cases same : other = destination
    · subst same; cases sender.broker <;> simp [bound]
    · cases sender.broker <;> simp [same, Function.update_noteq same]

theorem sendSerialized_maps (sender : Sender) (envelope : Envelope) (toMachineId : MachineId)
    (toChannel : Channel) :
    (sendSerialized sender envelope toMachineId toChannel).1.machineIdToSocket =
        (lazySocket sender sender.machineIdToSocket toMachineId (·.endpointByMachineId toMachineId)).elim
          sender.machineIdToSocket (·.2.1) ∧
      (sendSerialized sender envelope toMachineId toChannel).1.localChannelToSocket =
        sender.localChannelToSocket := by
  unfold sendSerialized
  split <;> simp_all

theorem sendLocal_maps (sender : Sender) (envelope : Envelope) (toChannel : Channel) :
    (sendLocal sender envelope toChannel).1.localChannelToSocket =
        (lazySocket sender sender.localChannelToSocket toChannel
          (fun _ => "inproc://channel_" ++ toString toChannel)).elim sender.localChannelToSocket (·.2.1) ∧
      (sendLocal sender envelope toChannel).1.machineIdToSocket = sender.machineIdToSocket := by
  unfold sendLocal
  split <;> simp_all

@[simp] theorem step_localMachineId (sender : Sender) (call : Call) :
    (step sender call).1.localMachineId = sender.localMachineId := by
  cases call <;> simp only [step, sendSerialized, sendLocal] <;> split <;> rfl

/-- A call binds its target to a new socket, named by the socket count and connected to the
target's endpoint, when the target had none and the broker is alive; every other binding
stays as it was. -/
theorem step_socketFor (sender : Sender) (call : Call) (target : Target) :
    (step sender call).1.socketFor target =
      if call.target = some target ∧ sender.socketFor target = none then
        sender.broker.map fun broker => ⟨sender.sockets, endpointOf broker target⟩
      else sender.socketFor target := by
  cases call with
  | destroyBroker => simp [step, socketFor, Call.target]
  | sendSerialized envelope toMachineId toChannel =>
    obtain ⟨machines, channels⟩ := sendSerialized_maps sender envelope toMachineId toChannel
    cases target with
    | machine id =>
      by_cases same : id = toMachineId
      · subst same; simp [step, socketFor, Call.target, endpointOf, machines, lazySocket_map]
      · simp [step, socketFor, Call.target, machines, lazySocket_map, same, Ne.symm same]
    | channel channel => simp [step, socketFor, Call.target, channels]
  | sendLocal envelope toChannel =>
    obtain ⟨channels, machines⟩ := sendLocal_maps sender envelope toChannel
    cases target with
    | machine id => simp [step, socketFor, Call.target, machines]
    | channel channel =>
      by_cases same : channel = toChannel
      · subst same; simp [step, socketFor, Call.target, endpointOf, channels, lazySocket_map]
      · simp [step, socketFor, Call.target, channels, lazySocket_map, same, Ne.symm same]

theorem lazySocket_sockets {α : Type} [DecidableEq α] (sender : Sender) (map : α → Option Socket)
    (destination : α) (endpoint : Broker → String) :
    (lazySocket sender map destination endpoint).elim sender.sockets (·.2.2) =
      if map destination = none ∧ sender.broker.isSome then sender.sockets + 1 else sender.sockets := by
  unfold lazySocket
  cases map destination <;> cases sender.broker <;> simp

theorem lazySocket_bound {α : Type} [DecidableEq α] {sender : Sender} {map : α → Option Socket}
    {destination : α} {endpoint : Broker → String} {socket : Socket} {updated : α → Option Socket}
    {count : Nat} (found : lazySocket sender map destination endpoint = some (socket, updated, count)) :
    updated destination = some socket := by
  unfold lazySocket at found
  split at found
  · simp_all
  · simp only [Option.map_eq_some', Prod.mk.injEq] at found
    obtain ⟨_, _, rfl, rfl, -⟩ := found
    simp

theorem lazySocket_eq_none {α : Type} [DecidableEq α] {sender : Sender} {map : α → Option Socket}
    {destination : α} {endpoint : Broker → String}
    (dropped : lazySocket sender map destination endpoint = none) :
    map destination = none ∧ sender.broker = none := by
  unfold lazySocket at dropped
  split at dropped <;> simp_all

@[simp] theorem step_broker_destroyBroker (sender : Sender) :
    (step sender .destroyBroker).1.broker = none := rfl

theorem step_broker_of_send {sender : Sender} {call : Call} (sends : call.target.isSome) :
    (step sender call).1.broker = sender.broker := by
  cases call <;> simp only [Call.target, Option.isSome_none, Bool.false_eq_true] at sends <;>
    simp only [step, sendSerialized, sendLocal] <;> split <;> rfl

@[simp] theorem step_broker_sendSerialized (sender : Sender) (envelope : Envelope)
    (toMachineId : MachineId) (toChannel : Channel) :
    (step sender (.sendSerialized envelope toMachineId toChannel)).1.broker = sender.broker :=
  step_broker_of_send rfl

@[simp] theorem step_broker_sendLocal (sender : Sender) (envelope : Envelope) (toChannel : Channel) :
    (step sender (.sendLocal envelope toChannel)).1.broker = sender.broker :=
  step_broker_of_send rfl

theorem step_sockets (sender : Sender) (call : Call) :
    (step sender call).1.sockets =
      match call.target with
      | some target =>
        if sender.socketFor target = none ∧ sender.broker.isSome then sender.sockets + 1 else sender.sockets
      | none => sender.sockets := by
  cases call with
  | destroyBroker => rfl
  | sendSerialized envelope toMachineId toChannel =>
    simp only [step, sendSerialized, Call.target, socketFor]
    rw [← lazySocket_sockets sender _ _ (·.endpointByMachineId toMachineId)]
    split <;> simp_all
  | sendLocal envelope toChannel =>
    simp only [step, sendLocal, Call.target, socketFor]
    rw [← lazySocket_sockets sender _ _ (fun _ => "inproc://channel_" ++ toString toChannel)]
    split <;> simp_all

/-- What a call writes goes through the socket its target is bound to after the call. -/
theorem step_written (sender : Sender) (call : Call) :
    (step sender call).2 = Call.written (step sender call).1 call := by
  cases call with
  | destroyBroker => rfl
  | sendSerialized envelope toMachineId toChannel =>
    simp only [step, sendSerialized]
    split
    · next dropped => simp [Call.written, (lazySocket_eq_none dropped).1]
    · next found => simp [Call.written, lazySocket_bound found]
  | sendLocal envelope toChannel =>
    simp only [step, sendLocal]
    split
    · next dropped => simp [Call.written, (lazySocket_eq_none dropped).1]
    · next found => simp [Call.written, lazySocket_bound found]

end Sender

end Slog

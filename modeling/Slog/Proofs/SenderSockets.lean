import Slog.Sender

/-! Each destination of a sender is bound to at most one socket, created on the first send to
it while the broker is alive and never replaced afterwards. Every envelope for one destination
therefore goes through that one socket, in call order. -/

namespace Slog.Proofs.SenderSockets
open Sender

/-- The sockets a sender has bound: connected to their target's endpoint, numbered below the
socket count, and never shared by two targets. -/
structure Bound (broker : Broker) (sender : Sender) : Prop where
  alive : sender.broker = some broker ∨ sender.broker = none
  localMachineId : sender.localMachineId = broker.localMachineId
  endpoint : ∀ target socket, sender.socketFor target = some socket →
    socket.endpoint = endpointOf broker target
  numbered : ∀ target socket, sender.socketFor target = some socket → socket.id < sender.sockets
  distinct : ∀ target other socket, sender.socketFor target = some socket →
    sender.socketFor other = some socket → target = other

variable {broker : Broker} {sender : Sender} {call : Call} {target : Target} {socket : Socket}

theorem socketFor_create (target : Target) : (create broker).socketFor target = none := by
  cases target <;> rfl

theorem step_socketFor_of_some (bound : sender.socketFor target = some socket) :
    (step sender call).1.socketFor target = some socket := by
  simp [step_socketFor, bound]

theorem step_socketFor_cases (bound : (step sender call).1.socketFor target = some socket) :
    sender.socketFor target = some socket ∨
      call.target = some target ∧ sender.socketFor target = none ∧
        ∃ alive, sender.broker = some alive ∧ socket = ⟨sender.sockets, endpointOf alive target⟩ ∧
          (step sender call).1.sockets = sender.sockets + 1 := by
  rw [step_socketFor] at bound
  split at bound
  · next creates =>
    obtain ⟨sends, unbound⟩ := creates
    obtain ⟨alive, present, rfl⟩ := Option.map_eq_some'.mp bound
    refine .inr ⟨sends, unbound, alive, present, rfl, ?_⟩
    simp [step_sockets, sends, unbound, present]
  · exact .inl bound

theorem step_sockets_le (sender : Sender) (call : Call) : sender.sockets ≤ (step sender call).1.sockets := by
  rw [step_sockets]
  split
  · split <;> omega
  · exact le_rfl

theorem Bound.create (broker : Broker) : Bound broker (create broker) :=
  ⟨.inl rfl, rfl, by simp [socketFor_create], by simp [socketFor_create], by simp [socketFor_create]⟩

theorem Bound.stepped (valid : Bound broker sender) (call : Call) : Bound broker (step sender call).1 := by
  have grows := step_sockets_le sender call
  refine ⟨?_, by simp [valid.localMachineId], fun target socket bound => ?_, fun target socket bound => ?_,
    fun target other socket bound otherBound => ?_⟩
  · cases call with
    | destroyBroker => exact .inr rfl
    | sendSerialized | sendLocal => simpa using valid.alive
  · rcases step_socketFor_cases bound with old | ⟨-, -, alive, present, rfl, -⟩
    · exact valid.endpoint target socket old
    · rcases valid.alive with same | dead <;> simp_all
  · rcases step_socketFor_cases bound with old | ⟨-, -, -, -, rfl, counted⟩
    · exact Nat.lt_of_lt_of_le (valid.numbered target socket old) grows
    · simp [counted]
  · have origin : ∀ target, (step sender call).1.socketFor target = some socket →
        sender.socketFor target = some socket ∨ call.target = some target ∧ socket.id = sender.sockets := by
      intro target bound
      rcases step_socketFor_cases bound with old | ⟨sends, -, -, -, rfl, -⟩
      · exact .inl old
      · exact .inr ⟨sends, rfl⟩
    rcases origin target bound with old | ⟨sends, fresh⟩ <;>
      rcases origin other otherBound with otherOld | ⟨otherSends, otherFresh⟩
    · exact valid.distinct target other socket old otherOld
    · exact absurd (valid.numbered target socket old) (by omega)
    · exact absurd (valid.numbered other socket otherOld) (by omega)
    · exact Option.some.inj (sends.symm.trans otherSends)

theorem run_append (sender : Sender) (before after : List Call) :
    run sender (before ++ after) =
      ((run (run sender before).1 after).1, (run sender before).2 ++ (run (run sender before).1 after).2) := by
  induction before generalizing sender with
  | nil => rfl
  | cons call before ih => simp [run, ih]

theorem Bound.ran (valid : Bound broker sender) (calls : List Call) : Bound broker (run sender calls).1 := by
  induction calls generalizing sender with
  | nil => exact valid
  | cons call calls ih => exact ih (valid.stepped call)

theorem run_socketFor_of_some (bound : sender.socketFor target = some socket) (calls : List Call) :
    (run sender calls).1.socketFor target = some socket := by
  induction calls generalizing sender with
  | nil => exact bound
  | cons call calls ih => exact ih (step_socketFor_of_some bound)

theorem run_socketFor_of_dead (dead : sender.broker = none) (unbound : sender.socketFor target = none)
    (calls : List Call) : (run sender calls).1.socketFor target = none := by
  induction calls generalizing sender with
  | nil => exact unbound
  | cons call calls ih =>
    refine ih ?_ (by simp [step_socketFor, unbound, dead])
    cases call with
    | destroyBroker => rfl
    | sendSerialized | sendLocal => simpa using dead

@[simp] theorem run_localMachineId (sender : Sender) (calls : List Call) :
    (run sender calls).1.localMachineId = sender.localMachineId := by
  induction calls generalizing sender with
  | nil => rfl
  | cons call calls ih => simp [run, ih]

theorem written_congr {first second : Sender} (call : Call)
    (machine : first.localMachineId = second.localMachineId)
    (same : ∀ target, call.target = some target → first.socketFor target = second.socketFor target) :
    Call.written first call = Call.written second call := by
  cases call with
  | destroyBroker => rfl
  | sendSerialized envelope toMachineId toChannel =>
    simp [Call.written, machine, show first.machineIdToSocket toMachineId = second.machineIdToSocket toMachineId
      from same (.machine toMachineId) rfl]
  | sendLocal envelope toChannel =>
    simp [Call.written, show first.localChannelToSocket toChannel = second.localChannelToSocket toChannel
      from same (.channel toChannel) rfl]

/-- A call's target is bound after the rest of a run exactly as it was right after the call:
a binding stays, and a send that found no socket did so because the broker was gone. -/
theorem run_written (sender : Sender) (calls : List Call) :
    (run sender calls).2 = calls.map (Call.written (run sender calls).1) := by
  induction calls generalizing sender with
  | nil => rfl
  | cons call calls ih =>
    simp only [run, List.map_cons, ih, step_written]
    congr 1
    refine written_congr call (by simp) fun target sends => ?_
    cases bound : (step sender call).1.socketFor target with
    | some socket => exact (run_socketFor_of_some bound calls).symm
    | none =>
      have unbound : sender.socketFor target = none := by
        cases found : sender.socketFor target with
        | none => rfl
        | some socket => simp [step_socketFor_of_some found] at bound
      have dead : sender.broker = none := by simpa [step_socketFor, sends, unbound] using bound
      have gone : (step sender call).1.broker = none := by
        rw [step_broker_of_send (by simp [sends]), dead]
      exact (run_socketFor_of_dead gone bound calls).symm

theorem step_socketFor_isSome (sender : Sender) (call : Call) (target : Target) :
    ((step sender call).1.socketFor target).isSome ↔
      (sender.socketFor target).isSome ∨ (sender.broker.isSome ∧ call.target = some target) := by
  rw [step_socketFor]
  split
  · next creates => simp [creates.1, creates.2]
  · next keeps =>
    refine ⟨.inl, fun bound => bound.elim id fun ⟨_, sends⟩ => ?_⟩
    exact Option.ne_none_iff_isSome.mp fun unbound => keeps ⟨sends, unbound⟩

theorem run_broker (sender : Sender) (calls : List Call) :
    (run sender calls).1.broker = if calls.all (·.target.isSome) then sender.broker else none := by
  induction calls generalizing sender with
  | nil => simp [run]
  | cons call calls ih =>
    simp only [run, ih, List.all_cons]
    cases call <;> simp only [Call.target.eq_1, Call.target.eq_2, Call.target.eq_3, step_broker_sendSerialized,
      step_broker_sendLocal, step_broker_destroyBroker, Option.isSome_some, Option.isSome_none, Bool.true_and,
      Bool.false_and, Bool.false_eq_true, ↓reduceIte, ite_self]

theorem run_socketFor_isSome (sender : Sender) (calls : List Call) (target : Target) :
    ((run sender calls).1.socketFor target).isSome ↔ (sender.socketFor target).isSome ∨
      (sender.broker.isSome ∧ ∃ call ∈ calls.takeWhile (·.target.isSome), call.target = some target) := by
  induction calls generalizing sender with
  | nil => simp [run]
  | cons call calls ih =>
    simp only [run, ih, step_socketFor_isSome]
    cases call with
    | destroyBroker => simp [Call.target]
    | sendSerialized | sendLocal =>
      simp only [Call.target.eq_1, Call.target.eq_2, step_broker_sendSerialized, step_broker_sendLocal,
        Option.isSome_some, List.takeWhile_cons_of_pos, List.mem_cons, or_and_right, exists_or, exists_eq_left,
        and_or_left, or_assoc]

/-- The socket discipline of a sender over every sequence of sends, with the broker destroyed
at any point. Every call writes through the socket its destination ends up bound to, in call
order, and a destination ends up bound exactly when a send to it came while the broker was
alive. At every point of the sequence a call binds at most its own destination: the first send
to it while the broker is alive binds a new socket, numbered by the sockets made so far and
connected to the destination's endpoint, and every other binding stays as it was, so after the
broker is gone nothing is bound. A bound socket serves no other destination and is never
replaced. -/
theorem sender_socket_discipline (broker : Broker) (calls : List Call) :
    (run (create broker) calls).2 = calls.map (Call.written (run (create broker) calls).1) ∧
    (∀ target, ((run (create broker) calls).1.socketFor target).isSome ↔
      ∃ call ∈ calls.takeWhile (·.target.isSome), call.target = some target) ∧
    (∀ target socket, (run (create broker) calls).1.socketFor target = some socket →
      socket.endpoint = endpointOf broker target) ∧
    (∀ target other socket, (run (create broker) calls).1.socketFor target = some socket →
      (run (create broker) calls).1.socketFor other = some socket → target = other) ∧
    (∀ before call target, (run (create broker) (before ++ [call])).1.socketFor target =
      if call.target = some target ∧ (run (create broker) before).1.socketFor target = none ∧
          before.all (·.target.isSome) then
        some ⟨(run (create broker) before).1.sockets, endpointOf broker target⟩
      else (run (create broker) before).1.socketFor target) ∧
    (∀ before after target socket, (run (create broker) before).1.socketFor target = some socket →
      (run (create broker) (before ++ after)).1.socketFor target = some socket) := by
  have valid := (Bound.create broker).ran calls
  refine ⟨run_written _ calls, fun target => ?_, valid.endpoint, valid.distinct,
    fun before call target => ?_, fun before after target socket bound => ?_⟩
  · rw [run_socketFor_isSome, socketFor_create]
    simp [create]
  · rw [run_append]
    simp only [run, step_socketFor, run_broker]
    by_cases alive : before.all (·.target.isSome) = true
    · simp [alive, create]
    · simp only [alive, Bool.false_eq_true, and_false, if_false, ite_eq_right_iff, Option.map_eq_none',
        and_imp]
      exact fun _ unbound => unbound.symm
  · rw [run_append]
    exact run_socketFor_of_some bound after

theorem sender_socket_discipline_broker_destroyed :
    let broker : Broker := ⟨0, fun _ => "tcp://machine"⟩
    let calls : List Call := [.sendSerialized ⟨.other⟩ 5 3, .sendSerialized ⟨.other⟩ 5 4, .destroyBroker,
      .sendSerialized ⟨.other⟩ 5 3, .sendLocal ⟨.other⟩ 2]
    (run (create broker) calls).2 = [some ⟨⟨0, "tcp://machine"⟩, .serialized ⟨.other⟩ 0 3⟩,
        some ⟨⟨0, "tcp://machine"⟩, .serialized ⟨.other⟩ 0 4⟩, none,
        some ⟨⟨0, "tcp://machine"⟩, .serialized ⟨.other⟩ 0 3⟩, none] ∧
      ((run (create broker) calls).1.socketFor (.machine 5)).isSome ∧
      ((run (create broker) calls).1.socketFor (.channel 2)).isSome = false := by
  intro broker calls
  have laws := sender_socket_discipline broker calls
  exact ⟨rfl, (laws.2.1 _).mpr ⟨_, List.mem_cons_self _ _, rfl⟩,
    Bool.eq_false_iff.mpr fun bound => absurd ((laws.2.1 _).mp bound) (by decide)⟩

end Slog.Proofs.SenderSockets

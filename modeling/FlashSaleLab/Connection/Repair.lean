import FlashSaleLab.Connection.Channels
import FlashSaleLab.Connection.Recovery

/-!
# What the repaired channel is good for

The channel that a service comes to is set, open and not about to be closed, and the consumer's has
its consumer registered.
-/
namespace FlashSaleLab

namespace Client

open Transition

variable {service : Service} {c c' : Client} {a : ClientAction}

/-! ### The consumer of the channel -/

/-- A channel that was set up and is open has its consumer. -/
def Consuming (c : Client) : Prop :=
  ∀ (id : Nat) (held : Connection), c.connections[id]? = some held → held.listening = true →
    held.channel = .opened → held.consuming = true

theorem Consuming.same (consuming : Consuming c) (same : c'.connections = c.connections) :
    Consuming c' := by
  intro id held found
  rw [same] at found
  exact consuming id held found

theorem Consuming.modify (consuming : Consuming c) {id : Nat} {f : Connection → Connection}
    (keeps : ∀ held, c.connections[id]? = some held → (f held).listening = true →
      (f held).channel = .opened → held.listening = true ∧ held.channel = .opened ∧
        (f held).consuming = held.consuming)
    (table : c'.connections = (c.modify id f).connections) : Consuming c' := by
  intro other held found listening opened
  rw [table] at found
  rcases of_get_modify found with ⟨_, there⟩ | ⟨rfl, before, there, rfl⟩
  · exact consuming other held there listening opened
  · obtain ⟨heard, open_, same⟩ := keeps before there listening opened
    exact same.trans (consuming other before there heard open_)

theorem Consuming.closes (consuming : Consuming c) (closes : OnlyCloses c c') : Consuming c' := by
  rcases closes.table with same | ⟨id, closed⟩
  · exact consuming.same same
  · apply consuming.modify ?_ closed
    exact fun held _ heard open_ => ⟨heard, open_, rfl⟩

/-- A dropped channel is not open. -/
theorem Consuming.drops (consuming : Consuming c) {id : Nat} {f : Connection → Connection}
    (drops : ∀ held, (f held).channel = held.dropChannel.channel) : Consuming (c.modify id f) := by
  refine consuming.modify (fun held _ _ opened => ?_) rfl
  rw [drops] at opened
  cases channel : held.channel <;> simp [Connection.dropChannel, channel] at opened

theorem Consuming.step (consuming : Consuming c) (inv : ReconnectInv .orderNotificationConsumer c)
    (permitted : beforeShutdown c a) (acts : ClientActs .orderNotificationConsumer c a c') :
    Consuming c' := by
  cases acts with
  | connected attempt rest awaited =>
    intro id held found listening
    rcases Registry.of_added found with old | ⟨_, rfl⟩
    · exact consuming id held old listening
    · cases listening
  | performed attempt call rest id held awaited found usable =>
    refine consuming.modify (fun before there listening opened => ?_) rfl
    -- nobody listens to a connection that is being set up
    have unheard := (inv.attempt _ (List.mem_of_getElem? awaited)).unheard id before rfl there
    have same : (before.perform call).listening = before.listening := by cases call <;> rfl
    cases unheard.symm.trans (same.symm.trans listening)
  | established attempt call id held awaited found usable =>
    obtain ⟨done, suffix⟩ := (inv.attempt _ (List.mem_of_getElem? awaited)).suffix
    have last : call = .consume := by
      have ends := congrArg List.getLast? suffix
      rw [List.getLast?_concat] at ends
      exact (Option.some.inj ends).symm
    subst last
    intro other held' there listening opened
    rcases of_get_modify there with ⟨ne, there⟩ | ⟨rfl, before, there, same⟩
    · rw [get_modify_other ne] at there
      exact consuming other held' there listening opened
    · obtain ⟨first, _, rfl⟩ := of_get_modify_self there
      rw [same]
      rfl
  | failed attempt suspended awaited =>
    rw [scheduleReconnect_eq]
    exact consuming.same rfl
  | fired armed =>
    unfold connect
    split <;> exact consuming.same rfl
  | lost id held found opened =>
    apply consuming.modify ?_ rfl
    exact fun before _ heard open_ => ⟨heard, open_, rfl⟩
  | channelUnheard => exact consuming.drops fun _ => rfl
  | connectionUnheard => exact consuming.drops fun _ => rfl
  | channelClosed id => exact (consuming.drops fun _ => rfl).closes (onChannelClose_closes _ _ id)
  | connectionClosed id held =>
    have terminated : Consuming (c.modify id Connection.terminate) := consuming.drops fun _ => rfl
    split
    · exact (terminated.closes (onChannelClose_closes _ _ id)).closes
        (onConnectionClose_closes _ _ id)
    · exact terminated.closes (onConnectionClose_closes _ _ id)
  | delivered | finished => exact consuming.same rfl
  | shutdownBegan idle => exact absurd rfl permitted
  | cancelled ok channel connection suspended | drained ok tasks channel connection suspended
  | channelEnded ok channel connection held suspended
  | connectionEnded ok connection refused suspended => cases inv.calm.2.symm.trans suspended

/-- `this.channel` is an open channel, and the consumer is registered on its own. -/
def Restored (service : Service) (c : Client) : Prop :=
  ∃ id held, c.channel = some id ∧ c.connections[id]? = some held ∧ held.channel = .opened ∧
    held.status = .opened ∧ (service = .orderNotificationConsumer → held.consuming = true)

end Client

end FlashSaleLab

import FlashSaleLab.Connection.Reconnect

/-!
# How connections age

Events only take a connection further: it loses its channel, is asked to close, and closes. `Ages`
says so of one connection and `AgesTo` of all of them; `Sane` is what a connection is like at any
time of its life.
-/
namespace FlashSaleLab

namespace Connection

/-- Closed, or about to be. -/
def Over (held : Connection) : Prop := held.status = .closing ∨ held.status = .closed

/-- What a connection never takes back. -/
structure Ages (before after : Connection) : Prop where
  listening : after.listening = before.listening
  ends : before.Over → after.Over
  closed : before.status = .closed → after.status = .closed
  requested : before.closeCalled = true → after.closeCalled = true

structure Sane (held : Connection) : Prop where
  consumer : held.consuming = true → held.channel = .opened ∧ held.listening = true
  ends : held.Over → held.channel ≠ .opened
  requested : held.status = .closing → held.closeCalled = true

variable {held : Connection}

theorem Ages.refl : Ages held held :=
  ⟨rfl, id, id, id⟩

theorem dropChannel_ages : Ages held held.dropChannel := by
  unfold dropChannel
  split
  · exact ⟨rfl, id, id, id⟩
  · exact .refl

theorem terminate_status : held.terminate.status = .closed :=
  rfl

theorem terminate_ages : Ages held held.terminate :=
  ⟨dropChannel_ages.listening, fun _ => Or.inr rfl, fun _ => rfl, dropChannel_ages.requested⟩

theorem lose_ages (opened : held.status = .opened) :
    Ages held { held with status := .lost } := by
  constructor
  · rfl
  · intro ends
    simp [Over, opened] at ends
  · intro closed
    cases opened.symm.trans closed
  · exact id

theorem perform_ages (call : SetupCall) : Ages held (held.perform call) := by
  cases call <;> exact ⟨rfl, id, id, id⟩

theorem close_ages : Ages held held.close := by
  constructor
  · rfl
  · rintro (closing | closed)
    · exact Or.inl (by simp [close, closing])
    · exact Or.inr (by simp [close, closed])
  · intro closed
    simp [close, closed]
  · intro _
    rfl

theorem Sane.fresh : Sane fresh := by
  constructor
  · intro consuming
    cases consuming
  · rintro (closing | closed)
    · cases closing
    · cases closed
  · intro closing
    cases closing

theorem dropChannel_closed : held.dropChannel.channel ≠ .opened := by
  unfold dropChannel
  split
  · simp
  next other => exact fun opened => other opened

theorem Sane.dropChannel (sane : Sane held) : Sane held.dropChannel := by
  have unchanged : held.dropChannel.status = held.status ∧
      held.dropChannel.closeCalled = held.closeCalled := by
    unfold Connection.dropChannel
    split <;> exact ⟨rfl, rfl⟩
  constructor
  · intro consuming
    unfold Connection.dropChannel at consuming
    split at consuming
    · cases consuming
    next other => exact absurd (sane.consumer consuming).1 other
  · intro _
    exact dropChannel_closed
  · intro closing
    rw [unchanged.1] at closing
    rw [unchanged.2]
    exact sane.requested closing

theorem Sane.terminate (sane : Sane held) : Sane held.terminate := by
  constructor
  · exact sane.dropChannel.consumer
  · intro _
    exact dropChannel_closed
  · intro closing
    cases closing

theorem Sane.lose (sane : Sane held) : Sane { held with status := .lost } := by
  constructor
  · exact sane.consumer
  · rintro (closing | closed)
    · cases closing
    · cases closed
  · intro closing
    cases closing

/-- `close()` comes after the end of the channel. -/
theorem Sane.close (sane : Sane held) (ended : held.channel ≠ .opened) : Sane held.close :=
  ⟨sane.consumer, fun _ => ended, fun _ => rfl⟩

theorem Sane.perform (sane : Sane held) {call : SetupCall} (usable : held.usable call = true)
    (other : call ≠ .consume) : Sane (held.perform call) := by
  have opened : held.status = .opened := by
    simp only [Connection.usable, Bool.and_eq_true, decide_eq_true_eq] at usable
    exact usable.1
  cases call with
  | createConfirmChannel =>
    refine ⟨fun consuming => ⟨rfl, (sane.consumer consuming).2⟩, ?_, sane.requested⟩
    intro ends
    simp [Over, Connection.perform, opened] at ends
  | consume => exact absurd rfl other
  | connect | assertQueue | prefetch => exact sane

end Connection

namespace Client

open Connection (Over Ages Sane)

variable {service : Service} {c c' : Client} {a : ClientAction}

/-- Every connection is sane. -/
def Orderly (c : Client) : Prop :=
  ∀ (id : Nat) (held : Connection), c.connections[id]? = some held → Sane held

theorem Orderly.modify (orderly : Orderly c) {id : Nat} {f : Connection → Connection}
    (keeps : ∀ held, c.connections[id]? = some held → Sane (f held)) : Orderly (c.modify id f) := by
  intro other held found
  rcases of_get_modify found with ⟨_, there⟩ | ⟨_, before, there, rfl⟩
  · exact orderly other held there
  · exact keeps before there

/-- One list of connections has aged into another, with new connections at its end. -/
structure AgesTo (c c' : Client) : Prop where
  old : ∀ (id : Nat) (held' : Connection), c'.connections[id]? = some held' →
    held'.listening = true → ∃ held, c.connections[id]? = some held ∧ Ages held held'
  kept : ∀ (id : Nat) (held : Connection), c.connections[id]? = some held →
    ∃ held', c'.connections[id]? = some held' ∧ Ages held held'

theorem AgesTo.same (same : c'.connections = c.connections) : AgesTo c c' := by
  constructor
  · intro id held found _
    exact ⟨held, same ▸ found, .refl⟩
  · intro id held found
    exact ⟨held, same.symm ▸ found, .refl⟩

theorem AgesTo.added (same : c'.connections = c.connections ++ [.fresh]) : AgesTo c c' := by
  constructor
  · intro id held found heard
    rw [same] at found
    rcases Registry.of_added found with old | ⟨_, rfl⟩
    · exact ⟨held, old, .refl⟩
    · cases heard
  · intro id held found
    rw [same]
    exact ⟨held, Registry.added_of found, .refl⟩

theorem AgesTo.modify {id : Nat} {f : Connection → Connection}
    (ages : ∀ held, c.connections[id]? = some held → Ages held (f held))
    (same : c'.connections = (c.modify id f).connections) : AgesTo c c' := by
  constructor
  · intro other held' there _
    rw [same] at there
    rcases of_get_modify there with ⟨_, before⟩ | ⟨rfl, before, present, rfl⟩
    · exact ⟨held', before, .refl⟩
    · exact ⟨before, present, ages before present⟩
  · intro other before there
    rw [same]
    by_cases here : other = id
    · subst here
      exact ⟨f before, get_modify_self there, ages before there⟩
    · exact ⟨before, (get_modify_other here).trans there, .refl⟩

/-- Every connection that was ever set up satisfies this. -/
def EverySetUp (c : Client) (P : Nat → Connection → Prop) : Prop :=
  ∀ (id : Nat) (held : Connection), c.connections[id]? = some held → held.listening = true →
    P id held

theorem EverySetUp.aged {P Q : Nat → Connection → Prop} (every : EverySetUp c P)
    (ages : AgesTo c c')
    (keeps : ∀ (id : Nat) (held held' : Connection), c'.connections[id]? = some held' →
      Ages held held' → P id held → Q id held') : EverySetUp c' Q := by
  intro id held' found heard
  obtain ⟨held, before, age⟩ := ages.old id held' found heard
  exact keeps id held held' found age (every id held before (age.listening.symm.trans heard))

end Client

end FlashSaleLab

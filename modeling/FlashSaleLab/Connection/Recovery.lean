import FlashSaleLab.Connection.Reconnect
import FlashSaleLab.Foundations.Progress

/-!
# The services get their channels back

From any state before a shutdown, and with nothing else going wrong, a service comes to an open
channel by its own doing: a setup that cannot succeed any more rejects, a connection that is gone
closes, the timer fires and the next `connect()` succeeds. `RabbitMqService` hears only its
connection close. That is enough, because a channel of its that the broker closes takes the
connection along.
-/
namespace FlashSaleLab

namespace Client

open Transition

/-- `this.channel` is an open channel. -/
def Ready (c : Client) : Prop :=
  ∃ id held, c.channel = some id ∧ c.connections[id]? = some held ∧ held.channel = .opened ∧
    held.status = .opened

/-- The 'close' event of the current connection is still to come, and will arm the timer. -/
def ClosePending (service : Service) (c : Client) : Prop :=
  ∃ id c', c.connection = some id ∧ c.step service (.connectionCloses id) = some c' ∧
    c'.reconnectTimer = true

/-- `this.channel` takes a message: the channel object is open. -/
def CanPublish (c : Client) : Prop :=
  ∃ id held, c.channel = some id ∧ c.connections[id]? = some held ∧ held.channel = .opened

/-- Nothing breaks and no call rejects; what is broken shows to whoever listens. -/
def mends (c : Client) : ClientAction → Prop
  | .setupResolves _ => True
  | .timerFires => True
  | .connectionCloses id => ∃ held, c.connections[id]? = some held ∧ held.listening = true
  | .setupRejects _ => False
  | .lose _ => False
  | .channelCloses _ => False
  | .deliver _ => False
  | .handlerFinishes _ => False
  | .shutdown => False
  | .shutdownSettles _ => False

/-- A `connect()` in progress awaits a call that cannot succeed any more. -/
def Stuck (service : Service) (c : Client) : Prop :=
  c.attempts ≠ [] ∧ c.setupResolves service 0 = none

variable {service : Service} {c c' : Client} {a : ClientAction}

theorem ReconnectInv.close_pending (inv : ReconnectInv service c) {id : Nat} {held : Connection}
    (set : c.connection = some id) (found : c.connections[id]? = some held)
    (heard : held.listening = true) (pending : held.status = .lost ∨ held.status = .closing) :
    ClosePending service c := by
  obtain ⟨c', taken, armed, _⟩ := inv.closes set found heard pending
  exact ⟨id, c', set, taken, armed⟩

/-- With both fields set the channel is open, unless the connection is gone and about to close. -/
theorem ReconnectInv.available (inv : ReconnectInv service c)
    (available : RabbitMqService.isAvailable c = true) :
    CanPublish c ∧ (Ready c ∨ ClosePending service c) := by
  cases inv.phase with
  | connecting attempt running disarmed unset | waiting idle armed unset =>
    simp [RabbitMqService.isAvailable, unset] at available
  | closing id held consumer idle disarmed set unheld =>
    simp [RabbitMqService.isAvailable, unheld] at available
  | established id held idle disarmed set current found heard alive channel =>
    refine ⟨⟨id, held, current, found, channel⟩, ?_⟩
    rcases alive with opened | lost
    · exact Or.inl ⟨id, held, current, found, channel, opened⟩
    · exact Or.inr (inv.close_pending set found heard (Or.inl lost))

/-- A connection on which the rest of `connect()` can still succeed. -/
def Workable (call : SetupCall) (held : Connection) : Prop :=
  held.status = .opened ∧ (call = .createConfirmChannel ∨ held.channel = .opened)

theorem workable_iff {call : SetupCall} {held : Connection} :
    held.usable call = true ↔ Workable call held := by
  simp [Connection.usable, Workable]

/-- A call that succeeds leaves an open connection with an open channel. -/
theorem Workable.perform {call : SetupCall} {held : Connection} (workable : Workable call held) :
    (held.perform call).status = .opened ∧ (held.perform call).channel = .opened := by
  obtain ⟨opened, channel⟩ := workable
  rcases channel with rfl | open_
  · exact ⟨opened, rfl⟩
  · cases call with
    | createConfirmChannel => exact ⟨opened, rfl⟩
    | connect | assertQueue | prefetch | consume => exact ⟨opened, open_⟩

/-- A `connect()` on a connection that works comes to its end: induction on the calls to come. -/
theorem setup_mends (service : Service) {id : Nat} (rest : List SetupCall) :
    ∀ (c : Client) (call : SetupCall) (held : Connection),
    c.attempts = [⟨call :: rest, some id⟩] → c.connections[id]? = some held →
    Workable call held → (system service).CanReach mends Ready c := by
  induction rest with
  | nil =>
    intro c call held awaited found workable
    obtain ⟨opened, channel⟩ := workable.perform
    let connected := service.established (c.modify id (Connection.perform call)) 0 id
    have ready : Ready connected := ⟨id, _, rfl, get_established found, channel, opened⟩
    have taken : c.step service (.setupResolves 0) = some connected := by
      simp [connected, Client.step, setupResolves, awaited, found, workable_iff.mpr workable]
    exact .step (a := .setupResolves 0) trivial taken (.here ready)
  | cons next rest ih =>
    intro c call held awaited found workable
    obtain ⟨opened, channel⟩ := workable.perform
    let performed : Client :=
      { c.modify id (Connection.perform call) with attempts := [⟨next :: rest, some id⟩] }
    have finishes := ih performed next (held.perform call) rfl (get_modify_self found)
      ⟨opened, Or.inr channel⟩
    have taken : c.step service (.setupResolves 0) = some performed := by
      simp [performed, Client.step, setupResolves, awaited, found, workable_iff.mpr workable]
    exact .step (a := .setupResolves 0) trivial taken finishes

/-- After `amqp.connect` comes `createConfirmChannel`. -/
theorem setup_connect {done rest : List SetupCall}
    (suffix : service.setup = done ++ .connect :: rest) :
    ∃ rest', rest = .createConfirmChannel :: rest' := by
  have once : .connect ∉ service.setup.tail := by cases service <;> decide
  have second : service.setup[1]? = some .createConfirmChannel := by cases service <;> rfl
  rw [suffix] at once second
  cases done with
  | cons call done => simp at once
  | nil =>
    cases rest with
    | nil => cases second
    | cons call rest =>
      cases second
      exact ⟨rest, rfl⟩

/-- The calls after `amqp.connect` can all succeed on the connection it returned. -/
theorem opened_mends {rest : List SetupCall} {connections : List Connection} {id : Nat}
    (awaited : c.attempts = [⟨.createConfirmChannel :: rest, some id⟩])
    (table : c.connections = connections ++ [.fresh]) (last : id = connections.length) :
    (system service).CanReach mends Ready c := by
  subst last
  apply setup_mends service rest c .createConfirmChannel .fresh awaited ?_ ⟨rfl, Or.inl rfl⟩
  rw [table]
  exact List.getElem?_concat_length

/-- A `connect()` whose awaited call can succeed comes to its end. -/
theorem ReconnectInv.attempt_mends (inv : ReconnectInv service c) {attempt : Attempt}
    (running : Running c attempt) (resolved : c.setupResolves service 0 = some c') :
    (system service).CanReach mends Ready c := by
  apply System.CanReach.step (M := system service) (a := .setupResolves 0) trivial resolved
  cases setupResolves_acts resolved with
  | connected _ rest awaited =>
    obtain ⟨done, suffix⟩ := (inv.attempt _ (List.mem_of_getElem? awaited)).suffix
    obtain ⟨rest', rfl⟩ := setup_connect suffix
    exact opened_mends (running.set _) rfl rfl
  | performed _ call rest id held awaited found usable more =>
    obtain ⟨next, rest, rfl⟩ := List.exists_cons_of_ne_nil more
    obtain ⟨opened, channel⟩ := (workable_iff.mp usable).perform
    exact setup_mends service rest _ next _ (running.set _) (get_modify_self found)
      ⟨opened, Or.inr channel⟩
  | established _ call id held awaited found usable =>
    obtain ⟨opened, channel⟩ := inv.setup_done awaited usable
    exact .here ⟨id, _, rfl, get_established found, channel, opened⟩
  | connectionClosed _ _ _ _ ends => cases ends

/-- An armed timer leads to a `connect()` whose calls all succeed. -/
theorem timer_mends (service : Service) (armed : c.reconnectTimer = true) (idle : Idle c)
    (unheld : c.channel = none) (calm : c.shuttingDown = false) :
    (system service).CanReach mends Ready c := by
  obtain ⟨rest, calls⟩ : ∃ rest, service.setup = .connect :: .createConfirmChannel :: rest := by
    cases service with
    | orderNotificationConsumer => exact ⟨_, rfl⟩
    | rabbitMqService => exact ⟨_, rfl⟩
  let begun : Client := { c with
    reconnectTimer := false
    connecting := true
    attempts := [⟨.connect :: .createConfirmChannel :: rest, none⟩] }
  have fires : c.step service .timerFires = some begun := by
    simp [begun, Client.step, timerFires, armed, connect, calm, idle.1, idle.2, unheld, calls]
  let opened : Client := { begun with
    connections := c.connections ++ [.fresh]
    attempts := [⟨.createConfirmChannel :: rest, some c.connections.length⟩] }
  have opens : begun.step service (.setupResolves 0) = some opened := by
    simp [begun, opened, Client.step, setupResolves]
  have finishes : (system service).CanReach mends Ready opened := opened_mends rfl rfl rfl
  exact .step (a := .timerFires) trivial fires
    (.step (a := .setupResolves 0) trivial opens finishes)

/-- From wherever the service is on its way, it gets to an open channel. -/
theorem ReconnectInv.mends (inv : ReconnectInv service c) (free : ¬Stuck service c) :
    (system service).CanReach mends Ready c := by
  have closing {id : Nat} {held : Connection} (set : c.connection = some id)
      (found : c.connections[id]? = some held) (heard : held.listening = true) (idle : Idle c)
      (pending : held.status = .lost ∨ held.status = .closing) :
      (system service).CanReach Client.mends Ready c := by
    obtain ⟨c', taken, armed, ended, unheld, calm⟩ := inv.closes set found heard pending
    exact .step (a := .connectionCloses id) ⟨held, found, heard⟩ taken
      (timer_mends service armed (ended idle) unheld (calm.trans inv.calm.1))
  cases inv.phase with
  | connecting attempt running disarmed unset unheld =>
    cases resolved : c.setupResolves service 0 with
    | some c' => exact inv.attempt_mends running resolved
    | none => exact absurd ⟨by simp [running.2], resolved⟩ free
  | waiting idle armed unset unheld => exact timer_mends service armed idle unheld inv.calm.1
  | established id held idle disarmed set current found heard alive channel =>
    rcases alive with opened | lost
    · exact .here ⟨id, held, current, found, channel, opened⟩
    · exact closing set found heard idle (Or.inl lost)
  | closing id held consumer idle disarmed set unheld found heard requested pending =>
    exact closing set found heard idle (Or.inr pending)

end Client

end FlashSaleLab

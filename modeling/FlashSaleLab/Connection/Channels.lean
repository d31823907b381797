import FlashSaleLab.Connection.Shutdown

/-!
# Channel objects over their life

What the calls on a channel meet is read off its connection object and the shutdown hook. Whatever
the client does, a channel is opened at most once, and then only goes on from open to lost to
closed.
-/
namespace FlashSaleLab

/-- What a call on an open channel of the connection meets; `close()` invalidates the channel. -/
def ConnectionStatus.channel : ConnectionStatus → ChannelStatus
  | .opened => .opened
  | .lost => .lost
  | .closing => .closed
  | .closed => .closed

def ChannelStatus.rank : ChannelStatus → Nat
  | .opened => 0
  | .lost => 1
  | .closed => 2

/-- The hook waits for the `close()` of this connection's channel. -/
def Client.closesChannel (c : Client) (id : Nat) : Bool :=
  match c.shutdown with
  | .closingChannel channel _ => decide (channel = id)
  | _ => false

/-- The channel of a connection as its client sees it. -/
def Client.channelStatus (c : Client) (id : Nat) : Option ChannelStatus :=
  match c.connections[id]? with
  | some held =>
    match held.channel with
    | .missing => none
    | .closed => some .closed
    | .opened => some (if c.closesChannel id then .closed else held.status.channel)
  | none => none

/-- A channel goes on, or is opened. -/
def Forward (before after : Option ChannelStatus) : Prop :=
  ∀ status, before = some status → ∃ later, after = some later ∧ status.rank ≤ later.rank

namespace Connection

/-- What becomes of a connection object. -/
structure Advances (before after : Connection) : Prop where
  status : before.status.channel.rank ≤ after.status.channel.rank
  opened : before.channel = .opened → after.channel ≠ .missing
  closed : before.channel = .closed → after.channel = .closed

variable {held before middle after : Connection}

theorem Advances.refl : Advances held held :=
  ⟨Nat.le_refl _, fun opened missing => by simp [opened] at missing, id⟩

theorem Advances.trans (first : Advances before middle) (second : Advances middle after) :
    Advances before after := by
  constructor
  · exact first.status.trans second.status
  · intro opened
    cases channel : middle.channel with
    | missing => exact absurd channel (first.opened opened)
    | opened => exact second.opened channel
    | closed => simp [second.closed channel]
  · exact fun closed => second.closed (first.closed closed)

theorem dropChannel_advances : Advances held held.dropChannel := by
  unfold dropChannel
  split
  next opened =>
    refine ⟨Nat.le_refl _, fun _ => by simp, fun closed => ?_⟩
    cases opened.symm.trans closed
  · exact .refl

theorem lose_advances (opened : held.status = .opened) :
    Advances held { held with status := .lost } :=
  ⟨by simp [opened, ConnectionStatus.channel, ChannelStatus.rank],
    Advances.refl.opened, id⟩

theorem ChannelStatus.rank_le (status : ChannelStatus) : status.rank ≤ 2 := by
  cases status <;> decide

theorem terminate_advances : Advances held held.terminate :=
  ⟨ChannelStatus.rank_le _, dropChannel_advances.opened, dropChannel_advances.closed⟩

theorem close_advances : Advances held held.close := by
  refine ⟨?_, Advances.refl.opened, id⟩
  unfold close
  split
  · exact ChannelStatus.rank_le _
  · exact Nat.le_refl _

/-- A channel is created once. -/
theorem perform_advances {call : SetupCall}
    (once : call = .createConfirmChannel → held.channel = .missing) :
    Advances held (held.perform call) := by
  cases call with
  | createConfirmChannel =>
    have missing := once rfl
    refine ⟨Nat.le_refl _, fun opened => ?_, fun closed => ?_⟩
    · cases missing.symm.trans opened
    · cases missing.symm.trans closed
  | connect | assertQueue | prefetch | consume => exact ⟨Nat.le_refl _, Advances.refl.opened, id⟩

end Connection

namespace Client

open Connection

variable {service : Service} {c c' : Client} {a : ClientAction}

/-- Every connection object advances. -/
def Kept (c c' : Client) : Prop :=
  ∀ (id : Nat) (held : Connection), c.connections[id]? = some held →
    ∃ held', c'.connections[id]? = some held' ∧ Advances held held'

theorem Kept.same (connections : c'.connections = c.connections) : Kept c c' :=
  fun _ held found => ⟨held, by rw [connections]; exact found, .refl⟩

theorem Kept.trans {middle : Client} (first : Kept c middle) (second : Kept middle c') :
    Kept c c' := by
  intro id held found
  obtain ⟨held', there, advances⟩ := first id held found
  obtain ⟨held'', there', advances'⟩ := second id held' there
  exact ⟨held'', there', advances.trans advances'⟩

theorem Kept.modify {id : Nat} {f : Connection → Connection}
    (advances : ∀ held, c.connections[id]? = some held → Advances held (f held))
    (connections : c'.connections = (c.modify id f).connections) : Kept c c' := by
  intro other held found
  rw [connections]
  by_cases same : other = id
  · subst same
    exact ⟨f held, get_modify_self found, advances held found⟩
  · exact ⟨held, (get_modify_other same).trans found, .refl⟩

/-- No connection object is forgotten. -/
theorem Kept.longer (kept : Kept c c') : c.connections.length ≤ c'.connections.length := by
  by_contra shorter
  rw [Nat.not_le] at shorter
  obtain ⟨held', there, _⟩ := kept c'.connections.length _ (List.getElem?_eq_getElem shorter)
  exact absurd (Registry.lt_of_found there) (Nat.lt_irrefl _)

/-- And a channel whose `close()` was called is not opened again. -/
structure Progressed (c c' : Client) : Prop where
  kept : Kept c c'
  closing : ∀ id, c.closesChannel id = true → c'.closesChannel id = true ∨
    ∀ held', c'.connections[id]? = some held' → held'.channel ≠ .opened

theorem Progressed.forward (progressed : Progressed c c') (id : Nat) :
    Forward (c.channelStatus id) (c'.channelStatus id) := by
  intro status at_
  unfold channelStatus at at_
  split at at_
  next held found =>
    obtain ⟨held', there, advances⟩ := progressed.kept id held found
    simp only [channelStatus, there]
    cases channel : held.channel with
    | missing =>
      rw [channel] at at_
      cases at_
    | closed =>
      rw [channel] at at_
      cases at_
      exact ⟨.closed, by rw [advances.closed channel], Nat.le_refl _⟩
    | opened =>
      simp only [channel, Option.some.injEq] at at_
      subst at_
      cases now : held'.channel with
      | missing => exact absurd now (advances.opened channel)
      | closed => exact ⟨.closed, rfl, ChannelStatus.rank_le _⟩
      | opened =>
        refine ⟨_, rfl, ?_⟩
        cases closes : c.closesChannel id with
        | true =>
          rcases progressed.closing id closes with still | ended
          · simp [still]
          · exact absurd now (ended held' there)
        | false =>
          simp only [Bool.false_eq_true, if_false]
          split
          · exact ChannelStatus.rank_le _
          · exact advances.status
  · cases at_

theorem closesChannel_congr (shutdown : c'.shutdown = c.shutdown) (id : Nat) :
    c'.closesChannel id = c.closesChannel id := by
  simp only [closesChannel, shutdown]

/-- Outside the hook's wait for the channel nothing is asked of the channel. -/
theorem not_closesChannel (other : ∀ id connection, c.shutdown ≠ .closingChannel id connection)
    (id : Nat) : c.closesChannel id = false := by
  unfold closesChannel
  split
  next channel connection at_ => exact absurd at_ (other channel connection)
  · rfl

theorem Progressed.of_kept (kept : Kept c c') (shutdown : c'.shutdown = c.shutdown) :
    Progressed c c' :=
  ⟨kept, fun id closes => Or.inl ((closesChannel_congr shutdown id).trans closes)⟩

theorem Progressed.of_hook (kept : Kept c c')
    (other : ∀ id connection, c.shutdown ≠ .closingChannel id connection) : Progressed c c' :=
  ⟨kept, fun id closes => by rw [not_closesChannel other] at closes; cases closes⟩

/-- A `connect()` in progress is the only one. A channel is created on a connection without one. -/
structure SetupInv (service : Service) (c : Client) : Prop where
  alone : c.attempts = [] ∨ ∃ attempt, Running c attempt
  suffix : ∀ attempt ∈ c.attempts, ∃ done, service.setup = done ++ attempt.remaining ∧
    (attempt.connection ≠ none → done ≠ [])
  missing : ∀ attempt ∈ c.attempts, ∀ (rest : List SetupCall) (id : Nat) (held : Connection),
    attempt.remaining = .createConfirmChannel :: rest → attempt.connection = some id →
    c.connections[id]? = some held → held.channel = .missing

/-- No connection gets its channel. -/
def Uncreated (c c' : Client) : Prop :=
  ∀ (id : Nat) (held' : Connection), c'.connections[id]? = some held' →
    ∃ held, c.connections[id]? = some held ∧ (held.channel = .missing → held'.channel = .missing)

theorem Uncreated.same (connections : c'.connections = c.connections) : Uncreated c c' := by
  intro id held' there
  rw [connections] at there
  exact ⟨held', there, fun missing => missing⟩

theorem Uncreated.modify {id : Nat} {f : Connection → Connection}
    (missing : ∀ held : Connection, held.channel = .missing → (f held).channel = .missing)
    (connections : c'.connections = (c.modify id f).connections) : Uncreated c c' := by
  intro other held' there
  rw [connections] at there
  rcases of_get_modify there with ⟨_, found⟩ | ⟨rfl, held, found, rfl⟩
  · exact ⟨held', found, fun missing => missing⟩
  · exact ⟨held, found, missing held⟩

theorem Uncreated.trans {middle : Client} (first : Uncreated c middle)
    (second : Uncreated middle c') : Uncreated c c' := by
  intro id held'' there
  obtain ⟨held', between, missing'⟩ := second id held'' there
  obtain ⟨held, found, missing⟩ := first id held' between
  exact ⟨held, found, missing' ∘ missing⟩

theorem SetupInv.of_same (inv : SetupInv service c) (attempts : c'.attempts = c.attempts)
    (connecting : c'.connecting = c.connecting) (uncreated : Uncreated c c') :
    SetupInv service c' := by
  constructor
  · rw [attempts]
    refine inv.alone.imp_right fun ⟨attempt, running⟩ => ⟨attempt, ?_, attempts.trans running.2⟩
    exact connecting.trans running.1
  · rw [attempts]
    exact inv.suffix
  · rw [attempts]
    intro attempt member rest id held' calls opened there
    obtain ⟨held, found, missing⟩ := uncreated id held' there
    exact missing (inv.missing attempt member rest id held calls opened found)

/-- No `connect()` is suspended any more. -/
theorem SetupInv.idle (none : c.attempts = []) : SetupInv service c := by
  refine ⟨Or.inl none, fun attempt member => ?_, fun attempt member => ?_⟩
  · rw [none] at member
    cases member
  · rw [none] at member
    cases member

/-- What the listeners and the hooks do: they leave `connect()` alone, and call `close()` on one
connection at most. -/
structure OnlyCloses (c c' : Client) : Prop where
  attempts : c'.attempts = c.attempts
  connecting : c'.connecting = c.connecting
  table : c'.connections = c.connections ∨
    ∃ id, c'.connections = (c.modify id Connection.close).connections

theorem OnlyCloses.kept (closes : OnlyCloses c c') : Kept c c' := by
  rcases closes.table with same | ⟨id, closed⟩
  · exact .same same
  · exact .modify (fun _ _ => close_advances) closed

theorem OnlyCloses.uncreated (closes : OnlyCloses c c') : Uncreated c c' := by
  rcases closes.table with same | ⟨id, closed⟩
  · exact .same same
  · exact .modify (f := Connection.close) (fun _ missing => missing) closed

theorem SetupInv.closes (inv : SetupInv service c) (closes : OnlyCloses c c') :
    SetupInv service c' :=
  inv.of_same closes.attempts closes.connecting closes.uncreated

/-- The listeners start no shutdown and do not touch the hook. -/
structure KeepsShutdown (c c' : Client) : Prop where
  shutdown : c'.shutdown = c.shutdown
  down : c'.shuttingDown = c.shuttingDown

section Hooks

variable (c)

theorem afterChannel_closes (connection : Option Nat) :
    OnlyCloses c (c.afterChannel connection) := by
  cases connection with
  | none => exact ⟨rfl, rfl, Or.inl rfl⟩
  | some id => exact ⟨rfl, rfl, Or.inr ⟨id, rfl⟩⟩

theorem closeChannel_closes (channel connection : Option Nat) :
    OnlyCloses c (c.closeChannel channel connection) := by
  cases channel with
  | none =>
    obtain ⟨attempts, connecting, table⟩ :=
      afterChannel_closes { c with channel := none, connection := none } connection
    exact ⟨attempts, connecting, table⟩
  | some id => exact ⟨rfl, rfl, Or.inl rfl⟩

theorem afterCancel_closes (channel connection : Option Nat) :
    OnlyCloses c (OrderNotificationConsumer.afterCancel c channel connection) := by
  unfold OrderNotificationConsumer.afterCancel
  split
  · exact ⟨rfl, rfl, Or.inl rfl⟩
  · obtain ⟨attempts, connecting, table⟩ :=
      closeChannel_closes { c with consumerTag := none } channel connection
    exact ⟨attempts, connecting, table⟩

theorem onShutdown_closes (service : Service) : OnlyCloses c (service.onShutdown c) := by
  let down : Client := { c with shuttingDown := true, reconnectTimer := false }
  cases service with
  | rabbitMqService =>
    obtain ⟨attempts, connecting, table⟩ := closeChannel_closes down c.channel c.connection
    exact ⟨attempts, connecting, table⟩
  | orderNotificationConsumer =>
    simp only [Service.onShutdown, OrderNotificationConsumer.beforeApplicationShutdown]
    split
    · exact ⟨rfl, rfl, Or.inl rfl⟩
    · obtain ⟨attempts, connecting, table⟩ := afterCancel_closes down c.channel c.connection
      exact ⟨attempts, connecting, table⟩

theorem onChannelClose_closes (service : Service) (id : Nat) :
    OnlyCloses c (service.onChannelClose id c) := by
  cases service with
  | rabbitMqService => exact ⟨rfl, rfl, Or.inl rfl⟩
  | orderNotificationConsumer =>
    simp only [Service.onChannelClose, OrderNotificationConsumer.onChannelClose]
    split <;> split
    · exact ⟨rfl, rfl, Or.inr ⟨id, rfl⟩⟩
    · exact ⟨rfl, rfl, Or.inl rfl⟩
    · exact ⟨rfl, rfl, Or.inr ⟨id, rfl⟩⟩
    · exact ⟨rfl, rfl, Or.inl rfl⟩

theorem onConnectionClose_closes (service : Service) (id : Nat) :
    OnlyCloses c (service.onConnectionClose id c) := by
  cases service with
  | rabbitMqService =>
    simp only [Service.onConnectionClose, RabbitMqService.onConnectionClose, scheduleReconnect_eq]
    split <;> exact ⟨rfl, rfl, Or.inl rfl⟩
  | orderNotificationConsumer =>
    simp only [Service.onConnectionClose, OrderNotificationConsumer.onConnectionClose,
      scheduleReconnect_eq]
    split
    · split <;> exact ⟨rfl, rfl, Or.inl rfl⟩
    · exact ⟨rfl, rfl, Or.inl rfl⟩

theorem onChannelClose_keeps (service : Service) (id : Nat) :
    KeepsShutdown c (service.onChannelClose id c) := by
  cases service with
  | rabbitMqService => exact ⟨rfl, rfl⟩
  | orderNotificationConsumer =>
    simp only [Service.onChannelClose, OrderNotificationConsumer.onChannelClose]
    split <;> split <;> exact ⟨rfl, rfl⟩

theorem onConnectionClose_keeps (service : Service) (id : Nat) :
    KeepsShutdown c (service.onConnectionClose id c) := by
  cases service with
  | rabbitMqService =>
    simp only [Service.onConnectionClose, RabbitMqService.onConnectionClose, scheduleReconnect_eq]
    split <;> exact ⟨rfl, rfl⟩
  | orderNotificationConsumer =>
    simp only [Service.onConnectionClose, OrderNotificationConsumer.onConnectionClose,
      scheduleReconnect_eq]
    split
    · split <;> exact ⟨rfl, rfl⟩
    · exact ⟨rfl, rfl⟩

end Hooks

theorem dropChannel_missing {held : Connection} (missing : held.channel = .missing) :
    held.dropChannel.channel = .missing := by
  simp [dropChannel, missing]

theorem terminate_missing {held : Connection} (missing : held.channel = .missing) :
    held.terminate.channel = .missing :=
  dropChannel_missing missing

/-- The one attempt that there is. -/
theorem SetupInv.running (inv : SetupInv service c) {i : Nat} {attempt : Attempt}
    (awaited : c.attempts[i]? = some attempt) : i = 0 ∧ Running c attempt := by
  rcases inv.alone with none | ⟨other, running⟩
  · rw [none] at awaited
    cases awaited
  · obtain ⟨rfl, rfl⟩ := running.only awaited
    exact ⟨rfl, running⟩

/-- Only `amqp.connect` comes before `createConfirmChannel`. -/
theorem setup_create {done rest : List SetupCall}
    (suffix : service.setup = done ++ .createConfirmChannel :: rest) : done = [.connect] := by
  have late : .createConfirmChannel ∉ service.setup.drop 2 := by cases service <;> decide
  have first : service.setup[0]? = some .connect := by cases service <;> rfl
  rw [suffix] at late first
  match done with
  | [] => cases first
  | [call] =>
    cases first
    rfl
  | call :: other :: done => simp at late

theorem SetupInv.step (inv : SetupInv service c) (acts : ClientActs service c a c') :
    SetupInv service c' := by
  have kept {id : Nat} {f : Connection → Connection}
      (missing : ∀ held : Connection, held.channel = .missing → (f held).channel = .missing) :
      SetupInv service (c.modify id f) :=
    inv.of_same rfl rfl (.modify missing rfl)
  cases acts with
  | connected attempt rest awaited =>
    obtain ⟨rfl, running⟩ := inv.running awaited
    obtain ⟨done, suffix, _⟩ := inv.suffix _ (List.mem_of_getElem? awaited)
    have only : c.attempts.set 0 ⟨rest, some c.connections.length⟩ =
        [⟨rest, some c.connections.length⟩] := running.set _
    refine ⟨Or.inr ⟨_, running.1, only⟩, ?_, ?_⟩
    · rw [only]
      intro attempt member
      cases List.mem_singleton.mp member
      exact ⟨done ++ [.connect], by simpa using suffix, by simp⟩
    · rw [only]
      intro attempt member _ id held _ opened found
      cases List.mem_singleton.mp member
      cases opened
      cases (List.getElem?_concat_length (l := c.connections)).symm.trans found
      rfl
  | performed attempt call rest id held awaited found usable more =>
    obtain ⟨rfl, running⟩ := inv.running awaited
    obtain ⟨done, suffix, late⟩ := inv.suffix _ (List.mem_of_getElem? awaited)
    have only : c.attempts.set 0 ⟨rest, some id⟩ = [⟨rest, some id⟩] := running.set _
    refine ⟨Or.inr ⟨_, running.1, only⟩, ?_, ?_⟩
    · rw [only]
      intro attempt member
      cases List.mem_singleton.mp member
      exact ⟨done ++ [call], by simpa using suffix, by simp⟩
    · rw [only]
      intro attempt member _ id held calls opened found
      cases List.mem_singleton.mp member
      -- `createConfirmChannel` is never the third call
      obtain rfl : rest = .createConfirmChannel :: _ := calls
      have two : done ++ [call] = [.connect] := setup_create (by simpa using suffix)
      have none : done = [] := by
        have length := congrArg List.length two
        simpa using length
      exact absurd none (late (by simp))
  | established attempt call id held awaited =>
    obtain ⟨rfl, running⟩ := inv.running awaited
    exact .idle running.erase
  | failed attempt suspended awaited =>
    obtain ⟨rfl, running⟩ := inv.running awaited
    rw [scheduleReconnect_eq]
    exact .idle running.erase
  | fired armed =>
    unfold connect
    split
    · exact inv.of_same rfl rfl (.same rfl)
    next free =>
      have none : c.attempts = [] := by
        rcases inv.alone with none | ⟨attempt, running⟩
        · exact none
        · simp [running.1] at free
      refine ⟨Or.inr ⟨⟨service.setup, Option.none⟩, rfl, by simp [none]⟩, ?_, ?_⟩
      · intro attempt member
        rw [none] at member
        cases List.mem_singleton.mp member
        exact ⟨[], rfl, by simp⟩
      · intro attempt member _ id held _ opened
        rw [none] at member
        cases List.mem_singleton.mp member
        cases opened
  | lost id => exact kept fun _ missing => missing
  | cancelled ok channel connection =>
    refine SetupInv.closes ?_ (afterCancel_closes _ (some channel) connection)
    split
    · exact kept fun _ missing => missing
    · exact inv
  | channelUnheard => exact kept fun _ => dropChannel_missing
  | connectionUnheard => exact kept fun _ => terminate_missing
  | channelClosed id =>
    exact (kept fun _ => dropChannel_missing).closes (onChannelClose_closes _ service id)
  | connectionClosed id held =>
    refine SetupInv.closes ?_ (onConnectionClose_closes _ service id)
    split
    · exact (kept fun _ => terminate_missing).closes (onChannelClose_closes _ service id)
    · exact kept fun _ => terminate_missing
  | delivered | finished | connectionEnded => exact inv.of_same rfl rfl (.same rfl)
  | shutdownBegan => exact inv.closes (onShutdown_closes c service)
  | drained ok tasks channel connection =>
    exact SetupInv.closes (c := { c with consumerTag := none }) (inv.of_same rfl rfl (.same rfl))
      (closeChannel_closes _ channel connection)
  | channelEnded ok channel connection =>
    exact (kept fun _ => dropChannel_missing).closes (afterChannel_closes _ connection)

/-- The hook only waits for a channel that it has dropped afterwards. -/
theorem ClientActs.progressed (inv : SetupInv service c) (acts : ClientActs service c a c') :
    Progressed c c' := by
  have changed {id : Nat} {f : Connection → Connection}
      (advances : ∀ held, c.connections[id]? = some held → Advances held (f held)) :
      Kept c (c.modify id f) := .modify advances rfl
  cases acts with
  | connected attempt rest awaited =>
    refine .of_kept (fun id held found => ?_) rfl
    exact ⟨held, Registry.added_of found, .refl⟩
  | performed attempt call rest id held awaited =>
    refine .of_kept (.modify (fun before found => perform_advances ?_) rfl) rfl
    rintro rfl
    exact inv.missing _ (List.mem_of_getElem? awaited) rest id before rfl rfl found
  | established attempt call id held awaited =>
    have created : Kept c (c.modify id (Connection.perform call)) := by
      refine changed fun before found => perform_advances ?_
      rintro rfl
      exact inv.missing _ (List.mem_of_getElem? awaited) [] id before rfl rfl found
    refine .of_kept (created.trans (.modify (fun before _ => ?_) rfl)) rfl
    exact ⟨Nat.le_refl _, Advances.refl.opened, fun closed => closed⟩
  | failed attempt suspended awaited =>
    rw [scheduleReconnect_eq]
    exact .of_kept (.same rfl) rfl
  | fired armed =>
    unfold connect
    split
    · exact .of_kept (.same rfl) rfl
    · exact .of_kept (.same rfl) rfl
  | lost id held found opened =>
    refine .of_kept (changed fun before there => ?_) rfl
    cases found.symm.trans there
    exact lose_advances opened
  | channelUnheard => exact .of_kept (changed fun _ _ => dropChannel_advances) rfl
  | connectionUnheard => exact .of_kept (changed fun _ _ => terminate_advances) rfl
  | channelClosed id =>
    have dropped : Kept c (c.modify id Connection.dropChannel) :=
      changed fun _ _ => dropChannel_advances
    exact .of_kept (dropped.trans (onChannelClose_closes _ service id).kept)
      (onChannelClose_keeps _ service id).shutdown
  | connectionClosed id held =>
    have terminated : Kept c (c.modify id Connection.terminate) :=
      changed fun _ _ => terminate_advances
    split
    · refine .of_kept ((terminated.trans (onChannelClose_closes _ service id).kept).trans
        (onConnectionClose_closes _ service id).kept) ?_
      exact (onConnectionClose_keeps _ service id).shutdown.trans
        (onChannelClose_keeps _ service id).shutdown
    · exact .of_kept (terminated.trans (onConnectionClose_closes _ service id).kept)
        (onConnectionClose_keeps _ service id).shutdown
  | delivered | finished => exact .of_kept (.same rfl) rfl
  | shutdownBegan idle =>
    exact .of_hook (onShutdown_closes c service).kept (by simp [idle])
  | cancelled ok channel connection suspended =>
    refine .of_hook ?_ (by simp [suspended])
    have closes := afterCancel_closes (if ok then c.modify channel fun held =>
      { held with consuming := false } else c) (some channel) connection
    refine Kept.trans ?_ closes.kept
    split
    · exact changed fun _ _ => ⟨Nat.le_refl _, Advances.refl.opened, fun closed => closed⟩
    · exact .same rfl
  | drained ok tasks channel connection suspended =>
    refine .of_hook ?_ (by simp [suspended])
    have untagged : Kept c { c with consumerTag := none } := .same rfl
    exact untagged.trans (closeChannel_closes _ channel connection).kept
  | channelEnded ok channel connection held suspended found =>
    have closes := afterChannel_closes (c.modify channel Connection.dropChannel) connection
    refine ⟨(changed fun _ _ => dropChannel_advances).trans closes.kept, fun id waits => ?_⟩
    right
    intro held' there
    -- the channel that the hook has waited for is dropped, and `close()` leaves it so
    have same : channel = id := by
      simpa [closesChannel, suspended] using waits
    subst same
    obtain ⟨later, there', advances⟩ := closes.kept channel _ (get_modify_self found)
    cases there.symm.trans there'
    obtain ⟨dropped, before, missing⟩ := closes.uncreated channel held' there
    cases (get_modify_self found).symm.trans before
    cases channel' : held.dropChannel.channel with
    | missing => simp [missing channel']
    | opened => exact absurd channel' Connection.dropChannel_closed
    | closed => simp [advances.closed channel']
  | connectionEnded ok connection refused suspended =>
    exact .of_hook (.same rfl) (by simp [suspended])

theorem setup_invariant {allowed : Client → ClientAction → Prop}
    (reachable : (system service).Reachable allowed c) : SetupInv service c := by
  refine reachable.invariant ?_ fun c a c' _ inv _ taken => inv.step (step_acts taken)
  rintro c rfl
  refine ⟨Or.inr ⟨⟨service.setup, none⟩, rfl, rfl⟩, fun attempt member => ?_,
    fun attempt member rest id held _ opened => ?_⟩
  · cases List.mem_singleton.mp member
    exact ⟨[], rfl, by simp⟩
  · cases List.mem_singleton.mp member
    cases opened

/-- Whatever the client does, its channels only go on. -/
theorem channels_progressed {allowed : Client → ClientAction → Prop}
    (reachable : (system service).Reachable allowed c) (taken : c.step service a = some c') :
    Progressed c c' :=
  (step_acts taken).progressed (setup_invariant reachable)

end Client

end FlashSaleLab

import FlashSaleLab.Deployment
import FlashSaleLab.Foundations.Progress
import FlashSaleLab.Foundations.Refinement

/-!
# The deployment refines the system

Every step of an instance's clients is a step of the system's channels, so what holds in every run
of the system holds of the deployment. The channels are in line with the connection objects:
`link_invariant`.
-/
namespace FlashSaleLab

open Transition

/-- No condition on the steps of a run. -/
def anyDeploymentStep (_ : Deployment) (_ : DeploymentAction) : Prop := True

section Core

variable {stock : Int → Option Nat} {s : State} {channel other : ChannelId} {host : InstanceId}
  {status later : ChannelStatus}

/-- The broker takes in what was sent on a channel. -/
def takesIn (_ : State) : Action → Prop
  | .store _ | .receiveSettlement _ => True
  | _ => False

/-- It does so, or a channel opens, is given up or closes. -/
def channelMove (s : State) : Action → Prop
  | .openChannel _ | .loseChannel _ | .noticeClose _ => True
  | a => takesIn s a

theorem attempt_steps {allowed : State → Action → Prop} (s : State) (a : Action)
    (permitted : allowed s a) : (system stock).Steps allowed s (s.attempt a) := by
  unfold State.attempt
  cases taken : s.step a with
  | none => exact .refl
  | some s' => exact .single ⟨a, permitted, taken⟩

theorem takeIn_steps (s : State) (id : CopyId) :
    (system stock).Steps takesIn s (s.takeIn channel id) := by
  unfold State.takeIn
  split
  · split
    · split
      · exact attempt_steps s (.store id) trivial
      · exact .refl
    · split
      · exact attempt_steps s (.receiveSettlement id) trivial
      · exact .refl
    · exact .refl
  · exact .refl

theorem flush_steps (s : State) (channel : ChannelId) :
    (system stock).Steps takesIn s (s.flush channel) :=
  System.Steps.foldl (fun s => s) (fun s id => takeIn_steps s id) _ s

theorem takesIn_channels {s' : State} (steps : (system stock).Steps takesIn s s') :
    s'.channels = s.channels := by
  refine steps.unchanged (f := fun s => s.channels) fun s a s' permitted taken => ?_
  obtain ⟨t, acts, rfl⟩ := State.step_cases taken
  cases acts with
  | opened | lost | closed | crashed => cases permitted
  | _ => rfl

theorem takesIn_channelMove (s : State) (a : Action) (permitted : takesIn s a) :
    channelMove s a := by
  cases a with
  | store | receiveSettlement => trivial
  | _ => cases permitted

theorem follow_steps (s : State) (channel : ChannelId) (status : ChannelStatus) :
    (system stock).Steps channelMove s (s.follow channel status) := by
  cases status with
  | opened => exact .refl
  | lost => exact attempt_steps s (.loseChannel channel) trivial
  | closed =>
    exact (attempt_steps s (.loseChannel channel) trivial).trans
      (attempt_steps _ (.noticeClose channel) trivial)

theorem open_channels (s : State) (host : InstanceId) :
    (s.attempt (.openChannel host)).channels = s.channels ++ [⟨host, .opened⟩] := by
  simp [State.attempt, State.step, State.act]

/-- The channel has got a status, and the others are what they were. -/
structure Becomes (s s' : State) (channel : ChannelId) (host : InstanceId)
    (status : ChannelStatus) : Prop where
  own : s'.channels[channel]? = some ⟨host, status⟩
  others : ∀ other, other ≠ channel → s'.channels[other]? = s.channels[other]?

theorem Becomes.trans {s' s'' : State} (first : Becomes s s' channel host status)
    (second : Becomes s' s'' channel host later) : Becomes s s'' channel host later :=
  ⟨second.own, fun other ne => (second.others other ne).trans (first.others other ne)⟩

theorem Becomes.modified {s' : State} (found : s.channels[channel]? = some ⟨host, status⟩)
    (channels : s'.channels =
      s.channels.modify channel fun held => { held with status := later }) :
    Becomes s s' channel host later := by
  constructor
  · rw [channels, Registry.modify_of found, if_pos rfl]
  · intro other ne
    simp [channels, Ne.symm ne]

theorem attempt_eq {s' : State} {a : Action} (acted : s.act a = some s') :
    s.attempt a = { s' with moment := s.moment + 1 } := by
  simp [State.attempt, State.step, acted]

theorem attempt_impossible {a : Action} (impossible : s.act a = none) : s.attempt a = s := by
  simp [State.attempt, State.step, impossible]

theorem lose_becomes (found : s.channels[channel]? = some ⟨host, .opened⟩) :
    Becomes s (s.attempt (.loseChannel channel)) channel host .lost := by
  have acted : s.act (.loseChannel channel) = some _ :=
    if_pos (by simp [State.channelStatus, found])
  rw [attempt_eq acted]
  exact .modified found rfl

theorem notice_becomes (found : s.channels[channel]? = some ⟨host, .lost⟩) :
    Becomes s (s.attempt (.noticeClose channel)) channel host .closed := by
  have acted : s.act (.noticeClose channel) = some _ :=
    if_pos (by simp [State.channelStatus, found])
  rw [attempt_eq acted]
  exact .modified found rfl

theorem lose_again (found : s.channels[channel]? = some ⟨host, status⟩)
    (late : status ≠ .opened) : s.attempt (.loseChannel channel) = s :=
  attempt_impossible (if_neg (by simpa [State.channelStatus, found] using late))

theorem notice_again (found : s.channels[channel]? = some ⟨host, .closed⟩) :
    s.attempt (.noticeClose channel) = s :=
  attempt_impossible (if_neg (by simp [State.channelStatus, found]))

/-- A channel that goes on gets where it should, and the others stay. -/
theorem follow_becomes (found : s.channels[channel]? = some ⟨host, status⟩)
    (forward : status.rank ≤ later.rank) :
    Becomes s (s.follow channel later) channel host later := by
  have stays : Becomes s s channel host status := ⟨found, fun _ _ => rfl⟩
  cases later with
  | opened =>
    cases status with
    | opened => exact stays
    | lost | closed => simp [ChannelStatus.rank] at forward
  | lost =>
    cases status with
    | opened => exact lose_becomes found
    | lost =>
      rw [State.follow, lose_again found (by simp)]
      exact stays
    | closed => simp [ChannelStatus.rank] at forward
  | closed =>
    cases status with
    | opened =>
      have lost := lose_becomes found
      exact lost.trans (notice_becomes lost.own)
    | lost =>
      rw [State.follow, lose_again found (by simp)]
      exact notice_becomes found
    | closed =>
      rw [State.follow, lose_again found (by simp), notice_again found]
      exact stays

end Core

namespace Deployment

/-- A connection's channel at the broker: it has none before `createConfirmChannel` resolves, and
then the status that its client sees. -/
inductive Linked (d : Deployment) (party : Party) (id : Nat) : Option ChannelStatus → Prop
  | missing (unnamed : d.channelOf party id = none) : Linked d party id none
  | named (channel : ChannelId) (status : ChannelStatus)
      (named : d.channelOf party id = some channel)
      (found : d.core.channels[channel]? = some ⟨party.host, status⟩) :
      Linked d party id (some status)

/-- No two connections have the same channel. -/
def Apart (d : Deployment) : Prop :=
  ∀ (party party' : Party) (id id' : Nat) (channel : ChannelId),
    d.channelOf party id = some channel → d.channelOf party' id' = some channel →
      party = party' ∧ id = id'

/-- Every channel of a connection is one of the broker's. -/
def Named (d : Deployment) : Prop :=
  ∀ (party : Party) (id : Nat), ∃ status, Linked d party id status

variable {stock : Int → Option Nat} {d d' : Deployment} {party other : Party} {id : Nat}
  {old : Option ChannelStatus}

theorem Named.lt (named : Named d) {channel : ChannelId}
    (own : d.channelOf party id = some channel) : channel < d.core.channels.length := by
  obtain ⟨status, linked⟩ := named party id
  cases linked with
  | missing unnamed => cases unnamed.symm.trans own
  | named channel' status own' found =>
    cases own.symm.trans own'
    exact Registry.lt_of_found found

/-- One entry of a table of tables. -/
theorem update_at (table : Party → Nat → Option ChannelId) (party : Party) (id : Nat)
    (value : Option ChannelId) (party' : Party) (id' : Nat) :
    Function.update table party (Function.update (table party) id value) party' id' =
      if party' = party ∧ id' = id then value else table party' id' := by
  by_cases same : party' = party
  · subst same
    by_cases here : id' = id
    · subst here
      simp
    · simp [here]
  · simp [same]

/-- What a step of one connection's channel leaves alone. -/
structure Aligned (d d' : Deployment) (party : Party) (id : Nat) : Prop where
  own : Linked d' party id ((d.clients party).channelStatus id)
  others : ∀ (party' : Party) (id' : Nat) (status : Option ChannelStatus),
    (party' ≠ party ∨ id' ≠ id) → Linked d party' id' status → Linked d' party' id' status
  apart : Apart d'

theorem align_clients (party : Party) (d : Deployment) (id : Nat) :
    (align party d id).clients = d.clients := by
  unfold align
  split <;> rfl

theorem align_aligned (named : Named d) (apart : Apart d) (linked : Linked d party id old)
    (forward : Forward old ((d.clients party).channelStatus id)) :
    Aligned d (align party d id) party id := by
  cases linked with
  | named channel status own found =>
    obtain ⟨later, now, forward⟩ := forward status rfl
    have becomes := follow_becomes found forward
    have aligned : align party d id = { d with core := d.core.follow channel later } := by
      simp [align, now, own]
    rw [aligned]
    refine ⟨?_, ?_, apart⟩
    · rw [now]
      exact .named channel later own becomes.own
    · intro party' id' status' elsewhere linked'
      cases linked' with
      | missing unnamed => exact .missing unnamed
      | named channel' status' own' found' =>
        refine .named channel' status' own' ((becomes.others channel' ?_).trans found')
        rintro rfl
        obtain ⟨rfl, rfl⟩ := apart _ _ _ _ _ own own'
        simp at elsewhere
  | missing unnamed =>
    cases now : (d.clients party).channelStatus id with
    | none =>
      have aligned : align party d id = d := by simp [align, now, unnamed]
      rw [aligned]
      refine ⟨?_, fun _ _ _ _ linked' => linked', apart⟩
      rw [now]
      exact .missing unnamed
    | some later =>
      let opened := d.core.attempt (.openChannel party.host)
      have channels : opened.channels = d.core.channels ++ [⟨party.host, .opened⟩] :=
        open_channels d.core party.host
      have found : opened.channels[d.core.channels.length]? = some ⟨party.host, .opened⟩ := by
        rw [channels]
        exact List.getElem?_concat_length
      have becomes : Becomes opened (opened.follow d.core.channels.length later)
          d.core.channels.length party.host later := follow_becomes found (Nat.zero_le _)
      have aligned : align party d id = { d with
          core := opened.follow d.core.channels.length later
          channelOf := Function.update d.channelOf party
            (Function.update (d.channelOf party) id (some d.core.channels.length)) } := by
        simp [align, now, unnamed, opened]
      have named' (party' : Party) (id' : Nat) := update_at d.channelOf party id
        (some d.core.channels.length) party' id'
      rw [aligned]
      refine ⟨?_, ?_, ?_⟩
      · rw [now]
        refine .named d.core.channels.length later ?_ becomes.own
        simp
      · intro party' id' status' elsewhere linked'
        have kept := named' party' id'
        rw [if_neg (by rintro ⟨rfl, rfl⟩; simp at elsewhere)] at kept
        cases linked' with
        | missing unnamed' => exact .missing (kept.trans unnamed')
        | named channel' status' own' found' =>
          have older := named.lt own'
          refine .named channel' status' (kept.trans own') ?_
          rw [becomes.others channel' (Nat.ne_of_lt older), channels]
          exact Registry.added_of found'
      · intro party₁ party₂ id₁ id₂ channel first second
        replace first := (named' party₁ id₁).symm.trans first
        replace second := (named' party₂ id₂).symm.trans second
        split at first <;> split at second
        next here there => exact ⟨here.1.trans there.1.symm, here.2.trans there.2.symm⟩
        next here _ =>
          cases first
          exact absurd (named.lt second) (Nat.lt_irrefl _)
        next _ there =>
          cases second
          exact absurd (named.lt first) (Nat.lt_irrefl _)
        next => exact apart _ _ _ _ _ first second

/-- After the turn of every connection in the list. -/
structure AllAligned (d d' : Deployment) (party : Party) (ids : List Nat) : Prop where
  own : ∀ id ∈ ids, Linked d' party id ((d.clients party).channelStatus id)
  others : ∀ (party' : Party) (id' : Nat) (status : Option ChannelStatus),
    (party' ≠ party ∨ id' ∉ ids) → Linked d party' id' status → Linked d' party' id' status
  apart : Apart d'
  clients : d'.clients = d.clients

theorem Aligned.named (aligned : Aligned d d' party id) (named : Named d) : Named d' := by
  intro party' id'
  by_cases same : party' = party ∧ id' = id
  · obtain ⟨rfl, rfl⟩ := same
    exact ⟨_, aligned.own⟩
  · obtain ⟨status, linked⟩ := named party' id'
    exact ⟨status, aligned.others party' id' status (by tauto) linked⟩

theorem foldl_aligned (ids : List Nat) (distinct : ids.Nodup) (named : Named d) (apart : Apart d)
    (forward : ∀ id ∈ ids, ∃ old, Linked d party id old ∧
      Forward old ((d.clients party).channelStatus id)) :
    AllAligned d (ids.foldl (align party) d) party ids := by
  induction ids generalizing d with
  | nil =>
    refine ⟨?_, fun _ _ _ _ linked => linked, apart, rfl⟩
    intro id member
    cases member
  | cons id ids ih =>
    obtain ⟨fresh, distinct⟩ := List.nodup_cons.mp distinct
    obtain ⟨old, linked, goes⟩ := forward id List.mem_cons_self
    have aligned := align_aligned named apart linked goes
    have clients := align_clients party d id
    have rest := ih distinct (aligned.named named) aligned.apart fun next member => by
      obtain ⟨before, linked', goes'⟩ := forward next (List.mem_cons_of_mem id member)
      rw [clients]
      refine ⟨before, aligned.others party next before (Or.inr ?_) linked', goes'⟩
      rintro rfl
      exact fresh member
    rw [List.foldl_cons]
    constructor
    · intro next member
      rcases List.mem_cons.mp member with rfl | later
      · exact rest.others party next _ (Or.inr fresh) aligned.own
      · have linked' := rest.own next later
        rwa [clients] at linked'
    · intro party' id' status elsewhere linked'
      rw [List.mem_cons, not_or] at elsewhere
      exact rest.others party' id' status (by tauto)
        (aligned.others party' id' status (by tauto) linked')
    · exact rest.apart
    · exact rest.clients.trans clients

/-- Everything a step can do. -/
inductive Acts (d : Deployment) : DeploymentAction → Deployment → Prop
  | moved (a : Action) (core : State) (free : a.connectionless = true)
      (taken : d.core.step a = some core) : Acts d (.moves a) { d with core }
  | adopted (party : Party) (a : ClientAction) (client : Client)
      (other : ∀ connection, a ≠ .deliver connection)
      (ended : ∀ task, a = .handlerFinishes task → d.taskEnded party.host task = true)
      (taken : (d.clients party).step party.service a = some client) :
      Acts d (.client party a) (d.adopt party client)
  | published (host : InstanceId) (sendThrows : Bool) (core : State)
      (taken : d.core.step (.publisherResumes host (d.thisChannel (publisherOf host)) sendThrows) =
        some core) :
      Acts d (.publisherResumes host sendThrows) { d with core }
  | delivered (host : InstanceId) (connection : Nat) (copy : CopyId) (client : Client)
      (channel : ChannelId) (core : State)
      (registered : (d.clients (consumerOf host)).deliver connection = some client)
      (own : d.channelOf (consumerOf host) connection = some channel)
      (free : d.core.outstanding channel < OrderNotificationConsumer.SharedChannel.prefetch)
      (taken : d.core.step (.deliver copy channel) = some core) :
      Acts d (.deliver host connection copy)
        { d with
          core
          clients := Function.update d.clients (consumerOf host) client
          executions :=
            Function.update d.executions host (d.executions host ++ [d.core.handlers.length]) }
  | crashed (host : InstanceId) (core : State) (taken : d.core.step (.crash host) = some core) :
      Acts d (.crash host)
        { core
          clients := fun party =>
            if party.host = host then Client.empty.connect party.service.setup else d.clients party
          channelOf := fun party => if party.host = host then fun _ => none else d.channelOf party
          executions := Function.update d.executions host [] }

theorem client_acts {a : ClientAction} (taken : d.client party a = some d') :
    Acts d (.client party a) d' := by
  have adopts (stepped : d.clientStep party a = some d')
      (other : ∀ connection, a ≠ .deliver connection)
      (ended : ∀ task, a = .handlerFinishes task → d.taskEnded party.host task = true) :
      Acts d (.client party a) d' := by
    obtain ⟨client, moved, rfl⟩ := Option.map_eq_some_iff.mp stepped
    exact .adopted party a client other ended moved
  cases a with
  | deliver connection => cases taken
  | handlerFinishes task =>
    simp only [Deployment.client] at taken
    split at taken
    next ended =>
      refine adopts taken (by simp) ?_
      rintro other ⟨⟩
      exact ended
    · cases taken
  | _ => exact adopts taken (by simp) (by simp)

theorem step_acts {a : DeploymentAction} (taken : d.step a = some d') : Acts d a d' := by
  cases a with
  | moves a =>
    simp only [step] at taken
    split at taken
    next free =>
      obtain ⟨core, moved, rfl⟩ := Option.map_eq_some_iff.mp taken
      exact .moved a core free moved
    · cases taken
  | client party a => exact client_acts taken
  | publisherResumes host sendThrows =>
    simp only [step] at taken
    obtain ⟨core, moved, rfl⟩ := Option.map_eq_some_iff.mp taken
    exact .published host sendThrows core moved
  | deliver host connection copy =>
    simp only [step, Deployment.deliver] at taken
    split at taken
    next registered own =>
      split at taken
      next free =>
        obtain ⟨core, moved, rfl⟩ := Option.map_eq_some_iff.mp taken
        exact .delivered host connection copy _ _ core registered own free moved
      · cases taken
    · cases taken
  | crash host =>
    simp only [step, Deployment.crash] at taken
    obtain ⟨core, moved, rfl⟩ := Option.map_eq_some_iff.mp taken
    exact .crashed host core moved

theorem align_steps (party : Party) (d : Deployment) (id : Nat) :
    (system stock).Steps channelMove d.core (align party d id).core := by
  unfold align
  split
  · exact follow_steps _ _ _
  · exact (attempt_steps _ (.openChannel party.host) trivial).trans (follow_steps _ _ _)
  · exact .refl

theorem beforeClose_steps (d : Deployment) (party : Party) (client : Client) :
    (system stock).Steps takesIn d.core (d.beforeClose party client) := by
  unfold beforeClose
  split
  · split
    · exact flush_steps _ _
    · exact .refl
  · exact .refl

/-- After what was sent before a close, the channels go. -/
theorem beforeClose_adopt (d : Deployment) (party : Party) (client : Client) :
    (system stock).Steps channelMove (d.beforeClose party client) (d.adopt party client).core :=
  System.Steps.foldl Deployment.core (align_steps party) _
    { d with
      core := d.beforeClose party client
      clients := Function.update d.clients party client }

/-- What a client does shows in the system as moves of its channels. -/
theorem adopt_steps (d : Deployment) (party : Party) (client : Client) :
    (system stock).Steps channelMove d.core (d.adopt party client).core := by
  have before : (system stock).Steps channelMove d.core (d.beforeClose party client) :=
    (beforeClose_steps d party client).mono takesIn_channelMove
  exact before.trans (beforeClose_adopt d party client)

theorem Acts.core {a : DeploymentAction} (acts : Acts d a d') :
    (system stock).Steps anyStep d.core d'.core := by
  cases acts with
  | moved a core free taken => exact .single ⟨a, trivial, taken⟩
  | adopted party a client =>
    exact (adopt_steps d party client).mono fun _ _ _ => trivial
  | published host sendThrows core taken => exact .single ⟨_, trivial, taken⟩
  | delivered host connection copy client channel core registered own free taken =>
    exact .single ⟨_, trivial, taken⟩
  | crashed host core taken => exact .single ⟨.crash host, trivial, taken⟩

/-- Seen through `core`, each step of the deployment is finitely many steps of the system. -/
theorem core_refinement (stock : Int → Option Nat)
    (allowed : Deployment → DeploymentAction → Prop) :
    Refines (deployment stock) allowed (system stock) anyStep Deployment.core where
  init d start := by
    cases start
    rfl
  step d a d' _ _ taken := (step_acts taken).core

/-- Each step of a client meets the condition. -/
def onClients (permits : Service → Client → ClientAction → Prop) (d : Deployment) :
    DeploymentAction → Prop
  | .client party a => permits party.service (d.clients party) a
  | .deliver host connection _ =>
    permits .orderNotificationConsumer (d.clients (consumerOf host)) (.deliver connection)
  | _ => True

theorem foldl_clients (party : Party) (ids : List Nat) (d : Deployment) :
    (ids.foldl (align party) d).clients = d.clients := by
  induction ids generalizing d with
  | nil => rfl
  | cons id ids ih => exact (ih _).trans (align_clients party d id)

theorem adopt_clients (d : Deployment) (party : Party) (client : Client) :
    (d.adopt party client).clients = Function.update d.clients party client :=
  foldl_clients party _ _

/-- The clients are those of `FlashSaleLab.Connections`; a crash starts them again. -/
theorem clients_reachable {permits : Service → Client → ClientAction → Prop}
    (reachable : (deployment stock).Reachable (onClients permits) d) (party : Party) :
    (Client.system party.service).Reachable (permits party.service) (d.clients party) := by
  have updated {clients : Party → Client} {moved : Party} {client : Client} {a : ClientAction}
      (before : ∀ party, (Client.system party.service).Reachable (permits party.service)
        (clients party))
      (permitted : permits moved.service (clients moved) a)
      (taken : (clients moved).step moved.service a = some client) (party : Party) :
      (Client.system party.service).Reachable (permits party.service)
        (Function.update clients moved client party) := by
    by_cases same : party = moved
    · subst same
      rw [Function.update_self]
      exact .step (before party) permitted taken
    · rw [Function.update_of_ne same]
      exact before party
  induction reachable generalizing party with
  | init start =>
    cases start
    exact .init rfl
  | step before permitted taken ih =>
    cases step_acts taken with
    | moved | published => exact ih party
    | adopted moved a client other ended stepped =>
      rw [adopt_clients]
      exact updated ih permitted stepped party
    | delivered host connection copy client channel core registered own free taken =>
      exact @updated _ (consumerOf host) client (.deliver connection) ih permitted registered party
    | crashed host =>
      simp only
      split
      · exact .init rfl
      · exact ih party

/-- The channels are in line with the objects, and no two objects share one. -/
structure LinkInv (d : Deployment) : Prop where
  linked : ∀ (party : Party) (id : Nat), Linked d party id ((d.clients party).channelStatus id)
  apart : Apart d

theorem Linked.moved {status : Option ChannelStatus} (linked : Linked d party id status)
    (channelOf : d'.channelOf party id = d.channelOf party id)
    (channels : ∀ (channel : ChannelId) (status : ChannelStatus),
      d.core.channels[channel]? = some ⟨party.host, status⟩ →
        d'.core.channels[channel]? = some ⟨party.host, status⟩) :
    Linked d' party id status := by
  cases linked with
  | missing unnamed => exact .missing (channelOf.trans unnamed)
  | named channel status own found =>
    exact .named channel status (channelOf.trans own) (channels channel status found)

theorem channels_kept {s s' : State} {a : Action} (taken : s.step a = some s')
    (kept : ∀ host, a ≠ .openChannel host ∧ a ≠ .crash host)
    (still : ∀ channel, a ≠ .loseChannel channel ∧ a ≠ .noticeClose channel) :
    s'.channels = s.channels := by
  obtain ⟨t, acts, rfl⟩ := State.step_cases taken
  cases acts with
  | opened host => exact absurd rfl (kept host).1
  | crashed host => exact absurd rfl (kept host).2
  | lost channel => exact absurd rfl (still channel).1
  | closed channel => exact absurd rfl (still channel).2
  | _ => rfl

theorem connectionless_kept {s s' : State} {a : Action} (free : a.connectionless = true)
    (taken : s.step a = some s') : s'.channels = s.channels := by
  apply channels_kept taken
  · intro host
    constructor
    · rintro rfl
      cases free
    · rintro rfl
      cases free
  · intro channel
    constructor
    · rintro rfl
      cases free
    · rintro rfl
      cases free

/-- The channels of a client after a step of its own. -/
theorem adopt_aligned (inv : LinkInv d) (client : Client)
    (forward : ∀ id, Forward ((d.clients party).channelStatus id) (client.channelStatus id))
    (longer : (d.clients party).connections.length ≤ client.connections.length) :
    LinkInv (d.adopt party client) := by
  let before : Deployment := { d with
    core := d.beforeClose party client
    clients := Function.update d.clients party client }
  have own : before.clients party = client := Function.update_self ..
  have steps : (system fun _ => none).Steps takesIn d.core (d.beforeClose party client) :=
    beforeClose_steps d party client
  have channels := takesIn_channels steps
  have linked (party' : Party) (id : Nat) :
      Linked before party' id ((d.clients party').channelStatus id) :=
    (inv.linked party' id).moved rfl fun _ _ found => channels.symm ▸ found
  have aligned : AllAligned before (d.adopt party client) party
      (List.range client.connections.length) := by
    apply foldl_aligned _ List.nodup_range (fun party' id => ⟨_, linked party' id⟩) inv.apart
    intro id _
    rw [own]
    exact ⟨_, linked party id, forward id⟩
  refine ⟨fun party' id => ?_, aligned.apart⟩
  rw [adopt_clients]
  by_cases same : party' = party
  · subst same
    rw [Function.update_self]
    by_cases present : id < client.connections.length
    · have now := aligned.own id (List.mem_range.mpr present)
      rwa [own] at now
    · -- neither client has such a connection
      have absent {c : Client} (shorter : c.connections.length ≤ id) :
          c.channelStatus id = none := by
        simp [Client.channelStatus, List.getElem?_eq_none shorter]
      have none' := linked party' id
      rw [absent (longer.trans (Nat.le_of_not_lt present))] at none'
      rw [absent (Nat.le_of_not_lt present)]
      exact aligned.others party' id none (Or.inr (by simpa using present)) none'
  · rw [Function.update_of_ne same]
    exact aligned.others party' id _ (Or.inl same) (linked party' id)

theorem deliver_adds {c client : Client} {connection : Nat}
    (registered : c.deliver connection = some client) :
    client = { c with tasks := c.tasks ++ [⟨connection, false⟩] } := by
  have taken : c.step .orderNotificationConsumer (.deliver connection) = some client := registered
  cases Client.step_acts taken with
  | delivered => rfl
  | connectionClosed _ _ _ _ ends => cases ends

theorem crash_eq {s s' : State} {host : InstanceId} (taken : s.step (.crash host) = some s') :
    s' = { s.crash host with moment := s.moment + 1 } := by
  simpa [State.step, State.act] using taken.symm

theorem LinkInv.step {a : DeploymentAction} (inv : LinkInv d)
    (clients : ∀ party, (Client.system party.service).Reachable (fun _ _ => True)
      (d.clients party))
    (acts : Acts d a d') : LinkInv d' := by
  have same {core : State} (channels : core.channels = d.core.channels) :
      LinkInv { d with core } := by
    refine ⟨fun party id => (inv.linked party id).moved rfl ?_, inv.apart⟩
    intro channel status found
    simp only [channels]
    exact found
  cases acts with
  | moved a core free taken => exact same (connectionless_kept free taken)
  | adopted party a client other ended stepped =>
    have progressed := Client.channels_progressed (clients party) stepped
    exact adopt_aligned inv client progressed.forward progressed.kept.longer
  | published host sendThrows core taken =>
    exact same (channels_kept taken (by simp) (by simp))
  | delivered host connection copy client channel core registered own free taken =>
    have linked := same (channels_kept taken (by simp) (by simp))
    refine ⟨fun party id => ?_, inv.apart⟩
    have before := linked.linked party id
    -- a delivery leaves the connections of the client as they are
    have unchanged : (Function.update d.clients (consumerOf host) client party).channelStatus id =
        (d.clients party).channelStatus id := by
      by_cases here : party = consumerOf host
      · subst here
        rw [Function.update_self]
        rw [deliver_adds registered]
        rfl
      · rw [Function.update_of_ne here]
    rw [unchanged]
    exact before.moved rfl fun _ _ found => found
  | crashed host core taken =>
    constructor
    · intro party id
      by_cases here : party.host = host
      · simp only [here, if_true]
        exact .missing (by simp [here])
      · -- the channels of the other instances stay
        simp only [here, if_false]
        refine (inv.linked party id).moved (by simp [here]) ?_
        intro channel status found
        simp [crash_eq taken, State.crash, found, here]
    · intro party party' id id' channel first second
      simp only at first second
      split at first
      · cases first
      · split at second
        · cases second
        · exact inv.apart _ _ _ _ _ first second

theorem anyStep_onClients (reachable : (deployment stock).Reachable anyDeploymentStep d) :
    (deployment stock).Reachable (onClients fun _ _ _ => True) d :=
  reachable.mono fun _ a _ => by cases a <;> trivial

theorem link_invariant (reachable : (deployment stock).Reachable anyDeploymentStep d) :
    LinkInv d := by
  refine reachable.invariant ?_ fun d a d' before inv _ taken =>
    inv.step (clients_reachable (anyStep_onClients before)) (step_acts taken)
  rintro d rfl
  refine ⟨fun party id => .missing rfl, fun party party' id id' channel own => ?_⟩
  cases own

end Deployment

end FlashSaleLab

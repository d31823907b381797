import FlashSaleLab.Steps

/-!
# What a step does to the sales side

The sales side is the inventory with its row locks, the orders, the sequences and the
calls of `OrderService.create`. `SalesStep` lists everything a step of the system can do
to it; the outbox rows keep their id, type and payload in every step.
-/
namespace FlashSaleLab

open PrismaOutboxRepository

namespace OutboxPublisherService

theorem settle_identity {rows rows' : List OutboxEvent} {publisher publisher' : Publisher}
    {stored : CopyId → Bool} {result : CallResult}
    (settled : settle rows publisher stored result = some (rows', publisher')) :
    rows'.map identity = rows.map identity := by
  unfold settle at settled
  -- `findPending` and a confirmation leave the rows alone; `claim` and `markAsSent` may not
  -- have been executed
  split at settled
  · cases settled; rfl
  next event rest startedAt _ =>
    cases settled
    split
    · exact claim_identity rows event.id startedAt
    · rfl
  · split at settled
    · split at settled
      · cases settled; rfl
      · cases settled
    · cases settled; rfl
  · split at settled
    next update marked =>
      cases settled
      split
      · exact markAsSent_identity marked
      · rfl
    · cases settled; rfl
  · cases settled

end OutboxPublisherService

/-- A call of `create` loses its instance. -/
def CreateCall.crash (host : InstanceId) (moment : Nat) (call : CreateCall) : CreateCall :=
  if call.host = host then { call with pc := call.pc.abort moment } else call

/-- What a step does to the sales side; an `idle` one may still change outbox rows. -/
inductive SalesStep (s s' : State) : Prop
  | idle (calls : s'.calls = s.calls)
      (db : s'.db = { s.db with outboxEvents := s'.db.outboxEvents })
      (rows : s'.db.outboxEvents.map identity = s.db.outboxEvents.map identity)
  | began (call : CreateCall) (fresh : call.pc = .prechecking) (begun : call.begunAt = s.moment)
      (quantity : 1 ≤ call.input.quantity) (calls : s'.calls = s.calls ++ [call])
      (db : s'.db = s.db)
  | queried (id : CallId) (call : CreateCall) (pc : CreatePc) (found : s.calls[id]? = some call)
      (executed : OrderService.CreateStep s.db id call s.moment s'.db pc)
      (calls : s'.calls = s.calls.set id { call with pc })
  | crashed (host : InstanceId) (calls : s'.calls = s.calls.map (CreateCall.crash host s.moment))
      (db : s'.db = { s.db with
        lockedBy := fun productId => (s.db.lockedBy productId).filter fun id => !s.callOf host id })

theorem salesStep {s s' : State} {a : Action} (taken : s.step a = some s') : SalesStep s s' := by
  obtain ⟨t, acts, rfl⟩ := State.step_cases taken
  cases acts with
  | began call fresh begun quantity => exact .began call fresh begun quantity rfl rfl
  | queried id ok call db pc found executed => exact .queried id call pc found executed rfl
  | crashed host => exact .crashed host rfl rfl
  | publisherSettled host result rows publisher settled =>
    exact .idle rfl rfl (OutboxPublisherService.settle_identity settled)
  | recovered => exact .idle rfl rfl (recoverStuckProcessing_identity _ _)
  | _ => exact .idle rfl rfl rfl

end FlashSaleLab

import FlashSaleLab.Continuations
import FlashSaleLab.Foundations.Runs
import FlashSaleLab.Sales.Stock

/-!
# No deadlock among sales

A transaction of `create` takes one row lock, as its last statement before `COMMIT`. So whoever
holds a lock waits for nobody, and the calls that wait get their turn. `statements` are steps in
which PostgreSQL answers a statement of some call, in any order. It may refuse those of some calls,
as it refuses the `INSERT` of an order whose user it does not know.
-/
namespace FlashSaleLab

open OrderService PrismaOrderUnitOfWork Transition

/-- A statement of some call is executed, or refused if it is one of the `refusable` calls. -/
def statements (refusable : CallId → Prop) (_ : State) (a : Action) : Prop :=
  ∃ id ok, a = .query id ok ∧ (ok = false → refusable id)

/-- The statement of that call ends. -/
def Action.queries (id : CallId) : Action → Bool
  | .query call _ => decide (call = id)
  | _ => false

/-- The statements a call still has to await at most. -/
def CreatePc.rank : CreatePc → Nat
  | .prechecking => 5
  | .insertingOrder => 4
  | .insertingOutbox _ => 3
  | .decreasing _ _ => 2
  | .committing _ _ _ => 1
  | .rollingBack => 1
  | .finished _ _ => 0

theorem CreatePc.rank_le (pc : CreatePc) : pc.rank ≤ 5 := by
  cases pc <;> simp [rank]

def CreatePc.running : CreatePc → Bool
  | .finished _ _ => false
  | _ => true

/-- The call at `pc` waits for its `COMMIT`. -/
def CreatePc.CommitsNext (pc : CreatePc) : Prop :=
  ∃ order event stock, pc = .committing order event stock

namespace OrderService

section Statements

variable {db db' : Database} {id other : CallId} {call : CreateCall} {moment : Nat}
  {pc : CreatePc} {productId : Int}

/-- A statement brings its call closer to its end. -/
theorem CreateStep.rank (executed : CreateStep db id call moment db' pc) :
    pc.rank < call.pc.rank := by
  cases executed with
  | failed active =>
    cases suspended : call.pc with
    | finished outcome ended => exact absurd suspended (active outcome ended)
    | _ => simp [CreatePc.rank]
  | precheckRejected suspended | precheckPassed suspended | precheckFailed suspended
  | orderInserted suspended | outboxInserted order suspended | decreased order event stock suspended
  | guardFailed order event suspended | committed order event stock suspended
  | conflicted suspended => simp [suspended, CreatePc.rank]

/-- The end of a call is not a failure if its last statement was executed. -/
theorem create_succeeds (executed : create db id call true moment = some (db', pc)) :
    ∀ ended, pc ≠ .finished .failed ended := by
  unfold create at executed
  cases suspended : call.pc with
  | prechecking =>
    simp only [suspended, if_true] at executed
    split at executed
    · cases executed
      simp
    · split at executed
      · cases executed
        simp
      · cases executed
        simp
  | decreasing order event =>
    simp only [suspended, if_true] at executed
    split at executed
    · split at executed
      · cases executed
        simp
      · cases executed
        simp
    · cases executed
  | finished outcome ended => simp [suspended] at executed
  | _ =>
    simp only [suspended, if_true] at executed
    cases executed
    simp

/-- A call that has not ended waits for the lock of its row, if for anything. -/
theorem create_waits {ok : Bool} (waits : create db id call ok moment = none)
    (running : call.pc.running = true) :
    ok = true ∧ ∃ holder, db.lockedBy call.input.productId = some holder := by
  unfold create at waits
  cases suspended : call.pc with
  | finished outcome ended => simp [suspended, CreatePc.running] at running
  | rollingBack =>
    simp only [suspended] at waits
    cases waits
  | prechecking =>
    simp only [suspended] at waits
    split at waits
    · split at waits
      · cases waits
      · split at waits
        · cases waits
        · cases waits
    · cases waits
  | decreasing order event =>
    simp only [suspended] at waits
    split at waits
    next executed =>
      split at waits
      · split at waits
        · cases waits
        · cases waits
      next held => exact ⟨executed, Option.ne_none_iff_exists'.mp held⟩
    · cases waits
  | _ =>
    simp only [suspended] at waits
    split at waits
    · cases waits
    · cases waits

/-- A lock after a statement is another call's, as before, or that of a call that commits next. -/
theorem CreateStep.lock (executed : CreateStep db id call moment db' pc)
    (own : ∀ productId, db.lockedBy productId = some id → call.pc.CommitsNext)
    (locked : db'.lockedBy productId = some other) :
    (other ≠ id ∧ db.lockedBy productId = some other) ∨ (other = id ∧ pc.CommitsNext) := by
  -- a call that does not commit next has no lock to give up
  have others (not : ¬call.pc.CommitsNext) (before : db.lockedBy productId = some other) :
      other ≠ id ∧ db.lockedBy productId = some other := by
    apply And.intro _ before
    rintro rfl
    exact not (own productId before)
  -- and one that ends has none afterwards
  have released (after : (rollback db id).lockedBy productId = some other) :
      other ≠ id ∧ db.lockedBy productId = some other := by
    simp only [rollback] at after
    split at after
    · cases after
    next free =>
      apply And.intro _ after
      rintro rfl
      exact free after
  cases executed with
  | decreased order event stock suspended free row enough =>
    by_cases same : productId = call.input.productId
    · subst same
      simp only [Function.update_self, Option.some.injEq] at locked
      exact Or.inr ⟨locked.symm, order, event, _, rfl⟩
    · simp only [ne_eq, same, not_false_eq_true, Function.update_of_ne] at locked
      exact Or.inl (others (by simp [suspended, CreatePc.CommitsNext]) locked)
  | committed order event stock suspended => exact Or.inl (released locked)
  | conflicted suspended => exact Or.inl (released locked)
  | failed active => exact Or.inl (released locked)
  | precheckRejected suspended | precheckPassed suspended | precheckFailed suspended
  | orderInserted suspended | outboxInserted order suspended | guardFailed order event suspended =>
    exact Or.inl (others (by simp [suspended, CreatePc.CommitsNext]) locked)

end Statements

end OrderService

/-- Who holds a row lock is about to commit. -/
def LocksInv (s : State) : Prop :=
  ∀ (productId : Int) (id : CallId), s.db.lockedBy productId = some id →
    ∃ call, s.calls[id]? = some call ∧ call.pc.CommitsNext

section Steps

variable {stock : Int → Option Nat} {s s' : State} {a : Action} {refusable : CallId → Prop}

theorem LocksInv.step (inv : LocksInv s) (taken : SalesStep s s') : LocksInv s' := by
  intro productId id locked
  cases taken with
  | idle calls db rows =>
    rw [db] at locked
    rw [calls]
    exact inv productId id locked
  | began new fresh begun quantity calls db =>
    rw [db] at locked
    obtain ⟨call, found, next⟩ := inv productId id locked
    exact ⟨call, calls ▸ Registry.added_of found, next⟩
  | queried mover moved pc present executed calls =>
    have own (held : Int) (lock : s.db.lockedBy held = some mover) : moved.pc.CommitsNext := by
      obtain ⟨call, found, next⟩ := inv held mover lock
      cases found.symm.trans present
      exact next
    rw [calls]
    rcases executed.lock own locked with ⟨other, before⟩ | ⟨rfl, next⟩
    · obtain ⟨call, found, next⟩ := inv productId id before
      exact ⟨call, (Registry.set_other other).trans found, next⟩
    · exact ⟨_, Registry.set_self present, next⟩
  | crashed host calls db =>
    rw [db] at locked
    obtain ⟨before, alive⟩ := Option.filter_eq_some_iff.mp locked
    obtain ⟨call, found, next⟩ := inv productId id before
    have elsewhere : call.host ≠ host := by simpa [State.callOf, found] using alive
    refine ⟨call, ?_, next⟩
    rw [calls, List.getElem?_map, found]
    simp [CreateCall.crash, elsewhere]

theorem locks_invariant {allowed : State → Action → Prop}
    (reachable : (system stock).Reachable allowed s) : LocksInv s := by
  apply reachable.invariant (I := LocksInv)
  · rintro s rfl productId id locked
    cases locked
  · intro s a s' _ inv _ taken
    exact inv.step (salesStep taken)

theorem statement_taken {id : CallId} {call : CreateCall} {db : Database} {pc : CreatePc}
    (found : s.calls[id]? = some call)
    (executed : create s.db id call true s.moment = some (db, pc)) :
    ∃ a s', statements refusable s a ∧ (system stock).step s a = some s' := by
  have acted : s.act (.query id true) =
      some { s with db, calls := s.calls.set id { call with pc } } := by
    simp only [State.act, State.query, found, executed]
  exact ⟨.query id true, _, ⟨id, true, rfl, by simp⟩, step_of_act acted⟩

/-- As long as a call has not ended, some call can go on. -/
theorem LocksInv.progress (inv : LocksInv s) {id : CallId} {call : CreateCall}
    (found : s.calls[id]? = some call) (running : call.pc.running = true) :
    ∃ a s', statements refusable s a ∧ (system stock).step s a = some s' := by
  cases executed : create s.db id call true s.moment with
  | some result => exact statement_taken found executed
  | none =>
    -- it waits for a transaction that has only its `COMMIT` before it
    obtain ⟨_, holder, locked⟩ := create_waits executed running
    obtain ⟨other, present, order, event, left, next⟩ := inv _ holder locked
    apply statement_taken present
    simp only [create, next, if_true]
    rfl

/-- Without locks and with every call at its end there is nothing left to do. -/
def State.AllEnded (s : State) : Prop :=
  (∀ productId, s.db.lockedBy productId = none) ∧
    ∀ (id : CallId) (call : CreateCall), s.calls[id]? = some call → call.pc.running = false

theorem LocksInv.settled (inv : LocksInv s)
    (ended : ∀ (id : CallId) (call : CreateCall), s.calls[id]? = some call →
      call.pc.running = false) : s.AllEnded := by
  apply And.intro _ ended
  intro productId
  cases locked : s.db.lockedBy productId with
  | none => rfl
  | some holder =>
    obtain ⟨call, found, order, event, left, next⟩ := inv productId holder locked
    have stopped := ended holder call found
    simp [next, CreatePc.running] at stopped

/-- The call `before` has gone on, if at all, without a failure unless it is `refusable`. -/
def CreateCall.Advanced (refusable : Prop) (before after : CreateCall) : Prop :=
  ∃ pc, after = { before with pc } ∧ (pc = before.pc ∨
    (before.pc.running = true ∧ ∀ ended, pc = .finished .failed ended → refusable))

theorem CreateCall.Advanced.step {call current : CreateCall} {id : CallId} {ok : Bool}
    {db db' : Database} {pc : CreatePc} {moment : Nat} {refusable : Prop}
    (so : call.Advanced refusable current) (refused : ok = false → refusable)
    (executed : create db id current ok moment = some (db', pc)) :
    call.Advanced refusable { current with pc } := by
  have lower := (create_cases executed).rank
  have active : current.pc.running = true := by
    cases ended : current.pc with
    | finished outcome moment =>
      rw [ended] at lower
      exact absurd lower (Nat.not_lt_zero _)
    | _ => rfl
  have fails (ended : Nat) (failed : pc = .finished .failed ended) : refusable := by
    cases ok with
    | false => exact refused rfl
    | true => exact absurd failed (create_succeeds executed ended)
  obtain ⟨between, rfl, same | running⟩ := so
  · subst same
    exact ⟨pc, rfl, Or.inr ⟨active, fails⟩⟩
  · exact ⟨pc, rfl, Or.inr ⟨running.1, fails⟩⟩

/-- What a call of `create` may still await; one that has not begun, everything. -/
def State.callRank (s : State) : CallId → Nat :=
  Registry.sizeAt (fun call => call.pc.rank) 5 s.calls

theorem callRank_step (id : CallId) (taken : s.step a = some s') :
    s'.callRank id + (if a.queries id then 1 else 0) ≤ s.callRank id := by
  obtain ⟨t, acts, rfl⟩ := State.step_cases taken
  cases acts with
  | began call fresh =>
    apply Registry.sizeAt_added
    simp [fresh, CreatePc.rank]
  | queried mover ok call db pc found executed =>
    by_cases mine : mover = id
    · subst mine
      simp only [Action.queries, decide_true, if_true]
      exact Registry.sizeAt_self found executed.rank
    · simp only [Action.queries, mine, decide_false, Bool.false_eq_true, if_false]
      exact Nat.le_of_eq (Registry.sizeAt_other fun same => mine same.symm)
  | crashed host =>
    apply Registry.sizeAt_map
    intro call
    split
    · cases call.pc <;> simp [CreatePc.abort, CreatePc.rank]
    · exact Nat.le_refl _
  | _ => exact Nat.le_refl _

end Steps

end FlashSaleLab

import FlashSaleLab.Product.Steps

/-!
# Where cached products come from

Every cache entry was written by a `findById` call that had read the version it holds, and after
every invalidation that took effect. What a call returns is a version it read itself or one it
found in such an entry. `ProductInv` says so of a whole state.
-/
namespace FlashSaleLab

/-- The call has not read the row yet. -/
def FindPc.unread : FindPc → Bool
  | .getting | .got _ | .reading => true
  | _ => false

/-- It has not filled the cache yet. -/
def FindPc.unfilled : FindPc → Bool
  | .getting | .got _ | .reading | .read _ | .setting _ => true
  | _ => false

/-- The update has not invalidated the entry yet. -/
def UpdatePc.undeleted : UpdatePc → Bool
  | .updating | .updated _ | .deleting _ => true
  | _ => false

def UpdatePc.unreturned : UpdatePc → Bool
  | .returned _ => false
  | _ => true

/-- The update has committed its version. -/
def UpdatePc.committed : UpdatePc → Bool
  | .updated (.resolved _) | .deleting _ | .deleted _ | .returned _ => true
  | _ => false

namespace ProductService

/-- The `updatePrice` had returned before that step of the run. -/
def ReturnedBefore (moment : Nat) (update : UpdateCall) : Prop :=
  ∃ stamp, update.returned = some stamp ∧ stamp.moment < moment

/-- Version `i` stood in the entry of the product `id` that `filler` wrote: within the entry's 60 s
for a call that began at `begun`, and after the invalidation of every update that had returned
then. -/
structure FilledBy (s : ProductState) (id : Int) (begun : Stamp) (i : Nat) (filler : FindCall)
    (read filled : Stamp) : Prop where
  found : filler ∈ s.finds
  same : filler.id = id
  seen : filler.read = some (i, read)
  stored : filler.filled = some filled
  fresh : begun.time < filled.time + 60000
  after : ∀ update ∈ s.updates, update.id = id → ReturnedBefore begun.moment update →
    ∀ deleted, update.deleted = some deleted → deleted.moment < filled.moment

def Cached (s : ProductState) (id : Int) (begun : Stamp) (i : Nat) : Prop :=
  ∃ filler read filled, FilledBy s id begun i filler read filled

/-- A call that began at `begun` read version `i` of the row at `read`: after it began, so it saw
the versions of all updates that had returned. -/
structure ReadInv (s : ProductState) (id : Int) (begun : Stamp) (i : Nat) (read : Stamp) :
    Prop where
  seen : ∃ product, (s.products id).SeenAt i product read.time
  began : begun.time ≤ read.time
  past : read.time ≤ s.now
  covers : ∀ update ∈ s.updates, update.id = id → ReturnedBefore begun.moment update →
    ∀ k, update.version = some k → k ≤ i

/-- What a call holds at each await. -/
inductive FindStage (s : ProductState) (find : FindCall) : Prop
  | empty (unread : find.pc = .getting ∨ find.pc = .got none ∨ find.pc = .reading ∨
      find.pc = .read (.resolved none) ∨ find.pc = .read .rejected)
  | hit (i : Nat) (product : Product) (here : find.pc = .got (some (.stringify product.toJson)))
      (value : (s.products find.id).value i = some product) (cached : Cached s find.id find.begun i)
  | row (i : Nat) (product : Product) (read : Stamp)
      (here : find.pc = .read (.resolved (some product)) ∨ find.pc = .setting product ∨
        find.pc = .stored product)
      (value : (s.products find.id).value i = some product) (noted : find.read = some (i, read))
  | returned (i : Nat) (product : Product) (here : find.pc = .returned product.toJson)
      (value : (s.products find.id).value i = some product)
      (source : (∃ read, find.read = some (i, read)) ∨ Cached s find.id find.begun i)
  | rejected (error : ProductError) (here : find.pc = .rejected error)
      (known : error = .notFoundException "상품을 찾을 수 없습니다." ∨ error = .database)

structure FindInv (s : ProductState) (find : FindCall) : Prop where
  began : find.begun.moment < s.moment
  past : find.begun.time ≤ s.now
  unread : find.pc.unread = true → find.read = none
  unfilled : find.pc.unfilled = true → find.filled = none
  read : ∀ i stamp, find.read = some (i, stamp) → ReadInv s find.id find.begun i stamp
  stage : FindStage s find

structure UpdateInv (s : ProductState) (update : UpdateCall) : Prop where
  undeleted : update.pc.undeleted = true → update.deleted = none
  unreturned : update.pc.unreturned = true → update.returned = none
  committed : update.pc.committed = true → update.version ≠ none
  version : ∀ k, update.version = some k → ∃ product,
    (s.products update.id).value k = some product ∧ product.price = update.price
  deleted : ∀ stamp, update.deleted = some stamp → stamp.moment < s.moment

/-- The entry was written by a call that had read the version it holds, after every invalidation
so far. -/
structure EntryInv (s : ProductState) (id : Int) (entry : Expiring CachedProduct) : Prop where
  source : ∃ filler i read filled product,
    s.finds[entry.value.writer]? = some filler ∧ filler.id = id ∧
    filler.read = some (i, read) ∧ filler.filled = some filled ∧
    entry.value.text = .stringify product.toJson ∧
    (s.products id).value i = some product ∧ entry.expiresAt = filled.time + 60000 ∧
    ∀ update ∈ s.updates, update.id = id →
      ∀ deleted, update.deleted = some deleted → deleted.moment < filled.moment

structure ProductInv (s : ProductState) : Prop where
  finds : ∀ (call : Nat) (find : FindCall), s.finds[call]? = some find → FindInv s find
  updates : ∀ (call : Nat) (update : UpdateCall), s.updates[call]? = some update →
    UpdateInv s update
  entries : ∀ id entry, s.redis (productKey id) = some entry → EntryInv s id entry

/-- What a call has noted down stays. -/
structure Grows (find find' : FindCall) : Prop where
  id : find'.id = find.id
  begun : find'.begun = find.begun
  read : ∀ noted, find.read = some noted → find'.read = some noted
  filled : ∀ stamp, find.filled = some stamp → find'.filled = some stamp

/-- What every step keeps. -/
structure Later (s s' : ProductState) : Prop where
  moment : s.moment < s'.moment
  now : s.now ≤ s'.now
  value : ∀ id i product, (s.products id).value i = some product →
    (s'.products id).value i = some product
  seen : ∀ id i product time, (s.products id).SeenAt i product time → time ≤ s.now →
    (s'.products id).SeenAt i product time
  finds : ∀ (call : Nat) (find : FindCall), s.finds[call]? = some find →
    ∃ find', s'.finds[call]? = some find' ∧ Grows find find'
  returned : ∀ update ∈ s'.updates, ReturnedBefore s.moment update → update ∈ s.updates

variable {s s' : ProductState} {a : ProductAction}

theorem Grows.refl (find : FindCall) : Grows find find :=
  ⟨rfl, rfl, fun _ noted => noted, fun _ noted => noted⟩

/-- The calls after one of them was replaced by what it grew into. -/
theorem grows_set {call : Nat} {find find' : FindCall} (found : s.finds[call]? = some find)
    (grows : Grows find find') (other : Nat) (before : FindCall)
    (present : s.finds[other]? = some before) :
    ∃ after, (s.finds.set call find')[other]? = some after ∧ Grows before after := by
  by_cases same : other = call
  · subst same
    cases found.symm.trans present
    exact ⟨find', Registry.set_self found, grows⟩
  · exact ⟨before, (Registry.set_other same).trans present, .refl before⟩

/-- An update that was replaced had not returned, so those that had are old. -/
theorem returned_set {call : Nat} {update' : UpdateCall}
    (fresh : ∀ stamp, update'.returned = some stamp → s.moment ≤ stamp.moment) :
    ∀ after ∈ s.updates.set call update', ReturnedBefore s.moment after → after ∈ s.updates := by
  rintro after member ⟨stamp, returned, past⟩
  rcases List.mem_or_eq_of_mem_set member with old | rfl
  · exact old
  · have := fresh stamp returned
    omega

/-- The products after a step: unchanged, or with one version more. -/
theorem Acts.products (acts : Acts s a s') : s'.products = s.products ∨
    ∃ id product, s'.products =
      Function.update s.products id ((s.products id).commit s.now product) := by
  cases acts with
  | committed call update product => exact Or.inr ⟨update.id, _, rfl⟩
  | _ => exact Or.inl rfl

/-- Versions are only appended. -/
theorem Acts.value (acts : Acts s a s') (id : Int) (i : Nat) (product : Product)
    (value : (s.products id).value i = some product) :
    (s'.products id).value i = some product := by
  rcases acts.products with same | ⟨changed, new, same⟩
  · rw [same]
    exact value
  · rw [same]
    by_cases here : id = changed
    · subst here
      rw [Function.update_self]
      exact Versions.value_commit_of value
    · rw [Function.update_of_ne here]
      exact value

theorem Acts.seen (acts : Acts s a s') (id : Int) (i : Nat) (product : Product) (time : Time)
    (seen : (s.products id).SeenAt i product time) (past : time ≤ s.now) :
    (s'.products id).SeenAt i product time := by
  rcases acts.products with same | ⟨changed, new, same⟩
  · rw [same]
    exact seen
  · rw [same]
    by_cases here : id = changed
    · subst here
      rw [Function.update_self]
      exact seen.commit past
    · rw [Function.update_of_ne here]
      exact seen

/-- No call takes back what it has noted down. -/
theorem Acts.finds (inv : ProductInv s) (acts : Acts s a s') :
    ∀ (call : Nat) (find : FindCall), s.finds[call]? = some find →
      ∃ find', s'.finds[call]? = some find' ∧ Grows find find' := by
  cases acts with
  | findBegan id => exact fun call find found => ⟨find, Registry.added_of found, .refl find⟩
  | got call find result found =>
    exact grows_set found ⟨rfl, rfl, fun _ noted => noted, fun _ noted => noted⟩
  | read call find result found suspended =>
    -- it had not read before
    have unread := (inv.finds call find found).unread (by rw [suspended]; rfl)
    refine grows_set found ⟨rfl, rfl, fun noted earlier => ?_, fun _ noted => noted⟩
    cases unread.symm.trans earlier
  | filled call find product result found suspended =>
    have unfilled := (inv.finds call find found).unfilled (by rw [suspended]; rfl)
    refine grows_set found ⟨rfl, rfl, fun _ noted => noted, fun noted earlier => ?_⟩
    cases unfilled.symm.trans earlier
  | findResumed call find pc found =>
    exact grows_set found ⟨rfl, rfl, fun _ noted => noted, fun _ noted => noted⟩
  | _ => exact fun call find found => ⟨find, found, .refl find⟩

/-- An update that has returned before the step is not touched by it. -/
theorem Acts.returned (inv : ProductInv s) (acts : Acts s a s') :
    ∀ update ∈ s'.updates, ReturnedBefore s.moment update → update ∈ s.updates := by
  -- only `updateReturned` notes a return, and its time is this step's
  have replaced {call : Nat} {update : UpdateCall} (found : s.updates[call]? = some update)
      (running : update.pc.unreturned = true) :
      ∀ stamp, update.returned = some stamp → s.moment ≤ stamp.moment := by
    intro stamp returned
    cases ((inv.updates call update found).unreturned running).symm.trans returned
  cases acts with
  | updateBegan id price =>
    rintro after member ⟨stamp, returned, _⟩
    rcases List.mem_append.mp member with old | new
    · exact old
    · rw [List.mem_singleton.mp new] at returned
      cases returned
  | committed call update product result found suspended =>
    refine returned_set fun stamp returned => ?_
    exact replaced found (by rw [suspended]; rfl) stamp returned
  | updateFailed call update result found suspended =>
    refine returned_set fun stamp returned => ?_
    exact replaced found (by rw [suspended]; rfl) stamp returned
  | invalidated call update product result found suspended =>
    refine returned_set fun stamp returned => ?_
    exact replaced found (by rw [suspended]; rfl) stamp returned
  | updateResumed call update pc found resumed =>
    refine returned_set fun stamp returned => replaced found ?_ stamp returned
    cases here : update.pc with
    | returned product =>
      rw [here] at resumed
      cases resumed
    | _ => rfl
  | updateReturned call update product found suspended =>
    refine returned_set fun stamp returned => ?_
    cases returned
    exact Nat.le_refl _
  | _ => exact fun _ member _ => member

theorem Acts.later (inv : ProductInv s) (acts : Acts s a s') : Later s s' := by
  refine ⟨?_, ?_, acts.value, acts.seen, acts.finds inv, acts.returned inv⟩
  · cases acts <;> exact Nat.lt_succ_self _
  · cases acts with
    | ticked elapsed => exact Nat.le_add_right _ _
    | _ => exact Nat.le_refl _

theorem Later.member (later : Later s s') {find : FindCall} (member : find ∈ s.finds) :
    ∃ find' ∈ s'.finds, Grows find find' := by
  obtain ⟨call, found⟩ := List.getElem?_of_mem member
  obtain ⟨find', still, grows⟩ := later.finds call find found
  exact ⟨find', List.mem_of_getElem? still, grows⟩

/-- An update that had returned before an old call began is an old one. -/
theorem Later.returnedBefore (later : Later s s') {begun : Stamp} (began : begun.moment < s.moment)
    {update : UpdateCall} (member : update ∈ s'.updates)
    (returned : ReturnedBefore begun.moment update) : update ∈ s.updates := by
  obtain ⟨stamp, noted, past⟩ := returned
  exact later.returned update member ⟨stamp, noted, by omega⟩

section Mono

variable {id : Int} {begun read : Stamp} {i : Nat} {find : FindCall}

theorem Cached.mono (later : Later s s') (began : begun.moment < s.moment)
    (cached : Cached s id begun i) : Cached s' id begun i := by
  obtain ⟨filler, read, filled, by_⟩ := cached
  obtain ⟨filler', member, grows⟩ := later.member by_.found
  refine ⟨filler', read, filled, member, grows.id.trans by_.same, grows.read _ by_.seen,
    grows.filled _ by_.stored, by_.fresh, ?_⟩
  intro update member same returned
  exact by_.after update (later.returnedBefore began member returned) same returned

theorem ReadInv.mono (later : Later s s') (began : begun.moment < s.moment)
    (inv : ReadInv s id begun i read) : ReadInv s' id begun i read := by
  obtain ⟨product, seen⟩ := inv.seen
  constructor
  · exact ⟨product, later.seen id i product read.time seen inv.past⟩
  · exact inv.began
  · exact Nat.le_trans inv.past later.now
  · intro update member same returned
    exact inv.covers update (later.returnedBefore began member returned) same returned

theorem FindStage.mono (later : Later s s') (began : find.begun.moment < s.moment)
    (stage : FindStage s find) : FindStage s' find := by
  cases stage with
  | empty unread => exact .empty unread
  | hit i product here value cached =>
    exact .hit i product here (later.value _ i product value) (cached.mono later began)
  | row i product read here value noted =>
    exact .row i product read here (later.value _ i product value) noted
  | returned i product here value source =>
    refine .returned i product here (later.value _ i product value) ?_
    rcases source with read | cached
    · exact Or.inl read
    · exact Or.inr (cached.mono later began)
  | rejected error here known => exact .rejected error here known

theorem FindInv.mono (later : Later s s') (inv : FindInv s find) : FindInv s' find where
  began := Nat.lt_trans inv.began later.moment
  past := Nat.le_trans inv.past later.now
  unread := inv.unread
  unfilled := inv.unfilled
  read i stamp noted := (inv.read i stamp noted).mono later inv.began
  stage := inv.stage.mono later inv.began

/-- A call that goes on without noting anything down. -/
theorem FindInv.advance (later : Later s s') (inv : FindInv s find) {pc : FindPc}
    (unread : pc.unread = true → find.pc.unread = true)
    (unfilled : pc.unfilled = true → find.pc.unfilled = true)
    (stage : FindStage s' { find with pc }) : FindInv s' { find with pc } where
  began := Nat.lt_trans inv.began later.moment
  past := Nat.le_trans inv.past later.now
  unread here := inv.unread (unread here)
  unfilled here := inv.unfilled (unfilled here)
  read i stamp noted := (inv.read i stamp noted).mono later inv.began
  stage := stage

end Mono

theorem productKey_inj {id other : Int} : productKey id = productKey other ↔ id = other := by
  simp [productKey]

/-- The entry that a call finds. -/
theorem FindInv.got (inv : ProductInv s) (later : Later s s') {call : Nat} {find : FindCall}
    (found : s.finds[call]? = some find) (suspended : find.pc = .getting) (result : CallResult) :
    FindInv s' { find with
      pc := .got ((RedisService.get s.redis s.now (productKey find.id) result).map (·.text)) } := by
  have call := inv.finds call find found
  refine call.advance later (by simp [suspended, FindPc.unread])
    (by simp [suspended, FindPc.unfilled]) ?_
  cases result with
  | failed applied => exact .empty (Or.inr (Or.inl rfl))
  | ok =>
    cases hit : s.redis.live s.now (productKey find.id) with
    | none => exact .empty (by simp [RedisService.get, ExpiringStore.get, hit])
    | some entry =>
      obtain ⟨present, live⟩ := ExpiringStore.live_eq_some_iff.mp hit
      obtain ⟨filler, i, read, filled, product, written, same, seen, stored, text, value, expires,
        after⟩ := (inv.entries find.id entry present).source
      -- the entry is not older than 60 s now, and the call began before now
      have cached : Cached s find.id find.begun i := by
        refine ⟨filler, read, filled, List.mem_of_getElem? written, same, seen, stored, ?_, ?_⟩
        · rw [expires] at live
          exact Nat.lt_of_le_of_lt call.past live
        · intro update member same _
          exact after update member same
      refine .hit i product ?_ (later.value _ i product value) (cached.mono later call.began)
      simp [RedisService.get, ExpiringStore.get, hit, text]

/-- The version that a call reads. -/
theorem FindInv.readRow (inv : ProductInv s) (later : Later s s')
    (same : s'.products = s.products) (still : s'.updates = s.updates) {call : Nat}
    {find : FindCall} (found : s.finds[call]? = some find) (suspended : find.pc = .reading)
    (result : CallResult) :
    FindInv s' { find with
      pc := .read (result.settle (PrismaProductRepository.findById s.products find.id))
      read :=
        if result = .ok ∧ (PrismaProductRepository.findById s.products find.id).isSome then
          some (version s find.id, stamp s)
        else find.read } := by
  have call := inv.finds call find found
  have unread : find.read = none := call.unread (by simp [suspended, FindPc.unread])
  constructor
  · exact Nat.lt_trans call.began later.moment
  · exact Nat.le_trans call.past later.now
  · intro here
    cases here
  · intro _
    exact call.unfilled (by simp [suspended, FindPc.unfilled])
  · intro i read noted
    simp only at noted
    split at noted
    next answered =>
      cases noted
      obtain ⟨product, row⟩ := Option.isSome_iff_exists.mp answered.2
      refine ⟨⟨product, ?_⟩, call.past, later.now, ?_⟩
      · rw [same]
        exact Versions.SeenAt.of_latest row
      · -- an update that has committed left its version in the row
        intro update member here _ k committed
        rw [still] at member
        obtain ⟨position, at_⟩ := List.getElem?_of_mem member
        obtain ⟨_, value, _⟩ := (inv.updates position update at_).version k committed
        rw [here] at value
        have committed : k < (s.products find.id).length := Versions.value_lt value
        unfold version
        omega
    · cases unread.symm.trans noted
  · cases result with
    | failed applied => exact .empty (by simp [CallResult.settle])
    | ok =>
      cases row : PrismaProductRepository.findById s.products find.id with
      | none => exact .empty (by simp [CallResult.settle])
      | some product =>
        refine .row (version s find.id) product (stamp s) (Or.inl rfl) ?_ (by simp)
        rw [same]
        exact row

/-- A call that stores what it read. -/
theorem FindInv.stores (inv : ProductInv s) (later : Later s s') {call : Nat} {find : FindCall}
    (found : s.finds[call]? = some find) {product : Product}
    (suspended : find.pc = .setting product) (result : CallResult) :
    FindInv s' { find with
      pc := .stored product
      filled := if result.applied then some (stamp s) else find.filled } := by
  have call := inv.finds call find found
  constructor
  · exact Nat.lt_trans call.began later.moment
  · exact Nat.le_trans call.past later.now
  · intro here
    cases here
  · intro here
    cases here
  · exact fun i read noted => (call.read i read noted).mono later call.began
  · cases call.stage with
    | row i held read here value noted =>
      -- the product it stores is the one it read
      have same : product = held := by
        simpa [suspended] using here
      subst same
      exact .row i product read (Or.inr (Or.inr rfl)) (later.value _ i product value) noted
    | empty unread => simp [suspended] at unread
    | hit i held here | returned i held here | rejected error here =>
      cases here.symm.trans suspended

theorem truthy_product (product : Product) : truthy (.stringify product.toJson) = true :=
  rfl

/-- The code after an await keeps to the version the call holds. -/
theorem FindInv.resumed (inv : ProductInv s) (later : Later s s') {call : Nat} {find : FindCall}
    (found : s.finds[call]? = some find) {pc : FindPc} (resumed : resumeFind find.pc = some pc) :
    FindInv s' { find with pc } := by
  have call := inv.finds call find found
  cases call.stage with
  | empty unread =>
    rcases unread with here | here | here | here | here
    all_goals
      rw [here] at resumed
      cases resumed
    -- a miss goes on to the database; after it there is no row, or no answer
    · refine call.advance later ?_ ?_ (.empty (Or.inr (Or.inr (Or.inl rfl))))
      · simp [here, FindPc.unread]
      · simp [here, FindPc.unfilled]
    · refine call.advance later ?_ ?_ (.rejected _ rfl (Or.inl rfl))
      · simp [FindPc.unread]
      · simp [FindPc.unfilled]
    · refine call.advance later ?_ ?_ (.rejected _ rfl (Or.inr rfl))
      · simp [FindPc.unread]
      · simp [FindPc.unfilled]
  | hit i product here value cached =>
    rw [here] at resumed
    simp only [resumeFind, truthy_product, Content.parse, if_true] at resumed
    cases resumed
    refine call.advance later ?_ ?_ (.returned i product rfl (later.value _ i product value)
      (Or.inr (cached.mono later call.began)))
    · simp [FindPc.unread]
    · simp [FindPc.unfilled]
  | row i product read here value noted =>
    rcases here with here | here | here
    all_goals
      rw [here] at resumed
      cases resumed
    -- the row is stored in the cache, and then returned
    · refine call.advance later ?_ ?_
        (.row i product read (Or.inr (Or.inl rfl)) (later.value _ i product value) noted)
      · simp [FindPc.unread]
      · simp [here, FindPc.unfilled]
    · refine call.advance later ?_ ?_ (.returned i product rfl (later.value _ i product value)
        (Or.inl ⟨read, noted⟩))
      · simp [FindPc.unread]
      · simp [FindPc.unfilled]
  | returned i product here | rejected error here =>
    rw [here] at resumed
    cases resumed

theorem FindInv.step (inv : ProductInv s) (acts : Acts s a s') {call : Nat} {find : FindCall}
    (found : s'.finds[call]? = some find) : FindInv s' find := by
  have later := acts.later inv
  have old (present : s.finds[call]? = some find) : FindInv s' find :=
    (inv.finds call find present).mono later
  cases acts with
  | findBegan id =>
    rcases Registry.of_added found with present | ⟨_, rfl⟩
    · exact old present
    · constructor
      · exact Nat.lt_succ_self _
      · exact Nat.le_refl _
      · exact fun _ => rfl
      · exact fun _ => rfl
      · intro i read noted
        cases noted
      · exact .empty (Or.inl rfl)
  | got mover before result present suspended =>
    rcases Registry.of_set found with ⟨rfl, rfl⟩ | ⟨_, present⟩
    · exact .got inv later present suspended result
    · exact old present
  | read mover before result present suspended =>
    rcases Registry.of_set found with ⟨rfl, rfl⟩ | ⟨_, present⟩
    · exact .readRow inv later rfl rfl present suspended result
    · exact old present
  | filled mover before product result present suspended =>
    rcases Registry.of_set found with ⟨rfl, rfl⟩ | ⟨_, present⟩
    · exact .stores inv later present suspended result
    · exact old present
  | findResumed mover before pc present resumed =>
    rcases Registry.of_set found with ⟨rfl, rfl⟩ | ⟨_, present⟩
    · exact .resumed inv later present resumed
    · exact old present
  | _ => exact old found

theorem UpdateInv.mono (later : Later s s') {update : UpdateCall} (inv : UpdateInv s update) :
    UpdateInv s' update where
  undeleted := inv.undeleted
  unreturned := inv.unreturned
  committed := inv.committed
  version k noted := by
    obtain ⟨product, value, price⟩ := inv.version k noted
    exact ⟨product, later.value _ k product value, price⟩
  deleted stamp noted := Nat.lt_trans (inv.deleted stamp noted) later.moment

/-- An update that goes on without noting anything down. -/
theorem UpdateInv.advance (later : Later s s') {update : UpdateCall} (inv : UpdateInv s update)
    {pc : UpdatePc} (undeleted : pc.undeleted = true → update.pc.undeleted = true)
    (unreturned : update.pc.unreturned = true)
    (committed : pc.committed = true → update.pc.committed = true) :
    UpdateInv s' { update with pc } where
  undeleted here := inv.undeleted (undeleted here)
  unreturned _ := inv.unreturned unreturned
  committed here := inv.committed (committed here)
  version := (inv.mono later).version
  deleted := (inv.mono later).deleted

theorem UpdateInv.resumed (later : Later s s') {update : UpdateCall} (inv : UpdateInv s update)
    {pc : UpdatePc} (resumed : resumeUpdate update.pc = some pc)
    (open_ : ∀ product, pc ≠ .returned product) : UpdateInv s' { update with pc } := by
  cases here : update.pc with
  | updated reply =>
    rw [here] at resumed
    cases reply with
    | resolved product | rejected =>
      cases resumed
      refine inv.advance later ?_ ?_ ?_
      all_goals simp [here, UpdatePc.undeleted, UpdatePc.unreturned, UpdatePc.committed]
  | deleted product =>
    rw [here] at resumed
    cases resumed
    exact absurd rfl (open_ product)
  | _ =>
    rw [here] at resumed
    cases resumed

theorem UpdateInv.step (inv : ProductInv s) (acts : Acts s a s') {call : Nat}
    {update : UpdateCall} (found : s'.updates[call]? = some update) : UpdateInv s' update := by
  have later := acts.later inv
  have old (present : s.updates[call]? = some update) : UpdateInv s' update :=
    (inv.updates call update present).mono later
  cases acts with
  | updateBegan id price =>
    rcases Registry.of_added found with present | ⟨_, rfl⟩
    · exact old present
    · constructor
      · exact fun _ => rfl
      · exact fun _ => rfl
      · intro here
        cases here
      · intro k noted
        cases noted
      · intro stamp noted
        cases noted
  | committed mover before product result present suspended row applied =>
    rcases Registry.of_set found with ⟨rfl, rfl⟩ | ⟨_, present⟩
    · have inv := inv.updates call before present
      constructor
      · exact fun _ => inv.undeleted (by simp [suspended, UpdatePc.undeleted])
      · exact fun _ => inv.unreturned (by simp [suspended, UpdatePc.unreturned])
      · exact fun _ => by simp
      · intro k noted
        cases noted
        refine ⟨{ product with price := before.price }, ?_, rfl⟩
        simp only [Function.update_self, Versions.value_commit_self]
      · exact fun stamp noted => Nat.lt_trans (inv.deleted stamp noted) later.moment
    · exact old present
  | updateFailed mover before result present suspended =>
    rcases Registry.of_set found with ⟨rfl, rfl⟩ | ⟨_, present⟩
    · refine (inv.updates call before present).advance later ?_ ?_ ?_
      all_goals simp [suspended, UpdatePc.undeleted, UpdatePc.unreturned, UpdatePc.committed]
    · exact old present
  | invalidated mover before product result present suspended =>
    rcases Registry.of_set found with ⟨rfl, rfl⟩ | ⟨_, present⟩
    · have inv := inv.updates call before present
      constructor
      · intro here
        cases here
      · exact fun _ => inv.unreturned (by simp [suspended, UpdatePc.unreturned])
      · exact fun _ => inv.committed (by simp [suspended, UpdatePc.committed])
      · exact (inv.mono later).version
      · intro stamp noted
        simp only at noted
        split at noted
        · cases noted
          exact later.moment
        · exact (inv.mono later).deleted stamp noted
    · exact old present
  | updateResumed mover before pc present resumed open_ =>
    rcases Registry.of_set found with ⟨rfl, rfl⟩ | ⟨_, present⟩
    · exact (inv.updates call before present).resumed later resumed open_
    · exact old present
  | updateReturned mover before product present suspended =>
    rcases Registry.of_set found with ⟨rfl, rfl⟩ | ⟨_, present⟩
    · have inv := inv.updates call before present
      constructor
      · intro here
        cases here
      · intro here
        cases here
      · exact fun _ => inv.committed (by simp [suspended, UpdatePc.committed])
      · exact (inv.mono later).version
      · exact (inv.mono later).deleted
    · exact old present
  | _ => exact old found

/-- An invalidation that has taken effect is an old one, or it has just emptied the entry. -/
theorem Acts.deleted (acts : Acts s a s') {update : UpdateCall}
    {stamp : Stamp} (member : update ∈ s'.updates) (deleted : update.deleted = some stamp) :
    (∃ old ∈ s.updates, old.id = update.id ∧ old.deleted = some stamp) ∨
      s'.redis (productKey update.id) = none := by
  have kept {call : Nat} {before after : UpdateCall} (found : s.updates[call]? = some before)
      (here : update ∈ s.updates.set call after) (id : after.id = before.id)
      (same : after.deleted = before.deleted) :
      ∃ old ∈ s.updates, old.id = update.id ∧ old.deleted = some stamp := by
    rcases List.mem_or_eq_of_mem_set here with old | rfl
    · exact ⟨update, old, rfl, deleted⟩
    · exact ⟨before, List.mem_of_getElem? found, id.symm, same.symm.trans deleted⟩
  cases acts with
  | updateBegan id price =>
    rcases List.mem_append.mp member with old | new
    · exact Or.inl ⟨update, old, rfl, deleted⟩
    · rw [List.mem_singleton.mp new] at deleted
      cases deleted
  | committed call before product result found => exact Or.inl (kept found member rfl rfl)
  | updateFailed call before result found => exact Or.inl (kept found member rfl rfl)
  | updateResumed call before pc found => exact Or.inl (kept found member rfl rfl)
  | updateReturned call before product found => exact Or.inl (kept found member rfl rfl)
  | invalidated call before product result found suspended =>
    cases applied : result.applied with
    | false => exact Or.inl (kept found member rfl (by simp [applied]))
    | true =>
      rcases List.mem_or_eq_of_mem_set member with old | rfl
      · exact Or.inl ⟨update, old, rfl, deleted⟩
      · right
        simp [RedisService.del, applied]
  | _ => exact Or.inl ⟨update, member, rfl, deleted⟩

/-- An entry is an old one, or a call has just stored the product it read. -/
theorem Acts.entry (acts : Acts s a s') {id : Int} {entry : Expiring CachedProduct}
    (present : s'.redis (productKey id) = some entry) :
    s.redis (productKey id) = some entry ∨
    ∃ (call : Nat) (find : FindCall) (product : Product),
      s.finds[call]? = some find ∧ find.id = id ∧ find.pc = .setting product ∧
      entry = ⟨⟨.stringify product.toJson, call⟩, s.now + 60000⟩ ∧
      s'.finds[call]? = some { find with pc := .stored product, filled := some (stamp s) } := by
  cases acts with
  | filled call find product result found suspended =>
    simp only [RedisService.set] at present
    split at present
    next applied =>
      by_cases same : find.id = id
      · subst same
        right
        rw [ExpiringStore.set_self] at present
        refine ⟨call, find, product, found, rfl, suspended, (Option.some.inj present).symm, ?_⟩
        simp only [applied, if_true]
        exact Registry.set_self found
      · left
        rwa [ExpiringStore.set_of_ne _ _ _ _ _ fun h => same (productKey_inj.mp h).symm] at present
    · exact Or.inl present
  | invalidated call update product result found suspended =>
    simp only [RedisService.del] at present
    split at present
    · by_cases same : update.id = id
      · subst same
        rw [ExpiringStore.del_self] at present
        cases present
      · left
        rwa [ExpiringStore.del_of_ne _ _ fun h => same (productKey_inj.mp h).symm] at present
    · exact Or.inl present
  | _ => exact Or.inl present

theorem EntryInv.step (inv : ProductInv s) (acts : Acts s a s') {id : Int}
    {entry : Expiring CachedProduct} (present : s'.redis (productKey id) = some entry) :
    EntryInv s' id entry := by
  have later := acts.later inv
  have invalidated {update : UpdateCall} (member : update ∈ s'.updates) (same : update.id = id)
      {stamp : Stamp} (deleted : update.deleted = some stamp) :
      ∃ old ∈ s.updates, old.id = id ∧ old.deleted = some stamp := by
    rcases acts.deleted member deleted with ⟨old, there, id, noted⟩ | gone
    · exact ⟨old, there, id.trans same, noted⟩
    · rw [same, present] at gone
      cases gone
  rcases acts.entry present with old | ⟨call, find, product, found, rfl, suspended, rfl, stored⟩
  -- an old entry survives only steps without an invalidation
  · obtain ⟨filler, i, read, filled, product, found, same, seen, stored, text, value, expires,
      after⟩ := (inv.entries id entry old).source
    obtain ⟨filler', still, grows⟩ := later.finds _ filler found
    refine ⟨filler', i, read, filled, product, still, grows.id.trans same, grows.read _ seen,
      grows.filled _ stored, text, later.value id i product value, expires, ?_⟩
    intro update member here stamp deleted
    obtain ⟨before, there, id, noted⟩ := invalidated member here deleted
    exact after before there id stamp noted
  · -- the new entry is younger than every invalidation
    cases (inv.finds call find found).stage with
    | row i held read here value noted =>
      have same : product = held := by
        simpa [suspended] using here
      subst same
      refine ⟨_, i, read, stamp s, product, stored, rfl, noted, rfl, rfl,
        later.value _ i product value, rfl, ?_⟩
      intro update member here stamp deleted
      obtain ⟨before, there, _, noted⟩ := invalidated member here deleted
      obtain ⟨position, at_⟩ := List.getElem?_of_mem there
      exact (inv.updates position before at_).deleted stamp noted
    | empty unread => simp [suspended] at unread
    | hit i held here | returned i held here | rejected error here =>
      cases here.symm.trans suspended

theorem ProductInv.step (inv : ProductInv s) (acts : Acts s a s') : ProductInv s' where
  finds _ _ found := .step inv acts found
  updates _ _ found := .step inv acts found
  entries _ _ present := .step inv acts present

theorem product_invariant {seed : Int → Option (String × Int)}
    {allowed : ProductState → ProductAction → Prop}
    (reachable : (system seed).Reachable allowed s) : ProductInv s := by
  refine reachable.invariant ?_ ?_
  · rintro s rfl
    constructor
    · intro call find found
      simp [initial] at found
    · intro call update found
      simp [initial] at found
    · intro id entry present
      cases present
  · intro s a s' _ inv _ taken
    exact inv.step (step_acts taken)

end ProductService

end FlashSaleLab

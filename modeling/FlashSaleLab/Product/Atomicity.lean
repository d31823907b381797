import FlashSaleLab.Foundations.Runs
import FlashSaleLab.Product.Freshness

/-!
# Cached reads as reads of one register

When no commit falls between the read of a `findById` and its fill, every fill writes the version
that is the latest at that time. Then the cache cannot be told from the row: the calls can be
numbered by the versions they return or commit, and a call that begins after another one has ended
has no smaller number.
-/
namespace FlashSaleLab

/-- The call has read the row and has not filled the cache. -/
def FindPc.filling : FindPc → Bool
  | .read (.resolved (some _)) | .setting _ => true
  | _ => false

/-- What a call is going to return, or has returned. -/
def FindPc.answer? : FindPc → Option Json
  | .got (some cachedProduct) => cachedProduct.parse
  | .read (.resolved (some product)) | .setting product | .stored product => some product.toJson
  | .returned product => some product
  | _ => none

namespace ProductService

/-- Every call succeeds, and a price is not committed while a `findById` of the product stands
between its read and its fill. -/
def unstraddled (s : ProductState) : ProductAction → Prop
  | .findSettles _ result => result = .ok
  | .updateSettles call result => result = .ok ∧ ∀ update, s.updates[call]? = some update →
      update.pc = .updating → ∀ find ∈ s.finds, find.id = update.id → find.pc.filling = false
  | _ => True

/-- Call number `call` has the answer `value`. -/
def Answers (s : ProductState) (call : Nat) (id : Int) (value : Json) : Prop :=
  ∃ find, s.finds[call]? = some find ∧ find.id = id ∧ find.pc.answer? = some value

def Returned (s : ProductState) (call : Nat) (id : Int) (value : Json) : Prop :=
  ∃ find, s.finds[call]? = some find ∧ find.id = id ∧ find.pc = .returned value

/-- Update number `call` has committed version `k` of the product. -/
def Committed (s : ProductState) (call : Nat) (id : Int) (k : Nat) : Prop :=
  ∃ update, s.updates[call]? = some update ∧ update.id = id ∧ update.version = some k

def UpdateReturned (s : ProductState) (call : Nat) : Prop :=
  ∃ update product, s.updates[call]? = some update ∧ update.pc = .returned product

/-- `version` says which version of its product a call has for an answer. -/
def Numbers (version : Nat → Nat) (s : ProductState) : Prop :=
  ∀ call id value, Answers s call id value →
    ∃ product, (s.products id).value (version call) = some product ∧ value = product.toJson

/-- What had ended in the state `t` of a run is not newer than what began after it: reads and
updates come in the order of their versions. -/
structure InOrder (version : Nat → Nat) (t s : ProductState) : Prop where
  reads : ∀ call call' id value value', Returned t call id value → t.finds.length ≤ call' →
    Answers s call' id value' → version call ≤ version call'
  readThenUpdate : ∀ call call' id value k, Returned t call id value → t.updates.length ≤ call' →
    Committed s call' id k → version call < k
  updateThenRead : ∀ call call' id k value, UpdateReturned t call → Committed t call id k →
    t.finds.length ≤ call' → Answers s call' id value → k ≤ version call'
  updates : ∀ call call' id k k', UpdateReturned t call → Committed t call id k →
    t.updates.length ≤ call' → Committed s call' id k' → k < k'

/-- A call that holds a version without being about to write it. -/
def Served (s : ProductState) (call : Nat) (id : Int) : Prop :=
  ∃ find, s.finds[call]? = some find ∧ find.id = id ∧ find.pc.answer? ≠ none ∧
    find.pc.filling = false

def Filling (s : ProductState) (call : Nat) (id : Int) : Prop :=
  ∃ find, s.finds[call]? = some find ∧ find.id = id ∧ find.pc.filling = true

/-- Update number `call` has committed version `k` and invalidated the entry. -/
def Deleted (s : ProductState) (call : Nat) (id : Int) (k : Nat) : Prop :=
  ∃ update, s.updates[call]? = some update ∧ update.id = id ∧ update.deleted ≠ none ∧
    update.version = some k

/-- No call that was served has a later version, and no update that is through to its `del`. -/
structure Newest (version : Nat → Nat) (s : ProductState) (id : Int) (i : Nat) : Prop where
  served : ∀ call, Served s call id → version call ≤ i
  deleted : ∀ call k, Deleted s call id k → k ≤ i

/-- A call that is about to fill the cache holds the latest version, and what the cache holds is
the newest that anyone was served. -/
structure Coherent (version : Nat → Nat) (s : ProductState) : Prop where
  numbers : Numbers version s
  filling : ∀ call id, Filling s call id → version call + 1 = (s.products id).length
  entries : ∀ id entry, s.redis (productKey id) = some entry →
    (∃ value, Answers s entry.value.writer id value ∧ entry.value.text.parse = some value) ∧
      Newest version s id (version entry.value.writer)

variable {seed : Int → Option (String × Int)} {s s' t : ProductState} {a : ProductAction}
  {version version' : Nat → Nat} {call : Nat} {id : Int} {value : Json} {k : Nat}

/-- The code after an await keeps the answer. -/
theorem FindStage.resumed {find : FindCall} {pc : FindPc} (stage : FindStage s find)
    (resumed : resumeFind find.pc = some pc) :
    pc.answer? = find.pc.answer? ∧ pc.filling = find.pc.filling := by
  cases stage with
  | empty unread =>
    rcases unread with here | here | here | here | here
    all_goals
      rw [here] at resumed
      cases resumed
    all_goals
      rw [here]
      exact ⟨rfl, rfl⟩
  | hit i product here =>
    rw [here] at resumed
    simp only [resumeFind, truthy_product, Content.parse, if_true] at resumed
    cases resumed
    rw [here]
    exact ⟨rfl, rfl⟩
  | row i product read here =>
    rcases here with here | here | here
    all_goals
      rw [here] at resumed
      cases resumed
    all_goals
      rw [here]
      exact ⟨rfl, rfl⟩
  | returned i product here | rejected error here =>
    rw [here] at resumed
    cases resumed

/-- A replaced call, seen by what it holds. -/
theorem answers_set {find : FindCall} (find' : FindCall) (found : s.finds[call]? = some find)
    (id : find'.id = find.id) (answer : find'.pc.answer? = find.pc.answer?)
    (finds : s'.finds = s.finds.set call find') (other : Nat) (product : Int) (value : Json) :
    Answers s' other product value ↔ Answers s other product value := by
  unfold Answers
  rw [finds]
  by_cases same : other = call
  · subst same
    rw [Registry.set_self found, found]
    simp [id, answer]
  · rw [Registry.set_other same]

theorem Acts.keeps_answers (inv : ProductInv s) (acts : Acts s a s')
    (answers : Answers s call id value) : Answers s' call id value := by
  -- a call that awaits its first reply has no answer yet
  have others {mover : Nat} {before after : FindCall} (present : s.finds[mover]? = some before)
      (none_ : before.pc.answer? = none) (finds : s'.finds = s.finds.set mover after) :
      Answers s' call id value := by
    obtain ⟨find, found, same, answer⟩ := answers
    by_cases moved : call = mover
    · subst moved
      cases found.symm.trans present
      cases none_.symm.trans answer
    · exact ⟨find, finds ▸ (Registry.set_other moved).trans found, same, answer⟩
  cases acts with
  | findBegan product =>
    obtain ⟨find, found, same, answer⟩ := answers
    exact ⟨find, Registry.added_of found, same, answer⟩
  | got mover before result present suspended => exact others present (by rw [suspended]; rfl) rfl
  | read mover before result present suspended => exact others present (by rw [suspended]; rfl) rfl
  | filled mover before product result present suspended =>
    apply (answers_set ⟨before.id, .stored product, _, _, _⟩ present rfl ?_ rfl call id value).mpr answers
    rw [suspended]
    rfl
  | findResumed mover before pc present resumed =>
    have kept := (inv.finds mover before present).stage.resumed resumed
    exact (answers_set { before with pc } present rfl kept.1 rfl call id value).mpr answers
  | _ => exact answers

/-- An update that is newly through to its `del` has just emptied the entry. -/
theorem Acts.deletes (inv : ProductInv s) (acts : Acts s a s') (deleted : Deleted s' call id k) :
    Deleted s call id k ∨ s'.redis (productKey id) = none := by
  obtain ⟨update, found, same, gone, committed⟩ := deleted
  cases acts with
  | updateBegan product price =>
    rcases Registry.of_added found with old | ⟨_, rfl⟩
    · exact Or.inl ⟨update, old, same, gone, committed⟩
    · cases gone rfl
  | committed mover before product result present suspended =>
    rcases Registry.of_set found with ⟨rfl, rfl⟩ | ⟨_, old⟩
    · -- an update commits before its `del`
      have undeleted := (inv.updates call before present).undeleted (by rw [suspended]; rfl)
      cases gone undeleted
    · exact Or.inl ⟨update, old, same, gone, committed⟩
  | updateFailed mover before result present | updateResumed mover before pc present
  | updateReturned mover before product present =>
    rcases Registry.of_set found with ⟨rfl, rfl⟩ | ⟨_, old⟩
    · exact Or.inl ⟨before, present, same, gone, committed⟩
    · exact Or.inl ⟨update, old, same, gone, committed⟩
  | invalidated mover before product result present suspended =>
    rcases Registry.of_set found with ⟨rfl, rfl⟩ | ⟨_, old⟩
    · obtain rfl : before.id = id := same
      cases applied : result.applied with
      | false =>
        left
        exact ⟨before, present, rfl, by simpa [applied] using gone, committed⟩
      | true =>
        right
        simp [RedisService.del, applied]
    · exact Or.inl ⟨update, old, same, gone, committed⟩
  | _ => exact Or.inl ⟨update, found, same, gone, committed⟩

/-- An update commits the next version. -/
theorem Acts.commits (acts : Acts s a s') (committed : Committed s' call id k) :
    Committed s call id k ∨ k = (s.products id).length := by
  obtain ⟨update, found, same, noted⟩ := committed
  cases acts with
  | updateBegan product price =>
    rcases Registry.of_added found with old | ⟨_, rfl⟩
    · exact Or.inl ⟨update, old, same, noted⟩
    · cases noted
  | committed mover before product result present suspended =>
    rcases Registry.of_set found with ⟨rfl, rfl⟩ | ⟨_, old⟩
    · obtain rfl : before.id = id := same
      exact Or.inr (Option.some.inj noted).symm
    · exact Or.inl ⟨update, old, same, noted⟩
  | updateFailed mover before result present | updateResumed mover before pc present
  | updateReturned mover before product present | invalidated mover before product result present =>
    rcases Registry.of_set found with ⟨rfl, rfl⟩ | ⟨_, old⟩
    · exact Or.inl ⟨before, present, same, noted⟩
    · exact Or.inl ⟨update, old, same, noted⟩
  | _ => exact Or.inl ⟨update, found, same, noted⟩

/-- The numbers after a step: whoever had an answer keeps its number, and whoever gets one gets the
newest. -/
structure Extends (version version' : Nat → Nat) (s s' : ProductState) : Prop where
  kept : ∀ call id value, Answers s call id value → version' call = version call
  fresh : ∀ call id value, Answers s' call id value →
    (∃ earlier, Answers s call id earlier) ∨ Newest version s id (version' call)

theorem filling_answers (filling : Filling s call id) : ∃ value, Answers s call id value := by
  obtain ⟨find, found, same, fills⟩ := filling
  cases answer : find.pc.answer? with
  | some value => exact ⟨value, find, found, same, answer⟩
  | none =>
    unfold FindPc.filling at fills
    split at fills
    next here => simp [here, FindPc.answer?] at answer
    next here => simp [here, FindPc.answer?] at answer
    · cases fills

theorem served_answers (served : Served s call id) : ∃ value, Answers s call id value := by
  obtain ⟨find, found, same, answered, _⟩ := served
  obtain ⟨value, answer⟩ := Option.ne_none_iff_exists'.mp answered
  exact ⟨value, find, found, same, answer⟩

/-- No call has got an answer in the step, or gone on with it. -/
def Unaltered (s s' : ProductState) : Prop :=
  ∀ (call : Nat) (after : FindCall), s'.finds[call]? = some after → after.pc.answer? = none ∨
    ∃ find, s.finds[call]? = some find ∧ after.id = find.id ∧
      after.pc.answer? = find.pc.answer? ∧ after.pc.filling = find.pc.filling

theorem Unaltered.answers (same : Unaltered s s') (answers : Answers s' call id value) :
    Answers s call id value := by
  obtain ⟨after, found, here, answer⟩ := answers
  rcases same call after found with none_ | ⟨find, old, own, answer', _⟩
  · cases none_.symm.trans answer
  · exact ⟨find, old, own.symm.trans here, answer'.symm.trans answer⟩

theorem Unaltered.filling (same : Unaltered s s') (filling : Filling s' call id) :
    Filling s call id := by
  obtain ⟨value, after, found, here, answer⟩ := filling_answers filling
  obtain ⟨_, found', _, fills⟩ := filling
  cases found.symm.trans found'
  rcases same call after found with none_ | ⟨find, old, own, _, fills'⟩
  · cases none_.symm.trans answer
  · exact ⟨find, old, own.symm.trans here, fills'.symm.trans fills⟩

theorem Unaltered.served (same : Unaltered s s') (served : Served s' call id) :
    Served s call id := by
  obtain ⟨after, found, here, answered, past⟩ := served
  rcases same call after found with none_ | ⟨find, old, own, answer, fills⟩
  · exact absurd none_ answered
  · exact ⟨find, old, own.symm.trans here, answer ▸ answered, fills.symm.trans past⟩

/-- An entry that is still there is as new as it was. -/
theorem Newest.step (newest : Newest version s id k) (inv : ProductInv s) (acts : Acts s a s')
    (unaltered : Unaltered s s') (present : s'.redis (productKey id) ≠ none) :
    Newest version s' id k where
  served call served := newest.served call (unaltered.served served)
  deleted call k deleted := by
    rcases acts.deletes inv deleted with old | gone
    · exact newest.deleted call k old
    · exact absurd gone present

theorem Coherent.unaltered (coherent : Coherent version s) (inv : ProductInv s)
    (acts : Acts s a s') (unaltered : Unaltered s s')
    (latest : ∀ call id, Filling s call id → (s'.products id).length = (s.products id).length)
    (entries : ∀ id entry, s'.redis (productKey id) = some entry →
      s.redis (productKey id) = some entry) :
    Coherent version s' ∧ Extends version version s s' := by
  constructor
  · constructor
    · intro call id value answers
      obtain ⟨product, held, same⟩ := coherent.numbers call id value (unaltered.answers answers)
      exact ⟨product, acts.value id _ product held, same⟩
    · intro call id filling
      have before := unaltered.filling filling
      exact (coherent.filling call id before).trans (latest call id before).symm
    · intro id entry present
      obtain ⟨⟨value, answers, text⟩, newest⟩ := coherent.entries id entry (entries id entry present)
      refine ⟨⟨value, acts.keeps_answers inv answers, text⟩, ?_⟩
      exact newest.step inv acts unaltered (by simp [present])
  · constructor
    · exact fun _ _ _ _ => rfl
    · exact fun call id value answers => Or.inl ⟨value, unaltered.answers answers⟩

/-- A call gets its first answer: version `i`. -/
theorem Coherent.answered (coherent : Coherent version s) (inv : ProductInv s)
    (acts : Acts s a s') {find find' : FindCall} (found : s.finds[call]? = some find)
    (unanswered : find.pc.answer? = none) (finds : s'.finds = s.finds.set call find')
    (same : find'.id = find.id) (i : Nat) (products : s'.products = s.products)
    (redis : s'.redis = s.redis)
    (held : ∀ value, find'.pc.answer? = some value → ∃ product,
      (s.products find.id).value i = some product ∧ value = product.toJson)
    (filling : find'.pc.filling = true → i + 1 = (s.products find.id).length)
    (served : find'.pc.filling = false → find'.pc.answer? ≠ none → ∀ entry,
      s.redis (productKey find.id) = some entry → i ≤ version entry.value.writer)
    (newest : find'.pc.answer? ≠ none → Newest version s find.id i) :
    ∃ version', Coherent version' s' ∧ Extends version version' s s' := by
  have apart {other : Nat} {product : Int} {value : Json} (answers : Answers s other product value) :
      other ≠ call := by
    rintro rfl
    obtain ⟨_, there, _, answer⟩ := answers
    cases found.symm.trans there
    cases unanswered.symm.trans answer
  have number {other : Nat} {product : Int} {value : Json}
      (answers : Answers s other product value) :
      Function.update version call i other = version other :=
    Function.update_of_ne (apart answers) ..
  have cases_ {other : Nat} {after : FindCall} (there : s'.finds[other]? = some after) :
      (other = call ∧ after = find') ∨ s.finds[other]? = some after := by
    rw [finds] at there
    rcases Registry.of_set there with new | ⟨_, old⟩
    · exact Or.inl new
    · exact Or.inr old
  refine ⟨Function.update version call i, ⟨?_, ?_, ?_⟩, ⟨?_, ?_⟩⟩
  · rintro other product value ⟨after, there, own, answer⟩
    rw [products]
    rcases cases_ there with ⟨rfl, rfl⟩ | old
    · rw [Function.update_self, ← own, same]
      exact held value answer
    · have answers : Answers s other product value := ⟨after, old, own, answer⟩
      rw [number answers]
      exact coherent.numbers other product value answers
  · rintro other product ⟨after, there, own, fills⟩
    rw [products]
    rcases cases_ there with ⟨rfl, rfl⟩ | old
    · rw [Function.update_self, ← own, same]
      exact filling fills
    · have before : Filling s other product := ⟨after, old, own, fills⟩
      obtain ⟨value, answers⟩ := filling_answers before
      rw [number answers]
      exact coherent.filling other product before
  · intro product entry present
    have present' : s.redis (productKey product) = some entry := redis ▸ present
    obtain ⟨⟨value, answers, text⟩, before⟩ := coherent.entries product entry present'
    refine ⟨⟨value, acts.keeps_answers inv answers, text⟩, ?_⟩
    rw [number answers]
    constructor
    · rintro other ⟨after, there, own, answer, past⟩
      rcases cases_ there with ⟨rfl, rfl⟩ | old
      · rw [Function.update_self]
        apply served past answer
        rwa [← same, own]
      · have old_ : Served s other product := ⟨after, old, own, answer, past⟩
        obtain ⟨_, answers'⟩ := served_answers old_
        rw [number answers']
        exact before.served other old_
    · intro other k deleted
      rcases acts.deletes inv deleted with old | gone
      · exact before.deleted other k old
      · rw [present] at gone
        cases gone
  · exact fun other product value answers => number answers
  · rintro other product value ⟨after, there, own, answer⟩
    rcases cases_ there with ⟨rfl, rfl⟩ | old
    · right
      rw [Function.update_self, ← own, same]
      exact newest (by simp [answer])
    · exact Or.inl ⟨value, after, old, own, answer⟩

/-- Nobody has seen more than the row. -/
theorem Coherent.latest (coherent : Coherent version s) (inv : ProductInv s) (id : Int) :
    Newest version s id ((s.products id).length - 1) where
  served call served := by
    obtain ⟨value, answers⟩ := served_answers served
    obtain ⟨product, held, _⟩ := coherent.numbers call id value answers
    have below := Versions.value_lt held
    omega
  deleted call k deleted := by
    obtain ⟨update, found, rfl, _, committed⟩ := deleted
    obtain ⟨product, held, _⟩ := (inv.updates call update found).version k committed
    have below := Versions.value_lt held
    omega

/-- A call that fills the cache writes the latest version. -/
theorem Coherent.filled (coherent : Coherent version s) (inv : ProductInv s)
    {find : FindCall} {product : Product} (found : s.finds[call]? = some find)
    (suspended : find.pc = .setting product)
    (acts : Acts s (.findSettles call .ok) s') (filled : s' = { s with
      redis := ExpiringStore.set s.redis s.now (productKey find.id)
        ⟨.stringify product.toJson, call⟩ 60000
      finds := s.finds.set call { find with pc := .stored product, filled := some (stamp s) }
      moment := s.moment + 1 }) :
    Coherent version s' ∧ Extends version version s s' := by
  have answers_iff (other : Nat) (id : Int) (value : Json) :
      Answers s' other id value ↔ Answers s other id value := by
    refine answers_set ⟨find.id, .stored product, find.begun, find.read, some (stamp s)⟩ found rfl
      ?_ (by rw [filled]) other id value
    rw [suspended]
    rfl
  have fills : Filling s call find.id := ⟨find, found, rfl, by rw [suspended]; rfl⟩
  have latest := coherent.filling call find.id fills
  have old {other : Nat} {id : Int} (served : Served s' other id) :
      other = call ∨ Served s other id := by
    obtain ⟨after, there, own, answered, past⟩ := served
    rw [filled] at there
    rcases Registry.of_set there with ⟨rfl, _⟩ | ⟨_, old⟩
    · exact Or.inl rfl
    · exact Or.inr ⟨after, old, own, answered, past⟩
  have products : s'.products = s.products := by rw [filled]
  have redis : s'.redis = ExpiringStore.set s.redis s.now (productKey find.id)
      ⟨.stringify product.toJson, call⟩ 60000 := by rw [filled]
  constructor
  · constructor
    · intro other id value answers
      rw [products]
      exact coherent.numbers other id value ((answers_iff other id value).mp answers)
    · rintro other id ⟨after, there, own, filling⟩
      rw [filled] at there
      rw [products]
      rcases Registry.of_set there with ⟨_, rfl⟩ | ⟨_, before⟩
      · cases filling
      · exact coherent.filling other id ⟨after, before, own, filling⟩
    · intro id entry present
      by_cases same : id = find.id
      · -- the new entry
        subst same
        rw [redis, ExpiringStore.set_self] at present
        cases present
        have answers : Answers s call find.id product.toJson := ⟨find, found, rfl, by
          rw [suspended]; rfl⟩
        refine ⟨⟨_, (answers_iff call find.id _).mpr answers, rfl⟩, ?_⟩
        constructor
        · intro other served
          rcases old served with rfl | before
          · exact Nat.le_refl _
          · have below := (coherent.latest inv find.id).served other before
            simp only
            omega
        · intro other k deleted
          rw [filled] at deleted
          have below := (coherent.latest inv find.id).deleted other k deleted
          simp only
          omega
      · rw [redis, ExpiringStore.set_of_ne _ _ _ _ _ fun h => same (productKey_inj.mp h)]
          at present
        obtain ⟨⟨value, answers, text⟩, newest⟩ := coherent.entries id entry present
        refine ⟨⟨value, (answers_iff _ _ _).mpr answers, text⟩, ?_⟩
        constructor
        · intro other served
          rcases old served with rfl | before
          · obtain ⟨after, there, own, _⟩ := served
            rw [filled] at there
            cases (Registry.set_self found).symm.trans there
            exact absurd own.symm same
          · exact newest.served other before
        · intro other k deleted
          rw [filled] at deleted
          exact newest.deleted other k deleted
  · constructor
    · exact fun _ _ _ _ => rfl
    · exact fun other id value answers => Or.inl ⟨value, (answers_iff other id value).mp answers⟩

/-- Other calls are not touched when one is replaced that holds the same. -/
theorem unaltered_set {find find' : FindCall} (found : s.finds[call]? = some find)
    (finds : s'.finds = s.finds.set call find') (same : find'.id = find.id)
    (answer : find'.pc.answer? = find.pc.answer?)
    (fills : find'.pc.filling = find.pc.filling) : Unaltered s s' := by
  intro other after there
  rw [finds] at there
  rcases Registry.of_set there with ⟨rfl, rfl⟩ | ⟨_, old⟩
  · exact Or.inr ⟨find, found, same, answer, fills⟩
  · exact Or.inr ⟨after, old, rfl, rfl, rfl⟩

theorem unaltered_of_finds (finds : s'.finds = s.finds) : Unaltered s s' :=
  fun _ after there => Or.inr ⟨after, finds ▸ there, rfl, rfl, rfl⟩

/-- One step of a run without straddled commits. -/
theorem Coherent.step (coherent : Coherent version s) (inv : ProductInv s)
    (permitted : unstraddled s a) (acts : Acts s a s') :
    ∃ version', Coherent version' s' ∧ Extends version version' s s' := by
  have entries (redis : s'.redis = s.redis) (id : Int) (entry : Expiring CachedProduct)
      (present : s'.redis (productKey id) = some entry) : s.redis (productKey id) = some entry :=
    redis ▸ present
  have kept := acts
  cases acts with
  | ticked elapsed | updateBegan product price | updateFailed call update result found
  | updateResumed call update pc found | updateReturned call update product found =>
    exact ⟨version, coherent.unaltered inv kept (unaltered_of_finds rfl) (fun _ _ _ => rfl)
      (entries rfl)⟩
  | invalidated call update product result found suspended =>
    refine ⟨version, coherent.unaltered inv kept (unaltered_of_finds rfl) (fun _ _ _ => rfl) ?_⟩
    intro id entry present
    simp only [RedisService.del] at present
    split at present
    · by_cases same : update.id = id
      · subst same
        rw [ExpiringStore.del_self] at present
        cases present
      · rwa [ExpiringStore.del_of_ne _ _ fun h => same (productKey_inj.mp h).symm] at present
    · exact present
  | committed call update product result found suspended row applied =>
    refine ⟨version, coherent.unaltered inv kept (unaltered_of_finds rfl) ?_ (entries rfl)⟩
    rintro other id ⟨find, there, same, filling⟩
    -- a call that is about to fill the cache would be straddled
    have none_ := permitted.2 update found suspended find (List.mem_of_getElem? there)
    by_cases here : id = update.id
    · cases (none_ (same.trans here)).symm.trans filling
    · simp only [ne_eq, here, not_false_eq_true, Function.update_of_ne]
  | findBegan product =>
    refine ⟨version, coherent.unaltered inv kept ?_ (fun _ _ _ => rfl) (entries rfl)⟩
    intro other after there
    rcases Registry.of_added there with old | ⟨_, rfl⟩
    · exact Or.inr ⟨after, old, rfl, rfl, rfl⟩
    · exact Or.inl rfl
  | findResumed call find pc found resumed =>
    have same := (inv.finds call find found).stage.resumed resumed
    exact ⟨version, coherent.unaltered inv kept
      (unaltered_set found rfl rfl same.1 same.2) (fun _ _ _ => rfl) (entries rfl)⟩
  | got call find result found suspended =>
    have unanswered : find.pc.answer? = none := by
      rw [suspended]
      rfl
    obtain rfl : result = .ok := permitted
    cases hit : s.redis.live s.now (productKey find.id) with
    | none =>
      apply coherent.answered inv kept found unanswered rfl rfl 0 rfl rfl
      all_goals simp [RedisService.get, ExpiringStore.get, hit, FindPc.answer?, FindPc.filling]
    | some entry =>
      obtain ⟨present, _⟩ := ExpiringStore.live_eq_some_iff.mp hit
      obtain ⟨⟨value, answers, text⟩, newest⟩ := coherent.entries find.id entry present
      apply coherent.answered inv kept found unanswered rfl rfl (version entry.value.writer) rfl rfl
      · intro answer same
        simp only [RedisService.get, ExpiringStore.get, hit, Option.map_some, FindPc.answer?] at same
        cases text.symm.trans same
        exact coherent.numbers _ _ _ answers
      · intro fills
        cases fills
      · intro _ _ other there
        cases present.symm.trans there
        exact Nat.le_refl _
      · exact fun _ => newest
  | read call find result found suspended =>
    have unanswered : find.pc.answer? = none := by
      rw [suspended]
      rfl
    obtain rfl : result = .ok := permitted
    cases row : (s.products find.id).latest with
    | none =>
      apply coherent.answered inv kept found unanswered rfl rfl 0 rfl rfl
      all_goals simp [PrismaProductRepository.findById, row, CallResult.settle, FindPc.answer?,
        FindPc.filling]
    | some product =>
      have filled : 0 < (s.products find.id).length := Nat.lt_of_le_of_lt (Nat.zero_le _)
        (Versions.value_lt row)
      apply coherent.answered inv kept found unanswered rfl rfl
        ((s.products find.id).length - 1) rfl rfl
      · intro answer same
        simp only [PrismaProductRepository.findById, row, CallResult.settle, FindPc.answer?] at same
        cases same
        exact ⟨product, row, rfl⟩
      · intro _
        omega
      · intro unfilled
        simp [PrismaProductRepository.findById, row, CallResult.settle, FindPc.filling] at unfilled
      · exact fun _ => coherent.latest inv find.id
  | filled call find product result found suspended =>
    obtain rfl : result = .ok := permitted
    exact ⟨version, coherent.filled inv found suspended kept rfl⟩

/-- What has ended in `t` has ended in `s`, and is the same there. -/
structure Ended (t s : ProductState) : Prop where
  returned : ∀ call id value, Returned t call id value → Returned s call id value
  updated : ∀ call id k, UpdateReturned t call → Committed t call id k →
    UpdateReturned s call ∧ Committed s call id k
  finds : t.finds.length ≤ s.finds.length
  updates : t.updates.length ≤ s.updates.length

theorem Ended.trans {u : ProductState} (earlier : Ended t s) (later : Ended s u) : Ended t u where
  returned call id value returned := later.returned call id value (earlier.returned _ _ _ returned)
  updated call id k returned committed := by
    obtain ⟨returned', committed'⟩ := earlier.updated call id k returned committed
    exact later.updated call id k returned' committed'
  finds := Nat.le_trans earlier.finds later.finds
  updates := Nat.le_trans earlier.updates later.updates

theorem Acts.ended (acts : Acts s a s') : Ended s s' := by
  -- a call that goes on has not returned
  have finds {mover : Nat} {before after : FindCall} (present : s.finds[mover]? = some before)
      (running : ∀ value, before.pc ≠ .returned value) (same : s'.finds = s.finds.set mover after)
      (call : Nat) (id : Int) (value : Json) (returned : Returned s call id value) :
      Returned s' call id value := by
    obtain ⟨find, found, own, done⟩ := returned
    by_cases moved : call = mover
    · subst moved
      cases present.symm.trans found
      exact absurd done (running value)
    · exact ⟨find, same ▸ (Registry.set_other moved).trans found, own, done⟩
  have updates {mover : Nat} {before after : UpdateCall}
      (present : s.updates[mover]? = some before)
      (running : ∀ product, before.pc ≠ .returned product)
      (same : s'.updates = s.updates.set mover after) (call : Nat) (id : Int) (k : Nat)
      (returned : UpdateReturned s call) (committed : Committed s call id k) :
      UpdateReturned s' call ∧ Committed s' call id k := by
    obtain ⟨update, product, found, done⟩ := returned
    obtain ⟨_, found', own, noted⟩ := committed
    cases found.symm.trans found'
    by_cases moved : call = mover
    · subst moved
      cases present.symm.trans found
      exact absurd done (running product)
    · have still := same ▸ (Registry.set_other moved).trans found
      exact ⟨⟨update, product, still, done⟩, update, still, own, noted⟩
  cases acts with
  | ticked elapsed =>
    exact ⟨fun _ _ _ r => r, fun _ _ _ r c => ⟨r, c⟩, Nat.le_refl _, Nat.le_refl _⟩
  | findBegan product =>
    refine ⟨?_, fun _ _ _ r c => ⟨r, c⟩, by simp, Nat.le_refl _⟩
    rintro call id value ⟨find, found, own, done⟩
    exact ⟨find, Registry.added_of found, own, done⟩
  | updateBegan product price =>
    refine ⟨fun _ _ _ r => r, ?_, Nat.le_refl _, by simp⟩
    rintro call id k ⟨update, product, found, done⟩ ⟨update', found', own, noted⟩
    exact ⟨⟨update, product, Registry.added_of found, done⟩,
      update', Registry.added_of found', own, noted⟩
  | got mover before result present suspended | read mover before result present suspended
  | filled mover before product result present suspended =>
    refine ⟨finds present ?_ rfl, fun _ _ _ r c => ⟨r, c⟩, by simp, Nat.le_refl _⟩
    simp [suspended]
  | findResumed mover before pc present resumed =>
    refine ⟨finds present ?_ rfl, fun _ _ _ r c => ⟨r, c⟩, by simp, Nat.le_refl _⟩
    intro value done
    rw [done] at resumed
    cases resumed
  | committed mover before product result present suspended
  | updateFailed mover before result present suspended
  | invalidated mover before product result present suspended
  | updateReturned mover before product present suspended =>
    refine ⟨fun _ _ _ r => r, updates present ?_ rfl, Nat.le_refl _, by simp⟩
    simp [suspended]
  | updateResumed mover before pc present resumed =>
    refine ⟨fun _ _ _ r => r, updates present ?_ rfl, Nat.le_refl _, by simp⟩
    intro product done
    rw [done] at resumed
    cases resumed

theorem Returned.answers (returned : Returned s call id value) : Answers s call id value := by
  obtain ⟨find, found, own, done⟩ := returned
  exact ⟨find, found, own, by rw [done]; rfl⟩

theorem Returned.served (returned : Returned s call id value) : Served s call id := by
  obtain ⟨find, found, own, done⟩ := returned
  exact ⟨find, found, own, by simp [done, FindPc.answer?], by rw [done]; rfl⟩

/-- In the state it is in, nothing has begun after it. -/
theorem InOrder.now : InOrder version s s where
  reads call call' id value value' _ late answers := by
    obtain ⟨find, found, _⟩ := answers
    exact absurd (Registry.lt_of_found found) (Nat.not_lt.mpr late)
  readThenUpdate call call' id value k _ late committed := by
    obtain ⟨update, found, _⟩ := committed
    exact absurd (Registry.lt_of_found found) (Nat.not_lt.mpr late)
  updateThenRead call call' id k value _ _ late answers := by
    obtain ⟨find, found, _⟩ := answers
    exact absurd (Registry.lt_of_found found) (Nat.not_lt.mpr late)
  updates call call' id k k' _ _ late committed := by
    obtain ⟨update, found, _⟩ := committed
    exact absurd (Registry.lt_of_found found) (Nat.not_lt.mpr late)

theorem InOrder.step (order : InOrder version t s) (ended : Ended t s)
    (coherent : Coherent version s) (inv : ProductInv s) (invalidated : InvalidatedInv s)
    (numbered : Extends version version' s s') (acts : Acts s a s') : InOrder version' t s' where
  reads call call' id value value' returned late answers := by
    have still := ended.returned call id value returned
    rw [numbered.kept call id value still.answers]
    rcases numbered.fresh call' id value' answers with ⟨earlier, old⟩ | newest
    · rw [numbered.kept call' id earlier old]
      exact order.reads call call' id value earlier returned late old
    · exact newest.served call still.served
  readThenUpdate call call' id value k returned late committed := by
    have still := ended.returned call id value returned
    rw [numbered.kept call id value still.answers]
    rcases acts.commits committed with old | rfl
    · exact order.readThenUpdate call call' id value k returned late old
    · obtain ⟨product, held, _⟩ := coherent.numbers call id value still.answers
      exact Versions.value_lt held
  updateThenRead call call' id k value returned committed late answers := by
    rcases numbered.fresh call' id value answers with ⟨earlier, old⟩ | newest
    · rw [numbered.kept call' id earlier old]
      exact order.updateThenRead call call' id k earlier returned committed late old
    · -- it had emptied the entry when it returned
      obtain ⟨⟨update, product, found, done⟩, update', found', own, noted⟩ :=
        ended.updated call id k returned committed
      cases found.symm.trans found'
      apply newest.deleted call k
      refine ⟨update, found, own, ?_, noted⟩
      rcases invalidated call update found (by rw [done]; rfl) with deleted | rejected
      · exact deleted
      · cases done.symm.trans rejected
  updates call call' id k k' returned committed late committed' := by
    rcases acts.commits committed' with old | rfl
    · exact order.updates call call' id k k' returned committed late old
    · obtain ⟨_, update, found, rfl, noted⟩ := ended.updated call id k returned committed
      obtain ⟨product, held, _⟩ := (inv.updates call update found).version k noted
      exact Versions.value_lt held

theorem callsSucceed_of_unstraddled (s : ProductState) (a : ProductAction)
    (permitted : unstraddled s a) : callsSucceed s a := by
  cases a with
  | findSettles call result => exact permitted
  | updateSettles call result => exact permitted.1
  | _ => trivial

/-- **Atomic cached reads.** In a run in which every call succeeds and no price is committed between
the read of a `findById` of the product and its fill, the calls can be numbered by versions: each
returns the version of its number, and a `findById` or `updatePrice` that begins after another one
of that product has returned has no smaller number than it (an update a greater one). So the cached
product cannot be told from a register that is read and written at one instant. -/
theorem cached_reads_atomic (seed : Int → Option (String × Int))
    (past : List (ProductState × ProductAction)) (s : ProductState)
    (run : (system seed).Run unstraddled past s) :
    ∃ version : Nat → Nat, Numbers version s ∧
      ∀ (t : ProductState) (a : ProductAction), (t, a) ∈ past → InOrder version t s := by
  suffices history : ∃ version : Nat → Nat, Coherent version s ∧
      ∀ (t : ProductState) (a : ProductAction), (t, a) ∈ past → InOrder version t s ∧ Ended t s by
    obtain ⟨version, coherent, before⟩ := history
    exact ⟨version, coherent.numbers, fun t a member => (before t a member).1⟩
  apply run.numbered
  · rintro s rfl
    refine ⟨fun _ => 0, ⟨?_, ?_, ?_⟩, fun t a member => absurd member List.not_mem_nil⟩
    · rintro call id value ⟨find, found, _⟩
      cases found
    · rintro call id ⟨find, found, _⟩
      cases found
    · intro id entry present
      cases present
  · rintro past s a s' version before ⟨coherent, earlier⟩ permitted taken
    have acts := step_acts taken
    have reachable := before.reachable
    have inv := product_invariant reachable
    have invalidated := invalidated_invariant (reachable.mono callsSucceed_of_unstraddled)
    obtain ⟨version', coherent', numbered⟩ := coherent.step inv permitted acts
    refine ⟨version', coherent', ?_⟩
    intro t b member
    rcases List.mem_cons.mp member with latest | old
    · cases latest
      exact ⟨InOrder.now.step ⟨fun _ _ _ r => r, fun _ _ _ r c => ⟨r, c⟩, Nat.le_refl _,
        Nat.le_refl _⟩ coherent inv invalidated numbered acts, acts.ended⟩
    · obtain ⟨order, ended⟩ := earlier t b old
      exact ⟨order.step ended coherent inv invalidated numbered acts, ended.trans acts.ended⟩

/-- A test for `unstraddled`. -/
def unstraddledTest (s : ProductState) : ProductAction → Bool
  | .findSettles _ result => decide (result = .ok)
  | .updateSettles call result =>
    decide (result = .ok) && ((s.updates[call]?).all fun update =>
      s.finds.all fun find => !(decide (find.id = update.id) && find.pc.filling))
  | _ => true

theorem unstraddledTest_sound (s : ProductState) (a : ProductAction)
    (passed : unstraddledTest s a = true) : unstraddled s a := by
  cases a with
  | findSettles call result =>
    have ok : result = .ok := by simpa [unstraddledTest] using passed
    exact ok
  | updateSettles call result =>
    simp only [unstraddledTest, Bool.and_eq_true, decide_eq_true_eq] at passed
    refine ⟨passed.1, ?_⟩
    intro update found _ find member same
    have apart := passed.2
    rw [found, Option.all_some, List.all_eq_true] at apart
    simpa [same] using apart find member
  | _ => trivial

/-- The first call fills the entry, the second one finds it between the commit of the update and its
`del`, the third one reads the row after that. -/
def threeReaders : ProductState :=
  after unstraddledTest (readRow 0 ++ [.findSettles 0 .ok, .findResumes 0] ++
    [.updatePrice 1 200, .updateSettles 0 .ok, .updateResumes 0] ++
    [.findById 1, .findSettles 1 .ok, .findResumes 1] ++
    [.updateSettles 0 .ok, .updateResumes 0] ++
    readRow 2 ++ [.findSettles 2 .ok, .findResumes 2])

theorem threeReaders_atomic :
    threeReaders.finds.map (·.pc) =
      [.returned (Product.toJson ⟨1, "a", 100⟩), .returned (Product.toJson ⟨1, "a", 100⟩),
        .returned (Product.toJson ⟨1, "a", 200⟩)] ∧
    ∃ past, (system oneProduct).Run unstraddled past threeReaders ∧
      ∃ version : Nat → Nat, Numbers version threeReaders ∧
        ∀ (t : ProductState) (a : ProductAction), (t, a) ∈ past →
          InOrder version t threeReaders := by
  have reachable : (system oneProduct).Reachable unstraddled threeReaders :=
    after_reachable unstraddledTest_sound _
  obtain ⟨past, run⟩ := reachable.run
  exact ⟨by decide +kernel, past, run, cached_reads_atomic oneProduct past _ run⟩

end ProductService

end FlashSaleLab

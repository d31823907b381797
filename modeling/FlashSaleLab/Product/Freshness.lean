import FlashSaleLab.Product.Cache

/-!
# How old a returned product can be

A product that `findById` returns is one committed version of its row. With fills that reach Redis
within `D` of their read it was superseded at most `D` and the 60 s of an entry before the call
began. Right after an update a call may still see an older version, but only from an entry that a
slow reader filled after the update's invalidation.
-/
namespace FlashSaleLab.ProductService

/-- No condition on the steps of a run. -/
def anyStep (_ : ProductState) (_ : ProductAction) : Prop := True

/-- A fill takes effect at most `D` after the read it stores. -/
def fillsWithin (D : Time) (s : ProductState) : ProductAction → Prop
  | .findSettles call result => ∀ find product i read, s.finds[call]? = some find →
      find.pc = .setting product → result.applied = true → find.read = some (i, read) →
      s.now ≤ read.time + D
  | _ => True

/-- Every Redis and database call succeeds. -/
def callsSucceed (_ : ProductState) : ProductAction → Prop
  | .findSettles _ result => result = .ok
  | .updateSettles _ result => result = .ok
  | _ => True

instance (s : ProductState) (a : ProductAction) : Decidable (callsSucceed s a) :=
  match a with
  | .findSettles _ result => inferInstanceAs (Decidable (result = .ok))
  | .updateSettles _ result => inferInstanceAs (Decidable (result = .ok))
  | .tick _ | .findById _ | .updatePrice _ _ | .findResumes _ | .updateResumes _ =>
    inferInstanceAs (Decidable True)

/-- A test for `fillsWithin`: no call of `findById` ends later than `D` after its read. -/
def timely (D : Time) (s : ProductState) : ProductAction → Bool
  | .findSettles call _ =>
    match (s.finds[call]?).bind (·.read) with
    | some (_, read) => decide (s.now ≤ read.time + D)
    | none => true
  | _ => true

/-- Product 1 costs 100. -/
def oneProduct (id : Int) : Option (String × Int) := if id = 1 then some ("a", 100) else none

/-- The state after those of the actions that are possible and pass the test. -/
def after (check : ProductState → ProductAction → Bool) (actions : List ProductAction) :
    ProductState :=
  (system oneProduct).play check (initial oneProduct) actions

/-- A call of `findById` that reads the row and stands before its fill. -/
def readRow (call : Nat) : List ProductAction :=
  [.findById 1, .findSettles call .ok, .findResumes call, .findSettles call .ok,
    .findResumes call]

/-- An `updatePrice` from 100 to 200, from its call to its end. -/
def updateRow : List ProductAction :=
  [.updatePrice 1 200, .updateSettles 0 .ok, .updateResumes 0, .updateSettles 0 .ok,
    .updateResumes 0]

/-- A call that begins after the update has returned. -/
def quickReader : List ProductAction :=
  updateRow ++ readRow 0 ++ [.findSettles 0 .ok, .findResumes 0]

/-- A call that reads before the update and fills after it, and one that begins after that. -/
def slowReader : List ProductAction :=
  readRow 0 ++ updateRow ++ [.findSettles 0 .ok, .findById 1, .findSettles 1 .ok, .findResumes 1]

variable {seed : Int → Option (String × Int)} {s s' : ProductState} {a : ProductAction}

theorem timely_sound {D : Time} (passed : timely D s a = true) : fillsWithin D s a := by
  cases a with
  | findSettles call result =>
    intro find product i read found _ _ noted
    simpa [timely, found, noted] using passed
  | _ => trivial

theorem after_reachable {check : ProductState → ProductAction → Bool}
    {allowed : ProductState → ProductAction → Prop}
    (sound : ∀ s a, check s a = true → allowed s a) (actions : List ProductAction) :
    (system oneProduct).Reachable allowed (after check actions) :=
  Transition.System.play_reachable check sound (.init rfl) actions

/-- Every version of a row has the row's id and name. -/
def RowsInv (seed : Int → Option (String × Int)) (s : ProductState) : Prop :=
  ∀ id i product, (s.products id).value i = some product →
    product.id = id ∧ ∃ price, seed id = some (product.name, price)

theorem RowsInv.step (inv : RowsInv seed s) (acts : Acts s a s') : RowsInv seed s' := by
  cases acts with
  | committed call update product result found suspended row =>
    intro id i product' value
    by_cases same : id = update.id
    · subst same
      simp only [Function.update_self] at value
      rcases Nat.lt_or_ge i (s.products update.id).length with old | new
      · have present : (s.products update.id).value i = some product' := by
          unfold Versions.value Versions.commit at *
          rwa [List.getElem?_append_left old] at value
        exact inv _ i product' present
      · -- the new version differs from the last one in the price only
        have last : i = (s.products update.id).length := by
          have := Versions.value_lt value
          simp only [Versions.commit, List.length_append, List.length_singleton] at this
          omega
        subst last
        rw [Versions.value_commit_self] at value
        cases value
        exact inv _ _ product row
    · simp only [Function.update_of_ne same] at value
      exact inv id i product' value
  | _ => exact inv

theorem rows_invariant {allowed : ProductState → ProductAction → Prop}
    (reachable : (system seed).Reachable allowed s) : RowsInv seed s := by
  refine reachable.invariant ?_ ?_
  · rintro s rfl id i product value
    simp only [initial] at value
    split at value
    next name price seeded =>
      cases i with
      | zero =>
        cases value
        exact ⟨rfl, price, seeded⟩
      | succ i => cases value
    · cases value
  · intro s a s' _ inv _ taken
    exact inv.step (step_acts taken)

/-- Every fill so far took effect within `D` of its read. -/
def FillsInv (D : Time) (s : ProductState) : Prop :=
  ∀ (call : Nat) (find : FindCall), s.finds[call]? = some find → ∀ i read filled,
    find.read = some (i, read) → find.filled = some filled → filled.time ≤ read.time + D

theorem FillsInv.step {D : Time} (product : ProductInv s) (inv : FillsInv D s)
    (within : fillsWithin D s a) (acts : Acts s a s') : FillsInv D s' := by
  intro call find found
  cases acts with
  | findBegan id =>
    rcases Registry.of_added found with old | ⟨_, rfl⟩
    · exact inv call find old
    · intro i read filled noted
      cases noted
  | got mover before result present | findResumed mover before pc present =>
    rcases Registry.of_set found with ⟨rfl, rfl⟩ | ⟨_, old⟩
    · exact inv call before present
    · exact inv call find old
  | read mover before result present suspended =>
    rcases Registry.of_set found with ⟨rfl, rfl⟩ | ⟨_, old⟩
    · -- it has not filled yet
      have unfilled := (product.finds call before present).unfilled (by rw [suspended]; rfl)
      intro i read filled _ stored
      cases unfilled.symm.trans stored
    · exact inv call find old
  | filled mover before held result present suspended =>
    rcases Registry.of_set found with ⟨rfl, rfl⟩ | ⟨_, old⟩
    · intro i read filled noted stored
      simp only at noted stored
      split at stored
      next applied =>
        cases stored
        exact within before held i read present suspended applied noted
      · exact inv call before present i read filled noted stored
    · exact inv call find old
  | _ => exact inv call find found

theorem fills_invariant {D : Time} (reachable : (system seed).Reachable (fillsWithin D) s) :
    FillsInv D s := by
  refine reachable.invariant ?_ ?_
  · rintro s rfl call find found
    simp [initial] at found
  · intro s a s' before inv within taken
    exact inv.step (product_invariant before) within (step_acts taken)

/-- When the version a call returns had been superseded. -/
theorem FillsInv.stale {D : Time} (fills : FillsInv D s) (inv : ProductInv s) {find : FindCall}
    (call : FindInv s find) {i superseded : Nat}
    (source : (∃ read, find.read = some (i, read)) ∨ Cached s find.id find.begun i)
    (ended : (s.products find.id).supersededAt i = some superseded) :
    find.begun.time ≤ superseded + D + 60000 := by
  rcases source with ⟨read, noted⟩ | ⟨filler, read, filled, by_⟩
  · -- it read the row itself, after it began
    have own := call.read i read noted
    obtain ⟨product, seen⟩ := own.seen
    calc find.begun.time ≤ read.time := own.began
      _ ≤ superseded := seen.current superseded ended
      _ ≤ superseded + D + 60000 := by omega
  · -- it found what another call had read, stored at most `D` later and at most 60 s before
    obtain ⟨position, at_⟩ := List.getElem?_of_mem by_.found
    have other := (inv.finds position filler at_).read i read by_.seen
    rw [by_.same] at other
    obtain ⟨product, seen⟩ := other.seen
    calc find.begun.time ≤ filled.time + 60000 := Nat.le_of_lt by_.fresh
      _ ≤ read.time + D + 60000 := Nat.add_le_add_right
          (fills position filler at_ i read filled by_.seen by_.stored) 60000
      _ ≤ superseded + D + 60000 := Nat.add_le_add_right
          (Nat.add_le_add_right (seen.current superseded ended) D) 60000

/-- **Bounded staleness and integrity.** A product that `findById` returns is one committed version
of the row with that id, and in a run whose fills reach Redis within `D` of their reads that version
had not been superseded for longer than `D` and 60 s when the call began. `findById` rejects only
because there is no row or the database failed. -/
theorem cached_product_bounded (seed : Int → Option (String × Int)) (D : Time) (s : ProductState)
    (reachable : (system seed).Reachable anyStep s) (call : Nat) (find : FindCall)
    (found : s.finds[call]? = some find) :
    (∀ value, find.pc = .returned value → ∃ i product,
      (s.products find.id).value i = some product ∧ product.id = find.id ∧
      value = product.toJson ∧
      ((system seed).Reachable (fillsWithin D) s → ∀ superseded,
        (s.products find.id).supersededAt i = some superseded →
        find.begun.time ≤ superseded + D + 60000)) ∧
    ∀ error, find.pc = .rejected error →
      error = .notFoundException "상품을 찾을 수 없습니다." ∨ error = .database := by
  have inv := product_invariant reachable
  have rows := rows_invariant reachable
  have own := inv.finds call find found
  constructor
  · intro value returned
    cases own.stage with
    | returned i product here committed source =>
      refine ⟨i, product, committed, (rows find.id i product committed).1, ?_, ?_⟩
      · cases returned.symm.trans here
        rfl
      · intro timely superseded ended
        exact (fills_invariant timely).stale inv own source ended
    | empty unread => simp [returned] at unread
    | row i product read here => simp [returned] at here
    | hit i product here | rejected error here => cases here.symm.trans returned
  · intro error rejected
    cases own.stage with
    | rejected known here either =>
      cases rejected.symm.trans here
      exact either
    | empty unread => simp [rejected] at unread
    | row i product read here => simp [rejected] at here
    | hit i product here | returned i product here => cases here.symm.trans rejected

/-- The call that begins after the update returns 200, the version that is still current. -/
theorem quickReader_bounded : ∃ find i product,
    (after (timely 0) quickReader).finds[0]? = some find ∧
    find.pc = .returned (Product.toJson ⟨1, "a", 200⟩) ∧
    ((after (timely 0) quickReader).products find.id).value i = some product ∧
    find.pc = .returned product.toJson ∧
    ∀ superseded, ((after (timely 0) quickReader).products find.id).supersededAt i =
      some superseded → find.begun.time ≤ superseded + 0 + 60000 := by
  have ended : ((after (timely 0) quickReader).finds[0]?).map (·.pc) =
      some (.returned (Product.toJson ⟨1, "a", 200⟩)) := by
    decide +kernel
  obtain ⟨find, found, returned⟩ := Option.map_eq_some_iff.mp ended
  have reachable : (system oneProduct).Reachable (fillsWithin 0) (after (timely 0) quickReader) :=
    after_reachable (fun _ _ => timely_sound) quickReader
  obtain ⟨i, product, value, _, same, bounded⟩ := (cached_product_bounded oneProduct 0 _
    (after_reachable (fun _ _ _ => trivial) quickReader) 0 find found).1 _ returned
  exact ⟨find, i, product, found, returned, value, returned.trans (congrArg _ same),
    bounded reachable⟩

/-- The entry in which `find` found version `i` was written by a call that had read the row before
version `k` was committed, and that filled the entry after the invalidation at `deleted`. -/
def StaleFill (s : ProductState) (find : FindCall) (i k : Nat) (deleted : Stamp) : Prop :=
  i < k ∧ ∃ filler read filled, FilledBy s find.id find.begun i filler read filled ∧
    deleted.moment < filled.moment

/-- An update past its `del` has invalidated the entry. -/
def InvalidatedInv (s : ProductState) : Prop :=
  ∀ (call : Nat) (update : UpdateCall), s.updates[call]? = some update →
    update.pc.undeleted = false → update.deleted ≠ none ∨ update.pc = .rejected

theorem InvalidatedInv.step (inv : InvalidatedInv s) (success : callsSucceed s a)
    (acts : Acts s a s') : InvalidatedInv s' := by
  intro call update found
  cases acts with
  | updateBegan id price =>
    rcases Registry.of_added found with old | ⟨_, rfl⟩
    · exact inv call update old
    · intro here
      cases here
  | committed mover before product result present | updateFailed mover before result present =>
    rcases Registry.of_set found with ⟨rfl, rfl⟩ | ⟨_, old⟩
    · intro here
      cases here
    · exact inv call update old
  | invalidated mover before product result present =>
    rcases Registry.of_set found with ⟨rfl, rfl⟩ | ⟨_, old⟩
    · -- every `del` succeeds in this run
      cases success
      exact fun _ => Or.inl (by simp [CallResult.applied])
    · exact inv call update old
  | updateResumed mover before pc present resumed open_ =>
    rcases Registry.of_set found with ⟨rfl, rfl⟩ | ⟨_, old⟩
    · cases here : before.pc with
      | updated reply =>
        rw [here] at resumed
        cases reply with
        | resolved product =>
          cases resumed
          intro past
          cases past
        | rejected =>
          cases resumed
          exact fun _ => Or.inr rfl
      | deleted product =>
        rw [here] at resumed
        cases resumed
        exact absurd rfl (open_ product)
      | _ =>
        rw [here] at resumed
        cases resumed
    · exact inv call update old
  | updateReturned mover before product present suspended =>
    rcases Registry.of_set found with ⟨rfl, rfl⟩ | ⟨_, old⟩
    · intro _
      rcases inv call before present (by rw [suspended]; rfl) with done | rejected
      · exact Or.inl done
      · cases suspended.symm.trans rejected
    · exact inv call update old
  | _ => exact inv call update found

theorem invalidated_invariant (reachable : (system seed).Reachable callsSucceed s) :
    InvalidatedInv s := by
  refine reachable.invariant ?_ ?_
  · rintro s rfl call update found
    simp [initial] at found
  · intro s a s' _ inv success taken
    exact inv.step success (step_acts taken)

/-- **Freshness after an update.** With every call succeeding, what a `findById` returns that began
after an `updatePrice` of the product had returned is the version that update committed or a later
one, unless it comes from an entry that a call which had read the row before the commit filled
after the update's `del`. -/
theorem fresh_after_update (seed : Int → Option (String × Int)) (s : ProductState)
    (reachable : (system seed).Reachable callsSucceed s) (update : UpdateCall)
    (member : update ∈ s.updates) (find : FindCall) (called : find ∈ s.finds)
    (same : find.id = update.id) (before : ReturnedBefore find.begun.moment update) (value : Json)
    (returned : find.pc = .returned value) :
    ∃ k written deleted i product, update.version = some k ∧
      (s.products update.id).value k = some written ∧ written.price = update.price ∧
      update.deleted = some deleted ∧ (s.products update.id).value i = some product ∧
      value = product.toJson ∧ (k ≤ i ∨ StaleFill s find i k deleted) := by
  have inv := product_invariant reachable
  obtain ⟨position, at_⟩ := List.getElem?_of_mem member
  have ended : ∃ product, update.pc = .returned product := by
    cases here : update.pc with
    | returned product => exact ⟨product, rfl⟩
    | _ =>
      have := (inv.updates position update at_).unreturned (by rw [here]; rfl)
      obtain ⟨stamp, noted, _⟩ := before
      cases this.symm.trans noted
  obtain ⟨answer, done⟩ := ended
  have committed := (inv.updates position update at_).committed (by rw [done]; rfl)
  obtain ⟨k, version⟩ := Option.ne_none_iff_exists'.mp committed
  obtain ⟨written, there, price⟩ := (inv.updates position update at_).version k version
  have invalidated : update.deleted ≠ none := by
    rcases invalidated_invariant reachable position update at_ (by rw [done]; rfl) with yes | no
    · exact yes
    · cases done.symm.trans no
  obtain ⟨deleted, gone⟩ := Option.ne_none_iff_exists'.mp invalidated
  obtain ⟨call, found⟩ := List.getElem?_of_mem called
  have own := inv.finds call find found
  cases own.stage with
  | returned i product here held source =>
    cases returned.symm.trans here
    rw [same] at held
    refine ⟨k, written, deleted, i, product, version, there, price, gone, held, rfl, ?_⟩
    rcases source with ⟨read, noted⟩ | ⟨filler, read, filled, by_⟩
    · exact Or.inl ((own.read i read noted).covers update member same.symm before k version)
    · rcases Nat.lt_or_ge i k with stale | current
      · right
        exact ⟨stale, filler, read, filled, by_,
          by_.after update member same.symm before deleted gone⟩
      · exact Or.inl current
  | empty unread => simp [returned] at unread
  | row i product read here => simp [returned] at here
  | hit i product here | rejected error here => cases here.symm.trans returned

/-- The update and the call that begins after it. -/
theorem quickReader_fresh : ∃ update find k i product,
    update ∈ (after (fun s a => decide (callsSucceed s a)) quickReader).updates ∧
    find ∈ (after (fun s a => decide (callsSucceed s a)) quickReader).finds ∧
    update.version = some k ∧ find.pc = .returned (Product.toJson ⟨1, "a", 200⟩) ∧
    ((after (fun s a => decide (callsSucceed s a)) quickReader).products update.id).value i =
      some product ∧
    Product.toJson ⟨1, "a", 200⟩ = product.toJson ∧
    (k ≤ i ∨ ∃ deleted, StaleFill (after (fun s a => decide (callsSucceed s a)) quickReader)
      find i k deleted) := by
  have ended : ((after (fun s a => decide (callsSucceed s a)) quickReader).finds[0]?).map
      (fun find => (find.pc, find.id, find.begun)) =
      some (.returned (Product.toJson ⟨1, "a", 200⟩), 1, ⟨5, 0⟩) := by
    decide +kernel
  have updated : ((after (fun s a => decide (callsSucceed s a)) quickReader).updates[0]?).map
      (fun update => (update.id, update.returned)) = some (1, some ⟨4, 0⟩) := by
    decide +kernel
  obtain ⟨find, found, same⟩ := Option.map_eq_some_iff.mp ended
  obtain ⟨update, present, done⟩ := Option.map_eq_some_iff.mp updated
  simp only [Prod.mk.injEq] at same done
  obtain ⟨returned, id, begun⟩ := same
  obtain ⟨of, stamp⟩ := done
  have before : ReturnedBefore find.begun.moment update := ⟨_, stamp, by rw [begun]; decide⟩
  obtain ⟨k, _, deleted, i, product, version, _, _, _, value, shown, fresh⟩ :=
    fresh_after_update oneProduct _ (after_reachable (fun _ _ => of_decide_eq_true) quickReader)
      update (List.mem_of_getElem? present) find (List.mem_of_getElem? found) (id.trans of.symm)
      before _ returned
  exact ⟨update, find, k, i, product, List.mem_of_getElem? present, List.mem_of_getElem? found,
    version, returned, value, shown, fresh.imp_right fun stale => ⟨deleted, stale⟩⟩

/-- A reader that is slower than the update: it fills the entry with the price of 100 after the
`del`, and the next call, which begins after the update has returned, returns it. -/
theorem slowReader_stale :
    ¬∀ (s : ProductState), (system oneProduct).Reachable callsSucceed s →
      ∀ update ∈ s.updates, ∀ find ∈ s.finds, find.id = update.id →
      ReturnedBefore find.begun.moment update → ∀ value, find.pc = .returned value →
      ∃ k i product, update.version = some k ∧
        (s.products update.id).value i = some product ∧ value = product.toJson ∧ k ≤ i := by
  intro claim
  have ended : ((after (fun s a => decide (callsSucceed s a)) slowReader).finds[1]?).map
      (fun find => (find.pc, find.id, find.begun)) =
      some (.returned (Product.toJson ⟨1, "a", 100⟩), 1, ⟨11, 0⟩) := by
    decide +kernel
  have updated : ((after (fun s a => decide (callsSucceed s a)) slowReader).updates[0]?).map
      (fun update => (update.id, update.returned, update.version)) =
      some (1, some ⟨9, 0⟩, some 1) := by
    decide +kernel
  have versions : ((after (fun s a => decide (callsSucceed s a)) slowReader).products 1).map
      (·.value) = [⟨1, "a", 100⟩, ⟨1, "a", 200⟩] := by
    decide +kernel
  obtain ⟨find, found, same⟩ := Option.map_eq_some_iff.mp ended
  obtain ⟨update, present, done⟩ := Option.map_eq_some_iff.mp updated
  simp only [Prod.mk.injEq] at same done
  obtain ⟨returned, id, begun⟩ := same
  obtain ⟨of, stamp, version⟩ := done
  have before : ReturnedBefore find.begun.moment update := ⟨_, stamp, by rw [begun]; decide⟩
  obtain ⟨k, i, product, committed, held, value, newer⟩ := claim _
    (after_reachable (fun _ _ => of_decide_eq_true) slowReader) update
    (List.mem_of_getElem? present) find (List.mem_of_getElem? found) (id.trans of.symm) before _
    returned
  cases version.symm.trans committed
  rw [of] at held
  unfold Versions.value at held
  rw [← List.getElem?_map, versions] at held
  -- only version 1 is that new, and it costs 200
  match i, held, newer with
  | 1, held, _ =>
    cases held
    revert value
    decide
  | i + 2, held, _ => cases held

end FlashSaleLab.ProductService

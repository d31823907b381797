import FlashSaleLab.Foundations.Linearizability
import FlashSaleLab.Sales.Stock

/-!
# Order creation is linearizable

The atomic specification looks at the stock once. Every call takes effect at the step at
which it finishes: a success when it commits, a rejection because the stock it saw can only
have shrunk since.
-/
namespace FlashSaleLab

open OrderService PrismaOrderUnitOfWork Linearizability Transition

/-- What a caller of the specification gets. -/
inductive SaleResult where
  | order (input : CreateOrderInput)
  | conflict
  deriving DecidableEq

/-- If the product has an inventory row with enough stock, take the quantity and return an
order; otherwise conflict and no change. -/
def atomicCreate (inventory : Int → Option Int) (input : CreateOrderInput) :
    (Int → Option Int) × SaleResult :=
  match inventory input.productId with
  | some stock =>
    if input.quantity ≤ stock then
      (Function.update inventory input.productId (some (stock - input.quantity)), .order input)
    else (inventory, .conflict)
  | none => (inventory, .conflict)

theorem atomicCreate_order {inventory : Int → Option Int} {input : CreateOrderInput} {left : Int}
    (row : inventory input.productId = some (left + input.quantity)) (nonneg : 0 ≤ left) :
    atomicCreate inventory input =
      (Function.update inventory input.productId (some left), .order input) := by
  simp [atomicCreate, row, nonneg]

theorem atomicCreate_conflict {inventory : Int → Option Int} {input : CreateOrderInput}
    (short : ∀ stock, inventory input.productId = some stock → stock < input.quantity) :
    atomicCreate inventory input = (inventory, .conflict) := by
  unfold atomicCreate
  split
  next stock row => exact if_neg (not_le.mpr (short stock row))
  · rfl

def SaleResult.isOrder : SaleResult → Bool
  | .order _ => true
  | .conflict => false

abbrev Sale : Type := Operation CreateOrderInput SaleResult

/-- How a call that ended with an order or with `ConflictException` looks from outside. -/
def CreateCall.sale? (call : CreateCall) : Option Sale :=
  match call.pc with
  | .finished (.created order) moment =>
    some ⟨call.input, .order order.toCreateOrderInput, call.begunAt, moment⟩
  | .finished .conflict moment => some ⟨call.input, .conflict, call.begunAt, moment⟩
  | _ => none

def State.sales (s : State) : List Sale := s.calls.filterMap CreateCall.sale?

/-- Calls finished so far, in finishing order, replay to the committed stock. -/
structure SalesOrder (stock : Int → Option Nat) (s : State) (order : List Sale) : Prop where
  complete : order.Perm s.sales
  sorted : order.Pairwise fun first second => first.finishedAt ≤ second.finishedAt
  proper : ∀ sale ∈ order, sale.begunAt ≤ sale.finishedAt
  past : ∀ sale ∈ order, sale.finishedAt < s.moment
  replays : Replays atomicCreate (State.initial stock).db.inventory order s.db.inventory

theorem filterMap_set_none {α β : Type} {f : α → Option β} {rows : List α} {i : Nat} {row new : α}
    (found : rows[i]? = some row) (same : f new = f row) :
    (rows.set i new).filterMap f = rows.filterMap f := by
  -- walk down to the row
  induction rows generalizing i with
  | nil => cases found
  | cons head rest ih =>
    cases i with
    | zero =>
      cases found
      simp [List.filterMap_cons, same]
    | succ i => simp only [List.set_cons_succ, List.filterMap_cons, ih found]

theorem filterMap_set_some {α β : Type} {f : α → Option β} {rows : List α} {i : Nat}
    {row new : α} {image : β} (found : rows[i]? = some row) (before : f row = none)
    (after : f new = some image) :
    (rows.filterMap f ++ [image]).Perm ((rows.set i new).filterMap f) := by
  induction rows generalizing i with
  | nil => cases found
  | cons head rest ih =>
    cases i with
    | zero =>
      cases found
      simp [before, after]
    | succ i =>
      simp only [List.set_cons_succ, List.filterMap_cons]
      cases f head with
      | none => exact ih found
      | some value => exact (ih found).cons value

theorem CreateCall.sale?_crash (host : InstanceId) (moment : Nat) (call : CreateCall) :
    (call.crash host moment).sale? = call.sale? := by
  unfold CreateCall.crash
  split
  · cases pc : call.pc <;> simp [CreateCall.sale?, CreatePc.abort, pc]
  · rfl

section Steps

variable {stock : Int → Option Nat} {s s' : State} {order : List Sale}

theorem SalesOrder.keep (inv : SalesOrder stock s order) (sales : s'.sales = s.sales)
    (later : s.moment ≤ s'.moment) (inventory : s'.db.inventory = s.db.inventory) :
    SalesOrder stock s' order where
  complete := sales ▸ inv.complete
  sorted := inv.sorted
  proper := inv.proper
  past sale member := (inv.past sale member).trans_le later
  replays := inventory ▸ inv.replays

/-- A call that finishes now goes to the end of the order. -/
theorem SalesOrder.finish (inv : SalesOrder stock s order) {id : CallId} {call call' : CreateCall}
    {sale : Sale} (found : s.calls[id]? = some call) (moved : s'.calls = s.calls.set id call')
    (later : s'.moment = s.moment + 1) (pending : call.sale? = none)
    (ended : call'.sale? = some sale) (finishedAt : sale.finishedAt = s.moment)
    (begunAt : sale.begunAt < s.moment)
    (effect : atomicCreate s.db.inventory sale.input = (s'.db.inventory, sale.output)) :
    SalesOrder stock s' (order ++ [sale]) where
  complete := by
    rw [State.sales, moved]
    exact (inv.complete.append_right [sale]).trans (filterMap_set_some found pending ended)
  sorted := by
    refine List.pairwise_append.mpr ⟨inv.sorted, List.pairwise_singleton _ _, ?_⟩
    intro old member new single
    rw [List.mem_singleton.mp single, finishedAt]
    exact (inv.past old member).le
  proper other member := by
    rcases List.mem_append.mp member with old | new
    · exact inv.proper other old
    · rw [List.mem_singleton.mp new, finishedAt]
      exact begunAt.le
  past other member := by
    rw [later]
    rcases List.mem_append.mp member with old | new
    · exact Nat.lt_succ_of_lt (inv.past other old)
    · rw [List.mem_singleton.mp new, finishedAt]
      exact Nat.lt_succ_self _
  replays := replays_concat _ _ _ _ _ _ inv.replays effect

theorem SalesOrder.step (calls : CallsInv s) (begun : ∀ call ∈ s.calls, call.begunAt < s.moment)
    (inv : SalesOrder stock s order) (later : s'.moment = s.moment + 1)
    (taken : SalesStep s s') : ∃ order', SalesOrder stock s' order' := by
  have tick : s.moment ≤ s'.moment := by omega
  cases taken with
  | idle same db rows =>
    exact ⟨order, inv.keep (by rw [State.sales, same, State.sales]) tick (by rw [db])⟩
  | began call fresh _ _ added db =>
    refine ⟨order, inv.keep ?_ tick (by rw [db])⟩
    simp [State.sales, added, CreateCall.sale?, fresh]
  | crashed host aborted db =>
    refine ⟨order, inv.keep ?_ tick (by rw [db])⟩
    rw [State.sales, aborted, List.filterMap_map, State.sales]
    exact List.filterMap_congr fun call _ => call.sale?_crash host s.moment
  | queried id call pc found executed moved =>
    have callInv := calls id call found
    have began := begun call (List.mem_of_getElem? found)
    -- statements that do not end the call with an outcome leave the order as it is
    have kept (quiet : ({ call with pc } : CreateCall).sale? = call.sale?)
        (inventory : s'.db.inventory = s.db.inventory) : ∃ order', SalesOrder stock s' order' :=
      ⟨order, inv.keep (by rw [State.sales, moved]; exact filterMap_set_none found quiet) tick
        inventory⟩
    generalize post : s'.db = db' at executed
    cases executed with
    | precheckRejected suspended short =>
      refine ⟨order ++ [⟨call.input, .conflict, call.begunAt, s.moment⟩],
        inv.finish found moved later (by simp [CreateCall.sale?, suspended]) rfl rfl began ?_⟩
      rw [post]
      exact atomicCreate_conflict short
    | conflicted suspended =>
      refine ⟨order ++ [⟨call.input, .conflict, call.begunAt, s.moment⟩],
        inv.finish found moved later (by simp [CreateCall.sale?, suspended]) rfl rfl began ?_⟩
      rw [post]
      -- the guard failed earlier, and stock has only gone down since
      exact atomicCreate_conflict (callInv.refused suspended)
    | committed placed event left suspended =>
      obtain ⟨_, nonneg, row⟩ := callInv.writes placed event left suspended
      have input : placed.toCreateOrderInput = call.input :=
        callInv.order placed (by simp [suspended, CreatePc.order?])
      refine ⟨order ++ [⟨call.input, .order placed.toCreateOrderInput, call.begunAt, s.moment⟩],
        inv.finish found moved later (by simp [CreateCall.sale?, suspended]) rfl rfl began ?_⟩
      -- the locked row still has the stock the `UPDATE` found
      rw [post, input, atomicCreate_order row nonneg, ← input]
      rfl
    | precheckPassed suspended => exact kept (by simp [CreateCall.sale?, suspended]) (by rw [post])
    | orderInserted suspended => exact kept (by simp [CreateCall.sale?, suspended]) (by rw [post])
    | outboxInserted placed suspended =>
      exact kept (by simp [CreateCall.sale?, suspended]) (by rw [post])
    | decreased placed event stock suspended =>
      exact kept (by simp [CreateCall.sale?, suspended]) (by rw [post])
    | guardFailed placed event suspended =>
      exact kept (by simp [CreateCall.sale?, suspended]) (by rw [post])
    | precheckFailed suspended => exact kept (by simp [CreateCall.sale?, suspended]) (by rw [post])
    | failed active =>
      -- another error: the call does not count, and its rollback changes no stock
      refine kept ?_ (by rw [post]; rfl)
      have unfinished : call.sale? = none := by
        unfold CreateCall.sale?
        split
        next placed moment suspended => exact absurd suspended (active _ _)
        next moment suspended => exact absurd suspended (active _ _)
        · rfl
      rw [unfinished]
      rfl

end Steps

theorem calls_begun {s s' : State} (begun : ∀ call ∈ s.calls, call.begunAt < s.moment)
    (later : s'.moment = s.moment + 1) (taken : SalesStep s s') :
    ∀ call ∈ s'.calls, call.begunAt < s'.moment := by
  intro call member
  rw [later]
  cases taken with
  | idle same _ _ => exact Nat.lt_succ_of_lt (begun call (same ▸ member))
  | began new _ now _ added _ =>
    rw [added] at member
    rcases List.mem_append.mp member with old | fresh
    · exact Nat.lt_succ_of_lt (begun call old)
    · rw [List.mem_singleton.mp fresh, now]
      exact Nat.lt_succ_self _
  | queried id moving pc found _ moved =>
    rw [moved] at member
    rcases List.mem_or_eq_of_mem_set member with old | rfl
    · exact Nat.lt_succ_of_lt (begun call old)
    · exact Nat.lt_succ_of_lt (begun moving (List.mem_of_getElem? found))
  | crashed host aborted _ =>
    rw [aborted] at member
    obtain ⟨before, old, rfl⟩ := List.mem_map.mp member
    have same : (before.crash host s.moment).begunAt = before.begunAt := by
      unfold CreateCall.crash
      split <;> rfl
    rw [same]
    exact Nat.lt_succ_of_lt (begun before old)

theorem sales_order {stock : Int → Option Nat} {allowed : State → Action → Prop} {s : State}
    (reachable : (system stock).Reachable allowed s) :
    (∀ call ∈ s.calls, call.begunAt < s.moment) ∧ ∃ order, SalesOrder stock s order := by
  apply reachable.invariant (I := fun s => (∀ call ∈ s.calls, call.begunAt < s.moment) ∧
    ∃ order, SalesOrder stock s order)
  · rintro s rfl
    exact ⟨by simp [State.initial], [], .refl _, .nil, by simp, by simp, rfl⟩
  · rintro s a s' before ⟨begun, order, inv⟩ _ taken
    have later := State.moment_step taken
    have step := salesStep taken
    exact ⟨calls_begun begun later step, inv.step (sales_invariant before).1 begun later step⟩

/-! ### What the specification implies -/

/-- The product has no inventory row or less stock than `quantity`. -/
def Short (productId quantity : Int) (inventory : Int → Option Int) : Prop :=
  ∀ left, inventory productId = some left → left < quantity

/-- The specification's two outcomes. -/
theorem atomicCreate_cases (inventory : Int → Option Int) (input : CreateOrderInput) :
    (∃ left, 0 ≤ left ∧ inventory input.productId = some (left + input.quantity) ∧
      atomicCreate inventory input =
        (Function.update inventory input.productId (some left), .order input)) ∨
    (Short input.productId input.quantity inventory ∧
      atomicCreate inventory input = (inventory, .conflict)) := by
  by_cases short : Short input.productId input.quantity inventory
  · exact Or.inr ⟨short, atomicCreate_conflict short⟩
  · left
    unfold Short at short
    push Not at short
    obtain ⟨stock, row, enough⟩ := short
    refine ⟨stock - input.quantity, by omega, by simpa using row, ?_⟩
    exact atomicCreate_order (by simpa using row) (by omega)

theorem Short.kept {productId quantity : Int} {inventory : Int → Option Int}
    {input : CreateOrderInput} (short : Short productId quantity inventory)
    (positive : 1 ≤ input.quantity) :
    Short productId quantity (atomicCreate inventory input).1 := by
  rcases atomicCreate_cases inventory input with ⟨left, _, row, taken⟩ | ⟨_, refused⟩
  · rw [taken]
    intro now present
    by_cases same : productId = input.productId
    · subst same
      simp only [Function.update_self, Option.some.injEq] at present
      have := short _ row
      omega
    · exact short now (by simpa [same] using present)
  · rw [refused]
    exact short

/-- A rejected quantity does not fit any later stock. -/
theorem replays_conflict {order : List Sale} {initial final : Int → Option Int}
    (positive : ∀ sale ∈ order, 1 ≤ sale.input.quantity)
    (replays : Replays atomicCreate initial order final) {sale : Sale} (member : sale ∈ order)
    (rejected : sale.output = .conflict) :
    Short sale.input.productId sale.input.quantity final := by
  -- find the rejected operation; from there on short stays short
  induction order generalizing initial with
  | nil => cases member
  | cons first rest ih =>
    have positive' : ∀ sale ∈ rest, 1 ≤ sale.input.quantity :=
      fun sale tail => positive sale (List.mem_cons_of_mem _ tail)
    rcases List.mem_cons.mp member with rfl | tail
    · rcases atomicCreate_cases initial sale.input with ⟨left, _, _, taken⟩ | ⟨short, refused⟩
      · have output := replays.1
        rw [taken, rejected] at output
        cases output
      · refine replays_invariant atomicCreate _ rest ?_ _ final replays.2 (refused ▸ short)
        exact fun inventory other inRest kept => kept.kept (positive' other inRest)
    · exact ih positive' replays.2 tail

/-- Equal quantities of one product: each order takes one, and a rejection means that less
than one is left. -/
theorem replays_uniform {order : List Sale} {initial final : Int → Option Int}
    {productId quantity stock : Int} (nonneg : 0 ≤ stock)
    (uniform : ∀ sale ∈ order, sale.input.productId = productId ∧ sale.input.quantity = quantity)
    (row : initial productId = some stock) (replays : Replays atomicCreate initial order final) :
    ∃ left, final productId = some left ∧ 0 ≤ left ∧
      left + quantity * order.countP (fun sale => sale.output.isOrder) = stock := by
  -- the stock generalizes: each order leaves the rest with `quantity` less
  induction order generalizing initial stock with
  | nil =>
    cases replays
    exact ⟨stock, row, nonneg, by simp⟩
  | cons first rest ih =>
    obtain ⟨product, amount⟩ := uniform first List.mem_cons_self
    have uniform' := fun sale tail => uniform sale (List.mem_cons_of_mem first tail)
    obtain ⟨output, replays'⟩ := replays
    rcases atomicCreate_cases initial first.input with ⟨left, enough, old, taken⟩ | ⟨_, refused⟩
    · rw [taken] at output replays'
      rw [product, row, Option.some.injEq] at old
      obtain ⟨now, present, atLeast, balance⟩ :=
        ih enough uniform' (by simp [product]) replays'
      refine ⟨now, present, atLeast, ?_⟩
      have head : first.output.isOrder = true := by rw [← output]; rfl
      rw [List.countP_cons, if_pos head, Nat.cast_add, Nat.cast_one, mul_add, mul_one]
      omega
    · rw [refused] at output replays'
      obtain ⟨now, present, atLeast, balance⟩ := ih nonneg uniform' row replays'
      refine ⟨now, present, atLeast, ?_⟩
      have head : first.output.isOrder = false := by rw [← output]; rfl
      simpa [List.countP_cons, head] using balance

/-- The call ended with an order. -/
def CreateCall.succeeded (call : CreateCall) : Bool :=
  match call.pc with
  | .finished (.created _) _ => true
  | _ => false

theorem countP_succeeded (calls : List CreateCall) :
    (calls.filterMap CreateCall.sale?).countP (fun sale => sale.output.isOrder) =
      calls.countP CreateCall.succeeded := by
  rw [List.countP_filterMap]
  refine List.countP_congr fun call _ => ?_
  cases pc : call.pc with
  | finished outcome moment =>
    cases outcome <;> simp [CreateCall.sale?, CreateCall.succeeded, pc, SaleResult.isOrder]
  | _ => simp [CreateCall.sale?, CreateCall.succeeded, pc]

/-- `k` pieces of size `quantity` were cut off, all that were asked for unless less than one
is left. -/
theorem count_eq_min {n left quantity k asked : Nat} (balance : left + quantity * k = n)
    (positive : 1 ≤ quantity) (few : k ≤ asked) (short : k < asked → left < quantity) :
    k = min asked (n / quantity) := by
  have fits : n / quantity = left / quantity + k := by
    rw [← balance, Nat.add_mul_div_left _ _ positive]
  rcases Nat.lt_or_ge k asked with fewer | all
  · rw [fits, Nat.div_eq_of_lt (short fewer), Nat.zero_add, Nat.min_eq_right few]
  · have within : k ≤ n / quantity := fits ▸ Nat.le_add_left _ _
    rw [← Nat.le_antisymm few all, Nat.min_eq_left within]

theorem State.positive_sales {stock : Int → Option Nat} {allowed : State → Action → Prop}
    {s : State} (reachable : (system stock).Reachable allowed s) :
    ∀ sale ∈ s.sales, 1 ≤ sale.input.quantity := by
  intro sale member
  obtain ⟨call, present, image⟩ := List.mem_filterMap.mp member
  obtain ⟨id, found⟩ := List.mem_iff_getElem?.mp present
  have quantity := ((sales_invariant reachable).1 id call found).quantity
  unfold CreateCall.sale? at image
  split at image <;> cases image <;> exact quantity

/-- When not every sale got an order, some sale was rejected. -/
theorem exists_conflict {order : List Sale}
    (fewer : order.countP (fun sale => sale.output.isOrder) < order.length) :
    ∃ sale ∈ order, sale.output = .conflict := by
  by_contra none
  push Not at none
  have all : order.countP (fun sale => sale.output.isOrder) = order.length := by
    apply List.countP_eq_length.mpr
    intro sale member
    cases output : sale.output with
    | order input => rfl
    | conflict => exact absurd output (none sale member)
  omega

section Uniform

variable {stock : Int → Option Nat} {s : State} {order : List Sale} {productId : Int}
  {n quantity : Nat}

/-- All calls asked the same quantity of one product and ended with an order or a conflict. -/
def State.Uniform (s : State) (productId : Int) (quantity : Nat) : Prop :=
  ∀ call ∈ s.calls, call.input.productId = productId ∧ call.input.quantity = quantity ∧
    call.sale?.isSome

theorem SalesOrder.uniform_inputs (inv : SalesOrder stock s order)
    (uniform : s.Uniform productId quantity) :
    ∀ sale ∈ order, sale.input.productId = productId ∧ sale.input.quantity = quantity := by
  intro sale member
  obtain ⟨call, present, image⟩ := List.mem_filterMap.mp (inv.complete.mem_iff.mp member)
  obtain ⟨product, amount, _⟩ := uniform call present
  unfold CreateCall.sale? at image
  split at image <;> cases image <;> exact ⟨product, amount⟩

theorem SalesOrder.uniform_length (inv : SalesOrder stock s order)
    (uniform : s.Uniform productId quantity) : order.length = s.calls.length := by
  rw [inv.complete.length_eq, State.sales]
  exact List.filterMap_length_eq_length.mpr fun call member => (uniform call member).2.2

/-- As many calls succeed as the stock allows. -/
theorem SalesOrder.uniform_count (inv : SalesOrder stock s order)
    (positive : ∀ sale ∈ order, 1 ≤ sale.input.quantity) (row : stock productId = some n)
    (atLeast : 1 ≤ quantity) (uniform : s.Uniform productId quantity) :
    s.calls.countP CreateCall.succeeded = min s.calls.length (n / quantity) ∧
    s.db.inventory productId =
      some (n - quantity * s.calls.countP CreateCall.succeeded : Int) := by
  have same := inv.uniform_inputs uniform
  obtain ⟨left, present, nonneg, balance⟩ := replays_uniform (Int.natCast_nonneg n) same
    (by simp [State.initial, row]) inv.replays
  have count : order.countP (fun sale => sale.output.isOrder) =
      s.calls.countP CreateCall.succeeded :=
    (inv.complete.countP_eq _).trans (countP_succeeded s.calls)
  rw [count] at balance
  refine ⟨?_, by rw [present, ← balance]; simp⟩
  obtain ⟨rest, rfl⟩ := Int.eq_ofNat_of_zero_le nonneg
  refine count_eq_min (by exact_mod_cast balance) atLeast List.countP_le_length fun fewer => ?_
  rw [← count, ← inv.uniform_length uniform] at fewer
  -- with fewer successes than calls some call was rejected, and its quantity fits no more
  obtain ⟨sale, member, refused⟩ := exists_conflict fewer
  have short := replays_conflict positive inv.replays member refused
  rw [(same sale member).1, (same sale member).2] at short
  exact_mod_cast short _ present

end Uniform

/-- **Linearizability of `create`.** In every reachable state the calls that ended with an
order or with `ConflictException` are linearizable for `atomicCreate`, from the initial to
the current stock; no rejected quantity fits the current stock of its product; and when all
calls ended so and asked the same quantity of one product, as many succeeded as the stock
allows. -/
theorem create_linearizable (stock : Int → Option Nat) (s : State)
    (reachable : (system stock).Reachable anyStep s) :
    Linearizable atomicCreate (State.initial stock).db.inventory s.sales s.db.inventory ∧
    (∀ call ∈ s.calls, ∀ moment, call.pc = .finished .conflict moment →
      ∀ left, s.db.inventory call.input.productId = some left → left < call.input.quantity) ∧
    (∀ productId (n quantity : Nat), stock productId = some n → 1 ≤ quantity →
      (∀ call ∈ s.calls, call.input.productId = productId ∧ call.input.quantity = quantity ∧
        call.sale?.isSome) →
      s.calls.countP CreateCall.succeeded = min s.calls.length (n / quantity) ∧
      s.db.inventory productId =
        some (n - quantity * s.calls.countP CreateCall.succeeded : Int)) := by
  obtain ⟨_, order, inv⟩ := sales_order reachable
  have positive : ∀ sale ∈ order, 1 ≤ sale.input.quantity :=
    fun sale member => State.positive_sales reachable sale (inv.complete.mem_iff.mp member)
  refine ⟨⟨order, inv.complete, respectsRealTime_of_finishing order inv.sorted inv.proper,
    inv.replays⟩, ?_, ?_⟩
  · intro call member moment ended
    have sale : call.sale? = some ⟨call.input, .conflict, call.begunAt, moment⟩ := by
      simp [CreateCall.sale?, ended]
    have listed := inv.complete.mem_iff.mpr (List.mem_filterMap.mpr ⟨call, member, sale⟩)
    exact replays_conflict positive inv.replays listed rfl
  · intro productId n quantity row atLeast uniform
    exact inv.uniform_count positive row atLeast uniform

theorem lastItem_linearizable :
    lastItem.calls.map CreateCall.succeeded = [true, false] ∧
    Linearizable atomicCreate
      (State.initial fun productId => if productId = 7 then some 1 else none).db.inventory
      lastItem.sales lastItem.db.inventory := by
  have reachable : (system _).Reachable anyStep lastItem := State.after_reachable ..
  exact ⟨by decide, (create_linearizable _ _ reachable).1⟩

end FlashSaleLab

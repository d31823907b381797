import FlashSaleLab.Foundations.Transition
import FlashSaleLab.Foundations.Versions
import FlashSaleLab.RedisService

/-!
# `ProductService`

`findById` reads a product through the cache, `updatePrice` writes the row and then invalidates
the entry. The calls of all instances run over one PostgreSQL and one Redis; a call's state is the
await it is suspended at, as in `OrderNotificationConsumer`.
-/
namespace FlashSaleLab

structure Product where
  id : Int
  name : String
  price : Int
  deriving DecidableEq

/-- The object `JSON.stringify(product)` is applied to. -/
def Product.toJson (product : Product) : Json :=
  .object [("id", .number product.id), ("name", .string product.name),
    ("price", .number product.price)]

/-- The `products` table: the committed versions of each row, of which the last is the row. -/
abbrev Products : Type := Int → Versions Product

namespace PrismaProductRepository

def findById (products : Products) (id : Int) : Option Product := (products id).latest

/-- Prisma's `update` throws when there is no row. -/
def updatePrice (products : Products) (now : Time) (id price : Int) :
    Option (Products × Product) :=
  match (products id).latest with
  | some product =>
    let updated := { product with price }
    some (Function.update products id ((products id).commit now updated), updated)
  | none => none

end PrismaProductRepository

/-- The text of an entry, and the `findById` call that wrote it. -/
structure CachedProduct where
  text : Content
  writer : Nat

/-- The step of the run and the time something happened at. -/
structure Stamp where
  moment : Nat
  time : Time
  deriving DecidableEq

inductive ProductError where
  | notFoundException (message : String)
  | database
  | syntaxError
  deriving DecidableEq

inductive FindPc where
  | getting
  | got (cachedProduct : Option Content)
  | reading
  | read (reply : Settled (Option Product))
  | setting (product : Product)
  | stored (product : Product)
  | returned (product : Json)
  | rejected (error : ProductError)
  deriving DecidableEq

/-- A `findById`. When it began, which version of the row its `findUnique` saw and when, and when
its `set` took effect are recorded. -/
structure FindCall where
  id : Int
  pc : FindPc
  begun : Stamp
  read : Option (Nat × Stamp)
  filled : Option Stamp

inductive UpdatePc where
  | updating
  | updated (reply : Settled Product)
  | deleting (product : Product)
  | deleted (product : Product)
  | returned (product : Product)
  | rejected
  deriving DecidableEq

/-- An `updatePrice`. Which version it committed, when its `del` took effect and when it returned
are recorded. -/
structure UpdateCall where
  id : Int
  price : Int
  pc : UpdatePc
  version : Option Nat
  deleted : Option Stamp
  returned : Option Stamp

structure ProductState where
  now : Time
  moment : Nat
  products : Products
  redis : ExpiringStore RedisKey CachedProduct
  finds : List FindCall
  updates : List UpdateCall

inductive ProductAction where
  | tick (elapsed : Time)
  | findById (id : Int)
  | updatePrice (id price : Int)
  | findSettles (call : Nat) (result : CallResult)
  | findResumes (call : Nat)
  | updateSettles (call : Nat) (result : CallResult)
  | updateResumes (call : Nat)

namespace ProductService

def productKey (id : Int) : RedisKey := ⟨"product:", some (.number id)⟩

/-- The empty string is falsy. -/
def truthy : Content → Bool
  | .stringify _ => true
  | .bytes raw _ => !raw.isEmpty

/-- `findById` after a settled await. -/
def resumeFind : FindPc → Option FindPc
  | .got (some cachedProduct) =>
    if truthy cachedProduct then
      match cachedProduct.parse with
      | some product => some (.returned product)
      | none => some (.rejected .syntaxError)
    else some .reading
  | .got none => some .reading
  | .read (.resolved (some product)) => some (.setting product)
  | .read (.resolved none) =>
    some (.rejected (.notFoundException "상품을 찾을 수 없습니다."))
  | .read .rejected => some (.rejected .database)
  | .stored product => some (.returned product.toJson)
  | _ => none

/-- `updatePrice` after a settled await. -/
def resumeUpdate : UpdatePc → Option UpdatePc
  | .updated (.resolved product) => some (.deleting product)
  | .updated .rejected => some .rejected
  | .deleted product => some (.returned product)
  | _ => none

/-- The products as they are seeded; everything else starts empty. -/
def initial (seed : Int → Option (String × Int)) : ProductState where
  now := 0
  moment := 0
  products := fun id => match seed id with
    | some (name, price) => [⟨⟨id, name, price⟩, 0⟩]
    | none => []
  redis := ExpiringStore.empty
  finds := []
  updates := []

variable (s : ProductState)

def stamp : Stamp := ⟨s.moment, s.now⟩

/-- The version the row of a product has now. -/
def version (id : Int) : Nat := (s.products id).length - 1

/-- The awaited call of `findById` number `call` ends. -/
def settleFind (call : Nat) (find : FindCall) (result : CallResult) : Option ProductState :=
  match find.pc with
  | .getting =>
    let reply := RedisService.get s.redis s.now (productKey find.id) result
    some { s with finds := s.finds.set call { find with pc := .got (reply.map (·.text)) } }
  | .reading =>
    let row := PrismaProductRepository.findById s.products find.id
    some { s with
      finds := s.finds.set call { find with
        pc := .read (result.settle row)
        read := if result = .ok ∧ row.isSome then some (version s find.id, stamp s)
          else find.read } }
  | .setting product =>
    some { s with
      redis := RedisService.set s.redis s.now (productKey find.id)
        ⟨.stringify product.toJson, call⟩ 60 result
      finds := s.finds.set call { find with
        pc := .stored product
        filled := if result.applied then some (stamp s) else find.filled } }
  | _ => none

/-- The awaited call of `updatePrice` number `call` ends. -/
def settleUpdate (call : Nat) (update : UpdateCall) (result : CallResult) :
    Option ProductState :=
  match update.pc with
  | .updating =>
    match PrismaProductRepository.updatePrice s.products s.now update.id update.price with
    | some (products, product) =>
      if result.applied then
        some { s with
          products
          updates := s.updates.set call { update with
            pc := .updated (result.settle product)
            version := some (s.products update.id).length } }
      else some { s with updates := s.updates.set call { update with pc := .updated .rejected } }
    | none => some { s with updates := s.updates.set call { update with pc := .updated .rejected } }
  | .deleting product =>
    some { s with
      redis := RedisService.del s.redis (productKey update.id) result
      updates := s.updates.set call { update with
        pc := .deleted product
        deleted := if result.applied then some (stamp s) else update.deleted } }
  | _ => none

def resumesFind (call : Nat) : Option ProductState :=
  match s.finds[call]? with
  | some find =>
    (resumeFind find.pc).map fun pc => { s with finds := s.finds.set call { find with pc } }
  | none => none

def resumesUpdate (call : Nat) : Option ProductState :=
  match s.updates[call]? with
  | some update =>
    match resumeUpdate update.pc with
    | some (.returned product) =>
      some { s with
        updates := s.updates.set call { update with
          pc := .returned product
          returned := some (stamp s) } }
    | some pc => some { s with updates := s.updates.set call { update with pc } }
    | none => none
  | none => none

def act : ProductAction → Option ProductState
  | .tick elapsed => some { s with now := s.now + elapsed }
  | .findById id => some { s with finds := s.finds ++ [⟨id, .getting, stamp s, none, none⟩] }
  | .updatePrice id price =>
    some { s with updates := s.updates ++ [⟨id, price, .updating, none, none, none⟩] }
  | .findSettles call result =>
    match s.finds[call]? with
    | some find => settleFind s call find result
    | none => none
  | .findResumes call => resumesFind s call
  | .updateSettles call result =>
    match s.updates[call]? with
    | some update => settleUpdate s call update result
    | none => none
  | .updateResumes call => resumesUpdate s call

def step (a : ProductAction) : Option ProductState :=
  (act s a).map fun s' => { s' with moment := s.moment + 1 }

/-- All runs from given rows. -/
def system (seed : Int → Option (String × Int)) :
    Transition.System ProductState ProductAction where
  init s := s = initial seed
  step := step

end ProductService

end FlashSaleLab

import Mathlib.Data.Rat.Cast.CharZero
import Mathlib.Logic.Function.Basic

/-!
# The parts of JavaScript the repository's code reads

JSON values, message bodies, header numbers and settled promises.
-/
namespace FlashSaleLab

/-- A JSON value. Its numbers are exact, as the ids of rows are, which are all the numbers this
system writes. `JSON.parse` rounds others to a double, and to an infinite one beyond the largest;
nothing depends on which number a body or payload from elsewhere holds there. -/
inductive Json where
  | null
  | bool (b : Bool)
  | number (q : Rat)
  | string (s : String)
  | array (items : List Json)
  | object (fields : List (String × Json))

namespace Json

mutual

def same : Json → Json → Bool
  | .null, .null => true
  | .bool a, .bool b => a == b
  | .number a, .number b => a == b
  | .string a, .string b => a == b
  | .array xs, .array ys => sameItems xs ys
  | .object xs, .object ys => sameFields xs ys
  | _, _ => false

def sameItems : List Json → List Json → Bool
  | [], [] => true
  | x :: xs, y :: ys => same x y && sameItems xs ys
  | _, _ => false

def sameFields : List (String × Json) → List (String × Json) → Bool
  | [], [] => true
  | (k, x) :: xs, (l, y) :: ys => k == l && same x y && sameFields xs ys
  | _, _ => false

end

mutual

theorem same_iff : ∀ a b : Json, same a b = true ↔ a = b
  | .null, b => by cases b <;> simp [same]
  | .bool _, b => by cases b <;> simp [same]
  | .number _, b => by cases b <;> simp [same]
  | .string _, b => by cases b <;> simp [same]
  | .array xs, b => by
    cases b with
    | array ys => simp [same, sameItems_iff xs ys]
    | _ => simp [same]
  | .object xs, b => by
    cases b with
    | object ys => simp [same, sameFields_iff xs ys]
    | _ => simp [same]

theorem sameItems_iff : ∀ xs ys : List Json, sameItems xs ys = true ↔ xs = ys
  | [], ys => by cases ys <;> simp [sameItems]
  | x :: xs, ys => by
    cases ys with
    | nil => simp [sameItems]
    | cons y ys => simp [sameItems, same_iff x y, sameItems_iff xs ys]

theorem sameFields_iff : ∀ xs ys : List (String × Json), sameFields xs ys = true ↔ xs = ys
  | [], ys => by cases ys <;> simp [sameFields]
  | (k, x) :: xs, ys => by
    cases ys with
    | nil => simp [sameFields]
    | cons y ys =>
      obtain ⟨l, y⟩ := y
      simp [sameFields, same_iff x y, sameFields_iff xs ys]

end

instance : DecidableEq Json := fun a b => decidable_of_iff _ (same_iff a b)

mutual

/-- A template literal can convert the value to a string. It throws on an object with a
property of its own called `toString`, which nobody can call. -/
def interpolates : Json → Bool
  | .array items => interpolatesItems items
  | .object fields => (fields.lookup "toString").isNone
  | _ => true

def interpolatesItems : List Json → Bool
  | [] => true
  | item :: items => interpolates item && interpolatesItems items

end

/-- `value.name`: a property read. It throws on `null`; a property that is not
there, or of a value that is not an object, is `undefined` (`none`). -/
def property (value : Json) (name : String) : Except String (Option Json) :=
  match value with
  | .null => .error "TypeError"
  | .object fields => .ok (fields.lookup name)
  | _ => .ok none

end Json

/-- The bytes of a message body. `stringify` is the text `JSON.stringify` gives for
a value; any other byte string comes with what `JSON.parse` makes of it, `none`
where it throws. -/
inductive Content where
  | stringify (value : Json)
  | bytes (raw : List UInt8) (parsed : Option Json)
  deriving DecidableEq

/-- `JSON.parse(content.toString())`. -/
def Content.parse : Content → Option Json
  | .stringify value => some value
  | .bytes _ parsed => parsed

/-- A JavaScript number as `Number(…)` can return it. -/
inductive JsNumber where
  | nan
  | infinity (negative : Bool)
  | real (q : Rat)
  deriving DecidableEq

namespace JsNumber

/-- `x >= n`, false for `NaN`. -/
def atLeast : JsNumber → Nat → Bool
  | .nan, _ => false
  | .infinity negative, _ => !negative
  | .real q, n => decide ((n : Rat) ≤ q)

/-- `x + 1`. -/
def increment : JsNumber → JsNumber
  | .real q => .real (q + 1)
  | x => x

@[simp] theorem atLeast_natCast (k n : Nat) : (real (k : Rat)).atLeast n = decide (n ≤ k) := by
  simp [atLeast]

@[simp] theorem increment_natCast (k : Nat) :
    (real (k : Rat)).increment = real ((k + 1 : Nat) : Rat) := by
  simp [increment]

theorem natCast_inj {k l : Nat} : real (k : Rat) = real (l : Rat) ↔ k = l := by
  simp

end JsNumber

/-- A header value: a number, a value of another type together with what `Number(…)`
converts it to, or a table that `Number(…)` throws on because its `toString` is no function. -/
inductive HeaderValue where
  | number (n : JsNumber)
  | other (text : String) (asNumber : JsNumber)
  | unconvertible (text : String)
  deriving DecidableEq

/-- `Number(value)` -/
def HeaderValue.toNumber : HeaderValue → Except String JsNumber
  | .number n => .ok n
  | .other _ n => .ok n
  | .unconvertible _ => .error "TypeError"

/-- A header table. A message without headers behaves as one with an empty table:
`headers?.[key]` is `undefined` and `...undefined` spreads nothing. -/
def Headers : Type := String → Option HeaderValue

namespace Headers

def empty : Headers := fun _ => none

/-- `{ ...headers, [key]: value }` -/
def set (headers : Headers) (key : String) (value : HeaderValue) : Headers :=
  Function.update headers key (some value)

/-- `Number(headers?.[key] ?? 0)` -/
def count (headers : Headers) (key : String) : Except String JsNumber :=
  match headers key with
  | some value => value.toNumber
  | none => .ok (.real 0)

@[simp] theorem set_self (headers : Headers) (key : String) (value : HeaderValue) :
    headers.set key value key = some value :=
  Function.update_self ..

theorem set_of_ne (headers : Headers) {key other : String} (value : HeaderValue)
    (ne : other ≠ key) : headers.set key value other = headers other :=
  Function.update_of_ne ne ..

@[simp] theorem count_empty (key : String) :
    empty.count key = .ok (.real ((0 : Nat) : Rat)) := by
  simp [count, empty]

@[simp] theorem count_set_self (headers : Headers) (key : String) (n : JsNumber) :
    (headers.set key (.number n)).count key = .ok n := by
  simp [count, HeaderValue.toNumber]

theorem count_set_of_ne (headers : Headers) {key other : String} (value : HeaderValue)
    (ne : other ≠ key) : (headers.set key value).count other = headers.count other := by
  simp [count, headers.set_of_ne value ne]

end Headers

/-- How a promise settled. -/
inductive Settled (α : Type) where
  | resolved (value : α)
  | rejected
  deriving DecidableEq

/-- How a remote call ends: it succeeds, or it fails at the caller, with or without
having taken effect at the server. -/
inductive CallResult where
  | ok
  | failed (applied : Bool)
  deriving DecidableEq

/-- The call took effect at the server. -/
def CallResult.applied : CallResult → Bool
  | .ok => true
  | .failed applied => applied

/-- What an awaited call that would return `value` settles to. -/
def CallResult.settle {α : Type} (result : CallResult) (value : α) : Settled α :=
  match result with
  | .ok => .resolved value
  | .failed _ => .rejected

end FlashSaleLab

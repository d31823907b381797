import FlashSaleLab.Foundations.ExpiringStore
import FlashSaleLab.RabbitMq

/-!
# `RedisService`

One Redis for all instances. A command executes atomically; a call that fails at the
caller may or may not have been executed. With each value the model records which
handler execution wrote it.
-/
namespace FlashSaleLab

/-- A key built by a template: a fixed text and the interpolated property. The code has the text
only, and two JSON values can have one text, as `1` and `"1"` do. The ids this system puts into keys
are numbers of rows, which have a text each; and no fixed text is the beginning of another. -/
structure RedisKey where
  scope : String
  id : Option Json
  deriving DecidableEq

structure RedisValue where
  text : String
  writer : HandlerId
  deriving DecidableEq

abbrev Redis : Type := ExpiringStore RedisKey RedisValue

namespace RedisService

/-- `client.get` -/
def getStrict (redis : Redis) (now : Time) (key : RedisKey) (result : CallResult) :
    Settled (Option String) :=
  result.settle ((redis.get now key).map (·.text))

/-- `client.set` with `EX` and `NX`; resolves to whether the reply was `OK`. -/
def setIfAbsentStrict (redis : Redis) (now : Time) (key : RedisKey) (value : RedisValue)
    (ttlSeconds : Nat) (result : CallResult) : Redis × Settled Bool :=
  let attempt := redis.setIfAbsent now key value (ttlSeconds * 1000)
  -- a call that fails at the caller may have stored the key
  (if result.applied then attempt.1 else redis, result.settle attempt.2)

section Logged

variable {ν : Type} (redis : ExpiringStore RedisKey ν)

/-- `get` logs a failure and resolves to `null`. -/
def get (now : Time) (key : RedisKey) (result : CallResult) : Option ν :=
  match result with
  | .ok => ExpiringStore.get redis now key
  | .failed _ => none

/-- `set` logs a failure and resolves. -/
def set (now : Time) (key : RedisKey) (value : ν) (ttlSeconds : Nat) (result : CallResult) :
    ExpiringStore RedisKey ν :=
  if result.applied then ExpiringStore.set redis now key value (ttlSeconds * 1000) else redis

/-- `del` logs a failure and resolves. -/
def del (key : RedisKey) (result : CallResult) : ExpiringStore RedisKey ν :=
  if result.applied then ExpiringStore.del redis key else redis

end Logged

end RedisService

end FlashSaleLab

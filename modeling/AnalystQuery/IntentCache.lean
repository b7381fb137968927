import AnalystQuery.Intent.Basic

/-! A cache of intents that live for a limited time. The time of an entry runs from its creation:
an intent that is put over a living one takes over the time that is left. -/

namespace AnalystQuery

/-- An intent with the time at which it dies, in milliseconds. -/
structure IntentCache.Entry where
  key : String
  intent : Intent
  expiry : Nat
  deriving Repr

/-- A cache, which holds each key at most once. A disabled one holds nothing. -/
structure IntentCache where
  enabled : Bool
  entries : List IntentCache.Entry
  deriving Repr

namespace IntentCache

def empty (enabled : Bool) : IntentCache := ⟨enabled, []⟩

def living? (cache : IntentCache) (now : Nat) (key : String) : Option Entry :=
  cache.entries.find? fun entry => entry.key == key && now < entry.expiry

def get? (cache : IntentCache) (now : Nat) (key : String) : Option Intent :=
  (cache.living? now key).map Entry.intent

/-- Puts an intent under a key. A life of no time is not begun. -/
def set (cache : IntentCache) (now : Nat) (key : String) (intent : Intent) (life : Nat) :
    IntentCache :=
  if cache.enabled && 0 < life then
    let expiry := ((cache.living? now key).map Entry.expiry).getD (now + life)
    { cache with entries := ⟨key, intent, expiry⟩ :: cache.entries.filter (·.key != key) }
  else cache

end IntentCache

end AnalystQuery

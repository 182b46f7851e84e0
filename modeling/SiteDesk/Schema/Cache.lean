import Std.Data.ExtTreeMap
import SiteDesk.Blake3
import SiteDesk.Schema.Definition

/-!
Compiled schemas kept under the hash of their definition. A look-up that finds a schema is a hit,
one that compiles is a miss; definitions that do not compile are not kept.
-/
namespace SiteDesk.Schema

/-- The hash of a definition, taken of its compact form. -/
def definitionHash (definition : Json) : String :=
  Blake3.hexHash definition.compactText

def shortHash (hash : String) : String :=
  String.ofList (hash.toList.take 16)

structure Cache where
  capacity : Nat
  entries : Std.ExtTreeMap String Compiled := ∅
  hits : Nat := 0
  misses : Nat := 0

namespace Cache

/-- Keeps a schema while there is room. Refusing it when the cache is full is the policy of this
program. Nothing is dropped in its favour; an entry that leaves at any time, for its age or for
others, is what the operation `expiry` stands for. -/
def keep (hash : String) (schema : Compiled) (cache : Cache) : Cache :=
  if cache.entries.size < cache.capacity then
    { cache with entries := cache.entries.insert hash schema }
  else cache

def compile (definition : Json) (cache : Cache) : Except CompileError Compiled × Cache :=
  let hash := definitionHash definition
  match cache.entries[hash]? with
  | some schema => (.ok schema, { cache with hits := cache.hits + 1 })
  | none =>
    let cache := { cache with misses := cache.misses + 1 }
    match Schema.compile definition with
    | .error e => (.error e, cache)
    | .ok schema => (.ok schema, cache.keep hash schema)

def contains (definition : Json) (cache : Cache) : Bool :=
  cache.entries.contains (definitionHash definition)

/-- Forgets every schema; the counters stay. -/
def invalidateAll (cache : Cache) : Cache :=
  { cache with entries := ∅ }

end Cache

end SiteDesk.Schema

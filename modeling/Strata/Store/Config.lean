/-!
# Store configurations

Where a store lives and how it is kept: the size of its cache, how often it is flushed, and whether
it is compressed or temporary. The contents of a store do not depend on any of it.
-/

namespace Strata

/-- How a store is opened. -/
structure StoreConfig where
  /-- The directory of the store. -/
  path : String
  /-- The size of the page cache in bytes. -/
  cacheCapacity : Nat
  /-- The time between flushes in milliseconds; without one every write is flushed. -/
  flushEveryMs? : Option Nat
  /-- Whether pages are compressed. -/
  compression : Bool
  /-- Whether the store is deleted when it is closed. -/
  temporary : Bool
  deriving DecidableEq

namespace StoreConfig

/-- A compressed store in the working directory with a cache of 64 MiB and two flushes a second. -/
def standard : StoreConfig := ⟨"./quikdb_data", 64 * 1024 * 1024, some 500, true, false⟩

/-- The standard store in another directory. -/
def atPath (path : String) : StoreConfig := { standard with path }

/-- A store that is deleted when it is closed. -/
def scratch : StoreConfig := { standard with path := "", temporary := true }

/-- The configuration with another cache size. -/
def withCacheCapacity (c : StoreConfig) (bytes : Nat) : StoreConfig :=
  { c with cacheCapacity := bytes }

/-- The configuration in which every write is flushed. -/
def flushOnWrite (c : StoreConfig) : StoreConfig := { c with flushEveryMs? := none }

end StoreConfig

end Strata

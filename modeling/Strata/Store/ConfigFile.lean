import Strata.Json.Decode
import Strata.Json.Printer
import Strata.Store.Config

/-!
# Store configurations in JSON

A store configuration is a JSON structure; what it leaves out is as in the standard configuration.
-/

namespace Strata.StoreConfig

open Document (Member nat? bool? str? nullable? structure?)

/-- The members of a store configuration. -/
def members : List (Member StoreConfig) := [
  .of "path" str? fun c s => { c with path := s },
  .of "cache_capacity" nat? fun c n => { c with cacheCapacity := n },
  .of "flush_every_ms" (nullable? nat?) fun c n => { c with flushEveryMs? := n },
  .of "compression" bool? fun c b => { c with compression := b },
  .of "temporary" bool? fun c b => { c with temporary := b }]

/-- The store configuration that a document holds. -/
def ofDocument? : Document → Option StoreConfig := structure? members .standard

/-- The store configuration that a JSON text holds. -/
def ofText? (text : String) : Option StoreConfig := (Document.read? text).bind ofDocument?

/-- A store configuration as JSON. -/
def toJson (c : StoreConfig) : Json :=
  .object [
    ("path", .str c.path),
    ("cache_capacity", .nat c.cacheCapacity),
    ("flush_every_ms", .ofOption .nat c.flushEveryMs?),
    ("compression", .bool c.compression),
    ("temporary", .bool c.temporary)]

end Strata.StoreConfig

import Strata.Journal
import Strata.Json.Decode
import Strata.Json.Printer

/-!
# Journals in JSON

How the journal of a run stands in files.
-/

namespace Strata

open Document (bool? str? nat? listOf?)

/-- The status of a run by its name. -/
def RunStatus.ofText? (s : String) : Option RunStatus :=
  [running, complete, failed].find? (·.text == s)

/-- The status of a step by its name. -/
def StepStatus.ofText? (s : String) : Option StepStatus :=
  [pending, complete, failed].find? (·.text == s)

namespace Progress

/-- An entry as JSON. -/
def toJson (p : Progress) : Json :=
  .object [("source", .nat p.source), ("status", .str p.status.text), ("ended", .bool p.ended),
    ("written", .nat p.written), ("fallbacks", .nat p.fallbacks),
    ("error", .ofOption .str p.error?)]

/-- The entry that a document holds. -/
def ofDocument? (v : Document) : Option Progress := do
  let status ← v.get? str? "status"
  pure ⟨← v.get? nat? "source", ← StepStatus.ofText? status, ← v.get? bool? "ended",
    ← v.get? nat? "written", ← v.get? nat? "fallbacks", ← v.maybe? str? "error"⟩

end Progress

namespace Journal

/-- The members of a journal. -/
def members (j : Journal) : List (String × Json) := [
  ("from", .nat j.fromVersion), ("to", .nat j.toVersion), ("status", .str j.status.text),
  ("ended", .bool j.ended), ("error", .ofOption .str j.error?),
  ("steps", .list (j.steps.map Progress.toJson))]

/-- A journal as JSON. -/
def toJson (j : Journal) : Json := .object j.members

/-- The journal that a document holds. -/
def ofDocument? (v : Document) : Option Journal := do
  let status ← v.get? str? "status"
  pure ⟨← v.get? nat? "from", ← v.get? nat? "to", ← RunStatus.ofText? status,
    ← v.get? bool? "ended", ← v.maybe? str? "error",
    ← v.get? (listOf? Progress.ofDocument?) "steps"⟩

end Journal

end Strata

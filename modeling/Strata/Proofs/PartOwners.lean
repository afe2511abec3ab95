import Strata.Proofs.Emissions
import Strata.Proofs.KeyOrder
import Strata.Proofs.MessageHistory
import Strata.Proofs.Reachable

/-!
# The owners of parts

A message lists its parts, and the step from the tenth version turns that around: every part is told
the content id of the message that owns it, which is the first, in the order of keys, of those that
list it. A part that no message lists is told zero, and is counted as a fallback.

`Owned` says what the step leaves, and `partOwners_of_step` that it does so over every consistent
store. A transform that emits nothing, in a step that inserts nothing, leaves the settled tables
(`Registry.Commits.get?_of_silent`), so what remains is what the transform finds for one part
(`owningContentId?_cases`). It looks through the messages in the order of their keys, and stops at
the owner (`find?_of_sorted`).
-/

namespace Strata

/-- In a sorted list, what passes a test first is before all others that pass it. -/
theorem find?_of_sorted {α : Type} {before : α → α → Prop} {xs : List α}
    (hsorted : xs.Pairwise before) {test : α → Bool} {x : α} (h : xs.find? test = some x) :
    x ∈ xs ∧ test x = true ∧ ∀ y ∈ xs, test y = true → y = x ∨ before x y := by
  obtain ⟨htest, first, last, rfl, hfirst⟩ := List.find?_eq_some_iff_append.1 h
  obtain ⟨-, hrest, -⟩ := List.pairwise_append.1 hsorted
  refine ⟨List.mem_append_right _ List.mem_cons_self, htest, fun y hy hpasses => ?_⟩
  rcases List.mem_append.1 hy with hy | hy
  · have hfails := hfirst y hy
    rw [hpasses] at hfails
    cases hfails
  · rcases List.mem_cons.1 hy with rfl | hy
    · exact .inl rfl
    · exact .inr (List.rel_of_pairwise_cons hrest hy)

/-- The references of a field are those of the list that it holds. -/
theorem Record.mem_refs_iff {r : Record} {name : String} {key : Key} :
    key ∈ r.refs name ↔ ∃ keys, r.get? name = some (.refs keys) ∧ key ∈ keys := by
  unfold refs
  cases r.get? name with
  | none => simp
  | some value => cases value <;> simp [Value.refs?]

namespace Registry

variable {baseline live : Schema} {steps : List Step} {registry : Registry} {version : Nat}
  {s s' : Store} {step : Step} {config : PassConfig} {report : StepReport} {name : String}

/-- A committed step that emits and inserts nothing leaves the settled tables. -/
theorem Commits.get?_of_silent (hbuild : build baseline steps = .ok registry)
    (hnames : ∀ version schema, registry.schemaAt? version = some schema → schema.NulFreeNames)
    (h : Commits registry config version s report s') (hs : Consistent registry version s)
    (hstep : registry.stepFor? version = some step) (hlive : registry.schemaAt? version = some live)
    (hemitted : ∀ name t, step.transform? = some (name, t) → ∀ r cx output, t r cx = .ok output →
      output.emitted = [])
    (hinserts : step.inserts = []) (hname : NulFree name) (key : Key) :
    s'.get? name key = (step.settledTable (s.snapshot live) name)[key]? := by
  obtain ⟨live', next, d₁, d, count, fallbacks, rows, hlive', -, -, -, htransformed, hadd,
    hdraft⟩ := h.exists_draft hbuild hnames hs hstep
  rw [hlive] at hlive'
  cases hlive'
  have hother : ∀ name t, step.transform? = some (name, t) → ∀ r cx output, t r cx = .ok output →
      ∀ q ∈ output.emitted, q.1 ≠ name := by
    intro name t ht r cx output hr q hq
    rw [hemitted name t ht r cx output hr] at hq
    cases hq
  obtain ⟨⟨base, hbase, hgrows⟩, haccepts⟩ :=
    Step.grows_transformed (s.keyed_table_snapshot live) hother htransformed
  obtain ⟨added, hcompleted, -, -, htable⟩ := (hgrows.trans (Draft.grows_addAll hadd)).added
  have hemissions : step.emissions (s.snapshot live) = [] := by
    unfold Step.emissions
    split
    · next entity t ht =>
      rw [List.flatMap_eq_nil_iff]
      intro r hr
      obtain ⟨output, houtput, -⟩ := haccepts entity t ht r hr
      rw [Step.outputOf_eq ht houtput]
      exact hemitted entity t ht r _ output houtput
    · rfl
  -- Nothing is added to the settled tables.
  rw [hemissions, hinserts] at hcompleted
  cases hcompleted
  refine Option.ext fun r => ?_
  rw [hdraft name hname, htable, hbase]
  exact or_iff_left fun hadded => List.not_mem_nil hadded.1

end Registry

namespace Messages

open Transform (Output)

/-! ## What the step leaves -/

/-- A message lists a part. -/
def Lists (m : Record) (part : Key) : Prop :=
  ∃ parts, m.get? "parts" = some (.refs parts) ∧ part ∈ parts

/-- A message of a store owns a part: of those that list the part it has the least key. -/
structure Owns (s : Store) (m : Record) (part : Key) : Prop where
  /-- The message is in the store. -/
  stored : s.get? message m.key = some m
  /-- It lists the part. -/
  lists : Lists m part
  /-- Every other message that lists the part has a key behind its own. -/
  first : ∀ key m', s.get? message key = some m' → Lists m' part → m' = m ∨ m.key.Before key

/-- No message of a store lists a part. -/
def Unowned (s : Store) (part : Key) : Prop :=
  ∀ key m, s.get? message key = some m → ¬Lists m part

/-- A part as it was and as it is once it is told the message that owns it. -/
structure IsOwned (s : Store) (old new : Record) : Prop where
  /-- It has the content id of its owner, or zero if it has none. -/
  messageId : (∃ m id, Owns s m old.key ∧ m.get? "contentId" = some (.int id) ∧
      new.get? "messageId" = some (.int id)) ∨
    (Unowned s old.key ∧ new.get? "messageId" = some (.int 0))
  /-- Its key is the same. -/
  key : new.key = old.key
  /-- Its other fields are as they were. -/
  others : ∀ name, name ≠ "messageId" → new.get? name = old.get? name

/-- A store in which the parts of an earlier one are told the messages that own them. -/
structure Owned (s s' : Store) : Prop where
  /-- No part is new. -/
  part_old : ∀ key, s'.get? mmsPart key ≠ none → s.get? mmsPart key ≠ none
  /-- Every part is there, and told its owner. -/
  part_new : ∀ key old, s.get? mmsPart key = some old →
    ∃ new, s'.get? mmsPart key = some new ∧ IsOwned s old new
  /-- The records of every other entity are as they were. -/
  others : ∀ name, NulFree name → name ≠ mmsPart → ∀ key, s'.get? name key = s.get? name key

variable {lookup : Lookup} {s s' : Store} {part : Key} {m m' : Record}

/-- A part has one owner at most. -/
theorem Owns.unique (h : Owns s m part) (h' : Owns s m' part) : m' = m := by
  rcases h.first _ m' h'.stored h'.lists with heq | hbefore
  · exact heq
  · rcases h'.first _ m h.stored h.lists with heq | hbehind
    · exact heq.symm
    · exact absurd hbehind hbefore.asymm

/-- A journal that is written afterwards changes nothing. -/
theorem Owned.writeJournal (h : Owned s s') (journal : Journal) :
    Owned s (s'.writeJournal journal) :=
  ⟨h.part_old, h.part_new, h.others⟩

/-! ## The transform -/

/-- What the transform gives for a part. -/
def ownedOutput (snapshot : Snapshot) (r : Record) : Output :=
  match owningContentId? snapshot r.key with
  | some id => .ofRecord (r.set "messageId" (.int id))
  | none => (Output.ofRecord (r.set "messageId" (.int 0))).fallback

/-- Every part is transformed. -/
theorem partMessageId_eq (r : Record) (cx : Transform.Context) :
    partMessageId r cx = .ok (ownedOutput cx.snapshot r) := by
  unfold partMessageId ownedOutput
  cases owningContentId? cx.snapshot r.key <;> rfl

/-- A transformed part is the part with another message id. -/
theorem record_ownedOutput (snapshot : Snapshot) (r : Record) :
    (ownedOutput snapshot r).record =
      r.set "messageId" (.int ((owningContentId? snapshot r.key).getD 0)) := by
  unfold ownedOutput
  cases owningContentId? snapshot r.key <;> rfl

/-- A part without an owner is a fallback. -/
theorem fallbacks_ownedOutput (snapshot : Snapshot) (r : Record) :
    (ownedOutput snapshot r).fallbacks =
      if (owningContentId? snapshot r.key).isNone then 1 else 0 := by
  unfold ownedOutput
  cases owningContentId? snapshot r.key <;> rfl

/-- A transformed part emits nothing. -/
theorem emitted_partMessageId {r : Record} {cx : Transform.Context} {output : Output}
    (h : partMessageId r cx = .ok output) : output.emitted = [] := by
  rw [partMessageId_eq] at h
  cases h
  unfold ownedOutput
  cases owningContentId? cx.snapshot r.key <;> rfl

section Owners

variable {snapshot : Snapshot}
  (hmessages : ∀ key, (snapshot.table message)[key]? = s.get? message key)
  (hkeyed : (snapshot.table message).Keyed)
  (hcontent : ∀ key m, s.get? message key = some m → ∃ id, m.get? "contentId" = some (.int id))
include hmessages hkeyed hcontent

/-- The transform finds the content id of the message that owns a part, and nothing if the part has
no owner. -/
theorem owningContentId?_cases (part : Key) :
    (∃ m id, Owns s m part ∧ m.get? "contentId" = some (.int id) ∧
        owningContentId? snapshot part = some id) ∨
      (Unowned s part ∧ owningContentId? snapshot part = none) := by
  have hmem : ∀ m, m ∈ snapshot.records message ↔ s.get? message m.key = some m := by
    intro m
    rw [← hmessages]
    exact hkeyed.mem_values_iff
  have hlists : ∀ m : Record, (m.refs "parts").contains part = true ↔ Lists m part := by
    intro m
    rw [List.contains_iff_mem]
    exact Record.mem_refs_iff
  have hkey : ∀ key m, s.get? message key = some m → m.key = key := by
    intro key m hm
    rw [← hmessages] at hm
    exact hkeyed key m hm
  unfold owningContentId? Snapshot.find?
  cases hfind : (snapshot.records message).find? fun m => (m.refs "parts").contains part with
  | none =>
    refine .inr ⟨fun key m hm hlisted => ?_, rfl⟩
    have hm' := (hmem m).2 ((hkey key m hm).symm ▸ hm)
    exact List.find?_eq_none.1 hfind m hm' ((hlists m).2 hlisted)
  | some m =>
    obtain ⟨hfound, hlisted, hfirst⟩ := find?_of_sorted hkeyed.sorted_values hfind
    have hm := (hmem m).1 hfound
    obtain ⟨id, hid⟩ := hcontent _ m hm
    refine .inl ⟨m, id, ⟨hm, (hlists m).1 hlisted, fun key m' hm' hlisted' => ?_⟩, hid, ?_⟩
    · have hkey' := hkey key m' hm'
      rcases hfirst m' ((hmem m').2 (hkey'.symm ▸ hm')) ((hlists m').2 hlisted') with heq | hlt
      · exact .inl heq
      · exact .inr (hkey' ▸ Key.compare_eq_lt_iff.1 hlt)
    · unfold Record.int?
      rw [Option.bind_some, hid]
      rfl

/-- A part is a fallback exactly if it has no owner. -/
theorem isNone_owningContentId?_iff :
    (owningContentId? snapshot part).isNone = true ↔ Unowned s part := by
  rcases owningContentId?_cases hmessages hkeyed hcontent part with
    ⟨m, id, howns, -, hfound⟩ | ⟨hunowned, hnone⟩
  · rw [hfound]
    exact ⟨nofun, fun hunowned => absurd howns.lists (hunowned _ m howns.stored)⟩
  · rw [hnone]
    exact ⟨fun _ => hunowned, fun _ => rfl⟩

/-- A transformed part is told its owner. -/
theorem isOwned_ownedOutput (old : Record) :
    IsOwned s old (ownedOutput snapshot (old.set "messageId" (.int 0))).record := by
  rw [record_ownedOutput]
  refine ⟨?_, rfl, fun name hname => ?_⟩
  · rw [Record.get?_set, if_pos rfl]
    rcases owningContentId?_cases hmessages hkeyed hcontent old.key with
      ⟨m, id, howns, hid, hfound⟩ | ⟨hunowned, hnone⟩
    · refine .inl ⟨m, id, howns, hid, ?_⟩
      rw [Record.key_set, hfound]
      rfl
    · refine .inr ⟨hunowned, ?_⟩
      rw [Record.key_set, hnone]
      rfl
  · rw [Record.get?_set, if_neg hname.symm, Record.get?_set, if_neg hname.symm]

end Owners

/-! ## The step -/

/-- The step from the tenth version. -/
def ownership (lookup : Lookup) : Step := (steps lookup).get ⟨10, (by decide : 10 < 15)⟩

theorem transform?_ownership (lookup : Lookup) :
    (ownership lookup).transform? = some (mmsPart, partMessageId) := rfl

/-- The edits of the step give a part its message id, which is zero at first. -/
theorem applyAllToRecord_ownership (lookup : Lookup) (r : Record) :
    Edit.applyAllToRecord (ownership lookup).edits mmsPart r = r.set "messageId" (.int 0) := rfl

/-- The step is the one from the tenth version. -/
theorem stepFor?_ownership {r : Registry} (h : registry lookup = .ok r) :
    r.stepFor? 10 = some (ownership lookup) :=
  Registry.stepFor?_of_consecutive h (steps_source lookup) (show 10 < 15 by decide)

/-- An edited part is one that was there, with a message id. -/
theorem getElem?_editedTable_mmsPart (lookup : Lookup) (before : Snapshot) (key : Key) :
    ((ownership lookup).editedTable before mmsPart)[key]? =
      (before.table mmsPart)[key]?.map fun r => r.set "messageId" (.int 0) := by
  have hclears : (ownership lookup).clears = [] := rfl
  unfold Step.editedTable
  rw [hclears, if_neg List.not_mem_nil, Std.ExtTreeMap.getElem?_map]
  simp only [applyAllToRecord_ownership]

/-- The transform gives for every part what its owner asks for. -/
theorem outputOf_ownership (lookup : Lookup) (before : Snapshot) (r : Record) :
    (ownership lookup).outputOf before mmsPart r = ownedOutput before r :=
  Step.outputOf_eq (transform?_ownership lookup) (partMessageId_eq r _)

/-- The step emits nothing. -/
theorem emissions_ownership (lookup : Lookup) (before : Snapshot) :
    (ownership lookup).emissions before = [] := by
  unfold Step.emissions
  rw [transform?_ownership]
  exact List.flatMap_eq_nil_iff.2 fun r _ => by
    rw [outputOf_ownership]
    exact emitted_partMessageId (partMessageId_eq r ⟨before, mmsPart⟩)

/-- The step concerns the parts and no other entity. -/
theorem not_concerns_ownership {before : Snapshot} {name : String} (h : name ≠ mmsPart) :
    ¬(ownership lookup).Concerns before name := by
  rintro (hclear | ⟨edit, hedit, hname⟩ | ⟨t, ht⟩ | ⟨p, hp, -⟩ | ⟨p, hp, -⟩)
  · cases hclear
  · cases List.mem_singleton.1 hedit
    exact h hname.symm
  · cases ht
    exact h rfl
  · rw [emissions_ownership] at hp
    cases hp
  · cases hp

variable {registry : Registry} {config : PassConfig} {report : StepReport} {live : Schema}

/-- Every message of a store that is consistent at the tenth version has a content id. -/
theorem exists_contentId (h : Messages.registry lookup = .ok registry)
    (hlive : registry.schemaAt? 10 = some live) (hholds : s.Holds live) {key : Key} {m : Record}
    (hm : s.get? message key = some m) : ∃ id, m.get? "contentId" = some (.int id) := by
  obtain ⟨e, he, -, hfields⟩ := exists_entity h (by decide) hlive message rfl
  obtain ⟨e', he', hissues⟩ :=
    hholds.entity_of_get? (nulFreeNames h hlive) (by decide : NulFree message) hm
  rw [he] at he'
  cases he'
  have hfield : e.field? "contentId" =
      some ((Field.plain "contentId" .int).withDefault (.int 0)) :=
    (hfields "contentId").trans rfl
  obtain ⟨value, hvalue, hadmits⟩ :=
    (Entity.fits_iff.2 hissues).admitted _ (List.mem_of_find?_eq_some hfield)
  cases value with
  | int id => exact ⟨id, hvalue⟩
  | _ => cases hadmits

section Commits

variable (h : Messages.registry lookup = .ok registry)
  (hlive : registry.schemaAt? 10 = some live) (hholds : s.Holds live)
include h hlive hholds

/-- The snapshot holds the records of the store. -/
theorem getElem?_table_snapshot {name : String} (hname : NulFree name) (key : Key) :
    ((s.snapshot live).table name)[key]? = s.get? name key :=
  hholds.getElem?_table_snapshot (nulFreeNames h hlive) hname key

/-- A commit of the step tells the parts their owners. -/
theorem owned_of_commits (hs : registry.Consistent 10 s)
    (hcommits : Registry.Commits registry config 10 s report s') : Owned s s' := by
  have hget : ∀ name, NulFree name → ∀ key, s'.get? name key =
      ((ownership lookup).settledTable (s.snapshot live) name)[key]? := by
    intro name hname key
    refine hcommits.get?_of_silent h (fun _ _ => nulFreeNames h) hs (stepFor?_ownership h) hlive
      (fun name t ht r cx output hr => ?_) rfl hname key
    rw [transform?_ownership] at ht
    cases ht
    exact emitted_partMessageId hr
  have hbefore := fun name (hname : NulFree name) => getElem?_table_snapshot h hlive hholds hname
  have hpart : ∀ key, s'.get? mmsPart key = (s.get? mmsPart key).map fun r =>
      (ownedOutput (s.snapshot live) (r.set "messageId" (.int 0))).record := by
    intro key
    rw [hget mmsPart (by decide)]
    unfold Step.settledTable
    rw [Std.ExtTreeMap.getElem?_map, getElem?_editedTable_mmsPart, hbefore mmsPart (by decide),
      Option.map_map]
    simp only [outputOf_ownership]
    rfl
  refine ⟨fun key hnew hold => hnew ?_, fun key old hold => ?_, fun name hname hne key => ?_⟩
  · rw [hpart, hold]
    rfl
  · refine ⟨_, (hpart key).trans (congrArg _ hold), ?_⟩
    exact isOwned_ownedOutput (hbefore message (by decide)) (s.keyed_table_snapshot live message)
      (fun key m => exists_contentId h hlive hholds) old
  · rw [hget name hname, Step.settledTable_of_not_concerns (not_concerns_ownership hne),
      hbefore name hname]

/-- The fallbacks of the step are the parts without an owner. -/
theorem exists_unowned : ∃ unowned : List Key, unowned.Nodup ∧
    (∀ key, key ∈ unowned ↔ s.get? mmsPart key ≠ none ∧ Unowned s key) ∧
    Transform.totalFallbacks (((ownership lookup).editedTable (s.snapshot live) mmsPart).values.map
      ((ownership lookup).outputOf (s.snapshot live) mmsPart)) = unowned.length := by
  have hbefore := fun name (hname : NulFree name) => getElem?_table_snapshot h hlive hholds hname
  have hkeyed := Step.keyed_editedTable (s.keyed_table_snapshot live) (ownership lookup) mmsPart
  have hmem : ∀ key, s.get? mmsPart key ≠ none ↔
      ∃ r ∈ ((ownership lookup).editedTable (s.snapshot live) mmsPart).values, r.key = key := by
    intro key
    rw [← hbefore mmsPart (by decide), ← Option.isSome_iff_ne_none, ← Option.isSome_map,
      ← getElem?_editedTable_mmsPart lookup, Option.isSome_iff_exists]
    constructor
    · rintro ⟨r, hr⟩
      exact ⟨r, mem_values_iff.2 ⟨key, hr⟩, hkeyed key r hr⟩
    · rintro ⟨r, hr, rfl⟩
      exact ⟨r, hkeyed.mem_values_iff.1 hr⟩
  let table := (ownership lookup).editedTable (s.snapshot live) mmsPart
  let falls (r : Record) : Bool := (owningContentId? (s.snapshot live) r.key).isNone
  have hfalls : ∀ r : Record, falls r = true ↔ Unowned s r.key := fun r =>
    isNone_owningContentId?_iff (hbefore message (by decide))
      (s.keyed_table_snapshot live message) (fun key m => exists_contentId h hlive hholds)
  refine ⟨(table.values.filter falls).map (·.key), ?_, fun key => ?_, ?_⟩
  · exact hkeyed.nodup_keys_values.sublist (List.filter_sublist.map _)
  · rw [List.mem_map, hmem]
    constructor
    · rintro ⟨r, hr, rfl⟩
      obtain ⟨hr, hunowned⟩ := List.mem_filter.1 hr
      exact ⟨⟨r, hr, rfl⟩, (hfalls r).1 hunowned⟩
    · rintro ⟨⟨r, hr, rfl⟩, hunowned⟩
      exact ⟨r, List.mem_filter.2 ⟨hr, (hfalls r).2 hunowned⟩, rfl⟩
  · rw [List.length_map, ← List.countP_eq_length_filter]
    refine Transform.totalFallbacks_map_eq_countP fun r _ => ?_
    rw [outputOf_ownership, fallbacks_ownedOutput]

end Commits

/-- **Every part can be told its owner.** Over every address book and every store that is consistent
at the tenth version, the step from there is committed, however its pass is divided among workers.
Then every part has the content id of the message with the least key among those that list it, or
zero if no message does, and nothing else has changed in the records. The step counts as fallbacks
the parts that no message lists. -/
theorem partOwners_of_step (lookup : Lookup) :
    ∃ registry, Messages.registry lookup = .ok registry ∧
      ∀ (config : PassConfig) (journal : Journal) (s : Store), registry.Consistent 10 s →
        ∃ report journal' s',
          registry.stepFrom config 10 journal s = (.ok (report, journal'), s') ∧
          registry.Consistent 11 s' ∧ Owned s s' ∧
          ∃ unowned : List Key, unowned.Nodup ∧
            (∀ key, key ∈ unowned ↔ s.get? mmsPart key ≠ none ∧ Unowned s key) ∧
            report.fallbacks = unowned.length := by
  obtain ⟨registry, hregistry, hcurrent⟩ := exists_registry lookup
  refine ⟨registry, hregistry, fun config journal s hs => ?_⟩
  have hcomplete := complete hregistry hcurrent
  have hstep := stepFor?_ownership hregistry
  obtain ⟨report, journal', s₁, hcommits, htaken, -⟩ :=
    hcomplete.exists_commits config hs hstep (Nat.zero_le _) journal
  obtain ⟨live, next, hlive, -, hnext, -⟩ := Registry.exists_accepts hregistry hstep
  obtain ⟨live', hlive', -, -, hholds⟩ := hs.live
  rw [hlive] at hlive'
  cases hlive'
  obtain ⟨unowned, hnodup, hmem, htotal⟩ := exists_unowned hregistry hlive hholds
  refine ⟨report, journal', s₁.writeJournal journal', htaken,
    (hcommits.consistent hregistry hcomplete.names hs).congr _ _,
    (owned_of_commits hregistry hlive hholds hs hcommits).writeJournal journal', unowned, hnodup,
    hmem, ?_⟩
  have hcount := hcommits.fallbacks_add_firsts hregistry hcomplete.names hs hstep
    (transform?_ownership lookup) hlive hnext
  rw [emissions_ownership, htotal] at hcount
  exact hcount

open Strata.Field in
/-- Messages at the tenth version. -/
def messageAtTenth : Entity :=
  messageAtFirst.addField ((plain "subId" .int).withDefault (.int 0))

open Strata.Field in
/-- Parts at the tenth version. -/
def mmsPartAtTenth : Entity :=
  ((mmsPartAtFirst.removeField "image").addField ((plain "seq" .int).withDefault (.int 0))).addField
    (optional "name" .str)

/-- A message with a content id and a list of parts. -/
def messageOfParts (id content : Int64) (parts : List Key) : Record :=
  messageAtTenth.fillDefaults
    (((Record.keyed "id" (.int id)).set "contentId" (.int content)).set "parts" (.refs parts))

/-- A part without a text. -/
def barePart (id : Int64) : Record := mmsPartAtTenth.fillDefaults (.keyed "id" (.int id))

/-- A store at the tenth version with two messages, of which both list the first of two parts, one
of them twice, and none the second. -/
def sharedPart (schema : Schema) : Store :=
  ((((Store.ofSchema schema 10).putRecord mmsPart (barePart 1)).putRecord mmsPart
    (barePart 2)).putRecord message (messageOfParts 5 500 [.int 1])).putRecord message
      (messageOfParts 2 200 [.int 1, .int 1])

theorem key_messageOfParts (id content : Int64) (parts : List Key) :
    (messageOfParts id content parts).key = .int id := Entity.key_fillDefaults _ _

theorem key_barePart (id : Int64) : (barePart id).key = .int id := Entity.key_fillDefaults _ _

theorem parts_messageOfParts (id content : Int64) (parts : List Key) :
    (messageOfParts id content parts).get? "parts" = some (.refs parts) :=
  (Entity.get?_fillDefaults (by decide) _ _).trans rfl

theorem contentId_messageOfParts (id content : Int64) (parts : List Key) :
    (messageOfParts id content parts).get? "contentId" = some (.int content) :=
  (Entity.get?_fillDefaults (by decide) _ _).trans rfl

/-- The messages of the store. -/
theorem get?_sharedPart (schema : Schema) (key : Key) :
    (sharedPart schema).get? message key =
      if .int 2 = key then some (messageOfParts 2 200 [.int 1, .int 1])
      else if .int 5 = key then some (messageOfParts 5 500 [.int 1])
      else none := by
  have hmessage : NulFree message := by decide
  have hpart : NulFree mmsPart := by decide
  have hne : mmsPart ≠ message := by decide
  unfold sharedPart
  simp only [Store.get?_putRecord _ hmessage hmessage, Store.get?_putRecord _ hpart hmessage, hne,
    key_messageOfParts, false_and, if_false, true_and]
  simp [Store.get?, Store.ofSchema, Store.empty]

/-- The parts of the store. -/
theorem get?_mmsPart_sharedPart (schema : Schema) (key : Key) :
    (sharedPart schema).get? mmsPart key =
      if .int 2 = key then some (barePart 2) else if .int 1 = key then some (barePart 1)
      else none := by
  have hmessage : NulFree message := by decide
  have hpart : NulFree mmsPart := by decide
  have hne : message ≠ mmsPart := by decide
  unfold sharedPart
  simp only [Store.get?_putRecord _ hmessage hpart, Store.get?_putRecord _ hpart hpart, hne,
    key_barePart, false_and, if_false, true_and]
  simp [Store.get?, Store.ofSchema, Store.empty]

/-- The first of the two messages owns the first part. -/
theorem owns_sharedPart (schema : Schema) :
    Owns (sharedPart schema) (messageOfParts 2 200 [.int 1, .int 1]) (.int 1) := by
  refine ⟨?_, ⟨_, parts_messageOfParts .., List.mem_cons_self⟩, fun key m' hm' _ => ?_⟩
  · rw [key_messageOfParts, get?_sharedPart, if_pos rfl]
  · rw [get?_sharedPart] at hm'
    split at hm'
    · exact .inl (Option.some.inj hm').symm
    · split at hm'
      · next heq =>
        rw [key_messageOfParts, ← heq]
        exact .inr (show (2 : Int64).toInt < (5 : Int64).toInt by decide)
      · cases hm'

/-- No message lists the second part. -/
theorem unowned_sharedPart (schema : Schema) : Unowned (sharedPart schema) (.int 2) := by
  intro key m hm
  have hparts : ∃ parts, m.get? "parts" = some (.refs parts) ∧ .int 2 ∉ parts := by
    rw [get?_sharedPart] at hm
    split at hm
    · exact ⟨_, Option.some.inj hm ▸ parts_messageOfParts .., by decide⟩
    · split at hm
      · exact ⟨_, Option.some.inj hm ▸ parts_messageOfParts .., by decide⟩
      · cases hm
  obtain ⟨parts, hparts, hnot⟩ := hparts
  rintro ⟨parts', hparts', hmem⟩
  rw [hparts] at hparts'
  cases hparts'
  exact hnot hmem

/-- The store is one of the tenth version. -/
theorem consistent_sharedPart {registry : Registry} {schema : Schema}
    (h : Messages.registry lookup = .ok registry) (hschema : registry.schemaAt? 10 = some schema) :
    registry.Consistent 10 (sharedPart schema) := by
  have hmessage : schema.entity? message = some messageAtTenth :=
    (entity?_schemaAt? h (by decide) hschema message).trans rfl
  have hpart : schema.entity? mmsPart = some mmsPartAtTenth :=
    (entity?_schemaAt? h (by decide) hschema mmsPart).trans rfl
  have hempty := Registry.consistent_ofSchema hschema
  exact (((hempty.putRecord rfl hpart (by decide +kernel)).putRecord rfl hpart
    (by decide +kernel)).putRecord rfl hmessage (by decide +kernel)).putRecord rfl hmessage
      (by decide +kernel)

/-- A part that two messages list is told the first of them, and one that none lists is told
zero. -/
theorem partOwners_of_step_sharedPart :
    ∃ registry schema report journal s', Messages.registry noContacts = .ok registry ∧
      registry.schemaAt? 10 = some schema ∧ registry.Consistent 10 (sharedPart schema) ∧
      registry.stepFrom .standard 10 (.begin 10 15) (sharedPart schema) =
        (.ok (report, journal), s') ∧
      (∃ new, s'.get? mmsPart (.int 1) = some new ∧ new.get? "messageId" = some (.int 200)) ∧
      (∃ new, s'.get? mmsPart (.int 2) = some new ∧ new.get? "messageId" = some (.int 0)) ∧
      report.fallbacks = 1 := by
  obtain ⟨registry, hregistry, hstep⟩ := partOwners_of_step noContacts
  obtain ⟨schema, hschema, -⟩ : ∃ schema, registry.schemaAt? 10 = some schema ∧ _ :=
    Registry.entity?_of_consecutive hregistry (steps_source noContacts) (show 10 ≤ 15 by decide)
  have hs := consistent_sharedPart hregistry hschema
  obtain ⟨report, journal, s', htaken, -, howned, unowned, hnodup, hmem, hfallbacks⟩ :=
    hstep .standard (.begin 10 15) (sharedPart schema) hs
  have hfirst := (get?_mmsPart_sharedPart schema (.int 1)).trans rfl
  have hsecond := (get?_mmsPart_sharedPart schema (.int 2)).trans rfl
  refine ⟨registry, schema, report, journal, s', hregistry, hschema, hs, htaken, ?_, ?_, ?_⟩
  · obtain ⟨new, hnew, hisOwned⟩ := howned.part_new (.int 1) (barePart 1) hfirst
    refine ⟨new, hnew, ?_⟩
    have howns := owns_sharedPart schema
    rw [← key_barePart 1] at howns
    rcases hisOwned.messageId with ⟨m, id, hm, hid, hnew⟩ | ⟨hunowned, -⟩
    · rw [howns.unique hm, contentId_messageOfParts] at hid
      cases hid
      exact hnew
    · exact absurd howns.lists (hunowned _ _ howns.stored)
  · obtain ⟨new, hnew, hisOwned⟩ := howned.part_new (.int 2) (barePart 2) hsecond
    refine ⟨new, hnew, ?_⟩
    rcases hisOwned.messageId with ⟨m, id, hm, -⟩ | ⟨-, hnew⟩
    · rw [key_barePart] at hm
      exact absurd hm.lists (unowned_sharedPart schema _ m hm.stored)
    · exact hnew
  · -- The second part is the only one without an owner.
    have honly : ∀ key, key ∈ unowned ↔ key ∈ [Key.int 2] := by
      intro key
      rw [hmem, List.mem_singleton]
      constructor
      · rintro ⟨hstored, hunowned⟩
        rw [get?_mmsPart_sharedPart] at hstored
        split at hstored
        · next heq => exact heq.symm
        · split at hstored
          · next heq =>
            have howns := owns_sharedPart schema
            rw [heq] at howns
            exact absurd howns.lists (hunowned _ _ howns.stored)
          · exact absurd rfl hstored
      · rintro rfl
        rw [hsecond]
        exact ⟨Option.some_ne_none _, unowned_sharedPart schema⟩
    rw [hfallbacks]
    exact ((List.perm_ext_iff_of_nodup hnodup (List.nodup_singleton _)).2 honly).length_eq

end Messages

end Strata

import Strata.Messages.History
import Strata.Proofs.Completion
import Strata.Proofs.Definitions

/-!
# The history of the message store is total

No step of the message store can fail on a store of the schema it starts from, whatever address book
the history is given (`Messages.complete`): each transform sets fields of its own entity to values
that they admit, the contacts emit phone numbers into the table that is rebuilt, and the revisions
never give up. So a run brings every consistent store of any version to the fifteenth.
-/

namespace Strata.Messages

open Registry (defineAll)

/-! ## Transforms -/

section Transforms

variable {next : Schema} {emptied : List String} {e : Entity}

/-- A reference to a record or to none is admitted by a field that may be unset. -/
theorem admits_ofRef? (name target : String) (key? : Option Key) :
    (Field.optional name (.ref target)).admits (.ofRef? key?) = true := by
  cases key? <;> rfl

/-- A text or none is admitted by a field that may be unset. -/
theorem admits_ofStr? (name : String) (text? : Option String) :
    (Field.optional name .str).admits (.ofStr? text?) = true := by
  cases text? <;> rfl

/-- Conversations can be pointed at their last messages. -/
theorem lastMessage_total (hnames : e.fieldNames.Nodup)
    (hfield : e.field? "lastMessage" = some (.optional "lastMessage" (.ref message))) :
    lastMessage.Total next emptied e := by
  intro r cx hr
  exact ⟨_, rfl, rfl, hr.setField hnames hfield rfl (admits_ofRef? _ _ _),
    by simp [Transform.Output.ofRecord]⟩

/-- Parts can be pointed at their messages. -/
theorem partMessageId_total (hnames : e.fieldNames.Nodup)
    (hfield : e.field? "messageId" =
      some ((Field.plain "messageId" .int).withDefault (.int 0)).withIndex) :
    partMessageId.Total next emptied e := by
  intro r cx hr
  unfold partMessageId
  split
  · exact ⟨_, rfl, rfl, hr.setField hnames hfield rfl rfl, by simp [Transform.Output.ofRecord]⟩
  · exact ⟨_, rfl, rfl, hr.setField hnames hfield rfl rfl,
      by simp [Transform.Output.ofRecord, Transform.Output.fallback]⟩

/-- Conversations can be marked as groups. -/
theorem sendAsGroup_total (hnames : e.fieldNames.Nodup)
    (hfield : e.field? "sendAsGroup" =
      some ((Field.plain "sendAsGroup" .bool).withDefault (.bool false))) :
    sendAsGroup.Total next emptied e := by
  intro r cx hr
  exact ⟨_, rfl, rfl, hr.setField hnames hfield rfl rfl, by simp [Transform.Output.ofRecord]⟩

/-- Phone numbers as they are rebuilt. -/
def phoneNumberTable : Entity where
  name := phoneNumber
  fields := [
    (Field.plain "address" .str).withDefault (.str ""),
    (Field.plain "type" .str).withDefault (.str ""),
    .primary "id" .int,
    .optional "accountType" .str,
    (Field.plain "isDefault" .bool).withDefault (.bool false)]

/-- The record of a phone number from an address book has all its fields and fits. -/
theorem phoneNumberRecord_fits (n : ContactNumber) :
    phoneNumberTable.Fits (phoneNumberTable.fillDefaults (phoneNumberRecord n)) := by
  have hfilled : phoneNumberTable.fillDefaults (phoneNumberRecord n) = phoneNumberRecord n := rfl
  rw [hfilled]
  refine ⟨fun f hf => ?_, fun name hname => ?_, ?_⟩
  · simp only [phoneNumberTable, List.mem_cons, List.not_mem_nil, or_false] at hf
    rcases hf with rfl | rfl | rfl | rfl | rfl
    · exact ⟨_, rfl, rfl⟩
    · exact ⟨_, rfl, rfl⟩
    · exact ⟨_, rfl, rfl⟩
    · exact ⟨_, rfl, admits_ofStr? _ _⟩
    · exact ⟨_, rfl, rfl⟩
  · have hkeys : (phoneNumberRecord n).fields.keys =
        ["accountType", "address", "id", "isDefault", "type"] := rfl
    unfold Record.has at hname
    rw [← Std.ExtTreeMap.mem_iff_contains, ← Std.ExtTreeMap.mem_keys, hkeys] at hname
    simp only [List.mem_cons, List.not_mem_nil, or_false] at hname
    rcases hname with rfl | rfl | rfl | rfl | rfl <;> rfl
  · change (some (Value.int n.id) == some (Value.int n.id)) = true
    exact beq_self_eq_true _

/-- The lookup key of a contact is its primary key, so it is never missing, and it is a text. -/
theorem exists_lookupKey {r : Record} (hr : e.Fits r)
    (hkey : e.field? "lookupKey" = some (.primary "lookupKey" .str)) :
    ∃ key, r.get? "lookupKey" = some (.str key) := by
  obtain ⟨value, hvalue, hadmits⟩ := hr.admitted _ (List.mem_of_find?_eq_some hkey)
  cases value with
  | str key => exact ⟨key, hvalue⟩
  | _ => cases hadmits

/-- The numbers and the photo of a contact can be rebuilt: it has a lookup key, and every number may
be emitted. -/
theorem contactNumbers_total (lookup : Lookup) (hnames : e.fieldNames.Nodup)
    (hkey : e.field? "lookupKey" = some (.primary "lookupKey" .str))
    (hnumbers : e.field? "numbers" = some (.list "numbers" (.refs phoneNumber)))
    (hphoto : e.field? "photoUri" = some (.optional "photoUri" .str))
    (hphone : next.entity? phoneNumber = some phoneNumberTable) :
    (contactNumbers lookup).Total next [phoneNumber] e := by
  intro r cx hr
  obtain ⟨key, hvalue⟩ := exists_lookupKey hr hkey
  have hlookupKey : r.str? "lookupKey" = some key := by
    unfold Record.str?
    rw [hvalue]
    rfl
  unfold contactNumbers
  rw [hlookupKey]
  dsimp only
  cases lookup key with
  | none =>
    exact ⟨_, rfl, rfl, (hr.setField hnames hnumbers rfl rfl).setField hnames hphoto rfl rfl,
      by simp [unknownContact]⟩
  | some numbers =>
    refine ⟨_, rfl, rfl, (hr.setField hnames hnumbers rfl rfl).setField hnames hphoto rfl
      (admits_ofStr? _ _), fun p hp => ?_⟩
    obtain ⟨n, -, rfl⟩ := List.mem_map.1 hp
    exact ⟨List.mem_singleton.2 rfl, phoneNumberTable, hphone, rfl, phoneNumberRecord_fits n⟩

end Transforms

/-! ## The history -/

variable (lookup : Lookup)

/-- The first message store is well formed. -/
theorem baseline_wellFormed : baseline.WellFormed :=
  Schema.wellFormed_ofList (by decide) (by decide) (by decide)

/-- The history is accepted over every address book, and ends at the fifteenth version. -/
theorem exists_registry :
    ∃ r, registry lookup = .ok r ∧ r.currentVersion = 15 := by
  have hversion : (registry lookup).map Registry.currentVersion = .ok 15 := by rfl
  cases hregistry : registry lookup with
  | error e =>
    rw [hregistry] at hversion
    cases hversion
  | ok r =>
    rw [hregistry] at hversion
    exact ⟨r, rfl, Except.ok.inj hversion⟩

/-- The steps start from one version after the other. -/
theorem steps_source : (steps lookup).map (·.source) = List.range' baseline.version 15 := by rfl

variable {lookup} {r : Registry} {version : Nat} {schema : Schema}

/-- Each version defines an entity by the steps before it. -/
theorem entity?_schemaAt? (h : registry lookup = .ok r) (hversion : version ≤ 15)
    (hschema : r.schemaAt? version = some schema) (name : String) :
    schema.entity? name = defineAll name (baseline.entity? name) ((steps lookup).take version) := by
  obtain ⟨schema', hschema', hdefined⟩ :=
    Registry.entity?_of_consecutive h (steps_source lookup) hversion
  have hsame : r.schemaAt? version = some schema' := by
    rw [← hschema']
    exact congrArg r.schemaAt? (Nat.zero_add version).symm
  rw [hschema] at hsame
  cases hsame
  exact hdefined name

/-- No entity name of the history holds the null character. -/
theorem nulFreeNames (h : registry lookup = .ok r) (hschema : r.schemaAt? version = some schema) :
    schema.NulFreeNames := by
  refine Registry.names_of_schemaAt? h NulFree (fun name hname => ?_) (fun step hstep e he => ?_)
    hschema
  · exact Schema.nulFreeNames_ofList (by decide) name hname
  · have hedits : (steps lookup).map (·.edits) = (steps noContacts).map (·.edits) := rfl
    have hall : ∀ edits ∈ (steps noContacts).map (·.edits), ∀ edit ∈ edits,
        NulFree edit.entity := by decide
    exact hall step.edits (hedits ▸ List.mem_map_of_mem hstep) (.createTable e) he

/-- An entity that the steps before a version define exists there, with the fields that they give
it, whose names are distinct. -/
theorem exists_entity (h : registry lookup = .ok r) (hversion : version ≤ 15)
    (hschema : r.schemaAt? version = some schema) (name : String)
    (hsome : (defineAll name (baseline.entity? name) ((steps lookup).take version)).isSome = true) :
    ∃ e, schema.entity? name = some e ∧ e.fieldNames.Nodup ∧ ∀ field, e.field? field =
      (defineAll name (baseline.entity? name) ((steps lookup).take version)).bind
        (·.field? field) := by
  obtain ⟨e, he⟩ := Option.isSome_iff_exists.1 hsome
  have hentity : schema.entity? name = some e :=
    (entity?_schemaAt? h hversion hschema name).trans he
  refine ⟨e, hentity, ?_, fun field => ?_⟩
  · exact Registry.distinctFields_of_schemaAt? h baseline_wellFormed.distinct hschema name e hentity
  · rw [he]
    rfl

/-- No step of the history can fail on a store of the schema it starts from. -/
theorem total (h : registry lookup = .ok r) {step : Step} (hmem : step ∈ steps lookup)
    {live next : Schema} (hlive : r.schemaAt? step.source = some live)
    (hnext : r.schemaAt? step.target = some next) : step.Total live next := by
  simp only [steps, List.mem_cons, List.not_mem_nil, or_false] at hmem
  rcases hmem with rfl | rfl | rfl | rfl | rfl | rfl | rfl | rfl | rfl | rfl | rfl | rfl | rfl |
    rfl | rfl
  · exact Step.total_of_plain rfl rfl nofun
  · exact Step.total_of_plain rfl rfl nofun
  · exact Step.total_of_plain rfl rfl nofun
  · exact Step.total_of_plain rfl rfl nofun
  · exact Step.total_of_plain rfl rfl nofun
  · exact Step.total_of_plain rfl rfl nofun
  · exact Step.total_of_plain rfl rfl nofun
  · -- Conversations are pointed at their last messages.
    obtain ⟨e, he, hnames, hfields⟩ := exists_entity h (by decide) hnext conversation rfl
    have hlast : lastMessage.Total next [] e :=
      lastMessage_total hnames ((hfields "lastMessage").trans rfl)
    exact Step.total_of_transform rfl List.not_mem_nil he hlast rfl nofun
  · -- Phone numbers are rebuilt from the address book.
    have hnext : r.schemaAt? 9 = some next := hnext
    have hkept : contact ∉ [phoneNumber] := by decide
    obtain ⟨e, he, hnames, hfields⟩ := exists_entity h (by decide) hnext contact rfl
    have hphone : next.entity? phoneNumber = some phoneNumberTable :=
      (entity?_schemaAt? h (by decide) hnext phoneNumber).trans rfl
    have hnumbers : (contactNumbers lookup).Total next [phoneNumber] e :=
      contactNumbers_total lookup hnames ((hfields "lookupKey").trans rfl)
        ((hfields "numbers").trans rfl) ((hfields "photoUri").trans rfl) hphone
    refine Step.total_of_transform rfl hkept he hnumbers rfl fun revision hrevision => ?_
    cases hrevision
    exact fun snapshot edits => ⟨_, rfl⟩
  · refine Step.total_of_plain rfl rfl fun revision hrevision => ?_
    cases hrevision
    exact fun snapshot edits => ⟨_, rfl⟩
  · -- Parts are pointed at their messages.
    obtain ⟨e, he, hnames, hfields⟩ := exists_entity h (by decide) hnext mmsPart rfl
    have hpart : partMessageId.Total next [] e :=
      partMessageId_total hnames ((hfields "messageId").trans rfl)
    exact Step.total_of_transform rfl List.not_mem_nil he hpart rfl nofun
  · exact Step.total_of_plain rfl rfl nofun
  · exact Step.total_of_plain rfl rfl nofun
  · -- The mark for collecting reactions is inserted into its new table.
    refine ⟨nofun, .inr ⟨rfl, emojiSyncNeeded, Record.keyless.set "createdAt" (.int 0),
      emojiSyncNeededTable, rfl, ?_, ?_, rfl, fun n => Entity.fits_iff.2 rfl⟩, nofun⟩
    · rw [Schema.hasEntity_eq_isSome, entity?_schemaAt? h (by decide) hlive]
      rfl
    · exact (entity?_schemaAt? h (by decide) hnext emojiSyncNeeded).trans rfl
  · -- Conversations are marked as groups.
    obtain ⟨e, he, hnames, hfields⟩ := exists_entity h (by decide) hnext conversation rfl
    have hgroup : sendAsGroup.Total next [] e :=
      sendAsGroup_total hnames ((hfields "sendAsGroup").trans rfl)
    exact Step.total_of_transform rfl List.not_mem_nil he hgroup rfl nofun

/-- The history is complete over every address book. -/
theorem complete (h : registry lookup = .ok r) (hversion : r.currentVersion = 15) :
    Registry.Complete baseline (steps lookup) r where
  built := h
  distinct := baseline_wellFormed.distinct
  names _ _ := nulFreeNames h
  entities := by
    have hcurrent := Registry.schemaAt?_current h
    rw [hversion] at hcurrent
    obtain ⟨e, he, -⟩ := exists_entity h (by decide) hcurrent conversation rfl
    rw [Std.ExtTreeMap.isEmpty_eq_false_iff]
    intro hempty
    unfold Schema.entity? at he
    rw [hempty, Std.ExtTreeMap.getElem?_empty] at he
    cases he
  dense version _ _ hlt := by
    rw [hversion] at hlt
    have hlength : version < (steps lookup).length := hlt
    have hstep := Registry.stepFor?_of_consecutive h (steps_source lookup) hlength
    exact ⟨_, (congrArg r.stepFor? (Nat.zero_add version)).symm.trans hstep⟩
  total _ hmem _ _ := total h hmem

/-- Only the step from the thirteenth version inserts a record. -/
theorem insertedFrom_steps (lookup : Lookup) (version : Nat) :
    Registry.insertedFrom (steps lookup) version = if version ≤ 13 then 1 else 0 := by
  simp [Registry.insertedFrom, steps, Step.ofSource, Step.addField, Step.removeField, Step.withEdit,
    Step.createTable, Step.addReference, Step.addReferenceList, Step.withTransform,
    Step.withRevision, Step.clearTable, Step.insert]

/-- **The message store can always be brought forward.** Over every address book the history is
accepted, and a run over a store that is consistent at any of its versions, whose last run did not
fail, succeeds and leaves a store at the fifteenth version with the current schema, in which a full
check finds nothing. Up to the thirteenth version the storage engine has to hand out one more row
number, for the record that the step from there inserts. -/
theorem run_total (lookup : Lookup) :
    ∃ registry, Messages.registry lookup = .ok registry ∧
      ∀ (config : RunConfig) (version : Nat) (s : Store), version ≤ 15 →
        registry.Consistent version s →
        (∃ journal, s.readJournal = .ok journal ∧ ∀ j, journal = some j → j.isFailed = false) →
        (version ≤ 13 → s.rows.draw?.isSome = true) →
        (∃ report, (registry.run config s).outcome = .ok report) ∧
          (registry.run config s).store.stamped? = some 15 ∧
          (registry.run config s).store.schema? = some registry.current ∧
          Checker.violations (registry.run config s).store registry true = .ok [] := by
  obtain ⟨registry, hregistry, hcurrent⟩ := exists_registry lookup
  have hcomplete := complete hregistry hcurrent
  refine ⟨registry, hregistry, ?_⟩
  rintro config version s hversion hs ⟨journal, hread, hfailed⟩ hrow
  have hblocks : Registry.blocks config journal = none := by
    cases journal with
    | none => rfl
    | some j =>
      unfold Registry.blocks
      rw [Option.filter_some, hfailed j rfl]
      rfl
  -- From the fourteenth version on, nothing is inserted and no row number is needed.
  have hrows : Registry.insertedFrom (steps lookup) version ≤ s.rows.left := by
    rw [insertedFrom_steps]
    split
    · next hle =>
      have hdrawn := hrow hle
      unfold RowCounter.draw? at hdrawn
      split at hdrawn
      · next hlt => exact Nat.sub_pos_of_lt hlt
      · cases hdrawn
    · exact Nat.zero_le _
  obtain ⟨hok, hend⟩ := hcomplete.exists_run config hs (by omega) hread hblocks hrows
  have hviolations := hcomplete.violations_eq hend true
  obtain ⟨schema, hschema, hlive, -⟩ := hend.live
  rw [Registry.schemaAt?_current hregistry] at hschema
  cases hschema
  exact ⟨hok, hcurrent ▸ hend.stamped, hlive, hviolations⟩

/-- An address book that knows one contact, by two numbers under one id. -/
def oneContact : Lookup := fun key =>
  if key = "ann" then
    some [⟨7, "555-0001", "home", none, none⟩, ⟨7, "555-0002", "work", none, none⟩]
  else none

/-- A store at the eighth version that holds that contact. -/
def storeAtEighth (schema : Schema) : Store :=
  (Store.ofSchema schema 8).putRecord contact
    ((((Record.keyed "lookupKey" (.str "ann")).set "numbers" (.refs [])).set "name"
      (.str "Ann")).set "lastUpdate" (.int 0))

/-- A run from the version before the numbers are rebuilt. -/
theorem run_total_oneContact :
    ∃ registry schema, Messages.registry oneContact = .ok registry ∧
      registry.schemaAt? 8 = some schema ∧ registry.Consistent 8 (storeAtEighth schema) ∧
      (∃ report, (registry.run .standard (storeAtEighth schema)).outcome = .ok report) ∧
      (registry.run .standard (storeAtEighth schema)).store.stamped? = some 15 := by
  obtain ⟨registry, hregistry, hrun⟩ := run_total oneContact
  obtain ⟨schema, hschema, -⟩ : ∃ schema, registry.schemaAt? 8 = some schema ∧ _ :=
    Registry.entity?_of_consecutive hregistry (steps_source oneContact) (show 8 ≤ 15 by decide)
  have hcontact : schema.entity? contact = some contactAtFirst :=
    (entity?_schemaAt? hregistry (by decide) hschema contact).trans rfl
  have hconsistent : registry.Consistent 8 (storeAtEighth schema) :=
    (Registry.consistent_ofSchema hschema).putRecord rfl hcontact rfl
  obtain ⟨hok, hstamped, -⟩ := hrun .standard 8 (storeAtEighth schema) (by decide) hconsistent
    ⟨none, rfl, nofun⟩ (fun _ => rfl)
  exact ⟨registry, schema, hregistry, hschema, hconsistent, hok, hstamped⟩

end Strata.Messages

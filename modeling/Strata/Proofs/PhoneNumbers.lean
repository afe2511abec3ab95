import Strata.Proofs.Emissions
import Strata.Proofs.KeyOrder
import Strata.Proofs.MessageHistory
import Strata.Proofs.Reachable

/-!
# The rebuilt phone numbers

The step from the eighth version empties the phone numbers, which had row numbers, and fills them
again from an address book: every contact emits its numbers, of which the first under each id is
kept (`Draft.mem_firsts_iff`). `Rebuild` says what the step leaves, and `phoneNumbers_of_step` that
it does so over every consistent store and every address book, however its contacts share numbers.
Since the references of a contact are the ids of the numbers it emits, each of them resolves
(`Rebuild.resolves`), and every number is referred to (`Rebuild.referenced`).
-/

namespace Strata

namespace Messages

open Transform (Output)

/-! ## What the rebuild leaves -/

/-- The numbers of a contact by its lookup key; a contact that the address book does not know has
none. -/
def numbersOf (lookup : Lookup) (key : String) : List ContactNumber := (lookup key).getD []

/-- The numbers of contacts, one contact after the other. -/
def allNumbers (lookup : Lookup) (keys : List String) : List ContactNumber :=
  keys.flatMap (numbersOf lookup)

/-- A record is that of a number from an address book. -/
structure IsNumber (n : ContactNumber) (p : Record) : Prop where
  /-- The id of the number is its key. -/
  key : p.key = .int n.id
  /-- It has what the address book says of the number, and no other field. -/
  fields : p.fields.toList = [("accountType", .ofStr? n.accountType?), ("address", .str n.address),
    ("id", .int n.id), ("isDefault", .bool false), ("type", .str n.label)]

/-- A contact as it was and as it is once its numbers are those of an address book. -/
structure IsRebuilt (lookup : Lookup) (key : String) (old new : Record) : Prop where
  /-- It refers to its numbers by their ids, in the order of the address book. -/
  numbers : new.get? "numbers" = some (.refs ((numbersOf lookup key).map fun n => .int n.id))
  /-- It has the first photo among its numbers, if there is any. -/
  photo : new.get? "photoUri" =
    some (.ofStr? ((numbersOf lookup key).findSome? (·.photoUri?)))
  /-- It is not starred. -/
  starred : new.get? "starred" = some (.bool false)
  /-- Its other fields are as they were. -/
  others : ∀ name, name ≠ "numbers" → name ≠ "photoUri" → name ≠ "starred" →
    new.get? name = old.get? name

/-- A store in which the numbers of the contacts of an earlier one are those of an address book. The
contacts are listed by their lookup keys. -/
structure Rebuild (lookup : Lookup) (keys : List String) (s s' : Store) : Prop where
  /-- The contacts are in the order of their keys. -/
  sorted : keys.Pairwise fun a b => (Key.str a).Before (.str b)
  /-- The contacts of the earlier store are those listed. -/
  listed : ∀ key, s.get? contact key ≠ none ↔ ∃ k ∈ keys, key = .str k
  /-- No contact is new. -/
  contact_old : ∀ key, s'.get? contact key ≠ none → s.get? contact key ≠ none
  /-- Every contact is there, rebuilt. -/
  contact_new : ∀ k old, s.get? contact (.str k) = some old →
    ∃ new, s'.get? contact (.str k) = some new ∧ IsRebuilt lookup k old new
  /-- Under an id there is the record of the first number of all contacts that has it. -/
  number : ∀ id p, s'.get? phoneNumber (.int id) = some p ↔
    ∃ n, (allNumbers lookup keys).find? (·.id == id) = some n ∧ IsNumber n p
  /-- No number has another key than an id. -/
  number_keyed : ∀ key, s'.get? phoneNumber key ≠ none → ∃ id, key = .int id

variable {lookup : Lookup} {keys : List String} {s s' : Store}

/-- The record of a number is the one that is emitted for it. -/
theorem isNumber_iff {n : ContactNumber} {p : Record} : IsNumber n p ↔ p = phoneNumberRecord n := by
  constructor
  · rintro ⟨hkey, hfields⟩
    obtain ⟨key, fields⟩ := p
    obtain rfl : key = .int n.id := hkey
    have hsame : fields = (phoneNumberRecord n).fields :=
      Std.ExtTreeMap.ext_toList (List.Perm.of_eq hfields)
    rw [hsame]
    rfl
  · rintro rfl
    exact ⟨rfl, rfl⟩

/-- A rebuilt contact refers to its numbers by their ids. -/
theorem IsRebuilt.refs_eq {key : String} {old new : Record} (h : IsRebuilt lookup key old new) :
    new.refs "numbers" = (numbersOf lookup key).map fun n => .int n.id := by
  unfold Record.refs
  rw [h.numbers]
  rfl

/-- A contact of the later store is one of the earlier store, rebuilt. -/
theorem Rebuild.exists_old (h : Rebuild lookup keys s s') {key : Key} {new : Record}
    (hnew : s'.get? contact key = some new) :
    ∃ k ∈ keys, key = .str k ∧ ∃ old, s.get? contact key = some old ∧
      IsRebuilt lookup k old new := by
  have hold : s.get? contact key ≠ none := by
    refine h.contact_old key ?_
    rw [hnew]
    exact Option.some_ne_none new
  obtain ⟨k, hk, rfl⟩ := (h.listed key).1 hold
  obtain ⟨old, hold⟩ := Option.ne_none_iff_exists'.1 hold
  obtain ⟨new', hnew', hrebuilt⟩ := h.contact_new k old hold
  rw [hnew] at hnew'
  cases hnew'
  exact ⟨k, hk, rfl, old, hold, hrebuilt⟩

/-- A journal that is written afterwards changes nothing. -/
theorem Rebuild.writeJournal (h : Rebuild lookup keys s s') (journal : Journal) :
    Rebuild lookup keys s (s'.writeJournal journal) :=
  ⟨h.sorted, h.listed, h.contact_old, h.contact_new, h.number, h.number_keyed⟩

/-- A number of any contact is there under its id. -/
theorem Rebuild.number_of_mem (h : Rebuild lookup keys s s') {n : ContactNumber}
    (hn : n ∈ allNumbers lookup keys) : s'.get? phoneNumber (.int n.id) ≠ none := by
  obtain ⟨first, hfirst⟩ := Option.isSome_iff_exists.1
    ((List.find?_isSome (p := (·.id == n.id))).2 ⟨n, hn, beq_self_eq_true n.id⟩)
  rw [(h.number n.id _).2 ⟨first, hfirst, isNumber_iff.2 rfl⟩]
  exact Option.some_ne_none _

/-- Every number that a rebuilt contact refers to is there. -/
theorem Rebuild.resolves (h : Rebuild lookup keys s s') {key : Key} {new : Record}
    (hnew : s'.get? contact key = some new) {target : Key} (htarget : target ∈ new.refs "numbers") :
    s'.get? phoneNumber target ≠ none := by
  obtain ⟨k, hk, -, old, -, hrebuilt⟩ := h.exists_old hnew
  rw [hrebuilt.refs_eq] at htarget
  obtain ⟨n, hn, rfl⟩ := List.mem_map.1 htarget
  exact h.number_of_mem (List.mem_flatMap.2 ⟨k, hk, hn⟩)

/-- Every number is referred to by a contact. -/
theorem Rebuild.referenced (h : Rebuild lookup keys s s') {target : Key}
    (htarget : s'.get? phoneNumber target ≠ none) :
    ∃ key new, s'.get? contact key = some new ∧ target ∈ new.refs "numbers" := by
  obtain ⟨id, rfl⟩ := h.number_keyed target htarget
  obtain ⟨p, hp⟩ := Option.ne_none_iff_exists'.1 htarget
  obtain ⟨n, hfind, -⟩ := (h.number id p).1 hp
  obtain ⟨k, hk, hn⟩ := List.mem_flatMap.1 (List.mem_of_find?_eq_some hfind)
  -- The contact that has the number was there before.
  obtain ⟨old, hold⟩ := Option.ne_none_iff_exists'.1 ((h.listed (.str k)).2 ⟨k, hk, rfl⟩)
  obtain ⟨new, hnew, hrebuilt⟩ := h.contact_new k old hold
  refine ⟨_, new, hnew, ?_⟩
  have hid : n.id = id := by simpa using List.find?_some hfind
  rw [hrebuilt.refs_eq, ← hid]
  exact List.mem_map_of_mem hn

/-! ## The step -/

/-- The step from the eighth version. -/
def rebuild (lookup : Lookup) : Step := (steps lookup).get ⟨8, (by decide : 8 < 15)⟩

/-- The lookup key of a contact. -/
def lookupKey (r : Record) : String := (r.str? "lookupKey").getD ""

/-- What the transform gives for a contact with a lookup key. -/
def rebuiltOutput (lookup : Lookup) (key : String) (r : Record) : Output where
  record := (r.set "numbers" (.refs ((numbersOf lookup key).map fun n => .int n.id))).set
    "photoUri" (.ofStr? ((numbersOf lookup key).findSome? (·.photoUri?)))
  emitted := (numbersOf lookup key).map fun n => (phoneNumber, phoneNumberRecord n)
  fallbacks := if (lookup key).isNone then 1 else 0

/-- A contact with a lookup key is transformed. -/
theorem contactNumbers_eq {r : Record} {key : String} (h : r.str? "lookupKey" = some key)
    (cx : Transform.Context) : contactNumbers lookup r cx = .ok (rebuiltOutput lookup key r) := by
  unfold contactNumbers rebuiltOutput numbersOf
  rw [h]
  dsimp only
  cases lookup key <;> rfl

/-- A transformed contact emits nothing but numbers. -/
theorem emitted_contactNumbers {r : Record} {cx : Transform.Context} {output : Output}
    (h : contactNumbers lookup r cx = .ok output) : ∀ q ∈ output.emitted, q.1 = phoneNumber := by
  cases hkey : r.str? "lookupKey" with
  | none =>
    unfold contactNumbers at h
    rw [hkey] at h
    cases h
  | some key =>
    rw [contactNumbers_eq hkey] at h
    cases h
    intro q hq
    obtain ⟨n, -, rfl⟩ := List.mem_map.1 hq
    rfl

/-- The edits of the step give a contact its two new fields. -/
theorem applyAllToRecord_rebuild (lookup : Lookup) (r : Record) :
    Edit.applyAllToRecord (rebuild lookup).edits contact r =
      (r.set "starred" (.bool false)).set "photoUri" .null := rfl

/-- A contact of the earlier store has its lookup key as its key. -/
theorem lookupKey_of_fits {r : Record} (h : contactAtFirst.Fits r) :
    ∃ k, r.key = .str k ∧ r.str? "lookupKey" = some k := by
  obtain ⟨k, hget⟩ := exists_lookupKey h rfl
  have hkey : r.key.fieldValue? = some (.str k) := by
    rw [← hget]
    exact beq_iff_eq.1 h.key
  refine ⟨k, ?_, ?_⟩
  · cases hr : r.key <;> rw [hr] at hkey <;> cases hkey
    rfl
  · unfold Record.str?
    rw [hget]
    rfl

theorem clears_rebuild (lookup : Lookup) : (rebuild lookup).clears = [phoneNumber] := rfl

theorem transform?_rebuild (lookup : Lookup) :
    (rebuild lookup).transform? = some (contact, contactNumbers lookup) := rfl

/-- The numbers are emptied, and no old one is settled. -/
theorem getElem?_settledTable_phoneNumber (lookup : Lookup) (before : Snapshot) (key : Key) :
    ((rebuild lookup).settledTable before phoneNumber)[key]? = none := by
  unfold Step.settledTable Step.editedTable
  rw [clears_rebuild, if_pos List.mem_cons_self]
  simp

/-- An edited contact is one that was there, with its two new fields. -/
theorem getElem?_editedTable_contact (lookup : Lookup) (before : Snapshot) (key : Key) :
    ((rebuild lookup).editedTable before contact)[key]? =
      (before.table contact)[key]?.map fun r =>
        (r.set "starred" (.bool false)).set "photoUri" .null := by
  have hkept : contact ∉ [phoneNumber] := by decide
  unfold Step.editedTable
  rw [clears_rebuild, if_neg hkept, Std.ExtTreeMap.getElem?_map]
  simp only [applyAllToRecord_rebuild]

/-- The lookup keys of the contacts, in order. -/
def lookupKeys (lookup : Lookup) (before : Snapshot) : List String :=
  ((rebuild lookup).editedTable before contact).values.map lookupKey

section Contacts

variable {before : Snapshot}
  (hcontacts : ∀ (key : Key) (r : Record), (before.table contact)[key]? = some r →
    r.key = key ∧ contactAtFirst.Fits r)
include hcontacts

/-- An edited contact has its lookup key as its key. -/
theorem lookupKey_of_edited {r : Record}
    (hr : r ∈ ((rebuild lookup).editedTable before contact).values) :
    r.key = .str (lookupKey r) ∧ r.str? "lookupKey" = some (lookupKey r) := by
  obtain ⟨key, hkey⟩ := mem_values_iff.1 hr
  rw [getElem?_editedTable_contact] at hkey
  obtain ⟨old, hold, rfl⟩ := Option.map_eq_some_iff.1 hkey
  obtain ⟨k, hk, hlookup⟩ := lookupKey_of_fits (hcontacts key old hold).2
  -- Neither of the new fields is the lookup key.
  have hlookup' : ((old.set "starred" (.bool false)).set "photoUri" .null).str? "lookupKey" =
      some k := by
    rw [← hlookup]
    unfold Record.str?
    rw [Record.get?_set, if_neg (by decide), Record.get?_set, if_neg (by decide)]
  unfold lookupKey
  rw [hlookup']
  exact ⟨hk, rfl⟩

/-- The transform gives for every edited contact what its lookup key asks for. -/
theorem outputOf_edited {r : Record}
    (hr : r ∈ ((rebuild lookup).editedTable before contact).values) :
    (rebuild lookup).outputOf before contact r = rebuiltOutput lookup (lookupKey r) r :=
  Step.outputOf_eq (transform?_rebuild lookup)
    (contactNumbers_eq (lookupKey_of_edited hcontacts hr).2 _)

/-- Every number of every contact is emitted. -/
theorem emissions_rebuild :
    (rebuild lookup).emissions before =
      (allNumbers lookup (lookupKeys lookup before)).map fun n =>
        (phoneNumber, phoneNumberRecord n) := by
  unfold Step.emissions allNumbers lookupKeys
  rw [transform?_rebuild, List.flatMap_map, List.map_flatMap]
  refine List.flatMap_congr fun r hr => ?_
  rw [outputOf_edited hcontacts hr]
  rfl

/-- Every contact that the address book does not know is a fallback. -/
theorem totalFallbacks_rebuild :
    Transform.totalFallbacks (((rebuild lookup).editedTable before contact).values.map
        ((rebuild lookup).outputOf before contact)) =
      (lookupKeys lookup before).countP fun k => (lookup k).isNone := by
  unfold lookupKeys
  rw [List.countP_map]
  refine Transform.totalFallbacks_map_eq_countP fun r hr => ?_
  rw [outputOf_edited hcontacts hr]
  rfl

/-- The edited contacts are under their keys. -/
theorem keyed_edited : ((rebuild lookup).editedTable before contact).Keyed := by
  intro key r hr
  rw [getElem?_editedTable_contact] at hr
  obtain ⟨old, hold, rfl⟩ := Option.map_eq_some_iff.1 hr
  exact (hcontacts key old hold).1

/-- The lookup keys are those of the contacts. -/
theorem ne_none_iff_mem_lookupKeys {key : Key} :
    (before.table contact)[key]? ≠ none ↔ ∃ k ∈ lookupKeys lookup before, key = .str k := by
  have hedited : (before.table contact)[key]? ≠ none ↔
      ((rebuild lookup).editedTable before contact)[key]? ≠ none := by
    rw [getElem?_editedTable_contact, ne_eq, ne_eq, Option.map_eq_none_iff]
  rw [hedited]
  constructor
  · intro hkey
    obtain ⟨r, hr⟩ := Option.ne_none_iff_exists'.1 hkey
    have hmem := mem_values_iff.2 ⟨key, hr⟩
    refine ⟨lookupKey r, List.mem_map_of_mem hmem, ?_⟩
    rw [← (lookupKey_of_edited hcontacts hmem).1]
    exact (keyed_edited hcontacts key r hr).symm
  · rintro ⟨k, hk, rfl⟩
    obtain ⟨r, hr, rfl⟩ := List.mem_map.1 hk
    rw [← (lookupKey_of_edited hcontacts hr).1, (keyed_edited hcontacts).mem_values_iff.1 hr]
    exact Option.some_ne_none r

/-- The lookup keys are in the order of the contacts. -/
theorem sorted_lookupKeys :
    (lookupKeys lookup before).Pairwise fun a b => (Key.str a).Before (.str b) := by
  unfold lookupKeys
  rw [List.pairwise_map]
  refine (keyed_edited hcontacts).sorted_values.imp_of_mem fun {a b} ha hb hlt => ?_
  rw [← (lookupKey_of_edited hcontacts ha).1, ← (lookupKey_of_edited hcontacts hb).1]
  exact Key.compare_eq_lt_iff.1 hlt

/-- A contact is settled as its lookup key asks for. -/
theorem isRebuilt_of_settledTable {k : String} {old : Record}
    (hold : (before.table contact)[Key.str k]? = some old) :
    ∃ new, ((rebuild lookup).settledTable before contact)[Key.str k]? = some new ∧
      IsRebuilt lookup k old new := by
  let edited := (old.set "starred" (.bool false)).set "photoUri" .null
  have hedited : ((rebuild lookup).editedTable before contact)[Key.str k]? = some edited := by
    rw [getElem?_editedTable_contact, hold]
    rfl
  have hmem := mem_values_iff.2 ⟨_, hedited⟩
  have hkey : lookupKey edited = k := by
    have hsame := (lookupKey_of_edited hcontacts hmem).1
    rw [keyed_edited hcontacts _ _ hedited] at hsame
    exact (Key.str.inj hsame).symm
  have houtput := outputOf_edited hcontacts hmem
  rw [hkey] at houtput
  refine ⟨(rebuiltOutput lookup k edited).record, ?_, ?_⟩
  · unfold Step.settledTable
    rw [Std.ExtTreeMap.getElem?_map, hedited, Option.map_some, houtput]
  · unfold rebuiltOutput
    refine ⟨?_, ?_, ?_, fun name hnumbers hphoto hstarred => ?_⟩
    · rw [Record.get?_set, if_neg (by decide), Record.get?_set, if_pos rfl]
    · rw [Record.get?_set, if_pos rfl]
    · rw [Record.get?_set, if_neg (by decide), Record.get?_set, if_neg (by decide),
        Record.get?_set, if_neg (by decide), Record.get?_set, if_pos rfl]
    · rw [Record.get?_set, if_neg hphoto.symm, Record.get?_set, if_neg hnumbers.symm,
        Record.get?_set, if_neg hphoto.symm, Record.get?_set, if_neg hstarred.symm]

end Contacts

section Emitted

variable {next : Schema} (hphone : next.entity? phoneNumber = some phoneNumberTable)
  {numbers : List ContactNumber}
include hphone

/-- Numbers are emitted into a keyed entity. -/
theorem keyedIn_of_mem_emitted {p : String × Record}
    (hp : p ∈ numbers.map fun n => (phoneNumber, phoneNumberRecord n)) :
    Draft.keyedIn next p.1 = true := by
  obtain ⟨n, -, rfl⟩ := List.mem_map.1 hp
  unfold Draft.keyedIn
  rw [hphone]
  rfl

/-- Of the numbers with one id the first is kept. -/
theorem mem_firsts_emitted_iff {name : String} {p : Record} :
    (name, p) ∈ Draft.firsts next [] (numbers.map fun n => (phoneNumber, phoneNumberRecord n)) ↔
      name = phoneNumber ∧
        ∃ n, numbers.find? (·.id == n.id) = some n ∧ p = phoneNumberRecord n := by
  have hplace : ∀ n, (fun m => Draft.place (phoneNumber, phoneNumberRecord m) ==
      Draft.place (phoneNumber, phoneNumberRecord n)) = fun m : ContactNumber => m.id == n.id := by
    intro n
    funext m
    rw [Bool.eq_iff_iff, beq_iff_eq, beq_iff_eq]
    constructor
    · exact fun h => Key.int.inj (Prod.mk.inj h).2
    · exact fun h => congrArg (fun id => (phoneNumber, Key.int id)) h
  rw [Draft.mem_firsts_iff fun p => keyedIn_of_mem_emitted hphone,
    and_iff_right List.not_mem_nil, List.find?_map, Option.map_eq_some_iff]
  constructor
  · rintro ⟨n, hfind, hp⟩
    cases hp
    exact ⟨rfl, n, hplace n ▸ hfind, rfl⟩
  · rintro ⟨rfl, n, hfind, rfl⟩
    refine ⟨n, ?_, rfl⟩
    rw [← hplace n] at hfind
    exact hfind

/-- As many numbers are kept as there are different ids. -/
theorem length_firsts_emitted :
    (Draft.firsts next [] (numbers.map fun n => (phoneNumber, phoneNumberRecord n))).length =
      (numbers.map (·.id)).dedup.length := by
  have hplaces : (numbers.map fun n => (phoneNumber, phoneNumberRecord n)).map Draft.place =
      (numbers.map (·.id)).map fun id => (phoneNumber, Key.int id) := by
    rw [List.map_map, List.map_map]
    rfl
  have hinjective : Function.Injective fun id : Int64 => (phoneNumber, Key.int id) :=
    fun _ _ h => Key.int.inj (Prod.mk.inj h).2
  rw [Draft.length_firsts fun p => keyedIn_of_mem_emitted hphone, hplaces,
    List.dedup_map_of_injective hinjective, List.length_map]

end Emitted

/-- The step is the one from the eighth version. -/
theorem stepFor?_rebuild {r : Registry} (h : registry lookup = .ok r) :
    r.stepFor? 8 = some (rebuild lookup) :=
  Registry.stepFor?_of_consecutive h (steps_source lookup) (show 8 < 15 by decide)

/-- A number is complete as it is emitted. -/
theorem eq_of_completed_number {next : Schema} {rows rows' : RowCounter} {n : ContactNumber}
    {q : String × Record} (hphone : next.entity? phoneNumber = some phoneNumberTable)
    (h : Draft.Completed next rows rows' (phoneNumber, phoneNumberRecord n) q) :
    q = (phoneNumber, phoneNumberRecord n) := by
  obtain ⟨hname, e, he, hcompleted⟩ := h
  rw [hphone] at he
  cases he
  rcases hcompleted with ⟨-, hrecord⟩ | ⟨hrow, -⟩
  · exact Prod.ext hname hrecord
  · cases hrow

variable {registry : Registry} {config : PassConfig} {report : StepReport} {live next : Schema}

/-- The contacts of a consistent store are under their keys and fit. -/
theorem fits_of_snapshot (h : Messages.registry lookup = .ok registry)
    (hs : registry.Consistent 8 s) (hlive : registry.schemaAt? 8 = some live) (key : Key)
    (r : Record) (hr : ((s.snapshot live).table contact)[key]? = some r) :
    r.key = key ∧ contactAtFirst.Fits r := by
  obtain ⟨live', hlive', -, -, hholds⟩ := hs.live
  rw [hlive] at hlive'
  cases hlive'
  have hcontact : live.entity? contact = some contactAtFirst :=
    (entity?_schemaAt? h (by decide) hlive contact).trans rfl
  have hreads := hholds.readsFit (nulFreeNames h hlive).namesApart
  exact ⟨s.keyed_table_snapshot live contact key r hr, hreads.snapshot_fits _ _ key r hcontact hr⟩

/-- What a commit of the step leaves: the settled records, and the numbers that are kept. -/
theorem get?_of_commits_rebuild (h : Messages.registry lookup = .ok registry)
    (hs : registry.Consistent 8 s) (hcommits : Registry.Commits registry config 8 s report s')
    (hlive : registry.schemaAt? 8 = some live) (hnext : registry.schemaAt? 9 = some next)
    (hphone : next.entity? phoneNumber = some phoneNumberTable) {numbers : List ContactNumber}
    (hemissions : (rebuild lookup).emissions (s.snapshot live) =
      numbers.map fun n => (phoneNumber, phoneNumberRecord n))
    {name : String} (hname : NulFree name) (key : Key) (p : Record) :
    s'.get? name key = some p ↔
      ((rebuild lookup).settledTable (s.snapshot live) name)[key]? = some p ∨
        (name = phoneNumber ∧ ∃ n, numbers.find? (·.id == n.id) = some n ∧
          key = .int n.id ∧ p = phoneNumberRecord n) := by
  obtain ⟨live', next', d₁, d, count, fallbacks, rows, hlive', hnext', -, -, htransformed, hadd,
    hdraft⟩ := hcommits.exists_draft h (fun _ _ => nulFreeNames h) hs (stepFor?_rebuild h)
  rw [hlive] at hlive'
  cases hlive'
  rw [hnext] at hnext'
  cases hnext'
  have hother : ∀ name t, (rebuild lookup).transform? = some (name, t) → ∀ r cx output,
      t r cx = .ok output → ∀ q ∈ output.emitted, q.1 ≠ name := by
    intro name t ht r cx output hr q hq
    rw [transform?_rebuild] at ht
    cases ht
    rw [emitted_contactNumbers hr q hq]
    decide
  obtain ⟨⟨base, hbase, hemitted⟩, -⟩ :=
    Step.grows_transformed (s.keyed_table_snapshot live) hother htransformed
  obtain ⟨added, hcompleted, -, -, htable⟩ :=
    (hemitted.trans (Draft.grows_addAll hadd)).added
  -- The step inserts nothing, so what is added are the numbers that are kept.
  have hadded : added =
      Draft.firsts next [] (numbers.map fun n => (phoneNumber, phoneNumberRecord n)) := by
    have hinserts : (rebuild lookup).inserts = [] := rfl
    rw [hinserts, List.append_nil, hemissions] at hcompleted
    refine Draft.eq_of_completed hcompleted fun p hp q hq => ?_
    obtain ⟨n, -, rfl⟩ := List.mem_map.1 (Step.mem_of_mem_firsts hp)
    exact eq_of_completed_number hphone hq
  rw [hdraft name hname key, htable name key p, hbase, hadded, mem_firsts_emitted_iff hphone,
    and_assoc]
  refine or_congr_right (and_congr_right fun _ => ?_)
  constructor
  · rintro ⟨⟨n, hfind, rfl⟩, rfl⟩
    exact ⟨n, hfind, rfl, rfl⟩
  · rintro ⟨n, hfind, rfl, rfl⟩
    exact ⟨⟨n, hfind, rfl⟩, rfl⟩

/-- A commit of the step rebuilds the numbers. -/
theorem rebuild_of_commits (h : Messages.registry lookup = .ok registry)
    (hs : registry.Consistent 8 s) (hcommits : Registry.Commits registry config 8 s report s')
    (hlive : registry.schemaAt? 8 = some live) (hnext : registry.schemaAt? 9 = some next)
    (hphone : next.entity? phoneNumber = some phoneNumberTable) :
    Rebuild lookup (lookupKeys lookup (s.snapshot live)) s s' := by
  have hfits := fits_of_snapshot h hs hlive
  have hemissions : (rebuild lookup).emissions (s.snapshot live) = _ := emissions_rebuild hfits
  obtain ⟨live', hlive', -, -, hholds⟩ := hs.live
  rw [hlive] at hlive'
  cases hlive'
  have hcontactName : NulFree contact := by decide
  have hphoneName : NulFree phoneNumber := by decide
  have hbefore := hholds.getElem?_table_snapshot (nulFreeNames h hlive) hcontactName
  -- The contacts are the settled ones, and the numbers are those that are kept.
  have hcontact : ∀ key new, s'.get? contact key = some new ↔
      ((rebuild lookup).settledTable (s.snapshot live) contact)[key]? = some new := by
    intro key new
    have hne : contact ≠ phoneNumber := by decide
    rw [get?_of_commits_rebuild h hs hcommits hlive hnext hphone hemissions hcontactName]
    exact or_iff_left fun hnumber => hne hnumber.1
  have hnumber : ∀ key p, s'.get? phoneNumber key = some p ↔
      ∃ n, (allNumbers lookup (lookupKeys lookup (s.snapshot live))).find? (·.id == n.id) = some n ∧
        key = .int n.id ∧ p = phoneNumberRecord n := by
    intro key p
    rw [get?_of_commits_rebuild h hs hcommits hlive hnext hphone hemissions hphoneName,
      getElem?_settledTable_phoneNumber, or_iff_right (Option.some_ne_none p).symm]
    exact and_iff_right rfl
  refine ⟨sorted_lookupKeys hfits, fun key => ?_, fun key hnew hold => ?_, fun k old hold => ?_,
    fun id p => ?_, fun key hkey => ?_⟩
  · rw [← hbefore]
    exact ne_none_iff_mem_lookupKeys hfits
  · obtain ⟨new, hnew⟩ := Option.ne_none_iff_exists'.1 hnew
    have hsettled := (hcontact key new).1 hnew
    unfold Step.settledTable at hsettled
    rw [Std.ExtTreeMap.getElem?_map, getElem?_editedTable_contact, hbefore, hold] at hsettled
    cases hsettled
  · rw [← hbefore] at hold
    obtain ⟨new, hnew, hrebuilt⟩ := isRebuilt_of_settledTable hfits hold
    exact ⟨new, (hcontact _ _).2 hnew, hrebuilt⟩
  · rw [hnumber]
    constructor
    · rintro ⟨n, hfind, hid, rfl⟩
      cases hid
      exact ⟨n, hfind, isNumber_iff.2 rfl⟩
    · rintro ⟨n, hfind, hn⟩
      obtain rfl : n.id = id := by simpa using List.find?_some hfind
      exact ⟨n, hfind, rfl, isNumber_iff.1 hn⟩
  · obtain ⟨p, hp⟩ := Option.ne_none_iff_exists'.1 hkey
    obtain ⟨n, -, rfl, -⟩ := (hnumber key p).1 hp
    exact ⟨n.id, rfl⟩

/-- **The phone numbers can always be rebuilt.** Over every address book and every store that is
consistent at the eighth version, the step from there is committed. The contacts, listed by their
lookup keys, then have the numbers that the address book gives them, the phone numbers are those of
all contacts with the first under each id, every reference to a number resolves, every number is
referred to, and the step counts as fallbacks the contacts that the address book does not know and
the numbers that repeat an id. -/
theorem phoneNumbers_of_step (lookup : Lookup) :
    ∃ registry, Messages.registry lookup = .ok registry ∧
      ∀ (config : PassConfig) (journal : Journal) (s : Store), registry.Consistent 8 s →
        ∃ report journal' s' keys,
          registry.stepFrom config 8 journal s = (.ok (report, journal'), s') ∧
          registry.Consistent 9 s' ∧
          Rebuild lookup keys s s' ∧
          (∀ key new, s'.get? contact key = some new → ∀ target ∈ new.refs "numbers",
            s'.get? phoneNumber target ≠ none) ∧
          (∀ target, s'.get? phoneNumber target ≠ none →
            ∃ key new, s'.get? contact key = some new ∧ target ∈ new.refs "numbers") ∧
          report.fallbacks + ((allNumbers lookup keys).map (·.id)).dedup.length =
            (keys.countP fun k => (lookup k).isNone) + (allNumbers lookup keys).length := by
  obtain ⟨registry, hregistry, hcurrent⟩ := exists_registry lookup
  refine ⟨registry, hregistry, fun config journal s hs => ?_⟩
  have hcomplete := complete hregistry hcurrent
  have hstep := stepFor?_rebuild hregistry
  obtain ⟨report, journal', s₁, hcommits, htaken, -⟩ :=
    hcomplete.exists_commits config hs hstep (Nat.zero_le _) journal
  obtain ⟨live, next, hlive, -, hnext, -⟩ := Registry.exists_accepts hregistry hstep
  have hphone : (Registry.atVersion next 9).entity? phoneNumber = some phoneNumberTable :=
    (entity?_schemaAt? hregistry (by decide) hnext phoneNumber).trans rfl
  have hrebuild :=
    (rebuild_of_commits hregistry hs hcommits hlive hnext hphone).writeJournal journal'
  refine ⟨report, journal', s₁.writeJournal journal', lookupKeys lookup (s.snapshot live), htaken,
    (hcommits.consistent hregistry hcomplete.names hs).congr _ _, hrebuild,
    fun key new hnew target => hrebuild.resolves hnew, fun target => hrebuild.referenced, ?_⟩
  have hfits := fits_of_snapshot hregistry hs hlive
  have hcount := hcommits.fallbacks_add_firsts hregistry hcomplete.names hs hstep
    (transform?_rebuild lookup) hlive hnext
  rw [emissions_rebuild hfits, totalFallbacks_rebuild hfits, List.length_map,
    length_firsts_emitted hphone] at hcount
  exact hcount

/-- An address book that knows two contacts, which share a number. -/
def sharedNumber : Lookup := fun key =>
  if key = "ann" then
    some [⟨7, "555-0001", "home", none, none⟩, ⟨9, "555-0002", "work", none, some "ann.png"⟩]
  else if key = "bob" then some [⟨9, "555-0002", "mobile", none, none⟩]
  else none

/-- A contact without numbers. -/
def bareContact (key name : String) : Record :=
  (((Record.keyed "lookupKey" (.str key)).set "numbers" (.refs [])).set "name"
    (.str name)).set "lastUpdate" (.int 0)

/-- A store at the eighth version that holds these contacts, one that the address book does not
know, and an old number. -/
def contactsAtEighth (schema : Schema) : Store :=
  let number := ((Record.ofKey (.row 0)).set "address" (.str "555-0009")).set "type" (.str "home")
  ((((Store.ofSchema schema 8).putRecord phoneNumber number).putRecord contact
    (bareContact "ann" "Ann")).putRecord contact (bareContact "bob" "Bob")).putRecord contact
    (bareContact "eve" "Eve")

/-- Contacts that share a number, which both refer to; the old number is gone. -/
theorem phoneNumbers_of_step_sharedNumber :
    ∃ registry schema report journal s', Messages.registry sharedNumber = .ok registry ∧
      registry.schemaAt? 8 = some schema ∧ registry.Consistent 8 (contactsAtEighth schema) ∧
      registry.stepFrom .standard 8 (.begin 8 15) (contactsAtEighth schema) =
        (.ok (report, journal), s') ∧
      (∃ ann, s'.get? contact (.str "ann") = some ann ∧
        ann.refs "numbers" = [.int 7, .int 9] ∧ ann.get? "photoUri" = some (.str "ann.png")) ∧
      (∃ bob, s'.get? contact (.str "bob") = some bob ∧ bob.refs "numbers" = [.int 9]) ∧
      s'.get? phoneNumber (.int 9) ≠ none ∧ s'.get? phoneNumber (.row 0) = none := by
  obtain ⟨registry, hregistry, hstep⟩ := phoneNumbers_of_step sharedNumber
  obtain ⟨schema, hschema, -⟩ : ∃ schema, registry.schemaAt? 8 = some schema ∧ _ :=
    Registry.entity?_of_consecutive hregistry (steps_source sharedNumber) (show 8 ≤ 15 by decide)
  have hcontact : schema.entity? contact = some contactAtFirst :=
    (entity?_schemaAt? hregistry (by decide) hschema contact).trans rfl
  have hphone : schema.entity? phoneNumber = some phoneNumberAtFirst :=
    (entity?_schemaAt? hregistry (by decide) hschema phoneNumber).trans rfl
  have hempty := Registry.consistent_ofSchema hschema
  have hs : registry.Consistent 8 (contactsAtEighth schema) :=
    (((hempty.putRecord rfl hphone rfl).putRecord rfl hcontact rfl).putRecord rfl hcontact
      rfl).putRecord rfl hcontact rfl
  obtain ⟨report, journal, s', keys, htaken, -, hrebuild, hresolves, -⟩ :=
    hstep .standard (.begin 8 15) (contactsAtEighth schema) hs
  obtain ⟨ann, hann, hann'⟩ := hrebuild.contact_new "ann" _ rfl
  obtain ⟨bob, hbob, hbob'⟩ := hrebuild.contact_new "bob" _ rfl
  have hshared : bob.refs "numbers" = [.int 9] := hbob'.refs_eq
  refine ⟨registry, schema, report, journal, s', hregistry, hschema, hs, htaken,
    ⟨ann, hann, hann'.refs_eq, hann'.photo⟩, ⟨bob, hbob, hshared⟩, ?_, ?_⟩
  · exact hresolves _ bob hbob (.int 9) (hshared ▸ List.mem_cons_self)
  · by_contra hold
    obtain ⟨id, hid⟩ := hrebuild.number_keyed (.row 0) hold
    cases hid

end Messages

end Strata

import Strata.Proofs.Commits
import Mathlib.Data.List.Sort
import Mathlib.Data.String.Basic

/-!
# Buffered preferences

A buffer of edits stands for a map of preferences: the current ones with the edits made to them.
`PreferenceEdits.Shows` says that it reads as that map, name by name. A call that sets or deletes a
preference keeps this if the same is done to the map (`PreferenceEdits.Shows.edit`), and so does any
sequence of calls (`PreferenceEdits.Shows.edits`).

What else a buffer gives is derived from what it reads as: integers, whether a preference is set,
the names that begin with a text (`PreferenceEdits.pairwise_namesStarting`,
`PreferenceEdits.Shows.namesStarting_eq`), and the preferences of a store that the edits are
committed to (`PreferenceEdits.Shows.preferences_commit`). The main statement is
`PreferenceEdits.overlay`; `Step.preferences_of_plan_ok` is what it means for a step.
-/

namespace Strata

/-- The names that begin with a text are that text with something after it. -/
theorem Text.startsWith_iff {name start : String} :
    Text.startsWith name start = true ↔ ∃ rest, name = start ++ rest := by
  unfold Text.startsWith
  rw [List.isPrefixOf_iff_prefix]
  constructor
  · rintro ⟨rest, hrest⟩
    refine ⟨String.ofList rest, ?_⟩
    rw [← String.toList_inj, String.toList_append, String.toList_ofList, hrest]
  · rintro ⟨rest, rfl⟩
    rw [String.toList_append]
    exact List.prefix_append _ _

/-! ## Edits of a map -/

namespace Preferences

/-- The preferences after an edit of one of them: its new value, or none for a deletion. -/
def edit (m : Preferences) : String × Option Value → Preferences
  | (name, some value) => m.insert name value
  | (name, none) => m.erase name

/-- An edit decides what its name reads as, and leaves every other name alone. -/
theorem getElem?_edit (m : Preferences) (e : String × Option Value) (name : String) :
    (m.edit e)[name]? = if e.1 = name then e.2 else m[name]? := by
  obtain ⟨other, value⟩ := e
  cases value with
  | some value => exact getElem?_insert_eq_ite m other name value
  | none => exact getElem?_erase_eq_ite m other name

/-- If all edits of a name leave the same there, and the name read as that already or is edited,
that is what it reads as afterwards. -/
theorem getElem?_foldl_edit {m : Preferences} {edits : List (String × Option Value)}
    {name : String} {found : Option Value} (hagree : ∀ e ∈ edits, e.1 = name → e.2 = found)
    (hreach : m[name]? = found ∨ ∃ e ∈ edits, e.1 = name) :
    (edits.foldl edit m)[name]? = found :=
  read_foldl (fun m : Preferences => m[name]?) (fun m e _ => m.getElem?_edit e name) hagree hreach

end Preferences

/-! ## Calls on a buffer -/

namespace PreferenceEdits

variable {p : PreferenceEdits} {m : Preferences}

/-- The buffer after the call that makes an edit. -/
def edit (p : PreferenceEdits) : String × Option Value → PreferenceEdits
  | (name, some value) => p.set name value
  | (name, none) => p.delete name

/-- A call notes its edit in place of an earlier one of the same name. -/
theorem edit_eq (p : PreferenceEdits) (e : String × Option Value) :
    p.edit e = ⟨p.current, p.pending.insert e.1 e.2⟩ := by
  obtain ⟨name, value⟩ := e
  cases value <;> rfl

/-- A call decides what its name reads as, and leaves every other name alone. -/
theorem get?_edit (p : PreferenceEdits) (e : String × Option Value) (name : String) :
    (p.edit e).get? name = if e.1 = name then e.2 else p.get? name := by
  rw [edit_eq]
  unfold get?
  dsimp only
  rw [getElem?_insert_eq_ite]
  by_cases hname : e.1 = name
  · rw [if_pos hname, if_pos hname]
  · rw [if_neg hname, if_neg hname]

/-- If all calls with a name leave the same there, and the buffer read as that already or a call has
the name, that is what the buffer reads as afterwards. -/
theorem get?_foldl_edit {calls : List (String × Option Value)} {name : String}
    {found : Option Value} (hagree : ∀ e ∈ calls, e.1 = name → e.2 = found)
    (hreach : p.get? name = found ∨ ∃ e ∈ calls, e.1 = name) :
    (calls.foldl edit p).get? name = found :=
  read_foldl (fun p : PreferenceEdits => p.get? name) (fun p e _ => p.get?_edit e name) hagree
    hreach

/-- Calls leave the preferences from before the edits alone. -/
theorem current_foldl_edit (p : PreferenceEdits) (calls : List (String × Option Value)) :
    (calls.foldl edit p).current = p.current := by
  induction calls generalizing p with
  | nil => rfl
  | cons e rest ih => rw [List.foldl_cons, ih, edit_eq]

/-- A buffer reads as a map of preferences. -/
def Shows (p : PreferenceEdits) (m : Preferences) : Prop := ∀ name, p.get? name = m[name]?

/-- Without edits the buffer reads as the current preferences. -/
theorem shows_ofCurrent (current : Preferences) : (ofCurrent current).Shows current := by
  intro name
  unfold ofCurrent get?
  dsimp only
  rw [Std.ExtTreeMap.getElem?_empty]

/-- A call on the buffer is an edit of the map that it reads as. -/
theorem Shows.edit (h : p.Shows m) (e : String × Option Value) : (p.edit e).Shows (m.edit e) := by
  intro name
  rw [get?_edit, Preferences.getElem?_edit, h name]

/-- Calls on the buffer are edits of the map that it reads as, one after the other. -/
theorem Shows.edits (h : p.Shows m) (calls : List (String × Option Value)) :
    (calls.foldl PreferenceEdits.edit p).Shows (calls.foldl Preferences.edit m) := by
  induction calls generalizing p m with
  | nil => exact h
  | cons e rest ih => exact ih (h.edit e)

theorem Shows.int?_eq (h : p.Shows m) (name : String) :
    p.int? name = m[name]?.bind Value.int? := by
  unfold int?
  rw [h name]

theorem Shows.isSet_eq (h : p.Shows m) (name : String) : p.isSet name = m.contains name := by
  unfold isSet
  rw [h name, contains_eq_isSome]

/-! ## Names that begin with a text -/

/-- The listed names are those that begin with the text and are set. -/
theorem mem_namesStarting_iff {start name : String} :
    name ∈ p.namesStarting start ↔
      Text.startsWith name start = true ∧ (p.get? name).isSome = true := by
  unfold namesStarting get?
  simp only [List.mem_mergeSort, List.mem_append, List.mem_filter, List.mem_map, Prod.exists,
    Std.ExtTreeMap.mem_keys, Std.ExtTreeMap.mem_iff_contains, contains_eq_isSome,
    Std.ExtTreeMap.mem_toList_iff_getElem?_eq_some, Bool.and_eq_true, Bool.not_eq_true']
  -- An edit of the name decides whether it is set, and the current value does if there is none.
  cases hpending : p.pending[name]? with
  | none =>
    constructor
    · rintro (⟨hcurrent, hstarts, -⟩ | ⟨other, edit, ⟨hother, -⟩, rfl⟩)
      · exact ⟨hstarts, hcurrent⟩
      · rw [hpending] at hother
        cases hother
    · rintro ⟨hstarts, hcurrent⟩
      exact .inl ⟨hcurrent, hstarts, rfl⟩
  | some edit =>
    constructor
    · rintro (⟨-, -, hnot⟩ | ⟨other, edit', ⟨hother, hstarts, hset⟩, rfl⟩)
      · cases hnot
      · rw [hpending] at hother
        cases hother
        exact ⟨hstarts, hset⟩
    · rintro ⟨hstarts, hset⟩
      exact .inr ⟨name, edit, ⟨hpending, hstarts, hset⟩, rfl⟩

/-- The listed names are those of the map that begin with the text. -/
theorem Shows.mem_namesStarting_iff (h : p.Shows m) {start name : String} :
    name ∈ p.namesStarting start ↔ name ∈ m ∧ ∃ rest, name = start ++ rest := by
  rw [PreferenceEdits.mem_namesStarting_iff, Text.startsWith_iff, h name,
    Std.ExtTreeMap.mem_iff_contains, contains_eq_isSome, and_comm]

/-- No name is listed twice: a name that is edited is not listed as a current one. -/
theorem nodup_namesStarting (p : PreferenceEdits) (start : String) :
    (p.namesStarting start).Nodup := by
  unfold namesStarting
  rw [(List.mergeSort_perm _ _).nodup_iff, List.nodup_append]
  refine ⟨Std.ExtTreeMap.nodup_keys.filter _, ?_, ?_⟩
  · have hdistinct := (Std.ExtTreeMap.distinct_keys_toList (t := p.pending)).sublist
      (List.filter_sublist (p := fun e => Text.startsWith e.1 start && e.2.isSome))
    rw [List.Nodup, List.pairwise_map]
    refine hdistinct.imp fun hne heq => hne ?_
    rw [heq]
    exact Std.ReflCmp.compare_self
  · intro name hkept other hadded heq
    subst heq
    obtain ⟨-, hkept⟩ := List.mem_filter.1 hkept
    obtain ⟨⟨_, edit⟩, hmem, rfl⟩ := List.mem_map.1 hadded
    obtain ⟨hmem, -⟩ := List.mem_filter.1 hmem
    have hpending := Std.ExtTreeMap.mem_toList_iff_getElem?_eq_some.1 hmem
    rw [contains_eq_isSome, hpending, Option.isSome_some, Bool.not_true, Bool.and_false] at hkept
    cases hkept

/-- The listed names ascend strictly. -/
theorem pairwise_namesStarting (p : PreferenceEdits) (start : String) :
    (p.namesStarting start).Pairwise (· < ·) := by
  have hsorted : (p.namesStarting start).Pairwise (· ≤ ·) := by
    unfold namesStarting
    refine (List.pairwise_mergeSort (fun a b c hab hbc => ?_) (fun a b => ?_) _).imp fun h => ?_
    · exact decide_eq_true (le_trans (of_decide_eq_true hab) (of_decide_eq_true hbc))
    · rw [Bool.or_eq_true, decide_eq_true_iff, decide_eq_true_iff]
      exact le_total a b
    · exact of_decide_eq_true h
  exact hsorted.imp₂ (fun _ _ hle hne => lt_of_le_of_ne hle hne) (p.nodup_namesStarting start)

/-- The listed names are those keys of the map, in order, that begin with the text. -/
theorem Shows.namesStarting_eq (h : p.Shows m) (start : String) :
    p.namesStarting start = m.keys.filter (Text.startsWith · start) := by
  have hkeys : m.keys.Pairwise (· < ·) :=
    Std.ExtTreeMap.ordered_keys.imp fun hlt => compare_lt_iff_lt.1 hlt
  refine (p.pairwise_namesStarting start).eq_of_mem_iff (hkeys.filter _) fun name => ?_
  rw [PreferenceEdits.mem_namesStarting_iff, List.mem_filter, h name, Std.ExtTreeMap.mem_keys,
    Std.ExtTreeMap.mem_iff_contains, contains_eq_isSome, and_comm]

end PreferenceEdits

/-! ## Committing a buffer -/

/-- The edit that a write makes, if it writes a preference. -/
def Write.preference? : Write → Option (String × Option Value)
  | setPreference name value => some (name, some value)
  | deletePreference name => some (name, none)
  | put .. | delete .. => none

/-- The write that commits an edit makes that edit. -/
theorem Step.preference?_preferenceWrite (e : String × Option Value) :
    (preferenceWrite e).preference? = some e := by
  obtain ⟨name, value⟩ := e
  cases value <;> rfl

/-- The writes of a plan edit the preferences as its revision says. -/
theorem Step.filterMap_preference?_transactionOf (step : Step) (next : Schema) (d : Draft)
    (edits : Std.ExtTreeMap String (Option Value)) :
    (transactionOf step next d edits).writes.filterMap Write.preference? = edits.toList := by
  have hdeletions : d.deletions.filterMap Write.preference? = [] := by
    refine List.filterMap_eq_nil_iff.2 fun w hw => ?_
    obtain ⟨name, key, -, -, -, rfl⟩ := Draft.mem_deletions_iff.1 hw
    rfl
  have hputs : d.puts.filterMap Write.preference? = [] := by
    refine List.filterMap_eq_nil_iff.2 fun w hw => ?_
    obtain ⟨name, r, -, -, rfl⟩ := Draft.mem_puts_iff.1 hw
    rfl
  unfold transactionOf
  rw [List.filterMap_append, List.filterMap_append, hdeletions, hputs, List.filterMap_map]
  simp only [Function.comp_def, preference?_preferenceWrite, List.filterMap_some, List.nil_append]

/-- Writes edit the preferences in the order of those that write preferences. -/
theorem Store.preferences_applyWrites (s : Store) (writes : List Write) :
    (s.applyWrites writes).preferences =
      (writes.filterMap Write.preference?).foldl Preferences.edit s.preferences := by
  unfold applyWrites
  induction writes generalizing s with
  | nil => rfl
  | cons w rest ih =>
    rw [List.foldl_cons, ih]
    cases w <;> rfl

namespace PreferenceEdits

variable {p : PreferenceEdits} {m : Preferences}

/-- A buffer reads as the current preferences with its edits made to them. -/
theorem shows_foldl_pending (p : PreferenceEdits) :
    p.Shows (p.pending.toList.foldl Preferences.edit p.current) := by
  intro name
  refine (Preferences.getElem?_foldl_edit (fun e he hname => ?_) ?_).symm
  · subst hname
    unfold get?
    rw [Std.ExtTreeMap.mem_toList_iff_getElem?_eq_some.1 he]
  · unfold get?
    cases hpending : p.pending[name]? with
    | none => exact .inl rfl
    | some edit =>
      exact .inr ⟨(name, edit), Std.ExtTreeMap.mem_toList_iff_getElem?_eq_some.2 hpending, rfl⟩

/-- A store whose preferences are the current ones has those that the buffer reads as once a
transaction with its edits is committed. -/
theorem Shows.preferences_commit (h : p.Shows m) {s : Store} {t : Transaction}
    (hs : s.preferences = p.current)
    (ht : t.writes.filterMap Write.preference? = p.pending.toList) :
    (s.commit t).preferences = m := by
  have hcommit : (s.commit t).preferences = (s.applyWrites t.writes).preferences := rfl
  refine Std.ExtTreeMap.ext_getElem? fun name => ?_
  rw [hcommit, Store.preferences_applyWrites, ht, hs, ← p.shows_foldl_pending name, h name]

/-- **A buffer of preference edits is a faithful overlay.** After any sequence of calls that set and
delete preferences, let `m` be the map that the same sequence makes of the current preferences. The
buffer answers for every name as `m` does; the names that it lists for a text ascend strictly and
are those of `m` that begin with the text; and a store that holds the current preferences holds `m`
once the edits are committed, whatever records the transaction writes before, between or after
them. -/
theorem overlay (current : Preferences) (calls : List (String × Option Value)) :
    let p := calls.foldl edit (ofCurrent current)
    let m := calls.foldl Preferences.edit current
    (∀ name, p.get? name = m[name]? ∧ p.int? name = m[name]?.bind Value.int? ∧
      p.isSet name = m.contains name) ∧
    (∀ start, (p.namesStarting start).Pairwise (· < ·) ∧
      ∀ name, name ∈ p.namesStarting start ↔ name ∈ m ∧ ∃ rest, name = start ++ rest) ∧
    ∀ (s : Store) (t : Transaction), s.preferences = current →
      t.writes.filterMap Write.preference? = p.pending.toList → (s.commit t).preferences = m := by
  intro p m
  have hshows : p.Shows m := (shows_ofCurrent current).edits calls
  refine ⟨fun name => ⟨hshows name, hshows.int?_eq name, hshows.isSet_eq name⟩,
    fun start => ⟨p.pairwise_namesStarting start, fun name => hshows.mem_namesStarting_iff⟩,
    fun s t hs ht => hshows.preferences_commit ?_ ht⟩
  rw [hs]
  exact (current_foldl_edit (ofCurrent current) calls).symm

/-- Two themes. -/
def twoThemes : Preferences :=
  ((∅ : Preferences).insert "theme_1" (.int 7)).insert "theme_2" (.int 8)

/-- Calls that set a theme, delete it and set it again, and that delete a current one. -/
def themeCalls : List (String × Option Value) :=
  [("theme_3", some (.int 4)), ("theme_3", none), ("theme_3", some (.int 5)), ("theme_1", none)]

/-- Of calls with one name the last one counts, when the buffer is read, when names are listed and
when the edits are committed. -/
theorem overlay_set_delete_set :
    let p := themeCalls.foldl edit (ofCurrent twoThemes)
    p.int? "theme_3" = some 5 ∧ p.isSet "theme_1" = false ∧
      p.namesStarting "theme_" = ["theme_2", "theme_3"] ∧
      (Store.commit { Store.empty with preferences := twoThemes }
        { Transaction.empty with
          writes := p.pending.toList.map Step.preferenceWrite }).preferences.toList =
        [("theme_2", .int 8), ("theme_3", .int 5)] := by
  intro p
  obtain ⟨hreads, -, hcommit⟩ := overlay twoThemes themeCalls
  obtain ⟨-, hset, -⟩ := hreads "theme_3"
  obtain ⟨-, -, hdeleted⟩ := hreads "theme_1"
  have hlisted : p.namesStarting "theme_" = ["theme_2", "theme_3"] :=
    ((shows_ofCurrent twoThemes).edits themeCalls).namesStarting_eq "theme_"
  refine ⟨hset, hdeleted, hlisted, ?_⟩
  rw [hcommit _ _ rfl rfl]
  rfl

end PreferenceEdits

/-! ## Committing a step -/

/-- The preferences that a step leaves are those from before with the edits of its revision made to
them. -/
theorem Step.preferences_of_plan_ok {step : Step} {live next : Schema} {config : PassConfig}
    {s : Store} {rows rows' : RowCounter} {plan : Plan}
    (h : (step.plan live next config s).run.run rows = (.ok plan, rows')) :
    ∃ edits, step.preferenceEdits (s.snapshot live) s.preferences = .ok edits ∧
      ∀ name, (s.commit plan.transaction).preferences[name]? =
        PreferenceEdits.get? ⟨s.preferences, edits⟩ name := by
  obtain ⟨_, _, _, _, d, edits, -, -, -, hedits, htransaction⟩ := exists_of_plan_ok h
  let p : PreferenceEdits := ⟨s.preferences, edits⟩
  have hcommit := p.shows_foldl_pending.preferences_commit (s := s) rfl
    (step.filterMap_preference?_transactionOf next d edits)
  refine ⟨edits, hedits, fun name => ?_⟩
  rw [htransaction, hcommit, p.shows_foldl_pending name]

end Strata

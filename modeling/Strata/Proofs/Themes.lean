import Strata.Messages.Preferences
import Strata.Proofs.PreferenceOverlay
import Strata.Proofs.Spellings
import Mathlib.Data.List.Induction

/-!
# Themes of recipients

Old themes of conversations and new themes of recipients are preferences under the same names, and a
conversation may have the key of a recipient. The revision that moves the themes therefore reads and
deletes all the old ones before it writes a new one.

`Consolidated` says what the preferences are afterwards, name by name: a recipient has the theme of
the last conversation that offers it one, every other theme of a conversation is gone, and the rest
is as it was. `Collected` is what the first loop has found out and deleted after some of the
conversations, and each further conversation keeps it up (`Collected.takeTheme`). The second loop is
a sequence of calls on the buffer (`get?_giveThemes`, `get?_giveThemes_of_ne`). The main statement
is `consolidateThemes_consolidates`; `consolidated_of_plan_ok` is what it means for a store.
-/

namespace Strata.Messages

/-- The themes of different keys are different preferences, whatever the kinds of the keys. -/
theorem themeName_injective : Function.Injective themeName := by
  intro k l h
  unfold themeName at h
  rw [← String.toList_inj, String.toList_append, String.toList_append, List.append_cancel_left_eq,
    String.toList_inj] at h
  exact Key.text_injective h

/-! ## What is to become of the themes -/

section

variable (snapshot : Snapshot) (before : String → Option Value)

/-- A conversation is themed if the preference under its name is an integer. -/
def Themed (c : Record) (theme : Int64) : Prop :=
  c ∈ snapshot.records conversation ∧ (before (themeName c.key)).bind Value.int? = some theme

/-- A themed conversation offers its theme to its recipients. -/
def Offers (r : Key) (c : Record) (theme : Int64) : Prop :=
  Themed snapshot before c theme ∧ r ∈ c.refs "recipients"

/-- A conversation decides the theme of a recipient if it is the last one in key order that offers
the recipient a theme. -/
structure Decides (r : Key) (c : Record) (theme : Int64) : Prop where
  /-- The conversation offers the theme. -/
  offers : Offers snapshot before r c theme
  /-- Every other conversation that offers one comes earlier. -/
  last : ∀ c' theme', Offers snapshot before r c' theme' → c' = c ∨ compare c'.key c.key = .lt

/-- What the names of the preferences read as once themes have been moved, given what they read as
before. -/
structure Consolidated (after : String → Option Value) : Prop where
  /-- A recipient that is offered a theme has that of the last conversation that offers one. -/
  recipients : ∀ r c theme, Offers snapshot before r c theme →
    ∃ last theme', Decides snapshot before r last theme' ∧
      after (themeName r) = some (.int theme')
  /-- The theme of a conversation is gone, unless a recipient has its name. -/
  conversations : ∀ c theme, Themed snapshot before c theme →
    (∀ r c' theme', Offers snapshot before r c' theme' → themeName r ≠ themeName c.key) →
    after (themeName c.key) = none
  /-- Every other preference is as it was. -/
  others : ∀ name, (∀ r c theme, Offers snapshot before r c theme → themeName r ≠ name) →
    (∀ c theme, Themed snapshot before c theme → themeName c.key ≠ name) →
    after name = before name

end

/-! ## The last value that an element has -/

section

variable {α β : Type}

/-- The last of the values that the elements of a longer list have is that of the new element, if it
has one. -/
theorem getLast?_filterMap_concat (f : α → Option β) (xs : List α) (x : α) :
    ((xs ++ [x]).filterMap f).getLast? = (f x).or (xs.filterMap f).getLast? := by
  rw [List.filterMap_append]
  cases hx : f x with
  | none =>
    rw [List.filterMap_cons_none hx, List.filterMap_nil, List.append_nil, Option.none_or]
  | some y =>
    rw [List.filterMap_cons_some hx, List.filterMap_nil, List.getLast?_concat, Option.some_or]

/-- The last value is that of an element that is behind all others with a value. -/
theorem exists_last_of_getLast? {before : α → α → Prop} {f : α → Option β} {xs : List α}
    (hsorted : xs.Pairwise before) {b : β} (h : (xs.filterMap f).getLast? = some b) :
    ∃ x ∈ xs, f x = some b ∧ ∀ y ∈ xs, ∀ b', f y = some b' → y = x ∨ before y x := by
  induction xs using List.reverseRecOn with
  | nil => cases h
  | append_singleton xs x ih =>
    obtain ⟨hxs, -, hbefore⟩ := List.pairwise_append.1 hsorted
    rw [getLast?_filterMap_concat] at h
    cases hx : f x with
    | some b₁ =>
      rw [hx] at h
      cases h
      refine ⟨x, List.mem_append_right _ List.mem_cons_self, hx, fun y hy _ _ => ?_⟩
      rcases List.mem_append.1 hy with hmem | hlast
      · exact .inr (hbefore y hmem x List.mem_cons_self)
      · exact .inl (List.mem_singleton.1 hlast)
    | none =>
      rw [hx, Option.none_or] at h
      obtain ⟨last, hmem, hlast, hall⟩ := ih hxs h
      refine ⟨last, List.mem_append_left _ hmem, hlast, fun y hy b' hb' => ?_⟩
      rcases List.mem_append.1 hy with hmem | hend
      · exact hall y hmem b' hb'
      · rw [List.mem_singleton.1 hend, hx] at hb'
        cases hb'

end

/-! ## Taking themes from conversations -/

/-- The theme that a conversation offers to a recipient. -/
def offer? (before : PreferenceEdits) (r : Key) (c : Record) : Option Int64 :=
  if r ∈ c.refs "recipients" then before.int? (themeName c.key) else none

theorem offer?_eq_some_iff {before : PreferenceEdits} {r : Key} {c : Record} {theme : Int64} :
    offer? before r c = some theme ↔
      before.int? (themeName c.key) = some theme ∧ r ∈ c.refs "recipients" := by
  unfold offer?
  split
  · next hmem => exact ⟨fun h => ⟨h, hmem⟩, fun h => h.1⟩
  · next hnot => exact ⟨nofun, fun h => absurd h.2 hnot⟩

/-- What is known once the themes of the conversations `done` are taken: a recipient is noted with
the last theme that one of them offers, and the themes of these conversations are deleted. -/
structure Collected (before : PreferenceEdits) (done : List Record) (m : ThemeMove) : Prop where
  /-- The last theme that is offered to a recipient is noted. -/
  noted : ∀ r : Key, m.1[r]? = (done.filterMap (offer? before r)).getLast?
  /-- The theme of a themed conversation is deleted. -/
  deleted : ∀ c ∈ done, ∀ theme, before.int? (themeName c.key) = some theme →
    m.2.get? (themeName c.key) = none
  /-- Every other preference reads as before. -/
  kept : ∀ name, (∀ c ∈ done, ∀ theme, before.int? (themeName c.key) = some theme →
    themeName c.key ≠ name) → m.2.get? name = before.get? name
  /-- The preferences from before the edits are the same. -/
  current : m.2.current = before.current

/-- Before the first conversation nothing is noted. -/
theorem collected_nil (before : PreferenceEdits) : Collected before [] (∅, before) where
  noted _ := Std.ExtTreeMap.getElem?_empty
  deleted := nofun
  kept _ _ := rfl
  current := rfl

/-- Noting a theme for some recipients puts it in place of what was noted for them. -/
theorem getElem?_foldl_note (recipients : List Key) (theme : Int64)
    (themes : Std.ExtTreeMap Key Int64) (r : Key) :
    (recipients.foldl (fun themes key => themes.insert key theme) themes)[r]? =
      if r ∈ recipients then some theme else themes[r]? := by
  refine read_foldl (fun themes : Std.ExtTreeMap Key Int64 => themes[r]?)
    (fun themes key _ => getElem?_insert_eq_ite themes key r theme) (fun key hmem heq => ?_) ?_
  · subst heq
    rw [if_pos hmem]
  · split
    · next hmem => exact .inr ⟨r, hmem, rfl⟩
    · exact .inl rfl

/-- What is noted once the theme of a conversation is taken: what it offers, or what was noted
before. -/
theorem getElem?_takeTheme (m : ThemeMove) (c : Record) (r : Key) :
    (takeTheme m c).1[r]? = (offer? m.2 r c).or m.1[r]? := by
  unfold takeTheme offer?
  cases htheme : m.2.int? (themeName c.key) with
  | none => rw [ite_self, Option.none_or]
  | some theme =>
    refine (getElem?_foldl_note _ _ _ _).trans ?_
    split
    · rw [Option.some_or]
    · rw [Option.none_or]

/-- Taking the theme of a conversation deletes it, if there is one, and edits nothing else. -/
theorem get?_takeTheme (m : ThemeMove) (c : Record) (name : String) :
    (takeTheme m c).2.get? name =
      if themeName c.key = name ∧ (m.2.int? name).isSome = true then none else m.2.get? name := by
  unfold takeTheme
  cases htheme : m.2.int? (themeName c.key) with
  | none =>
    rw [if_neg]
    rintro ⟨rfl, hset⟩
    rw [htheme] at hset
    cases hset
  | some theme =>
    refine (m.2.get?_edit (themeName c.key, none) name).trans ?_
    by_cases hname : themeName c.key = name
    · subst hname
      rw [if_pos rfl, if_pos ⟨rfl, by rw [htheme]; rfl⟩]
    · rw [if_neg hname, if_neg fun h => hname h.1]

theorem current_takeTheme (m : ThemeMove) (c : Record) :
    (takeTheme m c).2.current = m.2.current := by
  unfold takeTheme
  split <;> rfl

/-- Taking the theme of one more conversation, with a key of its own, keeps up what is known. -/
theorem Collected.takeTheme {before : PreferenceEdits} {done : List Record} {m : ThemeMove}
    (h : Collected before done m) {c : Record} (hkey : ∀ c' ∈ done, c'.key ≠ c.key) :
    Collected before (done ++ [c]) (takeTheme m c) := by
  -- The theme of this conversation is not among those deleted, so it is read as it was.
  have hread : m.2.int? (themeName c.key) = before.int? (themeName c.key) := by
    unfold PreferenceEdits.int?
    rw [h.kept (themeName c.key) fun c' hc' _ _ heq => hkey c' hc' (themeName_injective heq)]
  refine ⟨fun r => ?_, fun c' hc' theme htheme => ?_, fun name hname => ?_, ?_⟩
  · have hoffer : offer? m.2 r c = offer? before r c := by
      unfold offer?
      rw [hread]
    rw [getElem?_takeTheme, hoffer, h.noted r, getLast?_filterMap_concat]
  · rw [get?_takeTheme]
    rcases List.mem_append.1 hc' with hdone | hlast
    · rw [h.deleted c' hdone theme htheme, ite_self]
    · rw [List.mem_singleton.1 hlast] at htheme ⊢
      rw [hread, htheme, if_pos ⟨rfl, rfl⟩]
  · rw [get?_takeTheme, if_neg]
    · exact h.kept name fun c' hc' => hname c' (List.mem_append_left _ hc')
    · rintro ⟨rfl, hset⟩
      rw [hread] at hset
      obtain ⟨theme, htheme⟩ := Option.isSome_iff_exists.1 hset
      exact hname c (List.mem_append_right _ List.mem_cons_self) theme htheme rfl
  · rw [current_takeTheme, h.current]

/-- The first loop collects the themes of all conversations. -/
theorem collected_foldl (before : PreferenceEdits) {conversations : List Record}
    (hkeys : (conversations.map (·.key)).Nodup) :
    Collected before conversations (conversations.foldl takeTheme (∅, before)) := by
  induction conversations using List.reverseRecOn with
  | nil => exact collected_nil before
  | append_singleton done c ih =>
    rw [List.map_append, List.nodup_append] at hkeys
    obtain ⟨hdone, -, hapart⟩ := hkeys
    rw [List.foldl_concat]
    exact (ih hdone).takeTheme fun c' hc' =>
      hapart c'.key (List.mem_map_of_mem hc') c.key List.mem_cons_self

/-! ## Giving themes to recipients -/

/-- The second loop: sets the theme of each recipient. -/
def giveThemes (themes : Std.ExtTreeMap Key Int64) (edits : PreferenceEdits) : PreferenceEdits :=
  themes.toList.foldl (fun edits (key, theme) => edits.set (themeName key) (.int theme)) edits

/-- The revision is one loop after the other. -/
theorem consolidateThemes_eq (snapshot : Snapshot) (edits : PreferenceEdits) :
    consolidateThemes snapshot edits =
      .ok (giveThemes ((snapshot.records conversation).foldl takeTheme (∅, edits)).1
        ((snapshot.records conversation).foldl takeTheme (∅, edits)).2) := rfl

/-- Setting the themes is a sequence of calls. -/
theorem giveThemes_eq (themes : Std.ExtTreeMap Key Int64) (edits : PreferenceEdits) :
    giveThemes themes edits =
      (themes.toList.map fun e => (themeName e.1, some (Value.int e.2))).foldl
        PreferenceEdits.edit edits := by
  rw [List.foldl_map]
  rfl

/-- A recipient that a theme is noted for has it. -/
theorem get?_giveThemes {themes : Std.ExtTreeMap Key Int64} (edits : PreferenceEdits) {r : Key}
    {theme : Int64} (h : themes[r]? = some theme) :
    (giveThemes themes edits).get? (themeName r) = some (.int theme) := by
  rw [giveThemes_eq]
  refine PreferenceEdits.get?_foldl_edit (fun e he hname => ?_) (.inr ?_)
  · obtain ⟨⟨key, theme'⟩, hmem, rfl⟩ := List.mem_map.1 he
    have hsame : key = r := themeName_injective hname
    have hnoted := Std.ExtTreeMap.mem_toList_iff_getElem?_eq_some.1 hmem
    rw [hsame, h] at hnoted
    cases hnoted
    rfl
  · exact ⟨_, List.mem_map_of_mem (Std.ExtTreeMap.mem_toList_iff_getElem?_eq_some.2 h), rfl⟩

/-- A preference that is not the theme of a recipient that one is noted for is left alone. -/
theorem get?_giveThemes_of_ne {themes : Std.ExtTreeMap Key Int64} (edits : PreferenceEdits)
    {name : String} (h : ∀ (r : Key) (theme : Int64), themes[r]? = some theme →
      themeName r ≠ name) :
    (giveThemes themes edits).get? name = edits.get? name := by
  rw [giveThemes_eq]
  refine PreferenceEdits.get?_foldl_edit (fun e he hname => ?_) (.inl rfl)
  obtain ⟨⟨key, theme⟩, hmem, rfl⟩ := List.mem_map.1 he
  exact absurd hname (h key theme (Std.ExtTreeMap.mem_toList_iff_getElem?_eq_some.1 hmem))

/-! ## The whole revision -/

section

variable {snapshot : Snapshot} {before : PreferenceEdits}

theorem offers_iff {r : Key} {c : Record} {theme : Int64} :
    Offers snapshot before.get? r c theme ↔
      c ∈ snapshot.records conversation ∧ offer? before r c = some theme := by
  rw [offer?_eq_some_iff]
  exact and_assoc

variable {m : ThemeMove} (h : Collected before (snapshot.records conversation) m)

include h

/-- A theme that is noted for a recipient is that of the conversation that decides. -/
theorem Collected.exists_decides (hkeyed : snapshot.Keyed) {r : Key} {theme : Int64}
    (hnoted : m.1[r]? = some theme) : ∃ c, Decides snapshot before.get? r c theme := by
  rw [h.noted r] at hnoted
  obtain ⟨c, hc, hoffer, hlast⟩ :=
    exists_last_of_getLast? (hkeyed.sorted_records conversation) hnoted
  refine ⟨c, offers_iff.2 ⟨hc, hoffer⟩, fun c' theme' hoffers => ?_⟩
  obtain ⟨hc', hoffer'⟩ := offers_iff.1 hoffers
  exact hlast c' hc' theme' hoffer'

/-- A theme is noted for a recipient that is offered one. -/
theorem Collected.exists_noted {r : Key} {c : Record} {theme : Int64}
    (hoffers : Offers snapshot before.get? r c theme) : ∃ theme', m.1[r]? = some theme' := by
  obtain ⟨hc, hoffer⟩ := offers_iff.1 hoffers
  have hmem := List.mem_filterMap.2 ⟨c, hc, hoffer⟩
  exact ⟨_, (h.noted r).trans (List.getLast?_eq_some_getLast (List.ne_nil_of_mem hmem))⟩

/-- Once the collected themes are given to the recipients, the preferences are consolidated. -/
theorem Collected.consolidated (hkeyed : snapshot.Keyed) :
    Consolidated snapshot before.get? (giveThemes m.1 m.2).get? := by
  refine ⟨fun r c theme hoffers => ?_, fun c theme hthemed hnot => ?_, fun name hnot hother => ?_⟩
  · obtain ⟨theme', hnoted⟩ := h.exists_noted hoffers
    obtain ⟨last, hdecides⟩ := h.exists_decides hkeyed hnoted
    exact ⟨last, theme', hdecides, get?_giveThemes m.2 hnoted⟩
  · rw [get?_giveThemes_of_ne m.2 fun r theme' hnoted => ?_]
    · exact h.deleted c hthemed.1 theme hthemed.2
    · obtain ⟨last, hdecides⟩ := h.exists_decides hkeyed hnoted
      exact hnot r last theme' hdecides.offers
  · rw [get?_giveThemes_of_ne m.2 fun r theme hnoted => ?_]
    · exact h.kept name fun c hc theme htheme => hother c theme ⟨hc, htheme⟩
    · obtain ⟨last, hdecides⟩ := h.exists_decides hkeyed hnoted
      exact hnot r last theme hdecides.offers

end

/-- The revision consolidates the preferences that a buffer reads as. -/
theorem exists_consolidated {snapshot : Snapshot} (hkeyed : snapshot.Keyed)
    (before : PreferenceEdits) : ∃ after, consolidateThemes snapshot before = .ok after ∧
      after.current = before.current ∧ Consolidated snapshot before.get? after.get? := by
  have hcollected := collected_foldl before (hkeyed conversation).nodup_keys_values
  refine ⟨_, consolidateThemes_eq snapshot before, ?_, hcollected.consolidated hkeyed⟩
  rw [giveThemes_eq, PreferenceEdits.current_foldl_edit]
  exact hcollected.current

/-- **Themes are moved from conversations to recipients without getting mixed up.** The revision
succeeds for every snapshot and all preferences. Afterwards a recipient of a themed conversation has
the theme of the last such conversation in key order, every other theme of a themed conversation is
unset, and all other preferences are unchanged. It makes no difference which keys conversations and
recipients share, and of which kinds they are, since different keys have different names. Every
snapshot is keyed: it is that of a store (`Store.keyed_table_snapshot`), or records have been added
to an empty one (`Snapshot.keyed_empty`, `Snapshot.Keyed.insert`). -/
theorem consolidateThemes_consolidates {snapshot : Snapshot} (hkeyed : snapshot.Keyed)
    (current : Preferences) :
    (∃ after, consolidateThemes snapshot (.ofCurrent current) = .ok after ∧
      Consolidated snapshot (fun name => current[name]?) after.get?) ∧
    Function.Injective themeName := by
  have hreads : (PreferenceEdits.ofCurrent current).get? = fun name => current[name]? :=
    funext (PreferenceEdits.shows_ofCurrent current)
  obtain ⟨after, hafter, -, hconsolidated⟩ := exists_consolidated hkeyed (.ofCurrent current)
  rw [hreads] at hconsolidated
  exact ⟨⟨after, hafter, hconsolidated⟩, themeName_injective⟩

/-- Two conversations, each with the key of a recipient of the other one, and a third that shares a
recipient with the second. -/
def crossed : Snapshot :=
  let thread (id : Key) (recipients : List Key) : Record :=
    (Record.keyed "id" id).set "recipients" (.refs recipients)
  [thread (.int 1) [.int 2], thread (.int 2) [.int 1, .row 3],
    thread (.str "1") [.row 3]].foldl (fun s r => s.insert conversation r) (.empty 8)

/-- The themes of the conversations in `crossed`, and another preference. -/
def crossedThemes : Preferences :=
  [("theme_1", Value.int 100), ("theme_2", .int 200), ("theme_\x221\x22", .int 300),
    ("swipeLeft", .int 2)].foldl (fun m e => m.insert e.1 e.2) ∅

/-- Two conversations hand their themes to the recipients with each other's key. -/
theorem consolidateThemes_consolidates_crossed : crossed.Keyed ∧
    ∃ after, consolidateThemes crossed (.ofCurrent crossedThemes) = .ok after ∧
      Consolidated crossed (fun name => crossedThemes[name]?) after.get? ∧
      after.get? "theme_1" = some (.int 200) ∧ after.get? "theme_2" = some (.int 100) ∧
      after.get? "theme_#3" = some (.int 300) ∧ after.get? "theme_\x221\x22" = none ∧
      after.get? "swipeLeft" = some (.int 2) := by
  have hkeyed : crossed.Keyed := (((Snapshot.keyed_empty 8).insert _ _).insert _ _).insert _ _
  obtain ⟨⟨after, hafter, hconsolidated⟩, -⟩ := consolidateThemes_consolidates hkeyed crossedThemes
  refine ⟨hkeyed, after, hafter, hconsolidated, ?_⟩
  rw [consolidateThemes_eq] at hafter
  cases hafter
  exact ⟨rfl, rfl, rfl, rfl, rfl⟩

/-- A step that moves themes consolidates the preferences of the store that it is committed to. -/
theorem consolidated_of_plan_ok {step : Step} {live next : Schema} {config : PassConfig} {s : Store}
    {rows rows' : RowCounter} {plan : Plan} (hrevision : step.revision? = some consolidateThemes)
    (h : (step.plan live next config s).run.run rows = (.ok plan, rows')) :
    Consolidated (s.snapshot live) s.preference? (s.commit plan.transaction).preference? := by
  obtain ⟨edits, hedits, hreads⟩ := Step.preferences_of_plan_ok h
  obtain ⟨after, hafter, hcurrent, hconsolidated⟩ :=
    exists_consolidated (fun name => s.keyed_table_snapshot live name) (.ofCurrent s.preferences)
  have hbefore : (PreferenceEdits.ofCurrent s.preferences).get? = s.preference? :=
    funext (PreferenceEdits.shows_ofCurrent s.preferences)
  unfold Step.preferenceEdits at hedits
  rw [hrevision] at hedits
  dsimp only at hedits
  rw [hafter] at hedits
  cases hedits
  have hsame : after.current = s.preferences := hcurrent
  have hbuffer : (⟨s.preferences, after.pending⟩ : PreferenceEdits) = after := by
    rw [← hsame]
  have hstored : (s.commit plan.transaction).preference? = after.get? := by
    funext name
    rw [Store.preference?, hreads name, hbuffer]
  rw [hstored, ← hbefore]
  exact hconsolidated

end Strata.Messages

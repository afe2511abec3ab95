import Strata.Messages.Transforms
import Strata.Proofs.KeyOrder
import Strata.Proofs.Tables
import Mathlib.Data.List.Induction

/-!
# The latest message of a conversation

A conversation is pointed at the latest of its messages: the one that no other of them comes after
in the order of dates and, within a date, of keys (`Messages.Earlier`). The search takes the last of
the elements with the greatest rank of a list, so in a sorted list it finds the element that is
behind all others in the order of ranks and, within a rank, of the list (`lastMax?_of_sorted`). A
keyed snapshot, as every snapshot of a store is, lists its messages by their keys, and that makes
the choice the latest message (`Messages.isLatest_of_latest?`). There is only one
(`Messages.IsLatest.unique`), and there is one whenever there is any message, so
`Messages.lastMessage_points` says all about the transform.
-/

namespace Strata

section LastMax

variable {α β : Type} [Ord β]

/-- With one more element, the last of the greatest is that element, unless the one found before has
a greater rank. -/
theorem lastMax?_concat (rank : α → β) (xs : List α) (x : α) :
    lastMax? rank (xs ++ [x]) =
      match lastMax? rank xs with
      | none => some x
      | some b => if compare (rank b) (rank x) = .gt then some b else some x :=
  List.foldl_concat ..

/-- There is a greatest element unless there is no element at all. -/
theorem lastMax?_eq_none_iff {rank : α → β} {xs : List α} : lastMax? rank xs = none ↔ xs = [] := by
  constructor
  · intro h
    induction xs using List.reverseRecOn with
    | nil => rfl
    | append_singleton xs x _ =>
      rw [lastMax?_concat] at h
      split at h
      · cases h
      · split at h <;> cases h
  · rintro rfl
    rfl

/-- In a sorted list, the last of the greatest elements has a greater rank than any other element,
or the same one and comes behind it. -/
theorem lastMax?_of_sorted [Std.TransOrd β] {before : α → α → Prop} {rank : α → β} {xs : List α}
    (hsorted : xs.Pairwise before) {m : α} (h : lastMax? rank xs = some m) :
    m ∈ xs ∧ ∀ x ∈ xs, x = m ∨ compare (rank x) (rank m) = .lt ∨
      (compare (rank x) (rank m) = .eq ∧ before x m) := by
  induction xs using List.reverseRecOn generalizing m with
  | nil => cases h
  | append_singleton xs x ih =>
    obtain ⟨hxs, -, hbefore⟩ := List.pairwise_append.1 hsorted
    have hlast : ∀ y ∈ xs, before y x := fun y hy => hbefore y hy x List.mem_cons_self
    rw [lastMax?_concat] at h
    cases hb : lastMax? rank xs with
    | none =>
      rw [hb] at h
      cases h
      obtain rfl := lastMax?_eq_none_iff.1 hb
      exact ⟨List.mem_cons_self, fun y hy => .inl (List.mem_singleton.1 hy)⟩
    | some b =>
      rw [hb] at h
      dsimp only at h
      obtain ⟨hmem, hall⟩ := ih hxs hb
      split at h
      · next hgt =>
        -- The new element has a smaller rank.
        cases h
        refine ⟨List.mem_append_left _ hmem, fun y hy => ?_⟩
        rcases List.mem_append.1 hy with hy | hy
        · exact hall y hy
        · rw [List.mem_singleton.1 hy]
          exact .inr (.inl (Std.OrientedCmp.lt_of_gt hgt))
      · next hle =>
        -- The new element has at least the rank of all others, and is behind them.
        cases h
        have hbx : (compare (rank b) (rank x)).isLE = true := Ordering.isLE_iff_ne_gt.2 hle
        refine ⟨List.mem_append_right _ List.mem_cons_self, fun y hy => ?_⟩
        rcases List.mem_append.1 hy with hy | hy
        · have hyb : (compare (rank y) (rank b)).isLE = true := by
            rcases hall y hy with rfl | hlt | ⟨heq, -⟩
            · exact Std.ReflCmp.isLE_rfl
            · rw [hlt]
              rfl
            · rw [heq]
              rfl
          have hyx := Std.TransCmp.isLE_trans hyb hbx
          cases hcompare : compare (rank y) (rank x) with
          | lt => exact .inr (.inl rfl)
          | eq => exact .inr (.inr ⟨rfl, hlast y hy⟩)
          | gt =>
            rw [hcompare] at hyx
            cases hyx
        · exact .inl (List.mem_singleton.1 hy)

end LastMax

/-- A field holds an integer exactly when that is its value. -/
theorem Record.int?_eq_some_iff {r : Record} {name : String} {i : Int64} :
    r.int? name = some i ↔ r.get? name = some (.int i) := by
  unfold int?
  rw [Option.bind_eq_some_iff]
  constructor
  · rintro ⟨value, hvalue, hint⟩
    cases value <;> cases hint
    exact hvalue
  · exact fun h => ⟨_, h, rfl⟩

namespace Messages

/-- The date of a message; one that is missing or no integer counts as zero. -/
def dateOf (m : Record) : Int :=
  match m.get? "date" with
  | some (.int date) => date.toInt
  | _ => 0

/-- A message comes before another one by its date or, with the same date, by its key. -/
def Earlier (a b : Record) : Prop :=
  dateOf a < dateOf b ∨ (dateOf a = dateOf b ∧ a.key.Before b.key)

/-- A snapshot has a message of a conversation: one whose thread is the integer that the
conversation has as its id. -/
def MessageOf (snapshot : Snapshot) (c m : Record) : Prop :=
  m ∈ snapshot.records message ∧
    ∃ id, c.get? "id" = some (.int id) ∧ m.get? "threadId" = some (.int id)

/-- A message of a conversation is the latest: every other one is earlier. -/
structure IsLatest (snapshot : Snapshot) (c m : Record) : Prop where
  /-- It is a message of the conversation. -/
  messageOf : MessageOf snapshot c m
  /-- Every other message of the conversation is earlier. -/
  last : ∀ m', MessageOf snapshot c m' → m' = m ∨ Earlier m' m

variable {snapshot : Snapshot} {a b c m m' : Record}

/-- No two messages are earlier than each other. -/
theorem Earlier.asymm (h : Earlier a b) : ¬Earlier b a := by
  rintro (hlt' | ⟨heq', hba⟩)
  · rcases h with hlt | ⟨heq, -⟩ <;> omega
  · rcases h with hlt | ⟨-, hab⟩
    · omega
    · exact hab.asymm hba

/-- A conversation has one latest message at most. -/
theorem IsLatest.unique (h : IsLatest snapshot c m) (h' : IsLatest snapshot c m') : m' = m := by
  rcases h.last m' h'.messageOf with heq | hearlier
  · exact heq
  · rcases h'.last m h.messageOf with heq | hlater
    · exact heq.symm
    · exact absurd hlater hearlier.asymm

/-- The date of a message is what the search ranks it by. -/
theorem dateOf_eq (m : Record) : dateOf m = ((m.int? "date").getD 0).toInt := by
  unfold dateOf Record.int?
  cases m.get? "date" with
  | none => rfl
  | some value => cases value <;> rfl

/-- Two dates compare as the integers that they stand for. -/
theorem compare_date_eq_lt_iff :
    compare ((a.int? "date").getD 0) ((b.int? "date").getD 0) = .lt ↔ dateOf a < dateOf b := by
  rw [dateOf_eq, dateOf_eq]
  exact compareOfLessAndEq_eq_lt.trans Int64.lt_iff_toInt_lt

/-- The messages that the search looks at are those of the conversation. -/
theorem mem_filter_inThread_iff :
    m ∈ (snapshot.records message).filter (inThread (c.int? "id")) ↔ MessageOf snapshot c m := by
  rw [List.mem_filter]
  refine and_congr_right fun _ => ?_
  unfold inThread
  rw [Bool.and_eq_true, beq_iff_eq, Option.isSome_iff_exists]
  constructor
  · rintro ⟨⟨id, hid⟩, hthread⟩
    exact ⟨id, Record.int?_eq_some_iff.1 hid, Record.int?_eq_some_iff.1 (hthread.trans hid)⟩
  · rintro ⟨id, hid, hthread⟩
    rw [← Record.int?_eq_some_iff] at hid hthread
    exact ⟨⟨id, hid⟩, hthread.trans hid.symm⟩

/-- The message that the search finds for a conversation. -/
def latest? (snapshot : Snapshot) (c : Record) : Option Record :=
  snapshot.max? message (inThread (c.int? "id")) fun m => (m.int? "date").getD 0

/-- The search finds nothing exactly when the conversation has no message. -/
theorem latest?_eq_none_iff : latest? snapshot c = none ↔ ∀ m, ¬MessageOf snapshot c m := by
  unfold latest? Snapshot.max?
  rw [lastMax?_eq_none_iff, List.eq_nil_iff_forall_not_mem]
  simp only [mem_filter_inThread_iff]

/-- What the search finds is the latest message. -/
theorem isLatest_of_latest? (hkeyed : snapshot.Keyed) (h : latest? snapshot c = some m) :
    IsLatest snapshot c m := by
  have hsorted := (hkeyed.sorted_records message).filter (inThread (c.int? "id"))
  obtain ⟨hmem, hall⟩ := lastMax?_of_sorted hsorted h
  refine ⟨mem_filter_inThread_iff.1 hmem, fun m' hm' => ?_⟩
  rcases hall m' (mem_filter_inThread_iff.2 hm') with heq | hlt | ⟨heq, hkey⟩
  · exact .inl heq
  · exact .inr (.inl (compare_date_eq_lt_iff.1 hlt))
  · refine .inr (.inr ⟨?_, Key.compare_eq_lt_iff.1 hkey⟩)
    rw [dateOf_eq, dateOf_eq, Std.LawfulEqCmp.eq_of_compare heq]

/-- **Every conversation is pointed at its latest message.** Over every snapshot with its records
under their own keys, and for every record, the transform succeeds. It emits nothing, falls back
nowhere, and changes neither the key nor any other field than the reference to the last message. If
the conversation has a message, exactly one of them is the latest, and the reference is its key; the
reference is null exactly if the conversation has no message. -/
theorem lastMessage_points (hkeyed : snapshot.Keyed) (entity : String) (c : Record) :
    ∃ output, lastMessage c ⟨snapshot, entity⟩ = .ok output ∧ output.emitted = [] ∧
      output.fallbacks = 0 ∧ output.record.key = c.key ∧
      (∀ name, name ≠ "lastMessage" → output.record.get? name = c.get? name) ∧
      ((∃ m, MessageOf snapshot c m) → ∃! m, IsLatest snapshot c m) ∧
      (∀ m, IsLatest snapshot c m →
        output.record.get? "lastMessage" = some (.ref m.key)) ∧
      (output.record.get? "lastMessage" = some .null ↔ ∀ m, ¬MessageOf snapshot c m) := by
  refine ⟨.ofRecord (c.set "lastMessage" (.ofRef? ((latest? snapshot c).map (·.key)))), rfl, rfl,
    rfl, rfl, fun name hname => ?_, fun hany => ?_, fun m hm => ?_, ?_⟩
  · exact (Record.get?_set ..).trans (if_neg hname.symm)
  · cases hlatest : latest? snapshot c with
    | none =>
      obtain ⟨m, hm⟩ := hany
      exact absurd hm (latest?_eq_none_iff.1 hlatest m)
    | some m =>
      have hm := isLatest_of_latest? hkeyed hlatest
      exact ⟨m, hm, fun m' => hm.unique⟩
  · cases hlatest : latest? snapshot c with
    | none => exact absurd hm.messageOf (latest?_eq_none_iff.1 hlatest m)
    | some m' =>
      rw [hm.unique (isLatest_of_latest? hkeyed hlatest)]
      exact (Record.get?_set ..).trans (if_pos rfl)
  · rw [← latest?_eq_none_iff]
    refine (Eq.congr_left ((Record.get?_set ..).trans (if_pos rfl))).trans ?_
    cases latest? snapshot c <;> simp [Value.ofRef?]

/-- A message of a thread with a date. -/
def sent (key : Key) (thread date : Value) : Record :=
  ((Record.ofKey key).set "threadId" thread).set "date" date

/-- Messages of two threads under keys of every kind. Three messages of the first thread have one
date, and the date of another is missing; the only message of the second thread has a date before
zero. -/
def mixedKeys : Snapshot :=
  [sent (.int 9) (.int 1) (.int 100), sent (.str "b") (.int 1) (.int 100),
    sent (.row 0) (.int 1) .null, sent (.str "a") (.int 1) (.int 100),
    sent (.row 1) (.int 2) (.int (-5)), sent (.int 4) (.str "1") (.int 900)].foldl
      (fun s r => s.insert message r) (.empty 7)

/-- The latest message of the first thread has the greatest of the keys with the last date. The
second thread has one message, and a conversation whose id is a text has none. -/
theorem lastMessage_points_mixedKeys : mixedKeys.Keyed ∧
    (∃ m, IsLatest mixedKeys (.keyed "id" (.int 1)) m ∧ m.key = .str "b") ∧
    (∃ m, IsLatest mixedKeys (.keyed "id" (.int 2)) m ∧ m.key = .row 1) ∧
    ∀ m, ¬MessageOf mixedKeys (.keyed "id" (.str "1")) m := by
  have hkeyed : mixedKeys.Keyed :=
    ((((((Snapshot.keyed_empty 7).insert _ _).insert _ _).insert _ _).insert _ _).insert _ _).insert
      _ _
  -- A conversation with a message has a latest one, under the key that the transform writes.
  have hexists : ∀ c m₀, MessageOf mixedKeys c m₀ → ∃ m, IsLatest mixedKeys c m ∧
      ∀ output, lastMessage c ⟨mixedKeys, conversation⟩ = .ok output →
        output.record.get? "lastMessage" = some (.ref m.key) := by
    intro c m₀ hm₀
    obtain ⟨output, houtput, -, -, -, -, hexists, hlatest, -⟩ :=
      lastMessage_points hkeyed conversation c
    obtain ⟨m, hm, -⟩ := hexists ⟨m₀, hm₀⟩
    refine ⟨m, hm, fun output' houtput' => ?_⟩
    rw [houtput] at houtput'
    cases houtput'
    exact hlatest m hm
  refine ⟨hkeyed, ?_, ?_, ?_⟩
  · obtain ⟨m, hm, hkey⟩ := hexists (.keyed "id" (.int 1)) (sent (.int 9) (.int 1) (.int 100))
      ⟨by decide, 1, rfl, rfl⟩
    exact ⟨m, hm, (Value.ref.inj (Option.some.inj (hkey _ rfl))).symm⟩
  · obtain ⟨m, hm, hkey⟩ := hexists (.keyed "id" (.int 2)) (sent (.row 1) (.int 2) (.int (-5)))
      ⟨by decide, 2, rfl, rfl⟩
    exact ⟨m, hm, (Value.ref.inj (Option.some.inj (hkey _ rfl))).symm⟩
  · obtain ⟨output, houtput, -, -, -, -, -, -, hnull⟩ :=
      lastMessage_points hkeyed conversation (.keyed "id" (.str "1"))
    cases houtput
    exact hnull.1 rfl

end Messages

end Strata

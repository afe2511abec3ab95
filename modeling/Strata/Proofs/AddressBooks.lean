import Strata.Messages.Contacts
import Strata.Proofs.Tables
import Mathlib.Data.Finset.Card

/-!
# Filling an address book

A book that is filled from nothing keeps two things in step: the ids that it has seen, and the
numbers of each contact. `AddressBook.Collects` says what they are for the entries that were added
and for those of them that were accepted. An addition keeps this, whether the book accepts the
number (`Collects.accept`) or not (`Collects.reject`), so it holds of every filled book
(`collects_addAll`).

What else there is to know of a filled book follows from it: that no id occurs twice
(`Collects.nodup_numberIds`), that none is lost (`Collects.mem_numberIds_iff`), and which contacts
there are (`Collects.size_eq`). The main statement is `AddressBook.additions_exact`.
-/

namespace Strata.Messages.AddressBook

variable {b : AddressBook} {contact : String} {n : ContactNumber}
  {entries kept : List (String × ContactNumber)}

/-! ## One addition -/

/-- A number whose id is taken leaves the book as it is. -/
theorem add_of_mem (contact : String) (h : n.id ∈ b.ids) : b.add contact n = (false, b) := by
  unfold add
  rw [if_pos (List.contains_iff_mem.2 h)]

/-- A number whose id is free is put behind the numbers of its contact. -/
theorem add_of_not_mem (contact : String) (h : n.id ∉ b.ids) :
    b.add contact n =
      (true, ⟨b.contacts.insert contact (b.contacts[contact]?.getD [] ++ [n]), n.id :: b.ids⟩) := by
  unfold add
  rw [if_neg fun htaken => h (List.contains_iff_mem.1 htaken)]

/-- The answer says whether the id was free. -/
theorem add_eq_true_iff (b : AddressBook) (contact : String) (n : ContactNumber) :
    (b.add contact n).1 = true ↔ n.id ∉ b.ids := by
  by_cases h : n.id ∈ b.ids
  · simp [add_of_mem contact h, h]
  · simp [add_of_not_mem contact h, h]

/-! ## A list of additions -/

/-- Adds numbers to contacts one after the other: the answer to each addition, and the book after
the last one. -/
def addAll : AddressBook → List (String × ContactNumber) → List Bool × AddressBook
  | b, [] => ([], b)
  | b, (contact, n) :: rest =>
    let (answer, next) := b.add contact n
    let (answers, last) := next.addAll rest
    (answer :: answers, last)

/-- Of the entries added to a book, those that were answered with true. -/
def accepted (b : AddressBook) (entries : List (String × ContactNumber)) :
    List (String × ContactNumber) :=
  ((entries.zip (b.addAll entries).1).filter (·.2)).map (·.1)

theorem addAll_cons (b : AddressBook) (e : String × ContactNumber)
    (rest : List (String × ContactNumber)) :
    b.addAll (e :: rest) =
      ((b.add e.1 e.2).1 :: ((b.add e.1 e.2).2.addAll rest).1,
        ((b.add e.1 e.2).2.addAll rest).2) := rfl

/-- Every addition is answered. -/
theorem length_addAll (b : AddressBook) (entries : List (String × ContactNumber)) :
    (b.addAll entries).1.length = entries.length := by
  induction entries generalizing b with
  | nil => rfl
  | cons e rest ih => rw [addAll_cons, List.length_cons, ih, List.length_cons]

/-- Adding one list after another is adding both. -/
theorem addAll_append (b : AddressBook) (before after : List (String × ContactNumber)) :
    b.addAll (before ++ after) =
      ((b.addAll before).1 ++ ((b.addAll before).2.addAll after).1,
        ((b.addAll before).2.addAll after).2) := by
  induction before generalizing b with
  | nil => rfl
  | cons e rest ih => rw [List.cons_append, addAll_cons, ih, addAll_cons, List.cons_append]

/-- The last of several additions is made to the book that the others leave. -/
theorem addAll_concat (b : AddressBook) (entries : List (String × ContactNumber))
    (contact : String) (n : ContactNumber) :
    b.addAll (entries ++ [(contact, n)]) =
      ((b.addAll entries).1 ++ [((b.addAll entries).2.add contact n).1],
        ((b.addAll entries).2.add contact n).2) :=
  addAll_append b entries [(contact, n)]

/-- The answer to an addition is that of the book which the additions before it leave. -/
theorem getElem?_addAll (b : AddressBook) (before after : List (String × ContactNumber))
    (contact : String) (n : ContactNumber) :
    (b.addAll (before ++ (contact, n) :: after)).1[before.length]? =
      some ((b.addAll before).2.add contact n).1 := by
  rw [addAll_append, ← b.length_addAll before, List.getElem?_append_right (Nat.le_refl _),
    Nat.sub_self, addAll_cons]
  rfl

/-- An entry at the end is accepted or not, and those before it are accepted as without it. -/
theorem accepted_concat (b : AddressBook) (entries : List (String × ContactNumber))
    (contact : String) (n : ContactNumber) :
    b.accepted (entries ++ [(contact, n)]) =
      b.accepted entries ++
        if ((b.addAll entries).2.add contact n).1 then [(contact, n)] else [] := by
  unfold accepted
  rw [addAll_concat, List.zip_append (b.length_addAll entries).symm, List.filter_append,
    List.map_append]
  cases ((b.addAll entries).2.add contact n).1 <;> rfl

/-- The book of a list is what adding the list to an empty book leaves. -/
theorem ofList_eq (entries : List (String × ContactNumber)) :
    ofList entries = (empty.addAll entries).2 := by
  unfold ofList
  generalize empty = b
  induction entries generalizing b with
  | nil => rfl
  | cons e rest ih => rw [List.foldl_cons, ih, addAll_cons]

/-! ## What a filled book holds -/

/-- The numbers that entries give a contact, in order. -/
def numbersOf (contact : String) (entries : List (String × ContactNumber)) : List ContactNumber :=
  (entries.filter (·.1 == contact)).map (·.2)

/-- The ids of the numbers of all contacts. -/
def numberIds (b : AddressBook) : List Int64 := b.contacts.toList.flatMap (·.2.map (·.id))

theorem mem_numbersOf_iff : n ∈ numbersOf contact entries ↔ (contact, n) ∈ entries := by
  unfold numbersOf
  rw [List.mem_map]
  constructor
  · rintro ⟨⟨contact', n'⟩, hmem, rfl⟩
    obtain ⟨hmem, hcontact⟩ := List.mem_filter.1 hmem
    rw [← beq_iff_eq.1 hcontact]
    exact hmem
  · intro hmem
    exact ⟨(contact, n), List.mem_filter.2 ⟨hmem, beq_iff_eq.2 rfl⟩, rfl⟩

/-- An entry at the end gives its contact one more number. -/
theorem numbersOf_concat (contact' : String) (entries : List (String × ContactNumber))
    (contact : String) (n : ContactNumber) :
    numbersOf contact' (entries ++ [(contact, n)]) =
      if contact = contact' then numbersOf contact' entries ++ [n]
      else numbersOf contact' entries := by
  unfold numbersOf
  rw [List.filter_append, List.map_append]
  by_cases h : contact = contact'
  · rw [if_pos h, List.filter_singleton, beq_iff_eq.2 h]
    rfl
  · rw [if_neg h, List.filter_singleton, beq_eq_false_iff_ne.2 h]
    exact List.append_nil _

/-- What a book holds after the addition of `entries`, of which it accepted those of `kept`. -/
structure Collects (b : AddressBook) (entries kept : List (String × ContactNumber)) : Prop where
  /-- The ids that are taken are those of the added entries. -/
  added : ∀ id, id ∈ b.ids ↔ id ∈ entries.map (·.2.id)
  /-- They are those of the accepted entries too: an id is taken by the first entry that has it. -/
  accepted : ∀ id, id ∈ b.ids ↔ id ∈ kept.map (·.2.id)
  /-- No two entries with one id were accepted. -/
  distinct : (kept.map (·.2.id)).Nodup
  /-- A contact has its accepted numbers, and is known if it has any. -/
  lookup : ∀ contact, b.lookup contact =
    if numbersOf contact kept = [] then none else some (numbersOf contact kept)

theorem collects_empty : empty.Collects [] [] :=
  ⟨fun _ => Iff.rfl, fun _ => Iff.rfl, List.nodup_nil, fun _ => Std.ExtTreeMap.getElem?_empty⟩

/-- The ids of entries with one more at the end. -/
theorem mem_ids_concat_iff {id : Int64} :
    id ∈ (entries ++ [(contact, n)]).map (·.2.id) ↔
      id = n.id ∨ id ∈ entries.map (·.2.id) := by
  rw [List.map_append, List.mem_append, List.map_singleton, List.mem_singleton, or_comm]

namespace Collects

theorem getElem?_contacts (h : b.Collects entries kept) (contact : String) :
    b.contacts[contact]? =
      if numbersOf contact kept = [] then none else some (numbersOf contact kept) :=
  h.lookup contact

/-- A number that is not accepted has an id that was there. -/
theorem reject (h : b.Collects entries kept) (contact : String) (hid : n.id ∈ b.ids) :
    b.Collects (entries ++ [(contact, n)]) kept := by
  refine ⟨fun id => ?_, h.accepted, h.distinct, h.lookup⟩
  rw [mem_ids_concat_iff, ← h.added]
  constructor
  · exact .inr
  · rintro (rfl | hmem)
    · exact hid
    · exact hmem

/-- A number that is accepted adds its id, and comes behind the others of its contact. -/
theorem accept (h : b.Collects entries kept) (contact : String) (hid : n.id ∉ b.ids) :
    (b.add contact n).2.Collects (entries ++ [(contact, n)]) (kept ++ [(contact, n)]) := by
  rw [add_of_not_mem contact hid]
  refine ⟨fun id => ?_, fun id => ?_, ?_, fun contact' => ?_⟩
  · rw [mem_ids_concat_iff, ← h.added, List.mem_cons]
  · rw [mem_ids_concat_iff, ← h.accepted, List.mem_cons]
  · rw [List.map_append, List.nodup_append]
    refine ⟨h.distinct, List.nodup_singleton _, ?_⟩
    rintro id hmem _ hmem' rfl
    cases List.mem_singleton.1 hmem'
    exact hid ((h.accepted n.id).2 hmem)
  · -- The contact had its accepted numbers, or was not known and had none.
    have hbefore : b.contacts[contact]?.getD [] = numbersOf contact kept := by
      rw [h.getElem?_contacts]
      split
      · next hnone => exact hnone.symm
      · rfl
    have hafter := getElem?_insert_eq_ite b.contacts contact contact'
      (numbersOf contact kept ++ [n])
    rw [hbefore, numbersOf_concat]
    refine hafter.trans ?_
    by_cases hcontact : contact = contact'
    · subst hcontact
      rw [if_pos rfl, if_pos rfl, if_neg (List.concat_ne_nil _ _)]
    · rw [if_neg hcontact, if_neg hcontact]
      exact h.getElem?_contacts contact'

/-- The contacts of a book are those of the accepted entries, with their numbers. -/
theorem mem_toList_iff (h : b.Collects entries kept) {numbers : List ContactNumber} :
    (contact, numbers) ∈ b.contacts.toList ↔ numbers = numbersOf contact kept ∧ numbers ≠ [] := by
  rw [Std.ExtTreeMap.mem_toList_iff_getElem?_eq_some, h.getElem?_contacts]
  split
  · next hnone =>
    rw [hnone]
    exact ⟨fun hsome => (by cases hsome), fun ⟨heq, hne⟩ => absurd heq hne⟩
  · next hsome =>
    rw [Option.some_inj, eq_comm]
    exact ⟨fun heq => ⟨heq, heq ▸ hsome⟩, fun heq => heq.1⟩

/-- The contact of an accepted entry is one of the book. -/
theorem mem_toList_of_mem (h : b.Collects entries kept) (hmem : (contact, n) ∈ kept) :
    (contact, numbersOf contact kept) ∈ b.contacts.toList :=
  h.mem_toList_iff.2 ⟨rfl, List.ne_nil_of_mem (mem_numbersOf_iff.2 hmem)⟩

/-- The ids of the numbers of all contacts are those that are taken. -/
theorem mem_numberIds_iff (h : b.Collects entries kept) {id : Int64} :
    id ∈ b.numberIds ↔ id ∈ b.ids := by
  unfold numberIds
  rw [h.accepted, List.mem_flatMap, List.mem_map]
  constructor
  · rintro ⟨⟨contact, numbers⟩, hmem, hid⟩
    obtain ⟨n, hn, rfl⟩ := List.mem_map.1 hid
    obtain ⟨rfl, -⟩ := h.mem_toList_iff.1 hmem
    exact ⟨(contact, n), mem_numbersOf_iff.1 hn, rfl⟩
  · rintro ⟨⟨contact, n⟩, hmem, rfl⟩
    exact ⟨(contact, numbersOf contact kept), h.mem_toList_of_mem hmem,
      List.mem_map.2 ⟨n, mem_numbersOf_iff.2 hmem, rfl⟩⟩

/-- No two numbers have one id, under one contact or under two. -/
theorem nodup_numberIds (h : b.Collects entries kept) : b.numberIds.Nodup := by
  unfold numberIds
  rw [List.nodup_flatMap]
  constructor
  · rintro ⟨contact, numbers⟩ hmem
    obtain ⟨rfl, -⟩ := h.mem_toList_iff.1 hmem
    change ((numbersOf contact kept).map (·.id)).Nodup
    unfold numbersOf
    rw [List.map_map]
    exact h.distinct.sublist (List.filter_sublist.map _)
  · -- Accepted entries with one id are one entry, so they are under one contact.
    refine Std.ExtTreeMap.distinct_keys_toList.imp_of_mem ?_
    rintro ⟨contact, numbers⟩ ⟨contact', numbers'⟩ hmem hmem' hne id hid hid'
    obtain ⟨rfl, -⟩ := h.mem_toList_iff.1 hmem
    obtain ⟨rfl, -⟩ := h.mem_toList_iff.1 hmem'
    obtain ⟨n, hn, rfl⟩ := List.mem_map.1 hid
    obtain ⟨n', hn', hsame⟩ := List.mem_map.1 hid'
    have hentry : (contact', n') = (contact, n) :=
      List.inj_on_of_nodup_map h.distinct (mem_numbersOf_iff.1 hn') (mem_numbersOf_iff.1 hn) hsame
    cases hentry
    exact hne Std.ReflCmp.compare_self

/-- There are as many contacts as those that an entry was accepted for. -/
theorem size_eq (h : b.Collects entries kept) : b.size = (kept.map (·.1)).toFinset.card := by
  have hkeys : b.contacts.keys.toFinset = (kept.map (·.1)).toFinset := by
    ext contact
    rw [List.mem_toFinset, List.mem_toFinset, ← Std.ExtTreeMap.map_fst_toList_eq_keys,
      List.mem_map, List.mem_map]
    constructor
    · rintro ⟨⟨contact, numbers⟩, hmem, rfl⟩
      obtain ⟨rfl, hne⟩ := h.mem_toList_iff.1 hmem
      obtain ⟨n, hn⟩ := List.exists_mem_of_ne_nil _ hne
      exact ⟨(contact, n), mem_numbersOf_iff.1 hn, rfl⟩
    · rintro ⟨⟨contact, n⟩, hmem, rfl⟩
      exact ⟨(contact, numbersOf contact kept), h.mem_toList_of_mem hmem, rfl⟩
  unfold size
  rw [← Std.ExtTreeMap.length_keys, ← hkeys]
  exact (List.toFinset_card_of_nodup Std.ExtTreeMap.nodup_keys).symm

end Collects

/-- A book that is filled from nothing holds what was added and accepted. -/
theorem collects_addAll (entries : List (String × ContactNumber)) :
    (empty.addAll entries).2.Collects entries (empty.accepted entries) := by
  induction entries using List.reverseRecOn with
  | nil => exact collects_empty
  | append_singleton entries e ih =>
    obtain ⟨contact, n⟩ := e
    rw [addAll_concat, accepted_concat]
    by_cases hid : n.id ∈ (empty.addAll entries).2.ids
    · rw [add_of_mem contact hid, if_neg Bool.false_ne_true, List.append_nil]
      exact ih.reject contact hid
    · rw [if_pos ((add_eq_true_iff _ contact n).2 hid)]
      exact ih.accept contact hid

/-- **A filled address book holds exactly what it accepted.** Numbers are added to an empty book, in
any order and with any ids. Every addition is answered, with true exactly if no earlier one, for the
same contact or another, had the same id. Afterwards a contact has its accepted numbers in the order
they were added, and one without any is not known; no two numbers in the book have one id, and their
ids are those of all the additions; the contacts are as many as the different ones that a number was
accepted for; and collecting the list gives this book. -/
theorem additions_exact (entries : List (String × ContactNumber)) :
    let answers := (empty.addAll entries).1
    let book := (empty.addAll entries).2
    let kept := empty.accepted entries
    answers.length = entries.length ∧
    (∀ before contact n after, entries = before ++ (contact, n) :: after →
      (answers[before.length]? = some true ↔ ∀ e ∈ before, e.2.id ≠ n.id)) ∧
    (∀ contact, book.lookup contact =
      if numbersOf contact kept = [] then none else some (numbersOf contact kept)) ∧
    book.numberIds.Nodup ∧ (∀ id, id ∈ book.numberIds ↔ ∃ e ∈ entries, e.2.id = id) ∧
    book.size = (kept.map (·.1)).toFinset.card ∧
    ofList entries = book := by
  intro answers book kept
  have hbook : book.Collects entries kept := collects_addAll entries
  refine ⟨length_addAll empty entries, ?_, hbook.lookup, hbook.nodup_numberIds, fun id => ?_,
    hbook.size_eq, ofList_eq entries⟩
  · rintro before contact n after rfl
    have hanswer : answers[before.length]? = some ((empty.addAll before).2.add contact n).1 :=
      getElem?_addAll empty before after contact n
    rw [hanswer, Option.some_inj, add_eq_true_iff, (collects_addAll before).added, List.mem_map]
    exact ⟨fun hnew e he hid => hnew ⟨e, he, hid⟩, fun hnew ⟨e, he, hid⟩ => hnew e he hid⟩
  · rw [hbook.mem_numberIds_iff, hbook.added, List.mem_map]

/-- Additions for contacts in turn, some with ids that were there before: for a contact without
another number, for one that has a number, and with an id that is tried for the third time. -/
def sharedNumbers : List (String × ContactNumber) :=
  [("ann", ⟨1, "5550001", "Mobile", none, none⟩), ("bob", ⟨1, "5550001", "", none, none⟩),
    ("cat", ⟨-3, "5550003", "Work", none, none⟩), ("ann", ⟨2, "5550002", "", none, none⟩),
    ("cat", ⟨2, "5550004", "", none, none⟩), ("ann", ⟨1, "5550005", "Home", none, none⟩)]

/-- The number of the second addition is refused, so its contact, who has no other, is not known and
not counted. -/
theorem additions_exact_sharedNumbers :
    let answers := (empty.addAll sharedNumbers).1
    let book := (empty.addAll sharedNumbers).2
    answers[1]? ≠ some true ∧ answers[3]? = some true ∧
      book.lookup "bob" = none ∧
      (book.lookup "ann").map (·.map (·.address)) = some ["5550001", "5550002"] ∧
      book.size = 2 ∧ 2 ∈ book.numberIds ∧ ofList sharedNumbers = book := by
  intro answers book
  obtain ⟨-, hanswer, hlookup, -, hids, hsize, hbook⟩ := additions_exact sharedNumbers
  have hsecond := hanswer (sharedNumbers.take 1) "bob" ⟨1, "5550001", "", none, none⟩ _ rfl
  have hfourth := hanswer (sharedNumbers.take 3) "ann" ⟨2, "5550002", "", none, none⟩ _ rfl
  refine ⟨fun htrue => ?_, hfourth.2 (by decide), (hlookup "bob").trans rfl, ?_,
    hsize.trans (by decide), (hids 2).2 (by decide), hbook⟩
  · exact absurd (hsecond.1 htrue) (by decide)
  · rw [hlookup "ann"]
    rfl

end Strata.Messages.AddressBook

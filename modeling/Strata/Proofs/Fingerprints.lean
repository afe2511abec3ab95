import Strata.Schema.Fingerprint
import Strata.Proofs.Edits
import Strata.Proofs.KeyOrder
import Strata.Proofs.Spellings

/-!
# Fingerprint streams read back

The bytes that a fingerprint is the digest of can be read back. UTF-8 has no byte from `0xf8` on, so
a stream falls apart at the bytes `0xff` and `0xfe` into the names of entities and the definitions
of fields (`Schema.entries_inj`), and an entity's definitions are those up to the next name
(`Schema.readEntries_entries`). A definition is read from the left: the name of the field ends at
the colon, the type at the first mark behind it, and the rest is the roles, an equals sign and the
default (`Field.description_inj`), which different values spell differently.

Names are read that way if they hold none of the characters that structure a definition. Between
schemas with such names the streams are equal exactly when the entities are
(`Schema.stream_eq_iff`); the versions do not matter.
-/

namespace Strata

namespace Text

/-! ## Bytes that no text contains -/

/-- The bytes of a text are below those that mark the ends of texts. -/
theorem lt_of_mem_toBytes {s : String} {b : UInt8} (h : b ∈ toBytes s) : b.toNat < 0xf8 := by
  have hofNat : ∀ n < 0xf8, (UInt8.ofNat n).toNat < 0xf8 := by
    intro n hn
    rw [UInt8.toNat_ofNat_of_lt' (Nat.lt_trans hn (by decide))]
    exact hn
  have hcontinuation : ∀ count v, ∀ b ∈ continuation count v, b.toNat < 0xf8 := by
    intro count v
    induction count with
    | zero => exact fun b hb => nomatch hb
    | succ count ih =>
      intro b hb
      rcases List.mem_cons.1 hb with rfl | hrest
      · exact hofNat _ (by omega)
      · exact ih b hrest
  rw [toBytes_eq_flatMap, List.mem_flatMap] at h
  obtain ⟨c, -, hbyte⟩ := h
  rw [utf8EncodeChar_eq] at hbyte
  rcases List.mem_cons.1 hbyte with rfl | hrest
  · have hchar := toNat_val_lt c
    have hleading : leading c.val.toNat < 0xf8 := by
      rcases leading_cases c.val.toNat with ⟨_, _, h⟩ | ⟨_, _, _, h⟩ | ⟨_, _, _, h⟩ | ⟨_, _, h⟩ <;>
        omega
    exact hofNat _ hleading
  · exact hcontinuation _ _ b hrest

/-- The bytes of texts one after the other are the bytes of the joined text. -/
theorem toBytes_append (s t : String) : toBytes (s ++ t) = toBytes s ++ toBytes t := by
  simp only [toBytes_eq_flatMap, String.toList_append, List.flatMap_append]

/-- A text with a mark behind it that no text contains ends at that mark. -/
theorem toBytes_append_cons_inj {s t : String} {a b : UInt8} {u v : Bytes} (ha : 0xf8 ≤ a.toNat)
    (hb : 0xf8 ≤ b.toNat) (h : toBytes s ++ a :: u = toBytes t ++ b :: v) :
    s = t ∧ a = b ∧ u = v := by
  have hbelow : ∀ text : String, ∀ c ∈ toBytes text, ¬0xf8 ≤ c.toNat :=
    fun _ c hc => Nat.not_le_of_lt (lt_of_mem_toBytes hc)
  obtain ⟨hst, hrest⟩ := append_cons_inj (p := (0xf8 ≤ ·.toNat)) (hbelow s) (hbelow t) ha hb h
  exact ⟨toBytes_injective hst, hrest⟩

/-- Lists are equal if their images are, for a function that tells their elements apart. -/
theorem map_inj_of_forall {α β : Type} {f : α → β} {p : α → Prop}
    (hinj : ∀ x y, p x → p y → f x = f y → x = y) {xs ys : List α} (hxs : ∀ x ∈ xs, p x)
    (hys : ∀ y ∈ ys, p y) (h : xs.map f = ys.map f) : xs = ys := by
  induction xs generalizing ys with
  | nil => exact (List.map_eq_nil_iff.1 h.symm).symm
  | cons x xs ih =>
    cases ys with
    | nil => cases h
    | cons y ys =>
      obtain ⟨hhead, htail⟩ := List.cons.inj h
      rw [hinj x y (hxs x List.mem_cons_self) (hys y List.mem_cons_self) hhead,
        ih (fun z hz => hxs z (List.mem_cons_of_mem _ hz))
          (fun z hz => hys z (List.mem_cons_of_mem _ hz)) htail]

end Text

open Text

/-! ## Definitions of fields -/

/-- A name of letters, digits and underscores. -/
def PlainName (name : String) : Prop := ∀ c ∈ name.toList, c.isAlphanum = true ∨ c = '_'

instance (name : String) : Decidable (PlainName name) := List.decidableBAll _ _

/-- A character of a plain name is none of those that a definition is structured by. -/
theorem PlainName.ne_of_mem {name : String} (h : PlainName name) {c d : Char} (hc : c ∈ name.toList)
    (hd : ¬(d.isAlphanum = true ∨ d = '_')) : c ≠ d := by
  rintro rfl
  exact hd (h c hc)

namespace FieldType

/-- Types of plain targets are told apart by how they are written. -/
theorem text_inj {t u : FieldType} (ht : ∀ target, t.target? = some target → PlainName target)
    (hu : ∀ target, u.target? = some target → PlainName target) (h : t.text = u.text) : t = u := by
  -- Only the text of a list of references ends with a bracket behind a plain name.
  have hbrackets : ∀ name other : String, PlainName name →
      name.toList ≠ other.toList ++ ['[', ']'] := by
    intro name other hplain heq
    have hmem : '[' ∈ name.toList := by simp [heq]
    exact hplain.ne_of_mem hmem (by decide) rfl
  have hchars := String.toList_inj.2 h
  cases t <;> cases u <;>
    simp only [text, String.toList_append, String.reduceToList, List.cons_append, List.nil_append,
      List.cons.injEq, List.append_cancel_right_eq, Char.reduceEq, true_and, false_and, and_false,
      reduceCtorEq] at hchars
  case int.int | str.str | bool.bool | ints.ints | strs.strs => rfl
  case ref.ref | refs.refs => rw [String.toList_inj.1 hchars]
  case ref.refs name other => exact absurd hchars (hbrackets name other (ht name rfl))
  case refs.ref other name => exact absurd hchars.symm (hbrackets name other (hu name rfl))

/-- The text of a type with a plain target has none of the marks that follow it. -/
theorem notMem_text {t : FieldType} (ht : ∀ target, t.target? = some target → PlainName target)
    {c : Char} (hc : c ∈ ['?', ' ', '=']) : c ∉ t.text.toList := by
  have hname : ∀ target, t.target? = some target → c ∉ target.toList := by
    intro target htarget hmem
    have hmarks : ∀ d ∈ ['?', ' ', '='], ¬(d.isAlphanum = true ∨ d = '_') :=
      List.all_iff_forall_prop.1 (by decide)
    exact (ht target htarget).ne_of_mem hmem (hmarks c hc) rfl
  have hreference : ∀ d ∈ ['?', ' ', '='], d ≠ '&' ∧ d ∉ ['[', ']'] :=
    List.all_iff_forall_prop.1 (by decide)
  obtain ⟨hand, hbrackets⟩ := hreference c hc
  cases t with
  | ref target =>
    change c ∉ ("&" ++ target).toList
    rw [String.toList_append]
    exact List.not_mem_cons_of_ne_of_not_mem hand (hname target rfl)
  | refs target =>
    change c ∉ ("&" ++ target ++ "[]").toList
    rw [String.toList_append, String.toList_append, List.mem_append, not_or]
    exact ⟨List.not_mem_cons_of_ne_of_not_mem hand (hname target rfl), hbrackets⟩
  | int | str | bool | ints | strs =>
    simp only [List.mem_cons, List.not_mem_nil, or_false] at hc
    rcases hc with rfl | rfl | rfl <;> decide

end FieldType

namespace Field

/-- The roles of a field as its definition ends with them. -/
def roles (f : Field) : List Char :=
  (if f.required then [] else ['?']) ++
    (if f.primaryKey then " @pk".toList else if f.indexed then " @index".toList else [])

/-- The default of a field as a stream gives it. -/
def defaultText (f : Field) : String :=
  match f.default? with
  | some value => value.spelled
  | none => "none"

/-- A definition with its default, as a stream gives it. -/
def description (f : Field) : String := f.text ++ "=" ++ f.defaultText

/-- A definition is a name, a type, the roles and a default, with marks between them. -/
theorem toList_description (f : Field) : f.description.toList =
    f.name.toList ++ ':' :: ' ' :: (f.type.text.toList ++
      (f.roles ++ '=' :: f.defaultText.toList)) := by
  unfold description text roles
  cases f.required <;> cases f.primaryKey <;> cases f.indexed <;> simp

/-- A field whose names are plain, and which is indexed if it is a primary key. -/
structure Plain (f : Field) : Prop where
  /-- The name is plain. -/
  name : PlainName f.name
  /-- The entity that the field refers to has a plain name. -/
  target : ∀ target, f.type.target? = some target → PlainName target
  /-- A primary key is indexed. -/
  indexed : f.primaryKey = true → f.indexed = true

instance (f : Field) : Decidable f.Plain :=
  decidable_of_iff (PlainName f.name ∧ (∀ target ∈ f.type.target?, PlainName target) ∧
      (f.primaryKey = true → f.indexed = true))
    ⟨fun ⟨hname, htarget, hindexed⟩ => ⟨hname, htarget, hindexed⟩,
      fun h => ⟨h.name, h.target, h.indexed⟩⟩

/-- The roles begin with a mark, or the equals sign is behind the type. -/
theorem exists_mark_roles (f : Field) (u : List Char) :
    ∃ a w, f.roles ++ '=' :: u = a :: w ∧ a ∈ ['?', ' ', '='] := by
  unfold roles
  cases f.required <;> cases f.primaryKey <;> cases f.indexed <;> simp

/-- The roles say which field is required, indexed or a primary key. -/
theorem roles_inj {f g : Field} (hf : f.primaryKey = true → f.indexed = true)
    (hg : g.primaryKey = true → g.indexed = true) {u v : List Char}
    (h : f.roles ++ '=' :: u = g.roles ++ '=' :: v) :
    f.required = g.required ∧ f.indexed = g.indexed ∧ f.primaryKey = g.primaryKey ∧ u = v := by
  unfold roles at h
  revert hf hg h
  cases f.required <;> cases f.primaryKey <;> cases f.indexed <;>
    cases g.required <;> cases g.primaryKey <;> cases g.indexed <;> simp

/-- The default can be told from its text. -/
theorem defaultText_inj {f g : Field} (h : f.defaultText = g.defaultText) :
    f.default? = g.default? := by
  -- No spelled value begins with a small letter.
  have hnone : ∀ v : Value, v.spelled ≠ "none" := by
    intro v hv
    have hchars := String.toList_inj.2 hv
    cases v <;> simp [Value.spelled] at hchars
  unfold defaultText at h
  cases hf : f.default? with
  | none =>
    cases hg : g.default? with
    | none => rfl
    | some w =>
      rw [hf, hg] at h
      exact absurd h.symm (hnone w)
  | some v =>
    cases hg : g.default? with
    | none =>
      rw [hf, hg] at h
      exact absurd h (hnone v)
    | some w =>
      rw [hf, hg] at h
      rw [Value.spelled_inj h]

/-- Plain definitions with different content are described differently. -/
theorem description_inj {f g : Field} (hf : f.Plain) (hg : g.Plain)
    (h : f.description = g.description) : f = g := by
  have hchars := String.toList_inj.2 h
  rw [toList_description, toList_description] at hchars
  -- The name ends at the colon.
  have hcolon : ∀ {name : String}, PlainName name → ∀ c ∈ name.toList, c ≠ ':' :=
    fun hplain c hc => hplain.ne_of_mem hc (by decide)
  obtain ⟨hname, -, hbehind⟩ := append_cons_inj (p := (· = ':')) (hcolon hf.name) (hcolon hg.name)
    rfl rfl hchars
  -- The type ends at the first mark.
  obtain ⟨a, u, hu, ha⟩ := f.exists_mark_roles f.defaultText.toList
  obtain ⟨b, v, hv, hb⟩ := g.exists_mark_roles g.defaultText.toList
  have htail := (List.cons.inj hbehind).2
  rw [hu, hv] at htail
  obtain ⟨htype, rfl, rfl⟩ := append_cons_inj (p := (· ∈ ['?', ' ', '=']))
    (fun c hc hmark => FieldType.notMem_text hf.target hmark hc)
    (fun c hc hmark => FieldType.notMem_text hg.target hmark hc) ha hb htail
  obtain ⟨hrequired, hindexed, hprimary, hdefault⟩ :=
    roles_inj hf.indexed hg.indexed (hu.trans hv.symm)
  have hname' := String.toList_inj.1 hname
  have htype' := FieldType.text_inj hf.target hg.target (String.toList_inj.1 htype)
  have hdefault' := defaultText_inj (String.toList_inj.1 hdefault)
  cases f
  cases g
  rw [Field.mk.injEq]
  exact ⟨hname', htype', hrequired, hdefault', hindexed, hprimary⟩

end Field

namespace Schema

/-! ## The stream and its entries -/

/-- The texts of the stream in order: the name of an entity, which is marked as one, and the
definitions of its fields. -/
def entries (s : Schema) : List (Bool × String) :=
  s.entities.toList.flatMap fun p => (true, p.1) :: p.2.fields.map fun f => (false, f.description)

/-- The bytes of one entry. -/
def entryStream (entry : Bool × String) : Bytes :=
  toBytes entry.2 ++ [if entry.1 then 0xff else 0xfe]

/-- The stream of a field is that of its description. -/
theorem fieldStream_eq (f : Field) : fieldStream f = entryStream (false, f.description) := by
  unfold fieldStream entryStream Field.description Field.defaultText
  cases f.default? with
  | none => simp only [toBytes_append, List.append_assoc]; rfl
  | some value => simp only [toBytes_append, List.append_assoc]; rfl

/-- The stream of an entity is that of its name and the descriptions of its fields. -/
theorem entityStream_eq (name : String) (e : Entity) : entityStream name e =
    ((true, name) :: e.fields.map fun f => (false, f.description)).flatMap entryStream := by
  unfold entityStream
  rw [List.flatMap_cons, List.flatMap_map, funext fieldStream_eq]
  rfl

/-- The stream consists of the bytes of the entries. -/
theorem stream_eq_flatMap (s : Schema) : s.stream = s.entries.flatMap entryStream := by
  unfold stream entries
  rw [List.flatMap_assoc]
  simp only [entityStream_eq]

/-- An entry ends at its mark. -/
theorem prefixFree_entryStream : PrefixFree entryStream := by
  rintro ⟨isName, s⟩ ⟨isName', t⟩ u v h
  unfold entryStream at h
  rw [List.append_assoc, List.append_assoc] at h
  obtain ⟨rfl, hmark, rfl⟩ := toBytes_append_cons_inj (by split <;> decide) (by split <;> decide) h
  revert hmark
  cases isName <;> cases isName' <;> simp

/-- The entries can be told from the stream. -/
theorem entries_inj {s t : Schema} (h : s.stream = t.stream) : s.entries = t.entries := by
  rw [stream_eq_flatMap, stream_eq_flatMap] at h
  have hne : ∀ (entry : Bool × String) w, entryStream entry ++ w ≠ [] := by
    intro entry w
    unfold entryStream
    simp
  exact (flatMap_append_inj prefixFree_entryStream hne hne (congrArg (· ++ []) h)).1

/-- The names of entities among entries, each with the definitions up to the next one, and the
definitions before the first. -/
def readEntries : List (Bool × String) → List (String × List String) × List String
  | [] => ([], [])
  | (true, name) :: rest => ((name, (readEntries rest).2) :: (readEntries rest).1, [])
  | (false, text) :: rest => ((readEntries rest).1, text :: (readEntries rest).2)

/-- The entities with the descriptions of their fields are read back from the entries. -/
theorem readEntries_entries (s : Schema) : readEntries s.entries =
    (s.entities.toList.map fun p => (p.1, p.2.fields.map Field.description), []) := by
  have hfields : ∀ (fs : List Field) rest,
      readEntries ((fs.map fun f => (false, f.description)) ++ rest) =
        ((readEntries rest).1, fs.map Field.description ++ (readEntries rest).2) := by
    intro fs rest
    induction fs with
    | nil => rfl
    | cons f fs ih =>
      rw [List.map_cons, List.cons_append, readEntries, ih]
      rfl
  unfold entries
  induction s.entities.toList with
  | nil => rfl
  | cons p ps ih =>
    rw [List.flatMap_cons, List.cons_append, readEntries, hfields, ih]
    simp

/-- A schema of plain names whose entities are stored under their own names, and whose primary keys
are indexed. -/
structure Plain (s : Schema) : Prop where
  /-- Entities are stored under their own names. -/
  named : ∀ name e, s.entity? name = some e → e.name = name
  /-- The fields are plain. -/
  fields : ∀ name e, s.entity? name = some e → ∀ f ∈ e.fields, f.Plain

/-- **What the fingerprint identifies.** Two schemas of plain names, of whatever versions, have the
same stream exactly when they have the same entities, with the same definitions of fields in the
same order. -/
theorem stream_eq_iff {s t : Schema} (hs : s.Plain) (ht : t.Plain) :
    s.stream = t.stream ↔ s.entities = t.entities := by
  constructor
  · intro h
    have hread := congrArg readEntries (entries_inj h)
    rw [readEntries_entries, readEntries_entries] at hread
    have hplain : ∀ {r : Schema}, r.Plain → ∀ p ∈ r.entities.toList,
        p.2.name = p.1 ∧ ∀ f ∈ p.2.fields, f.Plain := by
      rintro r hr ⟨name, e⟩ hp
      have he : r.entity? name = some e := Std.ExtTreeMap.mem_toList_iff_getElem?_eq_some.1 hp
      exact ⟨hr.named name e he, hr.fields name e he⟩
    -- An entity is its name and its fields.
    have hentity : ∀ p q : String × Entity, (p.2.name = p.1 ∧ ∀ f ∈ p.2.fields, f.Plain) →
        (q.2.name = q.1 ∧ ∀ f ∈ q.2.fields, f.Plain) →
        (p.1, p.2.fields.map Field.description) = (q.1, q.2.fields.map Field.description) →
        p = q := by
      rintro ⟨name, ⟨own, fs⟩⟩ ⟨other, ⟨own', gs⟩⟩ ⟨hname, hfs⟩ ⟨hother, hgs⟩ heq
      obtain ⟨hsame, hfields⟩ := Prod.mk.inj heq
      dsimp only at *
      rw [hname, hother, hsame,
        map_inj_of_forall (fun _ _ => Field.description_inj) hfs hgs hfields]
    have hlists := map_inj_of_forall hentity (hplain hs) (hplain ht) (Prod.mk.inj hread).1
    exact Std.ExtTreeMap.toList_inj.1 hlists
  · intro h
    unfold stream
    rw [h]

/-- A list of entities with plain fields makes a plain schema. -/
theorem plain_ofList {version : Nat} {entities : List Entity}
    (h : ∀ e ∈ entities, ∀ f ∈ e.fields, f.Plain) : (ofList version entities).Plain := by
  constructor
  · intro name e he
    exact (mem_of_entity?_ofList he).2
  · intro name e he
    exact h e (mem_of_entity?_ofList he).1

/-- Letters with a numbered key, a list of tags and the letter that they answer. -/
def letters (version : Nat) (tags : List String) : Schema :=
  .ofList version [⟨"Letter", [.primary "id" .int,
    (Field.list "tags" .strs).withDefault (.strs tags), .optional "reply_to" (.ref "Letter")]⟩]

/-- The fingerprint takes one tag with a comma and quotes in it for one tag, and not for two; it
does not matter at which version. -/
theorem stream_eq_iff_letters :
    (letters 0 ["a\", \"b"]).Plain ∧ (letters 1 ["a", "b"]).Plain ∧
      (letters 0 ["a\", \"b"]).stream ≠ (letters 1 ["a", "b"]).stream ∧
      (letters 0 ["a", "b"]).stream = (letters 1 ["a", "b"]).stream := by
  have hplain : ∀ version tags, (letters version tags).Plain := by
    intro version tags
    refine plain_ofList fun e he f hf => ?_
    rw [List.mem_singleton] at he
    subst he
    simp only [List.mem_cons, List.not_mem_nil, or_false] at hf
    rcases hf with rfl | rfl | rfl
    · decide
    · have hname : PlainName "tags" := by decide
      exact ⟨hname, nofun, nofun⟩
    · decide
  have hdiffer : (letters 0 ["a\", \"b"]).entities ≠ (letters 1 ["a", "b"]).entities := by decide
  refine ⟨hplain _ _, hplain _ _, fun h => ?_, ?_⟩
  · exact hdiffer ((stream_eq_iff (hplain _ _) (hplain _ _)).1 h)
  · exact (stream_eq_iff (hplain _ _) (hplain _ _)).2 rfl

end Schema

end Strata

import Strata.Value
import Strata.Text.Hex
import Std.Data.String.ToInt
import Mathlib.Data.Bool.AllAny
import Mathlib.Data.List.Basic

/-!
# Spellings read back

What a value is written as can be told from what is written behind it. A written character inside
quotes is read off by `readQuoted?`, so quoted texts are prefix-free (`prefixFree_quoted`): the
closing quote is the first one that is not escaped. A number ends where the digits end, which is
before every mark that may follow it (`delimited_int`). Keys are prefix-free by their closing
bracket, and lists are read item by item up to the bracket (`bracketed_inj`). So different values
have different spellings (`Value.spelled_inj`). What a reader is shown of a key gives the key too,
since a text is shown in quotes and a row behind a mark (`Key.text_injective`).
-/

namespace Strata

namespace Text

variable {α β : Type}

/-! ## Reading pieces off -/

/-- Of two equal lists that are cut at their first element of some kind, the pieces are equal. -/
theorem append_cons_inj {p : β → Prop} {xs ys u v : List β} {a b : β} (hxs : ∀ c ∈ xs, ¬p c)
    (hys : ∀ c ∈ ys, ¬p c) (ha : p a) (hb : p b) (h : xs ++ a :: u = ys ++ b :: v) :
    xs = ys ∧ a = b ∧ u = v := by
  induction xs generalizing ys with
  | nil =>
    cases ys with
    | nil =>
      obtain ⟨rfl, rfl⟩ := List.cons.inj h
      exact ⟨rfl, rfl, rfl⟩
    | cons d ys =>
      obtain ⟨rfl, -⟩ := List.cons.inj h
      exact absurd ha (hys _ List.mem_cons_self)
  | cons c xs ih =>
    cases ys with
    | nil =>
      obtain ⟨rfl, -⟩ := List.cons.inj h
      exact absurd hb (hxs _ List.mem_cons_self)
    | cons d ys =>
      obtain ⟨rfl, hrest⟩ := List.cons.inj h
      have hpieces := ih (fun c hc => hxs c (List.mem_cons_of_mem _ hc))
        (fun c hc => hys c (List.mem_cons_of_mem _ hc)) hrest
      exact ⟨congrArg _ hpieces.1, hpieces.2⟩

/-- Whether what is written can be told from whatever follows it. -/
def PrefixFree (write : α → List β) : Prop :=
  ∀ ⦃x y u v⦄, write x ++ u = write y ++ v → x = y ∧ u = v

/-- Whether what is written can be told from what follows it, if that begins with a mark. -/
def Delimited (marks : List β) (write : α → List β) : Prop :=
  ∀ ⦃x y a b u v⦄, a ∈ marks → b ∈ marks → write x ++ a :: u = write y ++ b :: v →
    x = y ∧ a = b ∧ u = v

/-- What can be told from everything can be told from what begins with a mark. -/
theorem PrefixFree.delimited {write : α → List β} (h : PrefixFree write) (marks : List β) :
    Delimited marks write := by
  intro x y a b u v _ _ heq
  obtain ⟨hxy, hrest⟩ := h heq
  exact ⟨hxy, List.cons.inj hrest⟩

/-- What is written without a mark ends at the mark behind it. -/
theorem delimited_of_notMem {marks : List β} {write : α → List β} (hinj : Function.Injective write)
    (hnot : ∀ x, ∀ c ∈ write x, c ∉ marks) : Delimited marks write := by
  intro x y a b u v ha hb heq
  obtain ⟨hxy, hrest⟩ := append_cons_inj (p := (· ∈ marks)) (hnot x) (hnot y) ha hb heq
  exact ⟨hinj hxy, hrest⟩

/-- Pieces that are prefix-free are read one after the other, up to what is none of them. -/
theorem flatMap_append_inj {write : α → List β} (hwrite : PrefixFree write) {xs ys : List α}
    {u v : List β} (hu : ∀ x w, write x ++ w ≠ u) (hv : ∀ x w, write x ++ w ≠ v)
    (h : xs.flatMap write ++ u = ys.flatMap write ++ v) : xs = ys ∧ u = v := by
  induction xs generalizing ys with
  | nil =>
    cases ys with
    | nil => exact ⟨rfl, h⟩
    | cons y ys =>
      rw [List.flatMap_cons, List.append_assoc] at h
      exact absurd h.symm (hu y _)
  | cons x xs ih =>
    cases ys with
    | nil =>
      rw [List.flatMap_cons, List.append_assoc] at h
      exact absurd h (hv x _)
    | cons y ys =>
      rw [List.flatMap_cons, List.flatMap_cons, List.append_assoc, List.append_assoc] at h
      obtain ⟨rfl, hrest⟩ := hwrite h
      obtain ⟨rfl, huv⟩ := ih hrest
      exact ⟨rfl, huv⟩

/-! ## Quoted texts -/

/-- The number that hexadecimal digits stand for. -/
def ofHexDigits (digits : List Char) : Nat :=
  digits.foldl (fun n d => 16 * n + (Hex.value? d).getD 0) 0

theorem value?_digitChar : ∀ n < 16, Hex.value? (Nat.digitChar n) = some n := by decide

/-- A number is read back from its hexadecimal digits. -/
theorem ofHexDigits_hexDigits (n : Nat) : ofHexDigits (hexDigits n) = n := by
  induction n using Nat.strongRecOn with
  | ind n ih =>
    unfold hexDigits
    rw [Nat.toDigits_eq_if (by decide)]
    split
    · next hlt =>
      unfold ofHexDigits
      rw [List.foldl_cons, List.foldl_nil, value?_digitChar n hlt, Option.getD_some]
      omega
    · next hge =>
      have hhigh : ofHexDigits (Nat.toDigits 16 (n / 16)) = n / 16 := ih (n / 16) (by omega)
      unfold ofHexDigits at hhigh ⊢
      rw [List.foldl_append, hhigh, List.foldl_cons, List.foldl_nil,
        value?_digitChar _ (Nat.mod_lt n (by decide)), Option.getD_some]
      omega

/-- No hexadecimal digit is a closing brace. -/
theorem ne_brace_of_mem_hexDigits {n : Nat} {c : Char} (h : c ∈ hexDigits n) : c ≠ '\x7d' := by
  induction n using Nat.strongRecOn with
  | ind n ih =>
    unfold hexDigits at h
    rw [Nat.toDigits_eq_if (by decide)] at h
    split at h
    · rw [List.mem_singleton] at h
      exact h ▸ Nat.digitChar_ne _ (by decide)
    · rcases List.mem_append.1 h with hhigh | hlow
      · exact ih (n / 16) (by omega) hhigh
      · rw [List.mem_singleton] at hlow
        exact hlow ▸ Nat.digitChar_ne _ (by decide)

/-- The first character that a text inside quotes stands for, and the text behind its form. -/
def readQuoted? : List Char → Option (Char × List Char)
  | '\\' :: '0' :: rest => some ('\x00', rest)
  | '\\' :: 't' :: rest => some ('\t', rest)
  | '\\' :: 'n' :: rest => some ('\n', rest)
  | '\\' :: 'r' :: rest => some ('\r', rest)
  | '\\' :: '\x22' :: rest => some ('\x22', rest)
  | '\\' :: '\\' :: rest => some ('\\', rest)
  | '\\' :: 'u' :: '\x7b' :: rest =>
    some (Char.ofNat (ofHexDigits (rest.takeWhile (· != '\x7d'))),
      (rest.dropWhile (· != '\x7d')).tail)
  | c :: rest => some (c, rest)
  | [] => none

/-- A character is read back from its form inside quotes, whatever follows. -/
theorem readQuoted?_quotedChar (c : Char) (rest : List Char) :
    readQuoted? (quotedChar c ++ rest) = some (c, rest) := by
  unfold quotedChar
  split
  · next h => rw [h]; rfl
  split
  · next h => rw [h]; rfl
  split
  · next h => rw [h]; rfl
  split
  · next h => rw [h]; rfl
  split
  · next h => rw [h]; rfl
  split
  · next h => rw [h]; rfl
  next hplain =>
  split
  · -- The digits of the code point reach to the brace.
    have hdigits : ∀ d ∈ hexDigits c.toNat, (d != '\x7d') = true :=
      fun d hd => bne_iff_ne.2 (ne_brace_of_mem_hexDigits hd)
    have hform : codePointEscape c ++ rest =
        '\\' :: 'u' :: '\x7b' :: (hexDigits c.toNat ++ '\x7d' :: rest) := by
      unfold codePointEscape
      simp only [List.cons_append, List.append_assoc, List.nil_append]
    have hbraces (text : List Char) : readQuoted? ('\\' :: 'u' :: '\x7b' :: text) =
        some (Char.ofNat (ofHexDigits (text.takeWhile (· != '\x7d'))),
          (text.dropWhile (· != '\x7d')).tail) := rfl
    rw [hform, hbraces, List.takeWhile_append_of_pos hdigits, List.dropWhile_append_of_pos hdigits]
    simp [ofHexDigits_hexDigits, Char.ofNat_toNat]
  · -- Only a backslash opens a longer form.
    unfold readQuoted?
    split <;> simp_all

theorem prefixFree_quotedChar : PrefixFree quotedChar := by
  intro x y u v h
  have hread := congrArg readQuoted? h
  rw [readQuoted?_quotedChar, readQuoted?_quotedChar] at hread
  cases hread
  exact ⟨rfl, rfl⟩

/-- No form inside quotes begins with a quote. -/
theorem quotedChar_append_ne (c : Char) (u v : List Char) : quotedChar c ++ u ≠ '\x22' :: v := by
  intro h
  have hread := congrArg readQuoted? h
  rw [readQuoted?_quotedChar] at hread
  -- A quote that is read off stands for itself, but its form is another one.
  obtain ⟨rfl, rfl⟩ : c = '\x22' ∧ u = v := by
    cases hread
    exact ⟨rfl, rfl⟩
  exact absurd (List.cons.inj h).1 (by decide)

/-- A quoted text ends at its closing quote. -/
theorem prefixFree_quoted : PrefixFree fun s => (quoted s).toList := by
  intro s t u v h
  unfold quoted at h
  simp only [String.toList_ofList, List.cons_append, List.append_assoc, List.nil_append] at h
  obtain ⟨-, hbody⟩ := List.cons.inj h
  obtain ⟨hchars, hrest⟩ := flatMap_append_inj prefixFree_quotedChar
    (fun x w => quotedChar_append_ne x w _) (fun x w => quotedChar_append_ne x w _) hbody
  exact ⟨String.toList_inj.1 hchars, (List.cons.inj hrest).2⟩

/-! ## Numbers -/

/-- The characters of a natural number are digits. -/
theorem isDigit_of_mem_natText {n : Nat} {c : Char} (h : c ∈ (toString n).toList) :
    c.isDigit = true := by
  rw [Nat.toString_eq_ofList_toDigits, String.toList_ofList] at h
  exact Nat.isDigit_of_mem_toDigits (by decide) (by decide) h

/-- The characters of an integer are digits and a sign. -/
theorem of_mem_intText {i : Int} {c : Char} (h : c ∈ (toString i).toList) :
    c.isDigit = true ∨ c = '-' := by
  rw [Int.toString_eq_repr, Int.repr_eq_if] at h
  split at h
  · exact .inl (isDigit_of_mem_natText h)
  · rw [String.toList_append, List.mem_append] at h
    rcases h with hsign | hdigit
    · exact .inr (List.mem_singleton.1 hsign)
    · exact .inl (isDigit_of_mem_natText hdigit)

/-- The marks that follow an item of a list or the content of a bracket. -/
def closers : List Char := [',', ']', ')']

theorem intText_injective : Function.Injective fun i : Int64 => toString i.toInt :=
  fun _ _ h => Int64.toInt_inj.1 (Int.repr_injective h)

theorem rowText_injective : Function.Injective fun r : UInt64 => toString r.toNat :=
  fun _ _ h => UInt64.toNat_inj.1 (Nat.repr_injective h)

/-- An integer ends at the mark behind it. -/
theorem delimited_int : Delimited closers fun i : Int64 => (toString i.toInt).toList := by
  refine delimited_of_notMem (fun i j h => ?_) fun i c hc hmark => ?_
  · exact intText_injective (String.toList_inj.1 h)
  · have hclosers : ∀ d ∈ closers, ¬(d.isDigit = true ∨ d = '-') :=
      List.all_iff_forall_prop.1 (by decide)
    exact hclosers c hmark (of_mem_intText hc)

/-- A row number ends at the mark behind it. -/
theorem delimited_row : Delimited closers fun r : UInt64 => (toString r.toNat).toList := by
  refine delimited_of_notMem (fun r q h => ?_) fun r c hc hmark => ?_
  · exact rowText_injective (String.toList_inj.1 h)
  · have hclosers : ∀ d ∈ closers, ¬d.isDigit = true := List.all_iff_forall_prop.1 (by decide)
    exact hclosers c hmark (isDigit_of_mem_natText hc)

/-! ## Lists -/

/-- Items between commas, closed by a bracket: the first item is followed by the bracket or by a
comma and the other items. -/
theorem intercalate_cons_close (x : List Char) (xs : List (List Char)) :
    [',', ' '].intercalate (x :: xs) ++ [']'] =
      x ++ if xs = [] then [']'] else ',' :: ' ' :: ([',', ' '].intercalate xs ++ [']']) := by
  cases xs with
  | nil => simp
  | cons y ys =>
    rw [List.intercalate_cons_cons, if_neg (List.cons_ne_nil y ys)]
    simp

/-- Lists are told apart by their items between brackets, if an item can be told from the marks
behind it and from the closing bracket. -/
theorem intercalate_close_inj {write : α → List Char} (hwrite : Delimited closers write)
    (hstart : ∀ x w u, write x ++ w ≠ ']' :: u) {xs ys : List α}
    (h : [',', ' '].intercalate (xs.map write) ++ [']'] =
      [',', ' '].intercalate (ys.map write) ++ [']']) : xs = ys := by
  induction xs generalizing ys with
  | nil =>
    cases ys with
    | nil => rfl
    | cons y ys =>
      rw [List.map_cons, intercalate_cons_close] at h
      exact absurd h.symm (hstart y _ _)
  | cons x xs ih =>
    cases ys with
    | nil =>
      rw [List.map_cons, intercalate_cons_close] at h
      exact absurd h (hstart x _ _)
    | cons y ys =>
      rw [List.map_cons, List.map_cons, intercalate_cons_close, intercalate_cons_close] at h
      -- The mark behind an item says whether there are more.
      split at h <;> split at h
      · next hxs hys =>
        obtain ⟨rfl, -⟩ := hwrite (by decide) (by decide) h
        rw [List.map_eq_nil_iff.1 hxs, List.map_eq_nil_iff.1 hys]
      · obtain ⟨-, hmark, -⟩ := hwrite (by decide) (by decide) h
        exact absurd hmark (by decide)
      · obtain ⟨-, hmark, -⟩ := hwrite (by decide) (by decide) h
        exact absurd hmark (by decide)
      · obtain ⟨rfl, -, hrest⟩ := hwrite (by decide) (by decide) h
        rw [ih (List.cons.inj hrest).2]

/-- Different lists are different between brackets. -/
theorem bracketed_inj {write : α → String}
    (hwrite : Delimited closers fun x => (write x).toList)
    (hstart : ∀ x w u, (write x).toList ++ w ≠ ']' :: u) {xs ys : List α}
    (h : bracketed (xs.map write) = bracketed (ys.map write)) : xs = ys := by
  unfold bracketed at h
  rw [← String.toList_inj] at h
  simp only [String.toList_append, String.toList_intercalate, List.map_map] at h
  exact intercalate_close_inj hwrite hstart (List.cons.inj h).2

end Text

open Text

/-! ## Keys and values -/

namespace Key

/-- An integer is shown with a digit or a sign first. -/
theorem text_int_ne {i : Int64} {c : Char} {rest : List Char} (hdigit : c.isDigit = false)
    (hsign : c ≠ '-') : (Key.int i).text.toList ≠ c :: rest := by
  intro h
  have hc : c ∈ (toString i.toInt).toList := h ▸ List.mem_cons_self
  rcases of_mem_intText hc with hmem | hmem
  · rw [hdigit] at hmem
    cases hmem
  · exact hsign hmem

theorem text_toList_str (s : String) : (Key.str s).text.toList =
    '\x22' :: (s.toList.flatMap quotedChar ++ ['\x22']) := by
  simp [text, quoted]

theorem text_toList_row (r : UInt64) : (Key.row r).text.toList =
    '#' :: (toString r.toNat).toList := by
  simp [text]

/-- Keys that are shown alike are equal, whatever their kinds. -/
theorem text_injective : Function.Injective Key.text := by
  intro k l h
  have hlist : k.text.toList = l.text.toList := congrArg String.toList h
  cases k with
  | int i =>
    cases l with
    | int j =>
      rw [intText_injective h]
    | str t =>
      rw [text_toList_str] at hlist
      exact absurd hlist (text_int_ne rfl (by decide))
    | row q =>
      rw [text_toList_row] at hlist
      exact absurd hlist (text_int_ne rfl (by decide))
  | str s =>
    cases l with
    | int j =>
      rw [text_toList_str] at hlist
      exact absurd hlist.symm (text_int_ne rfl (by decide))
    | str t =>
      have htext : (quoted s).toList ++ [] = (quoted t).toList ++ [] := by
        rw [List.append_nil, List.append_nil]
        exact hlist
      rw [(prefixFree_quoted htext).1]
    | row q =>
      rw [text_toList_str, text_toList_row] at hlist
      exact absurd (List.cons.inj hlist).1 (by decide)
  | row r =>
    cases l with
    | int j =>
      rw [text_toList_row] at hlist
      exact absurd hlist.symm (text_int_ne rfl (by decide))
    | str t =>
      rw [text_toList_str, text_toList_row] at hlist
      exact absurd (List.cons.inj hlist).1 (by decide)
    | row q =>
      rw [text_toList_row, text_toList_row] at hlist
      rw [rowText_injective (String.toList_inj.1 (List.cons.inj hlist).2)]

theorem spelled_toList_int (i : Int64) : (Key.int i).spelled.toList =
    'I' :: 'n' :: 't' :: '(' :: ((toString i.toInt).toList ++ [')']) := by
  simp [spelled]

theorem spelled_toList_str (s : String) : (Key.str s).spelled.toList =
    'S' :: 't' :: 'r' :: '(' :: ((quoted s).toList ++ [')']) := by
  simp [spelled]

theorem spelled_toList_row (r : UInt64) : (Key.row r).spelled.toList =
    'R' :: 'o' :: 'w' :: '(' :: ((toString r.toNat).toList ++ [')']) := by
  simp [spelled]

/-- A spelled key ends at its closing bracket. -/
theorem prefixFree_spelled : PrefixFree fun k : Key => k.spelled.toList := by
  intro k l u v h
  cases k <;> cases l <;>
    simp only [spelled_toList_int, spelled_toList_str, spelled_toList_row, List.cons_append,
      List.append_assoc, List.nil_append, List.cons.injEq, Char.reduceEq, true_and, false_and] at h
  · obtain ⟨rfl, -, hrest⟩ := delimited_int (by decide) (by decide) h
    exact ⟨rfl, hrest⟩
  · obtain ⟨rfl, hrest⟩ := prefixFree_quoted h
    exact ⟨rfl, (List.cons.inj hrest).2⟩
  · obtain ⟨rfl, -, hrest⟩ := delimited_row (by decide) (by decide) h
    exact ⟨rfl, hrest⟩

/-- No spelled key begins with a closing bracket. -/
theorem spelled_append_ne (k : Key) (w u : List Char) : k.spelled.toList ++ w ≠ ']' :: u := by
  cases k <;>
    simp only [spelled_toList_int, spelled_toList_str, spelled_toList_row, List.cons_append, ne_eq,
      List.cons.injEq, Char.reduceEq, false_and, not_false_eq_true]

end Key

namespace Text

/-- No integer begins with a closing bracket. -/
theorem int_append_ne (i : Int64) (w u : List Char) :
    (toString i.toInt).toList ++ w ≠ ']' :: u := by
  intro h
  have hnonempty : (toString i.toInt).toList ≠ [] := by
    rw [Int.toString_eq_repr, Int.repr_eq_if]
    split
    · rw [Nat.repr_eq_ofList_toDigits, String.toList_ofList]
      exact Nat.toDigits_ne_nil
    · rw [String.toList_append]
      exact List.append_ne_nil_of_left_ne_nil (List.cons_ne_nil _ _) _
  obtain ⟨c, rest, hchars⟩ := List.exists_cons_of_ne_nil hnonempty
  have hmem : c ∈ (toString i.toInt).toList := hchars ▸ List.mem_cons_self
  rw [hchars, List.cons_append] at h
  have hbracket : c = ']' := (List.cons.inj h).1
  exact absurd (hbracket ▸ of_mem_intText hmem) (by decide)

/-- No quoted text begins with a closing bracket. -/
theorem quoted_append_ne (s : String) (w u : List Char) : (quoted s).toList ++ w ≠ ']' :: u := by
  unfold quoted
  simp

end Text

namespace Value

/-- Different values have different spellings. -/
theorem spelled_inj {v w : Value} (h : v.spelled = w.spelled) : v = w := by
  have hchars := String.toList_inj.2 h
  -- The word before the bracket says of which kind the values are.
  cases v <;> cases w <;>
    simp only [spelled, String.toList_append, String.reduceToList, List.cons_append,
      List.nil_append, List.cons.injEq, Char.reduceEq, List.append_cancel_right_eq, true_and,
      false_and, and_false, reduceCtorEq, List.nil_eq, List.append_eq_nil_iff] at hchars
  case null.null => rfl
  case bool.bool b c => revert hchars; cases b <;> cases c <;> decide
  case int.int i j => rw [Int64.toInt_inj.1 (Int.repr_injective (String.toList_inj.1 hchars))]
  case str.str s t =>
    obtain ⟨rfl, -⟩ := prefixFree_quoted (congrArg (· ++ []) hchars)
    rfl
  case ref.ref k l =>
    obtain ⟨rfl, -⟩ := Key.prefixFree_spelled (congrArg (· ++ []) hchars)
    rfl
  case ints.ints is js =>
    rw [bracketed_inj delimited_int int_append_ne (String.toList_inj.1 hchars)]
  case strs.strs ss ts =>
    rw [bracketed_inj (prefixFree_quoted.delimited _) quoted_append_ne (String.toList_inj.1 hchars)]
  case refs.refs ks ls =>
    rw [bracketed_inj (Key.prefixFree_spelled.delimited _) Key.spelled_append_ne
      (String.toList_inj.1 hchars)]

end Value

end Strata

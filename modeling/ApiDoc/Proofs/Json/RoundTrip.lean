import ApiDoc.Json.Read
import ApiDoc.Json.Write
import ApiDoc.Proofs.Keyed
import ApiDoc.Proofs.Number.Digits
import ApiDoc.Proofs.Text.Lines
import ApiDoc.Proofs.Text.Utf8

/-!
# JSON comes back from its text

A value comes back from its text if no number in it has a fraction, no whole number too many digits, and no object a name twice (`Faithful`). The order of names in an object comes back with it.

* A value is read wherever it stands in a text, at any level and whatever follows (`ReadsBack`). The text of a value in an array or an object is followed by a comma or by a line break (`Delimited`), which is where a whole number ends.
* Arrays and objects are read back part by part, `items_writeItems` and `members_writeMembers`; a document as a whole, `Faithful.parse_document`.
* A text holds no carriage return (`Faithful.notMem_write`), so nothing in it changes when breaks of lines are made the same: it comes back from its bytes, `Faithful.decode_document`.
-/

namespace ApiDoc

namespace Json

/-- What may follow a value in a text: a comma or a line break. -/
inductive Delimited : List Char → Prop
  | comma (rest : List Char) : Delimited (',' :: rest)
  | newLine (rest : List Char) : Delimited ('\n' :: rest)

/-! ### Strings -/

theorem hexDigits_of_lt : ∀ n < 32, Text.hexDigits 4 n = ['0', '0', Nat.digitChar (n / 16), Nat.digitChar (n % 16)]
    ∧ unit? '0' '0' (Nat.digitChar (n / 16)) (Nat.digitChar (n % 16)) = some n := by
  decide +kernel

theorem units_cons (opened : Nat) {c : Char} (hquote : c ≠ '"') (hbackslash : c ≠ '\\') (hplain : ¬ c.toNat < 32)
    (s : List Char) : units opened (c :: s) = consUnit c.toNat (units opened s) := by
  rw [units.eq_def]
  split
  · contradiction
  · simp_all
  · simp_all
  · simp_all
  · simp_all
  · rename_i heq
    obtain ⟨rfl, rfl⟩ := List.cons.inj heq
    rw [if_neg hplain]

/-- A character is read back as it was written. The unit that an escape spells needs a character behind it. -/
theorem units_writeChar (opened : Nat) (c : Char) {s : List Char} (hs : s ≠ []) :
    units opened (writeChar c ++ s) = consUnit c.toNat (units opened s) := by
  rw [writeChar]
  split_ifs with hquote hbackslash hnewLine hreturn htab hbackspace hfeed hcontrol
  · rw [beq_iff_eq.mp hquote]
    rfl
  · rw [beq_iff_eq.mp hbackslash]
    rfl
  · rw [beq_iff_eq.mp hnewLine]
    rfl
  · rw [beq_iff_eq.mp hreturn]
    rfl
  · rw [beq_iff_eq.mp htab]
    rfl
  · rw [beq_iff_eq.mp hbackspace]
    rfl
  · rw [beq_iff_eq.mp hfeed]
    rfl
  · obtain ⟨hdigits, hunit⟩ := hexDigits_of_lt c.toNat hcontrol
    obtain ⟨e, s, rfl⟩ := List.exists_cons_of_ne_nil hs
    rw [hdigits]
    show units opened ('\\' :: 'u' :: '0' :: '0' :: Nat.digitChar (c.toNat / 16) :: Nat.digitChar (c.toNat % 16) :: e :: s) = _
    rw [units.eq_def]
    simp only [hunit]
  · exact units_cons opened (by simpa using hquote) (by simpa using hbackslash) hcontrol s

theorem units_flatMap (opened : Nat) (text rest : List Char) :
    units opened (text.flatMap writeChar ++ '"' :: rest) = .ok (text.map Char.toNat, rest) := by
  induction text with
  | nil => rfl
  | cons c text ih =>
    rw [List.flatMap_cons, List.append_assoc, units_writeChar opened c (by simp), ih]
    rfl

/-- No character is half a pair. -/
theorem char?_toNat (c : Char) : isHighHalf c.toNat = false ∧ char? c.toNat = some c := by
  have hvalid : c.toNat < 0xD800 ∨ 0xDFFF < c.toNat ∧ c.toNat < 0x110000 := c.valid
  have hhigh : isHighHalf c.toNat = false := by
    simp only [isHighHalf, Bool.and_eq_false_iff, decide_eq_false_iff_not]
    omega
  have hlow : isLowHalf c.toNat = false := by
    simp only [isLowHalf, Bool.and_eq_false_iff, decide_eq_false_iff_not]
    omega
  refine ⟨hhigh, ?_⟩
  rw [char?, hhigh, hlow]
  exact congrArg some (Char.ofNat_toNat c)

theorem joinUnits?_map (text : List Char) : joinUnits? (text.map Char.toNat) = some text := by
  induction text with
  | nil => rfl
  | cons c text ih =>
    obtain ⟨hhigh, hchar⟩ := char?_toNat c
    cases text with
    | nil =>
      rw [List.map_singleton, joinUnits?, hchar]
      rfl
    | cons d text =>
      rw [List.map_cons, List.map_cons, joinUnits?, hhigh, hchar, ← List.map_cons, ih]
      rfl

theorem readString_flatMap (s : String) (rest : List Char) :
    readString (s.toList.flatMap writeChar ++ '"' :: rest) = .ok (s, rest) := by
  rw [readString, units_flatMap]
  simp only [bind, Except.bind, joinUnits?_map, String.ofList_toList]
  rfl

/-! ### Whole numbers -/

theorem spanDigits_toDigits (n : Nat) {rest : List Char} (hrest : Delimited rest) :
    spanDigits (Nat.toDigits 10 n ++ rest) = (Nat.toDigits 10 n, rest) := by
  refine Text.span_append (fun c hc => Nat.isDigit_of_mem_toDigits (by decide) (by decide) hc) ?_
  cases hrest <;> simp

theorem wholeDigits_toDigits (n : Nat) {rest : List Char} (hrest : Delimited rest) :
    wholeDigits (Nat.toDigits 10 n ++ rest) = (Nat.toDigits 10 n, rest) := by
  by_cases hn : n = 0
  · subst hn
    rfl
  · rw [wholeDigits.eq_def]
    split
    · rename_i hzero
      have hhead := Number.head?_toDigits (Nat.pos_of_ne_zero hn)
      rw [← List.head?_append_of_ne_nil _ Nat.toDigits_ne_nil, hzero] at hhead
      exact absurd rfl hhead
    · exact spanDigits_toDigits n hrest

theorem unsigned_toDigits (left : Nat) (negative : Bool) {n : Nat} (h : Number.IsShort n) {rest : List Char}
    (hrest : Delimited rest) :
    unsigned left negative (Nat.toDigits 10 n ++ rest) = .ok (.int (if negative then -(n : Int) else n), rest) := by
  have hread := Number.readDigits_toDigits h
  have hfraction : fraction? rest = none := by cases hrest <;> rfl
  have hexponent : exponent? rest = none := by cases hrest <;> rfl
  obtain ⟨c, digits, hdigits, -⟩ := Number.exists_toDigits_eq_cons n
  rw [Int.natAbs_natCast] at hread
  rw [unsigned, wholeDigits_toDigits n hrest]
  rw [hdigits] at hread ⊢
  simp only [hfraction, hexponent, Option.getD_none, Option.isNone_none, Bool.and_self, ↓reduceIte, hread]
  rfl

theorem number_writeInt {n : Int} (h : Number.IsShort n) {rest : List Char} (hrest : Delimited rest) :
    number (writeInt n ++ rest) = .ok (.int n, rest) := by
  have hshort : Number.IsShort (n.natAbs : Nat) := by rwa [Number.IsShort, Int.natAbs_natCast]
  rw [writeInt]
  split
  · have hn : -(n.natAbs : Int) = n := by omega
    show unsigned _ true (Nat.toDigits 10 n.natAbs ++ rest) = _
    rw [unsigned_toDigits _ true hshort hrest, if_pos rfl, hn]
  · have hn : (n.natAbs : Int) = n := by omega
    have hnumber : number (Nat.toDigits 10 n.natAbs ++ rest) =
        unsigned (Nat.toDigits 10 n.natAbs ++ rest).length false (Nat.toDigits 10 n.natAbs ++ rest) := by
      obtain ⟨c, digits, hdigits, hc⟩ := Number.exists_toDigits_eq_cons n.natAbs
      rw [hdigits, number.eq_def]
      split
      · rename_i heq
        rw [(List.cons.inj heq).1] at hc
        exact absurd hc (by decide)
      · rfl
    rw [hnumber, unsigned_toDigits _ false hshort hrest, if_neg (by decide), hn]

theorem word?_of_isDigit {c : Char} (hc : c.isDigit = true) (s : List Char) :
    word? (c :: s) = none ∧ word? ('-' :: c :: s) = none := by
  have hne : ∀ d, d.isDigit = false → d ≠ c := by
    rintro d hd rfl
    rw [hc] at hd
    cases hd
  have hwords : words = [(['n', 'u', 'l', 'l'], .null), (['t', 'r', 'u', 'e'], .bool true),
      (['f', 'a', 'l', 's', 'e'], .bool false), (['N', 'a', 'N'], .float .nan),
      (['I', 'n', 'f', 'i', 'n', 'i', 't', 'y'], .float (.infinite false)),
      (['-', 'I', 'n', 'f', 'i', 'n', 'i', 't', 'y'], .float (.infinite true))] := rfl
  simp only [word?, hwords, List.findSome?_cons, List.findSome?_nil, List.isPrefixOf_cons_cons]
  constructor <;> simp [hne 'n' (by decide), hne 't' (by decide), hne 'f' (by decide), hne 'N' (by decide), hne 'I' (by decide),
    hne '-' (by decide)]

theorem atom_writeInt {n : Int} (h : Number.IsShort n) {rest : List Char} (hrest : Delimited rest) :
    atom (writeInt n ++ rest) = .ok (.int n, rest) := by
  have hword : word? (writeInt n ++ rest) = none := by
    obtain ⟨c, digits, hdigits, hc⟩ := Number.exists_toDigits_eq_cons n.natAbs
    rw [writeInt, hdigits]
    split
    · exact (word?_of_isDigit hc _).2
    · exact (word?_of_isDigit hc _).1
  rw [atom, hword]
  exact number_writeInt h hrest

theorem exists_writeInt_eq_cons (n : Int) :
    ∃ c s, writeInt n = c :: s ∧ (c = '-' ∨ c.isDigit = true) := by
  obtain ⟨c, digits, hdigits, hc⟩ := Number.exists_toDigits_eq_cons n.natAbs
  rw [writeInt, hdigits]
  split
  · exact ⟨_, _, rfl, .inl rfl⟩
  · exact ⟨_, _, rfl, .inr hc⟩

/-! ### Values -/

/-- A value that is read back from its text: no number in it has a fraction, no whole number too many digits, and no object a name twice. -/
inductive Faithful : Json → Prop
  | null : Faithful .null
  | bool (b : Bool) : Faithful (.bool b)
  | int {n : Int} (h : Number.IsShort n) : Faithful (.int n)
  | str (s : String) : Faithful (.str s)
  | arr {items : List Json} (h : ∀ item ∈ items, Faithful item) : Faithful (.arr items)
  | obj {members : List (String × Json)} (hnames : (Keyed.keys members).Nodup) (h : ∀ e ∈ members, Faithful e.2) :
      Faithful (.obj members)

/-- A value is read from its text at any level, whatever follows, with as many steps as the text has characters. -/
def ReadsBack (j : Json) : Prop :=
  ∀ level fuel rest, (write level j).length ≤ fuel → Delimited rest → value fuel (write level j ++ rest) = .ok (j, rest)

theorem value_of_number {c : Char} (hc : c = '-' ∨ c.isDigit = true) (fuel : Nat) (s : List Char) :
    value (fuel + 1) (c :: s) = atom (c :: s) := by
  rw [value.eq_def]
  simp only
  split
  · exact absurd hc (by simp_all)
  · exact absurd hc (by simp_all)
  · exact absurd hc (by simp_all)
  · rfl

theorem value_of_items {c : Char} {s text : List Char} (h : skipSpace s = c :: text) (hc : c ≠ ']') (fuel : Nat) :
    value (fuel + 1) ('[' :: s) = items fuel [] (c :: text) := by
  rw [value.eq_def]
  simp only [h]
  split
  · simp_all
  · rfl

theorem value_of_members {c : Char} {s text : List Char} (h : skipSpace s = c :: text) (hc : c ≠ '\x7d') (fuel : Nat) :
    value (fuel + 1) ('\x7b' :: s) = members fuel [] (c :: text) := by
  rw [value.eq_def]
  simp only [h]
  split
  · simp_all
  · rfl

theorem skipSpace_cons {c : Char} (hc : isSpace c = false) (s : List Char) : skipSpace (c :: s) = c :: s :=
  List.dropWhile_cons_of_neg (by simp [hc])

theorem skipSpace_newLine (level : Nat) (s : List Char) : skipSpace (newLine level ++ s) = skipSpace s := by
  have hspaces : ∀ c ∈ newLine level, isSpace c = true := by
    intro c hc
    rw [newLine, List.mem_cons, List.mem_replicate] at hc
    rcases hc with rfl | ⟨-, rfl⟩ <;> rfl
  exact List.dropWhile_append_of_pos hspaces

theorem delimited_newLine (level : Nat) (s : List Char) : Delimited (newLine level ++ s) := .newLine _

theorem delimited_writeItems (level level' : Nat) (items : List Json) (s : List Char) :
    Delimited (writeItems level items ++ (newLine level' ++ s)) := by
  cases items with
  | nil => exact delimited_newLine level' s
  | cons item items => exact .comma _

theorem delimited_writeMembers (level level' : Nat) (members : List (String × Json)) (s : List Char) :
    Delimited (writeMembers level members ++ (newLine level' ++ s)) := by
  cases members with
  | nil => exact delimited_newLine level' s
  | cons e members => exact .comma _

/-- A character that a value can start with: neither space nor the end of an array nor a mark in front of a text. -/
def OpensValue (c : Char) : Prop := isSpace c = false ∧ c ≠ ']' ∧ c ≠ '\uFEFF'

instance (c : Char) : Decidable (OpensValue c) := inferInstanceAs (Decidable (_ ∧ _))

theorem opensValue_of_isDigit {c : Char} (hc : c.isDigit = true) : OpensValue c := by
  refine ⟨?_, ?_, ?_⟩
  · by_contra hspace
    simp only [isSpace, Bool.not_eq_false, Bool.or_eq_true, beq_iff_eq] at hspace
    rcases hspace with ((rfl | rfl) | rfl) | rfl <;> exact absurd hc (by decide)
  · rintro rfl
    exact absurd hc (by decide)
  · rintro rfl
    exact absurd hc (by decide)

theorem Faithful.exists_write_eq_cons {j : Json} (h : Faithful j) (level : Nat) :
    ∃ c s, write level j = c :: s ∧ OpensValue c := by
  cases h with
  | null => exact ⟨_, _, rfl, by decide⟩
  | bool b => cases b <;> exact ⟨_, _, rfl, by decide⟩
  | @int n =>
    obtain ⟨c, s, hwrite, hc⟩ := exists_writeInt_eq_cons n
    refine ⟨c, s, hwrite, ?_⟩
    rcases hc with rfl | hc
    · decide
    · exact opensValue_of_isDigit hc
  | str s => exact ⟨_, _, rfl, by decide⟩
  | @arr items => cases items <;> exact ⟨_, _, rfl, by decide⟩
  | @obj members => cases members <;> exact ⟨_, _, rfl, by decide⟩

theorem Faithful.skipSpace_write {j : Json} (h : Faithful j) (level : Nat) (s : List Char) :
    skipSpace (write level j ++ s) = write level j ++ s := by
  obtain ⟨c, text, hwrite, hc⟩ := h.exists_write_eq_cons level
  rw [hwrite]
  exact skipSpace_cons hc.1 _

/-! ### Arrays and objects -/

section Steps

variable {fuel : Nat} {item : Json} {s rest after : List Char}

theorem items_last (hvalue : value fuel s = .ok (item, rest)) (hrest : skipSpace rest = ']' :: after) (before : List Json) :
    items (fuel + 1) before s = .ok (.arr (item :: before).reverse, after) := by
  simp only [items, hvalue, bind, Except.bind, hrest]
  rfl

theorem items_next (hvalue : value fuel s = .ok (item, rest)) (hrest : skipSpace rest = ',' :: after) (before : List Json) :
    items (fuel + 1) before s = items fuel (item :: before) (skipSpace after) := by
  simp only [items, hvalue, bind, Except.bind, hrest]

theorem members_last {name : String} (hname : readString s = .ok (name, ':' :: rest))
    (hvalue : value fuel (skipSpace rest) = .ok (item, after)) {tail : List Char} (hafter : skipSpace after = '\x7d' :: tail)
    (before : Keyed Json) : members (fuel + 1) before ('"' :: s) = .ok (.obj (Keyed.put name item before), tail) := by
  have hcolon : skipSpace (':' :: rest) = ':' :: rest := rfl
  simp only [members, hname, bind, Except.bind, hcolon, hvalue, hafter]
  rfl

theorem members_next {name : String} (hname : readString s = .ok (name, ':' :: rest))
    (hvalue : value fuel (skipSpace rest) = .ok (item, after)) {tail : List Char} (hafter : skipSpace after = ',' :: tail)
    (before : Keyed Json) :
    members (fuel + 1) before ('"' :: s) = members fuel (Keyed.put name item before) (skipSpace tail) := by
  have hcolon : skipSpace (':' :: rest) = ':' :: rest := rfl
  simp only [members, hname, bind, Except.bind, hcolon, hvalue, hafter]

end Steps

theorem items_writeItems {item : Json} {rest : List Json} (h : ∀ j ∈ item :: rest, Faithful j ∧ ReadsBack j) (level level' : Nat)
    (before : List Json) {fuel : Nat} (hfuel : (write level item ++ writeItems level rest).length < fuel) (s : List Char) :
    items fuel before (write level item ++ (writeItems level rest ++ (newLine level' ++ ']' :: s))) =
      .ok (.arr (before.reverse ++ item :: rest), s) := by
  induction rest generalizing item before fuel with
  | nil =>
    obtain ⟨fuel, rfl⟩ := Nat.exists_eq_succ_of_ne_zero (Nat.ne_zero_of_lt hfuel)
    rw [List.length_append] at hfuel
    have hitem := (h item List.mem_cons_self).2 level fuel _ (by omega) (delimited_writeItems level level' [] (']' :: s))
    have hend : skipSpace (writeItems level [] ++ (newLine level' ++ ']' :: s)) = ']' :: s := skipSpace_newLine level' _
    rw [items_last hitem hend, List.reverse_cons]
  | cons next rest ih =>
    obtain ⟨fuel, rfl⟩ := Nat.exists_eq_succ_of_ne_zero (Nat.ne_zero_of_lt hfuel)
    rw [List.length_append] at hfuel
    have hitem := (h item List.mem_cons_self).2 level fuel _ (by omega) (delimited_writeItems level level' (next :: rest) (']' :: s))
    have htext : writeItems level (next :: rest) ++ (newLine level' ++ ']' :: s) =
        ',' :: (newLine level ++ (write level next ++ (writeItems level rest ++ (newLine level' ++ ']' :: s)))) := by
      simp only [writeItems, List.cons_append, List.append_assoc]
    have hnext : (write level next ++ writeItems level rest).length < fuel := by
      simp only [writeItems, List.cons_append, List.length_cons, List.length_append] at hfuel ⊢
      omega
    have hfaithful := (h next (by simp)).1
    rw [htext] at hitem ⊢
    rw [items_next hitem (skipSpace_cons (by decide) _), skipSpace_newLine, hfaithful.skipSpace_write,
      ih (fun j hj => h j (List.mem_cons_of_mem item hj)) (item :: before) hnext, List.reverse_cons, List.append_assoc]
    rfl

theorem put_of_nodup_keys {α : Type} {e : String × α} {before rest : Keyed α} (h : (Keyed.keys (before ++ e :: rest)).Nodup) :
    Keyed.put e.1 e.2 before = before ++ [e] := by
  refine Keyed.put_of_notMem fun hmem => ?_
  rw [Keyed.keys, List.map_append, List.map_cons] at h
  exact (List.nodup_append.mp h).2.2 e.1 hmem e.1 List.mem_cons_self rfl

/-- The text of a member of an object. -/
def writeMember (level : Nat) (e : String × Json) : List Char := writeString e.1 ++ [':', ' '] ++ write level e.2

theorem readString_writeMember (level : Nat) (e : String × Json) (s : List Char) :
    ∃ text, writeMember level e ++ s = '"' :: text ∧ readString text = .ok (e.1, ':' :: ' ' :: (write level e.2 ++ s)) := by
  refine ⟨e.1.toList.flatMap writeChar ++ '"' :: ':' :: ' ' :: (write level e.2 ++ s), ?_, readString_flatMap _ _⟩
  simp only [writeMember, writeString, List.cons_append, List.append_assoc, List.nil_append]

theorem exists_read_writeMember {e : String × Json} (h : Faithful e.2 ∧ ReadsBack e.2) (level : Nat) {fuel : Nat}
    {more : List Char} (hfuel : (writeMember level e ++ more).length < fuel + 1) {s : List Char} (hs : Delimited s) :
    ∃ text rest, writeMember level e ++ s = '"' :: text ∧ readString text = .ok (e.1, ':' :: rest)
      ∧ value fuel (skipSpace rest) = .ok (e.2, s) := by
  obtain ⟨hfaithful, hreads⟩ := h
  obtain ⟨text, htext, hname⟩ := readString_writeMember level e s
  refine ⟨text, _, htext, hname, ?_⟩
  have hskip : skipSpace (' ' :: (write level e.2 ++ s)) = write level e.2 ++ s := hfaithful.skipSpace_write level s
  rw [hskip]
  refine hreads level fuel s ?_ hs
  simp only [writeMember, List.length_append] at hfuel
  omega

theorem members_writeMembers {e : String × Json} {rest : List (String × Json)}
    (h : ∀ e' ∈ e :: rest, Faithful e'.2 ∧ ReadsBack e'.2) (level level' : Nat) (before : List (String × Json))
    (hnames : (Keyed.keys (before ++ e :: rest)).Nodup) {fuel : Nat}
    (hfuel : (writeMember level e ++ writeMembers level rest).length < fuel) (s : List Char) :
    members fuel before (writeMember level e ++ (writeMembers level rest ++ (newLine level' ++ '\x7d' :: s))) =
      .ok (.obj (before ++ e :: rest), s) := by
  induction rest generalizing e before fuel with
  | nil =>
    obtain ⟨fuel, rfl⟩ := Nat.exists_eq_succ_of_ne_zero (Nat.ne_zero_of_lt hfuel)
    obtain ⟨text, after, htext, hname, hvalue⟩ := exists_read_writeMember (h e List.mem_cons_self) level hfuel
      (delimited_writeMembers level level' [] ('\x7d' :: s))
    have hend : skipSpace (writeMembers level [] ++ (newLine level' ++ '\x7d' :: s)) = '\x7d' :: s := skipSpace_newLine level' _
    rw [htext, members_last hname hvalue hend, put_of_nodup_keys hnames]
  | cons next rest ih =>
    obtain ⟨fuel, rfl⟩ := Nat.exists_eq_succ_of_ne_zero (Nat.ne_zero_of_lt hfuel)
    obtain ⟨text, after, htext, hname, hvalue⟩ := exists_read_writeMember (h e List.mem_cons_self) level hfuel
      (delimited_writeMembers level level' (next :: rest) ('\x7d' :: s))
    have hrest : writeMembers level (next :: rest) ++ (newLine level' ++ '\x7d' :: s) =
        ',' :: (newLine level ++ (writeMember level next ++ (writeMembers level rest ++ (newLine level' ++ '\x7d' :: s)))) := by
      simp only [writeMembers, writeMember, List.cons_append, List.append_assoc]
    have hcomma := skipSpace_cons (show isSpace ',' = false by decide) (newLine level ++ (writeMember level next ++
      (writeMembers level rest ++ (newLine level' ++ '\x7d' :: s))))
    rw [← hrest] at hcomma
    have hquote : skipSpace (writeMember level next ++ (writeMembers level rest ++ (newLine level' ++ '\x7d' :: s))) =
        writeMember level next ++ (writeMembers level rest ++ (newLine level' ++ '\x7d' :: s)) := skipSpace_cons (by decide) _
    have hnext : (writeMember level next ++ writeMembers level rest).length < fuel := by
      simp only [writeMembers, writeMember, List.cons_append, List.length_cons, List.length_append] at hfuel ⊢
      omega
    have hnames' : (Keyed.keys ((before ++ [e]) ++ next :: rest)).Nodup := by rwa [List.append_assoc]
    rw [htext, members_next hname hvalue (hcomma.trans hrest), put_of_nodup_keys hnames, skipSpace_newLine, hquote,
      ih (fun e' he' => h e' (List.mem_cons_of_mem e he')) (before ++ [e]) hnames' hnext, List.append_assoc]
    rfl

/-! ### Values of each kind -/

theorem readsBack_of_succ {j : Json} (hj : Faithful j)
    (h : ∀ level fuel rest, (write level j).length ≤ fuel + 1 → Delimited rest →
      value (fuel + 1) (write level j ++ rest) = .ok (j, rest)) : ReadsBack j := by
  intro level fuel rest hfuel hrest
  obtain ⟨c, s, hwrite, -⟩ := hj.exists_write_eq_cons level
  cases fuel with
  | zero => simp [hwrite] at hfuel
  | succ fuel => exact h level fuel rest hfuel hrest

theorem readsBack_int {n : Int} (h : Number.IsShort n) : ReadsBack (.int n) := by
  refine readsBack_of_succ (.int h) fun level fuel rest hfuel hrest => ?_
  have hatom := atom_writeInt h hrest
  obtain ⟨c, text, hwrite, hc⟩ := exists_writeInt_eq_cons n
  rw [hwrite, List.cons_append] at hatom
  rw [write, hwrite, List.cons_append, value_of_number hc]
  exact hatom

theorem readsBack_str (s : String) : ReadsBack (.str s) := by
  refine readsBack_of_succ (.str s) fun level fuel rest hfuel hrest => ?_
  have hread := readString_flatMap s rest
  have htext : write level (.str s) ++ rest = '"' :: (s.toList.flatMap writeChar ++ '"' :: rest) := by
    simp only [write, writeString, List.cons_append, List.append_assoc, List.nil_append]
  rw [htext, value.eq_def]
  simp only [hread]
  rfl

theorem readsBack_arr {items : List Json} (h : ∀ j ∈ items, Faithful j ∧ ReadsBack j) : ReadsBack (.arr items) := by
  refine readsBack_of_succ (.arr fun j hj => (h j hj).1) fun level fuel rest hfuel hrest => ?_
  cases items with
  | nil => rfl
  | cons item items =>
    have htext : write level (.arr (item :: items)) ++ rest = '[' :: (newLine (level + 1) ++ (write (level + 1) item ++
        (writeItems (level + 1) items ++ (newLine level ++ ']' :: rest)))) := by
      simp only [write, List.cons_append, List.append_assoc, List.nil_append]
    have hlength : (write (level + 1) item ++ writeItems (level + 1) items).length < fuel := by
      simp only [write, newLine, List.cons_append, List.length_cons, List.length_append] at hfuel ⊢
      omega
    have hread := items_writeItems h (level + 1) level [] hlength rest
    obtain ⟨c, text, hwrite, hc⟩ := (h item List.mem_cons_self).1.exists_write_eq_cons (level + 1)
    rw [hwrite, List.cons_append] at hread htext
    have hskip := (skipSpace_newLine (level + 1) _).trans (skipSpace_cons hc.1 (text ++ (writeItems (level + 1) items ++
      (newLine level ++ ']' :: rest))))
    rw [htext, value_of_items hskip hc.2.1]
    exact hread

theorem readsBack_obj {members : List (String × Json)} (hnames : (Keyed.keys members).Nodup)
    (h : ∀ e ∈ members, Faithful e.2 ∧ ReadsBack e.2) : ReadsBack (.obj members) := by
  refine readsBack_of_succ (.obj hnames fun e he => (h e he).1) fun level fuel rest hfuel hrest => ?_
  cases members with
  | nil => rfl
  | cons e members =>
    have htext : write level (.obj (e :: members)) ++ rest = '\x7b' :: (newLine (level + 1) ++ (writeMember (level + 1) e ++
        (writeMembers (level + 1) members ++ (newLine level ++ '\x7d' :: rest)))) := by
      simp only [write, writeMember, List.cons_append, List.append_assoc, List.nil_append]
    have hlength : (writeMember (level + 1) e ++ writeMembers (level + 1) members).length < fuel := by
      simp only [write, writeMember, newLine, List.cons_append, List.length_cons, List.length_append] at hfuel ⊢
      omega
    have hread := members_writeMembers h (level + 1) level [] hnames hlength rest
    obtain ⟨text, hwrite, -⟩ :=
      readString_writeMember (level + 1) e (writeMembers (level + 1) members ++ (newLine level ++ '\x7d' :: rest))
    rw [hwrite] at hread htext
    have hskip := (skipSpace_newLine (level + 1) _).trans (@skipSpace_cons '"' (by decide) text)
    rw [htext, value_of_members hskip (by decide)]
    exact hread

/-- **A faithful value is read back from its text.** -/
theorem Faithful.readsBack {j : Json} (h : Faithful j) : ReadsBack j := by
  induction h with
  | null => exact readsBack_of_succ .null fun level fuel rest hfuel hrest => rfl
  | bool b => cases b <;> exact readsBack_of_succ (.bool _) fun level fuel rest hfuel hrest => rfl
  | int h => exact readsBack_int h
  | str s => exact readsBack_str s
  | arr h ih => exact readsBack_arr fun j hj => ⟨h j hj, ih j hj⟩
  | obj hnames h ih => exact readsBack_obj hnames fun e he => ⟨h e he, ih e he⟩

theorem Faithful.parse_document {j : Json} (h : Faithful j) : parse (render j ++ ['\n']) = .ok j := by
  have hread : value (2 * (render j ++ ['\n']).length + 2) (render j ++ ['\n']) = .ok (j, ['\n']) :=
    h.readsBack 0 _ ['\n'] (by rw [List.length_append, render]; omega) (.newLine [])
  have hskip : skipSpace (render j ++ ['\n']) = render j ++ ['\n'] := h.skipSpace_write 0 ['\n']
  have hend : skipSpace ['\n'] = [] := rfl
  obtain ⟨c, s, hwrite, hc⟩ := h.exists_write_eq_cons 0
  have hdocument : document (render j ++ ['\n']) = .ok j := by
    rw [document]
    · simp only [hskip, hread, bind, Except.bind, hend]
      rfl
    · intro rest heq
      rw [render, hwrite] at heq
      exact hc.2.2 (List.cons.inj heq).1
  rw [parse, hdocument]

/-! ### No carriage returns -/

theorem notMem_writeChar (c : Char) : '\r' ∉ writeChar c := by
  have hdigits : ∀ n < 32, '\r' ∉ Text.hexDigits 4 n := by decide +kernel
  rw [writeChar]
  split_ifs with hquote hbackslash hnewLine hreturn htab hbackspace hfeed hcontrol
  · decide
  · decide
  · decide
  · decide
  · decide
  · decide
  · decide
  · simp [hdigits c.toNat hcontrol]
  · rw [List.mem_singleton]
    rintro rfl
    exact hreturn rfl

theorem notMem_writeString (s : String) : '\r' ∉ writeString s := by
  simp only [writeString, List.cons_append, List.mem_cons, List.mem_append, List.mem_flatMap, notMem_writeChar, and_false,
    exists_false, List.not_mem_nil, or_false, false_or]
  decide

theorem notMem_newLine (level : Nat) : '\r' ∉ newLine level := by
  simp [newLine]

theorem notMem_writeInt (n : Int) : '\r' ∉ writeInt n := by
  have hdigits : '\r' ∉ Nat.toDigits 10 n.natAbs := fun hmem =>
    absurd (Nat.isDigit_of_mem_toDigits (by decide) (by decide) hmem) (by decide)
  rw [writeInt]
  split
  · simpa using hdigits
  · exact hdigits

theorem notMem_writeItems {level : Nat} {items : List Json} (h : ∀ item ∈ items, '\r' ∉ write level item) :
    '\r' ∉ writeItems level items := by
  induction items with
  | nil => simp [writeItems]
  | cons item items ih =>
    rw [List.forall_mem_cons] at h
    simp [writeItems, notMem_newLine, h.1, ih h.2]

theorem notMem_writeMembers {level : Nat} {members : List (String × Json)} (h : ∀ e ∈ members, '\r' ∉ write level e.2) :
    '\r' ∉ writeMembers level members := by
  induction members with
  | nil => simp [writeMembers]
  | cons e members ih =>
    rw [List.forall_mem_cons] at h
    simp [writeMembers, notMem_newLine, notMem_writeString, h.1, ih h.2]

/-- There is no carriage return in the text of a value. -/
theorem Faithful.notMem_write {j : Json} (h : Faithful j) (level : Nat) : '\r' ∉ write level j := by
  induction h generalizing level with
  | null => simp [write]
  | bool b => cases b <;> simp [write]
  | int => exact notMem_writeInt _
  | str s => exact notMem_writeString s
  | @arr items hitems ih =>
    cases items with
    | nil => simp [write]
    | cons item items =>
      rw [List.forall_mem_cons] at ih
      have hrest := notMem_writeItems fun item hitem => ih.2 item hitem (level + 1)
      simp [write, notMem_newLine, ih.1, hrest]
  | @obj members hnames hmembers ih =>
    cases members with
    | nil => simp [write]
    | cons e members =>
      rw [List.forall_mem_cons] at ih
      have hrest := notMem_writeMembers fun e he => ih.2 e he (level + 1)
      simp [write, notMem_newLine, notMem_writeString, ih.1, hrest]

/-- The text of a document comes back from its bytes. -/
theorem Faithful.decode_document {j : Json} (h : Faithful j) :
    Text.decode (String.ofList (render j ++ ['\n'])).toUTF8.toList = .ok (render j ++ ['\n']) := by
  have hreturn : '\r' ∉ (String.ofList (render j ++ ['\n'])).toList := by
    rw [String.toList_ofList, List.mem_append, not_or]
    exact ⟨h.notMem_write 0, by decide⟩
  rw [Text.decode_toUTF8 hreturn, String.toList_ofList]

end Json

end ApiDoc

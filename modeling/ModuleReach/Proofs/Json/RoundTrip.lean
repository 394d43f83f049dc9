import ModuleReach.Json.Reader
import ModuleReach.Json.Writer

/-!
# Reading back what was written

A written value is read back: a text with its escapes, also where a character is written as a pair of numbers,
and arrays and objects with the line breaks and blanks between their brackets.  Numbers are left out, since a
number is written as it stands.  No object may have a name twice, since only the last field of a name is read.

A value is read with a bound for how deep values nest, and the length of the text is enough.

## Main definitions

* `Json.codes` — the numbers of a character.
* `Json.Plain` — the values that are read back.
* `Json.Reads` — the texts that are read as a value whatever follows them.

## Main results

* `InsertionMap.entries_ofList` — writing pairs with different keys keeps them as they are.
* `Json.chars_flatMap_char` — a text is read back.
* `Json.Plain.reads` — a value is read back.
* `Json.read?_write` — a value on lines of its own is read back.
-/

namespace ModuleReach

namespace InsertionMap

variable {κ α : Type} [DecidableEq κ]

theorem write_of_notMem {key : κ} {value : α} {entries : List (κ × α)} (h : key ∉ entries.map Prod.fst) :
    write key value entries = entries ++ [(key, value)] := by
  induction entries with
  | nil => rfl
  | cons e rest ih =>
    obtain ⟨hne, hrest⟩ := List.ne_and_not_mem_of_not_mem_cons h
    rw [write, if_neg (Ne.symm hne), ih hrest, List.cons_append]

/-- Writing pairs with different keys keeps them as they are. -/
theorem entries_ofList {pairs : List (κ × α)} (h : (pairs.map Prod.fst).Nodup) : (ofList pairs).entries = pairs := by
  -- Each pair is written to a map that has none of the keys to come.
  have hwrite : ∀ (pairs : List (κ × α)) (m : InsertionMap κ α), ((m.entries ++ pairs).map Prod.fst).Nodup →
      (pairs.foldl (fun m e => m.insert e.1 e.2) m).entries = m.entries ++ pairs := by
    intro pairs
    induction pairs with
    | nil => exact fun m _ => (List.append_nil _).symm
    | cons e rest ih =>
      intro m hnodup
      have hnew : e.1 ∉ m.entries.map Prod.fst := by
        rw [List.map_append, List.map_cons] at hnodup
        intro hmem
        exact (List.nodup_append.1 hnodup).2.2 _ hmem _ List.mem_cons_self rfl
      have hinsert : (m.insert e.1 e.2).entries = m.entries ++ [e] := write_of_notMem hnew
      have hsplit : m.entries ++ e :: rest = m.entries ++ [e] ++ rest := List.append_cons _ _ _
      rw [hsplit, ← hinsert] at hnodup ⊢
      exact ih _ hnodup
  exact hwrite pairs ∅ h

/-- A map is what writing its entries leaves. -/
theorem ofList_entries (m : InsertionMap κ α) : ofList m.entries = m := ext (entries_ofList m.nodup)

end InsertionMap

namespace Json

/-! ### Strings -/

/-- The numbers that a character is read as: its own, or those of the pair that encodes it. -/
def codes (c : Char) : List Nat :=
  if c.toNat < 0x10000 then [c.toNat]
  else [0xD800 + (c.toNat - 0x10000) / 0x400, 0xDC00 + (c.toNat - 0x10000) % 0x400]

/-- A character is no half of a pair, and has at most two numbers. -/
theorem isValid_toNat (c : Char) : ¬ (0xD800 ≤ c.toNat ∧ c.toNat < 0xE000) ∧ c.toNat < 0x110000 := by
  have hvalid : c.toNat < 0xD800 ∨ 0xDFFF < c.toNat ∧ c.toNat < 0x110000 := c.valid
  omega

/-- Four written digits are read as their number. -/
theorem units_unit {n : Nat} (h : n < 0x10000) (rest : List Char) :
    Reader.units (Writer.unit n ++ rest) = Reader.before n (Reader.units rest) := by
  have hdigit : ∀ m : Nat, Text.hexValue? (Text.hexDigit (m % 16)) = some (m % 16) :=
    fun m => Text.hexValue?_hexDigit (Nat.mod_lt m (by decide))
  have hunit : Reader.unit? (Text.hexDigit (n / 16 / 16 / 16 % 16)) (Text.hexDigit (n / 16 / 16 % 16))
      (Text.hexDigit (n / 16 % 16)) (Text.hexDigit (n % 16)) = some n := by
    rw [Reader.unit?, hdigit, hdigit, hdigit, hdigit]
    exact congrArg some (by omega)
  have hhex : Writer.unit n = ['\\', 'u', Text.hexDigit (n / 16 / 16 / 16 % 16), Text.hexDigit (n / 16 / 16 % 16),
      Text.hexDigit (n / 16 % 16), Text.hexDigit (n % 16)] := rfl
  rw [hhex]
  simp only [List.cons_append, List.nil_append, Reader.units, hunit]

/-- A character with a short escape is read from it. -/
theorem units_escape {c letter : Char} (hletter : Reader.escape? letter = some c) (hc : c.toNat < 0x10000)
    (rest : List Char) :
    Reader.units ('\\' :: letter :: rest) = (Reader.units rest).map fun r => (codes c ++ r.1, r.2) := by
  have hu : letter ≠ 'u' := by
    rintro rfl
    cases hletter
  have hread : Reader.units ('\\' :: letter :: rest) = Reader.before c.toNat (Reader.units rest) := by
    rw [Reader.units.eq_def]
    simp [hletter, hu]
  rw [hread, codes, if_pos hc]
  rfl

/-- A written character is read as its numbers. -/
theorem units_char (c : Char) (rest : List Char) :
    Reader.units (Writer.char c ++ rest) = (Reader.units rest).map fun r => (codes c ++ r.1, r.2) := by
  unfold Writer.char
  split
  · exact units_escape rfl (by decide) rest
  · exact units_escape rfl (by decide) rest
  · exact units_escape rfl (by decide) rest
  · exact units_escape rfl (by decide) rest
  · exact units_escape rfl (by decide) rest
  · exact units_escape rfl (by decide) rest
  · exact units_escape rfl (by decide) rest
  · -- The reader must tell such a character from a quote and from a backslash, which have escapes.
    rename_i hquote hslash _ _ _ _ _
    split
    · rename_i hprint
      have hsmall : c.toNat < 0x10000 := Nat.lt_of_le_of_lt (UInt32.le_iff_toNat_le.1 hprint.2) (by decide)
      have hread : Reader.units (c :: rest) = Reader.before c.toNat (Reader.units rest) := by
        have hblank : ¬ (c < ' ' ∨ c = '\\') := not_or.2 ⟨Char.not_lt.2 hprint.1, hslash⟩
        rw [Reader.units.eq_def]
        split
        · rename_i h
          cases h
        · rename_i h
          exact absurd (List.cons.inj h).1 hquote
        · rename_i h
          exact absurd (List.cons.inj h).1 hslash
        · rename_i h
          exact absurd (List.cons.inj h).1 hslash
        · rename_i h
          cases h
          exact if_neg hblank
      rw [codes, if_pos hsmall]
      exact hread
    · split
      · rename_i hsmall
        rw [units_unit hsmall, codes, if_pos hsmall]
        rfl
      · rename_i hlarge
        have hbound := (isValid_toNat c).2
        dsimp only
        rw [List.append_assoc, units_unit (by omega), units_unit (by omega), codes, if_neg hlarge]
        cases Reader.units rest <;> rfl

/-- A written text is read as the numbers of its characters. -/
theorem units_flatMap_char (s rest : List Char) :
    Reader.units (s.flatMap Writer.char ++ '"' :: rest) = some (s.flatMap codes, rest) := by
  induction s with
  | nil => rfl
  | cons c s ih =>
    rw [List.flatMap_cons, List.append_assoc, units_char, ih]
    rfl

/-- A number that is no half of a pair is one character. -/
theorem combine_cons {n : Nat} (h : ¬ (0xD800 ≤ n ∧ n < 0xE000)) (rest : List Nat) :
    Reader.combine (n :: rest) = Char.ofNat n :: Reader.combine rest := by
  have hhigh : Reader.isHigh n = false := by
    simp only [Reader.isHigh, Bool.and_eq_false_iff, decide_eq_false_iff_not]
    omega
  have hlow : Reader.isLow n = false := by
    simp only [Reader.isLow, Bool.and_eq_false_iff, decide_eq_false_iff_not]
    omega
  have hsingle : Reader.single n = Char.ofNat n := by
    rw [Reader.single, hhigh, hlow]
    rfl
  cases rest with
  | nil => exact congrArg (fun c => [c]) hsingle
  | cons m rest =>
    rw [Reader.combine, hhigh, hsingle]
    rfl

/-- The numbers of a character encode it. -/
theorem combine_codes (c : Char) (rest : List Nat) :
    Reader.combine (codes c ++ rest) = c :: Reader.combine rest := by
  obtain ⟨hwhole, hbound⟩ := isValid_toNat c
  unfold codes
  split
  · rw [List.singleton_append, combine_cons hwhole, Char.ofNat_toNat]
  · rename_i hlarge
    have hhigh : Reader.isHigh (0xD800 + (c.toNat - 0x10000) / 0x400) = true := by
      simp only [Reader.isHigh, Bool.and_eq_true, decide_eq_true_eq]
      omega
    have hlow : Reader.isLow (0xDC00 + (c.toNat - 0x10000) % 0x400) = true := by
      simp only [Reader.isLow, Bool.and_eq_true, decide_eq_true_eq]
      omega
    have hpair : Reader.paired (0xD800 + (c.toNat - 0x10000) / 0x400) (0xDC00 + (c.toNat - 0x10000) % 0x400) = c := by
      have hnumber : 0x10000 + (0xD800 + (c.toNat - 0x10000) / 0x400 - 0xD800) * 0x400 +
          (0xDC00 + (c.toNat - 0x10000) % 0x400 - 0xDC00) = c.toNat := by omega
      rw [Reader.paired, hnumber, Char.ofNat_toNat]
    rw [List.cons_append, List.cons_append, List.nil_append, Reader.combine, hhigh, hlow, hpair]
    rfl

/-- A written text is read back. -/
theorem chars_flatMap_char (s rest : List Char) :
    Reader.chars (s.flatMap Writer.char ++ '"' :: rest) = some (s, rest) := by
  have hcombine : Reader.combine (s.flatMap codes) = s := by
    induction s with
    | nil => rfl
    | cons c s ih => rw [List.flatMap_cons, combine_codes, ih]
  rw [Reader.chars, units_flatMap_char, Option.map_some, hcombine]

/-! ### Values -/

/-- A value without numbers, none of whose objects has a name twice. -/
inductive Plain : Json → Prop
  | null : Plain .null
  | bool (b : Bool) : Plain (.bool b)
  | string (text : String) : Plain (.string text)
  | array {items : List Json} : (∀ v ∈ items, Plain v) → Plain (.array items)
  | object {entries : List (String × Json)} : (entries.map Prod.fst).Nodup → (∀ e ∈ entries, Plain e.2) →
      Plain (.object entries)

/-- A text that is read as a value whatever follows it, and that begins like one. -/
structure Reads (v : Json) (text : List Char) : Prop where
  /-- It begins neither with a blank nor with the end of an array. -/
  head : ∃ c s, text = c :: s ∧ Reader.isBlank c = false ∧ c ≠ ']'
  /-- It is read with a bound that is no less than its length. -/
  value : ∀ bound rest, text.length ≤ bound → Reader.value bound (text ++ rest) = some (v, rest)

theorem skip_cons {c : Char} (h : Reader.isBlank c = false) (s : List Char) : Reader.skip (c :: s) = c :: s :=
  List.dropWhile_cons_of_neg (by simp [h])

theorem skip_colon (s : List Char) : Reader.skip (':' :: s) = ':' :: s := skip_cons rfl s

theorem skip_space (s : List Char) : Reader.skip (' ' :: s) = Reader.skip s := rfl

/-- A line break and the blanks after it are skipped. -/
theorem skip_newline (depth : Nat) (s : List Char) :
    Reader.skip (Writer.newline depth ++ s) = Reader.skip s := by
  refine List.dropWhile_append_of_pos ?_
  intro c hc
  rcases List.mem_cons.1 hc with rfl | hc
  · rfl
  · rw [(List.mem_replicate.1 hc).2]
    rfl

theorem Reads.skip {v : Json} {text : List Char} (h : Reads v text) (rest : List Char) :
    Reader.skip (text ++ rest) = text ++ rest := by
  obtain ⟨c, s, rfl, hblank, -⟩ := h.head
  exact skip_cons hblank _

theorem string_append (text : String) (rest : List Char) :
    Writer.string text ++ rest = '"' :: (text.toList.flatMap Writer.char ++ '"' :: rest) := by
  rw [Writer.string, List.append_assoc]
  rfl

theorem reads_string (text : String) : Reads (.string text) (Writer.string text) := by
  refine ⟨⟨'"', _, rfl, rfl, by decide⟩, fun bound rest hbound => ?_⟩
  cases bound with
  | zero => exact absurd hbound (Nat.not_succ_le_zero _)
  | succ bound => rw [string_append, Reader.value, chars_flatMap_char, Option.map_some, String.ofList_toList]

/-- A written field with a given name. -/
def fieldText (name : String) (text : List Char) : List Char := Writer.string name ++ ':' :: ' ' :: text

theorem length_fieldText (name : String) (text : List Char) :
    (fieldText name text).length = (Writer.string name).length + (text.length + 2) := List.length_append

theorem skip_fieldText (name : String) (text rest : List Char) :
    Reader.skip (fieldText name text ++ rest) = fieldText name text ++ rest := by
  rw [fieldText, List.append_assoc, string_append]
  exact skip_cons rfl _

section Items

variable {v : Json} {text rest : List Char} {depth bound : Nat}

/-- The last item of an array is read with the bracket that closes it. -/
theorem items_last (h : Reads v text) (hbound : text.length ≤ bound) :
    Reader.items (bound + 1) (text ++ (Writer.newline depth ++ ']' :: rest)) = some ([v], rest) := by
  rw [Reader.items, h.value bound _ hbound]
  dsimp only
  rw [skip_newline, skip_cons rfl]
  rfl

/-- Any other item is read with the comma behind it. -/
theorem items_next (h : Reads v text) (hbound : text.length ≤ bound) :
    Reader.items (bound + 1) (text ++ ',' :: (Writer.newline depth ++ rest)) =
      (Reader.items bound (Reader.skip rest)).map fun r => (v :: r.1, r.2) := by
  rw [Reader.items, h.value bound _ hbound]
  dsimp only
  rw [skip_cons rfl, ← skip_newline depth rest]
  rfl

/-- The last field of an object is read with the brace that closes it. -/
theorem fields_last (name : String) (h : Reads v text) (hbound : text.length ≤ bound) :
    Reader.fields (bound + 1) (fieldText name text ++ (Writer.newline depth ++ '\x7d' :: rest)) =
      some ([(name, v)], rest) := by
  have hclosing : Reader.skip (Writer.newline depth ++ '\x7d' :: rest) = '\x7d' :: rest := by
    rw [skip_newline, skip_cons rfl]
  rw [fieldText, List.append_assoc, string_append, Reader.fields, chars_flatMap_char]
  simp only [List.cons_append, skip_colon, skip_space, h.skip, h.value bound _ hbound, hclosing, String.ofList_toList]

/-- Any other field is read with the comma behind it. -/
theorem fields_next (name : String) (h : Reads v text) (hbound : text.length ≤ bound) :
    Reader.fields (bound + 1) (fieldText name text ++ ',' :: (Writer.newline depth ++ rest)) =
      (Reader.fields bound (Reader.skip rest)).map fun r => ((name, v) :: r.1, r.2) := by
  have hcomma : Reader.skip (',' :: (Writer.newline depth ++ rest)) = ',' :: (Writer.newline depth ++ rest) :=
    skip_cons rfl _
  rw [fieldText, List.append_assoc, string_append, Reader.fields, chars_flatMap_char]
  simp only [List.cons_append, skip_colon, skip_space, h.skip, h.value bound _ hbound, hcomma, skip_newline,
    String.ofList_toList]

end Items

/-- Pieces put together begin like the first one. -/
theorem exists_joinWith (separator piece : List Char) (pieces : List (List Char)) :
    ∃ tail, Text.joinWith separator (piece :: pieces) = piece ++ tail := by
  cases pieces with
  | nil => exact ⟨[], (List.append_nil _).symm⟩
  | cons next pieces => exact ⟨_, List.append_assoc _ _ _⟩

/-- Written items are read up to the bracket that closes them. -/
theorem items_joinWith {v : Json} {items : List Json} {depth bound : Nat}
    (h : ∀ w ∈ v :: items, Reads w (Writer.value depth w)) (outer : Nat) (rest : List Char)
    (hbound : (Text.joinWith (',' :: Writer.newline depth) (Writer.values depth (v :: items))).length ≤ bound) :
    Reader.items (bound + 1) (Text.joinWith (',' :: Writer.newline depth) (Writer.values depth (v :: items)) ++
      (Writer.newline outer ++ ']' :: rest)) = some (v :: items, rest) := by
  have hv := h v List.mem_cons_self
  -- The first item is read, and the induction is on those behind it, with a bound that is less by one.
  induction items generalizing v bound with
  | nil => exact items_last hv hbound
  | cons w items ih =>
    have hw := h w (List.mem_cons_of_mem _ List.mem_cons_self)
    have hjoin : Text.joinWith (',' :: Writer.newline depth) (Writer.values depth (v :: w :: items)) =
        Writer.value depth v ++ ',' :: (Writer.newline depth ++
          Text.joinWith (',' :: Writer.newline depth) (Writer.values depth (w :: items))) :=
      List.append_assoc _ _ _
    obtain ⟨tail, htail⟩ := exists_joinWith (',' :: Writer.newline depth) (Writer.value depth w)
      (Writer.values depth items)
    -- The separator alone is long enough for the bound to go down.
    rw [hjoin, List.length_append, List.length_cons, List.length_append] at hbound
    obtain ⟨bound, rfl⟩ : ∃ less, bound = less + 1 := Nat.exists_eq_add_one.2 (by omega)
    have hless : (Text.joinWith (',' :: Writer.newline depth) (Writer.values depth (w :: items))).length ≤ bound := by
      omega
    have hread := ih (fun u hu => h u (List.mem_cons_of_mem _ hu)) hless hw
    rw [hjoin, List.append_assoc, List.cons_append, List.append_assoc, items_next hv (by omega)]
    rw [Writer.values, htail, List.append_assoc] at hread ⊢
    rw [hw.skip, hread]
    rfl

/-- Written fields are read up to the brace that closes them. -/
theorem fields_joinWith {e : String × Json} {entries : List (String × Json)} {depth bound : Nat}
    (h : ∀ d ∈ e :: entries, Reads d.2 (Writer.value depth d.2)) (outer : Nat) (rest : List Char)
    (hbound : (Text.joinWith (',' :: Writer.newline depth) (Writer.fields depth (e :: entries))).length ≤ bound) :
    Reader.fields (bound + 1) (Text.joinWith (',' :: Writer.newline depth) (Writer.fields depth (e :: entries)) ++
      (Writer.newline outer ++ '\x7d' :: rest)) = some (e :: entries, rest) := by
  have he := h e List.mem_cons_self
  induction entries generalizing e bound with
  | nil =>
    have hjoin : Text.joinWith (',' :: Writer.newline depth) (Writer.fields depth [e]) =
        fieldText e.1 (Writer.value depth e.2) := rfl
    rw [hjoin, length_fieldText] at hbound
    exact fields_last e.1 he (by omega)
  | cons d entries ih =>
    have hd := h d (List.mem_cons_of_mem _ List.mem_cons_self)
    have hjoin : Text.joinWith (',' :: Writer.newline depth) (Writer.fields depth (e :: d :: entries)) =
        fieldText e.1 (Writer.value depth e.2) ++ ',' :: (Writer.newline depth ++
          Text.joinWith (',' :: Writer.newline depth) (Writer.fields depth (d :: entries))) :=
      List.append_assoc _ _ _
    have hfields : Writer.fields depth (d :: entries) =
        fieldText d.1 (Writer.value depth d.2) :: Writer.fields depth entries := rfl
    obtain ⟨tail, htail⟩ := exists_joinWith (',' :: Writer.newline depth) (fieldText d.1 (Writer.value depth d.2))
      (Writer.fields depth entries)
    rw [hjoin, List.length_append, length_fieldText, List.length_cons, List.length_append] at hbound
    obtain ⟨bound, rfl⟩ : ∃ less, bound = less + 1 := Nat.exists_eq_add_one.2 (by omega)
    have hless : (Text.joinWith (',' :: Writer.newline depth) (Writer.fields depth (d :: entries))).length ≤ bound := by
      omega
    have hread := ih (fun u hu => h u (List.mem_cons_of_mem _ hu)) hless hd
    have hvalue : (Writer.value depth e.2).length ≤ bound + 1 := by omega
    rw [hjoin, List.append_assoc, List.cons_append, List.append_assoc, fields_next e.1 he hvalue]
    rw [hfields, htail, List.append_assoc] at hread ⊢
    rw [skip_fieldText, hread]
    rfl

/-- An array that is not closed at once has items. -/
theorem value_array {bound : Nat} {c : Char} {s tail : List Char} (hskip : Reader.skip s = c :: tail) (hc : c ≠ ']') :
    Reader.value (bound + 1) ('[' :: s) = (Reader.items bound (c :: tail)).map fun r => (.array r.1, r.2) := by
  rw [Reader.value, hskip]
  split
  · rename_i h
    exact absurd (List.cons.inj h).1 hc
  · rfl

/-- An object that is not closed at once has fields. -/
theorem value_object {bound : Nat} {c : Char} {s tail : List Char} (hskip : Reader.skip s = c :: tail)
    (hc : c ≠ '\x7d') :
    Reader.value (bound + 1) ('\x7b' :: s) = (Reader.fields bound (c :: tail)).map fun r => (ofFields r.1, r.2) := by
  rw [Reader.value, hskip]
  split
  · rename_i h
    exact absurd (List.cons.inj h).1 hc
  · rfl

/-- Pieces between brackets, and what follows them. -/
theorem block_append (opening closing : Char) (depth : Nat) {pieces : List (List Char)} (h : pieces ≠ [])
    (rest : List Char) :
    Writer.block opening closing depth pieces ++ rest =
      opening :: (Writer.newline (depth + 1) ++
        (Text.joinWith (',' :: Writer.newline (depth + 1)) pieces ++ (Writer.newline depth ++ closing :: rest))) := by
  cases pieces with
  | nil => exact absurd rfl h
  | cons piece pieces => simp [Writer.block]

theorem lt_length_block (opening closing : Char) (depth : Nat) {pieces : List (List Char)} (h : pieces ≠ []) :
    (Text.joinWith (',' :: Writer.newline (depth + 1)) pieces).length + 1 <
      (Writer.block opening closing depth pieces).length := by
  rw [← List.append_nil (Writer.block opening closing depth pieces), block_append _ _ _ h, List.length_cons,
    List.length_append, List.length_append, List.length_append, List.length_cons]
  omega

/-- Written items in their brackets are read back. -/
theorem reads_array {items : List Json} {depth : Nat}
    (h : ∀ w ∈ items, Reads w (Writer.value (depth + 1) w)) :
    Reads (.array items) (Writer.value depth (.array items)) := by
  rw [Writer.value]
  cases items with
  | nil =>
    refine ⟨⟨'[', _, rfl, rfl, by decide⟩, fun bound rest hbound => ?_⟩
    obtain ⟨bound, rfl⟩ := Nat.exists_eq_succ_of_ne_zero (Nat.ne_zero_of_lt (Nat.lt_of_succ_le hbound))
    rfl
  | cons v items =>
    have hpieces : Writer.values (depth + 1) (v :: items) ≠ [] := List.cons_ne_nil _ _
    refine ⟨⟨'[', _, rfl, rfl, by decide⟩, fun bound rest hbound => ?_⟩
    have hlength := lt_length_block '[' ']' depth hpieces
    obtain ⟨bound, rfl⟩ : ∃ less, bound = less + 2 := ⟨bound - 2, by omega⟩
    have hread := items_joinWith h depth rest (by omega : _ ≤ bound)
    -- What stands in the brackets begins like the first item.
    obtain ⟨c, s, hhead, hblank, hc⟩ := (h v List.mem_cons_self).head
    obtain ⟨tail, htail⟩ := exists_joinWith (',' :: Writer.newline (depth + 1)) (Writer.value (depth + 1) v)
      (Writer.values (depth + 1) items)
    rw [block_append _ _ _ hpieces]
    rw [Writer.values, htail, hhead, List.cons_append, List.cons_append] at hread ⊢
    rw [value_array ((skip_newline _ _).trans (skip_cons hblank _)) hc]
    exact congrArg (Option.map _) hread

/-- Written fields in their braces are read back, if no name occurs twice. -/
theorem reads_object {entries : List (String × Json)} {depth : Nat} (hnames : (entries.map Prod.fst).Nodup)
    (h : ∀ e ∈ entries, Reads e.2 (Writer.value (depth + 1) e.2)) :
    Reads (.object entries) (Writer.value depth (.object entries)) := by
  rw [Writer.value]
  cases entries with
  | nil =>
    refine ⟨⟨'\x7b', _, rfl, rfl, by decide⟩, fun bound rest hbound => ?_⟩
    obtain ⟨bound, rfl⟩ := Nat.exists_eq_succ_of_ne_zero (Nat.ne_zero_of_lt (Nat.lt_of_succ_le hbound))
    rfl
  | cons e entries =>
    have hpieces : Writer.fields (depth + 1) (e :: entries) ≠ [] := List.cons_ne_nil _ _
    refine ⟨⟨'\x7b', _, rfl, rfl, by decide⟩, fun bound rest hbound => ?_⟩
    have hlength := lt_length_block '\x7b' '\x7d' depth hpieces
    obtain ⟨bound, rfl⟩ : ∃ less, bound = less + 2 := ⟨bound - 2, by omega⟩
    have hread := fields_joinWith h depth rest (by omega : _ ≤ bound)
    -- What stands in the braces begins with a quote.
    obtain ⟨tail, htail⟩ := exists_joinWith (',' :: Writer.newline (depth + 1))
      (fieldText e.1 (Writer.value (depth + 1) e.2)) (Writer.fields (depth + 1) entries)
    have hfields : Writer.fields (depth + 1) (e :: entries) =
        fieldText e.1 (Writer.value (depth + 1) e.2) :: Writer.fields (depth + 1) entries := rfl
    rw [block_append _ _ _ hpieces]
    rw [hfields, htail, fieldText, List.append_assoc, List.append_assoc, string_append] at hread ⊢
    rw [value_object ((skip_newline _ _).trans (skip_cons rfl _)) (by decide), hread]
    rw [Option.map_some, ofFields, InsertionMap.entries_ofList hnames]

/-- A written value is read back. -/
theorem Plain.reads {v : Json} (h : Plain v) (depth : Nat) : Reads v (Writer.value depth v) := by
  have hword : ∀ {v : Json} {c : Char} {s : List Char}, Reader.isBlank c = false → c ≠ ']' →
      (∀ bound rest, Reader.value (bound + 1) (c :: s ++ rest) = some (v, rest)) → Reads v (c :: s) := by
    intro v c s hblank hc hread
    refine ⟨⟨c, s, rfl, hblank, hc⟩, fun bound rest hbound => ?_⟩
    obtain ⟨bound, rfl⟩ := Nat.exists_eq_succ_of_ne_zero (Nat.ne_zero_of_lt (Nat.lt_of_succ_le hbound))
    exact hread bound rest
  induction h generalizing depth with
  | null => exact hword rfl (by decide) fun _ _ => rfl
  | bool b =>
    cases b with
    | true => exact hword rfl (by decide) fun _ _ => rfl
    | false => exact hword rfl (by decide) fun _ _ => rfl
  | string text => exact reads_string text
  | array _ ih => exact reads_array fun v hv => ih v hv _
  | object hnames _ ih => exact reads_object hnames fun e he => ih e he _

/-- A value on lines of its own is read back. -/
theorem read?_write {v : Json} (h : Plain v) : read? (v.write ++ "\n").toList = some v := by
  have hreads := h.reads 0
  have htext : (v.write ++ "\n").toList = Writer.value 0 v ++ ['\n'] := by
    rw [String.toList_append, write, String.toList_ofList]
    rfl
  rw [read?, htext, hreads.skip, hreads.value _ _ (by rw [List.length_append]; omega)]
  rfl

end Json

end ModuleReach

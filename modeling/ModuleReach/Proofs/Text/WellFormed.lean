import Mathlib.Tactic.Common
import ModuleReach.Text.Utf8

/-!
# Well-formed bytes

Bytes are well formed if they are the encoding of some characters.  Just these are decoded, to just these characters.  All
other bytes are refused at the offset at which they stop to be well formed: the bytes before it are, and those from it on
begin with no character.  There is no other such offset.

## Main definitions

* `Utf8.IllFormedAt` — the offset at which bytes stop to be well formed.
* `Utf8.mark` — the byte-order mark.

## Main results

* `Utf8.decodeFrom_encodeChar`, `Utf8.decode_encode` — characters are decoded as they were encoded.
* `Utf8.begins_or_refused` — what does not begin with a character is refused where it begins.
* `Utf8.decode_eq_ok_iff`, `Utf8.illFormedAt_of_decode` — what is decoded, and where all else is refused.
* `Utf8.IllFormedAt.unique` — there is one such offset.
-/

namespace ModuleReach.Utf8

/-! ### Bytes as numbers -/

theorem width_eq (a : UInt8) : width a =
    if a.toNat < 0x80 then 1 else if a.toNat < 0xC2 then 0 else if a.toNat < 0xE0 then 2
    else if a.toNat < 0xF0 then 3 else if a.toNat < 0xF5 then 4 else 0 := by
  simp [width, UInt8.lt_iff_toNat_lt]

/-- What the width of a byte says of its number. -/
theorem width_cases (a : UInt8) : width a = 0 ∨ (width a = 1 ∧ a.toNat < 0x80) ∨
    (width a = 2 ∧ 0xC2 ≤ a.toNat ∧ a.toNat < 0xE0) ∨ (width a = 3 ∧ 0xE0 ≤ a.toNat ∧ a.toNat < 0xF0) ∨
    (width a = 4 ∧ 0xF0 ≤ a.toNat ∧ a.toNat < 0xF5) := by
  rw [width_eq]
  repeat' split
  all_goals omega

theorem continues_iff {b : UInt8} : continues b = true ↔ 0x80 ≤ b.toNat ∧ b.toNat < 0xC0 := by
  simp [continues, UInt8.lt_iff_toNat_lt, UInt8.le_iff_toNat_le]

theorem follows_iff {a b : UInt8} : follows a b = true ↔ (0x80 ≤ b.toNat ∧ b.toNat < 0xC0) ∧
    (a.toNat ≠ 0xE0 ∨ 0xA0 ≤ b.toNat) ∧ (a.toNat ≠ 0xED ∨ b.toNat < 0xA0) ∧
    (a.toNat ≠ 0xF0 ∨ 0x90 ≤ b.toNat) ∧ (a.toNat ≠ 0xF4 ∨ b.toNat < 0x90) := by
  rw [← continues_iff]
  simp [follows, UInt8.lt_iff_toNat_lt, UInt8.le_iff_toNat_le, ← UInt8.toNat_inj, and_assoc]

theorem toNat_byte (n : Nat) : (UInt8.ofNat n).toNat = n % 256 := UInt8.toNat_ofNat'

theorem byte_eq {n : Nat} {a : UInt8} (h : n = a.toNat) : UInt8.ofNat n = a := by
  rw [h, UInt8.ofNat_toNat]

/-- The numbers of characters leave out a range. -/
theorem toNat_char (c : Char) : c.toNat < 0xD800 ∨ 0xDFFF < c.toNat ∧ c.toNat < 0x110000 := c.valid

theorem char_eq {n : Nat} {c : Char} (h : n = c.toNat) : Char.ofNat n = c := by
  rw [h, Char.ofNat_toNat]

theorem toNat_ofNat {n : Nat} (h : n < 0xD800 ∨ 0xDFFF < n ∧ n < 0x110000) : (Char.ofNat n).toNat = n := by
  rw [Char.ofNat, dif_pos h]
  rfl

/-! ### Beginnings

Whether bytes begin with a character depends on the width of the first byte and on the bytes that follow it.  There is a
section for each width.  It holds what the encoding of a character of that many bytes is, that this is decoded, and that
bytes which begin in another way are refused. -/

/-- Bytes that begin with the encoding of a character. -/
def Begins (bytes : Bytes) : Prop := ∃ c, String.utf8EncodeChar c <+: bytes

/-- Bytes that are refused where they begin. -/
def Refused (bytes : Bytes) : Prop := ∀ offset, ∃ reason, decodeFrom offset bytes = .error ⟨reason, offset⟩

/-- A character that is decoded where it stands in front of other bytes. -/
def Decodes (c : Char) : Prop := ∀ offset rest, decodeFrom offset (String.utf8EncodeChar c ++ rest) =
  (decodeFrom (offset + (String.utf8EncodeChar c).length) rest).map (c :: ·)

variable {a b x y : UInt8} {c : Char}

theorem begins_append (c : Char) (rest : Bytes) : Begins (String.utf8EncodeChar c ++ rest) :=
  ⟨c, List.prefix_append _ _⟩

theorem refused_of_width_zero (ha : width a = 0) (rest : Bytes) : Refused (a :: rest) := by
  intro offset
  rw [decodeFrom.eq_def]
  simp [ha]

/-! #### One byte -/

theorem encodeChar_one (h : c.toNat < 0x80) : String.utf8EncodeChar c = [UInt8.ofNat c.toNat] := by
  change c.val.toNat < 0x80 at h
  rw [String.utf8EncodeChar, if_pos (by omega)]
  rfl

theorem decodeFrom_one (ha : width a = 1) (offset : Nat) (rest : Bytes) :
    decodeFrom offset (a :: rest) = (decodeFrom (offset + 1) rest).map (Char.ofNat a.toNat :: ·) := by
  rw [decodeFrom.eq_def]
  simp only [ha]

theorem decodes_one (h : c.toNat < 0x80) : Decodes c := by
  intro offset rest
  have hwidth : width (UInt8.ofNat c.toNat) = 1 := by
    rw [width_eq, toNat_byte, if_pos (by omega)]
  rw [encodeChar_one h, List.singleton_append, decodeFrom_one hwidth, char_eq (c := c) (by rw [toNat_byte]; omega)]
  rfl

theorem begins_one (h : a.toNat < 0x80) (rest : Bytes) : Begins (a :: rest) := by
  have hchar := toNat_ofNat (n := a.toNat) (by omega)
  have hencode := encodeChar_one (c := Char.ofNat a.toNat) (by omega)
  rw [hchar, UInt8.ofNat_toNat] at hencode
  simpa [hencode] using begins_append (Char.ofNat a.toNat) rest

/-! #### Two bytes -/

theorem encodeChar_two (h : 0x80 ≤ c.toNat) (h' : c.toNat < 0x800) :
    String.utf8EncodeChar c = [UInt8.ofNat (c.toNat / 64 % 32 + 0xC0), UInt8.ofNat (c.toNat % 64 + 0x80)] := by
  change 0x80 ≤ c.val.toNat at h
  change c.val.toNat < 0x800 at h'
  rw [String.utf8EncodeChar, if_neg (by omega), if_pos (by omega)]
  rfl

theorem decodeFrom_two (ha : width a = 2) (hb : continues b = true) (offset : Nat) (rest : Bytes) :
    decodeFrom offset (a :: b :: rest) =
      (decodeFrom (offset + 2) rest).map (Char.ofNat (a.toNat % 32 * 64 + b.toNat % 64) :: ·) := by
  rw [decodeFrom.eq_def]
  simp only [ha, hb, if_true, payload]

theorem decodes_two (h : 0x80 ≤ c.toNat) (h' : c.toNat < 0x800) : Decodes c := by
  intro offset rest
  have hwidth : width (UInt8.ofNat (c.toNat / 64 % 32 + 0xC0)) = 2 := by
    rw [width_eq, toNat_byte, if_neg (by omega), if_neg (by omega), if_pos (by omega)]
  have hlast : continues (UInt8.ofNat (c.toNat % 64 + 0x80)) = true := by
    rw [continues_iff, toNat_byte]
    omega
  rw [encodeChar_two h h', List.cons_append, List.singleton_append, decodeFrom_two hwidth hlast,
    char_eq (c := c) (by rw [toNat_byte, toNat_byte]; omega)]
  rfl

theorem begins_two (ha : 0xC2 ≤ a.toNat ∧ a.toNat < 0xE0) (hb : continues b = true) (rest : Bytes) :
    Begins (a :: b :: rest) := by
  have hb := continues_iff.1 hb
  have hchar := toNat_ofNat (n := a.toNat % 32 * 64 + b.toNat % 64) (by omega)
  have hencode := encodeChar_two (c := Char.ofNat (a.toNat % 32 * 64 + b.toNat % 64)) (by omega) (by omega)
  rw [hchar, byte_eq (a := a) (by omega), byte_eq (a := b) (by omega)] at hencode
  simpa [hencode] using begins_append (Char.ofNat (a.toNat % 32 * 64 + b.toNat % 64)) rest

theorem begins_or_refused_two (hwidth : width a = 2) (ha : 0xC2 ≤ a.toNat ∧ a.toNat < 0xE0) (rest : Bytes) :
    Begins (a :: rest) ∨ Refused (a :: rest) := by
  cases rest with
  | nil =>
    refine .inr fun offset => ?_
    rw [decodeFrom.eq_def]
    simp [hwidth]
  | cons b rest =>
    by_cases hb : continues b = true
    · exact .inl (begins_two ha hb rest)
    · refine .inr fun offset => ?_
      rw [decodeFrom.eq_def]
      simp [hwidth, hb]

/-! #### Three bytes -/

theorem encodeChar_three (h : 0x800 ≤ c.toNat) (h' : c.toNat < 0x10000) :
    String.utf8EncodeChar c = [UInt8.ofNat (c.toNat / 4096 % 16 + 0xE0), UInt8.ofNat (c.toNat / 64 % 64 + 0x80),
      UInt8.ofNat (c.toNat % 64 + 0x80)] := by
  change 0x800 ≤ c.val.toNat at h
  change c.val.toNat < 0x10000 at h'
  rw [String.utf8EncodeChar, if_neg (by omega), if_neg (by omega), if_pos (by omega)]
  rfl

theorem decodeFrom_three (ha : width a = 3) (hb : follows a b = true) (hx : continues x = true) (offset : Nat)
    (rest : Bytes) : decodeFrom offset (a :: b :: x :: rest) =
      (decodeFrom (offset + 3) rest).map
        (Char.ofNat ((a.toNat % 16 * 64 + b.toNat % 64) * 64 + x.toNat % 64) :: ·) := by
  rw [decodeFrom.eq_def]
  simp only [ha, hb, hx, Bool.and_self, if_true, payload]

theorem decodes_three (h : 0x800 ≤ c.toNat) (h' : c.toNat < 0x10000) : Decodes c := by
  intro offset rest
  have hvalid := toNat_char c
  have hwidth : width (UInt8.ofNat (c.toNat / 4096 % 16 + 0xE0)) = 3 := by
    rw [width_eq, toNat_byte, if_neg (by omega), if_neg (by omega), if_neg (by omega), if_pos (by omega)]
  have hsecond : follows (UInt8.ofNat (c.toNat / 4096 % 16 + 0xE0)) (UInt8.ofNat (c.toNat / 64 % 64 + 0x80)) = true := by
    rw [follows_iff, toNat_byte, toNat_byte]
    omega
  have hlast : continues (UInt8.ofNat (c.toNat % 64 + 0x80)) = true := by
    rw [continues_iff, toNat_byte]
    omega
  rw [encodeChar_three h h', List.cons_append, List.cons_append, List.singleton_append,
    decodeFrom_three hwidth hsecond hlast, char_eq (c := c) (by rw [toNat_byte, toNat_byte, toNat_byte]; omega)]
  rfl

theorem begins_three (ha : 0xE0 ≤ a.toNat ∧ a.toNat < 0xF0) (hb : follows a b = true) (hx : continues x = true)
    (rest : Bytes) : Begins (a :: b :: x :: rest) := by
  have hb := follows_iff.1 hb
  have hx := continues_iff.1 hx
  let n := (a.toNat % 16 * 64 + b.toNat % 64) * 64 + x.toNat % 64
  have hchar := toNat_ofNat (n := n) (by omega)
  have hencode := encodeChar_three (c := Char.ofNat n) (by omega) (by omega)
  rw [hchar, byte_eq (a := a) (by omega), byte_eq (a := b) (by omega), byte_eq (a := x) (by omega)] at hencode
  simpa [hencode] using begins_append (Char.ofNat n) rest

theorem begins_or_refused_three (hwidth : width a = 3) (ha : 0xE0 ≤ a.toNat ∧ a.toNat < 0xF0) (rest : Bytes) :
    Begins (a :: rest) ∨ Refused (a :: rest) := by
  match rest with
  | [] =>
    refine .inr fun offset => ?_
    rw [decodeFrom.eq_def]
    simp [hwidth]
  | [b] =>
    refine .inr fun offset => ?_
    rw [decodeFrom.eq_def]
    simp [hwidth]
  | b :: x :: rest =>
    by_cases hall : follows a b = true ∧ continues x = true
    · exact .inl (begins_three ha hall.1 hall.2 rest)
    · refine .inr fun offset => ?_
      rw [decodeFrom.eq_def]
      simp [hwidth, hall]

/-! #### Four bytes -/

theorem encodeChar_four (h : 0x10000 ≤ c.toNat) :
    String.utf8EncodeChar c = [UInt8.ofNat (c.toNat / 262144 % 8 + 0xF0), UInt8.ofNat (c.toNat / 4096 % 64 + 0x80),
      UInt8.ofNat (c.toNat / 64 % 64 + 0x80), UInt8.ofNat (c.toNat % 64 + 0x80)] := by
  change 0x10000 ≤ c.val.toNat at h
  rw [String.utf8EncodeChar, if_neg (by omega), if_neg (by omega), if_neg (by omega)]
  rfl

theorem decodeFrom_four (ha : width a = 4) (hb : follows a b = true) (hx : continues x = true)
    (hy : continues y = true) (offset : Nat) (rest : Bytes) :
    decodeFrom offset (a :: b :: x :: y :: rest) =
      (decodeFrom (offset + 4) rest).map
        (Char.ofNat (((a.toNat % 8 * 64 + b.toNat % 64) * 64 + x.toNat % 64) * 64 + y.toNat % 64) :: ·) := by
  rw [decodeFrom.eq_def]
  simp only [ha, hb, hx, hy, Bool.and_self, if_true, payload]

theorem decodes_four (h : 0x10000 ≤ c.toNat) : Decodes c := by
  intro offset rest
  have hvalid := toNat_char c
  have hwidth : width (UInt8.ofNat (c.toNat / 262144 % 8 + 0xF0)) = 4 := by
    rw [width_eq, toNat_byte, if_neg (by omega), if_neg (by omega), if_neg (by omega), if_neg (by omega),
      if_pos (by omega)]
  have hsecond : follows (UInt8.ofNat (c.toNat / 262144 % 8 + 0xF0)) (UInt8.ofNat (c.toNat / 4096 % 64 + 0x80)) =
      true := by
    rw [follows_iff, toNat_byte, toNat_byte]
    omega
  have hlater : ∀ n, continues (UInt8.ofNat (n % 64 + 0x80)) = true := by
    intro n
    rw [continues_iff, toNat_byte]
    omega
  rw [encodeChar_four h, List.cons_append, List.cons_append, List.cons_append, List.singleton_append,
    decodeFrom_four hwidth hsecond (hlater _) (hlater _),
    char_eq (c := c) (by rw [toNat_byte, toNat_byte, toNat_byte, toNat_byte]; omega)]
  rfl

theorem begins_four (ha : 0xF0 ≤ a.toNat ∧ a.toNat < 0xF5) (hb : follows a b = true) (hx : continues x = true)
    (hy : continues y = true) (rest : Bytes) : Begins (a :: b :: x :: y :: rest) := by
  have hb := follows_iff.1 hb
  have hx := continues_iff.1 hx
  have hy := continues_iff.1 hy
  let n := ((a.toNat % 8 * 64 + b.toNat % 64) * 64 + x.toNat % 64) * 64 + y.toNat % 64
  have hchar := toNat_ofNat (n := n) (by omega)
  have hencode := encodeChar_four (c := Char.ofNat n) (by omega)
  rw [hchar, byte_eq (a := a) (by omega), byte_eq (a := b) (by omega), byte_eq (a := x) (by omega),
    byte_eq (a := y) (by omega)] at hencode
  simpa [hencode] using begins_append (Char.ofNat n) rest

theorem begins_or_refused_four (hwidth : width a = 4) (ha : 0xF0 ≤ a.toNat ∧ a.toNat < 0xF5) (rest : Bytes) :
    Begins (a :: rest) ∨ Refused (a :: rest) := by
  match rest with
  | [] =>
    refine .inr fun offset => ?_
    rw [decodeFrom.eq_def]
    simp [hwidth]
  | [b] =>
    refine .inr fun offset => ?_
    rw [decodeFrom.eq_def]
    simp [hwidth]
  | [b, x] =>
    refine .inr fun offset => ?_
    rw [decodeFrom.eq_def]
    simp [hwidth]
  | b :: x :: y :: rest =>
    by_cases hall : follows a b = true ∧ continues x = true ∧ continues y = true
    · exact .inl (begins_four ha hall.1 hall.2.1 hall.2.2 rest)
    · refine .inr fun offset => ?_
      rw [decodeFrom.eq_def]
      simp [hwidth, hall, and_assoc]

/-! #### Any number of bytes -/

/-- A character is decoded as it was encoded, whatever follows. -/
theorem decodeFrom_encodeChar (c : Char) : Decodes c := by
  by_cases hone : c.toNat < 0x80
  · exact decodes_one hone
  by_cases htwo : c.toNat < 0x800
  · exact decodes_two (Nat.le_of_not_lt hone) htwo
  by_cases hthree : c.toNat < 0x10000
  · exact decodes_three (Nat.le_of_not_lt htwo) hthree
  · exact decodes_four (Nat.le_of_not_lt hthree)

/-- Bytes begin with a character, or else they are refused where they begin. -/
theorem begins_or_refused (a : UInt8) (rest : Bytes) : Begins (a :: rest) ∨ Refused (a :: rest) := by
  rcases width_cases a with hwidth | ⟨-, ha⟩ | ⟨hwidth, ha⟩ | ⟨hwidth, ha⟩ | ⟨hwidth, ha⟩
  · exact .inr (refused_of_width_zero hwidth rest)
  · exact .inl (begins_one ha rest)
  · exact begins_or_refused_two hwidth ha rest
  · exact begins_or_refused_three hwidth ha rest
  · exact begins_or_refused_four hwidth ha rest

/-! ### Bytes from their beginning to their end -/

/-- Characters are decoded as they were encoded, whatever follows. -/
theorem decodeFrom_encode_append (s : List Char) (offset : Nat) (rest : Bytes) :
    decodeFrom offset (encode s ++ rest) = (decodeFrom (offset + (encode s).length) rest).map (s ++ ·) := by
  induction s generalizing offset with
  | nil =>
    rw [encode_nil, List.nil_append, List.length_nil, Nat.add_zero]
    cases decodeFrom offset rest <;> rfl
  | cons c s ih =>
    rw [encode_cons, List.append_assoc, decodeFrom_encodeChar, ih, List.length_append, Nat.add_assoc]
    cases decodeFrom _ rest <;> rfl

/-- Bytes are the encoding of some characters and a rest that does not begin with one. -/
theorem exists_encode_append (bytes : Bytes) : ∃ s rest, bytes = encode s ++ rest ∧ ¬ Begins rest := by
  by_cases hbegins : Begins bytes
  · obtain ⟨c, tail, rfl⟩ := hbegins
    obtain ⟨s, rest, rfl, hrest⟩ := exists_encode_append tail
    refine ⟨c :: s, rest, ?_, hrest⟩
    rw [encode_cons, List.append_assoc]
  · exact ⟨[], bytes, rfl, hbegins⟩
termination_by bytes.length
decreasing_by
  rename_i htail
  have hpos := c.utf8Size_pos
  rw [← htail, List.length_append, String.length_utf8EncodeChar]
  omega

/-- Characters are decoded as they were encoded. -/
theorem decode_encode (s : List Char) : decode (encode s) = .ok s := by
  have h := decodeFrom_encode_append s 0 []
  rw [List.append_nil] at h
  rw [decode, h]
  exact congrArg Except.ok (List.append_nil s)

/-- The offset at which bytes stop to be well formed: those before it are the encoding of some characters, and those from it
on are left and begin with no character. -/
structure IllFormedAt (bytes : Bytes) (offset : Nat) : Prop where
  before : ∃ s, encode s = bytes.take offset
  lt_length : offset < bytes.length
  stuck : ∀ c, ¬ String.utf8EncodeChar c <+: bytes.drop offset

theorem illFormedAt_encode_append {s : List Char} {rest : Bytes} (hne : rest ≠ []) (h : ¬ Begins rest) :
    IllFormedAt (encode s ++ rest) (encode s).length where
  before := ⟨s, List.take_left.symm⟩
  lt_length := by
    rw [List.length_append]
    exact Nat.lt_add_of_pos_right (List.length_pos_iff.2 hne)
  stuck c hprefix := h ⟨c, by rwa [List.drop_left] at hprefix⟩

/-- Bytes are refused at the offset at which they stop to be well formed. -/
theorem IllFormedAt.decode_eq {bytes : Bytes} {offset : Nat} (h : IllFormedAt bytes offset) :
    ∃ reason, decode bytes = .error ⟨reason, offset⟩ := by
  obtain ⟨s, hs⟩ := h.before
  have hlength : (encode s).length = offset := by
    rw [hs, List.length_take_of_le (Nat.le_of_lt h.lt_length)]
  obtain ⟨a, rest, hrest⟩ := List.exists_cons_of_ne_nil (List.drop_eq_nil_iff.not.2 (Nat.not_le.2 h.lt_length))
  have hrefused : Refused (a :: rest) := (begins_or_refused a rest).resolve_left fun ⟨c, hc⟩ => h.stuck c (hrest ▸ hc)
  obtain ⟨reason, herror⟩ := hrefused offset
  refine ⟨reason, ?_⟩
  rw [decode, ← List.take_append_drop offset bytes, ← hs, hrest, decodeFrom_encode_append, hlength, Nat.zero_add, herror]
  rfl

/-- There is one offset at which bytes stop to be well formed. -/
theorem IllFormedAt.unique {bytes : Bytes} {m n : Nat} (hm : IllFormedAt bytes m) (hn : IllFormedAt bytes n) : m = n := by
  obtain ⟨reason, hreason⟩ := hm.decode_eq
  obtain ⟨reason', hreason'⟩ := hn.decode_eq
  rw [hreason] at hreason'
  cases hreason'
  rfl

/-- What is refused stops to be well formed at the offset at which it is refused. -/
theorem illFormedAt_of_decode {bytes : Bytes} {m : Malformed} (h : decode bytes = .error m) :
    IllFormedAt bytes m.offset := by
  obtain ⟨s, rest, rfl, hrest⟩ := exists_encode_append bytes
  have hne : rest ≠ [] := by
    rintro rfl
    rw [List.append_nil, decode_encode] at h
    cases h
  have hstop := illFormedAt_encode_append (s := s) hne hrest
  obtain ⟨reason, herror⟩ := hstop.decode_eq
  rw [herror] at h
  cases h
  exact hstop

/-- Bytes are decoded to the characters whose encoding they are. -/
theorem decode_eq_ok_iff {bytes : Bytes} {s : List Char} : decode bytes = .ok s ↔ encode s = bytes := by
  constructor
  · intro h
    obtain ⟨t, rest, rfl, hrest⟩ := exists_encode_append bytes
    by_cases hnil : rest = []
    · rw [hnil, List.append_nil] at h ⊢
      rw [decode_encode] at h
      rw [Except.ok.inj h]
    · obtain ⟨reason, herror⟩ := (illFormedAt_encode_append (s := t) hnil hrest).decode_eq
      rw [herror] at h
      cases h
  · rintro rfl
    exact decode_encode s

/-! ### The byte-order mark -/

/-- The byte-order mark. -/
def mark : Bytes := [0xEF, 0xBB, 0xBF]

theorem dropMark_mark_append (bytes : Bytes) : dropMark (mark ++ bytes) = bytes := rfl

theorem dropMark_of_not_prefix {bytes : Bytes} (h : ¬ mark <+: bytes) : dropMark bytes = bytes := by
  unfold dropMark
  split
  · rename_i rest
    exact absurd (List.prefix_append mark rest) h
  · rfl

/-- The mark is a character, so that bytes behind it stop to be well formed three bytes later. -/
theorem IllFormedAt.mark_append {bytes : Bytes} {offset : Nat} (h : IllFormedAt bytes offset) :
    IllFormedAt (mark ++ bytes) (offset + 3) := by
  have hmark : encode ['\ufeff'] = mark := by decide
  obtain ⟨s, hs⟩ := h.before
  refine ⟨⟨'\ufeff' :: s, ?_⟩, Nat.add_lt_add_right h.lt_length 3, h.stuck⟩
  rw [← List.singleton_append, encode_append, hmark, hs]
  rfl

end ModuleReach.Utf8

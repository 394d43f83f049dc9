/-!
# UTF-8

Reading text from bytes.  Malformed input is refused with the reason and with the offset of the byte that
begins the malformed sequence.

## Main definitions

* `Bytes` — file contents.
* `Utf8.decode` — the characters that a byte sequence encodes.
* `Utf8.encode` — the bytes of a sequence of characters.
* `Utf8.dropMark` — the bytes without a byte-order mark at the front.
-/

namespace ModuleReach

/-- The contents of a file. -/
abbrev Bytes := List UInt8

namespace Utf8

/-- Why a byte sequence is not well formed. -/
inductive Reason
  /-- No character begins with this byte. -/
  | start
  /-- A byte that should continue a character does not. -/
  | continuation
  /-- The bytes end inside a character. -/
  | truncated
  deriving DecidableEq, Repr

/-- The reason in words. -/
def Reason.message : Reason → String
  | .start => "invalid start byte"
  | .continuation => "invalid continuation byte"
  | .truncated => "unexpected end of data"

/-- A malformed sequence: what is wrong with it, and at which offset it begins. -/
structure Malformed where
  reason : Reason
  offset : Nat
  deriving DecidableEq, Repr

/-- The number of bytes in a character with this first byte; zero if no character begins with it. -/
def width (lead : UInt8) : Nat :=
  if lead < 0x80 then 1
  else if lead < 0xC2 then 0
  else if lead < 0xE0 then 2
  else if lead < 0xF0 then 3
  else if lead < 0xF5 then 4
  else 0

/-- Whether a byte lies in the range of bytes after the first. -/
def continues (b : UInt8) : Bool := 0x80 ≤ b && b < 0xC0

/-- Whether `second` may follow `lead`.  The bounds beyond `continues` exclude overlong forms,
surrogates and code points past the last one. -/
def follows (lead second : UInt8) : Bool :=
  continues second &&
    (lead != 0xE0 || 0xA0 ≤ second) && (lead != 0xED || second < 0xA0) &&
    (lead != 0xF0 || 0x90 ≤ second) && (lead != 0xF4 || second < 0x90)

/-- The six payload bits of a byte after the first. -/
def payload (b : UInt8) : Nat := b.toNat % 64

/-- The characters encoded by the bytes that begin at offset `at`. -/
def decodeFrom (offset : Nat) : Bytes → Except Malformed (List Char)
  | [] => .ok []
  | a :: rest =>
    match width a, rest with
    | 1, rest => (decodeFrom (offset + 1) rest).map (Char.ofNat a.toNat :: ·)
    | 2, b :: rest =>
      if continues b then
        (decodeFrom (offset + 2) rest).map (Char.ofNat (a.toNat % 32 * 64 + payload b) :: ·)
      else .error ⟨.continuation, offset⟩
    | 3, [b] => .error ⟨if follows a b then .truncated else .continuation, offset⟩
    | 3, b :: c :: rest =>
      if follows a b && continues c then
        (decodeFrom (offset + 3) rest).map
          (Char.ofNat ((a.toNat % 16 * 64 + payload b) * 64 + payload c) :: ·)
      else .error ⟨.continuation, offset⟩
    | 4, [b] => .error ⟨if follows a b then .truncated else .continuation, offset⟩
    | 4, [b, c] =>
      .error ⟨if follows a b && continues c then .truncated else .continuation, offset⟩
    | 4, b :: c :: d :: rest =>
      if follows a b && continues c && continues d then
        (decodeFrom (offset + 4) rest).map
          (Char.ofNat (((a.toNat % 8 * 64 + payload b) * 64 + payload c) * 64 + payload d) :: ·)
      else .error ⟨.continuation, offset⟩
    | 0, _ => .error ⟨.start, offset⟩
    | _, _ => .error ⟨.truncated, offset⟩

/-- The characters that a byte sequence encodes. -/
def decode (bytes : Bytes) : Except Malformed (List Char) := decodeFrom 0 bytes

/-- The bytes without a byte-order mark at the front. -/
def dropMark : Bytes → Bytes
  | 0xEF :: 0xBB :: 0xBF :: rest => rest
  | bytes => bytes

/-- The bytes that encode a sequence of characters. -/
def encode (s : List Char) : Bytes := s.flatMap String.utf8EncodeChar

@[simp] theorem decode_nil : decode [] = .ok [] := rfl

@[simp] theorem encode_nil : encode [] = [] := rfl

@[simp] theorem encode_cons (c : Char) (s : List Char) :
    encode (c :: s) = String.utf8EncodeChar c ++ encode s := rfl

@[simp] theorem encode_append (s t : List Char) : encode (s ++ t) = encode s ++ encode t := by
  simp [encode]

end Utf8

end ModuleReach

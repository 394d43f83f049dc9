import ModuleReach.Text.Hex
import ModuleReach.Text.Utf8

/-!
# SHA-256

The digest by which a store recognises equal contents.  A message is padded to whole blocks of 64 bytes, each block is
spread over 64 words, and the words are mixed into a state of eight words one after the other.

## Main definitions

* `Sha256.pad` — a message filled up to whole blocks.
* `Sha256.schedule` — the 64 words of a block.
* `Sha256.digest` — the digest of a message, as 64 hexadecimal digits.
-/

namespace ModuleReach.Sha256

/-- The eight words that a message is mixed into. -/
structure State where
  a : UInt32
  b : UInt32
  c : UInt32
  d : UInt32
  e : UInt32
  f : UInt32
  g : UInt32
  h : UInt32
  deriving DecidableEq, Repr

/-- The state before the first block. -/
def State.initial : State :=
  ⟨0x6a09e667, 0xbb67ae85, 0x3c6ef372, 0xa54ff53a, 0x510e527f, 0x9b05688c, 0x1f83d9ab, 0x5be0cd19⟩

/-- One constant for each of the 64 words of a block. -/
def constants : List UInt32 :=
  [0x428a2f98, 0x71374491, 0xb5c0fbcf, 0xe9b5dba5, 0x3956c25b, 0x59f111f1, 0x923f82a4, 0xab1c5ed5,
   0xd807aa98, 0x12835b01, 0x243185be, 0x550c7dc3, 0x72be5d74, 0x80deb1fe, 0x9bdc06a7, 0xc19bf174,
   0xe49b69c1, 0xefbe4786, 0x0fc19dc6, 0x240ca1cc, 0x2de92c6f, 0x4a7484aa, 0x5cb0a9dc, 0x76f988da,
   0x983e5152, 0xa831c66d, 0xb00327c8, 0xbf597fc7, 0xc6e00bf3, 0xd5a79147, 0x06ca6351, 0x14292967,
   0x27b70a85, 0x2e1b2138, 0x4d2c6dfc, 0x53380d13, 0x650a7354, 0x766a0abb, 0x81c2c92e, 0x92722c85,
   0xa2bfe8a1, 0xa81a664b, 0xc24b8b70, 0xc76c51a3, 0xd192e819, 0xd6990624, 0xf40e3585, 0x106aa070,
   0x19a4c116, 0x1e376c08, 0x2748774c, 0x34b0bcb5, 0x391c0cb3, 0x4ed8aa4a, 0x5b9cca4f, 0x682e6ff3,
   0x748f82ee, 0x78a5636f, 0x84c87814, 0x8cc70208, 0x90befffa, 0xa4506ceb, 0xbef9a3f7, 0xc67178f2]

/-- A word turned right by `n` bits. -/
def rotate (x n : UInt32) : UInt32 := (x >>> n) ||| (x <<< (32 - n))

/-- A message, then the byte `0x80`, then zeros up to eight bytes short of a whole block, then its length
in bits. -/
def pad (message : Bytes) : Bytes :=
  let n := message.length
  message ++ (0x80 : UInt8) :: List.replicate ((119 - n % 64) % 64) 0 ++
    (List.range 8).map fun i => UInt8.ofNat ((8 * n) >>> (8 * (7 - i)))

/-- Bytes taken four at a time as words, the high byte first. -/
def words : Bytes → List UInt32
  | a :: b :: c :: d :: rest =>
    ((a.toUInt32 <<< 24) ||| (b.toUInt32 <<< 16) ||| (c.toUInt32 <<< 8) ||| d.toUInt32) :: words rest
  | _ => []

/-- The last sixteen words of a schedule and `n` more. -/
def extend : Nat → List UInt32 → List UInt32
  | n + 1, w₀ :: w₁ :: w₂ :: w₃ :: w₄ :: w₅ :: w₆ :: w₇ :: w₈ :: w₉ :: rest =>
    let last := rest.getD 4 0
    let s₀ := rotate w₁ 7 ^^^ rotate w₁ 18 ^^^ (w₁ >>> 3)
    let s₁ := rotate last 17 ^^^ rotate last 19 ^^^ (last >>> 10)
    w₀ :: extend n
      (w₁ :: w₂ :: w₃ :: w₄ :: w₅ :: w₆ :: w₇ :: w₈ :: w₉ :: (rest ++ [w₀ + s₀ + w₉ + s₁]))
  | _, window => window

/-- The 64 words of a block: its own sixteen, and the others each from four earlier ones. -/
def schedule (block : Bytes) : List UInt32 := extend 48 (words block)

/-- The state after mixing in one word with its constant. -/
def State.mix (s : State) (step : UInt32 × UInt32) : State :=
  let s₁ := rotate s.e 6 ^^^ rotate s.e 11 ^^^ rotate s.e 25
  let choice := (s.e &&& s.f) ^^^ (~~~s.e &&& s.g)
  let t₁ := s.h + s₁ + choice + step.1 + step.2
  let s₀ := rotate s.a 2 ^^^ rotate s.a 13 ^^^ rotate s.a 22
  let majority := (s.a &&& s.b) ^^^ (s.a &&& s.c) ^^^ (s.b &&& s.c)
  ⟨t₁ + (s₀ + majority), s.a, s.b, s.c, s.d + t₁, s.e, s.f, s.g⟩

/-- Two states added word by word. -/
def State.add (s t : State) : State :=
  ⟨s.a + t.a, s.b + t.b, s.c + t.c, s.d + t.d, s.e + t.e, s.f + t.f, s.g + t.g, s.h + t.h⟩

/-- The state after a block. -/
def State.absorb (s : State) (block : Bytes) : State :=
  s.add ((constants.zip (schedule block)).foldl State.mix s)

/-- The state after `n` blocks. -/
def absorbAll (s : State) : Nat → Bytes → State
  | 0, _ => s
  | n + 1, bytes => absorbAll (s.absorb (bytes.take 64)) n (bytes.drop 64)

/-- The words of a state in order. -/
def State.toList (s : State) : List UInt32 := [s.a, s.b, s.c, s.d, s.e, s.f, s.g, s.h]

/-- The digest of a message, as 64 hexadecimal digits. -/
def digest (message : Bytes) : String :=
  let padded := pad message
  let final := absorbAll State.initial (padded.length / 64) padded
  String.ofList (final.toList.flatMap fun w => Text.hex 8 w.toNat)

end ModuleReach.Sha256

import Mathlib.Algebra.Group.Nat.Defs
import Mathlib.Data.List.Basic

/-!
# SHA-1 and SHA-256

The two digests the sources take from their standard libraries: Go's
`sha1.Sum` under the generated object names, Python's `hashlib.sha256` under
the bucket fingerprints and the query hash. Words are naturals below `2 ^ 32`.
-/

namespace KubeDataGuard.Digest

def word (n : Nat) : Nat := n % 2 ^ 32

def rotateLeft (n x : Nat) : Nat := word (x <<< n) ||| (x >>> (32 - n))

def rotateRight (n x : Nat) : Nat := rotateLeft (32 - n) x

def complement (x : Nat) : Nat := x ^^^ (2 ^ 32 - 1)

/-- The big-endian bytes of `n`, `width` of them. -/
def bigEndian : Nat → Nat → List Nat
  | 0, _ => []
  | width + 1, n => bigEndian width (n / 256) ++ [n % 256]

def ofBigEndian (bytes : List Nat) : Nat := bytes.foldl (fun n b => n * 256 + b) 0

/-- The message with its end mark and its length in bits, a multiple of 64 bytes long. -/
def padded (bytes : List Nat) : List Nat :=
  let marked := bytes ++ [0x80]
  marked ++ List.replicate ((120 - marked.length % 64) % 64) 0 ++ bigEndian 8 (8 * bytes.length)

def words : Nat → List Nat → List Nat
  | 0, _ => []
  | count + 1, bytes => ofBigEndian (bytes.take 4) :: words count (bytes.drop 4)

def blocks : Nat → List Nat → List (List Nat)
  | 0, _ => []
  | count + 1, bytes => words 16 (bytes.take 64) :: blocks count (bytes.drop 64)

/-- A message schedule, built newest word first by `next` on the words before it. -/
def schedule (next : List Nat → Nat) : Nat → List Nat → List Nat
  | 0, ws => ws.reverse
  | count + 1, ws => schedule next count (next ws :: ws)

def digest (compress : List Nat → List Nat → List Nat) (start bytes : List Nat) : List Nat :=
  let message := padded bytes
  ((blocks (message.length / 64) message).foldl compress start).flatMap (bigEndian 4)

def sha1Next (ws : List Nat) : Nat :=
  rotateLeft 1 (ws.getD 2 0 ^^^ ws.getD 7 0 ^^^ ws.getD 13 0 ^^^ ws.getD 15 0)

def sha1Mix (round b c d : Nat) : Nat × Nat :=
  if round < 20 then ((b &&& c) ||| (complement b &&& d), 0x5A827999)
  else if round < 40 then (b ^^^ c ^^^ d, 0x6ED9EBA1)
  else if round < 60 then ((b &&& c) ||| (b &&& d) ||| (c &&& d), 0x8F1BBCDC)
  else (b ^^^ c ^^^ d, 0xCA62C1D6)

def sha1Round : List Nat → Nat × Nat → List Nat
  | [a, b, c, d, e], (w, round) =>
    let (f, k) := sha1Mix round b c d
    [word (rotateLeft 5 a + f + e + k + w), a, rotateLeft 30 b, c, d]
  | other, _ => other

def sha1Compress (state block : List Nat) : List Nat :=
  let ws := schedule sha1Next 64 block.reverse
  List.zipWith (fun x y => word (x + y)) state (ws.zipIdx.foldl sha1Round state)

/-- `sha1.Sum`. -/
def sha1 (bytes : List Nat) : List Nat :=
  digest sha1Compress [0x67452301, 0xEFCDAB89, 0x98BADCFE, 0x10325476, 0xC3D2E1F0] bytes

def sha256Next (ws : List Nat) : Nat :=
  let s0 := fun x => rotateRight 7 x ^^^ rotateRight 18 x ^^^ (x >>> 3)
  let s1 := fun x => rotateRight 17 x ^^^ rotateRight 19 x ^^^ (x >>> 10)
  word (s1 (ws.getD 1 0) + ws.getD 6 0 + s0 (ws.getD 14 0) + ws.getD 15 0)

def sha256Constants : List Nat :=
  [0x428a2f98, 0x71374491, 0xb5c0fbcf, 0xe9b5dba5, 0x3956c25b, 0x59f111f1, 0x923f82a4, 0xab1c5ed5,
   0xd807aa98, 0x12835b01, 0x243185be, 0x550c7dc3, 0x72be5d74, 0x80deb1fe, 0x9bdc06a7, 0xc19bf174,
   0xe49b69c1, 0xefbe4786, 0x0fc19dc6, 0x240ca1cc, 0x2de92c6f, 0x4a7484aa, 0x5cb0a9dc, 0x76f988da,
   0x983e5152, 0xa831c66d, 0xb00327c8, 0xbf597fc7, 0xc6e00bf3, 0xd5a79147, 0x06ca6351, 0x14292967,
   0x27b70a85, 0x2e1b2138, 0x4d2c6dfc, 0x53380d13, 0x650a7354, 0x766a0abb, 0x81c2c92e, 0x92722c85,
   0xa2bfe8a1, 0xa81a664b, 0xc24b8b70, 0xc76c51a3, 0xd192e819, 0xd6990624, 0xf40e3585, 0x106aa070,
   0x19a4c116, 0x1e376c08, 0x2748774c, 0x34b0bcb5, 0x391c0cb3, 0x4ed8aa4a, 0x5b9cca4f, 0x682e6ff3,
   0x748f82ee, 0x78a5636f, 0x84c87814, 0x8cc70208, 0x90befffa, 0xa4506ceb, 0xbef9a3f7, 0xc67178f2]

def sha256Round : List Nat → Nat × Nat → List Nat
  | [a, b, c, d, e, f, g, h], (w, k) =>
    let s1 := rotateRight 6 e ^^^ rotateRight 11 e ^^^ rotateRight 25 e
    let choice := (e &&& f) ^^^ (complement e &&& g)
    let t1 := h + s1 + choice + k + w
    let s0 := rotateRight 2 a ^^^ rotateRight 13 a ^^^ rotateRight 22 a
    let majority := (a &&& b) ^^^ (a &&& c) ^^^ (b &&& c)
    [word (t1 + s0 + majority), a, b, c, word (d + t1), e, f, g]
  | other, _ => other

def sha256Compress (state block : List Nat) : List Nat :=
  let ws := schedule sha256Next 48 block.reverse
  List.zipWith (fun x y => word (x + y)) state ((ws.zip sha256Constants).foldl sha256Round state)

/-- `hashlib.sha256(...).digest()`. -/
def sha256 (bytes : List Nat) : List Nat :=
  digest sha256Compress
    [0x6a09e667, 0xbb67ae85, 0x3c6ef372, 0xa54ff53a, 0x510e527f, 0x9b05688c, 0x1f83d9ab, 0x5be0cd19]
    bytes

def utf8 (s : String) : List Nat := s.toByteArray.data.toList.map UInt8.toNat

def hexDigit (n : Nat) : Char := Nat.digitChar (n % 16)

def hex (bytes : List Nat) : List Char := bytes.flatMap fun b => [hexDigit (b / 16), hexDigit b]

/-- `hashlib.sha256(text.encode("utf-8")).hexdigest()`. -/
def sha256Hex (text : String) : String := String.ofList (hex (sha256 (utf8 text)))

/-! ## The form of a digest -/

theorem bigEndian_length (width n : Nat) : (bigEndian width n).length = width := by
  induction width generalizing n with
  | zero => rfl
  | succ width ih =>
    rw [bigEndian, List.length_append, ih]
    rfl

theorem sha1Round_length (state : List Nat) (round : Nat × Nat) :
    (sha1Round state round).length = state.length := by
  unfold sha1Round
  split <;> rfl

theorem sha1Rounds_length (rounds : List (Nat × Nat)) (state : List Nat) :
    (rounds.foldl sha1Round state).length = state.length := by
  induction rounds generalizing state with
  | nil => rfl
  | cons round rounds ih => rw [List.foldl_cons, ih, sha1Round_length]

theorem sha1Compress_length (state block : List Nat) :
    (sha1Compress state block).length = state.length := by
  unfold sha1Compress
  simp only
  rw [List.length_zipWith, sha1Rounds_length, Nat.min_self]

theorem sha1Blocks_length (blocks : List (List Nat)) (state : List Nat) :
    (blocks.foldl sha1Compress state).length = state.length := by
  induction blocks generalizing state with
  | nil => rfl
  | cons block blocks ih => rw [List.foldl_cons, ih, sha1Compress_length]

theorem sha1_length (bytes : List Nat) : (sha1 bytes).length = 20 := by
  have four : ∀ words : List Nat, (words.flatMap (bigEndian 4)).length = 4 * words.length := by
    intro words
    induction words with
    | nil => rfl
    | cons word words ih =>
      rw [List.flatMap_cons, List.length_append, ih, bigEndian_length, List.length_cons]
      omega
  unfold sha1 digest
  simp only
  rw [four, sha1Blocks_length]
  rfl

theorem hex_length (bytes : List Nat) : (hex bytes).length = 2 * bytes.length := by
  unfold hex
  induction bytes with
  | nil => rfl
  | cons byte bytes ih =>
    rw [List.flatMap_cons, List.length_append, ih]
    simp only [List.length_cons, List.length_nil]
    omega

theorem hexDigit_range (n : Nat) :
    ('0' ≤ hexDigit n ∧ hexDigit n ≤ '9') ∨ 'a' ≤ hexDigit n ∧ hexDigit n ≤ 'f' := by
  have digits : ∀ d < 16, ('0' ≤ Nat.digitChar d ∧ Nat.digitChar d ≤ '9') ∨
      'a' ≤ Nat.digitChar d ∧ Nat.digitChar d ≤ 'f' := by decide
  exact digits (n % 16) (Nat.mod_lt n (by decide))

theorem hex_digits {bytes : List Nat} {c : Char} (mem : c ∈ hex bytes) :
    ∃ n, c = hexDigit n := by
  obtain ⟨byte, -, mem⟩ := List.mem_flatMap.mp mem
  simp only [List.mem_cons, List.not_mem_nil, or_false] at mem
  obtain rfl | rfl := mem
  · exact ⟨_, rfl⟩
  · exact ⟨_, rfl⟩

/-- The published digests of the three-letter test message. -/
example : hex (sha1 (utf8 "abc")) = "a9993e364706816aba3e25717850c26c9cd0d89d".toList := by
  decide +kernel

example : sha256Hex "abc" =
    "ba7816bf8f01cfea414140de5dae2223b00361a396177a9cb410ff61f20015ad" := by
  decide +kernel

end KubeDataGuard.Digest

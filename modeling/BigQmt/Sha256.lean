import Mathlib.Algebra.Order.Ring.Int
set_option autoImplicit false

/-!
`hashlib.sha256`, on words below `2^32`, for the identities the program derives
by hashing: broker tokens and deterministic command ids.
-/

namespace BigQmt.Sha256

def roundConstants : List Nat :=
  [0x428a2f98,0x71374491,0xb5c0fbcf,0xe9b5dba5,0x3956c25b,0x59f111f1,
    0x923f82a4,0xab1c5ed5,0xd807aa98,0x12835b01,0x243185be,0x550c7dc3,
    0x72be5d74,0x80deb1fe,0x9bdc06a7,0xc19bf174,0xe49b69c1,0xefbe4786,
    0x0fc19dc6,0x240ca1cc,0x2de92c6f,0x4a7484aa,0x5cb0a9dc,0x76f988da,
    0x983e5152,0xa831c66d,0xb00327c8,0xbf597fc7,0xc6e00bf3,0xd5a79147,
    0x06ca6351,0x14292967,0x27b70a85,0x2e1b2138,0x4d2c6dfc,0x53380d13,
    0x650a7354,0x766a0abb,0x81c2c92e,0x92722c85,0xa2bfe8a1,0xa81a664b,
    0xc24b8b70,0xc76c51a3,0xd192e819,0xd6990624,0xf40e3585,0x106aa070,
    0x19a4c116,0x1e376c08,0x2748774c,0x34b0bcb5,0x391c0cb3,0x4ed8aa4a,
    0x5b9cca4f,0x682e6ff3,0x748f82ee,0x78a5636f,0x84c87814,0x8cc70208,
    0x90befffa,0xa4506ceb,0xbef9a3f7,0xc67178f2]

structure Words where
  a : Nat
  b : Nat
  c : Nat
  d : Nat
  e : Nat
  f : Nat
  g : Nat
  h : Nat

def start : Words := ⟨0x6a09e667,0xbb67ae85,0x3c6ef372,0xa54ff53a,
  0x510e527f,0x9b05688c,0x1f83d9ab,0x5be0cd19⟩

def rotr (n x : Nat) : Nat := (x >>> n ||| x <<< (32 - n)) % 2 ^ 32

/-- One round, on the round constant and the scheduled word. -/
def round (s : Words) (k w : Nat) : Words :=
  let s₁ := rotr 6 s.e ^^^ rotr 11 s.e ^^^ rotr 25 s.e
  let ch := (s.e &&& s.f) ^^^ ((2 ^ 32 - 1 - s.e) &&& s.g)
  let t₁ := s.h + s₁ + ch + k + w
  let s₀ := rotr 2 s.a ^^^ rotr 13 s.a ^^^ rotr 22 s.a
  let maj := (s.a &&& s.b) ^^^ (s.a &&& s.c) ^^^ (s.b &&& s.c)
  ⟨(t₁ + s₀ + maj) % 2 ^ 32,s.a,s.b,s.c,(s.d + t₁) % 2 ^ 32,s.e,s.f,s.g⟩

/-- The rounds of one block, with the window of sixteen scheduled words. -/
def rounds (s : Words) : List Nat → List Nat → Words
  | k :: ks,w :: ws =>
      let w₁ := ws.getD 0 0
      let w₁₄ := ws.getD 13 0
      let s₀ := rotr 7 w₁ ^^^ rotr 18 w₁ ^^^ w₁ >>> 3
      let s₁ := rotr 17 w₁₄ ^^^ rotr 19 w₁₄ ^^^ w₁₄ >>> 10
      rounds (round s k w) ks (ws ++ [(w + s₀ + ws.getD 8 0 + s₁) % 2 ^ 32])
  | _,_ => s

def compress (s : Words) (block : List Nat) : Words :=
  let r := rounds s roundConstants block
  ⟨(s.a + r.a) % 2 ^ 32,(s.b + r.b) % 2 ^ 32,(s.c + r.c) % 2 ^ 32,(s.d + r.d) % 2 ^ 32,
    (s.e + r.e) % 2 ^ 32,(s.f + r.f) % 2 ^ 32,(s.g + r.g) % 2 ^ 32,(s.h + r.h) % 2 ^ 32⟩

def bigEndian (n : Nat) (count : Nat) : List Nat :=
  (List.range count).reverse.map (fun i => n >>> (8 * i) % 256)

def padded (bytes : List Nat) : List Nat :=
  bytes ++ 0x80 :: List.replicate ((119 - bytes.length % 64) % 64) 0 ++
    bigEndian (8 * bytes.length) 8

def word : List Nat → Nat := List.foldl (fun n b => n * 256 + b) 0

/-- Read `count` words of four bytes. -/
def words (bytes : List Nat) : Nat → List Nat
  | 0 => []
  | count + 1 => word (bytes.take 4) :: words (bytes.drop 4) count

def blocks (s : Words) (bytes : List Nat) : Nat → Words
  | 0 => s
  | count + 1 => blocks (compress s (words bytes 16)) (bytes.drop 64) count

def digest (bytes : List Nat) : List Nat :=
  let message := padded bytes
  let s := blocks start message (message.length / 64)
  [s.a,s.b,s.c,s.d,s.e,s.f,s.g,s.h].flatMap (fun w => bigEndian w 4)

def utf8 (s : String) : List Nat :=
  s.toList.flatMap (fun c => (String.utf8EncodeChar c).map UInt8.toNat)

def hexDigitOf (n : Nat) : Char := "0123456789abcdef".toList.getD n '0'

def hexdigest (s : String) : List Char :=
  (digest (utf8 s)).flatMap (fun b => [hexDigitOf (b / 16),hexDigitOf (b % 16)])

example : String.ofList (hexdigest "abc") =
    "ba7816bf8f01cfea414140de5dae2223b00361a396177a9cb410ff61f20015ad" := by decide +kernel

end BigQmt.Sha256

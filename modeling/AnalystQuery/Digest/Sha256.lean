import AnalystQuery.Text.Hexadecimal

/-! The SHA-256 digest of a list of bytes. The message is padded to blocks of sixteen words; each
block stirs eight words of state for sixty-four rounds. -/

namespace AnalystQuery.Digest

structure Words where
  a : UInt32
  b : UInt32
  c : UInt32
  d : UInt32
  e : UInt32
  f : UInt32
  g : UInt32
  h : UInt32
  deriving DecidableEq, Repr

namespace Words

/-- The fractions of the square roots of the first eight primes. -/
def initial : Words :=
  ⟨0x6a09e667, 0xbb67ae85, 0x3c6ef372, 0xa54ff53a, 0x510e527f, 0x9b05688c, 0x1f83d9ab,
    0x5be0cd19⟩

def add (left right : Words) : Words :=
  ⟨left.a + right.a, left.b + right.b, left.c + right.c, left.d + right.d,
    left.e + right.e, left.f + right.f, left.g + right.g, left.h + right.h⟩

def toList (words : Words) : List UInt32 :=
  [words.a, words.b, words.c, words.d, words.e, words.f, words.g, words.h]

end Words

/-- The fractions of the cube roots of the first sixty-four primes. -/
def roundConstants : List UInt32 :=
  [0x428a2f98, 0x71374491, 0xb5c0fbcf, 0xe9b5dba5, 0x3956c25b, 0x59f111f1, 0x923f82a4, 0xab1c5ed5,
   0xd807aa98, 0x12835b01, 0x243185be, 0x550c7dc3, 0x72be5d74, 0x80deb1fe, 0x9bdc06a7, 0xc19bf174,
   0xe49b69c1, 0xefbe4786, 0x0fc19dc6, 0x240ca1cc, 0x2de92c6f, 0x4a7484aa, 0x5cb0a9dc, 0x76f988da,
   0x983e5152, 0xa831c66d, 0xb00327c8, 0xbf597fc7, 0xc6e00bf3, 0xd5a79147, 0x06ca6351, 0x14292967,
   0x27b70a85, 0x2e1b2138, 0x4d2c6dfc, 0x53380d13, 0x650a7354, 0x766a0abb, 0x81c2c92e, 0x92722c85,
   0xa2bfe8a1, 0xa81a664b, 0xc24b8b70, 0xc76c51a3, 0xd192e819, 0xd6990624, 0xf40e3585, 0x106aa070,
   0x19a4c116, 0x1e376c08, 0x2748774c, 0x34b0bcb5, 0x391c0cb3, 0x4ed8aa4a, 0x5b9cca4f, 0x682e6ff3,
   0x748f82ee, 0x78a5636f, 0x84c87814, 0x8cc70208, 0x90befffa, 0xa4506ceb, 0xbef9a3f7, 0xc67178f2]

def rotateRight (word : UInt32) (count : UInt32) : UInt32 :=
  word >>> count ||| word <<< (32 - count)

/-- The words of the rounds: the block's own sixteen, then each from four before it. -/
def schedule (count : Nat) (window : List UInt32) : List UInt32 :=
  match count, window with
  | count + 1, oldest :: rest =>
    let near := rest.getD 0 0
    let late := rest.getD 13 0
    let stirredNear := rotateRight near 7 ^^^ rotateRight near 18 ^^^ near >>> 3
    let stirredLate := rotateRight late 17 ^^^ rotateRight late 19 ^^^ late >>> 10
    oldest :: schedule count (rest ++ [oldest + stirredNear + rest.getD 8 0 + stirredLate])
  | _, _ => []

def round (words : Words) (constant word : UInt32) : Words :=
  let stirredE := rotateRight words.e 6 ^^^ rotateRight words.e 11 ^^^ rotateRight words.e 25
  let choice := (words.e &&& words.f) ^^^ (~~~words.e &&& words.g)
  let first := words.h + stirredE + choice + constant + word
  let stirredA := rotateRight words.a 2 ^^^ rotateRight words.a 13 ^^^ rotateRight words.a 22
  let majority := (words.a &&& words.b) ^^^ (words.a &&& words.c) ^^^ (words.b &&& words.c)
  ⟨first + stirredA + majority, words.a, words.b, words.c, words.d + first, words.e, words.f,
    words.g⟩

def compress (words : Words) (block : List UInt32) : Words :=
  let rounds := roundConstants.zip (schedule 64 block)
  words.add (rounds.foldl (fun stirred (constant, word) => round stirred constant word) words)

/-- The lowest bytes of a number, the highest of them first. -/
def bigEndian (count number : Nat) : List UInt8 :=
  (List.range count).map fun index => UInt8.ofNat (number / Nat.pow 256 (count - 1 - index))

/-- The message with a one bit, zeros and its length in bits, in whole blocks. -/
def pad (message : List UInt8) : List UInt8 :=
  let zeros := (119 - message.length % 64) % 64
  message ++ 0x80 :: List.replicate zeros 0 ++ bigEndian 8 (8 * message.length)

def wordsOfBytes : List UInt8 → List UInt32
  | a :: b :: c :: d :: rest =>
    (a.toUInt32 <<< 24 ||| b.toUInt32 <<< 16 ||| c.toUInt32 <<< 8 ||| d.toUInt32)
      :: wordsOfBytes rest
  | _ => []

def compressAll (words : Words) (message : List UInt32) : Words :=
  if message.length < 16 then words
  else compressAll (compress words (message.take 16)) (message.drop 16)
termination_by message.length
decreasing_by simp only [List.length_drop]; omega

def sha256 (message : List UInt8) : List UInt8 :=
  (compressAll .initial (wordsOfBytes (pad message))).toList.flatMap
    fun word => bigEndian 4 word.toNat

def hexadecimal (bytes : List UInt8) : String := String.ofList (bytes.flatMap Text.hexDigits)

end AnalystQuery.Digest

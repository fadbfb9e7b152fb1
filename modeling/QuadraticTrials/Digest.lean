/-!
The SHA-256 digest of a text, as hexadecimal digits. The message is padded to whole blocks, each
block is spread to sixty-four words, and each word takes part in one round.
-/

namespace QuadraticTrials

namespace Digest

/-- The eight words between rounds. -/
abbrev Words := Vector UInt32 8

/-- The words before the first block. -/
def initial : Words :=
  #v[0x6a09e667, 0xbb67ae85, 0x3c6ef372, 0xa54ff53a, 0x510e527f, 0x9b05688c, 0x1f83d9ab, 0x5be0cd19]

/-- One constant for each round. -/
def roundConstants : List UInt32 :=
  [0x428a2f98, 0x71374491, 0xb5c0fbcf, 0xe9b5dba5, 0x3956c25b, 0x59f111f1, 0x923f82a4, 0xab1c5ed5,
    0xd807aa98, 0x12835b01, 0x243185be, 0x550c7dc3, 0x72be5d74, 0x80deb1fe, 0x9bdc06a7, 0xc19bf174,
    0xe49b69c1, 0xefbe4786, 0x0fc19dc6, 0x240ca1cc, 0x2de92c6f, 0x4a7484aa, 0x5cb0a9dc, 0x76f988da,
    0x983e5152, 0xa831c66d, 0xb00327c8, 0xbf597fc7, 0xc6e00bf3, 0xd5a79147, 0x06ca6351, 0x14292967,
    0x27b70a85, 0x2e1b2138, 0x4d2c6dfc, 0x53380d13, 0x650a7354, 0x766a0abb, 0x81c2c92e, 0x92722c85,
    0xa2bfe8a1, 0xa81a664b, 0xc24b8b70, 0xc76c51a3, 0xd192e819, 0xd6990624, 0xf40e3585, 0x106aa070,
    0x19a4c116, 0x1e376c08, 0x2748774c, 0x34b0bcb5, 0x391c0cb3, 0x4ed8aa4a, 0x5b9cca4f, 0x682e6ff3,
    0x748f82ee, 0x78a5636f, 0x84c87814, 0x8cc70208, 0x90befffa, 0xa4506ceb, 0xbef9a3f7, 0xc67178f2]

/-- A word rotated to the right. -/
def rotate (w : UInt32) (places : UInt32) : UInt32 :=
  (w >>> places) ||| (w <<< (32 - places))

/-- The word of four bytes, the highest first. -/
def word (a b c d : UInt8) : UInt32 :=
  (a.toUInt32 <<< 24) ||| (b.toUInt32 <<< 16) ||| (c.toUInt32 <<< 8) ||| d.toUInt32

/-- The words of whole groups of four bytes. -/
def wordsOf : List UInt8 → List UInt32
  | a :: b :: c :: d :: rest => word a b c d :: wordsOf rest
  | _ => []

/-- A number as eight bytes, the highest first. -/
def lengthBytes (n : Nat) : List UInt8 :=
  (List.range 8).map fun i => (n >>> (8 * (7 - i))).toUInt8

/-- The message with a mark, zeros and its length in bits, a whole number of blocks. -/
def pad (message : List UInt8) : List UInt8 :=
  let zeros := (119 - message.length % 64) % 64
  message ++ 0x80 :: List.replicate zeros 0 ++ lengthBytes (8 * message.length)

/-- The next word of a schedule, from the words so far with the latest first. -/
def nextWord (latest : List UInt32) : UInt32 :=
  let before (i : Nat) : UInt32 := latest.getD (i - 1) 0
  let far := before 15
  let near := before 2
  before 16 + (rotate far 7 ^^^ rotate far 18 ^^^ (far >>> 3)) + before 7
    + (rotate near 17 ^^^ rotate near 19 ^^^ (near >>> 10))

/-- The schedule of a block of sixteen words. -/
def schedule (block : List UInt32) : List UInt32 :=
  ((List.range 48).foldl (fun latest _ => nextWord latest :: latest) block.reverse).reverse

def round (w : Words) (step : UInt32 × UInt32) : Words :=
  let (constant, scheduled) := step
  let mixed := rotate w[4] 6 ^^^ rotate w[4] 11 ^^^ rotate w[4] 25
  let chosen := (w[4] &&& w[5]) ^^^ (~~~w[4] &&& w[6])
  let first := w[7] + mixed + chosen + constant + scheduled
  let spread := rotate w[0] 2 ^^^ rotate w[0] 13 ^^^ rotate w[0] 22
  let majority := (w[0] &&& w[1]) ^^^ (w[0] &&& w[2]) ^^^ (w[1] &&& w[2])
  #v[first + (spread + majority), w[0], w[1], w[2], w[3] + first, w[4], w[5], w[6]]

/-- The words after one block. -/
def compress (w : Words) (block : List UInt32) : Words :=
  Vector.zipWith (· + ·) w ((roundConstants.zip (schedule block)).foldl round w)

/-- The words after blocks of sixteen words each; `blocks` is their number. -/
def absorb : (blocks : Nat) → Words → List UInt32 → Words
  | 0, w, _ => w
  | blocks + 1, w, rest => absorb blocks (compress w (rest.take 16)) (rest.drop 16)

/-- The hexadecimal digits of a word. -/
def hexWord (w : UInt32) : String :=
  String.ofList ((List.range 8).map fun i => Nat.digitChar ((w.toNat >>> (4 * (7 - i))) % 16))

def sha256 (text : String) : String :=
  let words := wordsOf (pad text.toUTF8.toList)
  String.join ((absorb (words.length / 16) initial words).toList.map hexWord)

end Digest

end QuadraticTrials

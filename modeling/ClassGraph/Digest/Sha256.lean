namespace ClassGraph

namespace Sha256

/-- The eight words that are carried from block to block. -/
structure State where
  a : UInt32
  b : UInt32
  c : UInt32
  d : UInt32
  e : UInt32
  f : UInt32
  g : UInt32
  h : UInt32
deriving DecidableEq, Repr

def initial : State :=
  ⟨0x6a09e667, 0xbb67ae85, 0x3c6ef372, 0xa54ff53a, 0x510e527f, 0x9b05688c, 0x1f83d9ab, 0x5be0cd19⟩

/-- The constants of the sixty-four rounds. -/
def constants : List UInt32 :=
  [0x428a2f98, 0x71374491, 0xb5c0fbcf, 0xe9b5dba5, 0x3956c25b, 0x59f111f1, 0x923f82a4, 0xab1c5ed5,
   0xd807aa98, 0x12835b01, 0x243185be, 0x550c7dc3, 0x72be5d74, 0x80deb1fe, 0x9bdc06a7, 0xc19bf174,
   0xe49b69c1, 0xefbe4786, 0x0fc19dc6, 0x240ca1cc, 0x2de92c6f, 0x4a7484aa, 0x5cb0a9dc, 0x76f988da,
   0x983e5152, 0xa831c66d, 0xb00327c8, 0xbf597fc7, 0xc6e00bf3, 0xd5a79147, 0x06ca6351, 0x14292967,
   0x27b70a85, 0x2e1b2138, 0x4d2c6dfc, 0x53380d13, 0x650a7354, 0x766a0abb, 0x81c2c92e, 0x92722c85,
   0xa2bfe8a1, 0xa81a664b, 0xc24b8b70, 0xc76c51a3, 0xd192e819, 0xd6990624, 0xf40e3585, 0x106aa070,
   0x19a4c116, 0x1e376c08, 0x2748774c, 0x34b0bcb5, 0x391c0cb3, 0x4ed8aa4a, 0x5b9cca4f, 0x682e6ff3,
   0x748f82ee, 0x78a5636f, 0x84c87814, 0x8cc70208, 0x90befffa, 0xa4506ceb, 0xbef9a3f7, 0xc67178f2]

def rotate (x : UInt32) (n : UInt32) : UInt32 :=
  (x >>> n) ||| (x <<< (32 - n))

/-- The next word of the schedule, from the words so far. -/
def nextWord (words : Array UInt32) : UInt32 :=
  let at_ (back : Nat) : UInt32 := words.getD (words.size - back) 0
  let s0 := rotate (at_ 15) 7 ^^^ rotate (at_ 15) 18 ^^^ (at_ 15 >>> 3)
  let s1 := rotate (at_ 2) 17 ^^^ rotate (at_ 2) 19 ^^^ (at_ 2 >>> 10)
  at_ 16 + s0 + at_ 7 + s1

/-- The sixty-four words that a block of sixteen is spread to. -/
def schedule (block : List UInt32) : List UInt32 :=
  ((List.range 48).foldl (fun words _ => words.push (nextWord words)) block.toArray).toList

/-- One round, with its constant and its scheduled word. -/
def round (s : State) (k : UInt32 × UInt32) : State :=
  let t1 := s.h + (rotate s.e 6 ^^^ rotate s.e 11 ^^^ rotate s.e 25) +
    ((s.e &&& s.f) ^^^ (~~~s.e &&& s.g)) + k.1 + k.2
  let t2 := (rotate s.a 2 ^^^ rotate s.a 13 ^^^ rotate s.a 22) +
    ((s.a &&& s.b) ^^^ (s.a &&& s.c) ^^^ (s.b &&& s.c))
  ⟨t1 + t2, s.a, s.b, s.c, s.d + t1, s.e, s.f, s.g⟩

def compress (s : State) (block : List UInt32) : State :=
  let t := (constants.zip (schedule block)).foldl round s
  ⟨s.a + t.a, s.b + t.b, s.c + t.c, s.d + t.d, s.e + t.e, s.f + t.f, s.g + t.g, s.h + t.h⟩

/-- Takes one more word; sixteen of them, kept in reverse, make a block. -/
def absorb (carried : State × List UInt32) (word : UInt32) : State × List UInt32 :=
  if carried.2.length = 15 then (compress carried.1 (word :: carried.2).reverse, [])
  else (carried.1, word :: carried.2)

/-- The digits of a number in base 256, the highest of `count` first. -/
def bigEndian (count value : Nat) : List UInt8 :=
  (List.range count).map fun i => UInt8.ofNat (value >>> (8 * (count - 1 - i)))

/-- A message followed by a one bit, zeros, and its length in bits, to whole blocks. -/
def pad (message : List UInt8) : List UInt8 :=
  message ++ 0x80 :: List.replicate ((119 - message.length % 64) % 64) 0 ++
    bigEndian 8 (8 * message.length)

/-- Bytes taken four by four. -/
def words : List UInt8 → List UInt32
  | a :: b :: c :: d :: rest =>
    (a.toUInt32 <<< 24 ||| b.toUInt32 <<< 16 ||| c.toUInt32 <<< 8 ||| d.toUInt32) :: words rest
  | _ => []

/-- The digest of a message, thirty-two bytes. -/
def digest (message : List UInt8) : List UInt8 :=
  let s := ((words (pad message)).foldl absorb (initial, [])).1
  [s.a, s.b, s.c, s.d, s.e, s.f, s.g, s.h].flatMap fun word => bigEndian 4 word.toNat

end Sha256

/-- Bytes as pairs of lower-case hexadecimal digits. -/
def hexText (bytes : List UInt8) : String :=
  String.ofList (bytes.flatMap fun byte =>
    [Nat.digitChar (byte.toNat / 16), Nat.digitChar (byte.toNat % 16)])

/-- The fingerprint of a content. -/
def fingerprint (content : ByteArray) : String :=
  hexText (Sha256.digest content.data.toList)

end ClassGraph

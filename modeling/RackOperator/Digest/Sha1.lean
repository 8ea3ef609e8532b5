/-!
# SHA-1

`Sha1.digest` is the 20-byte digest of FIPS 180-4 over a list of bytes: the
message is padded to whole blocks of 64 bytes (`padded`), and each block is mixed
into five 32-bit words by eighty rounds. The names of cleanup tasks are cut from
such a digest, so that one scaling event always gets one name.
-/

namespace RackOperator.Digest.Sha1

/-- The five words of the running digest. -/
structure Chain where
  a : UInt32
  b : UInt32
  c : UInt32
  d : UInt32
  e : UInt32

/-- The chain before the first block. -/
def Chain.start : Chain := ⟨0x67452301, 0xEFCDAB89, 0x98BADCFE, 0x10325476, 0xC3D2E1F0⟩

/-- Rotate a word left by fewer than 32 places. -/
def rotate (w : UInt32) (n : UInt32) : UInt32 := (w <<< n) ||| (w >>> (32 - n))

/-- A number's lowest bytes, most significant first. -/
def bigEndian (width n : Nat) : List UInt8 :=
  (List.range width).reverse.map fun i => (n >>> (8 * i)).toUInt8

/-- The message with its end mark, zeros and its length in bits, in whole blocks. -/
def padded (message : List UInt8) : List UInt8 :=
  let zeros := (64 - (message.length + 9) % 64) % 64
  message ++ 0x80 :: List.replicate zeros 0 ++ bigEndian 8 (message.length * 8)

/-- Bytes as words, most significant byte first. -/
def words : List UInt8 → List UInt32
  | a :: b :: c :: d :: rest =>
    ((a.toUInt32 <<< 24) ||| (b.toUInt32 <<< 16) ||| (c.toUInt32 <<< 8) ||| d.toUInt32)
      :: words rest
  | _ => []

/-- The word a round draws, from the last sixteen drawn. -/
def scheduled (block : Array UInt32) (n : Nat) : Array UInt32 :=
  (List.range n).foldl (fun ws _ =>
    let i := ws.size
    let earlier := fun back => ws.getD (i - back) 0
    ws.push (rotate (earlier 3 ^^^ earlier 8 ^^^ earlier 14 ^^^ earlier 16) 1)) block

/-- Mixing function and constant of a round. -/
def mixing (round : Nat) (b c d : UInt32) : UInt32 × UInt32 :=
  if round < 20 then ((b &&& c) ||| ((b ^^^ 0xFFFFFFFF) &&& d), 0x5A827999)
  else if round < 40 then (b ^^^ c ^^^ d, 0x6ED9EBA1)
  else if round < 60 then ((b &&& c) ||| (b &&& d) ||| (c &&& d), 0x8F1BBCDC)
  else (b ^^^ c ^^^ d, 0xCA62C1D6)

/-- One round. -/
def step (s : Chain) (round : Nat) (w : UInt32) : Chain :=
  let (f, k) := mixing round s.b s.c s.d
  ⟨rotate s.a 5 + f + s.e + k + w, s.a, rotate s.b 30, s.c, s.d⟩

/-- Mix one block of sixteen words into the chain. -/
def absorb (s : Chain) (block : List UInt32) : Chain :=
  let ws := scheduled block.toArray 64
  let t := (List.range 80).foldl (fun t i => step t i (ws.getD i 0)) s
  ⟨s.a + t.a, s.b + t.b, s.c + t.c, s.d + t.d, s.e + t.e⟩

/-- Mix a number of blocks of sixteen words. -/
def absorbAll : Nat → Chain → List UInt32 → Chain
  | 0, s, _ => s
  | n + 1, s, ws => absorbAll n (absorb s (ws.take 16)) (ws.drop 16)

/-- The bytes of a digest. -/
def Chain.bytes (s : Chain) : List UInt8 :=
  [s.a, s.b, s.c, s.d, s.e].flatMap fun w => bigEndian 4 w.toNat

/-- The digest of a message. -/
def digest (message : List UInt8) : List UInt8 :=
  let block := padded message
  (absorbAll (block.length / 64) Chain.start (words block)).bytes

end RackOperator.Digest.Sha1

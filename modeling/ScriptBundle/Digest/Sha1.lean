import ScriptBundle.Text.Utf8

/-! # SHA-1

The digest of 160 bits: the octets, padded to blocks of 64, are worked block by block into five words.
-/

namespace ScriptBundle.Sha1

structure Words where
  a : UInt32
  b : UInt32
  c : UInt32
  d : UInt32
  e : UInt32
  deriving DecidableEq, Repr

def initial : Words := ⟨0x67452301, 0xEFCDAB89, 0x98BADCFE, 0x10325476, 0xC3D2E1F0⟩

def rotate (x : UInt32) (n : UInt32) : UInt32 := (x <<< n) ||| (x >>> (32 - n))

def octetsOf (count n : Nat) : Octets :=
  (List.range count).map fun i => UInt8.ofNat (n / Nat.pow 256 (count - 1 - i) % 256)

def padded (octets : Octets) : Octets :=
  let length := octets.length
  octets ++ [0x80] ++ List.replicate ((119 - length % 64) % 64) 0 ++ octetsOf 8 (8 * length)

def wordOf (octets : Octets) : UInt32 :=
  octets.foldl (fun n b => (n <<< 8) ||| b.toUInt32) 0

def pieces (n : Nat) : Nat → Octets → List Octets
  | 0, _ => []
  | count + 1, octets => octets.take n :: pieces n count (octets.drop n)

def schedule (block : Octets) : Array UInt32 :=
  let first := ((pieces 4 16 block).map wordOf).toArray
  (List.range 64).foldl (fun w i =>
    let back (k : Nat) := w.getD (i + 16 - k) 0
    w.push (rotate (back 3 ^^^ back 8 ^^^ back 14 ^^^ back 16) 1)) first

def mix (round : Nat) (w : Words) : UInt32 × UInt32 :=
  if round < 20 then ((w.b &&& w.c) ||| (~~~w.b &&& w.d), 0x5A827999)
  else if round < 40 then (w.b ^^^ w.c ^^^ w.d, 0x6ED9EBA1)
  else if round < 60 then ((w.b &&& w.c) ||| (w.b &&& w.d) ||| (w.c &&& w.d), 0x8F1BBCDC)
  else (w.b ^^^ w.c ^^^ w.d, 0xCA62C1D6)

def absorb (w : Words) (block : Octets) : Words :=
  let schedule := schedule block
  let r := (List.range 80).foldl (fun v i =>
    let (f, k) := mix i v
    ⟨rotate v.a 5 + f + v.e + k + schedule.getD i 0, v.a, rotate v.b 30, v.c, v.d⟩) w
  ⟨w.a + r.a, w.b + r.b, w.c + r.c, w.d + r.d, w.e + r.e⟩

def words (octets : Octets) : Words :=
  let all := padded octets
  (pieces 64 (all.length / 64) all).foldl absorb initial

end ScriptBundle.Sha1

namespace ScriptBundle

def hexText (width n : Nat) : String :=
  let ds := Nat.toDigits 16 n
  String.ofList (List.replicate (width - ds.length) '0' ++ ds)

def sha1 (octets : Octets) : String :=
  let w := Sha1.words octets
  String.join ([w.a, w.b, w.c, w.d, w.e].map fun x => hexText 8 x.toNat)

end ScriptBundle

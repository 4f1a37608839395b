import ScriptBundle.Digest.Sha1

/-! # XXH3

The fast digest of 64 bits, without a seed. Short inputs are mixed with a fixed secret in one of five
ways according to their length; long ones run through eight lanes in stripes of 64 octets.
-/

namespace ScriptBundle.Xxh3

def secret : Array UInt8 := #[
  0xb8, 0xfe, 0x6c, 0x39, 0x23, 0xa4, 0x4b, 0xbe, 0x7c, 0x01, 0x81, 0x2c, 0xf7, 0x21, 0xad, 0x1c,
  0xde, 0xd4, 0x6d, 0xe9, 0x83, 0x90, 0x97, 0xdb, 0x72, 0x40, 0xa4, 0xa4, 0xb7, 0xb3, 0x67, 0x1f,
  0xcb, 0x79, 0xe6, 0x4e, 0xcc, 0xc0, 0xe5, 0x78, 0x82, 0x5a, 0xd0, 0x7d, 0xcc, 0xff, 0x72, 0x21,
  0xb8, 0x08, 0x46, 0x74, 0xf7, 0x43, 0x24, 0x8e, 0xe0, 0x35, 0x90, 0xe6, 0x81, 0x3a, 0x26, 0x4c,
  0x3c, 0x28, 0x52, 0xbb, 0x91, 0xc3, 0x00, 0xcb, 0x88, 0xd0, 0x65, 0x8b, 0x1b, 0x53, 0x2e, 0xa3,
  0x71, 0x64, 0x48, 0x97, 0xa2, 0x0d, 0xf9, 0x4e, 0x38, 0x19, 0xef, 0x46, 0xa9, 0xde, 0xac, 0xd8,
  0xa8, 0xfa, 0x76, 0x3f, 0xe3, 0x9c, 0x34, 0x3f, 0xf9, 0xdc, 0xbb, 0xc7, 0xc7, 0x0b, 0x4f, 0x1d,
  0x8a, 0x51, 0xe0, 0x4b, 0xcd, 0xb4, 0x59, 0x31, 0xc8, 0x9f, 0x7e, 0xc9, 0xd9, 0x78, 0x73, 0x64,
  0xea, 0xc5, 0xac, 0x83, 0x34, 0xd3, 0xeb, 0xc3, 0xc5, 0x81, 0xa0, 0xff, 0xfa, 0x13, 0x63, 0xeb,
  0x17, 0x0d, 0xdd, 0x51, 0xb7, 0xf0, 0xda, 0x49, 0xd3, 0x16, 0x55, 0x26, 0x29, 0xd4, 0x68, 0x9e,
  0x2b, 0x16, 0xbe, 0x58, 0x7d, 0x47, 0xa1, 0xfc, 0x8f, 0xf8, 0xb8, 0xd1, 0x7a, 0xd0, 0x31, 0xce,
  0x45, 0xcb, 0x3a, 0x8f, 0x95, 0x16, 0x04, 0x28, 0xaf, 0xd7, 0xfb, 0xca, 0xbb, 0x4b, 0x40, 0x7e]

def prime32a : UInt64 := 0x9E3779B1
def prime32b : UInt64 := 0x85EBCA77
def prime32c : UInt64 := 0xC2B2AE3D

def prime64a : UInt64 := 0x9E3779B185EBCA87
def prime64b : UInt64 := 0xC2B2AE3D27D4EB4F
def prime64c : UInt64 := 0x165667B19E3779F9
def prime64d : UInt64 := 0x85EBCA77C2B2AE63
def prime64e : UInt64 := 0x27D4EB2F165667C5

def wordAt (count : Nat) (octets : Array UInt8) (place : Nat) : UInt64 :=
  (List.range count).foldr (fun i n => (n <<< 8) ||| (octets.getD (place + i) 0).toUInt64) 0

def secretAt (place : Nat) : UInt64 := wordAt 8 secret place

def rotate (x n : UInt64) : UInt64 := (x <<< n) ||| (x >>> (64 - n))

def reverseOctets (x : UInt64) : UInt64 :=
  (List.range 8).foldl (fun n i => (n <<< 8) ||| ((x >>> UInt64.ofNat (8 * i)) &&& 0xFF)) 0

def foldedProduct (x y : UInt64) : UInt64 :=
  let p := x.toNat * y.toNat
  UInt64.ofNat p ^^^ UInt64.ofNat (p / UInt64.size)

def scatter (h : UInt64) : UInt64 :=
  let h := (h ^^^ (h >>> 37)) * 0x165667919E3779F9
  h ^^^ (h >>> 32)

def scatterShort (h : UInt64) : UInt64 :=
  let h := (h ^^^ (h >>> 33)) * prime64b
  let h := (h ^^^ (h >>> 29)) * prime64c
  h ^^^ (h >>> 32)

def pairAt (octets : Array UInt8) (place key : Nat) : UInt64 :=
  foldedProduct (wordAt 8 octets place ^^^ secretAt key)
    (wordAt 8 octets (place + 8) ^^^ secretAt (key + 8))

def upTo3 (octets : Array UInt8) : UInt64 :=
  let n := octets.size
  if n = 0 then scatterShort (secretAt 56 ^^^ secretAt 64)
  else
    let first := (octets.getD 0 0).toUInt64
    let middle := (octets.getD (n / 2) 0).toUInt64
    let last := (octets.getD (n - 1) 0).toUInt64
    let all := (first <<< 16) ||| (middle <<< 24) ||| last ||| (UInt64.ofNat n <<< 8)
    scatterShort (all ^^^ (wordAt 4 secret 0 ^^^ wordAt 4 secret 4))

def upTo8 (octets : Array UInt8) : UInt64 :=
  let n := octets.size
  let all := wordAt 4 octets (n - 4) + (wordAt 4 octets 0 <<< 32)
  let h := all ^^^ (secretAt 8 ^^^ secretAt 16)
  let h := (h ^^^ rotate h 49 ^^^ rotate h 24) * 0x9FB21C651E98DF25
  let h := (h ^^^ ((h >>> 35) + UInt64.ofNat n)) * 0x9FB21C651E98DF25
  h ^^^ (h >>> 28)

def upTo16 (octets : Array UInt8) : UInt64 :=
  let n := octets.size
  let low := wordAt 8 octets 0 ^^^ (secretAt 24 ^^^ secretAt 32)
  let high := wordAt 8 octets (n - 8) ^^^ (secretAt 40 ^^^ secretAt 48)
  scatter (UInt64.ofNat n + reverseOctets low + high + foldedProduct low high)

/-- Seventeen to 128 octets: pairs from both ends towards the middle. -/
def upTo128 (octets : Array UInt8) : UInt64 :=
  let n := octets.size
  let pairs := (List.range ((n - 1) / 32 + 1)).map fun i =>
    pairAt octets (16 * i) (32 * i) + pairAt octets (n - 16 * (i + 1)) (32 * i + 16)
  scatter (pairs.foldl (· + ·) (UInt64.ofNat n * prime64a))

def upTo240 (octets : Array UInt8) : UInt64 :=
  let n := octets.size
  let early := (List.range 8).map fun i => pairAt octets (16 * i) (16 * i)
  let late := (List.range (n / 16 - 8)).map fun i => pairAt octets (16 * (i + 8)) (16 * i + 3)
  let h := scatter (early.foldl (· + ·) (UInt64.ofNat n * prime64a))
  scatter (late.foldl (· + ·) h + pairAt octets (n - 16) 119)

abbrev Lanes := Array UInt64

def initialLanes : Lanes :=
  #[prime32c, prime64a, prime64b, prime64c, prime64d, prime32b, prime64e, prime32a]

def absorb (octets : Array UInt8) (place key : Nat) (lanes : Lanes) : Lanes :=
  Array.ofFn fun i : Fin 8 =>
    let k := wordAt 8 octets (place + 8 * i) ^^^ secretAt (key + 8 * i)
    lanes.getD i 0 + wordAt 8 octets (place + 8 * (i.val ^^^ 1)) + (k &&& (0xFFFFFFFF : UInt64)) * (k >>> 32)

def scramble (lanes : Lanes) : Lanes :=
  Array.ofFn fun i : Fin 8 =>
    let h := lanes.getD i 0
    (h ^^^ (h >>> 47) ^^^ secretAt (128 + 8 * i)) * prime32a

def absorbMany (octets : Array UInt8) (place count : Nat) (lanes : Lanes) : Lanes :=
  (List.range count).foldl (fun l i => absorb octets (place + 64 * i) (8 * i) l) lanes

def merge (lanes : Lanes) (n : Nat) : UInt64 :=
  scatter ((List.range 4).foldl (fun h i =>
    h + foldedProduct (lanes.getD (2 * i) 0 ^^^ secretAt (11 + 16 * i))
      (lanes.getD (2 * i + 1) 0 ^^^ secretAt (19 + 16 * i))) (UInt64.ofNat n * prime64a))

/-- More than 240 octets: blocks of sixteen stripes, the stripes behind the last full block, and the last
64 octets once more. -/
def long (octets : Array UInt8) : UInt64 :=
  let n := octets.size
  let blocks := (n - 1) / 1024
  let lanes := (List.range blocks).foldl
    (fun l i => scramble (absorbMany octets (1024 * i) 16 l)) initialLanes
  let lanes := absorbMany octets (1024 * blocks) ((n - 1 - 1024 * blocks) / 64) lanes
  merge (absorb octets (n - 64) 121 lanes) n

def digest (octets : Array UInt8) : UInt64 :=
  if octets.size ≤ 3 then upTo3 octets
  else if octets.size ≤ 8 then upTo8 octets
  else if octets.size ≤ 16 then upTo16 octets
  else if octets.size ≤ 128 then upTo128 octets
  else if octets.size ≤ 240 then upTo240 octets
  else long octets

end ScriptBundle.Xxh3

namespace ScriptBundle

def xxh3 (octets : Octets) : String := hexText 16 (Xxh3.digest octets.toArray).toNat

end ScriptBundle

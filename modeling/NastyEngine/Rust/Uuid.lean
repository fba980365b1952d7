import NastyEngine.Rust.Text

/-!
# `uuid::Uuid::new_v5`

SHA-1 of the namespace and the name, with the version and variant bits set.
-/

namespace NastyEngine.Rust

def rotateLeft (word count : UInt32) : UInt32 := (word <<< count) ||| (word >>> (32 - count))

structure Sha1State where
  a : UInt32 := 0x67452301
  b : UInt32 := 0xefcdab89
  c : UInt32 := 0x98badcfe
  d : UInt32 := 0x10325476
  e : UInt32 := 0xc3d2e1f0

def sha1Pad (message : List UInt8) : List UInt8 :=
  let zeros := (119 - message.length % 64) % 64
  let bits := 8 * message.length
  let length := [56, 48, 40, 32, 24, 16, 8, 0].map fun shift : Nat => UInt8.ofNat (bits >>> shift)
  message ++ [0x80] ++ List.replicate zeros 0 ++ length

def bigEndianWords : List UInt8 → List UInt32
  | w :: x :: y :: z :: rest =>
    ((w.toUInt32 <<< 24) ||| (x.toUInt32 <<< 16) ||| (y.toUInt32 <<< 8) ||| z.toUInt32) :: bigEndianWords rest
  | _ => []

def sha1Expand : Nat → List UInt32 → List UInt32
  | 0, words => words
  | n + 1, words =>
    let word := words.getD 2 0 ^^^ words.getD 7 0 ^^^ words.getD 13 0 ^^^ words.getD 15 0
    sha1Expand n (rotateLeft word 1 :: words)

def sha1Mix (index : Nat) (s : Sha1State) : UInt32 :=
  if index < 20 then ((s.b &&& s.c) ||| (~~~s.b &&& s.d)) + 0x5a827999
  else if index < 40 then (s.b ^^^ s.c ^^^ s.d) + 0x6ed9eba1
  else if index < 60 then ((s.b &&& s.c) ||| (s.b &&& s.d) ||| (s.c &&& s.d)) + 0x8f1bbcdc
  else (s.b ^^^ s.c ^^^ s.d) + 0xca62c1d6

def sha1Round (s : Sha1State) (step : UInt32 × Nat) : Sha1State :=
  { a := rotateLeft s.a 5 + sha1Mix step.2 s + s.e + step.1
    b := s.a
    c := rotateLeft s.b 30
    d := s.c
    e := s.d }

def sha1Block (s : Sha1State) (block : List UInt32) : Sha1State :=
  let mixed := (sha1Expand 64 block.reverse).reverse.zipIdx.foldl sha1Round s
  { a := s.a + mixed.a, b := s.b + mixed.b, c := s.c + mixed.c, d := s.d + mixed.d, e := s.e + mixed.e }

def sha1Blocks : Nat → Sha1State → List UInt32 → Sha1State
  | 0, s, _ => s
  | n + 1, s, words => sha1Blocks n (sha1Block s (words.take 16)) (words.drop 16)

def sha1 (message : List UInt8) : List UInt8 :=
  let padded := sha1Pad message
  let s := sha1Blocks (padded.length / 64) {} (bigEndianWords padded)
  [s.a, s.b, s.c, s.d, s.e].flatMap fun word : UInt32 =>
    [(word >>> 24).toUInt8, (word >>> 16).toUInt8, (word >>> 8).toUInt8, word.toUInt8]

def hexByte (byte : UInt8) : List Char := [Nat.digitChar (byte.toNat / 16), Nat.digitChar (byte.toNat % 16)]

def hyphenated (bytes : List UInt8) : String :=
  let part (start count : Nat) := ((bytes.drop start).take count).flatMap hexByte
  String.ofList (part 0 4 ++ '-' :: part 4 2 ++ '-' :: part 6 2 ++ '-' :: part 8 2 ++ '-' :: part 10 6)

theorem hyphenated_inside (uuid : List UInt8) : '/' ∉ (hyphenated uuid).toList := by
  have hex (n : Fin 16) : Nat.digitChar n ≠ '/' := by
    revert n
    decide
  have part (bytes : List UInt8) : '/' ∉ bytes.flatMap hexByte := by
    intro mem
    obtain ⟨byte, -, mem⟩ := List.mem_flatMap.mp mem
    have small := byte.toNat_lt
    rcases List.mem_cons.mp mem with eq | mem
    · exact hex ⟨byte.toNat / 16, by omega⟩ eq.symm
    · exact hex ⟨byte.toNat % 16, by omega⟩ (List.mem_singleton.mp mem).symm
  rw [hyphenated, String.toList_ofList]
  simp only [List.mem_append, List.mem_cons, part, false_or, or_false]
  decide

def newV5 (nspace : List UInt8) (name : List UInt8) : List UInt8 :=
  let digest := (sha1 (nspace ++ name)).take 16
  let versioned := digest.set 6 ((digest.getD 6 0 &&& 0x0f) ||| 0x50)
  versioned.set 8 ((digest.getD 8 0 &&& 0x3f) ||| 0x80)

end NastyEngine.Rust

import Mathlib.Algebra.Group.Nat.Defs

/-!
# The default hasher of the Rust standard library

SipHash with one round for each word and three at the end, and keys that are zero.
-/

namespace NastyEngine.Rust

structure SipState where
  v0 : BitVec 64
  v1 : BitVec 64
  v2 : BitVec 64
  v3 : BitVec 64
  deriving DecidableEq

namespace SipState

def init : SipState := ⟨0x736f6d6570736575, 0x646f72616e646f6d, 0x6c7967656e657261, 0x7465646279746573⟩

def compress (s : SipState) : SipState :=
  let a0 := s.v0 + s.v1
  let a2 := s.v2 + s.v3
  let a1 := s.v1.rotateLeft 13 ^^^ a0
  let a3 := s.v3.rotateLeft 16 ^^^ a2
  let b0 := a0.rotateLeft 32 + a3
  let b2 := a2 + a1
  ⟨b0, a1.rotateLeft 17 ^^^ b2, b2.rotateLeft 32, a3.rotateLeft 21 ^^^ b0⟩

def absorb (s : SipState) (word : BitVec 64) : SipState :=
  let next := compress { s with v3 := s.v3 ^^^ word }
  { next with v0 := next.v0 ^^^ word }

def finish (s : SipState) : BitVec 64 :=
  let last := compress (compress (compress { s with v2 := s.v2 ^^^ 0xff }))
  last.v0 ^^^ last.v1 ^^^ last.v2 ^^^ last.v3

end SipState

def littleEndian : List UInt8 → Nat
  | [] => 0
  | byte :: rest => byte.toNat + 256 * littleEndian rest

/-- Whole words are absorbed; what is left comes with the length. -/
def sipWords (length : Nat) (s : SipState) : List UInt8 → SipState
  | a :: b :: c :: d :: e :: f :: g :: h :: rest =>
    sipWords length (s.absorb (BitVec.ofNat 64 (littleEndian [a, b, c, d, e, f, g, h]))) rest
  | rest => s.absorb (BitVec.ofNat 64 (littleEndian rest + (length % 256) * 2 ^ 56))

def defaultHash (bytes : List UInt8) : BitVec 64 := (sipWords bytes.length .init bytes).finish

/-- What `str::hash` writes: the bytes and one that no text has. -/
def strHashBytes (s : String) : List UInt8 := s.toList.flatMap String.utf8EncodeChar ++ [0xff]

example : defaultHash [] = 15130871412783076140 := by decide +kernel

end NastyEngine.Rust

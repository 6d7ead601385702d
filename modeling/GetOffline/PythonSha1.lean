import Mathlib.Algebra.Group.Nat.Defs
import Mathlib.Data.List.Basic

set_option autoImplicit true

namespace Python

-- hashlib.sha1

structure Sha1State where
  a : BitVec 32
  b : BitVec 32
  c : BitVec 32
  d : BitVec 32
  e : BitVec 32

def Sha1State.initial : Sha1State :=
  ⟨0x67452301, 0xEFCDAB89, 0x98BADCFE, 0x10325476, 0xC3D2E1F0⟩

/-- The function of a round, and its constant. -/
def Sha1State.mix (round : Nat) (s : Sha1State) : BitVec 32 :=
  if round < 20 then (s.b &&& s.c ||| ~~~s.b &&& s.d) + 0x5A827999
  else if round < 40 then (s.b ^^^ s.c ^^^ s.d) + 0x6ED9EBA1
  else if round < 60 then (s.b &&& s.c ||| s.b &&& s.d ||| s.c &&& s.d) + 0x8F1BBCDC
  else (s.b ^^^ s.c ^^^ s.d) + 0xCA62C1D6

def Sha1State.next (round : Nat) (word : BitVec 32) (s : Sha1State) : Sha1State :=
  ⟨s.a.rotateLeft 5 + s.mix round + s.e + word, s.a, s.b.rotateLeft 30, s.c, s.d⟩

def Sha1State.add (s t : Sha1State) : Sha1State :=
  ⟨s.a + t.a, s.b + t.b, s.c + t.c, s.d + t.d, s.e + t.e⟩

/-- So many rounds; the window has the word of this round and the fifteen that follow it. -/
def sha1Rounds : Nat → Nat → List (BitVec 32) → Sha1State → Sha1State
  | 0, _, _, s => s
  | rounds + 1, round, window, s =>
    let word := window.getD 0 0
    let following :=
      (window.getD 13 0 ^^^ window.getD 8 0 ^^^ window.getD 2 0 ^^^ word).rotateLeft 1
    sha1Rounds rounds (round + 1) (window.drop 1 ++ [following]) (s.next round word)

def sha1Blocks : Nat → List (BitVec 32) → Sha1State → Sha1State
  | 0, _, s => s
  | blocks + 1, words, s =>
    sha1Blocks blocks (words.drop 16) (s.add (sha1Rounds 80 0 (words.take 16) s))

/-- The eight bytes of the number of bits, the highest first. -/
def sha1Length (bits : Nat) : List UInt8 :=
  [7, 6, 5, 4, 3, 2, 1, 0].map fun i => UInt8.ofNat (bits / 256 ^ i)

def sha1Padded (bytes : List UInt8) : List UInt8 :=
  bytes ++ 0x80 :: List.replicate ((119 - bytes.length % 64) % 64) 0 ++ sha1Length (8 * bytes.length)

def bigEndianWords : List UInt8 → List (BitVec 32)
  | a :: b :: c :: d :: bytes =>
    (a.toBitVec ++ b.toBitVec ++ c.toBitVec ++ d.toBitVec) :: bigEndianWords bytes
  | _ => []

def sha1State (bytes : List UInt8) : Sha1State :=
  let words := bigEndianWords (sha1Padded bytes)
  sha1Blocks (words.length / 16) words .initial

def hexWord (word : BitVec 32) : List Char :=
  [7, 6, 5, 4, 3, 2, 1, 0].map fun i => Nat.digitChar (word.toNat / 16 ^ i % 16)

/-- `hashlib.sha1(data).hexdigest()`. -/
def sha1Hex (bytes : List UInt8) : String :=
  let s := sha1State bytes
  String.ofList ([s.a, s.b, s.c, s.d, s.e].flatMap hexWord)

/-- `hashlib.sha1(text.encode("utf-8")).hexdigest()`. -/
def sha1Text (text : String) : String :=
  sha1Hex text.toUTF8.data.toList

theorem length_sha1Hex (bytes : List UInt8) : (sha1Hex bytes).length = 40 := by
  rw [sha1Hex, String.length_ofList]
  rfl

theorem length_sha1Text (text : String) : (sha1Text text).length = 40 :=
  length_sha1Hex _

example : sha1Hex [97, 98, 99] = "a9993e364706816aba3e25717850c26c9cd0d89d" := by decide +kernel

end Python

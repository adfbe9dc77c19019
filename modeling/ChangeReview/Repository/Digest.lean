import ChangeReview.Text.Utf8

/-!
# Digests

A digest stands for bytes of any length. It is the Secure Hash Algorithm 1: the bytes are padded to
blocks of 64, and each block stirs a state of five words in eighty rounds.

## Main definitions

- `Digest`: the state, which is the digest after the last block.
- `Digest.ofBytes`: the digest of bytes.
- `Digest.toText`, `Digest.abbreviated`: how it is written.
-/

namespace ChangeReview

/-- Five words that stand for bytes. -/
structure Digest where
  a : UInt32
  b : UInt32
  c : UInt32
  d : UInt32
  e : UInt32
  deriving DecidableEq, Repr

namespace Digest

/-- The state before the first block. -/
def initial : Digest := ⟨0x67452301, 0xefcdab89, 0x98badcfe, 0x10325476, 0xc3d2e1f0⟩

/-- The word with its bits moved `count` places to the left, those that leave it entering on the
right. -/
def rotate (count : UInt32) (word : UInt32) : UInt32 :=
  (word <<< count) ||| (word >>> (32 - count))

/-- The bytes of a block length that `count` bytes leave to fill, after the mark and before the
length. -/
def fillLength (count : Nat) : Nat := (119 - count % 64) % 64

/-- The eight bytes of a number, the highest first. -/
def lengthBytes (n : Nat) : Bytes :=
  [56, 48, 40, 32, 24, 16, 8, 0].map fun shift => UInt8.ofNat (n >>> shift)

/-- The bytes with a mark and their length in bits, in whole blocks. -/
def pad (bytes : Bytes) : Bytes :=
  bytes ++ 0x80 :: List.replicate (fillLength bytes.length) 0 ++ lengthBytes (8 * bytes.length)

/-- The words of bytes, four bytes each. -/
def words : Bytes → List UInt32
  | a :: b :: c :: d :: rest =>
    ((a.toUInt32 <<< 24) ||| (b.toUInt32 <<< 16) ||| (c.toUInt32 <<< 8) ||| d.toUInt32) ::
      words rest
  | _ => []

/-- The word that follows sixteen words of a block. -/
def nextWord (window : List UInt32) : UInt32 :=
  rotate 1 (window.getD 13 0 ^^^ window.getD 8 0 ^^^ window.getD 2 0 ^^^ window.getD 0 0)

/-- What a round mixes of three words, and its constant. -/
def mix (round : Nat) (b c d : UInt32) : UInt32 × UInt32 :=
  if round < 20 then ((b &&& c) ||| (~~~b &&& d), 0x5a827999)
  else if round < 40 then (b ^^^ c ^^^ d, 0x6ed9eba1)
  else if round < 60 then ((b &&& c) ||| (b &&& d) ||| (c &&& d), 0x8f1bbcdc)
  else (b ^^^ c ^^^ d, 0xca62c1d6)

/-- The state after a round with a word. -/
def step (round : Nat) (word : UInt32) (state : Digest) : Digest :=
  let (mixed, constant) := mix round state.b state.c state.d
  { a := rotate 5 state.a + mixed + state.e + constant + word
    b := state.a
    c := rotate 30 state.b
    d := state.c
    e := state.d }

/-- The state after `count` more rounds, of which the window holds the next sixteen words. -/
def rounds : Nat → List UInt32 → Digest → Digest
  | 0, _, state => state
  | count + 1, window, state =>
    rounds count (window.tail ++ [nextWord window])
      (step (79 - count) (window.headD 0) state)

/-- The state after a block of sixteen words. -/
def stir (state : Digest) (block : List UInt32) : Digest :=
  let after := rounds 80 block state
  ⟨state.a + after.a, state.b + after.b, state.c + after.c, state.d + after.d, state.e + after.e⟩

/-- The state after so many blocks. -/
def stirAll : Nat → List UInt32 → Digest → Digest
  | 0, _, state => state
  | count + 1, words, state => stirAll count (words.drop 16) (stir state (words.take 16))

/-- The digest of bytes. -/
def ofBytes (bytes : Bytes) : Digest :=
  let padded := words (pad bytes)
  stirAll (padded.length / 16) padded initial

/-- The four bytes of a word, the highest first. -/
def wordBytes (word : UInt32) : Bytes :=
  [(word >>> 24).toUInt8, (word >>> 16).toUInt8, (word >>> 8).toUInt8, word.toUInt8]

/-- The twenty bytes of the digest. -/
def toBytes (digest : Digest) : Bytes :=
  [digest.a, digest.b, digest.c, digest.d, digest.e].flatMap wordBytes

/-- A byte in two hexadecimal digits. -/
def byteText (b : UInt8) : Text := [Nat.digitChar (b.toNat / 16), Nat.digitChar (b.toNat % 16)]

/-- The digest in hexadecimal digits. -/
def toText (digest : Digest) : Text := digest.toBytes.flatMap byteText

/-- How many digits tell the objects of a repository apart. -/
def shortLength : Nat := 7

/-- The first digits. -/
def abbreviated (digest : Digest) : Text := digest.toText.take shortLength

end Digest

end ChangeReview

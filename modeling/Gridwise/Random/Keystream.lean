/-!
# A reproducible stream of random words

The stream is that of the ChaCha cipher with eight rounds: a block of sixteen words is
computed from a fixed row of constants, a key of eight words and a block counter, and the
blocks follow one another without end. The key is expanded from a 64-bit seed by a
congruential generator with a permuted output.
-/

namespace Gridwise

/-- A place in the stream: the key, the number of the next block and the words of the
    current one that are still to come. -/
structure Keystream where
  key : Vector UInt32 8
  block : UInt64
  pending : List UInt32

namespace Keystream

/-- Rotates a word toward its high end. -/
def rotateLeft (word : UInt32) (count : UInt32) : UInt32 :=
  (word <<< count) ||| (word >>> (32 - count))

/-- Rotates a word toward its low end. -/
def rotateRight (word : UInt32) (count : UInt32) : UInt32 :=
  (word >>> count) ||| (word <<< (32 - count))

/-- Mixes the words at four places of a block. -/
def quarterRound (words : Vector UInt32 16) (i j k l : Fin 16) : Vector UInt32 16 :=
  let a := words[i] + words[j]
  let d := rotateLeft (words[l] ^^^ a) 16
  let c := words[k] + d
  let b := rotateLeft (words[j] ^^^ c) 12
  let a := a + b
  let d := rotateLeft (d ^^^ a) 8
  let c := c + d
  let b := rotateLeft (b ^^^ c) 7
  (((words.set i a).set j b).set k c).set l d

/-- Mixes the four columns of a block and then its four diagonals. -/
def doubleRound (words : Vector UInt32 16) : Vector UInt32 16 :=
  let words := quarterRound words 0 4 8 12
  let words := quarterRound words 1 5 9 13
  let words := quarterRound words 2 6 10 14
  let words := quarterRound words 3 7 11 15
  let words := quarterRound words 0 5 10 15
  let words := quarterRound words 1 6 11 12
  let words := quarterRound words 2 7 8 13
  quarterRound words 3 4 9 14

/-- The words of a block before mixing: the text `expand 32-byte k`, the key, the counter
    with its low word first, and two zeros. -/
def blockInput (key : Vector UInt32 8) (block : UInt64) : Vector UInt32 16 :=
  #v[0x61707865, 0x3320646e, 0x79622d32, 0x6b206574,
     key[0], key[1], key[2], key[3], key[4], key[5], key[6], key[7],
     block.toUInt32, (block >>> 32).toUInt32, 0, 0]

/-- The words of a block: eight rounds of mixing, added to what was mixed. -/
def blockWords (key : Vector UInt32 8) (block : UInt64) : Vector UInt32 16 :=
  let input := blockInput key block
  let mixed := doubleRound (doubleRound (doubleRound (doubleRound input)))
  mixed.zipWith (· + ·) input

/-- One step of the generator that expands a seed. -/
def advanceSeed (seed : UInt64) : UInt64 := seed * 6364136223846793005 + 11634580027462260723

/-- The word that the expanding generator gives out in a state. -/
def seedWord (seed : UInt64) : UInt32 :=
  rotateRight (((seed >>> 18) ^^^ seed) >>> 27).toUInt32 (seed >>> 59).toUInt32

/-- The beginning of the stream of a seed. -/
def ofSeed (seed : UInt64) : Keystream where
  key := Vector.ofFn fun i => seedWord (Nat.repeat advanceSeed (i.val + 1) seed)
  block := 0
  pending := []

/-- The next word of the stream. -/
def word : StateM Keystream UInt32 := fun stream =>
  match stream.pending with
  | next :: rest => (next, { stream with pending := rest })
  | [] =>
      let words := blockWords stream.key stream.block
      (words[0], { stream with block := stream.block + 1, pending := words.toList.tail })

/-- The next two words of the stream as one, the first of them low. -/
def wideWord : StateM Keystream UInt64 := do
  let low ← word
  let high ← word
  return low.toUInt64 ||| (high.toUInt64 <<< 32)

end Keystream

end Gridwise

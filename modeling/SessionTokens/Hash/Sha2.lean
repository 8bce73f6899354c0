import SessionTokens.Endian
/-!
# SHA-2

The family of hash functions of FIPS 180-4. A message is padded to whole blocks of sixteen words;
each block is stretched to a schedule of words and mixed into a state of eight.

The members differ in the width of the words, in the rotations and in the constants. A `Variant`
gathers these, and `digest` is written once for all of them.
-/

namespace SessionTokens.Sha2

/-- What distinguishes the members of the family. -/
structure Variant (α : Type) where
  wordBytes : Nat
  ofBytes : Bytes → α
  toBytes : α → Bytes
  upperA : α → α
  upperE : α → α
  lowerOld : α → α
  lowerNew : α → α
  constants : List α
  start : List α
  outputBytes : Nat

variable {α : Type}

/-- The state: eight words. -/
structure State (α : Type) where
  a : α
  b : α
  c : α
  d : α
  e : α
  f : α
  g : α
  h : α

/-- The bytes of a block. -/
def Variant.blockBytes (v : Variant α) : Nat := 16 * v.wordBytes

/-- How many zeros stand between a message and its length. -/
def Variant.zeros (v : Variant α) (length : Nat) : Nat :=
  (2 * v.blockBytes - 1 - 2 * v.wordBytes - length % v.blockBytes) % v.blockBytes

/-- A message with a one bit, zeros and its length in bits, up to the end of a block. -/
def Variant.padded (v : Variant α) (message : Bytes) : Bytes :=
  message ++ 0x80 :: List.replicate (v.zeros message.length) 0
    ++ Endian.big (2 * v.wordBytes) (8 * message.length)

/-- The words of a block, the last one first. The first argument is their number. -/
def Variant.wordsBack (v : Variant α) : Nat → Bytes → List α → List α
  | 0, _, ws => ws
  | n + 1, bs, ws => wordsBack v n (bs.drop v.wordBytes) (v.ofBytes (bs.take v.wordBytes) :: ws)

/-- A schedule stretched by a number of words, the last one first. -/
def Variant.stretch [Add α] (v : Variant α) : Nat → List α → List α
  | 0, ws => ws
  | n + 1, ws =>
    match ws with
    | _ :: w1 :: _ :: _ :: _ :: _ :: w6 :: _ :: _ :: _ :: _ :: _ :: _ :: _ :: w14 :: w15 :: _ =>
      stretch v n ((v.lowerNew w1 + w6 + v.lowerOld w14 + w15) :: ws)
    | _ => ws

/-- One round: a word of the schedule and a constant are mixed into the state. -/
def Variant.round [Add α] [AndOp α] [XorOp α] [Complement α] (v : Variant α) (s : State α)
    (k w : α) : State α :=
  let choice := (s.e &&& s.f) ^^^ (~~~s.e &&& s.g)
  let majority := (s.a &&& s.b) ^^^ (s.a &&& s.c) ^^^ (s.b &&& s.c)
  let t := s.h + v.upperE s.e + choice + k + w
  ⟨t + v.upperA s.a + majority, s.a, s.b, s.c, s.d + t, s.e, s.f, s.g⟩

/-- The word-wise sum of two states. -/
def State.add [Add α] (s t : State α) : State α :=
  ⟨s.a + t.a, s.b + t.b, s.c + t.c, s.d + t.d, s.e + t.e, s.f + t.f, s.g + t.g, s.h + t.h⟩

/-- A block mixed into the state. -/
def Variant.mix [Add α] [AndOp α] [XorOp α] [Complement α] (v : Variant α) (s : State α)
    (block : Bytes) : State α :=
  let schedule := (v.stretch (v.constants.length - 16) (v.wordsBack 16 block [])).reverse
  s.add ((v.constants.zip schedule).foldl (fun s p => v.round s p.1 p.2) s)

/-- All blocks of a padded message mixed into the state. The first argument is their number. -/
def Variant.mixAll [Add α] [AndOp α] [XorOp α] [Complement α] (v : Variant α) :
    Nat → State α → Bytes → State α
  | 0, s, _ => s
  | n + 1, s, bs => mixAll v n (v.mix s (bs.take v.blockBytes)) (bs.drop v.blockBytes)

/-- The state before the first block. -/
def Variant.initial [Inhabited α] (v : Variant α) : State α :=
  let w := fun i => v.start.getD i default
  ⟨w 0, w 1, w 2, w 3, w 4, w 5, w 6, w 7⟩

/-- The words of a state in order. -/
def State.words (s : State α) : List α := [s.a, s.b, s.c, s.d, s.e, s.f, s.g, s.h]

/-- The hash of a message. -/
def Variant.digest [Inhabited α] [Add α] [AndOp α] [XorOp α] [Complement α] (v : Variant α)
    (message : Bytes) : Bytes :=
  let bs := v.padded message
  let last := v.mixAll (bs.length / v.blockBytes) v.initial bs
  (last.words.flatMap v.toBytes).take v.outputBytes

end SessionTokens.Sha2

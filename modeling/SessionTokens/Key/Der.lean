import SessionTokens.Endian
import SessionTokens.Text.Decimal
import SessionTokens.Time.Calendar
/-!
# DER

Keys and certificates are trees of tagged elements. Two readers are needed.

**The lenient reader** (`parse?`) is for telling what a file holds: it reads a whole tree and
keeps of it the identifiers, the sequences and the strings of bits and octets. It does not insist
on the shortest form of lengths, but it checks the content of some kinds of elements.

**The strict reader** (`element?`, `exactly?`) is for the keys themselves: it takes one element at
a time, of an expected tag and with the shortest length.
-/

namespace SessionTokens

/-- What matters of an element. -/
inductive Der
  | bits (content : Bytes)
  | octets (content : Bytes)
  | identifier (arcs : List Nat)
  | sequence (items : List Der)
  | other
deriving Repr

namespace Der

/-! ## Lengths and tags -/

/-- A number in groups of seven bits, all but the last with the high bit set. -/
def groups? (n : Nat) : Bytes → Option (Nat × Bytes)
  | [] => none
  | b :: rest =>
    let n := 128 * n + b.toNat % 128
    if b < 0x80 then some (n, rest) else groups? n rest

/-- The numbers of an identifier after its first byte; a group that is not ended makes it
malformed. The first argument bounds their count. -/
def arcs? : Nat → Bytes → Option (List Nat)
  | _, [] => some []
  | 0, _ => none
  | n + 1, bs =>
    match groups? 0 bs with
    | none => none
    | some (a, rest) => (arcs? n rest).map (a :: ·)

/-- The numbers of an identifier. The first byte holds the first two of them. -/
def identifier? : Bytes → Option (List Nat)
  | [] => none
  | b :: rest =>
    let n := b.toNat
    let first := if n < 40 then [0, n] else if n < 80 then [1, n - 40] else [2, n - 80]
    (arcs? rest.length rest).map (first ++ ·)

/-- The class bits and the constructed bit of a tag byte, and its number, which may go on in
further bytes. -/
def tag? : Bytes → Option ((Nat × Bool × Nat) × Bytes)
  | [] => none
  | b :: rest =>
    let shape := (b.toNat / 64, b.toNat / 32 % 2 = 1)
    if b.toNat % 32 = 31 then (groups? 0 rest).map fun p => ((shape.1, shape.2, p.1), p.2)
    else some ((shape.1, shape.2, b.toNat % 32), rest)

/-- A length in any form of up to eight bytes. -/
def length? : Bytes → Option (Nat × Bytes)
  | [] => none
  | b :: rest =>
    if b < 0x80 then some (b.toNat, rest)
    else
      let n := b.toNat - 0x80
      if 8 < n || rest.length < n then none
      else some (Endian.ofBig (rest.take n), rest.drop n)

/-! ## The lenient reader -/

/-- The characters of a printable string. -/
def isPrintable (b : UInt8) : Bool :=
  (0x30 ≤ b && b ≤ 0x39) || (0x41 ≤ b && b ≤ 0x5A) || (0x61 ≤ b && b ≤ 0x7A)
    || (Text.utf8 " '()+,-./:=?").contains b

/-- The number that ASCII digits denote. -/
def decimal? (bs : Bytes) : Option Nat :=
  if bs.all Text.isDigit then some (Text.ofDigits bs) else none

/-- The number of the two digits at a place. -/
def twoDigits? (bs : Bytes) (place : Nat) : Option Nat := decimal? ((bs.drop place).take 2)

/-- Whether ten bytes are a month, a day, an hour, a minute and a second of two digits each, which
exist in a year. -/
def isMoment (year : Int) (bs : Bytes) : Bool :=
  bs.length = 10 &&
    match (List.range 5).mapM fun i => twoDigits? bs (2 * i) with
    | some [month, day, hour, minute, second] =>
      (Calendar.Date.mk year month day).isValid && hour < 24 && minute < 60 && second < 60
    | _ => false

/-- The year that two digits stand for: one from 1950 to 2049. -/
def shortYear (n : Nat) : Int := if 50 ≤ n then 1900 + n else 2000 + n

/-- Whether bytes are a moment with two digits for its year, in UTC and to the second. -/
def isShortTime (bs : Bytes) : Bool :=
  bs.length = 13 && bs.getLast? == some 0x5A &&
    match twoDigits? bs 0 with
    | some n => isMoment (shortYear n) ((bs.drop 2).take 10)
    | none => false

/-- The year of four digits at the start, which may have a sign, and the rest. -/
def longYear? (bs : Bytes) : Option (Int × Bytes) :=
  let signed := bs.head? == some 0x2B || bs.head? == some 0x2D
  let digits := if signed then bs.drop 1 else bs
  if digits.length < 4 then none
  else
    (decimal? (digits.take 4)).map fun n =>
      (if bs.head? == some 0x2D then -(n : Int) else n, digits.drop 4)

/-- A long time in full: with a point behind the second, and with zeros before its last character
up to a length of twenty-five. -/
def fullTime (bs : Bytes) : Bytes :=
  let pointed := if bs.contains 0x2E then bs else bs.take 14 ++ 0x2E :: bs.drop 14
  pointed.dropLast ++ List.replicate (25 - pointed.length) 0x30 ++ pointed.drop (pointed.length - 1)

/-- Whether bytes are a moment with four digits for its year and any number of them for the
fraction of a second, in UTC. The point and the fraction may be missing. -/
def isLongTime (bs : Bytes) : Bool :=
  15 ≤ bs.length && bs.all (· < 0x80) &&
    match longYear? (fullTime bs) with
    | none => false
    | some (year, rest) =>
      let fraction := (rest.drop 11).dropLast
      isMoment year (rest.take 10) && rest[10]? == some 0x2E && fraction ≠ []
        && fraction.all Text.isDigit && rest.getLast? == some 0x5A

/-- Whether the content of an element without parts is well-formed, as far as that is checked. -/
def isSound (number : Nat) (content : Bytes) : Bool :=
  match number with
  | 0x01 => content.length = 1
  | 0x0C => (Text.ofUtf8? content).isSome
  | 0x13 => content.all isPrintable
  | 0x14 => (Text.ofUtf8? content).isSome
  | 0x17 => isShortTime content
  | 0x18 => isLongTime content
  | 0x1C => (Text.ofUtf8? content).isSome
  | 0x1E => (Text.ofUtf8? content).isSome
  | _ => true

/-- The content of a string of bits: its first byte tells how many bits at the end are unused. -/
def bits? : Bytes → Option Bytes
  | [] => some []
  | unused :: content => if 8 * content.length < unused.toNat then none else some content

/-- An element of the universal class without parts. -/
def plain? (number : Nat) (content : Bytes) : Option Der :=
  match number with
  | 0x03 => (bits? content).map .bits
  | 0x04 => some (.octets content)
  | 0x06 => (identifier? content).map .identifier
  | _ => if isSound number content then some .other else none

/-- All elements of a byte string, of which there has to be one. The first argument bounds the
depth of the recursion; the length of the byte string is enough. -/
def items? : Nat → Bytes → Option (List Der)
  | 0, _ => none
  | n + 1, bs =>
    match tag? bs with
    | none => none
    | some ((shape, _, number), rest) =>
      match length? rest with
      | none => none
      | some (length, rest) =>
        if rest.length < length then none
        else
          let content := rest.take length
          let item : Option Der :=
            if shape = 0 then
              if number = 0x10 then (items? n content).map .sequence
              else if number = 0x11 then (items? n content).map fun _ => .other
              else plain? number content
            else some .other
          match item, rest.drop length with
          | none, _ => none
          | some v, [] => some [v]
          | some v, rest => (items? n rest).map (v :: ·)

/-- Reads a byte string leniently as a list of elements. -/
def parse? (bs : Bytes) : Option (List Der) := items? (bs.length + 1) bs

mutual

/-- The identifiers of a tree from left to right, inside sequences. -/
def identifiers : Der → List (List Nat)
  | .identifier arcs => [arcs]
  | .sequence items => identifiersOf items
  | _ => []

/-- The identifiers of several trees. -/
def identifiersOf : List Der → List (List Nat)
  | [] => []
  | d :: ds => identifiers d ++ identifiersOf ds

end

mutual

/-- The strings of bits and octets of a tree from left to right, inside sequences. -/
def strings : Der → List Bytes
  | .bits content => [content]
  | .octets content => [content]
  | .sequence items => stringsOf items
  | _ => []

/-- The strings of several trees. -/
def stringsOf : List Der → List Bytes
  | [] => []
  | d :: ds => strings d ++ stringsOf ds

end

/-! ## The strict reader -/

/-- A length in its shortest form. -/
def shortLength? : Bytes → Option (Nat × Bytes)
  | [] => none
  | b :: rest =>
    if b < 0x80 then some (b.toNat, rest)
    else
      let n := b.toNat - 0x80
      if n = 0 || 4 < n || rest.length < n then none
      else
        let length := Endian.ofBig (rest.take n)
        if length < 0x80 || length < Nat.pow 256 (n - 1) then none else some (length, rest.drop n)

/-- The tag bytes of the universal class that may occur. -/
def universalTags : Bytes :=
  [0x01, 0x02, 0x03, 0x04, 0x05, 0x06, 0x09, 0x0A, 0x0C, 0x12, 0x13, 0x14, 0x15, 0x16, 0x17, 0x18,
   0x1A, 0x1E, 0x30, 0x31]

/-- Whether a byte is the tag of an element: one of the universal class that may occur, or one of
another class with a number in the tag byte itself. -/
def isTag (b : UInt8) : Bool := if b < 0x40 then universalTags.contains b else b.toNat % 32 ≠ 31

/-- The tag and the content of the element at the start of a byte string, and the rest. -/
def anyElement? : Bytes → Option (UInt8 × Bytes × Bytes)
  | [] => none
  | b :: rest =>
    if !isTag b then none
    else
      match shortLength? rest with
      | none => none
      | some (length, rest) =>
        if rest.length < length then none else some (b, rest.take length, rest.drop length)

/-- The content of the element of a given tag at the start of a byte string, and the rest. -/
def element? (tag : UInt8) (bs : Bytes) : Option (Bytes × Bytes) := do
  let (found, content, rest) ← anyElement? bs
  if found = tag then some (content, rest) else none

/-- The content of the element that a byte string consists of. -/
def exactly? (tag : UInt8) (bs : Bytes) : Option Bytes :=
  match element? tag bs with
  | some (content, []) => some content
  | _ => none

/-- The number of a tag byte of the context class: one of the numbered parts that may be missing. -/
def partNumber? (b : UInt8) : Option Nat :=
  if b.toNat / 64 = 2 then some (b.toNat % 32) else none

/-- The part of a given number: its tag and its content, and the rest behind it. Parts of smaller
numbers are skipped. If anything else comes first, or nothing, there is no such part. The first
argument bounds the number of skipped parts; the length of the byte string is enough. -/
def part? (number : Nat) : Nat → Bytes → Option (Option (UInt8 × Bytes) × Bytes)
  | _, [] => some (none, [])
  | 0, _ => none
  | n + 1, b :: rest =>
    if !isTag b then none
    else
      match partNumber? b with
      | none => some (none, b :: rest)
      | some m =>
        if number < m then some (none, b :: rest)
        else do
          let (tag, content, after) ← anyElement? (b :: rest)
          if m = number then some (some (tag, content), after) else part? number n after

/-- Whether a byte string is a run of parts, each of which holds exactly one element. The first
argument bounds their number; the length of the byte string is enough. -/
def areParts : Nat → Bytes → Bool
  | _, [] => true
  | 0, _ => false
  | n + 1, bs =>
    match anyElement? bs with
    | none => false
    | some (tag, content, rest) =>
      tag.toNat / 32 = 5 && (anyElement? content).any (fun e => e.2.2.isEmpty) && areParts n rest

/-- The most bytes of a number in an identifier. -/
def maxArcBytes : Nat := 6

/-- Whether an identifier's bytes behind the first are numbers that are ended and not too long: a
last possible byte has to be below sixteen. The first argument counts the bytes of the number so
far. -/
def areArcs : Nat → Bytes → Bool
  | n, [] => n = 0
  | n, b :: rest =>
    if n + 1 = maxArcBytes && 0x10 ≤ b then false
    else if b < 0x80 then areArcs 0 rest
    else areArcs (n + 1) rest

/-- Whether the content of an element is an identifier, of 3 to 39 bytes. -/
def isIdentifier (content : Bytes) : Bool :=
  match content with
  | [] => false
  | b :: rest => b < 120 && 2 ≤ rest.length && rest.length ≤ 38 && areArcs 0 rest

/-- The whole number at the start of a byte string, not negative and in its shortest form, and
the rest. -/
def natural? (bs : Bytes) : Option (Nat × Bytes) := do
  let (content, rest) ← element? 0x02 bs
  match content with
  | [] => none
  | [b] => if b < 0x80 then some (b.toNat, rest) else none
  | b :: c :: _ =>
    if 0x80 ≤ b || (b = 0 && c < 0x80) then none else some (Endian.ofBig content, rest)

/-- Several whole numbers one after another, to the end of a byte string. -/
def naturals? : Nat → Bytes → Option (List Nat)
  | 0, bs => if bs = [] then some [] else none
  | n + 1, bs => do
    let (k, rest) ← natural? bs
    return k :: (← naturals? n rest)

/-- The bytes of a string of bits whose bits make up whole bytes. -/
def wholeBytes? : Bytes → Option Bytes
  | 0 :: bytes => some bytes
  | _ => none

end Der

end SessionTokens

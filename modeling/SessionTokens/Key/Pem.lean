import SessionTokens.Base64
import SessionTokens.Text.Blank
/-!
# PEM

Key files hold DER in base64 between a line that begins a block and one that ends it. Only the
first block of a file counts; text before it is skipped. A block may open with header lines, each
with a colon, up to an empty line.

Blanks may stand anywhere in the base64. Words are looked for in one pass that never goes back, so
a sixth dash in front of a block hides the word that begins it.
-/

namespace SessionTokens

/-- A block: its label and its content. -/
structure Pem where
  label : String
  content : Bytes
deriving DecidableEq, Repr

namespace Pem

/-- Reads on to the end of a word of which `left` is still to come: the text up to there and the
rest. A character that breaks an occurrence off is passed over: it begins no occurrence itself. -/
def pastWord? (word left : List Char) (cs : List Char) : Option (List Char × List Char) :=
  match left, cs with
  | [], cs => some ([], cs)
  | _ :: _, [] => none
  | w :: left, c :: rest =>
    (pastWord? word (if c = w then left else word) rest).map fun p => (c :: p.1, p.2)

/-- The text before the first occurrence of a word, and the text after it. -/
def cutWord (word cs : List Char) : Option (List Char × List Char) :=
  (pastWord? word word cs).map fun p => (p.1.take (p.1.length - word.length), p.2)

/-- The lines of a text. The last line need not be ended. -/
def lines : List Char → List (List Char)
  | [] => []
  | c :: rest =>
    if c = '\n' then [] :: lines rest
    else
      match lines rest with
      | [] => [[c]]
      | l :: ls => (c :: l) :: ls

/-- The characters that may stand between the beginning of a block and its text. -/
def isGap (c : Char) : Bool := c = ' ' || c = '\n' || c = '\r' || c = '\t'

/-- The header text and the data of a block's body. -/
def splitBody (body : List Char) : List Char × List Char :=
  match cutWord ['\n', '\n'] body with
  | some p => p
  | none =>
    match cutWord ['\r', '\n', '\r', '\n'] body with
    | some p => p
    | none => ([], body)

/-- Reads the first block of a text. -/
def parse? (text : String) : Option Pem := do
  let dashes := "-----".toList
  let (_, rest) ← cutWord "-----BEGIN ".toList text.toList
  let (label, rest) ← cutWord dashes rest
  let (body, rest) ← cutWord "-----END ".toList (rest.dropWhile isGap)
  let (closing, _) ← cutWord dashes rest
  let (headers, data) := splitBody body
  if label = [] || label ≠ closing then none
  else if !((lines headers).all fun l => l.contains ':') then none
  else
    let symbols := data.filter fun c => !Text.isBlank c
    let content ← Base64.decode? .standard (Text.utf8 (String.ofList symbols))
    return ⟨String.ofList label, content⟩

end Pem

end SessionTokens

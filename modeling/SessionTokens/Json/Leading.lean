import SessionTokens.Json.Read
/-!
# The beginning of a structure

A structure is read field by field, so what is wrong with an early field shows even if the text is
malformed further on. Here the fields of a text are found one after another, each as the text from
its value on, up to the first place where the text is malformed.
-/

namespace SessionTokens.Json

/-- The value at the start of a text, and the rest. -/
def first? (bs : Bytes) : Option (Json × Bytes) := valueAt? (2 * bs.length + 1) bs

/-- The text behind the value at the start of a text and a comma. -/
def afterValue? (bs : Bytes) : Option Bytes := do
  let (_, rest) ← first? bs
  after? [0x2C] (skip rest)

/-- The name of the member at the start of a text, and the text from its value on. -/
def memberName? (bs : Bytes) : Option (String × Bytes) := do
  let (raw, rest) ← stringEnd? (← after? [0x22] (skip bs))
  return (← rawText? raw, ← after? [0x3A] (skip rest))

/-- The members of an object after its opening brace. The first argument bounds their number; the
length of the text is enough. -/
def leadingMembers : Nat → Bytes → List (String × Bytes)
  | 0, _ => []
  | n + 1, bs =>
    match memberName? bs with
    | none => []
    | some (name, text) =>
      (name, text) :: match afterValue? text with
        | none => []
        | some rest => leadingMembers n rest

/-- The elements of an array after its opening bracket, each under a name. -/
def leadingItems : List String → Bytes → List (String × Bytes)
  | [], _ => []
  | name :: names, text =>
    (name, text) :: match afterValue? text with
      | none => []
      | some rest => leadingItems names rest

/-- The fields of a structure in the order in which they are written. An array holds them in the
order of their names. -/
def leadingFields (names : List String) (bs : Bytes) : List (String × Bytes) :=
  match skip bs with
  | 0x7B :: rest => leadingMembers rest.length rest
  | 0x5B :: rest => leadingItems names rest
  | _ => []

end SessionTokens.Json

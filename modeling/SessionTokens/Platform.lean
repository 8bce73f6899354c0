import SessionTokens.Text.Blank
/-!
# Platforms

The platform of a device is told from its user agent: the first entry of the first comment, or
else the name of the first product. A comment stands in parentheses, its entries are separated by
semicolons; products are words, with a version after a slash.
-/

namespace SessionTokens.Platform

/-- The platform of a user agent that names none. -/
def unknown : String := "unknown"

/-- The text inside the first pair of parentheses. -/
def comment? (cs : List Char) : Option (List Char) := do
  let opened ← (Text.cut '(' cs).2
  let (inside, closed) := Text.cut ')' opened
  if closed.isSome then some inside else none

/-- The first entry of the first comment, if it is not blank. -/
def commentEntry? (cs : List Char) : Option (List Char) := do
  let entry := Text.trim (Text.cut ';' (← comment? cs)).1
  if entry = [] then none else some entry

/-- The first word. -/
def firstWord (cs : List Char) : List Char :=
  (Text.trimStart cs).takeWhile fun c => !Text.isBlank c

/-- The name of the first product, if the first word is one. -/
def product? (cs : List Char) : Option (List Char) :=
  match (Text.cut '/' (firstWord cs)).1 with
  | [] => none
  | c :: name => if c = '(' then none else some (c :: name)

/-- The platform of a user agent. -/
def ofUserAgent (userAgent : String) : String :=
  let cs := userAgent.toList
  match commentEntry? cs with
  | some entry => String.ofList entry
  | none =>
    match product? cs with
    | some name => String.ofList name
    | none => unknown

end SessionTokens.Platform

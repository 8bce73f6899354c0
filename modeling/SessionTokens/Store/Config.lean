import SessionTokens.Json.Read
import SessionTokens.Store.Commit
import SessionTokens.Text.Visible
/-!
# Configuration of a store

A configuration names the medium: memory, or a file with its path. In JSON it is an object whose
member `type` tells which, or an array that begins with that word.

Also here: how stores are shown in logs.
-/

namespace SessionTokens

namespace Medium

/-- A medium as a JSON object. -/
def toJson : Medium → Json
  | memory => .ofFields [("type", .text "memory")]
  | file path => .ofFields [("type", .text "file"), ("path", .text path)]

/-- The medium that members of an object give. Members beside the word for memory are skipped; a
file has its path and nothing more. -/
def ofMembers? (ms : List (String × Json)) : Option Medium := do
  let word ← Json.needed? Json.text? (← Json.only? ms "type")
  if word = "memory" then some memory
  else if word = "file" && ms.all fun m => m.1 == "type" || m.1 == "path" then
    (Json.needed? Json.text? (← Json.only? ms "path")).map file
  else none

/-- Reads a medium, of which so many arrays and objects may be nested. -/
def ofJson? (depth : Nat) : Json → Option Medium
  | .array [word] => if word.text? = some "memory" then some memory else none
  | .array [word, path] => if word.text? = some "file" then path.text?.map file else none
  | v => (Json.openMembers? depth v).bind ofMembers?

end Medium

/-! ## Shown in logs -/

/-- A character of a path as it is shown between quotation marks: quotes, backslashes and all
characters that are not visible are escaped. -/
def shownChar (c : Char) : List Char :=
  if c = '"' || c = '\'' || c = '\\' then ['\\', c]
  else if c = '\t' then ['\\', 't']
  else if c = '\n' then ['\\', 'n']
  else if c = '\r' then ['\\', 'r']
  else if c = '\x00' then ['\\', '0']
  else if Text.isVisible c then [c]
  else ("\\u\x7b" ++ String.ofList (Nat.toDigits 16 c.toNat) ++ "\x7d").toList

/-- A path between quotation marks. -/
def shownPath (path : String) : String :=
  "\"" ++ String.ofList (path.toList.flatMap shownChar) ++ "\""

namespace Store

/-- Whether a store has no file. -/
def isMemory (s : Store) : Bool := s.medium = .memory

/-- A store as it is shown in short. -/
def shown (s : Store) : String :=
  match s.medium with
  | .memory => "Backend::Memory"
  | .file path => "Backend::File(" ++ path ++ ")"

/-- A store as it is shown with its parts. -/
def shownInFull (s : Store) : String :=
  match s.medium with
  | .memory =>
    "MemoryBackend \x7b persistent: false, limits: SizeLimits \x7b max_key_size: "
      ++ Text.digitsText s.limits.key ++ ", max_value_size: " ++ Text.digitsText s.limits.value
      ++ " \x7d, .. \x7d"
  | .file path => "FileBackend \x7b path: " ++ shownPath path ++ ", .. \x7d"

/-- A transaction on sessions as it is shown. -/
def shownTxn : String := "SessionTxn \x7b .. \x7d"

/-- Opens the store of a medium with the usual limits. -/
def ofMedium (m : Medium) (files : FileTree) (clock : Clock) : Traced (Halt StorageError) Store :=
  match m with
  | .memory => pure (inMemory .default)
  | .file path => Site.openFile files path .default clock

end Store

end SessionTokens

import SessionTokens.Base64
import SessionTokens.Json.Read
import SessionTokens.Trace
/-!
# Access grants

A session carries two lists of grants, for namespaces and for volumes. A list is stored as one
text: its JSON array in base64.

A stored text that is not such a list stands for no grants; that is noted as a warning. The empty
text stands for no grants without a warning.
-/

namespace SessionTokens

/-- A grant: what it is for, its label, and the access it gives. -/
structure Grant where
  id : String
  label : String
  access : String
deriving DecidableEq, Repr

namespace Grant

/-- Why a text is no stored list. -/
inductive Fault
  | base64
  | list
deriving DecidableEq, Repr

/-- The wording of a fault. -/
def Fault.message : Fault → String
  | base64 => "Access grant blob is not valid base64"
  | list => "Access grant blob is not a grant list"

/-- A grant as a JSON object. -/
def toJson (g : Grant) : Json :=
  .ofFields [("id", .text g.id), ("label", .text g.label), ("access", .text g.access)]

/-- Reads a grant. Members that are no fields are skipped. -/
def ofJson? (v : Json) : Option Grant := do
  match ← v.fields? ["id", "label", "access"] false 3 with
  | [id, label, access] =>
    return ⟨← Json.needed? Json.text? id, ← Json.needed? Json.text? label,
      ← Json.needed? Json.text? access⟩
  | _ => none

/-- The JSON array of a list of grants. -/
def listJson (gs : List Grant) : Bytes := Json.render (.array (gs.map toJson))

/-- The stored text of a list of grants. -/
def store (gs : List Grant) : String := Text.ascii (Base64.encode .standard (listJson gs))

/-- The list of grants that a JSON array holds. -/
def listOfJson? (bs : Bytes) : Option (List Grant) := do
  let items ← (← Json.parse? bs).items?
  items.mapM ofJson?

/-- Reads a stored text that is not empty. -/
def decode (text : String) : Except Fault (List Grant) :=
  match Base64.decode? .standard (Text.utf8 text) with
  | none => .error .base64
  | some bs =>
    match listOfJson? bs with
    | none => .error .list
    | some gs => .ok gs

/-- The grants that a stored text stands for. -/
def load {ε : Type} (text : String) : Traced ε (List Grant) :=
  if text.isEmpty then pure []
  else
    match decode text with
    | .ok gs => pure gs
    | .error fault => do
      Traced.note .warn fault.message []
      return []

end Grant

end SessionTokens

/-
Everything that is known about the availability of one API.

A record has a set of slots for each of the four kinds of fact, and perhaps a
message of the author. It states something as soon as one slot does or a
message is present, even an empty one.
-/
import ApiAvailability.SlotSet
set_option autoImplicit false

namespace ApiAvailability

/-- A kind of fact about availability. -/
inductive FactKind where
  /-- The first version that has the API. -/
  | introduced
  /-- The version from which the API is discouraged. -/
  | deprecated
  /-- The version from which the API may be gone. -/
  | obsoleted
  /-- The API cannot be used. -/
  | unavailable
  deriving DecidableEq

namespace FactKind

/-- The four kinds, in the order in which they are listed. -/
def all : List FactKind := [introduced, deprecated, obsoleted, unavailable]

/-- The name of the kind, in attributes and in JSON. -/
def name : FactKind → String
  | introduced => "Introduced"
  | deprecated => "Deprecated"
  | obsoleted => "Obsoleted"
  | unavailable => "Unavailable"

/-- The kind with this name. -/
def ofName? : String → Option FactKind
  | "Introduced" => some introduced
  | "Deprecated" => some deprecated
  | "Obsoleted" => some obsoleted
  | "Unavailable" => some unavailable
  | _ => none

@[simp] theorem ofName?_name (k : FactKind) : ofName? k.name = some k := by
  cases k <;> rfl

/-- The kind as a JSON value. -/
def toJson (k : FactKind) : Json := .str k.name

/-- Reads a kind. -/
def decode : Decoder FactKind := .choice ofName?

end FactKind

/-- What is known about the availability of an API. -/
structure Record where
  introduced : SlotSet
  deprecated : SlotSet
  obsoleted : SlotSet
  unavailable : SlotSet
  /-- What the author says about it. -/
  message : Option String
  deriving DecidableEq

namespace Record

/-- The record that states nothing. -/
def empty : Record := ⟨.empty, .empty, .empty, .empty, none⟩

/-! ## Looking at records -/

/-- The slots of a kind. -/
def facts (r : Record) : FactKind → SlotSet
  | .introduced => r.introduced
  | .deprecated => r.deprecated
  | .obsoleted => r.obsoleted
  | .unavailable => r.unavailable

/-- The slot of a kind for a platform. -/
def slot (r : Record) (k : FactKind) (p : Platform) : Option Slot := (r.facts k).get p

/-- Whether the record states a fact of a kind for a platform. -/
def isSpecifiedFor (r : Record) (k : FactKind) (p : Platform) : Bool :=
  (r.facts k).isSpecifiedFor p

/-- Whether the record states a fact or has a message. -/
def isSpecified (r : Record) : Bool :=
  FactKind.all.any (fun k => (r.facts k).isSpecified) || r.message.isSome

/-! ## Adding to records -/

/-- The record with other slots of a kind. -/
def setFacts (r : Record) (k : FactKind) (t : SlotSet) : Record :=
  match k with
  | .introduced => { r with introduced := t }
  | .deprecated => { r with deprecated := t }
  | .obsoleted => { r with obsoleted := t }
  | .unavailable => { r with unavailable := t }

/-- The record whose slots of a kind are combined with more of them. -/
def addFacts (policy : ConflictPolicy) (r : Record) (k : FactKind) (t : SlotSet) : Record :=
  r.setFacts k ((r.facts k).merge policy t)

/-- The record whose message is followed by another one. -/
def appendMessage (r : Record) (text : String) : Record :=
  { r with message := some (match r.message with
      | some present => present ++ "; " ++ text
      | none => text) }

theorem facts_setFacts (r : Record) (k l : FactKind) (t : SlotSet) :
    (r.setFacts k t).facts l = if l = k then t else r.facts l := by
  cases k <;> cases l <;> rfl

@[simp] theorem message_setFacts (r : Record) (k : FactKind) (t : SlotSet) :
    (r.setFacts k t).message = r.message := by
  cases k <;> rfl

/-- Facts of a kind are combined with what is there, and other kinds stay. -/
theorem facts_addFacts (policy : ConflictPolicy) (r : Record) (k l : FactKind) (t : SlotSet) :
    (r.addFacts policy k t).facts l = if l = k then (r.facts k).merge policy t else r.facts l :=
  facts_setFacts r k l _

@[simp] theorem message_addFacts (policy : ConflictPolicy) (r : Record) (k : FactKind)
    (t : SlotSet) : (r.addFacts policy k t).message = r.message :=
  message_setFacts r k _

@[simp] theorem facts_appendMessage (r : Record) (text : String) (k : FactKind) :
    (r.appendMessage text).facts k = r.facts k := by
  cases k <;> rfl

/-! ## As text -/

/-- The text with a backslash before each quote. -/
def escapeQuotes (s : String) : String :=
  String.ofList (s.toList.flatMap fun c => if c = '"' then ['\\', '"'] else [c])

/-- The parts of the summary: the kinds that state something, and then the
message unless it is empty. -/
def summaryParts (r : Record) : List String :=
  (FactKind.all.filter fun k => (r.facts k).isSpecified).map
      (fun k => k.name ++ " = " ++ (r.facts k).display) ++
    ((r.message.filter (· ≠ "")).map fun m => "Message = \"" ++ escapeQuotes m ++ "\"").toList

/-- The record as the attribute that would state it. -/
def display (r : Record) : String :=
  match r.summaryParts with
  | [] => "[Availability]"
  | parts => "[Availability (" ++ ", ".intercalate parts ++ ")]"

/-! ## As JSON -/

/-- The record as a JSON value. -/
def toJson (r : Record) : Json :=
  .obj [("introduced", r.introduced.toJson), ("deprecated", r.deprecated.toJson),
    ("obsoleted", r.obsoleted.toJson), ("unavailable", r.unavailable.toJson),
    ("message", Json.orNull .str r.message)]

/-- Reads a record. Only by name can the message be left out. -/
def decode : Decoder Record :=
  .structured ["introduced", "deprecated", "obsoleted", "unavailable", "message"] fun levels f => do
    let introduced ← f.required "introduced" (SlotSet.decode levels)
    let deprecated ← f.required "deprecated" (SlotSet.decode levels)
    let obsoleted ← f.required "obsoleted" (SlotSet.decode levels)
    let unavailable ← f.required "unavailable" (SlotSet.decode levels)
    let message ← f.omissible "message" none (Decoder.nullable (Decoder.text levels))
    pure ⟨introduced, deprecated, obsoleted, unavailable, message⟩

end Record

end ApiAvailability

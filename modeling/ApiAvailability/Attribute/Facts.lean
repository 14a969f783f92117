/-
What one attribute states, before any record comes into it.

An attribute states facts, or it states nothing because its arguments fit none
of the forms of its type, or it is an error, because it speaks of a platform
that does not exist. The last is decided by the first argument alone: a byte
that is no platform is an error whatever follows it, while an argument that is
no byte at all makes the attribute one that fits no form.
-/
import ApiAvailability.Attribute.Shape
set_option autoImplicit false

namespace ApiAvailability

/-- What an attribute does to the message of a record. -/
inductive MessageUpdate where
  | replace (text : String)
  | append (text : String)
  deriving DecidableEq

/-- The facts of an attribute and what it does to the message, both in the
order in which they count. -/
structure Facts where
  sets : List (FactKind × SlotSet)
  messages : List MessageUpdate
  deriving DecidableEq

/-- What comes of reading an attribute. -/
inductive Reading where
  | states (facts : Facts)
  /-- The attribute is none of availability, or fits no form of its type. -/
  | nothing
  /-- The first argument is a byte that names no platform. -/
  | unknownPlatform (value : UInt8)
  deriving DecidableEq

namespace Facts

/-! ## The forms -/

/-- Major and minor version, and perhaps whether only 64-bit is meant. -/
def ofShorthand? (p : Platform) : List Argument → Option Facts
  | [major, minor] => do
    let slot : Slot := ⟨p, .unstated, ← major.byte?, ← minor.byte?, 0⟩
    pure ⟨[(.introduced, .single slot)], []⟩
  | [major, minor, only64] => do
    let major ← major.byte?
    let minor ← minor.byte?
    let arch : Architecture := if ← only64.bool? then .arch64 else .unstated
    pure ⟨[(.introduced, .single ⟨p, arch, major, minor, 0⟩)], []⟩
  | _ => none

/-- The message that a last argument leaves, if it is a text. -/
def messageOf (a : Argument) : List MessageUpdate :=
  (a.text?.map MessageUpdate.replace).toList

/-- What follows the platform: an architecture and a message that does not
count; or a version of two or three parts, an architecture and a message. -/
def ofSingle? (k : FactKind) (p : Platform) : List Argument → Option Facts
  | [arch, _] => do
    pure ⟨[(k, .single ⟨p, ⟨← arch.byte?⟩, 0, 0, 0⟩)], []⟩
  | [major, minor, arch, message] => do
    let slot : Slot := ⟨p, ⟨← arch.byte?⟩, ← major.byte?, ← minor.byte?, 0⟩
    pure ⟨[(k, .single slot)], messageOf message⟩
  | [major, minor, subminor, arch, message] => do
    let slot : Slot := ⟨p, ⟨← arch.byte?⟩, ← major.byte?, ← minor.byte?, ← subminor.byte?⟩
    pure ⟨[(k, .single slot)], messageOf message⟩
  | _ => none

/-- The slots of a kind that an encoding stands for; zero states nothing. -/
def ofEncoding (k : FactKind) (encoding : UInt64) : List (FactKind × SlotSet) :=
  if encoding = 0 then [] else [(k, .ofEncoding encoding)]

/-- Encodings for the kinds in their order. There are four kinds, and what
comes after the fourth does not count. -/
def ofPositional? : List FactKind → List Argument → Option (List (FactKind × SlotSet))
  | k :: kinds, a :: rest => do
    let encoding ← a.encoding?
    pure (ofEncoding k encoding ++ (← ofPositional? kinds rest))
  | _, _ => some []

/-- What a named argument adds: a text under `Message` is appended, and any
other value there does not count; an encoding under the name of a kind states
slots, and any other value there fits no form; other names do not count. -/
def ofNamed? (a : NamedArgument) : Option Facts :=
  if a.name = "Message" then
    some ⟨[], (a.value.text?.map MessageUpdate.append).toList⟩
  else
    match FactKind.ofName? a.name with
    | some k => a.value.encoding?.map fun encoding => ⟨ofEncoding k encoding, []⟩
    | none => some ⟨[], []⟩

/-- What named arguments add, in their order. -/
def ofAllNamed? : List NamedArgument → Option Facts
  | [] => some ⟨[], []⟩
  | a :: rest => do
    let first ← ofNamed? a
    let others ← ofAllNamed? rest
    pure ⟨first.sets ++ others.sets, first.messages ++ others.messages⟩

/-- Positional encodings, and then named ones. -/
def ofAggregate? (positional : List Argument) (named : List NamedArgument) : Option Facts := do
  let sets ← ofPositional? FactKind.all positional
  let others ← ofAllNamed? named
  pure ⟨sets ++ others.sets, others.messages⟩

end Facts

namespace Reading

/-- The reading of facts that may fit no form. -/
def ofFacts? : Option Facts → Reading
  | some facts => states facts
  | none => nothing

/-- The reading of an attribute about one platform, which its first argument
names. -/
def ofSingle (k : FactKind) : List Argument → Reading
  | [] => nothing
  | first :: rest =>
    match first.byte? with
    | none => nothing
    | some value =>
      match (Platform.ofByte? value).filter Platform.isConcrete with
      | some p => ofFacts? (Facts.ofSingle? k p rest)
      | none => unknownPlatform value

end Reading

/-- What an attribute states. -/
def Attribute.reading (a : Attribute) : Reading :=
  match a.shape with
  | .shorthand p => .ofFacts? (Facts.ofShorthand? p a.arguments)
  | .single k => .ofSingle k a.arguments
  | .aggregate => .ofFacts? (Facts.ofAggregate? a.arguments a.named)
  | .advice => .nothing
  | .unrecognized => .nothing

end ApiAvailability

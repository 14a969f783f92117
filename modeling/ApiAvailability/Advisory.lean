/-
What there is to say about the use of an API on a platform.

First comes whether the API is unavailable, obsoleted or deprecated there; only
if none of this is so does it matter whether it was introduced after the
deployment target. A record that states nothing, and the absence of a platform,
leave nothing to say.
-/
import ApiAvailability.Deployment
import ApiAvailability.Diagnostic.Rule
import ApiAvailability.Record
set_option autoImplicit false

namespace ApiAvailability

/-- Something to say about the use of an API, without the name of the API. -/
structure Advisory where
  kind : AdvisoryKind
  message : String
  deriving DecidableEq

namespace Advisory

/-! ## The two decisions -/

/-- The record, if it states something and there is a platform. -/
def applicable (record : Option Record) (p : Platform) : Option Record :=
  record.filter fun r => r.isSpecified && p.isConcrete

/-- Whether the API is unavailable, obsoleted or deprecated on the platform.
Unavailable wins over the other two, which may go together. -/
def deprecation? (record : Option Record) (p : Platform) : Option String := do
  let r ← applicable record p
  let unavailable := r.isSpecifiedFor .unavailable p
  let deprecated := r.isSpecifiedFor .deprecated p
  let obsoleted := r.isSpecifiedFor .obsoleted p
  if unavailable then
    some ("was made unavailable in " ++ r.unavailable.fullNameFor p)
  else if deprecated && obsoleted then
    some ("was deprecated in " ++ r.deprecated.fullNameFor p ++
      " and obsoleted (might be removed) in " ++ r.obsoleted.fullNameFor p)
  else if obsoleted then
    some ("was obsoleted (might be removed) in " ++ r.obsoleted.fullNameFor p)
  else if deprecated then
    some ("was deprecated in " ++ r.deprecated.fullNameFor p)
  else none

/-- Whether the slot asks for 64-bit without being open to every architecture. -/
def requires64 (s : Slot) : Bool :=
  s.arch.effective ≠ .every && s.arch.effective.contains .arch64

/-- What is said of an API that came with a slot. -/
def introductionText (s : Slot) : String :=
  "is only available on " ++ s.fullName ++ " or newer" ++
    (if requires64 s then " and requires a 64-bit architecture" else "")

/-- Whether the API was introduced on the platform after the deployment target.
Without a target there is nothing to compare with. -/
def introduction? (record : Option Record) (minimum : Option Deployment) (p : Platform) :
    Option String := do
  let r ← applicable record p
  let target := (← minimum).target p
  let s ← r.slot .introduced p
  if s.isSpecified && s.compareTo (some target) = .gt then some (introductionText s) else none

/-! ## Together -/

/-- The text with the message of the record, even an empty one, on a new line. -/
def withMessageOf (record : Option Record) (text : String) : String :=
  match record.bind Record.message with
  | some message => text ++ ".\n " ++ message
  | none => text

/-- What there is to say, if anything. -/
def advise? (record : Option Record) (minimum : Option Deployment) (p : Platform) :
    Option Advisory :=
  match deprecation? record p with
  | some text => some ⟨.deprecatedOrObsoleted, withMessageOf record text⟩
  | none =>
    (introduction? record minimum p).map fun text =>
      ⟨.introducedLater, withMessageOf record text⟩

/-- The text about the use of a symbol. -/
def textFor (a : Advisory) (symbol : String) : String := "'" ++ symbol ++ "' " ++ a.message

/-- The advisory as a JSON value. -/
def toJson (a : Advisory) : Json := .obj [("kind", a.kind.toJson), ("message", .str a.message)]

end Advisory

end ApiAvailability

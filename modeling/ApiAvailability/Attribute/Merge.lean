/-
Attributes gathered into a record.

An attribute that states facts makes a record where there was none and adds to
it; one that states nothing leaves what there was, so without any there is no
record. The first attribute that names an unknown platform ends the gathering.
-/
import ApiAvailability.Attribute.Facts
set_option autoImplicit false

namespace ApiAvailability

/-- The type and the byte of an attribute that names an unknown platform. -/
structure MergeError where
  typeName : String
  value : UInt8
  deriving DecidableEq

/-- The wording of the error. -/
def MergeError.message (e : MergeError) : String :=
  "attribute '" ++ e.typeName ++ "' names unknown platform " ++ Text.decimal e.value.toNat

/-- The record after an update of its message. -/
def MessageUpdate.applyTo (r : Record) : MessageUpdate → Record
  | replace text => { r with message := some text }
  | append text => r.appendMessage text

/-- The record with the facts added to it, the sets first and then the
messages, each in their order. -/
def Facts.applyTo (policy : ConflictPolicy) (r : Record) (facts : Facts) : Record :=
  facts.messages.foldl MessageUpdate.applyTo
    (facts.sets.foldl (fun r s => r.addFacts policy s.1 s.2) r)

namespace Record

/-- The record, or its absence, after one attribute. -/
def mergeAttribute (policy : ConflictPolicy) (record : Option Record) (a : Attribute) :
    Except MergeError (Option Record) :=
  match a.reading with
  | .states facts => .ok (some (facts.applyTo policy (record.getD .empty)))
  | .nothing => .ok record
  | .unknownPlatform value => .error ⟨a.typeName, value⟩

/-- The record, or its absence, after attributes in their order, up to the
first that fails. -/
def mergeAttributes (policy : ConflictPolicy) (record : Option Record) :
    List Attribute → Except MergeError (Option Record)
  | [] => .ok record
  | a :: rest =>
    match mergeAttribute policy record a with
    | .ok merged => mergeAttributes policy merged rest
    | .error e => .error e

/-- Attributes in two parts are gathered one part after the other. -/
theorem mergeAttributes_append (policy : ConflictPolicy) (record : Option Record)
    (l m : List Attribute) : mergeAttributes policy record (l ++ m) =
      (mergeAttributes policy record l).bind fun merged => mergeAttributes policy merged m := by
  induction l generalizing record with
  | nil => rfl
  | cons a l ih =>
    simp only [List.cons_append, mergeAttributes]
    cases mergeAttribute policy record a with
    | error e => rfl
    | ok merged => exact ih merged

end Record

end ApiAvailability

/-
What the attributes around a use say about the API.

The attributes of the symbol come first, and for a property those of the
accessors that the use goes through after them. Only if all of these state
nothing is the declaring type asked, and then it speaks alone. Advice is
gathered from every symbol that is visited, in the order of the visit.
-/
import ApiAvailability.Attribute.Merge
import ApiAvailability.UseSite
set_option autoImplicit false

namespace ApiAvailability

/-- What was gathered. -/
structure Collected where
  /-- The record, if it states something. -/
  record : Option Record
  advice : List String
  deriving DecidableEq

/-- The symbol whose attributes could not be gathered, and why. -/
structure CollectError where
  symbol : String
  cause : MergeError
  deriving DecidableEq

/-- The wording of the error. -/
def CollectError.message (e : CollectError) : String :=
  "cannot collect availability of '" ++ e.symbol ++ "': " ++ e.cause.message

/-- The texts of the advice among the attributes of a symbol. -/
def Symbol.advice (s : Symbol) : List String := s.attributes.filterMap Attribute.advice?

/-- The record after the attributes of a symbol. -/
def Symbol.mergeInto (policy : ConflictPolicy) (record : Option Record) (s : Symbol) :
    Except CollectError (Option Record) :=
  (Record.mergeAttributes policy record s.attributes).mapError fun e => ⟨s.name, e⟩

/-- The record after the attributes of symbols in their order, up to the first
that fails. -/
def Symbol.mergeAllInto (policy : ConflictPolicy) (record : Option Record) :
    List Symbol → Except CollectError (Option Record)
  | [] => .ok record
  | s :: rest =>
    match s.mergeInto policy record with
    | .ok merged => mergeAllInto policy merged rest
    | .error e => .error e

namespace UseSite

/-- The accessors that the use goes through; only a property has any. -/
def reachedAccessors (u : UseSite) : List Symbol :=
  if u.symbol.kind = .property then u.access.accessors.filterMap u.symbol.accessor else []

/-- The symbols that are visited first: the symbol of the use and the accessors
that it goes through. -/
def ownSymbols (u : UseSite) : List Symbol := u.symbol :: u.reachedAccessors

/-- The record of the use and the advice around it. -/
def collect (policy : ConflictPolicy) (u : UseSite) : Except CollectError Collected :=
  match Symbol.mergeAllInto policy none u.ownSymbols with
  | .error e => .error e
  | .ok own =>
    let advice := u.ownSymbols.flatMap Symbol.advice
    if own.any Record.isSpecified then .ok ⟨own, advice⟩
    else
      match u.symbol.declaringType with
      | none => .ok ⟨none, advice⟩
      | some type =>
        match type.mergeInto policy none with
        | .error e => .error e
        | .ok outer => .ok ⟨outer.filter Record.isSpecified, advice ++ type.advice⟩

end UseSite

end ApiAvailability

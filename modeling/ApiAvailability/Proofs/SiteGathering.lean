/-
What is gathered around a use, in closed form.

The symbols that are visited first are taken one after the other, but the result
is that of one run over all their attributes in a row: only the error, if there
is one, depends on where a symbol begins, because it names the symbol
(`mergeAllInto_eq`). What is gathered around a use is therefore one of four
things (`collect_eq`): the error of the first symbol that has one; what the own
attributes state, if this is anything; else the error of the declaring type; else
what the attributes of the declaring type state on their own.
-/
import ApiAvailability.Collection
import ApiAvailability.Proofs.Gathering

set_option autoImplicit false

namespace ApiAvailability

/-! ## Symbols in a row -/

namespace Symbol

/-- The error with which the attributes of a symbol cannot be gathered, if they
cannot. -/
def collectError? (s : Symbol) : Option CollectError :=
  (s.attributes.findSome? Attribute.mergeError?).map fun e => ⟨s.name, e⟩

theorem mergeInto_eq (policy : ConflictPolicy) (record : Option Record) (s : Symbol) :
    s.mergeInto policy record = match s.collectError? with
      | some e => .error e
      | none => .ok (Record.gather policy record s.attributes) := by
  rw [mergeInto, Record.mergeAttributes_eq, collectError?]
  cases s.attributes.findSome? Attribute.mergeError? with
  | some e => rfl
  | none => rfl

/-- **Symbols in a row** are gathered like their attributes in a row. -/
theorem mergeAllInto_eq (policy : ConflictPolicy) (record : Option Record) (l : List Symbol) :
    mergeAllInto policy record l = match l.findSome? collectError? with
      | some e => .error e
      | none => .ok (Record.gather policy record (l.flatMap Symbol.attributes)) := by
  induction l generalizing record with
  | nil => rfl
  | cons s l ih =>
    rw [mergeAllInto, mergeInto_eq, List.findSome?_cons]
    cases s.collectError? with
    | some e => rfl
    | none =>
      simp only [ih]
      rw [List.flatMap_cons, Record.gather_append]

end Symbol

/-! ## Around a use -/

namespace UseSite

/-- The attributes of the symbols that are visited first. -/
def ownAttributes (u : UseSite) : List Attribute := u.ownSymbols.flatMap Symbol.attributes

/-- The advice of the symbols that are visited first. -/
def ownAdvice (u : UseSite) : List String := u.ownSymbols.flatMap Symbol.advice

/-- What the symbols that are visited first state. -/
def ownRecord (policy : ConflictPolicy) (u : UseSite) : Option Record :=
  Record.gather policy none u.ownAttributes

/-- What is gathered if the symbols that are visited first state nothing. -/
def collectOuter (policy : ConflictPolicy) (u : UseSite) : Except CollectError Collected :=
  match u.symbol.declaringType with
  | none => .ok ⟨none, u.ownAdvice⟩
  | some type =>
    match type.collectError? with
    | some e => .error e
    | none => .ok ⟨(Record.gather policy none type.attributes).filter Record.isSpecified,
        u.ownAdvice ++ type.advice⟩

/-- **What is gathered around a use.** -/
theorem collect_eq (policy : ConflictPolicy) (u : UseSite) :
    u.collect policy = match u.ownSymbols.findSome? Symbol.collectError? with
      | some e => .error e
      | none =>
        if (u.ownRecord policy).any Record.isSpecified then
          .ok ⟨u.ownRecord policy, u.ownAdvice⟩
        else u.collectOuter policy := by
  rw [collect, Symbol.mergeAllInto_eq]
  cases u.ownSymbols.findSome? Symbol.collectError? with
  | some e => rfl
  | none =>
    show (if (u.ownRecord policy).any Record.isSpecified then
      (.ok ⟨u.ownRecord policy, u.ownAdvice⟩ : Except CollectError Collected) else _) = _
    by_cases hspecified : (u.ownRecord policy).any Record.isSpecified
    · rw [if_pos hspecified, if_pos hspecified]
    · rw [if_neg hspecified, if_neg hspecified, collectOuter]
      cases u.symbol.declaringType with
      | none => rfl
      | some type =>
        simp only [Symbol.mergeInto_eq]
        cases type.collectError? with
        | some e => rfl
        | none => rfl

end UseSite

end ApiAvailability

/-
Gathering around a use as a run over two lists of attributes.

What is said around a use is gathered in stages, symbol by symbol, with a list
of advice that grows beside the record and a fresh start at the declaring type.
None of this shows in the result. It is that of one run over the attributes of
the symbols that the use shows, in a row, and only if this states nothing, of
one run over those of the declaring type (`Collected.ofAttributes`). A run can
be cut anywhere (`Record.mergeAttributes_append`), so also where a symbol begins,
and that it was cut there can be seen from an error alone, which names the symbol
(`Symbol.mergeAllInto_mapError_cause`).

So two lists of attributes are all that counts. Names, places and operations do
not, nor do accessors that the use does not go through, nor anything that is
declared around or beside the declaring type and the accessors: a use from which
all this is erased (`UseSite.bare`) has the same result (`collect_flat`).
-/
import ApiAvailability.Attribute.Binding
import ApiAvailability.Proofs.SiteGathering

set_option autoImplicit false

namespace ApiAvailability

/-! ## The symbols that a use shows -/

namespace Access

/-- Whether the value of the property is asked for. -/
def reads : Access → Bool
  | assignmentTarget => false
  | _ => true

/-- Whether the property is given a value. -/
def writes : Access → Bool
  | read => false
  | _ => true

/-- The getter is consulted before the setter. -/
theorem accessors_eq (a : Access) : a.accessors =
    (if a.reads then [.getter] else []) ++ if a.writes then [.setter] else [] := by
  cases a <;> rfl

end Access

namespace UseSite

/-- The symbols that a use shows: its symbol, and of a property the getter if
the use reads it and then the setter if the use writes it, where there are such. -/
def shownSymbols (u : UseSite) : List Symbol :=
  u.symbol ::
    if u.symbol.kind = .property then
      (if u.access.reads then u.symbol.getter.toList else []) ++
        if u.access.writes then u.symbol.setter.toList else []
    else []

/-- The attributes of the symbols that a use shows, in a row. -/
def shownAttributes (u : UseSite) : List Attribute := u.shownSymbols.flatMap Symbol.attributes

/-- The attributes of the declaring type; none where there is no such type. -/
def declaringAttributes (u : UseSite) : List Attribute :=
  u.symbol.declaringType.toList.flatMap Symbol.attributes

/-- The symbols that are visited first are those that the use shows. -/
theorem ownSymbols_eq (u : UseSite) : u.ownSymbols = u.shownSymbols := by
  have hone : ∀ a, [a].filterMap u.symbol.accessor = (u.symbol.accessor a).toList := by
    intro a
    cases ha : u.symbol.accessor a with
    | none => rw [List.filterMap_cons_none ha]; rfl
    | some s => rw [List.filterMap_cons_some ha]; rfl
  rw [ownSymbols, shownSymbols, reachedAccessors, Access.accessors_eq, List.filterMap_append]
  cases u.access.reads <;> cases u.access.writes <;>
    simp only [Bool.false_eq_true, if_false, if_true, List.filterMap_nil, hone] <;> rfl

end UseSite

/-! ## One run over two lists -/

/-- What is gathered from attributes in a row, and from others to fall back on
where the first state nothing. -/
def Collected.ofAttributes (policy : ConflictPolicy) (own outer : List Attribute) :
    Except MergeError Collected :=
  match Record.mergeAttributes policy none own with
  | .error e => .error e
  | .ok record =>
    if record.any Record.isSpecified then .ok ⟨record, own.filterMap Attribute.advice?⟩
    else
      match Record.mergeAttributes policy none outer with
      | .error e => .error e
      | .ok fallback => .ok ⟨fallback.filter Record.isSpecified,
          own.filterMap Attribute.advice? ++ outer.filterMap Attribute.advice?⟩

namespace Symbol

/-- The run over a symbol is the one over its attributes, and its error says more only by the
name of the symbol. -/
theorem mergeInto_mapError_cause (policy : ConflictPolicy) (record : Option Record) (s : Symbol) :
    (s.mergeInto policy record).mapError CollectError.cause =
      Record.mergeAttributes policy record s.attributes := by
  unfold mergeInto
  cases Record.mergeAttributes policy record s.attributes with
  | error e => rfl
  | ok merged => rfl

/-- **Symbols in a row are one run over their attributes in a row,** cut where a symbol
begins. -/
theorem mergeAllInto_mapError_cause (policy : ConflictPolicy) (record : Option Record)
    (l : List Symbol) : (mergeAllInto policy record l).mapError CollectError.cause =
      Record.mergeAttributes policy record (l.flatMap Symbol.attributes) := by
  induction l generalizing record with
  | nil => rfl
  | cons s l ih =>
    rw [mergeAllInto, List.flatMap_cons, Record.mergeAttributes_append,
      ← s.mergeInto_mapError_cause policy record]
    cases s.mergeInto policy record with
    | error e => rfl
    | ok merged => exact ih merged

end Symbol

namespace UseSite

theorem ownAttributes_eq (u : UseSite) : u.ownAttributes = u.shownAttributes := by
  rw [ownAttributes, ownSymbols_eq, shownAttributes]

/-- The advice of the symbols is the advice among their attributes. -/
theorem flatMap_advice_ownSymbols (u : UseSite) :
    u.ownSymbols.flatMap Symbol.advice = u.shownAttributes.filterMap Attribute.advice? := by
  rw [ownSymbols_eq, shownAttributes, List.filterMap_flatMap]
  rfl

/-- **Gathering around a use is a run over two lists of attributes,** up to the
name of the symbol in an error. -/
theorem collect_mapError_cause (policy : ConflictPolicy) (u : UseSite) :
    (u.collect policy).mapError CollectError.cause =
      Collected.ofAttributes policy u.shownAttributes u.declaringAttributes := by
  have hown : (Symbol.mergeAllInto policy none u.ownSymbols).mapError CollectError.cause =
      Record.mergeAttributes policy none u.shownAttributes := by
    rw [Symbol.mergeAllInto_mapError_cause, ownSymbols_eq, shownAttributes]
  rw [collect, Collected.ofAttributes, ← hown, flatMap_advice_ownSymbols]
  cases Symbol.mergeAllInto policy none u.ownSymbols with
  | error e => rfl
  | ok own =>
    -- Both hold the same record, so they stop or turn to the declaring type together.
    show Except.mapError _ (if own.any Record.isSpecified then _ else _) =
      if own.any Record.isSpecified then _ else _
    by_cases hspecified : own.any Record.isSpecified
    · rw [if_pos hspecified, if_pos hspecified]
      rfl
    · rw [if_neg hspecified, if_neg hspecified]
      unfold declaringAttributes
      cases u.symbol.declaringType with
      | none =>
        -- Where there is no declaring type there are no attributes, and nothing is stated.
        rw [Option.toList_none, List.flatMap_nil, List.filterMap_nil, List.append_nil]
        rfl
      | some type =>
        rw [Option.toList_some, List.flatMap_singleton,
          ← type.mergeInto_mapError_cause policy none]
        dsimp only
        cases type.mergeInto policy none with
        | error e => rfl
        | ok outer => rfl

end UseSite

/-! ## What does not count -/

/-- A symbol of which nothing is left but its attributes. -/
def Symbol.bare (s : Symbol) : Symbol := { plain "" .method with attributes := s.attributes }

theorem Symbol.flatMap_attributes_bare (s : Option Symbol) :
    (s.map bare).toList.flatMap Symbol.attributes = s.toList.flatMap Symbol.attributes := by
  cases s with
  | none => rfl
  | some s => rfl

namespace UseSite

/-- A use of which nothing is left but the attributes that can count: of its
symbol, of the accessors that it goes through if the symbol is a property, and
of the declaring type. -/
def bare (u : UseSite) : UseSite where
  symbol :=
    { name := ""
      kind := if u.symbol.kind = .property then .property else .method
      attributes := u.symbol.attributes
      getter :=
        if u.symbol.kind = .property ∧ u.access.reads then u.symbol.getter.map Symbol.bare else none
      setter :=
        if u.symbol.kind = .property ∧ u.access.writes then u.symbol.setter.map Symbol.bare else none
      declaringType := u.symbol.declaringType.map Symbol.bare }
  operation := .other
  access := if u.symbol.kind = .property then u.access else .read
  location := none

theorem shownAttributes_bare (u : UseSite) : u.bare.shownAttributes = u.shownAttributes := by
  unfold shownAttributes shownSymbols bare
  by_cases hkind : u.symbol.kind = .property
  · simp only [hkind, true_and, if_true, List.flatMap_cons, List.flatMap_append]
    cases u.access.reads <;> cases u.access.writes <;>
      simp only [Bool.false_eq_true, if_false, if_true, Symbol.flatMap_attributes_bare]
  · simp [hkind]

theorem declaringAttributes_bare (u : UseSite) :
    u.bare.declaringAttributes = u.declaringAttributes :=
  Symbol.flatMap_attributes_bare u.symbol.declaringType

/-- **What is gathered around a use is decided by two lists of attributes.** One
has the attributes of its symbol, and of a property after them those of the
accessors that the use goes through, the getter first; what these state on their
own is the record, with the advice among them. Only if they state nothing the
other one counts, which has the attributes of the declaring type, and its advice
comes after. Nothing else of the use has any influence, but for the name that an
error gives to a symbol. -/
theorem collect_flat (policy : ConflictPolicy) (u : UseSite) :
    (u.collect policy).mapError CollectError.cause =
      Collected.ofAttributes policy u.shownAttributes u.declaringAttributes ∧
    (u.collect policy).mapError CollectError.cause =
      (u.bare.collect policy).mapError CollectError.cause := by
  refine ⟨u.collect_mapError_cause policy, ?_⟩
  rw [collect_mapError_cause, collect_mapError_cause, shownAttributes_bare,
    declaringAttributes_bare]

-- The getter of a property that is incremented speaks before the setter, and
-- with them the declaring type is not asked.
example :
    let accessor (text : String) : Symbol :=
      { Symbol.plain "accessor" .method with attributes := [.ios 9 0, .ofAdvice text] }
    let u : UseSite :=
      ⟨⟨"symbol", .property, [], some (accessor "getter"), some (accessor "setter"),
        some (accessor "type")⟩, .propertyReference, .incrementOrDecrement, none⟩
    (u.collect .preferNewest).toOption =
      some ⟨some { Record.empty with introduced := .single ⟨.iOS, .unstated, 9, 0, 0⟩ },
        ["getter", "setter"]⟩ := by
  decide

end UseSite

end ApiAvailability

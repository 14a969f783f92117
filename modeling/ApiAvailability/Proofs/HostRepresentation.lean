/-
How a host represents a number or a namespace makes no difference.

One host hands over a number as a byte where another one takes a signed or an
unsigned integer, and one names a namespace with what it is nested in where another
one does not. Two uses that differ in this way alone, in any of the attributes that
they hold, are alike (`UseSite.Alike`), and whatever is gathered around them or
reported of them is the same.

The argument ends at single attributes. No reader asks for the form of a number
(`Argument.number?_eq_some` and what follows from it), and a qualifier never reaches
the last part of a namespace (`innermostScope_qualified`); so attributes that are
alike read alike, and what comes after the reading of an attribute sees nothing else
of it but its type. The namespace of advice is left out, because advice is recognised
by its whole namespace.
-/
import ApiAvailability.Analysis
import Mathlib.Data.List.Forall2

set_option autoImplicit false

namespace ApiAvailability

/-! ## Arguments -/

namespace Argument

/-- The same constant, or the same number in two forms. -/
def Alike (a b : Argument) : Prop := a = b ∨ ∃ n, a.number? = some n ∧ b.number? = some n

/-- What the readers that ask for no number see of a number. -/
theorem of_number?_eq_some {a : Argument} {n : Int} (h : a.number? = some n) :
    a.bool? = none ∧ a.text? = none ∧ a.display? = some (Text.signedDecimal n) := by
  cases a with
  | null => cases h
  | bool b => cases h
  | byte k =>
    cases h
    exact ⟨rfl, rfl, rfl⟩
  | int k =>
    cases h
    exact ⟨rfl, rfl, rfl⟩
  | ulong k =>
    cases h
    exact ⟨rfl, rfl, rfl⟩
  | str s => cases h

namespace Alike

variable {a b : Argument} (h : a.Alike b)

include h

theorem number?_eq : a.number? = b.number? := by
  rcases h with rfl | ⟨n, ha, hb⟩
  · rfl
  · rw [ha, hb]

theorem byte?_eq : a.byte? = b.byte? := by
  rw [byte?, byte?, h.number?_eq]

theorem encoding?_eq : a.encoding? = b.encoding? := by
  rw [encoding?, encoding?, h.number?_eq]

theorem bool?_eq : a.bool? = b.bool? := by
  rcases h with rfl | ⟨n, ha, hb⟩
  · rfl
  · rw [(of_number?_eq_some ha).1, (of_number?_eq_some hb).1]

theorem text?_eq : a.text? = b.text? := by
  rcases h with rfl | ⟨n, ha, hb⟩
  · rfl
  · rw [(of_number?_eq_some ha).2.1, (of_number?_eq_some hb).2.1]

theorem display?_eq : a.display? = b.display? := by
  rcases h with rfl | ⟨n, ha, hb⟩
  · rfl
  · rw [(of_number?_eq_some ha).2.2, (of_number?_eq_some hb).2.2]

end Alike

end Argument

structure NamedArgument.Alike (a b : NamedArgument) : Prop where
  name : a.name = b.name
  value : a.value.Alike b.value

/-! ## The forms of attributes -/

namespace Facts

variable {as bs : List Argument} {ms ns : List NamedArgument}

theorem ofShorthand?_congr (p : Platform) (h : List.Forall₂ Argument.Alike as bs) :
    ofShorthand? p as = ofShorthand? p bs := by
  -- Lists that are alike have one length, and only two lengths have a form.
  rcases h with _ | ⟨hmajor, _ | ⟨hminor, _ | ⟨honly64, _ | ⟨_, _⟩⟩⟩⟩
  · rfl
  · rfl
  · simp only [ofShorthand?, hmajor.byte?_eq, hminor.byte?_eq]
  · simp only [ofShorthand?, hmajor.byte?_eq, hminor.byte?_eq, honly64.bool?_eq]
  · rfl

theorem ofSingle?_congr (k : FactKind) (p : Platform) (h : List.Forall₂ Argument.Alike as bs) :
    ofSingle? k p as = ofSingle? k p bs := by
  rcases h with _ | ⟨h1, _ | ⟨h2, _ | ⟨h3, _ | ⟨h4, _ | ⟨h5, _ | ⟨_, _⟩⟩⟩⟩⟩⟩
  · rfl
  · rfl
  · simp only [ofSingle?, h1.byte?_eq]
  · rfl
  · -- Two parts of a version, the architecture and the message.
    simp only [ofSingle?, messageOf, h1.byte?_eq, h2.byte?_eq, h3.byte?_eq, h4.text?_eq]
  · -- The same with a third part.
    simp only [ofSingle?, messageOf, h1.byte?_eq, h2.byte?_eq, h3.byte?_eq, h4.byte?_eq,
      h5.text?_eq]
  · rfl

theorem ofPositional?_congr (kinds : List FactKind) (h : List.Forall₂ Argument.Alike as bs) :
    ofPositional? kinds as = ofPositional? kinds bs := by
  induction h generalizing kinds with
  | nil => rfl
  | cons hfirst _ ih =>
    cases kinds with
    | nil => rfl
    | cons k kinds => simp only [ofPositional?, hfirst.encoding?_eq, ih kinds]

theorem ofNamed?_congr {a b : NamedArgument} (h : a.Alike b) : ofNamed? a = ofNamed? b := by
  simp only [ofNamed?, h.name, h.value.text?_eq, h.value.encoding?_eq]

theorem ofAllNamed?_congr (h : List.Forall₂ NamedArgument.Alike ms ns) :
    ofAllNamed? ms = ofAllNamed? ns := by
  induction h with
  | nil => rfl
  | cons hfirst _ ih => simp only [ofAllNamed?, ofNamed?_congr hfirst, ih]

theorem ofAggregate?_congr (h : List.Forall₂ Argument.Alike as bs)
    (hnamed : List.Forall₂ NamedArgument.Alike ms ns) : ofAggregate? as ms = ofAggregate? bs ns := by
  rw [ofAggregate?, ofAggregate?, ofPositional?_congr _ h, ofAllNamed?_congr hnamed]

end Facts

theorem Reading.ofSingle_congr {as bs : List Argument} (k : FactKind)
    (h : List.Forall₂ Argument.Alike as bs) : ofSingle k as = ofSingle k bs := by
  cases h with
  | nil => rfl
  | cons hfirst hrest =>
    simp only [ofSingle, hfirst.byte?_eq, Facts.ofSingle?_congr k _ hrest]

/-! ## Namespaces -/

namespace Attribute

/-- The namespace is the other one, or that one behind a qualifier and a point. -/
def Qualifies (scope base : String) : Prop := scope = base ∨ ∃ q, scope = q ++ "." ++ base

theorem innermostScope_qualified (q base : String) :
    innermostScope (q ++ "." ++ base) = innermostScope base := by
  have hparts : (q ++ "." ++ base).toList.splitOn '.' =
      q.toList.splitOn '.' ++ base.toList.splitOn '.' := by
    rw [String.toList_append, String.toList_append, List.append_assoc]
    exact List.splitOn_append_cons_self q.toList base.toList
  rw [innermostScope, hparts, List.getLast?_append_of_ne_nil _ (List.splitOn_ne_nil '.' _)]
  rfl

/-- A qualified namespace is not that of advice, which has no point. -/
theorem qualified_ne_adviceScope (q base : String) : q ++ "." ++ base ≠ Shape.adviceScope := by
  intro h
  have hpoint : '.' ∈ (q ++ "." ++ base).toList := by simp
  rw [h] at hpoint
  exact absurd hpoint (by decide)

/-- An attribute is given with its namespace or with a qualified one, and it is not advice
with its own. -/
theorem shape_of_qualifies {a : Attribute} {base : String}
    (hadvice : ({ a with scope := base } : Attribute).shape ≠ .advice)
    (h : Qualifies a.scope base) : a.shape = ({ a with scope := base } : Attribute).shape := by
  rcases h with hscope | ⟨q, hscope⟩
  · rw [← hscope]
  · -- Neither namespace makes an advice, so the last part decides, which is the same.
    have hbase : ¬(base = Shape.adviceScope ∧ a.typeName = Shape.adviceType) := fun heq =>
      hadvice (if_pos heq)
    have hqualified : ¬(a.scope = Shape.adviceScope ∧ a.typeName = Shape.adviceType) := fun heq =>
      qualified_ne_adviceScope q base (hscope ▸ heq.1)
    rw [shape, shape, if_neg hqualified, if_neg hbase, hscope, innermostScope_qualified]

/-! ## Attributes -/

/-- The same attribute in two representations: its arguments are alike, and unless it is
advice, its namespace may be qualified. -/
structure Alike (a b : Attribute) : Prop where
  typeName : a.typeName = b.typeName
  arguments : List.Forall₂ Argument.Alike a.arguments b.arguments
  named : List.Forall₂ NamedArgument.Alike a.named b.named
  scope : a.scope = b.scope ∨ ∃ base, ({ a with scope := base } : Attribute).shape ≠ .advice ∧
    Qualifies a.scope base ∧ Qualifies b.scope base

namespace Alike

variable {a b : Attribute} (h : a.Alike b)

include h

theorem shape_eq : a.shape = b.shape := by
  have hshape (scope : String) : ({ a with scope := scope } : Attribute).shape =
      ({ b with scope := scope } : Attribute).shape := by
    rw [shape, shape, h.typeName]
  rcases h.scope with hscope | ⟨base, hadvice, ha, hb⟩
  · exact (hshape a.scope).trans (by rw [hscope])
  · rw [shape_of_qualifies hadvice ha, hshape base,
      shape_of_qualifies (hshape base ▸ hadvice) hb]

/-- **Attributes that are alike read alike.** -/
theorem reading_eq : a.reading = b.reading := by
  rw [reading, reading, h.shape_eq]
  cases b.shape with
  | shorthand p => exact congrArg Reading.ofFacts? (Facts.ofShorthand?_congr p h.arguments)
  | aggregate => exact congrArg Reading.ofFacts? (Facts.ofAggregate?_congr h.arguments h.named)
  | single k => exact Reading.ofSingle_congr k h.arguments
  | advice => rfl
  | unrecognized => rfl

theorem advice?_eq : a.advice? = b.advice? := by
  rw [advice?, advice?, h.shape_eq]
  generalize a.arguments = as, b.arguments = bs, h.arguments = harguments
  cases harguments with
  | nil => rfl
  | cons hfirst _ => simp only [List.head?_cons, Option.map_some, hfirst.display?_eq]

end Alike

end Attribute

/-! ## Symbols and uses -/

namespace Record

variable {as bs : List Attribute}

theorem mergeAttribute_congr {a b : Attribute} (policy : ConflictPolicy) (record : Option Record)
    (h : a.Alike b) : mergeAttribute policy record a = mergeAttribute policy record b := by
  rw [mergeAttribute, mergeAttribute, h.reading_eq, h.typeName]

theorem mergeAttributes_congr (policy : ConflictPolicy) (record : Option Record)
    (h : List.Forall₂ Attribute.Alike as bs) :
    mergeAttributes policy record as = mergeAttributes policy record bs := by
  induction h generalizing record with
  | nil => rfl
  | cons hfirst _ ih => simp only [mergeAttributes, mergeAttribute_congr policy record hfirst, ih]

end Record

namespace Symbol

/-- The same symbol in two representations, in its attributes and in those of the symbols
inside it, at any depth. -/
inductive Alike : Symbol → Symbol → Prop
  | mk {name : String} {kind : SymbolKind} {as bs : List Attribute}
      {getter getter' setter setter' declaringType declaringType' : Option Symbol} :
      List.Forall₂ Attribute.Alike as bs → Option.Rel Alike getter getter' →
      Option.Rel Alike setter setter' → Option.Rel Alike declaringType declaringType' →
      Alike ⟨name, kind, as, getter, setter, declaringType⟩
        ⟨name, kind, bs, getter', setter', declaringType'⟩

namespace Alike

variable {s t : Symbol} (h : s.Alike t)

include h

theorem name_eq : s.name = t.name := by
  cases h
  rfl

theorem kind_eq : s.kind = t.kind := by
  cases h
  rfl

theorem attributes : List.Forall₂ Attribute.Alike s.attributes t.attributes := by
  cases h with
  | mk hattributes _ _ _ => exact hattributes

theorem accessor (a : Accessor) : Option.Rel Alike (s.accessor a) (t.accessor a) := by
  cases h with
  | mk _ hgetter hsetter _ =>
    cases a with
    | getter => exact hgetter
    | setter => exact hsetter

theorem declaringType : Option.Rel Alike s.declaringType t.declaringType := by
  cases h with
  | mk _ _ _ hdeclaringType => exact hdeclaringType

theorem advice_eq : s.advice = t.advice := by
  rw [Symbol.advice, Symbol.advice]
  have hattributes := h.attributes
  generalize s.attributes = as, t.attributes = bs at hattributes ⊢
  induction hattributes with
  | nil => rfl
  | cons hfirst _ ih => simp only [List.filterMap_cons, hfirst.advice?_eq, ih]

theorem mergeInto_eq (policy : ConflictPolicy) (record : Option Record) :
    s.mergeInto policy record = t.mergeInto policy record := by
  rw [mergeInto, mergeInto, Record.mergeAttributes_congr policy record h.attributes, h.name_eq]

end Alike

theorem mergeAllInto_congr {l m : List Symbol} (policy : ConflictPolicy) (record : Option Record)
    (h : List.Forall₂ Alike l m) : mergeAllInto policy record l = mergeAllInto policy record m := by
  induction h generalizing record with
  | nil => rfl
  | cons hfirst _ ih => simp only [mergeAllInto, hfirst.mergeInto_eq policy record, ih]

theorem flatMap_advice_congr {l m : List Symbol} (h : List.Forall₂ Alike l m) :
    l.flatMap Symbol.advice = m.flatMap Symbol.advice := by
  induction h with
  | nil => rfl
  | cons hfirst _ ih => rw [List.flatMap_cons, List.flatMap_cons, hfirst.advice_eq, ih]

end Symbol

namespace UseSite

structure Alike (u v : UseSite) : Prop where
  symbol : u.symbol.Alike v.symbol
  operation : u.operation = v.operation
  access : u.access = v.access
  location : u.location = v.location

namespace Alike

variable {u v : UseSite} (h : u.Alike v)

include h

theorem ownSymbols : List.Forall₂ Symbol.Alike u.ownSymbols v.ownSymbols := by
  have haccessors (l : List Accessor) : List.Forall₂ Symbol.Alike
      (l.filterMap u.symbol.accessor) (l.filterMap v.symbol.accessor) := by
    have hsame : List.Forall₂ (· = ·) l l := List.forall₂_same.2 fun _ _ => rfl
    exact List.rel_filterMap (fun a _ heq => heq ▸ h.symbol.accessor a) hsame
  refine .cons h.symbol ?_
  rw [reachedAccessors, reachedAccessors, h.symbol.kind_eq, h.access]
  split
  · exact haccessors _
  · exact .nil

theorem collect_eq (policy : ConflictPolicy) : u.collect policy = v.collect policy := by
  rw [collect, collect, Symbol.mergeAllInto_congr policy none h.ownSymbols,
    Symbol.flatMap_advice_congr h.ownSymbols]
  -- Now both sides ask the declaring type, or neither does.
  have hdeclaringType := h.symbol.declaringType
  generalize u.symbol.declaringType = type, v.symbol.declaringType = type' at hdeclaringType ⊢
  cases hdeclaringType with
  | none => rfl
  | some htype => simp only [htype.mergeInto_eq, htype.advice_eq]

theorem diagnosticsFor_eq (s : Settings) : s.diagnosticsFor u = s.diagnosticsFor v := by
  have havailability (record : Option Record) :
      s.availabilityDiagnostic u record = s.availabilityDiagnostic v record := by
    rw [Settings.availabilityDiagnostic, Settings.availabilityDiagnostic, h.location,
      h.symbol.name_eq]
  simp only [Settings.diagnosticsFor, Settings.adviceDiagnostics, h.operation, h.location,
    h.collect_eq s.policy, havailability]

end Alike

/-- **The representation does not matter.** Uses that differ in the form of numbers and in
qualifiers of namespaces alone have the same record, advice and error, and the same is
reported of them. -/
theorem same_of_alike {u v : UseSite} (h : u.Alike v) :
    (∀ policy, u.collect policy = v.collect policy) ∧
    ∀ s : Settings, s.diagnosticsFor u = s.diagnosticsFor v :=
  ⟨h.collect_eq, h.diagnosticsFor_eq⟩

/-- A getter whose attributes show their number as a byte and as an unsigned integer, once with
the bare namespace and once with a qualified one. -/
theorem same_of_alike_getter :
    let getter (scope : String) (major : Argument) : Symbol :=
      { Symbol.plain "getter" .method with
        attributes := [⟨scope, "iOSAttribute", [major, .int 0], []⟩,
          ⟨Shape.adviceScope, Shape.adviceType, [major], []⟩] }
    let u (scope : String) (major : Argument) : UseSite :=
      ⟨⟨"symbol", .property, [], some (getter scope major), none, none⟩,
        .propertyReference, .read, none⟩
    let s : Settings := ⟨.iOS, some ⟨10, 0, 0⟩, .bitwiseOr, [], []⟩
    (u "ObjCRuntime" (.byte 11)).Alike (u "Xamarin.ObjCRuntime" (.ulong 11)) ∧
    (s.diagnosticsFor (u "ObjCRuntime" (.byte 11))).map (·.message) =
      ["11", "'symbol' is only available on iOS 11.0 or newer"] ∧
    s.diagnosticsFor (u "ObjCRuntime" (.byte 11)) =
      s.diagnosticsFor (u "Xamarin.ObjCRuntime" (.ulong 11)) := by
  intro getter u s
  have hmajor : (Argument.byte 11).Alike (.ulong 11) := Or.inr ⟨11, by decide, by decide⟩
  have hversion : List.Forall₂ Argument.Alike [.byte 11, .int 0] [.ulong 11, .int 0] :=
    .cons hmajor (.cons (Or.inl rfl) .nil)
  have hgetter : (getter "ObjCRuntime" (.byte 11)).Alike
      (getter "Xamarin.ObjCRuntime" (.ulong 11)) := by
    refine .mk (.cons ⟨rfl, hversion, .nil, Or.inr ⟨"ObjCRuntime", by decide, ?_, ?_⟩⟩
      (.cons ⟨rfl, .cons hmajor .nil, .nil, Or.inl rfl⟩ .nil)) .none .none .none
    · exact Or.inl rfl
    · exact Or.inr ⟨"Xamarin", by decide⟩
  have halike : (u "ObjCRuntime" (.byte 11)).Alike (u "Xamarin.ObjCRuntime" (.ulong 11)) :=
    ⟨.mk .nil (.some hgetter) .none .none, rfl, rfl, rfl⟩
  exact ⟨halike, by decide, (same_of_alike halike).2 s⟩

end UseSite

end ApiAvailability

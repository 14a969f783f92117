/-
What a run over attributes leaves, in closed form.

A run ends at the first attribute that names an unknown platform, and otherwise
it leaves what the stated facts make of the record (`mergeAttributes_eq`). Which
attribute is an error can be told from the attribute alone (`unknownByte?`), and
so can what it states (`facts?`): neither the record nor the policy comes into
it. So the three parts of the result can be read off one by one. There is a
record if there was one or if something was stated (`isSome_gather`); the slots
of a kind are those that were there, combined with the stated sets of the kind
in their order (`facts_gather`); and the message is the one that was there after
the stated updates in their order (`message_gather`).
-/
import ApiAvailability.Attribute.Merge

set_option autoImplicit false

namespace ApiAvailability

/-! ## Attributes that are errors -/

/-- The byte by which an attribute about one platform names none of the four:
its first argument, if this is a byte and neither of 1 to 4. -/
def Attribute.unknownByte? (a : Attribute) : Option UInt8 :=
  match a.shape with
  | .single _ => (a.arguments.head?.bind Argument.byte?).filter fun b => b = 0 || 5 ≤ b
  | _ => none

/-- The error that an attribute is, if it is one. -/
def Attribute.mergeError? (a : Attribute) : Option MergeError :=
  a.unknownByte?.map fun value => ⟨a.typeName, value⟩

/-- The bytes of platforms are 1 to 4. -/
theorem Platform.filter_ofByte?_eq_none_iff (b : UInt8) :
    (Platform.ofByte? b).filter Platform.isConcrete = Option.none ↔ b = 0 ∨ 5 ≤ b := by
  by_cases hnamed : b = 0 ∨ b = 1 ∨ b = 2 ∨ b = 3 ∨ b = 4
  · rcases hnamed with rfl | rfl | rfl | rfl | rfl <;> decide
  · simp only [not_or] at hnamed
    obtain ⟨h0, h1, h2, h3, h4⟩ := hnamed
    have hlarge : 5 ≤ b := by
      simp [← UInt8.toNat_inj] at h0 h1 h2 h3 h4
      simp [UInt8.le_iff_toNat_le]
      omega
    have hnone : Platform.ofByte? b = Option.none := by
      simp [Platform.ofByte?, h0, h1, h2, h3, h4]
    rw [hnone]
    exact ⟨fun _ => Or.inr hlarge, fun _ => rfl⟩

theorem Reading.ofFacts?_ne_unknownPlatform (facts : Option Facts) (value : UInt8) :
    Reading.ofFacts? facts ≠ .unknownPlatform value := by
  cases facts <;> exact Reading.noConfusion

/-- An attribute about one platform is an error by its first argument alone. -/
theorem Reading.ofSingle_eq_unknownPlatform_iff (k : FactKind) (arguments : List Argument)
    (value : UInt8) : Reading.ofSingle k arguments = .unknownPlatform value ↔
      (arguments.head?.bind Argument.byte?).filter (fun b => b = 0 || 5 ≤ b) = some value := by
  cases arguments with
  | nil => simp [Reading.ofSingle]
  | cons first rest =>
    simp only [Reading.ofSingle, List.head?_cons, Option.bind_some]
    cases first.byte? with
    | none => simp
    | some b =>
      have hiff := Platform.filter_ofByte?_eq_none_iff b
      dsimp only
      -- Only the platform decides: what the other arguments lead to is a reading
      -- of facts, or nothing.
      cases hp : (Platform.ofByte? b).filter Platform.isConcrete with
      | none =>
        have hb := hiff.1 hp
        have hfilter : (some b).filter (fun b => decide (b = 0) || decide (5 ≤ b)) = some b := by
          simpa using hb
        rw [hfilter, Reading.unknownPlatform.injEq, Option.some.injEq]
      | some p =>
        have hb : ¬(b = 0 ∨ 5 ≤ b) := fun h => by simp [hiff.2 h] at hp
        have hfilter : (some b).filter (fun b => decide (b = 0) || decide (5 ≤ b)) = none := by
          simpa using hb
        rw [hfilter]
        exact ⟨fun h => absurd h (Reading.ofFacts?_ne_unknownPlatform _ value), fun h => nomatch h⟩

/-- **Which attributes are errors.** The argument count and the other arguments
do not come into it. -/
theorem Attribute.reading_eq_unknownPlatform_iff (a : Attribute) (value : UInt8) :
    a.reading = .unknownPlatform value ↔ a.unknownByte? = some value := by
  unfold Attribute.reading Attribute.unknownByte?
  cases a.shape with
  | single k => exact Reading.ofSingle_eq_unknownPlatform_iff k a.arguments value
  | shorthand p =>
    exact ⟨fun h => absurd h (Reading.ofFacts?_ne_unknownPlatform _ value), fun h => nomatch h⟩
  | aggregate =>
    exact ⟨fun h => absurd h (Reading.ofFacts?_ne_unknownPlatform _ value), fun h => nomatch h⟩
  | advice => exact ⟨fun h => Reading.noConfusion h, fun h => nomatch h⟩
  | unrecognized => exact ⟨fun h => Reading.noConfusion h, fun h => nomatch h⟩

/-! ## The closed form of a run -/

/-- The facts that an attribute states, if it states any. -/
def Attribute.facts? (a : Attribute) : Option Facts :=
  match a.reading with
  | .states facts => some facts
  | _ => none

namespace Record

/-- The record, or its absence, after facts that are stated in this order. -/
def addStated (policy : ConflictPolicy) (record : Option Record) (stated : List Facts) :
    Option Record :=
  stated.foldl (fun record facts => some (facts.applyTo policy (record.getD .empty))) record

/-- The record, or its absence, after attributes that are no errors. -/
def gather (policy : ConflictPolicy) (record : Option Record) (l : List Attribute) :
    Option Record :=
  addStated policy record (l.filterMap Attribute.facts?)

theorem mergeAttribute_eq (policy : ConflictPolicy) (record : Option Record) (a : Attribute) :
    mergeAttribute policy record a = match a.mergeError? with
      | some e => .error e
      | none => .ok (gather policy record [a]) := by
  have hiff := a.reading_eq_unknownPlatform_iff
  unfold mergeAttribute Attribute.mergeError?
  cases hbyte : a.unknownByte? with
  | some value =>
    rw [(hiff value).2 hbyte]
    rfl
  | none =>
    cases hreading : a.reading with
    | unknownPlatform value => simp [(hiff value).1 hreading] at hbyte
    | states facts => simp [gather, addStated, Attribute.facts?, hreading]
    | nothing => simp [gather, addStated, Attribute.facts?, hreading]

/-- The error of an attribute names its type and its first argument. -/
theorem mergeAttribute_eq_error_iff (policy : ConflictPolicy) (record : Option Record)
    (a : Attribute) (e : MergeError) : mergeAttribute policy record a = .error e ↔
      ∃ value, a.unknownByte? = some value ∧ e = ⟨a.typeName, value⟩ := by
  rw [mergeAttribute_eq, Attribute.mergeError?]
  cases a.unknownByte? with
  | none => simp
  | some value => simp [eq_comm]

theorem unknownByte?_of_mergeAttribute_eq_ok {policy : ConflictPolicy}
    {record merged : Option Record} {a : Attribute}
    (h : mergeAttribute policy record a = .ok merged) : a.unknownByte? = none := by
  rw [Option.eq_none_iff_forall_ne_some]
  intro value hvalue
  rw [(mergeAttribute_eq_error_iff policy record a _).2 ⟨value, hvalue, rfl⟩] at h
  cases h

theorem gather_append (policy : ConflictPolicy) (record : Option Record) (l m : List Attribute) :
    gather policy record (l ++ m) = gather policy (gather policy record l) m := by
  simp only [gather, addStated, List.filterMap_append, List.foldl_append]

/-- **The closed form of a run.** It ends with the error of the first attribute
that is one, and otherwise with what all attributes state together. -/
theorem mergeAttributes_eq (policy : ConflictPolicy) (record : Option Record)
    (l : List Attribute) : mergeAttributes policy record l =
      match l.findSome? Attribute.mergeError? with
      | some e => .error e
      | none => .ok (gather policy record l) := by
  induction l generalizing record with
  | nil => rfl
  | cons a l ih =>
    rw [mergeAttributes, mergeAttribute_eq, List.findSome?_cons]
    cases a.mergeError? with
    | some e => rfl
    | none =>
      simp only [ih]
      rw [← gather_append, List.singleton_append]

theorem mergeAttributes_eq_ok {l : List Attribute} (h : ∀ a ∈ l, a.unknownByte? = none)
    (policy : ConflictPolicy) (record : Option Record) :
    mergeAttributes policy record l = .ok (gather policy record l) := by
  have hnone : l.findSome? Attribute.mergeError? = none := by
    rw [List.findSome?_eq_none_iff]
    intro a ha
    rw [Attribute.mergeError?, h a ha]
    rfl
  rw [mergeAttributes_eq, hnone]

theorem mergeAttributes_of_gather_eq {l : List Attribute} (h : ∀ a ∈ l, a.unknownByte? = none)
    {policy : ConflictPolicy} {record merged : Option Record}
    (hgather : gather policy record l = merged) :
    mergeAttributes policy record l = .ok merged := by
  rw [mergeAttributes_eq_ok h, hgather]

/-- A run that comes to an end leaves what all attributes state together. -/
theorem gather_of_mergeAttributes_eq_ok {policy : ConflictPolicy} {record merged : Option Record}
    {l : List Attribute} (h : mergeAttributes policy record l = .ok merged) :
    merged = gather policy record l := by
  rw [mergeAttributes_eq] at h
  cases hfind : l.findSome? Attribute.mergeError? with
  | some e =>
    rw [hfind] at h
    cases h
  | none =>
    rw [hfind] at h
    exact (Except.ok.inj h).symm

end Record

/-! ## The parts of what is gathered -/

/-- The sets of a kind among the facts, in their order. -/
def Facts.setsOf (k : FactKind) (facts : Facts) : List SlotSet :=
  (facts.sets.filter fun s => s.1 = k).map Prod.snd

/-- The message, or its absence, after an update. -/
def MessageUpdate.after (message : Option String) : MessageUpdate → Option String
  | replace text => some text
  | append text => some (match message with
      | some present => present ++ "; " ++ text
      | none => text)

/-- The sets of a kind that attributes state, in their order. -/
def Attribute.statedSets (k : FactKind) (l : List Attribute) : List SlotSet :=
  (l.filterMap Attribute.facts?).flatMap (Facts.setsOf k)

/-- The updates of the message that attributes state, in their order. -/
def Attribute.statedMessages (l : List Attribute) : List MessageUpdate :=
  (l.filterMap Attribute.facts?).flatMap Facts.messages

/-- An update of the message does not touch the slots. -/
theorem MessageUpdate.facts_applyTo (r : Record) (update : MessageUpdate) (k : FactKind) :
    (update.applyTo r).facts k = r.facts k := by
  cases update with
  | replace text => cases k <;> rfl
  | append text => exact Record.facts_appendMessage r text k

theorem MessageUpdate.message_applyTo (r : Record) (update : MessageUpdate) :
    (update.applyTo r).message = update.after r.message := by
  cases update <;> rfl

theorem MessageUpdate.facts_foldl_applyTo (r : Record) (updates : List MessageUpdate)
    (k : FactKind) : (updates.foldl MessageUpdate.applyTo r).facts k = r.facts k := by
  induction updates generalizing r with
  | nil => rfl
  | cons update updates ih => rw [List.foldl_cons, ih, update.facts_applyTo]

theorem MessageUpdate.message_foldl_applyTo (r : Record) (updates : List MessageUpdate) :
    (updates.foldl MessageUpdate.applyTo r).message =
      updates.foldl MessageUpdate.after r.message := by
  induction updates generalizing r with
  | nil => rfl
  | cons update updates ih => rw [List.foldl_cons, ih, update.message_applyTo, List.foldl_cons]

/-- Of the sets only those of the kind come into its slots. -/
theorem Record.facts_foldl_addFacts (policy : ConflictPolicy) (r : Record)
    (sets : List (FactKind × SlotSet)) (k : FactKind) :
    (sets.foldl (fun r s => r.addFacts policy s.1 s.2) r).facts k =
      ((sets.filter fun s => s.1 = k).map Prod.snd).foldl (SlotSet.merge policy) (r.facts k) := by
  induction sets generalizing r with
  | nil => rfl
  | cons s sets ih =>
    rw [List.foldl_cons, ih, Record.facts_addFacts]
    by_cases hk : k = s.1
    · simp [hk]
    · simp [hk, Ne.symm hk]

theorem Record.message_foldl_addFacts (policy : ConflictPolicy) (r : Record)
    (sets : List (FactKind × SlotSet)) :
    (sets.foldl (fun r s => r.addFacts policy s.1 s.2) r).message = r.message := by
  induction sets generalizing r with
  | nil => rfl
  | cons s sets ih => rw [List.foldl_cons, ih, Record.message_addFacts]

namespace Facts

/-- The slots of a kind take the stated sets of this kind, one after the other. -/
theorem facts_applyTo (policy : ConflictPolicy) (r : Record) (facts : Facts) (k : FactKind) :
    (facts.applyTo policy r).facts k =
      (facts.setsOf k).foldl (SlotSet.merge policy) (r.facts k) := by
  rw [applyTo, MessageUpdate.facts_foldl_applyTo, Record.facts_foldl_addFacts]
  rfl

/-- The message takes the updates, one after the other. -/
theorem message_applyTo (policy : ConflictPolicy) (r : Record) (facts : Facts) :
    (facts.applyTo policy r).message =
      facts.messages.foldl MessageUpdate.after r.message := by
  rw [applyTo, MessageUpdate.message_foldl_applyTo, Record.message_foldl_addFacts]

end Facts

namespace Record

/-- There is a record if there was one or something was stated. -/
theorem isSome_addStated (policy : ConflictPolicy) (record : Option Record) (stated : List Facts) :
    (addStated policy record stated).isSome = (record.isSome || !stated.isEmpty) := by
  induction stated generalizing record with
  | nil => simp [addStated]
  | cons facts rest ih =>
    have hrest := ih (some (facts.applyTo policy (record.getD .empty)))
    rw [addStated] at hrest
    rw [addStated, List.foldl_cons, hrest]
    simp

/-- Read as empty where it is absent, the record takes one facts after the other. -/
theorem getD_addStated (policy : ConflictPolicy) (record : Option Record) (stated : List Facts) :
    (addStated policy record stated).getD .empty =
      stated.foldl (fun r facts => facts.applyTo policy r) (record.getD .empty) :=
  (List.foldl_hom (fun record : Option Record => record.getD .empty) (fun _ _ => rfl)).symm

theorem isSome_gather (policy : ConflictPolicy) (record : Option Record) (l : List Attribute) :
    (gather policy record l).isSome =
      (record.isSome || !(l.filterMap Attribute.facts?).isEmpty) :=
  isSome_addStated policy record _

/-- **The slots of a kind** are those that were there, combined with the stated
sets of the kind in their order. -/
theorem facts_gather (policy : ConflictPolicy) (record : Option Record) (l : List Attribute)
    (k : FactKind) : ((gather policy record l).getD .empty).facts k =
      (Attribute.statedSets k l).foldl (SlotSet.merge policy) ((record.getD .empty).facts k) := by
  rw [gather, getD_addStated, Attribute.statedSets, List.foldl_flatMap]
  exact (List.foldl_hom (fun r : Record => r.facts k)
    (fun r facts => (facts.facts_applyTo policy r k).symm)).symm

/-- The message of a record that is absent is absent. -/
theorem message_getD_empty (record : Option Record) :
    (record.getD .empty).message = record.bind Record.message := by
  cases record <;> rfl

/-- **The message** is the one that was there after the stated updates in their
order. -/
theorem message_gather (policy : ConflictPolicy) (record : Option Record) (l : List Attribute) :
    ((gather policy record l).getD .empty).message =
      (Attribute.statedMessages l).foldl MessageUpdate.after (record.getD .empty).message := by
  rw [gather, getD_addStated, Attribute.statedMessages, List.foldl_flatMap]
  exact (List.foldl_hom Record.message
    (fun r facts => (facts.message_applyTo policy r).symm)).symm

end Record

end ApiAvailability

/-
Reading and writing a property at once.

A use that reads and writes goes through both accessors, and the attributes that
it shows are those that a read and an assignment show together, only that those
of the property itself count once. Combining is associative, and order and
repetition do not matter to it, so what is stated of each kind is what the read
states combined with what the assignment states (`facts_gather_of_mem_iff`).

A slot is retained in a combination on either side. So what is said of an API
that is only read, or only assigned, is still said where both is done, provided
that it is said of the property and its accessors: where these state something
with one of the accessors, they do so with both, and the declaring type is not
asked in either case.
-/
import ApiAvailability.Proofs.FlatGathering
import ApiAvailability.Proofs.OrderIndependence
import ApiAvailability.Proofs.Retention

set_option autoImplicit false

namespace ApiAvailability

/-! ## Combinations retain both sides -/

theorem ConflictPolicy.versionNumber_le_combine_right (policy : ConflictPolicy) (s t : Slot) :
    t.versionNumber ≤ (policy.combine s t).versionNumber := by
  rw [policy.combine_comm]
  exact policy.versionNumber_le_combine_left t s

theorem Slot.retainedIn_combine_left (policy : ConflictPolicy) (s t : Slot) :
    s.RetainedIn (policy.combine s t) :=
  (RetainedIn.refl s).combine policy t

theorem Slot.retainedIn_combine_right (policy : ConflictPolicy) (s t : Slot) :
    t.RetainedIn (policy.combine s t) := by
  refine retainedIn_of_le ?_ (policy.versionNumber_le_combine_right s t)
  rw [ConflictPolicy.arch_combine, Architecture.union_assoc, Architecture.union_self]

/-- A record whose slots are combinations of those of two others retains the
slots of both. -/
theorem Record.retainedIn_of_facts_eq_merge {policy : ConflictPolicy}
    {left right both : Option Record}
    (h : ∀ k, (both.getD .empty).facts k =
      ((left.getD .empty).facts k).merge policy ((right.getD .empty).facts k)) :
    RetainedIn left both ∧ RetainedIn right both := by
  have hslot : ∀ k p a b, (left.getD .empty).slot k p = some a →
      (right.getD .empty).slot k p = some b →
      (both.getD .empty).slot k p = some (policy.combine a b) := by
    intro k p a b ha hb
    rw [slot] at ha hb
    rw [slot, h, SlotSet.get_merge, ha, hb]
    rfl
  -- Where one record has a slot so has the other, as the platform is one of the four.
  constructor
  · intro k p a ha
    obtain ⟨b, hb⟩ := ((right.getD .empty).facts k).exists_get (SlotSet.isConcrete_of_get ha)
    exact ⟨_, hslot k p a b ha hb, Slot.retainedIn_combine_left policy a b⟩
  · intro k p b hb
    obtain ⟨a, ha⟩ := ((left.getD .empty).facts k).exists_get (SlotSet.isConcrete_of_get hb)
    exact ⟨_, hslot k p a b ha hb, Slot.retainedIn_combine_right policy a b⟩

/-! ## Two runs in one -/

/-- To combine with the result of a run is to run on. -/
theorem SlotSet.merge_foldl_merge (policy : ConflictPolicy) (t : SlotSet) (l : List SlotSet) :
    t.merge policy (l.foldl (merge policy) empty) = l.foldl (merge policy) t := by
  have hassoc : Std.Associative (merge policy) := ⟨merge_assoc policy⟩
  calc t.merge policy (l.foldl (merge policy) empty)
      = l.foldl (merge policy) (t.merge policy empty) := List.foldl_assoc.symm
    _ = l.foldl (merge policy) t := by rw [merge_empty]

theorem Attribute.statedSets_append (k : FactKind) (l m : List Attribute) :
    statedSets k (l ++ m) = statedSets k l ++ statedSets k m := by
  rw [statedSets, List.filterMap_append, List.flatMap_append]
  rfl

/-- **Two runs in one.** Attributes that are those of two lists together state the
combination of what these state, in whatever order they come and however often. -/
theorem Record.facts_gather_of_mem_iff (policy : ConflictPolicy) {l m n : List Attribute}
    (h : ∀ a, a ∈ n ↔ a ∈ l ∨ a ∈ m) (k : FactKind) :
    ((gather policy none n).getD .empty).facts k =
      (((gather policy none l).getD .empty).facts k).merge policy
        (((gather policy none m).getD .empty).facts k) := by
  have hmem : ∀ a, a ∈ n ↔ a ∈ l ++ m := by
    intro a
    rw [h, List.mem_append]
  have hempty : Record.empty.facts k = SlotSet.empty := by cases k <;> rfl
  -- The two runs become one over both lists, of which only the members count.
  rw [facts_gather, facts_gather, facts_gather, Option.getD_none, hempty,
    SlotSet.merge_foldl_merge, ← List.foldl_append, ← Attribute.statedSets_append]
  exact foldl_eq_of_mem_iff (SlotSet.merge_right_comm policy) (SlotSet.merge_merge_self policy)
    (Attribute.mem_statedSets_iff hmem k) _

/-- A record of which something is said states something. -/
theorem Advisory.any_isSpecified_of_advise? {record : Option Record}
    {minimum : Option Deployment} {p : Platform} {a : Advisory}
    (h : advise? record minimum p = some a) : record.any Record.isSpecified := by
  cases happlicable : applicable record p with
  | none => simp [advise?, deprecation?, introduction?, happlicable] at h
  | some r =>
    obtain ⟨rfl, hguard⟩ := Option.filter_eq_some_iff.1 happlicable
    rw [Bool.and_eq_true] at hguard
    exact hguard.1

/-! ## Uses of one property -/

namespace UseSite

/-- The same use with another access. -/
def via (u : UseSite) (access : Access) : UseSite := { u with access := access }

/-- What the symbols that are visited first state, without falling back on the
declaring type. -/
def gatherOwn (policy : ConflictPolicy) (u : UseSite) : Except CollectError (Option Record) :=
  Symbol.mergeAllInto policy none u.ownSymbols

theorem gatherOwn_eq_ok_iff (policy : ConflictPolicy) (u : UseSite) (record : Option Record) :
    u.gatherOwn policy = .ok record ↔
      (∀ s ∈ u.shownSymbols, s.collectError? = none) ∧
        record = Record.gather policy none u.shownAttributes := by
  rw [gatherOwn, Symbol.mergeAllInto_eq, ownSymbols_eq, ← List.findSome?_eq_none_iff]
  cases u.shownSymbols.findSome? Symbol.collectError? with
  | some e => simp
  | none => simp [shownAttributes, eq_comm]

theorem mem_shownSymbols_iff (u : UseSite) (s : Symbol) : s ∈ u.shownSymbols ↔
    s = u.symbol ∨ u.symbol.kind = .property ∧
      (u.access.reads ∧ u.symbol.getter = some s ∨ u.access.writes ∧ u.symbol.setter = some s) := by
  rw [shownSymbols, List.mem_cons]
  by_cases hkind : u.symbol.kind = .property
  · cases u.access.reads <;> cases u.access.writes <;> simp [hkind]
  · simp [hkind]

/-- A use through both accessors shows the symbols that a read and an assignment
show together. -/
theorem mem_shownSymbols_via {access : Access} (hreads : access.reads) (hwrites : access.writes)
    (u : UseSite) (s : Symbol) : s ∈ (u.via access).shownSymbols ↔
      s ∈ (u.via .read).shownSymbols ∨ s ∈ (u.via .assignmentTarget).shownSymbols := by
  have hread : (s ∈ (u.via .read).shownSymbols) ↔
      s = u.symbol ∨ u.symbol.kind = .property ∧ u.symbol.getter = some s := by
    simp [mem_shownSymbols_iff, via, Access.reads, Access.writes]
  have hassign : (s ∈ (u.via .assignmentTarget).shownSymbols) ↔
      s = u.symbol ∨ u.symbol.kind = .property ∧ u.symbol.setter = some s := by
    simp [mem_shownSymbols_iff, via, Access.reads, Access.writes]
  rw [hread, hassign, mem_shownSymbols_iff]
  simp only [via, hreads, hwrites, true_and]
  rw [and_or_left, or_or_distrib_left]

theorem mem_shownAttributes_via {access : Access} (hreads : access.reads)
    (hwrites : access.writes) (u : UseSite) (a : Attribute) :
    a ∈ (u.via access).shownAttributes ↔
      a ∈ (u.via .read).shownAttributes ∨ a ∈ (u.via .assignmentTarget).shownAttributes := by
  simp only [shownAttributes, List.mem_flatMap, mem_shownSymbols_via hreads hwrites, or_and_right,
    exists_or]

/-- Where the symbols that are visited first state something, their record is
what is gathered. -/
theorem collect_of_gatherOwn {policy : ConflictPolicy} {u : UseSite} {record : Option Record}
    (h : u.gatherOwn policy = .ok record) (hspecified : record.any Record.isSpecified) :
    u.collect policy = .ok ⟨record, u.ownAdvice⟩ := by
  rw [gatherOwn] at h
  rw [collect, h]
  exact if_pos hspecified

/-- **What both state together.** If a read and an assignment can be gathered, a
use that does both can be, and it states of each kind what these state combined. -/
theorem gatherOwn_via {policy : ConflictPolicy} {u : UseSite} {access : Access}
    (hreads : access.reads) (hwrites : access.writes) {read write : Option Record}
    (hread : (u.via .read).gatherOwn policy = .ok read)
    (hwrite : (u.via .assignmentTarget).gatherOwn policy = .ok write) :
    ∃ both, (u.via access).gatherOwn policy = .ok both ∧
      ∀ k, (both.getD .empty).facts k =
        ((read.getD .empty).facts k).merge policy ((write.getD .empty).facts k) := by
  rw [gatherOwn_eq_ok_iff] at hread hwrite
  obtain ⟨hread, rfl⟩ := hread
  obtain ⟨hwrite, rfl⟩ := hwrite
  refine ⟨Record.gather policy none (u.via access).shownAttributes, ?_,
    Record.facts_gather_of_mem_iff policy (mem_shownAttributes_via hreads hwrites u)⟩
  rw [gatherOwn_eq_ok_iff]
  -- A symbol that fails here would have failed in the read or in the assignment.
  refine ⟨fun s hs => ?_, rfl⟩
  rcases (mem_shownSymbols_via hreads hwrites u s).1 hs with hs | hs
  · exact hread s hs
  · exact hwrite s hs

/-- What is said of the record of one use is still said of another one whose record
retains it. -/
theorem exists_advise?_of_retainedIn {policy : ConflictPolicy} {u v : UseSite}
    {own both : Option Record} (hown : u.gatherOwn policy = .ok own)
    (hboth : v.gatherOwn policy = .ok both) (hretained : Record.RetainedIn own both)
    (hspecified : own.any Record.isSpecified) {c : Collected} {minimum : Option Deployment}
    {p : Platform} {a : Advisory} (hc : u.collect policy = .ok c)
    (ha : Advisory.advise? c.record minimum p = some a) :
    ∃ c' a', v.collect policy = .ok c' ∧ Advisory.advise? c'.record minimum p = some a' ∧
      (a'.kind = a.kind ∨ a.kind = .introducedLater ∧ a'.kind = .deprecatedOrObsoleted) := by
  rw [collect_of_gatherOwn hown hspecified] at hc
  cases hc
  obtain ⟨a', ha', hkind⟩ := Advisory.advise?_stays
    (Advisory.isSome_deprecation?_of_retainedIn hretained)
    (Advisory.isSome_introduction?_of_retainedIn hretained) ha
  -- A record of which something is said is specified, so there is no falling back.
  have hboth' := collect_of_gatherOwn hboth (Advisory.any_isSpecified_of_advise? ha')
  exact ⟨_, a', hboth', ha', hkind⟩

/-- **Compound uses of a property.** If a read and a plain assignment of it can be
gathered, so can a compound assignment and an increment. The slots of each kind
are those of the read combined with those of the assignment. And where one of the
two has a record of its own and there is something to say of it, for whatever
target and platform, there is something to say of the compound use, of the same
kind, or of the first kind where it was of the second. -/
theorem collect_compound (policy : ConflictPolicy) (u : UseSite) (access : Access)
    (haccess : access = .compoundAssignment ∨ access = .incrementOrDecrement)
    {read write : Option Record} (hread : (u.via .read).gatherOwn policy = .ok read)
    (hwrite : (u.via .assignmentTarget).gatherOwn policy = .ok write) :
    ∃ both, (u.via access).gatherOwn policy = .ok both ∧
      (∀ k, (both.getD .empty).facts k =
        ((read.getD .empty).facts k).merge policy ((write.getD .empty).facts k)) ∧
      ∀ simple own, simple = .read ∨ simple = .assignmentTarget →
        (u.via simple).gatherOwn policy = .ok own → own.any Record.isSpecified →
        ∀ c minimum p a, (u.via simple).collect policy = .ok c →
          Advisory.advise? c.record minimum p = some a →
          ∃ c' a', (u.via access).collect policy = .ok c' ∧
            Advisory.advise? c'.record minimum p = some a' ∧
            (a'.kind = a.kind ∨ a.kind = .introducedLater ∧ a'.kind = .deprecatedOrObsoleted) := by
  have hreads : access.reads := by rcases haccess with rfl | rfl <;> rfl
  have hwrites : access.writes := by rcases haccess with rfl | rfl <;> rfl
  obtain ⟨both, hboth, hfacts⟩ := gatherOwn_via hreads hwrites hread hwrite
  obtain ⟨hleft, hright⟩ := Record.retainedIn_of_facts_eq_merge hfacts
  refine ⟨both, hboth, hfacts, ?_⟩
  rintro simple own (rfl | rfl) hown hspecified c minimum p a hc ha
  · rw [hread] at hown
    cases hown
    exact exists_advise?_of_retainedIn hread hboth hleft hspecified hc ha
  · rw [hwrite] at hown
    cases hown
    exact exists_advise?_of_retainedIn hwrite hboth hright hspecified hc ha

/-- A property that is too new to be read, because two versions blend, and that
should not be assigned any more. -/
theorem collect_compound_upgraded :
    let accessor (a : Attribute) : Symbol := { Symbol.plain "accessor" .method with attributes := [a] }
    let u : UseSite :=
      ⟨⟨"symbol", .property, [.ios 9 0], some (accessor (.ios 10 0)),
        some (accessor (.single .deprecated .iOS 12 0 .every none)), none⟩,
        .propertyReference, .read, none⟩
    let read : Record := { Record.empty with introduced := .single ⟨.iOS, .unstated, 11, 0, 0⟩ }
    let write : Record :=
      { Record.empty with
        introduced := .single ⟨.iOS, .unstated, 9, 0, 0⟩
        deprecated := .single (.ofVersion .iOS 12 0) }
    (u.via .read).gatherOwn .bitwiseOr = .ok (some read) ∧
    (u.via .assignmentTarget).gatherOwn .bitwiseOr = .ok (some write) ∧
    Advisory.advise? (some read) (some ⟨10, 0, 0⟩) .iOS =
      some ⟨.introducedLater, "is only available on iOS 11.0 or newer"⟩ ∧
    (∃ both, (u.via .compoundAssignment).gatherOwn .bitwiseOr = .ok both ∧
      ∀ k, (both.getD .empty).facts k = (read.facts k).merge .bitwiseOr (write.facts k)) ∧
    ∃ c a, (u.via .compoundAssignment).collect .bitwiseOr = .ok c ∧
      Advisory.advise? c.record (some ⟨10, 0, 0⟩) .iOS = some a ∧
      (a.kind = .introducedLater ∨
        AdvisoryKind.introducedLater = .introducedLater ∧ a.kind = .deprecatedOrObsoleted) := by
  intro accessor u read write
  have hread : (u.via .read).gatherOwn .bitwiseOr = .ok (some read) :=
    (gatherOwn_eq_ok_iff ..).2 ⟨by decide, by decide⟩
  have hwrite : (u.via .assignmentTarget).gatherOwn .bitwiseOr = .ok (some write) :=
    (gatherOwn_eq_ok_iff ..).2 ⟨by decide, by decide⟩
  have hspecified : (some read).any Record.isSpecified := by decide
  have hadvice : Advisory.advise? (some read) (some ⟨10, 0, 0⟩) .iOS =
      some ⟨.introducedLater, "is only available on iOS 11.0 or newer"⟩ := by decide
  obtain ⟨both, hboth, hfacts, hadvised⟩ :=
    collect_compound .bitwiseOr u .compoundAssignment (Or.inl rfl) hread hwrite
  exact ⟨hread, hwrite, hadvice, ⟨both, hboth, hfacts⟩,
    hadvised .read _ (Or.inl rfl) hread hspecified _ _ _ _
      (collect_of_gatherOwn hread hspecified) hadvice⟩

end UseSite

end ApiAvailability

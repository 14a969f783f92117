/-
No fact is ever lost.

A slot is retained in another one (`Slot.RetainedIn`) if that one has at least
its architectures and no earlier version, and states something if it does.
Whatever is combined into a slot, the slot is retained in the result, under
either policy: bits are only added to the mask, and the version either is the
later one or has bits added in each of its parts. By induction over the stated
sets, every slot of a record is retained in what attributes make of the record.

From this it follows that more attributes never silence an advisory. What is
said first is a matter of three slots that state something, and these still do.
What is said second needs a slot with a version later than the target, and it
has none that is earlier; only the first decision can take its place.
-/
import ApiAvailability.Attribute.Binding
import ApiAvailability.Proofs.Decision
import ApiAvailability.Proofs.Gathering
import ApiAvailability.Proofs.SlotLattice

set_option autoImplicit false

namespace ApiAvailability

/-! ## Retained slots -/

namespace Slot

/-- What the first slot states is still there in the second one. -/
structure RetainedIn (s t : Slot) : Prop where
  specified : s.isSpecified → t.isSpecified
  mask : t.arch.contains s.arch
  version : t.compareVersion s ≠ .lt

/-- More architectures and no earlier version are enough. -/
theorem retainedIn_of_le {s t : Slot} (hmask : t.arch.union s.arch = t.arch)
    (hversion : s.versionNumber ≤ t.versionNumber) : s.RetainedIn t where
  specified := by
    intro h
    rw [isSpecified_iff] at h ⊢
    rcases h with hbits | hnumber
    · refine Or.inl fun hzero => hbits ?_
      rw [← hmask, Architecture.union_bits_eq_zero_iff] at hzero
      exact hzero.2
    · exact Or.inr (by omega)
  mask := (Architecture.contains_iff_union_eq ..).2 hmask
  version := (compareVersion_ne_lt_iff ..).2 hversion

theorem RetainedIn.refl (s : Slot) : s.RetainedIn s :=
  retainedIn_of_le (Architecture.union_self _) (Nat.le_refl _)

/-- What is combined into a slot takes nothing away. -/
theorem RetainedIn.combine {s t : Slot} (h : s.RetainedIn t) (policy : ConflictPolicy)
    (u : Slot) : s.RetainedIn (policy.combine t u) := by
  have hmask := (Architecture.contains_iff_union_eq ..).1 h.mask
  have hversion := (compareVersion_ne_lt_iff ..).1 h.version
  refine retainedIn_of_le ?_ (Nat.le_trans hversion (policy.versionNumber_le_combine_left t u))
  rw [ConflictPolicy.arch_combine, Architecture.union_assoc, Architecture.union_comm u.arch,
    ← Architecture.union_assoc, hmask]

end Slot

/-! ## Retained records -/

/-- A slot is retained in a run of combinations that starts from its set. -/
theorem SlotSet.retainedIn_foldl_merge (policy : ConflictPolicy) (l : List SlotSet) {t : SlotSet}
    {p : Platform} {s : Slot} (hs : t.get p = some s) :
    ∃ s', (l.foldl (merge policy) t).get p = some s' ∧ s.RetainedIn s' := by
  -- Every slot on the way retains the first one.
  refine List.foldlRecOn
    (motive := fun u : SlotSet => ∃ s', u.get p = some s' ∧ s.RetainedIn s') l _
    ⟨s, hs, .refl s⟩ ?_
  rintro u ⟨s', hs', hretained⟩ v -
  obtain ⟨w, hw⟩ := v.exists_get (isConcrete_of_get hs)
  refine ⟨policy.combine s' w, ?_, hretained.combine policy w⟩
  rw [get_merge, hs', hw]
  rfl

namespace Record

/-- Every slot of the first record is retained in the second one; an absent
record is read as the empty one. -/
def RetainedIn (record record' : Option Record) : Prop :=
  ∀ k p s, (record.getD .empty).slot k p = some s →
    ∃ s', (record'.getD .empty).slot k p = some s' ∧ s.RetainedIn s'

theorem retainedIn_gather (policy : ConflictPolicy) (record : Option Record)
    (l : List Attribute) : RetainedIn record (gather policy record l) := by
  intro k p s hs
  rw [slot, facts_gather]
  exact SlotSet.retainedIn_foldl_merge policy _ hs

theorem RetainedIn.isSpecifiedFor {record record' : Option Record}
    (h : RetainedIn record record') {k : FactKind} {p : Platform}
    (hk : (record.getD .empty).isSpecifiedFor k p) :
    (record'.getD .empty).isSpecifiedFor k p := by
  obtain ⟨s, hs, hspecified⟩ := (isSpecifiedFor_iff _ k p).1 hk
  obtain ⟨s', hs', hretained⟩ := h k p s hs
  exact (isSpecifiedFor_iff _ k p).2 ⟨s', hs', hretained.specified hspecified⟩

end Record

/-! ## Advisories that stay -/

namespace Advisory

theorem isSome_deprecation?_of_retainedIn {record record' : Option Record}
    (h : Record.RetainedIn record record') {p : Platform}
    (hsome : (deprecation? record p).isSome) : (deprecation? record' p).isSome := by
  rw [isSome_deprecation?_iff] at hsome ⊢
  rcases hsome with hk | hk | hk
  · exact Or.inl (h.isSpecifiedFor hk)
  · exact Or.inr (Or.inl (h.isSpecifiedFor hk))
  · exact Or.inr (Or.inr (h.isSpecifiedFor hk))

theorem isSome_introduction?_of_retainedIn {record record' : Option Record}
    (h : Record.RetainedIn record record') {minimum : Option Deployment} {p : Platform}
    (hsome : (introduction? record minimum p).isSome) :
    (introduction? record' minimum p).isSome := by
  rw [isSome_introduction?_iff] at hsome ⊢
  obtain ⟨d, s, hd, hs, hspecified, hlater⟩ := hsome
  obtain ⟨s', hs', hretained⟩ := h .introduced p s hs
  have hversion := (Slot.compareVersion_ne_lt_iff ..).1 hretained.version
  exact ⟨d, s', hd, hs', hretained.specified hspecified, by omega⟩

end Advisory

/-- **No fact is lost.** Attributes of which none is an error are gathered into
any record without one. Every slot of the record is retained in the result; and
for every target and platform an advisory about the record stays one about the
result, of the same kind, or of the first kind where it was of the second. -/
theorem Record.mergeAttributes_retains (policy : ConflictPolicy) (record : Option Record)
    (l : List Attribute) (h : ∀ a ∈ l, a.unknownByte? = none) :
    ∃ merged, mergeAttributes policy record l = .ok merged ∧
      (∀ k p s, (record.getD .empty).slot k p = some s →
        ∃ s', (merged.getD .empty).slot k p = some s' ∧ s.RetainedIn s') ∧
      ∀ minimum p a, Advisory.advise? record minimum p = some a →
        ∃ a', Advisory.advise? merged minimum p = some a' ∧
          (a'.kind = a.kind ∨ a.kind = .introducedLater ∧ a'.kind = .deprecatedOrObsoleted) := by
  have hretained := retainedIn_gather policy record l
  exact ⟨gather policy record l, mergeAttributes_eq_ok h policy record, hretained,
    fun _ _ _ ha => Advisory.advise?_stays (Advisory.isSome_deprecation?_of_retainedIn hretained)
      (Advisory.isSome_introduction?_of_retainedIn hretained) ha⟩

/-- An API that is too new for the target, and is then said to be deprecated. -/
theorem Record.mergeAttributes_retains_introduction :
    let record : Option Record :=
      some { Record.empty with introduced := .single (.ofVersion .iOS 11 0) }
    let l := [Attribute.single .deprecated .iOS 12 0 .every none]
    (∀ a ∈ l, a.unknownByte? = none) ∧
    ∃ merged, mergeAttributes .preferNewest record l = .ok merged ∧
      (∃ s, (merged.getD .empty).slot .introduced .iOS = some s ∧
        (Slot.ofVersion .iOS 11 0).RetainedIn s) ∧
      ∃ a, Advisory.advise? merged (some ⟨10, 0, 0⟩) .iOS = some a ∧
        (a.kind = .introducedLater ∨
          AdvisoryKind.introducedLater = .introducedLater ∧ a.kind = .deprecatedOrObsoleted) := by
  intro record l
  have h : ∀ a ∈ l, a.unknownByte? = none := by decide
  have ha : Advisory.advise? record (some ⟨10, 0, 0⟩) .iOS =
      some ⟨.introducedLater, "is only available on iOS 11.0 or newer"⟩ := by decide
  obtain ⟨merged, hmerged, hslots, hadvice⟩ := mergeAttributes_retains .preferNewest record l h
  exact ⟨h, merged, hmerged, hslots .introduced .iOS _ rfl, hadvice _ _ _ ha⟩

end ApiAvailability

/-
Where the later version is preferred, no version is invented.

Combining two slots by `newest` takes the greater of both versions whole, so it is a
maximum, and a maximum is one of the things that it is taken over. This is all there is
to a single step (`LatestOf.newest`); by induction over the slots in a position the run
over them has the latest version among them, which one of them has (`latestOf_foldl_newest`).

The slots in a position are those that attributes state and fillers that state nothing.
A filler has version 0.0.0, which no version comes before, so the latest version is the
same without the fillers, except that without anything else it is nobody's
(`LatestOf.restrict`).
-/
import ApiAvailability.Attribute.Binding
import ApiAvailability.Proofs.StatedSlots

set_option autoImplicit false

namespace ApiAvailability

namespace Slot

/-! ## The latest of some versions -/

/-- Of the slots that are stated none has a later version, and one of them has this one;
if there is none, the version is 0.0.0. -/
structure LatestOf (r : Slot) (stated : Slot → Prop) : Prop where
  attained : (∃ s, stated s ∧ s.version = r.version) ∨
    (∀ s, ¬stated s) ∧ r.version = (0, 0, 0)
  latest : ∀ s, stated s → s.compareVersion r ≠ .gt

theorem versionNumber_eq_of_version_eq {s t : Slot} (h : s.version = t.version) :
    s.versionNumber = t.versionNumber := by
  simp only [version, Prod.mk.injEq] at h
  obtain ⟨hmajor, hminor, hsubminor⟩ := h
  rw [versionNumber, versionNumber, hmajor, hminor, hsubminor]

theorem version_eq_zero_iff (s : Slot) : s.version = (0, 0, 0) ↔ s.versionNumber = 0 := by
  have hzero : (unspecified s.platform).versionNumber = 0 := versionNumber_unspecified _
  constructor
  · intro h
    rw [← hzero]
    exact versionNumber_eq_of_version_eq h
  · intro h
    rw [← hzero] at h
    exact version_eq_of_versionNumber_eq h

theorem compareVersion_ne_gt_iff (s t : Slot) :
    s.compareVersion t ≠ .gt ↔ s.versionNumber ≤ t.versionNumber := by
  rw [ne_eq, compareVersion_eq_gt_iff, Nat.not_lt]

variable {r : Slot} {stated : Slot → Prop}

theorem LatestOf.versionNumber_le (h : r.LatestOf stated) {s : Slot} (hs : stated s) :
    s.versionNumber ≤ r.versionNumber :=
  (compareVersion_ne_gt_iff s r).1 (h.latest s hs)

/-- **One step.** The later of two versions is the latest with the second slot, too. -/
theorem LatestOf.newest (h : r.LatestOf stated) (s : Slot) :
    (r.newest s).LatestOf fun t => stated t ∨ t = s := by
  have hmax := versionNumber_newest r s
  constructor
  · by_cases hle : s.versionNumber ≤ r.versionNumber
    · have hkept : (r.newest s).versionNumber = r.versionNumber := by
        rw [hmax, Nat.max_eq_left hle]
      rcases h.attained with ⟨t, ht, hversion⟩ | ⟨-, hzero⟩
      · refine Or.inl ⟨t, Or.inl ht, version_eq_of_versionNumber_eq ?_⟩
        rw [hkept]
        exact versionNumber_eq_of_version_eq hversion
      · -- Nothing came before, so the version of the second slot is 0.0.0 as well.
        rw [version_eq_zero_iff] at hzero
        refine Or.inl ⟨s, Or.inr rfl, version_eq_of_versionNumber_eq ?_⟩
        omega
    · refine Or.inl ⟨s, Or.inr rfl, version_eq_of_versionNumber_eq ?_⟩
      omega
  · intro t ht
    rw [compareVersion_ne_gt_iff, hmax]
    rcases ht with ht | rfl
    · have hle := h.versionNumber_le ht
      omega
    · exact Nat.le_max_right ..

/-- **A run** over slots, from one that states nothing, has the latest version among them. -/
theorem latestOf_foldl_newest (l : List Slot) (p : Platform) :
    (l.foldl newest (unspecified p)).LatestOf (· ∈ l) := by
  -- From the right, so that the last step is the step above.
  induction l using List.reverseRecOn with
  | nil =>
    refine ⟨Or.inr ⟨fun s => List.not_mem_nil, rfl⟩, fun s hs => ?_⟩
    exact absurd hs List.not_mem_nil
  | append_singleton l s ih =>
    have hmem : (fun t => t ∈ l ++ [s]) = fun t => t ∈ l ∨ t = s := by
      funext t
      rw [List.mem_append, List.mem_singleton]
    rw [List.foldl_append, List.foldl_cons, List.foldl_nil, hmem]
    exact ih.newest s

/-- Slots that state nothing need not be looked at. -/
theorem LatestOf.restrict {stated' : Slot → Prop} (h : r.LatestOf stated)
    (hsub : ∀ s, stated' s → stated s) (hsup : ∀ s, stated s → s.isSpecified → stated' s) :
    r.LatestOf stated' := by
  refine ⟨?_, fun s hs => h.latest s (hsub s hs)⟩
  rcases h.attained with ⟨s, hs, hversion⟩ | ⟨hnone, hzero⟩
  · by_cases hspecified : s.isSpecified
    · exact Or.inl ⟨s, hsup s hs hspecified, hversion⟩
    · -- The version is that of a filler: whatever else there is has it too.
      have hfiller := ((isSpecified_eq_false_iff s).1 (Bool.eq_false_iff.2 hspecified)).2
      have hzero : r.versionNumber = 0 := by
        rw [← versionNumber_eq_of_version_eq hversion, hfiller]
      by_cases hany : ∃ t, stated' t
      · obtain ⟨t, ht⟩ := hany
        have hle := h.versionNumber_le (hsub t ht)
        exact Or.inl ⟨t, ht, version_eq_of_versionNumber_eq (by omega)⟩
      · exact Or.inr ⟨not_exists.1 hany, (version_eq_zero_iff r).2 hzero⟩
  · exact Or.inr ⟨fun s hs => hnone s (hsub s hs), hzero⟩

end Slot

namespace Record

theorem latestOf_slot_gather_none {l : List Attribute} {k : FactKind} {p : Platform} {r : Slot}
    (hr : ((gather .preferNewest none l).getD .empty).slot k p = some r) :
    r.LatestOf (Attribute.StatedIn l k p) := by
  have hp : p.isConcrete := SlotSet.isConcrete_of_get hr
  rw [slot_gather_none .preferNewest l k hp] at hr
  cases hr
  refine (Slot.latestOf_foldl_newest (Attribute.slotsRead l k p) p).restrict ?_ ?_
  · intro s hs
    exact Attribute.mem_slotsRead_of_statedIn hs
  · intro s hs hspecified
    exact Attribute.statedIn_of_mem_slotsRead hs hspecified

/-- **No version is invented.** Attributes of which none is an error are gathered from
nothing, the later version being preferred, without an error. Every slot then has the
latest of the versions that are stated for its kind and platform, which one of the
attributes states, or 0.0.0 if none states any; and of its mask the bits are set that are
set in a mask that is stated. -/
theorem mergeAttributes_newest (l : List Attribute) (h : ∀ a ∈ l, a.unknownByte? = none) :
    ∃ merged, mergeAttributes .preferNewest none l = .ok merged ∧
      ∀ (k : FactKind) (p : Platform), p.isConcrete →
        ∃ r, (merged.getD .empty).slot k p = some r ∧ r.LatestOf (Attribute.StatedIn l k p) ∧
          ∀ i, r.arch.hasBit i ↔ ∃ s, Attribute.StatedIn l k p s ∧ s.arch.hasBit i := by
  refine ⟨_, mergeAttributes_eq_ok h .preferNewest none, fun k p hp => ?_⟩
  obtain ⟨r, hr⟩ := (((gather .preferNewest none l).getD .empty).facts k).exists_get hp
  exact ⟨r, hr, latestOf_slot_gather_none hr, hasBit_slot_gather_none .preferNewest hr⟩

/-- Versions from three sorts of attributes and a mask from a fourth; the latest one comes
from an encoding, between an earlier one with greater later parts and a mask alone. -/
theorem mergeAttributes_newest_encoding :
    let l : List Attribute :=
      [.ios 9 8, .aggregate [0x10a0201], .single .introduced .iOS 10 1 ⟨4⟩ none,
        ⟨Shape.interopScope, "IntroducedAttribute", [.byte 2, .byte 2, .null], []⟩,
        .single .deprecated .iOS 11 0 .every none]
    (∀ a ∈ l, a.unknownByte? = none) ∧
    ∃ merged r, mergeAttributes .preferNewest none l = .ok merged ∧
      (merged.getD .empty).slot .introduced .iOS = some r ∧ r = ⟨.iOS, ⟨7⟩, 10, 2, 1⟩ ∧
      Platform.iOS.isConcrete ∧ r.LatestOf (Attribute.StatedIn l .introduced .iOS) ∧
      ∀ i, r.arch.hasBit i ↔
        ∃ s, Attribute.StatedIn l .introduced .iOS s ∧ s.arch.hasBit i := by
  intro l
  have h : ∀ a ∈ l, a.unknownByte? = none := by decide
  obtain ⟨merged, hmerged, hslots⟩ := mergeAttributes_newest l h
  obtain ⟨r, hr, hlatest, hmask⟩ := hslots .introduced .iOS rfl
  refine ⟨h, merged, r, hmerged, hr, ?_, rfl, hlatest, hmask⟩
  rw [gather_of_mergeAttributes_eq_ok hmerged] at hr
  exact Option.some.inj (hr.symm.trans (by decide))

end Record

end ApiAvailability

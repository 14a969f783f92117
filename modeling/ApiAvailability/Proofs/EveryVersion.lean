/-
An introduction that is for every version.

The major part 0xff stands for every version. Where a slot is named it is taken so, and no
version is shown (`fullName_of_anyVersion`); where it is compared with the target it is a
number like any other, and the greatest there is (`laterThan_iff_of_anyVersion`). So such
an API is too new for every target whose major part is another one, in words that name no
version. Only a target that has 0xff as its major part itself, and is not earlier by the
parts that follow, leaves nothing to say.
-/
import ApiAvailability.Attribute.Binding
import ApiAvailability.Proofs.PlatformView
import ApiAvailability.Proofs.Gathering

set_option autoImplicit false

namespace ApiAvailability

namespace Slot

/-- The label shows no version. -/
theorem fullName_of_anyVersion {s : Slot} (h : s.major = anyVersion) :
    ∃ limit ∈ ["", " 32-bit", " 64-bit"], s.fullName = s.platform.displayName ++ limit := by
  have hversion : ¬(decide (s.major > 0) && decide (s.major ≠ anyVersion)) = true := by
    simp [h]
  unfold fullName
  dsimp only
  rw [if_neg hversion]
  by_cases h32 : s.arch.effective = .arch32
  · exact ⟨" 32-bit", by decide, by rw [if_pos h32]⟩
  · by_cases h64 : s.arch.effective = .arch64
    · exact ⟨" 64-bit", by decide, by rw [if_neg h32, if_pos h64]⟩
    · exact ⟨"", by decide, by rw [if_neg h32, if_neg h64, String.append_empty]⟩

/-- The comparison takes the major part as a number that nothing exceeds. -/
theorem laterThan_iff_of_anyVersion {s : Slot} (h : s.major = anyVersion) (d : Deployment) :
    s.LaterThan d ↔
      ¬(d.major = anyVersion ∧ (s.minor < d.minor ∨ s.minor = d.minor ∧ s.subminor = 0)) := by
  have hmajor := d.major.toNat_lt
  have hany : anyVersion.toNat = 255 := rfl
  have hzero : (0 : UInt8).toNat = 0 := rfl
  unfold LaterThan
  simp only [h, UInt8.lt_iff_toNat_lt, ← UInt8.toNat_inj, hany, hzero]
  omega

theorem isSpecified_of_anyVersion {s : Slot} (h : s.major = anyVersion) : s.isSpecified := by
  have hmajor : s.major ≠ 0 := by
    rw [h]
    decide
  simp [isSpecified, hmajor]

end Slot

namespace Advisory

/-- **An introduction for every version** is told as too new. There is nothing to say
exactly if there is no target, or if its major part stands for every version, too, and it
is not earlier by the parts that follow. What is said otherwise names the platform, and
perhaps the one architecture to which the API is limited, but no version. -/
theorem introduction?_anyVersion {record : Option Record} {p : Platform} {s : Slot}
    (hs : (record.getD .empty).slot .introduced p = some s) (hmajor : s.major = Slot.anyVersion)
    (minimum : Option Deployment) :
    (introduction? record minimum p = none ↔
      ∀ d, minimum = some d → d.major = Slot.anyVersion ∧
        (s.minor < d.minor ∨ s.minor = d.minor ∧ s.subminor = 0)) ∧
    ∀ text, introduction? record minimum p = some text →
      ∃ limit ∈ ["", " 32-bit", " 64-bit"],
        text = "is only available on " ++ (s.platform.displayName ++ limit) ++ " or newer" ++
          (if requires64 s then " and requires a 64-bit architecture" else "") := by
  have hspecified := Slot.isSpecified_of_anyVersion hmajor
  rw [introduction?_of_slot hs]
  constructor
  · rw [Option.bind_eq_none_iff]
    refine forall₂_congr fun d _ => ?_
    rw [ite_eq_right_iff, Slot.laterThan_iff_of_anyVersion hmajor]
    constructor
    · intro hnone
      refine Decidable.not_not.1 fun hlater => ?_
      cases hnone ⟨hspecified, hlater⟩
    · rintro hreached ⟨-, hlater⟩
      exact absurd hreached hlater
  · intro text htext
    obtain ⟨d, -, htext⟩ := Option.bind_eq_some_iff.1 htext
    obtain ⟨limit, hlimit, hname⟩ := Slot.fullName_of_anyVersion hmajor
    refine ⟨limit, hlimit, ?_⟩
    rw [← hname]
    exact (Option.some.inj (Option.ite_none_right_eq_some.1 htext).2).symm

/-- Two versions whose bits are united to the one that stands for every version. -/
theorem introduction?_anyVersion_united :
    let record : Option Record :=
      some { Record.empty with introduced := .single ⟨.iOS, .every, 0xff, 3, 0⟩ }
    let s : Slot := ⟨.iOS, .every, 0xff, 3, 0⟩
    Record.mergeAttributes .bitwiseOr none
      [.single .introduced .iOS 0xf0 1 .every none, .single .introduced .iOS 0x0f 2 .every none] =
        .ok record ∧
    (record.getD .empty).slot .introduced .iOS = some s ∧ s.major = Slot.anyVersion ∧
    introduction? record (some ⟨0xff, 3, 0⟩) .iOS = none ∧
    introduction? record (some ⟨0xfe, 9, 0⟩) .iOS ≠ none := by
  intro record s
  have hmerged : Record.mergeAttributes .bitwiseOr none
      [.single .introduced .iOS 0xf0 1 .every none, .single .introduced .iOS 0x0f 2 .every none] =
        .ok record :=
    Record.mergeAttributes_of_gather_eq (by decide) (by decide)
  have hs : (record.getD .empty).slot .introduced .iOS = some s := rfl
  obtain ⟨hquiet, -⟩ := introduction?_anyVersion hs rfl (some ⟨0xff, 3, 0⟩)
  obtain ⟨htold, -⟩ := introduction?_anyVersion hs rfl (some ⟨0xfe, 9, 0⟩)
  refine ⟨hmerged, hs, rfl, hquiet.2 ?_, fun hnone => ?_⟩
  · rintro d ⟨⟩
    exact ⟨rfl, Or.inr ⟨rfl, rfl⟩⟩
  · obtain ⟨hmajor, -⟩ := htold.1 hnone _ rfl
    exact absurd hmajor (by decide)

/-- An API that an attribute introduces for every version, told as too new. -/
theorem introduction?_anyVersion_tooNew :
    let l := [Attribute.single .introduced .iOS Slot.anyVersion 0 .every none]
    ∃ merged s, Record.mergeAttributes .bitwiseOr none l = .ok merged ∧
      (merged.getD .empty).slot .introduced .iOS = some s ∧ s.major = Slot.anyVersion ∧
      introduction? merged (some ⟨14, 0, 0⟩) .iOS = some "is only available on iOS or newer" := by
  intro l
  refine ⟨some { Record.empty with introduced := .single (.ofVersion .iOS 0xff 0) },
    .ofVersion .iOS 0xff 0, ?_, rfl, rfl, by decide⟩
  exact Record.mergeAttributes_of_gather_eq (by decide) (by decide)

end Advisory

end ApiAvailability

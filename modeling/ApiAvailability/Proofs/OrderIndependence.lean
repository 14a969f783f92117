/-
Order and repetition of attributes do not matter, but for the message.

The slots of what is gathered are a run of combinations over the stated sets,
and combining is indifferent to order (`merge_right_comm`) and to repetition
(`merge_merge_self`). Both hold with the platforms that the slots name, because
these are always those of the record at the start. So a run depends only on
which sets are stated, hence only on which attributes there are
(`mergeAttributes_sameSlots`). Whether there is a record, and whether the run
fails, are matters of the members alone; which of several failures is reported,
and what becomes of the message, are not.
-/
import ApiAvailability.Attribute.Binding
import ApiAvailability.Proofs.Gathering
import ApiAvailability.Proofs.SlotLattice

set_option autoImplicit false

namespace ApiAvailability

/-! ## Runs that depend on members only -/

section

variable {α β : Type} {f : β → α → β}

/-- Adding one more member first is the same as adding it last. -/
theorem foldl_step_comm (hcomm : ∀ s a b, f (f s a) b = f (f s b) a) (l : List α) (s : β)
    (a : α) : l.foldl f (f s a) = f (l.foldl f s) a := by
  induction l generalizing s with
  | nil => rfl
  | cons b l ih => rw [List.foldl_cons, List.foldl_cons, hcomm, ih]

/-- A member of what was added already adds nothing. -/
theorem step_foldl_of_mem (hcomm : ∀ s a b, f (f s a) b = f (f s b) a)
    (hself : ∀ s a, f (f s a) a = f s a) {l : List α} {a : α} (ha : a ∈ l) (s : β) :
    f (l.foldl f s) a = l.foldl f s := by
  obtain ⟨l₁, l₂, rfl⟩ := List.append_of_mem ha
  rw [List.foldl_append, List.foldl_cons, foldl_step_comm hcomm, hself]

/-- Members of what was added already add nothing together. -/
theorem foldl_append_of_subset (hcomm : ∀ s a b, f (f s a) b = f (f s b) a)
    (hself : ∀ s a, f (f s a) a = f s a) {l m : List α} (h : ∀ a ∈ m, a ∈ l) (s : β) :
    (l ++ m).foldl f s = l.foldl f s := by
  induction m with
  | nil => rw [List.append_nil]
  | cons a m ih =>
    have ha : a ∈ l := h a (List.mem_cons_self ..)
    have hm : ∀ b ∈ m, b ∈ l := fun b hb => h b (List.mem_cons_of_mem a hb)
    rw [List.foldl_append, List.foldl_cons, step_foldl_of_mem hcomm hself ha, ← List.foldl_append,
      ih hm]

/-- **Runs over the same members end alike,** if steps commute and a step that
is made twice counts once. Both runs are taken on: each list followed by the
other is a permutation of the other followed by it. -/
theorem foldl_eq_of_mem_iff (hcomm : ∀ s a b, f (f s a) b = f (f s b) a)
    (hself : ∀ s a, f (f s a) a = f s a) {l m : List α} (h : ∀ a, a ∈ l ↔ a ∈ m) (s : β) :
    l.foldl f s = m.foldl f s := by
  have hperm : (l ++ m).Perm (m ++ l) := List.perm_append_comm
  calc l.foldl f s
      = (l ++ m).foldl f s := (foldl_append_of_subset hcomm hself (fun a => (h a).2) s).symm
    _ = (m ++ l).foldl f s := hperm.foldl_eq' (fun a _ b _ s => hcomm s a b) s
    _ = m.foldl f s := foldl_append_of_subset hcomm hself (fun a => (h a).1) s

end

/-! ## Attributes with the same members -/

theorem Attribute.mem_statedSets_iff {l m : List Attribute} (h : ∀ a, a ∈ l ↔ a ∈ m)
    (k : FactKind) (t : SlotSet) : t ∈ statedSets k l ↔ t ∈ statedSets k m := by
  simp only [statedSets, List.mem_flatMap, List.mem_filterMap, h]

namespace Record

/-- Two runs that agree on everything but messages and which failure is reported. -/
inductive SameSlots : Except MergeError (Option Record) → Except MergeError (Option Record) → Prop
  | failed (e e' : MergeError) : SameSlots (.error e) (.error e')
  | absent : SameSlots (.ok none) (.ok none)
  | present (r r' : Record) (h : ∀ k p, r.slot k p = r'.slot k p) :
    SameSlots (.ok (some r)) (.ok (some r'))

/-- What two records hold is the same if it is the same where absence is read
as the empty record. -/
theorem sameSlots_ok {record record' : Option Record} (hsome : record.isSome = record'.isSome)
    (hfacts : ∀ k, (record.getD .empty).facts k = (record'.getD .empty).facts k) :
    SameSlots (.ok record) (.ok record') := by
  cases record with
  | none =>
    cases record' with
    | none => exact .absent
    | some r' => cases hsome
  | some r =>
    cases record' with
    | none => cases hsome
    | some r' =>
      refine .present r r' fun k p => ?_
      have hk : r.facts k = r'.facts k := hfacts k
      rw [slot, slot, hk]

/-- **Order and repetition do not matter.** Attributes with the same members,
gathered into the same record, fail together; and where they do not fail they
leave a record together, with the same slots, down to the platforms that these
name. -/
theorem mergeAttributes_sameSlots (policy : ConflictPolicy) (record : Option Record)
    (l m : List Attribute) (h : ∀ a, a ∈ l ↔ a ∈ m) :
    SameSlots (mergeAttributes policy record l) (mergeAttributes policy record m) := by
  rw [mergeAttributes_eq, mergeAttributes_eq]
  have hfails : l.findSome? Attribute.mergeError? = none ↔
      m.findSome? Attribute.mergeError? = none := by
    simp only [List.findSome?_eq_none_iff, h]
  cases hl : l.findSome? Attribute.mergeError? with
  | some e =>
    cases hm : m.findSome? Attribute.mergeError? with
    | some e' => exact .failed e e'
    | none => cases hl ▸ hfails.2 hm
  | none =>
    rw [hfails.1 hl]
    -- Presence is a matter of whether anything is stated, each kind of slot of
    -- which sets are; the message is left open.
    refine sameSlots_ok ?_ fun k => ?_
    · have hempty : (l.filterMap Attribute.facts?).isEmpty =
          (m.filterMap Attribute.facts?).isEmpty := by
        rw [Bool.eq_iff_iff]
        simp only [List.isEmpty_iff, List.filterMap_eq_nil_iff, h]
      rw [isSome_gather, isSome_gather, hempty]
    · rw [facts_gather, facts_gather]
      exact foldl_eq_of_mem_iff (SlotSet.merge_right_comm policy) (SlotSet.merge_merge_self policy)
        (Attribute.mem_statedSets_iff h k) _

/-- Two messages in the two orders: the records differ, but not in their slots. -/
theorem mergeAttributes_sameSlots_swapped :
    let a := Attribute.single .deprecated .iOS 9 0 .every (some "first")
    let b := Attribute.single .deprecated .iOS 10 0 .arch64 (some "second")
    (∀ c, c ∈ [a, b] ↔ c ∈ [b, b, a]) ∧
    (mergeAttributes .bitwiseOr none [a, b]).toOption ≠
      (mergeAttributes .bitwiseOr none [b, b, a]).toOption ∧
    SameSlots (mergeAttributes .bitwiseOr none [a, b])
      (mergeAttributes .bitwiseOr none [b, b, a]) := by
  intro a b
  have hmem : ∀ c, c ∈ [a, b] ↔ c ∈ [b, b, a] := by
    intro c
    simp only [List.mem_cons, List.not_mem_nil, or_false]
    rw [← or_assoc, or_self, or_comm]
  refine ⟨hmem, ?_, mergeAttributes_sameSlots .bitwiseOr none [a, b] [b, b, a] hmem⟩
  decide

end Record

end ApiAvailability

/-
The order of members does not matter to a decoder.

Between a writer and a reader a JSON value may be kept in a form that sorts the
members of its objects, or does not keep their order at all. So what is proved of a
decoder is not that it reads one value but that it reads every reordering of it
(`Decoder.Reads`), with any allowance that the value cannot use up.

A decoder of a structure reads its fields by name, and what it finds under a name is
settled for all structures at once: where the names are distinct and declared, the
fields that are found are those that were written, each reordered inside
(`exists_holds`). What is left for a structure is one look-up for each field
(`Holds.required` and its like).
-/
import ApiAvailability.Json.Decoder

set_option autoImplicit false

namespace ApiAvailability

namespace Json

/-! ## Reordering -/

mutual

/-- The second value is the first one with the members of its objects, at any depth,
in another order. -/
inductive Reordered : Json → Json → Prop
  | same (j : Json) : Reordered j j
  | arr {js js' : List Json} : ReorderedElements js js' → Reordered (arr js) (arr js')
  | obj {ms ms' ms'' : List (String × Json)} : ReorderedMembers ms ms' → ms'.Perm ms'' →
      Reordered (obj ms) (obj ms'')

/-- Element by element, the second list has the reordered values of the first. -/
inductive ReorderedElements : List Json → List Json → Prop
  | nil : ReorderedElements [] []
  | cons {j j' : Json} {js js' : List Json} : Reordered j j' → ReorderedElements js js' →
      ReorderedElements (j :: js) (j' :: js')

/-- Member by member, the second list has the reordered values of the first under the
same names. -/
inductive ReorderedMembers : List (String × Json) → List (String × Json) → Prop
  | nil : ReorderedMembers [] []
  | cons {name : String} {j j' : Json} {ms ms' : List (String × Json)} : Reordered j j' →
      ReorderedMembers ms ms' → ReorderedMembers ((name, j) :: ms) ((name, j') :: ms')

end

theorem ReorderedElements.same (js : List Json) : ReorderedElements js js := by
  induction js with
  | nil => exact .nil
  | cons j js ih => exact .cons (.same j) ih

theorem ReorderedMembers.same (ms : List (String × Json)) : ReorderedMembers ms ms := by
  induction ms with
  | nil => exact .nil
  | cons m ms ih => exact .cons (.same m.2) ih

theorem Reordered.exists_arr {js : List Json} {j : Json} (h : (Json.arr js).Reordered j) :
    ∃ js', j = .arr js' ∧ ReorderedElements js js' := by
  cases h with
  | same => exact ⟨js, rfl, .same js⟩
  | arr helements => exact ⟨_, rfl, helements⟩

theorem Reordered.exists_obj {ms : List (String × Json)} {j : Json}
    (h : (Json.obj ms).Reordered j) :
    ∃ ms' ms'', j = .obj ms'' ∧ ReorderedMembers ms ms' ∧ ms'.Perm ms'' := by
  cases h with
  | same => exact ⟨ms, ms, rfl, .same ms, .refl ms⟩
  | obj hmembers hperm => exact ⟨_, _, rfl, hmembers, hperm⟩

theorem ReorderedMembers.map_fst_eq {ms ms' : List (String × Json)} (h : ReorderedMembers ms ms') :
    ms'.map (·.1) = ms.map (·.1) := by
  induction ms generalizing ms' with
  | nil =>
    cases h
    rfl
  | cons m ms ih =>
    cases h with
    | cons hfirst hrest => rw [List.map_cons, List.map_cons, ih hrest]

theorem ReorderedMembers.lookup {ms ms' : List (String × Json)} (h : ReorderedMembers ms ms')
    (name : String) : Option.Rel Reordered (ms.lookup name) (ms'.lookup name) := by
  induction ms generalizing ms' with
  | nil =>
    cases h
    exact .none
  | cons m ms ih =>
    cases h with
    | @cons first j j' _ _ hfirst hrest =>
      rw [List.lookup_cons, List.lookup_cons]
      cases name == first with
      | true => exact .some hfirst
      | false => exact ih hrest

/-! ## Looking up and nesting -/

theorem mem_of_lookup_eq_some {name : String} {j : Json} {ms : List (String × Json)}
    (h : ms.lookup name = some j) : (name, j) ∈ ms := by
  obtain ⟨before, after, rfl, -⟩ := List.lookup_eq_some_iff.1 h
  exact List.mem_append_right _ List.mem_cons_self

/-- With distinct names, what is looked up is what is there. -/
theorem lookup_eq_some_iff_mem {name : String} {j : Json} {ms : List (String × Json)}
    (hnodup : (ms.map (·.1)).Nodup) : ms.lookup name = some j ↔ (name, j) ∈ ms := by
  refine ⟨mem_of_lookup_eq_some, fun hmem => ?_⟩
  obtain ⟨before, after, rfl⟩ := List.append_of_mem hmem
  -- A member of the same name in front of this one would make the name a repeated one.
  refine List.lookup_eq_some_iff.2 ⟨before, after, rfl, fun m hm => ?_⟩
  rw [List.map_append, List.map_cons] at hnodup
  have hdisjoint := (List.nodup_append.1 hnodup).2.2 m.1 (List.mem_map_of_mem hm)
    name List.mem_cons_self
  simpa using fun heq : name = m.1 => hdisjoint heq.symm

theorem lookup_perm {ms ms' : List (String × Json)} (h : ms.Perm ms')
    (hnodup : (ms.map (·.1)).Nodup) (name : String) : ms'.lookup name = ms.lookup name := by
  have hnodup' : (ms'.map (·.1)).Nodup := (h.map _).nodup_iff.1 hnodup
  refine Option.ext fun j => ?_
  rw [lookup_eq_some_iff_mem hnodup, lookup_eq_some_iff_mem hnodup', h.mem_iff]

theorem depth_le_of_mem_members {m : String × Json} {ms : List (String × Json)} (h : m ∈ ms) :
    m.2.depth ≤ depthOfMembers ms := by
  induction ms with
  | nil => exact absurd h List.not_mem_nil
  | cons m' ms ih =>
    rw [depthOfMembers]
    rcases List.mem_cons.1 h with rfl | hrest
    · exact Nat.le_max_left _ _
    · exact Nat.le_trans (ih hrest) (Nat.le_max_right _ _)

end Json

namespace Decoder

variable {α : Type}

/-- The decoder reads `a` from every reordering of the value, with every allowance that the
reordering cannot use up. -/
def Reads (d : Decoder α) (j : Json) (a : α) : Prop :=
  ∀ j' levels, j.Reordered j' → j'.depth ≤ levels → d levels j' = some a

theorem Reads.all? {d : Decoder α} {j : Json} {a : α} (h : d.Reads j a) {j' : Json}
    (hj : j.Reordered j') : d.all? j' = some a :=
  h j' j'.depth hj (Nat.le_refl _)

/-! ## Scalars -/

theorem reads_of_forall {d : Decoder α} {j : Json} {a : α} (hj : ∀ j', j.Reordered j' → j' = j)
    (hd : ∀ levels, d levels j = some a) : d.Reads j a := by
  intro j' levels hreordered _
  rw [hj j' hreordered]
  exact hd levels

theorem reads_bool (b : Bool) : bool.Reads (.bool b) b :=
  reads_of_forall (fun _ h => by cases h; rfl) fun _ => rfl

theorem reads_text (s : String) : text.Reads (.str s) s :=
  reads_of_forall (fun _ h => by cases h; rfl) fun _ => rfl

theorem reads_natBelow {bound n : Nat} (h : n < bound) : (natBelow bound).Reads (.int n) n :=
  reads_of_forall (fun _ h => by cases h; rfl) fun _ => if_pos h

theorem reads_map {β : Type} {d : Decoder α} {j : Json} {a : α} (h : d.Reads j a) (f : α → β) :
    Reads (fun levels j => (d levels j).map f) j (f a) := by
  intro j' levels hj hlevels
  simp only [h j' levels hj hlevels, Option.map_some]

theorem reads_uint8 (n : UInt8) : uint8.Reads (.int n.toNat) n := by
  have h := reads_map (reads_natBelow n.toNat_lt) UInt8.ofNat
  rwa [UInt8.ofNat_toNat] at h

theorem reads_uint32 (n : UInt32) : uint32.Reads (.int n.toNat) n := by
  have h := reads_map (reads_natBelow n.toNat_lt) UInt32.ofNat
  rwa [UInt32.ofNat_toNat] at h

theorem reads_uint64 (n : UInt64) : uint64.Reads (.int n.toNat) n := by
  have h := reads_map (reads_natBelow n.toNat_lt) UInt64.ofNat
  rwa [UInt64.ofNat_toNat] at h

theorem reads_int64 (n : Int64) : int64.Reads (.int n.toInt) n := by
  refine reads_of_forall (fun _ h => by cases h; rfl) fun levels => ?_
  rw [int64, if_pos ⟨n.minValue_le_toInt, n.toInt_le⟩, Int64.ofInt_toInt]

theorem reads_choice {ofName? : String → Option α} {name : String} {a : α}
    (h : ofName? name = some a) : (choice ofName?).Reads (.str name) a :=
  reads_of_forall (fun _ h => by cases h; rfl) fun _ => h

/-! ## Lists and absent values -/

theorem reads_list {β : Type} {d : Decoder β} {toJson : β → Json} {as : List β}
    (h : ∀ a ∈ as, d.Reads (toJson a) a) : (list d).Reads (.arr (as.map toJson)) as := by
  intro j levels hj hdepth
  obtain ⟨js, rfl, helements⟩ := hj.exists_arr
  obtain ⟨levels, rfl⟩ : ∃ k, levels = k + 1 :=
    Nat.exists_eq_succ_of_ne_zero (Nat.ne_zero_of_lt hdepth)
  have hlevels := Nat.le_of_succ_le_succ hdepth
  show js.mapM (d levels) = some as
  -- All elements are read with the same allowance, so it stays fixed in the induction.
  clear hj hdepth
  induction as generalizing js with
  | nil =>
    cases helements
    rfl
  | cons a as ih =>
    cases helements with
    | @cons _ j' _ js' hfirst hrest =>
      rw [Json.depthOfElements] at hlevels
      rw [List.mapM_cons, h a List.mem_cons_self j' levels hfirst (by omega),
        ih (fun b hb => h b (List.mem_cons_of_mem a hb)) js' hrest (by omega)]
      rfl

theorem reads_nullable_none (d : Decoder α) :
    Reads (fun levels => nullable (d levels)) .null none :=
  reads_of_forall (fun _ h => by cases h; rfl) fun _ => rfl

theorem reads_nullable_some {d : Decoder α} {j : Json} {a : α} (hj : j ≠ .null)
    (h : d.Reads j a) : Reads (fun levels => nullable (d levels)) j (some a) := by
  intro j' levels hreordered hdepth
  have hne : j' ≠ .null := by
    rintro rfl
    cases hreordered
    exact hj rfl
  have hsome : nullable (d levels) j' = (d levels j').map some := by
    cases j' with
    | null => exact absurd rfl hne
    | _ => rfl
  show nullable (d levels) j' = some (some a)
  rw [hsome, h j' levels hreordered hdepth]
  rfl

/-! ## Structures -/

theorem distinct_iff_nodup (ss : List String) : distinct ss = true ↔ ss.Nodup := by
  induction ss with
  | nil => simp [distinct]
  | cons s ss ih => simp [distinct, ih]

/-- The fields are given by name, and they are those that were written in these members,
each reordered inside and within the allowance. -/
structure Fields.Holds (f : Fields) (levels : Nat) (ms : List (String × Json)) : Prop where
  byName : f.byName = true
  lookup : ∀ name, Option.Rel Json.Reordered (ms.lookup name) (f.given.lookup name)
  depth : ∀ {name j}, f.given.lookup name = some j → j.depth ≤ levels

theorem exists_holds {declared : List String} {ms : List (String × Json)} {j : Json} {levels : Nat}
    (hnames : (distinct (ms.map (·.1)) && ms.all fun m => declared.contains m.1) = true)
    (hj : (Json.obj ms).Reordered j) (hdepth : j.depth ≤ levels) :
    ∃ k f, levels = k + 1 ∧ Fields.ofJson? declared false j = some f ∧ f.Holds k ms := by
  rw [Bool.and_eq_true, distinct_iff_nodup, List.all_eq_true] at hnames
  obtain ⟨hnodup, hdeclared⟩ := hnames
  obtain ⟨ms', ms'', rfl, hmembers, hperm⟩ := hj.exists_obj
  obtain ⟨k, rfl⟩ : ∃ k, levels = k + 1 :=
    Nat.exists_eq_succ_of_ne_zero (Nat.ne_zero_of_lt hdepth)
  have hperm' : (ms.map (·.1)).Perm (ms''.map (·.1)) := by
    rw [← hmembers.map_fst_eq]
    exact hperm.map _
  -- Every name is declared, so no member is passed over.
  have hknown : (ms''.filter fun m => declared.contains m.1) = ms'' := by
    refine List.filter_eq_self.2 fun m hm => ?_
    obtain ⟨m', hm', heq⟩ := List.mem_map.1 (hperm'.mem_iff.2 (List.mem_map_of_mem hm))
    rw [← heq]
    exact hdeclared m' hm'
  have hdistinct := (distinct_iff_nodup _).2 (hperm'.nodup_iff.1 hnodup)
  rw [← hmembers.map_fst_eq] at hnodup
  refine ⟨k, ⟨true, ms''⟩, rfl, ?_, rfl, fun name => ?_, fun hfound => ?_⟩
  · rw [Fields.ofJson?, hknown, hdistinct]
    rfl
  · rw [Json.lookup_perm hperm hnodup name]
    exact hmembers.lookup name
  · exact Nat.le_trans (Json.depth_le_of_mem_members (Json.mem_of_lookup_eq_some hfound))
      (Nat.le_of_succ_le_succ hdepth)

theorem reads_structured {declared : List String} {read : Nat → Fields → Option α}
    {ms : List (String × Json)} {a : α}
    (hnames : (distinct (ms.map (·.1)) && ms.all fun m => declared.contains m.1) = true)
    (h : ∀ levels f, f.Holds levels ms → read levels f = some a) :
    (structured declared read).Reads (.obj ms) a := by
  intro j levels hj hdepth
  obtain ⟨k, f, rfl, hfields, hf⟩ := exists_holds hnames hj hdepth
  rw [structured, hfields]
  exact h k f hf

namespace Fields.Holds

variable {f : Fields} {levels : Nat} {ms : List (String × Json)} (hf : f.Holds levels ms)
  {d : Decoder α} {j : Json} {a : α}

include hf

theorem exists_lookup (name : String) (hlookup : ms.lookup name = some j) (hd : d.Reads j a) :
    ∃ j', f.given.lookup name = some j' ∧ d levels j' = some a := by
  have hfield := hf.lookup name
  rw [hlookup] at hfield
  generalize hgiven : f.given.lookup name = given at hfield
  cases hfield with
  | @some _ j' h => exact ⟨j', rfl, hd j' levels h (hf.depth hgiven)⟩

theorem lookup_eq_none (name : String) (hlookup : ms.lookup name = none) :
    f.given.lookup name = none := by
  have hfield := hf.lookup name
  rw [hlookup] at hfield
  generalize hgiven : f.given.lookup name = given at hfield
  cases hfield
  rfl

theorem required (name : String) (hlookup : ms.lookup name = some j) (hd : d.Reads j a) :
    f.required name (d levels) = some a := by
  obtain ⟨j', hgiven, hread⟩ := hf.exists_lookup name hlookup hd
  rw [Fields.required, hgiven]
  exact hread

theorem withDefault (name : String) (fallback : α) (hlookup : ms.lookup name = some j)
    (hd : d.Reads j a) : f.withDefault name fallback (d levels) = some a := by
  obtain ⟨j', hgiven, hread⟩ := hf.exists_lookup name hlookup hd
  rw [Fields.withDefault, hgiven]
  exact hread

theorem withDefault_missing (name : String) (fallback : α) (read : Json → Option α)
    (hlookup : ms.lookup name = none) : f.withDefault name fallback read = some fallback := by
  rw [Fields.withDefault, hf.lookup_eq_none name hlookup]

theorem omissible (name : String) (fallback : α) (hlookup : ms.lookup name = some j)
    (hd : d.Reads j a) : f.omissible name fallback (d levels) = some a := by
  obtain ⟨j', hgiven, hread⟩ := hf.exists_lookup name hlookup hd
  rw [Fields.omissible, hgiven]
  exact hread

end Fields.Holds

end Decoder

end ApiAvailability

/-
What an attribute with encodings states.

Encodings come in two ways. Of the positional arguments the first four stand for the
kinds of facts in their order, and whatever comes after them is not looked at; of the
named arguments those count that are named for a kind, however often. The two are read
by passes of their own, but in a row they are one list of arguments for kinds
(`entries`), and reading is all or nothing over it (`ofEntries?`): one argument that is
no natural number, and the attribute states nothing, its messages included.

Where it states something, the slots of a kind take the encodings for the kind one
after the other (`foldl_merge_of_ofEntries?`). A zero is passed over when it is read,
which makes no difference since it stands for the empty set. And the texts that are
given as messages are joined to the message that is there.
-/
import ApiAvailability.Proofs.Encodings
import ApiAvailability.Proofs.JoinedMessages
import Mathlib.Data.List.Basic

set_option autoImplicit false

namespace ApiAvailability

/-! ## Arguments for kinds -/

namespace FactKind

/-- The place of the kind among the positional arguments. -/
def position : FactKind → Nat
  | introduced => 0
  | deprecated => 1
  | obsoleted => 2
  | unavailable => 3

theorem ofName?_eq_some_iff (name : String) (k : FactKind) :
    ofName? name = some k ↔ name = k.name := by
  constructor
  · intro h
    unfold ofName? at h
    split at h
    all_goals
      cases h
      try rfl
  · rintro rfl
    exact ofName?_name k

theorem isSome_ofName?_iff (name : String) :
    (ofName? name).isSome ↔ name ∈ all.map FactKind.name := by
  rw [Option.isSome_iff_exists, List.mem_map]
  constructor
  · rintro ⟨k, hk⟩
    exact ⟨k, by cases k <;> decide, ((ofName?_eq_some_iff name k).1 hk).symm⟩
  · rintro ⟨k, -, rfl⟩
    exact ⟨k, ofName?_name k⟩

end FactKind

namespace NamedArgument

/-- The kind for which the argument is named, with its value. -/
def entry? (n : NamedArgument) : Option (FactKind × Argument) :=
  (FactKind.ofName? n.name).map fun k => (k, n.value)

/-- The text that the argument adds to the message. -/
def messageText? (n : NamedArgument) : Option String :=
  if n.name = "Message" then n.value.text? else none

/-- Whether the argument adds a text to the message, or is named for a kind. -/
def counts (n : NamedArgument) : Bool := n.messageText?.isSome || n.entry?.isSome

/-- Whoever finds something only in arguments that count need not be shown the others. -/
theorem filterMap_filter_counts {α : Type} {f : NamedArgument → Option α}
    (h : ∀ n, (f n).isSome → n.counts) (ns : List NamedArgument) :
    (ns.filter counts).filterMap f = ns.filterMap f := by
  rw [List.filterMap_filter]
  congr 1
  funext n
  by_cases hn : n.counts
  · rw [if_pos hn]
  · rw [if_neg hn, eq_comm, ← Option.not_isSome_iff_eq_none]
    exact fun hsome => hn (h n hsome)

end NamedArgument

namespace Attribute

/-- The arguments for a kind: the positional one in its place, if there is one, and
then those that are named for it. -/
def valuesFor (a : Attribute) (k : FactKind) : List Argument :=
  a.arguments[k.position]?.toList ++
    (a.named.filter fun n => n.name = k.name).map NamedArgument.value

/-- The texts that the attribute adds to the message. -/
def messageTexts (a : Attribute) : List String := a.named.filterMap NamedArgument.messageText?

/-- The first four positional arguments, and all that are named for a kind, are natural
numbers. -/
def FitsEncodings (a : Attribute) : Prop :=
  (∀ v ∈ a.arguments.take 4, v.isNatural) ∧
    ∀ n ∈ a.named, n.name ∈ FactKind.all.map FactKind.name → n.value.isNatural

instance (a : Attribute) : Decidable a.FitsEncodings := inferInstanceAs (Decidable (_ ∧ _))

/-- The attribute without the arguments that are not looked at. -/
def withoutSurplus (a : Attribute) : Attribute :=
  { a with arguments := a.arguments.take 4, named := a.named.filter NamedArgument.counts }

/-- The arguments that are read as encodings, with their kinds. -/
def entries (a : Attribute) : List (FactKind × Argument) :=
  FactKind.all.zip a.arguments ++ a.named.filterMap NamedArgument.entry?

/-- Four positional arguments are enough for four kinds. -/
theorem zip_all_take (as : List Argument) :
    FactKind.all.zip (as.take 4) = FactKind.all.zip as := by
  rcases as with _ | ⟨a, _ | ⟨b, _ | ⟨c, _ | ⟨d, as⟩⟩⟩⟩ <;> rfl

theorem map_snd_zip_all (as : List Argument) :
    (FactKind.all.zip as).map Prod.snd = as.take 4 := by
  rcases as with _ | ⟨a, _ | ⟨b, _ | ⟨c, _ | ⟨d, as⟩⟩⟩⟩ <;> rfl

theorem filter_zip_all (as : List Argument) (k : FactKind) :
    ((FactKind.all.zip as).filter fun e => e.1 = k).map Prod.snd = as[k.position]?.toList := by
  rcases as with _ | ⟨a, _ | ⟨b, _ | ⟨c, _ | ⟨d, as⟩⟩⟩⟩ <;> cases k <;> rfl

theorem filter_entry? (ns : List NamedArgument) (k : FactKind) :
    ((ns.filterMap NamedArgument.entry?).filter fun e => e.1 = k).map Prod.snd =
      (ns.filter fun n => n.name = k.name).map NamedArgument.value := by
  induction ns with
  | nil => rfl
  | cons n ns ih =>
    cases hkind : FactKind.ofName? n.name with
    | none =>
      have hname : n.name ≠ k.name := fun h => by
        rw [(FactKind.ofName?_eq_some_iff n.name k).2 h] at hkind
        cases hkind
      have hentry : n.entry? = none := by rw [NamedArgument.entry?, hkind]; rfl
      simp [List.filterMap_cons_none hentry, hname, ih]
    | some l =>
      have hentry : n.entry? = some (l, n.value) := by rw [NamedArgument.entry?, hkind]; rfl
      have hname := (FactKind.ofName?_eq_some_iff n.name l).1 hkind
      by_cases hl : l = k
      · simp [List.filterMap_cons_some hentry, hname, hl, ih]
      · have hne : l.name ≠ k.name := fun h => hl <| by
          have hlk := FactKind.ofName?_name k
          rw [← h, FactKind.ofName?_name] at hlk
          exact Option.some.inj hlk
        simp [List.filterMap_cons_some hentry, hname, hl, hne, ih]

/-- Of the entries of a kind, the values are those for the kind. -/
theorem map_snd_filter_entries (a : Attribute) (k : FactKind) :
    (a.entries.filter fun e => e.1 = k).map Prod.snd = a.valuesFor k := by
  rw [entries, List.filter_append, List.map_append, filter_zip_all, filter_entry?, valuesFor]

/-- **Which arguments have to fit** is told by the entries. -/
theorem fitsEncodings_iff (a : Attribute) :
    a.FitsEncodings ↔ ∀ e ∈ a.entries, e.2.isNatural := by
  have hpositional : (∀ v ∈ a.arguments.take 4, v.isNatural) ↔
      ∀ e ∈ FactKind.all.zip a.arguments, e.2.isNatural := by
    rw [← map_snd_zip_all]
    exact List.forall_mem_map
  have hnamed : (∀ n ∈ a.named, n.name ∈ FactKind.all.map FactKind.name → n.value.isNatural) ↔
      ∀ e ∈ a.named.filterMap NamedArgument.entry?, e.2.isNatural := by
    simp only [List.mem_filterMap, ← FactKind.isSome_ofName?_iff, Option.isSome_iff_exists,
      NamedArgument.entry?, Option.map_eq_some_iff]
    constructor
    · rintro h e ⟨n, hn, k, hk, rfl⟩
      exact h n hn ⟨k, hk⟩
    · rintro h n hn ⟨k, hk⟩
      exact h (k, n.value) ⟨n, hn, k, hk, rfl⟩
  rw [FitsEncodings, hpositional, hnamed, entries, List.forall_mem_append]

end Attribute

/-! ## Reading all or nothing -/

namespace Facts

/-- The sets of arguments for kinds, unless one of the arguments is no encoding. -/
def ofEntries? : List (FactKind × Argument) → Option (List (FactKind × SlotSet))
  | [] => some []
  | (k, v) :: rest => do
    let encoding ← v.encoding?
    pure (ofEncoding k encoding ++ (← ofEntries? rest))

theorem ofEntries?_append (l m : List (FactKind × Argument)) :
    ofEntries? (l ++ m) =
      (ofEntries? l).bind fun sets => (ofEntries? m).map fun others => sets ++ others := by
  induction l with
  | nil => simp [ofEntries?]
  | cons e l ih =>
    simp only [List.cons_append, ofEntries?, ih]
    cases e.2.encoding? with
    | none => rfl
    | some encoding =>
      cases ofEntries? l with
      | none => rfl
      | some sets =>
        cases ofEntries? m with
        | none => rfl
        | some others => simp

theorem ofPositional?_eq (kinds : List FactKind) (as : List Argument) :
    ofPositional? kinds as = ofEntries? (kinds.zip as) := by
  induction kinds generalizing as with
  | nil => cases as <;> rfl
  | cons k kinds ih =>
    cases as with
    | nil => rfl
    | cons v as => simp only [ofPositional?, List.zip_cons_cons, ofEntries?, ih]

theorem ofNamed?_eq (n : NamedArgument) :
    ofNamed? n = (ofEntries? n.entry?.toList).map fun sets =>
      ⟨sets, (n.messageText?.map MessageUpdate.append).toList⟩ := by
  by_cases hmessage : n.name = "Message"
  · have hentry : n.entry? = none := by rw [NamedArgument.entry?, hmessage]; rfl
    rw [ofNamed?, if_pos hmessage, hentry, NamedArgument.messageText?, if_pos hmessage]
    rfl
  · rw [ofNamed?, if_neg hmessage, NamedArgument.messageText?, if_neg hmessage,
      NamedArgument.entry?]
    cases FactKind.ofName? n.name with
    | none => rfl
    | some k =>
      simp only [Option.map_some, Option.toList_some, ofEntries?]
      cases n.value.encoding? with
      | none => rfl
      | some encoding => simp

theorem ofAllNamed?_eq (ns : List NamedArgument) :
    ofAllNamed? ns = (ofEntries? (ns.filterMap NamedArgument.entry?)).map fun sets =>
      ⟨sets, (ns.filterMap NamedArgument.messageText?).map MessageUpdate.append⟩ := by
  induction ns with
  | nil => rfl
  | cons n ns ih =>
    rw [ofAllNamed?, ofNamed?_eq, ih]
    simp only [List.filterMap_eq_flatMap_toList, List.flatMap_cons, ofEntries?_append,
      List.map_append, Option.toList_map]
    cases ofEntries? n.entry?.toList with
    | none => rfl
    | some sets =>
      cases ofEntries? (ns.flatMap fun n => n.entry?.toList) with
      | none => rfl
      | some others => rfl

/-- **The two passes are one** over the entries. -/
theorem ofAggregate?_eq (a : Attribute) :
    ofAggregate? a.arguments a.named = (ofEntries? a.entries).map fun sets =>
      ⟨sets, a.messageTexts.map MessageUpdate.append⟩ := by
  rw [ofAggregate?, ofPositional?_eq, ofAllNamed?_eq, Attribute.entries, ofEntries?_append]
  cases ofEntries? (FactKind.all.zip a.arguments) with
  | none => rfl
  | some sets =>
    cases ofEntries? (a.named.filterMap NamedArgument.entry?) with
    | none => rfl
    | some others => rfl

/-- All or nothing: the entries are read if every one of them fits. -/
theorem isSome_ofEntries? (l : List (FactKind × Argument)) :
    (ofEntries? l).isSome ↔ ∀ e ∈ l, e.2.isNatural := by
  induction l with
  | nil => simp [ofEntries?]
  | cons e l ih =>
    rw [List.forall_mem_cons, ← ih, ← Argument.isSome_encoding?, ofEntries?]
    cases e.2.encoding? with
    | none => simp
    | some encoding => cases ofEntries? l <;> simp

/-- Zero stands for the empty set, so passing it over changes nothing. -/
theorem foldl_merge_ofEncoding (policy : ConflictPolicy) (k : FactKind) (encoding : UInt64)
    (t : SlotSet) : ((ofEncoding k encoding).map Prod.snd).foldl (SlotSet.merge policy) t =
      t.merge policy (.ofEncoding encoding) := by
  by_cases hzero : encoding = 0
  · have hempty : SlotSet.ofEncoding 0 = .empty := by decide
    rw [ofEncoding, if_pos hzero, hzero, hempty, SlotSet.merge_empty]
    rfl
  · rw [ofEncoding, if_neg hzero]
    rfl

theorem filter_ofEncoding (k l : FactKind) (encoding : UInt64) :
    (ofEncoding l encoding).filter (fun s => s.1 = k) =
      if l = k then ofEncoding l encoding else [] := by
  by_cases hzero : encoding = 0
  · simp [ofEncoding, hzero]
  · by_cases hk : l = k
    · simp [ofEncoding, hzero, hk]
    · simp [ofEncoding, hzero, hk]

/-- The sets of a kind are combined like the encodings for the kind. -/
theorem foldl_merge_of_ofEntries? {l : List (FactKind × Argument)}
    {sets : List (FactKind × SlotSet)} (h : ofEntries? l = some sets) (policy : ConflictPolicy)
    (k : FactKind) (t : SlotSet) :
    ((sets.filter fun s => s.1 = k).map Prod.snd).foldl (SlotSet.merge policy) t =
      (((l.filter fun e => e.1 = k).map Prod.snd).filterMap Argument.encoding?).foldl
        (fun t encoding => t.merge policy (.ofEncoding encoding)) t := by
  induction l generalizing sets t with
  | nil =>
    cases h
    rfl
  | cons e l ih =>
    obtain ⟨k', v⟩ := e
    obtain ⟨encoding, hencoding, hrest⟩ := Option.bind_eq_some_iff.1 h
    obtain ⟨others, hothers, hsets⟩ := Option.bind_eq_some_iff.1 hrest
    cases hsets
    rw [List.filter_append, filter_ofEncoding, List.filter_cons]
    by_cases hk : k' = k
    · rw [if_pos hk, if_pos (decide_eq_true hk), List.map_append, List.foldl_append,
        foldl_merge_ofEncoding, List.map_cons, List.filterMap_cons_some hencoding, List.foldl_cons,
        ih hothers]
    · rw [if_neg hk, if_neg (by simpa using hk), List.nil_append]
      exact ih hothers t

end Facts

/-! ## The record after such an attribute -/

namespace Attribute

theorem reading_of_aggregate {a : Attribute} (h : a.shape = .aggregate) :
    a.reading = .ofFacts? ((Facts.ofEntries? a.entries).map fun sets =>
      ⟨sets, a.messageTexts.map MessageUpdate.append⟩) := by
  rw [reading, h, ← Facts.ofAggregate?_eq]

/-- **An attribute with encodings states something** exactly if all of them fit. -/
theorem reading_of_not_fitsEncodings {a : Attribute} (h : a.shape = .aggregate)
    (hfits : ¬a.FitsEncodings) : a.reading = .nothing := by
  rw [fitsEncodings_iff, ← Facts.isSome_ofEntries?, Option.not_isSome_iff_eq_none] at hfits
  rw [reading_of_aggregate h, hfits]
  rfl

theorem exists_reading_of_fitsEncodings {a : Attribute} (h : a.shape = .aggregate)
    (hfits : a.FitsEncodings) : ∃ sets, Facts.ofEntries? a.entries = some sets ∧
      a.reading = .states ⟨sets, a.messageTexts.map MessageUpdate.append⟩ := by
  rw [fitsEncodings_iff, ← Facts.isSome_ofEntries?] at hfits
  obtain ⟨sets, hsets⟩ := Option.isSome_iff_exists.1 hfits
  exact ⟨sets, hsets, by rw [reading_of_aggregate h, hsets]; rfl⟩

/-- What is not looked at does not count. -/
theorem reading_withoutSurplus {a : Attribute} (h : a.shape = .aggregate) :
    a.withoutSurplus.reading = a.reading := by
  have hentry := NamedArgument.filterMap_filter_counts (f := NamedArgument.entry?)
    (fun n hn => by rw [NamedArgument.counts, hn, Bool.or_true]) a.named
  have htext := NamedArgument.filterMap_filter_counts (f := NamedArgument.messageText?)
    (fun n hn => by rw [NamedArgument.counts, hn, Bool.true_or]) a.named
  have hentries : a.withoutSurplus.entries = a.entries := by
    rw [entries, entries, ← hentry, ← zip_all_take a.arguments]
    rfl
  have htexts : a.withoutSurplus.messageTexts = a.messageTexts := htext
  rw [reading_of_aggregate h, reading_of_aggregate (a := a.withoutSurplus) h, hentries, htexts]

end Attribute

namespace Record

/-- **What an attribute with encodings does to a record.** If one of its encodings fits
no form, the record stays as it was, whatever else the attribute says. Otherwise there
is a record, in which the slots of each kind take the encodings for the kind one after
the other, which is to take them all at once where bits are united, and the texts are
joined to the message. What comes after the fourth positional argument, names that are
not known and values under `Message` that are no texts make no difference. -/
theorem mergeAttribute_encodings (policy : ConflictPolicy) (record : Option Record)
    {a : Attribute} (h : a.shape = .aggregate) :
    (¬a.FitsEncodings → mergeAttribute policy record a = .ok record) ∧
    (a.FitsEncodings → ∃ r, mergeAttribute policy record a = .ok (some r) ∧
      (∀ k, ∃ encodings : List UInt64,
        (a.valuesFor k).map Argument.number? = encodings.map (fun e => some (e.toNat : Int)) ∧
        r.facts k = encodings.foldl (fun t e => t.merge policy (.ofEncoding e))
          ((record.getD .empty).facts k) ∧
        (policy = .bitwiseOr → r.facts k = ((record.getD .empty).facts k).union
          (.ofEncoding (encodings.foldl (· ||| ·) 0)))) ∧
      r.message =
        MessageUpdate.joined ((record.bind Record.message).toList ++ a.messageTexts)) ∧
    mergeAttribute policy record a.withoutSurplus = mergeAttribute policy record a := by
  refine ⟨fun hfits => ?_, fun hfits => ?_, ?_⟩
  · rw [mergeAttribute, Attribute.reading_of_not_fitsEncodings h hfits]
  · obtain ⟨sets, hsets, hreading⟩ := Attribute.exists_reading_of_fitsEncodings h hfits
    refine ⟨_, by rw [mergeAttribute, hreading], fun k => ?_, ?_⟩
    · have hnatural : ∀ v ∈ a.valuesFor k, v.isNatural := by
        rw [← Attribute.map_snd_filter_entries, List.forall_mem_map]
        exact fun e he => (Attribute.fitsEncodings_iff a).1 hfits e (List.mem_filter.1 he).1
      have hfacts := Facts.foldl_merge_of_ofEntries? hsets policy k ((record.getD .empty).facts k)
      rw [Attribute.map_snd_filter_entries] at hfacts
      refine ⟨(a.valuesFor k).filterMap Argument.encoding?,
        (Argument.map_toNat_filterMap_encoding? hnatural).symm, ?_, ?_⟩
      · rw [Facts.facts_applyTo]
        exact hfacts
      · rintro rfl
        rw [Facts.facts_applyTo, ← SlotSet.foldl_union_ofEncoding]
        exact hfacts
    · rw [Facts.message_applyTo, message_getD_empty]
      have hjoined := MessageUpdate.foldl_after_append (record.bind Record.message).toList
        a.messageTexts
      rwa [MessageUpdate.joined_toList] at hjoined
  · rw [mergeAttribute, mergeAttribute, Attribute.reading_withoutSurplus h]
    rfl

/-- Encodings by place and by name with a surplus argument, and the same attribute with
one encoding more that is negative. -/
theorem mergeAttribute_encodings_repeated :
    let a : Attribute :=
      ⟨Shape.interopScope, "AvailabilityAttribute",
        [.ulong 0x80000, .int 0, .byte 0, .byte 0, .str "surplus"],
        [⟨"Introduced", .ulong 0xa090000000000⟩, ⟨"Message", .str "first"⟩, ⟨"Message", .bool true⟩,
          ⟨"Other", .null⟩, ⟨"Introduced", .int 0x10000⟩, ⟨"Message", .str "second"⟩]⟩
    let negative := a.withNamed "Deprecated" (.int (-1))
    let record : Record := { Record.empty with message := some "existing" }
    a.shape = .aggregate ∧ a.FitsEncodings ∧ ¬negative.FitsEncodings ∧
    mergeAttribute .bitwiseOr (some record) negative = .ok (some record) ∧
    ∃ r, mergeAttribute .bitwiseOr (some record) a = .ok (some r) ∧
      (∃ encodings : List UInt64,
        [some 0x80000, some 0xa090000000000, some 0x10000] =
          encodings.map (fun e => some (e.toNat : Int)) ∧
        r.introduced =
          SlotSet.empty.union (.ofEncoding (encodings.foldl (· ||| ·) 0))) ∧
      r.message = some "existing; first; second" := by
  intro a negative record
  have hshape : a.shape = .aggregate := by decide
  have hfits : a.FitsEncodings := by decide
  have hnegative : ¬negative.FitsEncodings := by decide
  obtain ⟨-, hstates, -⟩ := mergeAttribute_encodings .bitwiseOr (some record) hshape
  obtain ⟨hnothing, -, -⟩ :=
    mergeAttribute_encodings .bitwiseOr (some record) (a := negative) hshape
  obtain ⟨r, hr, hfacts, hmessage⟩ := hstates hfits
  obtain ⟨encodings, hnumbers, -, hunion⟩ := hfacts .introduced
  exact ⟨hshape, hfits, hnegative, hnothing hnegative, r, hr, ⟨encodings, hnumbers, hunion rfl⟩,
    hmessage⟩

end Record

end ApiAvailability

/-
What is written as a JSON value is read back from it.

The members of a value are the fields of a structure, or some of them: a symbol
leaves out the symbols that it does not have beside it, a use its place. A member
that is left out and a fallback that fills the gap have to be the same thing, and
that is the argument for both (`withDefault_optional`). An argument is the one value
whose form decides how the rest of it is read, so its proof goes by its form.

A symbol holds symbols. The decoder reads these with one level less, and the
allowance is never used up by a value that is no deeper (`Decoder.Reads`), so the
induction is on the symbol alone and says nothing about levels.
-/
import ApiAvailability.Proofs.Reordering
import ApiAvailability.Record
import ApiAvailability.UseSite

set_option autoImplicit false

namespace ApiAvailability

/-! ## Values that may be left out -/

namespace Decoder.Fields.Holds

variable {α : Type} {f : Fields} {levels : Nat} {ms : List (String × Json)}
  (hf : f.Holds levels ms) {d : Decoder α} {toJson : α → Json}

include hf

/-- A member is left out where there is no value, and where it is missing there is none. -/
theorem withDefault_optional (name : String) {a : Option α}
    (hlookup : ms.lookup name = a.map toJson) (hd : ∀ b ∈ a, d.Reads (toJson b) b)
    (hnull : ∀ b, toJson b ≠ .null) : f.withDefault name none (nullable (d levels)) = some a := by
  cases a with
  | none => exact hf.withDefault_missing name none _ hlookup
  | some a => exact hf.withDefault name none hlookup (reads_nullable_some (hnull a) (hd a rfl))

end Decoder.Fields.Holds

theorem Decoder.reads_orNull {α : Type} {d : Decoder α} {toJson : α → Json}
    (hd : ∀ a, d.Reads (toJson a) a) (hnull : ∀ a, toJson a ≠ .null) (a : Option α) :
    Decoder.Reads (fun levels => nullable (d levels)) (Json.orNull toJson a) a := by
  cases a with
  | none => exact reads_nullable_none d
  | some a => exact reads_nullable_some (hnull a) (hd a)

open Decoder

/-! ## Records -/

theorem Platform.reads_toJson (p : Platform) : decode.Reads p.toJson p :=
  reads_choice p.ofJsonName?_jsonName

theorem Architecture.reads_toJson (a : Architecture) : decode.Reads a.toJson a :=
  reads_map (reads_uint8 a.bits) Architecture.mk

theorem Slot.reads_toJson (s : Slot) : decode.Reads s.toJson s := by
  refine reads_structured rfl fun levels f hf => ?_
  rw [hf.required "name" rfl s.platform.reads_toJson, hf.required "arch" rfl s.arch.reads_toJson,
    hf.required "major" rfl (reads_uint8 s.major), hf.required "minor" rfl (reads_uint8 s.minor),
    hf.required "subminor" rfl (reads_uint8 s.subminor)]
  rfl

theorem SlotSet.reads_toJson (t : SlotSet) : decode.Reads t.toJson t := by
  refine reads_structured rfl fun levels f hf => ?_
  rw [hf.required "ios" rfl t.iOS.reads_toJson, hf.required "macos" rfl t.macOS.reads_toJson,
    hf.required "watchos" rfl t.watchOS.reads_toJson, hf.required "tvos" rfl t.tvOS.reads_toJson]
  rfl

theorem Record.reads_toJson (r : Record) : decode.Reads r.toJson r := by
  have hmessage : Decoder.Reads (fun levels => nullable (text levels))
      (Json.orNull .str r.message) r.message := reads_orNull reads_text (fun _ => nofun) r.message
  refine reads_structured rfl fun levels f hf => ?_
  rw [hf.required "introduced" rfl r.introduced.reads_toJson,
    hf.required "deprecated" rfl r.deprecated.reads_toJson,
    hf.required "obsoleted" rfl r.obsoleted.reads_toJson,
    hf.required "unavailable" rfl r.unavailable.reads_toJson,
    hf.omissible "message" none rfl hmessage]
  rfl

/-! ## Attributes -/

/-- The argument is read by its form, which is written first, and then by its value. -/
theorem Argument.reads_toJson (a : Argument) : decode.Reads a.toJson a := by
  have hform {name : String} {form : Form} (h : Form.ofName? name = some form) {levels : Nat}
      {f : Fields} {ms : List (String × Json)} (hf : f.Holds levels ms)
      (hlookup : ms.lookup "type" = some (.str name)) :
      f.required "type" (decodeForm f.byName levels) = some form := by
    rw [hf.byName]
    exact hf.required "type" hlookup (reads_choice h)
  have hvalue {name : String} {form : Form} {j : Json} (h : Form.ofName? name = some form)
      (hd : (decodeValue form).Reads j a) :
      decode.Reads (.obj [("type", .str name), ("value", j)]) a := by
    refine reads_structured rfl fun levels f hf => ?_
    obtain ⟨j', hgiven, hread⟩ := hf.exists_lookup "value" rfl hd
    rw [hform h hf rfl, hgiven]
    exact hread
  cases a with
  | null =>
    -- Null is written without a value, which it alone may lack.
    refine reads_structured rfl fun levels f hf => ?_
    have hnull : Form.ofName? "null" = some .null := rfl
    rw [hform hnull hf rfl, hf.lookup_eq_none "value" rfl, hf.byName]
    rfl
  | bool b => exact hvalue rfl (reads_map (reads_bool b) bool)
  | byte n => exact hvalue rfl (reads_map (reads_uint8 n) byte)
  | int n => exact hvalue rfl (reads_map (reads_int64 n) int)
  | ulong n => exact hvalue rfl (reads_map (reads_uint64 n) ulong)
  | str s => exact hvalue rfl (reads_map (reads_text s) str)

theorem NamedArgument.reads_toJson (a : NamedArgument) : decode.Reads a.toJson a := by
  refine reads_structured rfl fun levels f hf => ?_
  rw [hf.required "name" rfl (reads_text a.name), hf.required "value" rfl a.value.reads_toJson]
  rfl

theorem Attribute.reads_toJson (a : Attribute) : decode.Reads a.toJson a := by
  refine reads_structured rfl fun levels f hf => ?_
  rw [hf.required "namespace" rfl (reads_text a.scope),
    hf.required "type_name" rfl (reads_text a.typeName),
    hf.withDefault "constructor_args" [] rfl (reads_list fun b _ => b.reads_toJson),
    hf.withDefault "named_args" [] rfl (reads_list fun b _ => b.reads_toJson)]
  rfl

/-! ## Symbols and uses -/

theorem SymbolKind.reads_toJson (k : SymbolKind) : decode.Reads k.toJson k :=
  reads_choice k.ofName?_name

namespace Symbol

theorem toJson_ne_null (s : Symbol) : s.toJson ≠ .null := by
  cases s
  rw [toJson]
  exact nofun

theorem toJson?_eq_map (s : Option Symbol) : toJson? s = s.map toJson := by
  cases s <;> rfl

theorem lookup_members (name kind attributes : Json) (getter setter declaringType : Option Json) :
    let ms := [("name", name), ("kind", kind), ("attributes", attributes)] ++
      optionalMember "getter" getter ++ optionalMember "setter" setter ++
      optionalMember "containing_type" declaringType
    (distinct (ms.map (·.1)) && ms.all fun m => fieldNames.contains m.1) = true ∧
      ms.lookup "name" = some name ∧ ms.lookup "kind" = some kind ∧
      ms.lookup "attributes" = some attributes ∧ ms.lookup "getter" = getter ∧
      ms.lookup "setter" = setter ∧ ms.lookup "containing_type" = declaringType := by
  cases getter <;> cases setter <;> cases declaringType <;>
    exact ⟨rfl, rfl, rfl, rfl, rfl, rfl, rfl⟩

mutual

/-- **A symbol is read back**, with all the symbols inside it. -/
theorem reads_toJson : ∀ s : Symbol, decode.Reads s.toJson s
  | ⟨name, kind, attributes, getter, setter, declaringType⟩ => by
    intro j levels hj hdepth
    rw [toJson, toJson?_eq_map, toJson?_eq_map, toJson?_eq_map] at hj
    obtain ⟨hnames, hname, hkind, hattributes, hgetter, hsetter, hdeclaringType⟩ :=
      lookup_members (.str name) kind.toJson (.arr (attributes.map Attribute.toJson))
        (getter.map toJson) (setter.map toJson) (declaringType.map toJson)
    obtain ⟨k, f, rfl, hfields, hf⟩ := exists_holds hnames hj hdepth
    rw [decode, hfields, Option.bind_eq_bind, Option.bind_some]
    -- The symbols inside are read with one level less, and they are no deeper.
    rw [hf.required "name" hname (reads_text name), hf.required "kind" hkind kind.reads_toJson,
      hf.withDefault "attributes" [] hattributes (reads_list fun a _ => a.reads_toJson),
      hf.withDefault_optional "getter" hgetter (reads_toJson? getter) toJson_ne_null,
      hf.withDefault_optional "setter" hsetter (reads_toJson? setter) toJson_ne_null,
      hf.withDefault_optional "containing_type" hdeclaringType (reads_toJson? declaringType)
        toJson_ne_null]
    rfl

theorem reads_toJson? : ∀ s : Option Symbol, ∀ t ∈ s, decode.Reads t.toJson t
  | some s, _, ht => Option.some.inj ht ▸ reads_toJson s

end

end Symbol

theorem Operation.reads_toJson (o : Operation) : decode.Reads o.toJson o :=
  reads_choice (congrArg some o.ofName_name)

theorem Access.reads_toJson (a : Access) : decode.Reads a.toJson a :=
  reads_choice a.ofName?_name

theorem Location.reads_toJson (l : Location) : decode.Reads l.toJson l := by
  refine reads_structured rfl fun levels f hf => ?_
  rw [hf.required "path" rfl (reads_text l.path), hf.required "line" rfl (reads_uint32 l.line),
    hf.required "column" rfl (reads_uint32 l.column)]
  rfl

namespace UseSite

theorem lookup_members (symbol operation access : Json) (location : Option Json) :
    let ms := [("symbol", symbol), ("operation", operation), ("access", access)] ++
      Symbol.optionalMember "location" location
    (distinct (ms.map (·.1)) &&
        ms.all fun m => ["symbol", "operation", "access", "location"].contains m.1) = true ∧
      ms.lookup "symbol" = some symbol ∧ ms.lookup "operation" = some operation ∧
      ms.lookup "access" = some access ∧ ms.lookup "location" = location := by
  cases location <;> exact ⟨rfl, rfl, rfl, rfl, rfl⟩

theorem reads_toJson (u : UseSite) : decode.Reads u.toJson u := by
  obtain ⟨hnames, hsymbol, hoperation, haccess, hlocation⟩ := lookup_members u.symbol.toJson
    u.operation.toJson u.access.toJson (u.location.map Location.toJson)
  refine reads_structured hnames fun levels f hf => ?_
  rw [hf.required "symbol" hsymbol u.symbol.reads_toJson,
    hf.required "operation" hoperation u.operation.reads_toJson,
    hf.withDefault "access" .read haccess u.access.reads_toJson,
    hf.withDefault_optional "location" hlocation (fun l _ => l.reads_toJson) fun _ => nofun]
  rfl

end UseSite

/-! ## Round trips -/

/-- What is written is read back, also where the members of its objects were brought into
another order. -/
def Decoder.RoundTrips {α : Type} (d : Decoder α) (toJson : α → Json) : Prop :=
  ∀ a, d.all? (toJson a) = some a ∧ ∀ j, (toJson a).Reordered j → d.all? j = some a

theorem Decoder.roundTrips_of_reads {α : Type} {d : Decoder α} {toJson : α → Json}
    (h : ∀ a, d.Reads (toJson a) a) : d.RoundTrips toJson :=
  fun a => ⟨(h a).all? (.same _), fun _ => (h a).all?⟩

/-- **Nothing is lost in JSON**: a use, a symbol, an attribute with its arguments and a record
are each read back from the value that is written for them. -/
theorem decode_roundTrips :
    UseSite.decode.RoundTrips UseSite.toJson ∧ Symbol.decode.RoundTrips Symbol.toJson ∧
    Attribute.decode.RoundTrips Attribute.toJson ∧
    NamedArgument.decode.RoundTrips NamedArgument.toJson ∧
    Argument.decode.RoundTrips Argument.toJson ∧ Record.decode.RoundTrips Record.toJson :=
  ⟨roundTrips_of_reads UseSite.reads_toJson, roundTrips_of_reads Symbol.reads_toJson,
    roundTrips_of_reads Attribute.reads_toJson, roundTrips_of_reads NamedArgument.reads_toJson,
    roundTrips_of_reads Argument.reads_toJson, roundTrips_of_reads Record.reads_toJson⟩

/-- A use whose symbol has a getter and a declaring type, read from members in the order of
the alphabet. -/
theorem decode_roundTrips_sorted :
    (UseSite.toJson ⟨⟨"P", .property, [⟨"N", "T", [.int (-1), .null], []⟩],
        some (.plain "get_P" .method), none, some (.plain "C" .type)⟩,
        .other, .compoundAssignment, none⟩).Reordered
      (.obj [("access", .str "compound_assignment"), ("operation", .str "other"),
        ("symbol", Symbol.toJson ⟨"P", .property, [⟨"N", "T", [.int (-1), .null], []⟩],
          some (.plain "get_P" .method), none, some (.plain "C" .type)⟩)]) ∧
    UseSite.decode.all?
      (.obj [("access", .str "compound_assignment"), ("operation", .str "other"),
        ("symbol", Symbol.toJson ⟨"P", .property, [⟨"N", "T", [.int (-1), .null], []⟩],
          some (.plain "get_P" .method), none, some (.plain "C" .type)⟩)]) =
      some ⟨⟨"P", .property, [⟨"N", "T", [.int (-1), .null], []⟩],
        some (.plain "get_P" .method), none, some (.plain "C" .type)⟩,
        .other, .compoundAssignment, none⟩ :=
  have h := .obj (.same _) (List.reverse_perm _).symm
  ⟨h, (decode_roundTrips.1 _).2 _ h⟩

end ApiAvailability

import ServiceClient.Proofs.Wire

/-!
Plain values of a declared type. `Conforms` says what a server may rely on: records have exactly the
declared fields, in the order of the declaration, and every part has its type in turn. The check of
an argument looks only at the name of a record's type; that what is sent conforms all the same
(`toWire_conforms`) comes from the checks made on the way, one for every field of every record.
-/

namespace ServiceClient

/-- A plain value has a type exactly, down to its innermost part. -/
inductive Conforms (types : List RecordType) : TypeRef → Value → Prop
  | int (n : Int) : Conforms types (.primitive .number) (.int n)
  | float (x : Binary64) : Conforms types (.primitive .number) (.float x)
  | string (s : String) : Conforms types (.primitive .string) (.string s)
  | boolean (b : Bool) : Conforms types (.primitive .boolean) (.bool b)
  | array {element : TypeRef} {items : List Value}
      (all : ∀ v ∈ items, Conforms types element v) :
      Conforms types (.array element) (.list items)
  | record {name : String} {type : RecordType} {entries : List (String × Value)}
      (declared : findType? types name = some type)
      (keys : entries.map (·.1) = type.fieldNames)
      (all : ∀ p ∈ type.fields.zip entries, Conforms types p.1.2 p.2.2) :
      Conforms types (.named name) (.object entries)
  | untyped {entries : List (String × Value)}
      (undeclared : findType? types untypedObject = none)
      (plain : (Value.object entries).isPlain = true) :
      Conforms types (.named untypedObject) (.object entries)

/-- A table of types in which every name stands once, and every field once in its type. -/
structure WellNamed (types : List RecordType) : Prop where
  names : (types.map (·.name)).Nodup
  fields : ∀ type ∈ types, type.fieldNames.Nodup

theorem mem_of_findType? {types : List RecordType} {name : String} {type : RecordType}
    (found : findType? types name = some type) : type ∈ types ∧ type.name = name :=
  ⟨List.mem_of_find?_eq_some found, by simpa using List.find?_some found⟩

/-- A type of the table is found by its name. -/
theorem findType?_name {types : List RecordType} (names : (types.map (·.name)).Nodup)
    {type : RecordType} (member : type ∈ types) : findType? types type.name = some type := by
  induction types with
  | nil => cases member
  | cons t types ih =>
    obtain ⟨absent, names⟩ := List.nodup_cons.mp names
    rcases List.mem_cons.mp member with rfl | later
    · simp [findType?]
    · have other : t.name ≠ type.name := by
        intro same
        exact absent (List.mem_map.mpr ⟨type, later, same.symm⟩)
      simpa [findType?, other] using ih names later

section

variable {types : List RecordType}

/-- What is sent for a value has no tuples and no records in it, and has each key once in each
mapping, if so has the value and its records are of types with each field once. -/
theorem toWire_isFlat {test : Value → Bool} (mapping : ∀ v, test v = true → v.isMapping = true)
    (record : ∀ type values, test (.record type values) = true →
      type.fieldNames.Nodup ∧ values.length = type.fields.length) {v w : Value}
    (passes : v.everywhere test = true) (sent : v.toWire = .ok w) :
    (w.everywhere fun w => w.isFlat && w.isMapping) = true := by
  refine toWire_everywhere (fun v w (here : test v = true) sent => ?_) v w passes sent
  cases v with
  | list items =>
    obtain ⟨ws, -, rfl⟩ := toWire_list_eq_ok.mp sent
    rfl
  | tuple items =>
    obtain ⟨ws, -, rfl⟩ := toWire_tuple_eq_ok.mp sent
    rfl
  | object entries =>
    obtain ⟨out, all, rfl⟩ := toWire_object_eq_ok.mp sent
    have keys : entries.map (·.1) = out.map (·.1) := forall₂_map_eq (all.imp fun _ _ h => h.1)
    exact Value.isMapping_object.mpr (keys ▸ Value.isMapping_object.mp (mapping _ here))
  | record type values =>
    obtain ⟨out, all, rfl⟩ := toWire_record_eq_ok.mp sent
    obtain ⟨distinct, full⟩ := record type values here
    have keys : out.map (·.1) = type.fieldNames := (fieldsSent_zip full all).1
    exact Value.isMapping_object.mpr (keys ▸ distinct)
  | _ =>
    obtain rfl := Except.ok.inj ((toWire_leaf rfl).symm.trans sent)
    rfl

theorem toWire_flat (fields : ∀ type ∈ types, type.fieldNames.Nodup) {v w : Value}
    (owned : v.belongsTo types = true) (sent : v.toWire = .ok w) :
    (w.everywhere fun w => w.isFlat && w.isMapping) = true := by
  refine toWire_isFlat (fun v here => ?_) (fun type values here => ?_) owned sent
  · cases v <;> first | exact here | rfl
  · obtain ⟨member, full⟩ := Value.isRecordOf_record.mp here
    exact ⟨fields type member, full⟩

theorem toWire_isSendable {v w : Value} (sendable : v.everywhere Value.isSendable = true)
    (sent : v.toWire = .ok w) : w.everywhere Value.isSendable = true :=
  toWire_everywhere_leaves (fun _ => rfl) (fun _ => rfl) (fun _ _ here => here) sendable sent

/-- What is sent for a value of the declared types, without absent arguments and types in it, is
plain. -/
theorem toWire_isPlain (fields : ∀ type ∈ types, type.fieldNames.Nodup) {v w : Value}
    (owned : v.belongsTo types = true) (sendable : v.everywhere Value.isSendable = true)
    (sent : v.toWire = .ok w) : w.isPlain = true :=
  Value.isPlain_iff.mpr ⟨toWire_flat fields owned sent, toWire_isSendable sendable sent⟩

/-- Whatever type a value passes the check of, what is sent for it conforms to that type. -/
def SendsConforming (types : List RecordType) (v : Value) : Prop :=
  ∀ t w, v.belongsTo types = true → t.mismatch? v = none → v.toWire = .ok w → w.isPlain = true →
    Conforms types t w

theorem primitive_conforms {kind : Primitive} {v : Value} (admitted : kind.admits v = true) :
    Conforms types (.primitive kind) v := by
  cases kind <;> cases v <;> first | constructor | simp [Primitive.admits] at admitted

theorem items_conform {items ws : List Value} (inside : ∀ v ∈ items, SendsConforming types v)
    (owned : ∀ v ∈ items, v.belongsTo types = true) {element : TypeRef}
    (shaped : ∀ v ∈ items, element.mismatch? v = none)
    (sent : List.Forall₂ (fun v w => v.toWire = .ok w) items ws)
    (plain : ∀ w ∈ ws, w.isPlain = true) : Conforms types (.array element) (.list ws) := by
  refine .array fun w member => ?_
  obtain ⟨v, here, sent⟩ := forall₂_mem_right sent member
  exact inside v here element w (owned v here) (shaped v here) sent (plain w member)

theorem record_conforms {type : RecordType} {values : List Value} {entries : List (String × Value)}
    (inside : ∀ v ∈ values, SendsConforming types v)
    (owned : ∀ v ∈ values, v.belongsTo types = true) (full : values.length = type.fields.length)
    (declared : findType? types type.name = some type)
    (sent : List.Forall₂ FieldSent (type.fields.zip values) entries)
    (plain : ∀ e ∈ entries, e.2.isPlain = true) :
    Conforms types (.named type.name) (.object entries) := by
  obtain ⟨keys, all⟩ := fieldsSent_zip full sent
  refine .record declared keys fun p member => ?_
  obtain ⟨v, here, -, shaped, sent⟩ := all p member
  exact inside v here p.1.2 p.2.2 (owned v here) shaped sent (plain p.2 (List.of_mem_zip member).2)

/-- What is sent for a value that passes the check of a type conforms to it. -/
theorem toWire_conforms (names : (types.map (·.name)).Nodup)
    (undeclared : findType? types untypedObject = none) (v : Value) : SendsConforming types v := by
  induction v using Value.partsInduction with
  | leaf v leaf =>
    intro t w owned shaped sent plain
    obtain rfl := Except.ok.inj ((toWire_leaf leaf).symm.trans sent)
    obtain ⟨kind, rfl, admitted⟩ := (mismatch?_leaf_eq_none leaf).mp shaped
    exact primitive_conforms admitted
  | list items ih =>
    intro t w owned shaped sent plain
    obtain ⟨ws, itemsSent, rfl⟩ := toWire_list_eq_ok.mp sent
    obtain ⟨element, rfl, itemsShaped⟩ := mismatch?_list_eq_none.mp shaped
    exact items_conform ih (Value.everywhere_list.mp owned).2 itemsShaped itemsSent
      (Value.everywhere_list.mp plain).2
  | tuple items ih =>
    intro t w owned shaped sent plain
    obtain ⟨ws, itemsSent, rfl⟩ := toWire_tuple_eq_ok.mp sent
    obtain ⟨element, rfl, itemsShaped⟩ := mismatch?_tuple_eq_none.mp shaped
    exact items_conform ih (Value.everywhere_tuple.mp owned).2 itemsShaped itemsSent
      (Value.everywhere_list.mp plain).2
  | object entries ih =>
    intro t w owned shaped sent plain
    obtain ⟨out, -, rfl⟩ := toWire_object_eq_ok.mp sent
    obtain rfl := mismatch?_object_eq_none.mp shaped
    exact .untyped undeclared plain
  | record type values ih =>
    intro t w owned shaped sent plain
    obtain ⟨out, fieldsSent, rfl⟩ := toWire_record_eq_ok.mp sent
    obtain rfl := mismatch?_record_eq_none.mp shaped
    obtain ⟨here, owned⟩ := Value.everywhere_record.mp owned
    obtain ⟨member, full⟩ := Value.isRecordOf_record.mp here
    exact record_conforms ih owned full (findType?_name names member) fieldsSent
      (Value.everywhere_object.mp plain).2

end

end ServiceClient

import ServiceClient.Proofs.Decoding
import ServiceClient.Value.Equality

/-!
What is sent comes back. A plain value that conforms to a type is already in its normal form, so it
can be read and sent again; and reading what was sent for a value gives that very value, unless it
holds tuples or records where no type declares them.
-/

namespace ServiceClient

section

variable {types : List RecordType}

/-- In a record that conforms to its type, each entry stands beside its field. -/
theorem field_of_entry {fields : List (String × TypeRef)} {entries : List (String × Value)}
    (distinct : (fields.map (·.1)).Nodup) (keys : entries.map (·.1) = fields.map (·.1))
    {e : String × Value} (entry : e ∈ entries) :
    ∃ t, fields.lookup e.1 = some t ∧ ((e.1, t), e) ∈ fields.zip entries := by
  have full : entries.length = fields.length := by simpa using congrArg List.length keys
  obtain ⟨⟨field, t⟩, beside⟩ := exists_mem_zip full entry
  obtain rfl : field = e.1 := zip_keys keys _ beside
  exact ⟨t, (lookup_eq_some_iff_mem distinct).mpr (List.of_mem_zip beside).1, beside⟩

theorem fillEntries_eq {fields : List (String × TypeRef)} {entries given : List (String × Value)}
    (keys : entries.map (·.1) = fields.map (·.1))
    (found : ∀ e ∈ entries, given.lookup e.1 = some e.2) : fillEntries fields given = entries := by
  induction fields generalizing entries with
  | nil => simpa [fillEntries] using keys.symm
  | cons f fields ih =>
    cases entries with
    | nil => simp at keys
    | cons e entries =>
      obtain ⟨(here : e.1 = f.1), later⟩ := List.cons.inj keys
      obtain ⟨hereFound, laterFound⟩ := List.forall_mem_cons.mp found
      have rest := ih later laterFound
      rw [fillEntries] at rest ⊢
      rw [List.map_cons, rest, ← here, hereFound, Option.getD_some]

/-! ## Conforming values -/

theorem conforms_acceptable (well : WellNamed types) {t : TypeRef} {w : Value}
    (conforms : Conforms types t w) : Acceptable types t w := by
  induction conforms with
  | int n => exact .int n
  | float x => exact .float x
  | string s => exact .string s
  | boolean b => exact .boolean b
  | array all ih => exact .array ih
  | @record name type entries declared keys all ih =>
    have distinct := well.fields type (mem_of_findType? declared).1
    apply Acceptable.record declared
    · intro e entry
      exact keys ▸ List.mem_map_of_mem entry
    · intro e entry t field
      obtain ⟨t', found, beside⟩ := field_of_entry distinct keys entry
      obtain rfl : t' = t := eq_of_lookup distinct found field
      exact ih _ beside
    · intro field name member
      exact keys ▸ List.mem_map_of_mem member
  | untyped undeclared plain => exact .untyped undeclared

theorem normalizeItems_eq {element : TypeRef} {items : List Value}
    (all : ∀ v ∈ items, v.normalize types element = v) :
    normalizeItems types element items = items := by
  induction items with
  | nil => rfl
  | cons v vs ih =>
    obtain ⟨here, later⟩ := List.forall_mem_cons.mp all
    rw [normalizeItems, here, ih later]

theorem normalizeEntries_eq {fields : List (String × TypeRef)} {entries : List (String × Value)}
    (all : ∀ e ∈ entries, ∃ t, fields.lookup e.1 = some t ∧ e.2.normalize types t = e.2) :
    normalizeEntries types fields entries = entries := by
  induction entries with
  | nil => rfl
  | cons e rest ih =>
    obtain ⟨⟨t, found, here⟩, later⟩ := List.forall_mem_cons.mp all
    simp only [normalizeEntries, found, here, ih later]

/-- A conforming value is in its normal form. -/
theorem conforms_normalize (well : WellNamed types) {t : TypeRef} {w : Value}
    (conforms : Conforms types t w) : w.normalize types t = w := by
  induction conforms with
  | int n | float x | string s | boolean b => rfl
  | array all ih => rw [Value.normalize, normalizeItems_eq ih]
  | @record name type entries declared keys all ih =>
    have distinct := well.fields type (mem_of_findType? declared).1
    have same : normalizeEntries types type.fields entries = entries := by
      apply normalizeEntries_eq
      intro e entry
      obtain ⟨t, found, beside⟩ := field_of_entry distinct keys entry
      exact ⟨t, found, ih _ beside⟩
    have entriesDistinct : (entries.map (·.1)).Nodup := keys ▸ distinct
    simp only [Value.normalize, declared, same]
    rw [fillEntries_eq keys fun e entry => (lookup_eq_some_iff_mem entriesDistinct).mpr entry]
  | untyped undeclared plain => simp only [Value.normalize, undeclared]

/-! ## Values that come back as they were -/

namespace Value

/-- Whether a value is not a tuple, and is plain if it is a mapping. -/
def keepsShape : Value → Bool
  | tuple _ => false
  | v@(object _) => v.isPlain
  | _ => true

/-- Whether a value is not the floating point number that is no number. -/
def isNotNan : Value → Bool
  | float .nan => false
  | _ => true

theorem equalItems_self {items : List Value} (all : ∀ v ∈ items, v.equal v = true) :
    equalItems items items = true := by
  induction items with
  | nil => rfl
  | cons v vs ih =>
    obtain ⟨here, later⟩ := List.forall_mem_cons.mp all
    rw [equalItems, here, ih later, Bool.and_self]

theorem equalEntries_of_lookup {entries others : List (String × Value)}
    (all : ∀ e ∈ entries, others.lookup e.1 = some e.2 ∧ e.2.equal e.2 = true) :
    equalEntries entries others = true := by
  induction entries with
  | nil => rfl
  | cons e rest ih =>
    obtain ⟨⟨found, same⟩, later⟩ := List.forall_mem_cons.mp all
    simp only [equalEntries, found, same, ih later, Bool.and_self]

/-- A value equals itself, if each mapping in it has each key once and there is no NaN in it. -/
theorem equal_self (v : Value) (regular : v.isRegular = true)
    (numbers : v.everywhere isNotNan = true) : v.equal v = true := by
  induction v using partsInduction with
  | leaf v leaf =>
    have here := everywhere_here numbers
    cases v with
    | float x => cases x <;> simp_all [equal, sameAmount, amount?, Binary64.dyadic?, isNotNan]
    | _ => simp_all [equal, sameAmount, amount?, isLeaf]
  | list items ih =>
    obtain ⟨-, regular⟩ := everywhere_list.mp regular
    obtain ⟨-, numbers⟩ := everywhere_list.mp numbers
    exact equalItems_self fun v member => ih v member (regular v member) (numbers v member)
  | tuple items ih =>
    obtain ⟨-, regular⟩ := everywhere_tuple.mp regular
    obtain ⟨-, numbers⟩ := everywhere_tuple.mp numbers
    exact equalItems_self fun v member => ih v member (regular v member) (numbers v member)
  | object entries ih =>
    obtain ⟨keys, regular⟩ := everywhere_object.mp regular
    obtain ⟨-, numbers⟩ := everywhere_object.mp numbers
    have keys := isMapping_object.mp keys
    have same : equalEntries entries entries = true := equalEntries_of_lookup fun e entry =>
      ⟨(lookup_eq_some_iff_mem keys).mpr entry, ih e entry (regular e entry) (numbers e entry)⟩
    simp [equal, same]
  | record type values ih =>
    obtain ⟨-, regular⟩ := everywhere_record.mp regular
    obtain ⟨-, numbers⟩ := everywhere_record.mp numbers
    have same : equalItems values values = true := equalItems_self fun v member =>
      ih v member (regular v member) (numbers v member)
    simp [equal, same]

end Value

/-- A record is made again of its values under the names of their fields. -/
theorem make_zip {type : RecordType} {values : List Value} (distinct : type.fieldNames.Nodup)
    (unreceived : receiverName ∉ type.fieldNames) (full : values.length = type.fields.length) :
    type.make [] ((type.fields.zip values).map fun p => (p.1.1, p.2)) =
      .ok (.record type values) := by
  have fields : (type.fields.zip values).map Prod.fst = type.fields :=
    List.map_fst_zip (Nat.le_of_eq full.symm)
  have keys : (((type.fields.zip values).map fun p => (p.1.1, p.2)).map (·.1)) =
      type.fieldNames := by
    simpa [RecordType.fieldNames, Function.comp_def] using congrArg (List.map Prod.fst) fields
  refine make_eq_ok.mpr ⟨?_, ?_, ?_⟩
  · rwa [lookup_eq_none_iff_not_mem, keys]
  · exact fun e member => keys ▸ List.mem_map_of_mem member
  · refine congrArg (Value.record type) (map_eq_of_zip full fun p beside => ?_)
    have isEntry : (p.1.1, p.2) ∈ (type.fields.zip values).map fun p => (p.1.1, p.2) :=
      List.mem_map.mpr ⟨p, beside, rfl⟩
    rw [(lookup_eq_some_iff_mem (keys ▸ distinct)).mpr isEntry, Option.getD_some]

/-- What is sent for a value is read as that value, if the value has no tuples and nothing but plain
values in its mappings. -/
theorem ofWire_toWire (well : WellNamed types) (undeclared : findType? types untypedObject = none)
    (unreceived : ∀ type ∈ types, receiverName ∉ type.fieldNames) (v : Value) :
    ∀ {t : TypeRef} {w : Value}, v.belongsTo types = true → v.everywhere Value.keepsShape = true →
      t.mismatch? v = none → v.toWire = .ok w → w.ofWire types t = .ok v := by
  induction v using Value.partsInduction with
  | leaf v leaf =>
    intro t w owned shape shaped sent
    obtain rfl := Except.ok.inj ((toWire_leaf leaf).symm.trans sent)
    exact ofWire_leaf leaf
  | list items ih =>
    intro t w owned shape shaped sent
    obtain ⟨element, rfl, itemsShaped⟩ := mismatch?_list_eq_none.mp shaped
    obtain ⟨ws, itemsSent, rfl⟩ := toWire_list_eq_ok.mp sent
    obtain ⟨-, owned⟩ := Value.everywhere_list.mp owned
    obtain ⟨-, shape⟩ := Value.everywhere_list.mp shape
    simp only [Value.ofWire, bind_eq_ok, ofWireItems_eq_ok]
    refine ⟨items, List.Forall₂.flip (forall₂_imp_mem itemsSent fun v member w sent => ?_), rfl⟩
    exact ih v member (owned v member) (shape v member) (itemsShaped v member) sent
  | tuple items ih =>
    intro t w owned shape
    exact absurd (Value.everywhere_here shape) (by simp [Value.keepsShape])
  | object entries ih =>
    intro t w owned shape shaped sent
    obtain rfl := mismatch?_object_eq_none.mp shaped
    have plain : (Value.object entries).isPlain = true := (Value.everywhere_object.mp shape).1
    obtain rfl := Except.ok.inj ((toWire_plain _ plain).symm.trans sent)
    simp only [Value.ofWire, undeclared]
  | record type values ih =>
    intro t w owned shape shaped sent
    obtain rfl := mismatch?_record_eq_none.mp shaped
    obtain ⟨here, owned⟩ := Value.everywhere_record.mp owned
    obtain ⟨-, shape⟩ := Value.everywhere_record.mp shape
    obtain ⟨member, full⟩ := Value.isRecordOf_record.mp here
    have distinct := well.fields type member
    obtain ⟨out, fieldsSent, rfl⟩ := toWire_record_eq_ok.mp sent
    refine (ofWire_record (findType?_name well.names member)).mpr
      ⟨_, ?_, make_zip distinct (unreceived type member) full⟩
    rw [List.forall₂_map_right_iff]
    refine List.Forall₂.flip (forall₂_imp_mem fieldsSent fun p beside e sent => ?_)
    obtain ⟨isField, isValue⟩ := List.of_mem_zip beside
    obtain ⟨sameKey, shaped, sent⟩ := sent
    refine ⟨sameKey.symm, .inr ⟨p.1.2, ?_, ?_⟩⟩
    · exact (lookup_eq_some_iff_mem distinct).mpr (sameKey ▸ isField)
    · exact ih p.2 isValue (owned p.2 isValue) (shape p.2 isValue) shaped sent

end

/-- A record that was sent can be read and sends the same again; what is read equals it, unless it
holds a NaN or a tuple, or something that is not plain in a mapping. -/
theorem record_round_trip {description w : Value} {endpoint : String} {client : Client}
    {type : RecordType} {values : List Value} (regular : description.isRegular = true)
    (built : Client.build description endpoint = .ok client)
    (undeclared : findType? client.types untypedObject = none)
    (unreceived : ∀ type ∈ client.types, receiverName ∉ type.fieldNames)
    (owned : (Value.record type values).belongsTo client.types = true)
    (sendable : (Value.record type values).everywhere Value.isSendable = true)
    (sent : (Value.record type values).toWire = .ok w) :
    ∃ back, type.ofWireForm client.types w = .ok back ∧ back.toWire = .ok w ∧
      ((Value.record type values).everywhere Value.keepsShape = true →
        (Value.record type values).everywhere Value.isNotNan = true →
        back.equal (.record type values) = true) := by
  have well := build_wellNamed regular built
  have shaped : (TypeRef.named type.name).mismatch? (.record type values) = none :=
    mismatch?_record_eq_none.mpr rfl
  have plain := toWire_isPlain well.fields owned sendable sent
  have conforms : Conforms client.types (.named type.name) w :=
    toWire_conforms well.names undeclared _ _ w owned shaped sent plain
  obtain ⟨back, read, -, again⟩ : Recodes client.types (.named type.name) w w := by
    have recodes := acceptable_recodes well unreceived (conforms_acceptable well conforms) plain
    rwa [conforms_normalize well conforms] at recodes
  have member := (Value.isRecordOf_record.mp (Value.everywhere_here owned)).1
  have asForm : type.ofWireForm client.types w = w.ofWire client.types (.named type.name) := by
    obtain ⟨out, -, rfl⟩ := toWire_record_eq_ok.mp sent
    simp only [RecordType.ofWireForm, Value.ofWire, findType?_name well.names member]
  refine ⟨back, asForm.trans read, again, fun shape numbers => ?_⟩
  have same := ofWire_toWire well undeclared unreceived _ owned shape shaped sent
  obtain rfl := Except.ok.inj (read.symm.trans same)
  exact Value.equal_self _ (Value.isRegular_of_belongsTo owned) numbers

/-- A node with a link to another. -/
theorem record_round_trip_node :
    let node : Value := .record sampleNode
      [.string "a", .int 3, .list [.record sampleNode [.string "b", .int 0, .list []]]]
    let sent : Value := .object [("label", .string "a"), ("size", .int 3),
      ("links", .list [.object [("label", .string "b"), ("size", .int 0), ("links", .list [])]])]
    ∃ back, sampleNode.ofWireForm sampleClient.types sent = .ok back ∧ back.toWire = .ok sent ∧
      back.equal node = true := by
  intro node sent
  have posted : node.toWire = .ok sent := rfl
  obtain ⟨back, read, again, same⟩ := record_round_trip (by decide) sample_built (by decide)
    (by decide) (by decide) (by decide) posted
  exact ⟨back, read, again, same (by decide) (by decide)⟩

end ServiceClient

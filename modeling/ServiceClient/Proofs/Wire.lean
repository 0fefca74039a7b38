import ServiceClient.Proofs.Outcome
import ServiceClient.Proofs.Parts

/-!
What sending and reading do to the items, entries and fields inside a value, one by one: each of the
recursive conversions is a relation between the lists that go in and those that come out.
-/

namespace ServiceClient

theorem firstMismatch?_eq_none {mismatch? : Value → Option Mismatch} {items : List Value}
    {i : Nat} : firstMismatch? mismatch? i items = none ↔ ∀ v ∈ items, mismatch? v = none := by
  induction items generalizing i with
  | nil => simp [firstMismatch?]
  | cons v vs ih =>
    cases h : mismatch? v with
    | none => simp [firstMismatch?, h, ih]
    | some m => simp [firstMismatch?, h]

theorem mismatch?_primitive_eq_none {kind : Primitive} {v : Value} :
    (TypeRef.primitive kind).mismatch? v = none ↔ kind.admits v = true := by
  cases h : kind.admits v <;> simp [TypeRef.mismatch?, h]

section

variable {t : TypeRef} {items : List Value}

theorem mismatch?_leaf_eq_none {v : Value} (leaf : v.isLeaf = true) :
    t.mismatch? v = none ↔ ∃ kind, t = .primitive kind ∧ kind.admits v = true := by
  cases t with
  | primitive kind => simp [mismatch?_primitive_eq_none]
  | array element => cases v <;> simp_all [TypeRef.mismatch?, Value.elements?, Value.isLeaf]
  | named name => cases v <;> simp_all [TypeRef.mismatch?, namedAdmits, Value.isLeaf]

theorem mismatch?_list_eq_none :
    t.mismatch? (.list items) = none ↔
      ∃ element, t = .array element ∧ ∀ v ∈ items, element.mismatch? v = none := by
  cases t with
  | primitive kind => cases kind <;> simp [TypeRef.mismatch?, Primitive.admits]
  | array element => simp [TypeRef.mismatch?, Value.elements?, firstMismatch?_eq_none]
  | named name => simp [TypeRef.mismatch?, namedAdmits]

theorem mismatch?_tuple_eq_none :
    t.mismatch? (.tuple items) = none ↔
      ∃ element, t = .array element ∧ ∀ v ∈ items, element.mismatch? v = none := by
  cases t with
  | primitive kind => cases kind <;> simp [TypeRef.mismatch?, Primitive.admits]
  | array element => simp [TypeRef.mismatch?, Value.elements?, firstMismatch?_eq_none]
  | named name => simp [TypeRef.mismatch?, namedAdmits]

theorem mismatch?_object_eq_none {entries : List (String × Value)} :
    t.mismatch? (.object entries) = none ↔ t = .named untypedObject := by
  cases t with
  | primitive kind => cases kind <;> simp [TypeRef.mismatch?, Primitive.admits]
  | array element => simp [TypeRef.mismatch?, Value.elements?]
  | named name => by_cases h : name = untypedObject <;> simp [TypeRef.mismatch?, namedAdmits, h]

theorem mismatch?_record_eq_none {type : RecordType} {values : List Value} :
    t.mismatch? (.record type values) = none ↔ t = .named type.name := by
  cases t with
  | primitive kind => cases kind <;> simp [TypeRef.mismatch?, Primitive.admits]
  | array element => simp [TypeRef.mismatch?, Value.elements?]
  | named name =>
    by_cases h : type.name = name
    · simp [TypeRef.mismatch?, namedAdmits, h]
    · simp [TypeRef.mismatch?, namedAdmits, h, Ne.symm h]

end

theorem check_eq_ok {t : TypeRef} {subject : String} {v : Value} :
    t.check subject v = .ok () ↔ t.mismatch? v = none := by
  cases h : t.mismatch? v <;> simp [TypeRef.check, h]

/-! ## Sending -/

section

variable {items sent : List Value} {entries out : List (String × Value)}

theorem toWireItems_eq_mapM : toWireItems items = items.mapM Value.toWire := by
  induction items with
  | nil => rfl
  | cons v vs ih => rw [List.mapM_cons, ← ih, toWireItems]

theorem toWireItems_eq_ok :
    toWireItems items = .ok sent ↔ List.Forall₂ (fun v w => v.toWire = .ok w) items sent := by
  rw [toWireItems_eq_mapM, mapM_eq_ok]

theorem toWireEntries_eq_mapM :
    toWireEntries entries = entries.mapM fun e => do return (e.1, ← e.2.toWire) := by
  induction entries with
  | nil => rfl
  | cons e rest ih => simp only [toWireEntries, ih, List.mapM_cons, bind_assoc, pure_bind]

theorem toWireEntries_eq_ok :
    toWireEntries entries = .ok out ↔
      List.Forall₂ (fun e e' => e.1 = e'.1 ∧ e.2.toWire = .ok e'.2) entries out := by
  rw [toWireEntries_eq_mapM, mapM_eq_ok]
  apply forall₂_iff
  intro e e'
  simp only [bind_eq_ok, pure_eq_ok, Prod.ext_iff]
  constructor
  · rintro ⟨w, sent, same, rfl⟩
    exact ⟨same, sent⟩
  · rintro ⟨same, sent⟩
    exact ⟨_, sent, same, rfl⟩

/-- A field of a record and its value become an entry: the value has the type, and is sent. -/
def FieldSent (field : (String × TypeRef) × Value) (e : String × Value) : Prop :=
  field.1.1 = e.1 ∧ field.1.2.mismatch? field.2 = none ∧ field.2.toWire = .ok e.2

theorem toWireFields_eq_ok {owner : String} {fields : List (String × TypeRef)}
    {values : List Value} :
    toWireFields owner fields values = .ok out ↔
      List.Forall₂ FieldSent (fields.zip values) out := by
  induction fields generalizing values out with
  | nil => simp [toWireFields, eq_comm]
  | cons f fields ih =>
    obtain ⟨field, t⟩ := f
    cases values with
    | nil => simp [toWireFields, eq_comm]
    | cons v values =>
      simp only [toWireFields, bind_eq_ok, pure_eq_ok, ih, List.zip_cons_cons,
        List.forall₂_cons_left_iff]
      constructor
      · rintro ⟨_, hv, w, hw, ws, hws, rfl⟩
        exact ⟨(field, w), ws, ⟨rfl, check_eq_ok.mp hv, hw⟩, hws, rfl⟩
      · rintro ⟨⟨field', w⟩, ws, ⟨rfl, hv, hw⟩, hws, rfl⟩
        exact ⟨(), check_eq_ok.mpr hv, w, hw, ws, hws, rfl⟩

variable {w : Value}

theorem toWire_leaf {v : Value} (leaf : v.isLeaf = true) : v.toWire = .ok v := by
  cases v <;> simp_all [Value.isLeaf, Value.toWire]

theorem toWire_list_eq_ok :
    (Value.list items).toWire = .ok w ↔
      ∃ ws, List.Forall₂ (fun v w => v.toWire = .ok w) items ws ∧ .list ws = w := by
  simp only [Value.toWire, bind_eq_ok, pure_eq_ok, toWireItems_eq_ok]

theorem toWire_tuple_eq_ok :
    (Value.tuple items).toWire = .ok w ↔
      ∃ ws, List.Forall₂ (fun v w => v.toWire = .ok w) items ws ∧ .list ws = w := by
  simp only [Value.toWire, bind_eq_ok, pure_eq_ok, toWireItems_eq_ok]

theorem toWire_object_eq_ok :
    (Value.object entries).toWire = .ok w ↔
      ∃ out, List.Forall₂ (fun e e' => e.1 = e'.1 ∧ e.2.toWire = .ok e'.2) entries out ∧
        .object out = w := by
  simp only [Value.toWire, bind_eq_ok, pure_eq_ok, toWireEntries_eq_ok]

theorem toWire_record_eq_ok {type : RecordType} {values : List Value} :
    (Value.record type values).toWire = .ok w ↔
      ∃ out, List.Forall₂ FieldSent (type.fields.zip values) out ∧ .object out = w := by
  simp only [Value.toWire, bind_eq_ok, pure_eq_ok, toWireFields_eq_ok]

end

/-- The entries that the fields of a record become have the names of the fields, and each is what
its field's value is sent as. -/
theorem fieldsSent_zip {fields : List (String × TypeRef)} {values : List Value}
    {entries : List (String × Value)} (full : values.length = fields.length)
    (sent : List.Forall₂ FieldSent (fields.zip values) entries) :
    entries.map (·.1) = fields.map (·.1) ∧
      ∀ p ∈ fields.zip entries, ∃ v ∈ values, FieldSent (p.1, v) p.2 := by
  induction fields generalizing values entries with
  | nil => cases sent; simp
  | cons f fields ih =>
    cases values with
    | nil => simp at full
    | cons v values =>
      cases sent with
      | cons here rest =>
        obtain ⟨keys, all⟩ := ih (by simpa using full) rest
        refine ⟨by simp [keys, ← here.1], ?_⟩
        intro p member
        rcases List.mem_cons.mp member with rfl | later
        · exact ⟨v, by simp, here⟩
        · obtain ⟨u, inside, sent⟩ := all p later
          exact ⟨u, by simp [inside], sent⟩

/-- Each entry of a record on the wire is what one of its values is sent as. -/
theorem fieldsSent_mem {fields : List (String × TypeRef)} {values : List Value}
    {entries : List (String × Value)}
    (sent : List.Forall₂ FieldSent (fields.zip values) entries) {e : String × Value}
    (member : e ∈ entries) : ∃ v ∈ values, v.toWire = .ok e.2 := by
  obtain ⟨p, inside, -, -, sent⟩ := forall₂_mem_right sent member
  exact ⟨p.2, (List.of_mem_zip inside).2, sent⟩

/-- What is sent passes a test everywhere if each value that passes another is sent as one whose
outermost layer does. -/
theorem toWire_everywhere {before after : Value → Bool}
    (outermost : ∀ v w, before v = true → v.toWire = .ok w → after w = true) (v : Value) :
    ∀ w, v.everywhere before = true → v.toWire = .ok w → w.everywhere after = true := by
  induction v using Value.partsInduction with
  | leaf v leaf =>
    intro w passes sent
    have here := outermost v w (Value.everywhere_here passes) sent
    obtain rfl := Except.ok.inj ((toWire_leaf leaf).symm.trans sent)
    exact Value.everywhere_leaf leaf here
  | list items ih =>
    intro w passes sent
    obtain ⟨here, inside⟩ := Value.everywhere_list.mp passes
    obtain ⟨ws, all, rfl⟩ := toWire_list_eq_ok.mp sent
    refine Value.everywhere_list.mpr ⟨outermost _ _ here sent, fun w member => ?_⟩
    obtain ⟨v, item, sent⟩ := forall₂_mem_right all member
    exact ih v item w (inside v item) sent
  | tuple items ih =>
    intro w passes sent
    obtain ⟨here, inside⟩ := Value.everywhere_tuple.mp passes
    obtain ⟨ws, all, rfl⟩ := toWire_tuple_eq_ok.mp sent
    refine Value.everywhere_list.mpr ⟨outermost _ _ here sent, fun w member => ?_⟩
    obtain ⟨v, item, sent⟩ := forall₂_mem_right all member
    exact ih v item w (inside v item) sent
  | object entries ih =>
    intro w passes sent
    obtain ⟨here, inside⟩ := Value.everywhere_object.mp passes
    obtain ⟨out, all, rfl⟩ := toWire_object_eq_ok.mp sent
    refine Value.everywhere_object.mpr ⟨outermost _ _ here sent, fun e member => ?_⟩
    obtain ⟨e', entry, -, sent⟩ := forall₂_mem_right all member
    exact ih e' entry e.2 (inside e' entry) sent
  | record type values ih =>
    intro w passes sent
    obtain ⟨here, inside⟩ := Value.everywhere_record.mp passes
    obtain ⟨out, all, rfl⟩ := toWire_record_eq_ok.mp sent
    refine Value.everywhere_object.mpr ⟨outermost _ _ here sent, fun e member => ?_⟩
    obtain ⟨v, value, sent⟩ := fieldsSent_mem all member
    exact ih v value e.2 (inside v value) sent

/-- A test that lists and mappings pass is about the values that have no values inside them, which
are sent as they are. -/
theorem toWire_everywhere_leaves {before after : Value → Bool}
    (lists : ∀ items, after (.list items) = true)
    (objects : ∀ entries, after (.object entries) = true)
    (leaves : ∀ v : Value, v.isLeaf = true → before v = true → after v = true) {v w : Value}
    (passes : v.everywhere before = true) (sent : v.toWire = .ok w) :
    w.everywhere after = true := by
  refine toWire_everywhere (fun v w here sent => ?_) v w passes sent
  cases v with
  | list items =>
    obtain ⟨ws, -, rfl⟩ := toWire_list_eq_ok.mp sent
    exact lists ws
  | tuple items =>
    obtain ⟨ws, -, rfl⟩ := toWire_tuple_eq_ok.mp sent
    exact lists ws
  | object entries =>
    obtain ⟨out, -, rfl⟩ := toWire_object_eq_ok.mp sent
    exact objects out
  | record type values =>
    obtain ⟨out, -, rfl⟩ := toWire_record_eq_ok.mp sent
    exact objects out
  | _ =>
    obtain rfl := Except.ok.inj ((toWire_leaf rfl).symm.trans sent)
    exact leaves _ rfl here

/-- A value without records and tuples is sent as it is. -/
theorem toWire_unchanged (v : Value) (flat : v.everywhere Value.isFlat = true) :
    v.toWire = .ok v := by
  induction v using Value.partsInduction with
  | leaf v leaf => exact toWire_leaf leaf
  | list items ih =>
    obtain ⟨-, inside⟩ := Value.everywhere_list.mp flat
    refine toWire_list_eq_ok.mpr ⟨items, List.forall₂_same.mpr fun v member => ?_, rfl⟩
    exact ih v member (inside v member)
  | object entries ih =>
    obtain ⟨-, inside⟩ := Value.everywhere_object.mp flat
    refine toWire_object_eq_ok.mpr ⟨entries, List.forall₂_same.mpr fun e member => ⟨rfl, ?_⟩, rfl⟩
    exact ih e member (inside e member)
  | tuple items | record type values =>
    exact absurd (Value.everywhere_here flat) (by simp [Value.isFlat])

/-- A plain value is sent as it is. -/
theorem toWire_plain (v : Value) (plain : v.isPlain = true) : v.toWire = .ok v := by
  have flat := (Value.isPlain_iff.mp plain).1
  apply toWire_unchanged
  exact ((Value.everywhere_and v).mp flat).1

/-- There are no records and tuples in what is sent for a value. -/
theorem flat_of_toWire {v w : Value} (sent : v.toWire = .ok w) :
    w.everywhere Value.isFlat = true := by
  have anything : v.everywhere (fun _ => true) = true :=
    Value.everywhere_of_forall (fun _ => rfl) v
  refine toWire_everywhere_leaves (fun _ => rfl) (fun _ => rfl) ?_ anything sent
  intro v leaf _
  cases v <;> first | rfl | cases leaf

/-! ## Reading -/

section

variable {types : List RecordType}

theorem ofWire_leaf {t : TypeRef} {v : Value} (leaf : v.isLeaf = true) :
    v.ofWire types t = .ok v := by
  cases t <;> cases v <;> simp_all [Value.isLeaf, Value.ofWire]

theorem ofWireItems_eq_mapM {element : TypeRef} {items : List Value} :
    ofWireItems types element items = items.mapM (Value.ofWire types element) := by
  induction items with
  | nil => rfl
  | cons v vs ih => rw [List.mapM_cons, ← ih, ofWireItems]

theorem ofWireItems_eq_ok {element : TypeRef} {items read : List Value} :
    ofWireItems types element items = .ok read ↔
      List.Forall₂ (fun v r => v.ofWire types element = .ok r) items read := by
  rw [ofWireItems_eq_mapM, mapM_eq_ok]

/-- The value of an entry as the field of its name. -/
def readEntry (types : List RecordType) (fields : List (String × TypeRef)) (e : String × Value) :
    Except Failure Value :=
  match fields.lookup e.1 with
  | some t => e.2.ofWire types t
  | none => .ok e.2

theorem ofWireEntries_eq_mapM {fields : List (String × TypeRef)}
    {entries : List (String × Value)} :
    ofWireEntries types fields entries =
      entries.mapM fun e => do return (e.1, ← readEntry types fields e) := by
  induction entries with
  | nil => rfl
  | cons e rest ih =>
    rw [List.mapM_cons, ← ih]
    cases h : fields.lookup e.1 <;>
      simp only [ofWireEntries, readEntry, h, bind_assoc, pure_bind]

/-- An entry is read as the field of its name, or left as it is where there is no such field. -/
def EntryRead (types : List RecordType) (fields : List (String × TypeRef))
    (e r : String × Value) : Prop :=
  e.1 = r.1 ∧
    ((fields.lookup e.1 = none ∧ e.2 = r.2) ∨
      ∃ t, fields.lookup e.1 = some t ∧ e.2.ofWire types t = .ok r.2)

theorem ofWireEntries_eq_ok {fields : List (String × TypeRef)}
    {entries read : List (String × Value)} :
    ofWireEntries types fields entries = .ok read ↔
      List.Forall₂ (EntryRead types fields) entries read := by
  rw [ofWireEntries_eq_mapM, mapM_eq_ok]
  apply forall₂_iff
  intro e r
  simp only [bind_eq_ok, pure_eq_ok, Prod.ext_iff, readEntry, EntryRead]
  cases h : fields.lookup e.1 with
  | none => simp [and_comm, eq_comm]
  | some t =>
    simp only [reduceCtorEq, false_and, false_or, Option.some.injEq, exists_eq_left']
    constructor
    · rintro ⟨w, sent, same, rfl⟩
      exact ⟨same, sent⟩
    · rintro ⟨same, sent⟩
      exact ⟨_, sent, same, rfl⟩

end

end ServiceClient

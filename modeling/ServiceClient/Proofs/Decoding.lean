import ServiceClient.Proofs.Described

/-!
Reading plain values as values of a type. `Acceptable` says which plain values a type takes, and
`Value.normalize` what they amount to: the entries of a record in the order of its fields, with
default values for those left out. Reading, checking and sending a value back (`Value.recode`)
takes exactly the acceptable ones and gives their normal form.
-/

namespace ServiceClient

/-- A plain value can be read as one of a type. Fields of a record may be left out, except where
they have a named type, and stand in any order. -/
inductive Acceptable (types : List RecordType) : TypeRef → Value → Prop
  | int (n : Int) : Acceptable types (.primitive .number) (.int n)
  | float (x : Binary64) : Acceptable types (.primitive .number) (.float x)
  | string (s : String) : Acceptable types (.primitive .string) (.string s)
  | boolean (b : Bool) : Acceptable types (.primitive .boolean) (.bool b)
  | array {element : TypeRef} {items : List Value}
      (all : ∀ v ∈ items, Acceptable types element v) :
      Acceptable types (.array element) (.list items)
  | record {name : String} {type : RecordType} {entries : List (String × Value)}
      (declared : findType? types name = some type)
      (known : ∀ e ∈ entries, e.1 ∈ type.fieldNames)
      (given : ∀ e ∈ entries, ∀ t, (e.1, t) ∈ type.fields → Acceptable types t e.2)
      (present : ∀ field name, (field, .named name) ∈ type.fields → field ∈ entries.map (·.1)) :
      Acceptable types (.named name) (.object entries)
  | untyped {entries : List (String × Value)}
      (undeclared : findType? types untypedObject = none) :
      Acceptable types (.named untypedObject) (.object entries)

/-- The entries of a record: the one given for each field, or its default. -/
def fillEntries (fields : List (String × TypeRef)) (given : List (String × Value)) :
    List (String × Value) :=
  fields.map fun f => (f.1, (given.lookup f.1).getD f.2.default)

mutual

/-- The normal form of a plain value as one of a type. -/
def Value.normalize (types : List RecordType) : TypeRef → Value → Value
  | .array element, .list items => .list (normalizeItems types element items)
  | .named name, .object entries =>
    match findType? types name with
    | some type => .object (fillEntries type.fields (normalizeEntries types type.fields entries))
    | none => .object entries
  | _, v => v

def normalizeItems (types : List RecordType) (element : TypeRef) : List Value → List Value
  | [] => []
  | v :: vs => v.normalize types element :: normalizeItems types element vs

def normalizeEntries (types : List RecordType) (fields : List (String × TypeRef)) :
    List (String × Value) → List (String × Value)
  | [] => []
  | (key, v) :: rest =>
    let normal := match fields.lookup key with
      | some t => v.normalize types t
      | none => v
    (key, normal) :: normalizeEntries types fields rest

end

/-- Reads a plain value as one of a type, checks what was read and sends it back. -/
def Value.recode (types : List RecordType) (t : TypeRef) (subject : String) (v : Value) :
    Except Failure Value := do
  let read ← v.ofWire types t
  t.check subject read
  read.toWire

/-- Whether a failure is about a value that does not have its type: a mismatch somewhere in it, or
a key that is not a field. -/
def Failure.isTypeError : Failure → Bool
  | mismatch .. | binding (.type _) (.unknown _) | misuse .receiverGiven => true
  | _ => false

def Failure.isMismatch : Failure → Bool
  | mismatch .. => true
  | _ => false

/-- Whether a failure is about a key that is not a field of the record it was given for. The name of
the receiver is none even where a field has it. -/
def Failure.isUnknownField : Failure → Bool
  | binding (.type _) (.unknown _) | misuse .receiverGiven => true
  | _ => false

theorem isTypeError_iff {failure : Failure} :
    failure.isTypeError = true ↔ failure.isUnknownField = true ∨ failure.isMismatch = true := by
  rw [← Bool.or_eq_true]
  refine Eq.congr_left ?_
  cases failure with
  | binding receiver cause => cases receiver <;> cases cause <;> rfl
  | misuse cause => cases cause <;> rfl
  | _ => rfl

/-! ## Making records -/

section

variable {α : Type} {names : List String} {named : List (String × α)}

theorem bindingFault?_eq_none {taken : Nat} :
    bindingFault? names taken named = none ↔
      ∀ e ∈ named, e.1 ∈ names ∧ e.1 ∉ names.take taken := by
  induction named with
  | nil => simp [bindingFault?]
  | cons e named ih =>
    rw [bindingFault?, List.forall_mem_cons, ← ih]
    by_cases known : e.1 ∈ names
    · by_cases twice : e.1 ∈ names.take taken <;> simp [known, twice]
    · simp [known]

theorem bindingFault?_eq_some {cause : BindingFault}
    (fault : bindingFault? names 0 named = some cause) : ∃ key, cause = .unknown key := by
  induction named with
  | nil => simp [bindingFault?] at fault
  | cons e named ih =>
    unfold bindingFault? at fault
    split at fault
    · exact ⟨e.1, (Option.some.inj fault).symm⟩
    · split at fault
      · simp_all
      · exact ih fault

theorem placeArguments_nil :
    placeArguments names [] named = names.map fun name => named.lookup name := by
  induction names with
  | nil => rfl
  | cons name names ih => simp [placeArguments, ih]

theorem bindArguments_named_eq_ok {given : List (Option α)} :
    bindArguments names [] named = .ok given ↔
      (∀ e ∈ named, e.1 ∈ names) ∧ (names.map fun name => named.lookup name) = given := by
  have known : (∀ e ∈ named, e.1 ∈ names) ↔ bindingFault? names 0 named = none := by
    simp [bindingFault?_eq_none]
  simp only [bindArguments, List.length_nil, Nat.not_lt_zero, if_false, known, placeArguments_nil]
  cases bindingFault? names 0 named <;> simp

theorem bindArguments_named_eq_error {cause : BindingFault}
    (refused : bindArguments names [] named = .error cause) : ∃ key, cause = .unknown key := by
  simp only [bindArguments, List.length_nil, Nat.not_lt_zero, if_false] at refused
  cases fault : bindingFault? names 0 named with
  | none => simp [fault] at refused
  | some found =>
    obtain rfl : found = cause := by simpa [fault] using refused
    exact bindingFault?_eq_some fault

theorem refuseReceiver_eq_ok :
    refuseReceiver named = .ok () ↔ named.lookup receiverName = none := by
  cases h : named.lookup receiverName <;> simp [refuseReceiver, h]

end

theorem fill_named {fields : List (String × TypeRef)} {named : List (String × Value)} :
    RecordType.fill fields ((fields.map (·.1)).map fun name => named.lookup name) =
      fields.map fun f => (named.lookup f.1).getD f.2.default := by
  induction fields with
  | nil => rfl
  | cons f fields ih => rw [List.map_cons, List.map_cons, RecordType.fill, ih, List.map_cons]

section

variable {type : RecordType} {named : List (String × Value)}

/-- A record made of named values has the one of each field's name, or the default. -/
theorem make_eq_ok {made : Value} :
    type.make [] named = .ok made ↔
      named.lookup receiverName = none ∧ (∀ e ∈ named, e.1 ∈ type.fieldNames) ∧
        .record type (type.fields.map fun f => (named.lookup f.1).getD f.2.default) = made := by
  rw [RecordType.make, guard_bind_eq_ok, refuseReceiver_eq_ok]
  apply and_congr_right
  intro _
  cases bound : bindArguments type.fieldNames [] named with
  | ok given =>
    obtain ⟨known, rfl⟩ := bindArguments_named_eq_ok.mp bound
    simp only [pure_eq_ok, RecordType.fieldNames, fill_named]
    exact (and_iff_right known).symm
  | error cause =>
    have unknown : ¬∀ e ∈ named, e.1 ∈ type.fieldNames := by
      intro known
      have placed := bindArguments_named_eq_ok.mpr ⟨known, rfl⟩
      simp [bound] at placed
    simp only [throw_ne_ok, unknown, false_and]

theorem make_error {failure : Failure} (refused : type.make [] named = .error failure) :
    failure.isUnknownField = true := by
  rcases bind_eq_error.mp refused with receiver | ⟨_, -, unbound⟩
  · unfold refuseReceiver at receiver
    split at receiver
    · obtain rfl := Except.error.inj receiver
      rfl
    · cases receiver
  · cases bound : bindArguments type.fieldNames [] named with
    | ok given => simp [bound] at unbound
    | error cause =>
      obtain ⟨key, rfl⟩ := bindArguments_named_eq_error bound
      obtain rfl : Failure.binding (.type type.name) (.unknown key) = failure := by
        simpa [bound] using unbound
      rfl

end

/-! ## Reading, checking and sending back -/

/-- A plain value is read as one of a type, passes its check, and is sent back as `w`. -/
def Recodes (types : List RecordType) (t : TypeRef) (v w : Value) : Prop :=
  ∃ read, v.ofWire types t = .ok read ∧ t.mismatch? read = none ∧ read.toWire = .ok w

theorem recode_eq_ok {types : List RecordType} {t : TypeRef} {subject : String} {v w : Value} :
    v.recode types t subject = .ok w ↔ Recodes types t v w := by
  refine bind_eq_ok.trans (exists_congr fun read => and_congr_right fun _ => ?_)
  rw [guard_bind_eq_ok, check_eq_ok]

theorem default_sent {t : TypeRef} (unnamed : ∀ name, t ≠ .named name) :
    t.mismatch? t.default = none ∧ t.default.toWire = .ok t.default := by
  cases t with
  | primitive kind => cases kind <;> exact ⟨rfl, rfl⟩
  | array element => exact ⟨rfl, rfl⟩
  | named name => exact absurd rfl (unnamed name)

section

variable {types : List RecordType}

theorem normalizeItems_recodes {element : TypeRef} {items : List Value}
    (all : ∀ v ∈ items, Recodes types element v (v.normalize types element)) :
    ∃ read, List.Forall₂ (fun v r => v.ofWire types element = .ok r) items read ∧
      (∀ r ∈ read, element.mismatch? r = none) ∧
      List.Forall₂ (fun r w => r.toWire = .ok w) read (normalizeItems types element items) := by
  induction items with
  | nil => exact ⟨[], .nil, by simp, .nil⟩
  | cons v vs ih =>
    obtain ⟨⟨r, hereRead, shaped, hereSent⟩, later⟩ := List.forall_mem_cons.mp all
    obtain ⟨rs, read, allShaped, sent⟩ := ih later
    exact ⟨r :: rs, .cons hereRead read, List.forall_mem_cons.mpr ⟨shaped, allShaped⟩,
      .cons hereSent sent⟩

/-- A field was read and is sent back under its name. -/
def FieldRecoded (fields : List (String × TypeRef)) (r w : String × Value) : Prop :=
  r.1 = w.1 ∧ ∃ t, fields.lookup r.1 = some t ∧ t.mismatch? r.2 = none ∧ r.2.toWire = .ok w.2

theorem normalizeEntries_recodes {fields : List (String × TypeRef)}
    {entries : List (String × Value)}
    (all : ∀ e ∈ entries, ∃ t, fields.lookup e.1 = some t ∧
      Recodes types t e.2 (e.2.normalize types t)) :
    ∃ read, List.Forall₂ (EntryRead types fields) entries read ∧
      List.Forall₂ (FieldRecoded fields) read (normalizeEntries types fields entries) := by
  induction entries with
  | nil => exact ⟨[], .nil, .nil⟩
  | cons e rest ih =>
    obtain ⟨⟨t, field, r, hereRead, shaped, hereSent⟩, later⟩ := List.forall_mem_cons.mp all
    obtain ⟨rs, read, sent⟩ := ih later
    refine ⟨(e.1, r) :: rs, .cons ⟨rfl, .inr ⟨t, field, hereRead⟩⟩ read, ?_⟩
    simp only [normalizeEntries, field]
    exact .cons ⟨rfl, t, field, shaped, hereSent⟩ sent

/-- The values a record is made of are sent as the entries they were recoded to, with defaults on
both sides. -/
theorem fields_recode {fields : List (String × TypeRef)} {read recoded : List (String × Value)}
    (distinct : (fields.map (·.1)).Nodup)
    (sent : List.Forall₂ (FieldRecoded fields) read recoded)
    (present : ∀ field name, (field, .named name) ∈ fields → field ∈ read.map (·.1)) :
    List.Forall₂ FieldSent (fields.zip (fields.map fun f => (read.lookup f.1).getD f.2.default))
      (fillEntries fields recoded) := by
  rw [← List.map_prod_left_eq_zip, fillEntries, List.forall₂_map_left_iff,
    List.forall₂_map_right_iff]
  apply List.forall₂_same.mpr
  intro f member
  obtain ⟨field, t⟩ := f
  rcases forall₂_lookup sent (fun _ _ h => h.1) field with
    ⟨unread, unsent⟩ | ⟨r, w, isRead, isSent, -, t', found, shaped, sent⟩
  · have unnamed : ∀ name, t ≠ .named name := by
      rintro name rfl
      exact lookup_eq_none_iff_not_mem.mp unread (present field name member)
    simp only [unread, unsent, Option.getD_none]
    exact ⟨rfl, default_sent unnamed⟩
  · obtain rfl : t' = t := eq_of_lookup distinct found member
    simp only [isRead, isSent, Option.getD_some]
    exact ⟨rfl, shaped, sent⟩

/-- Each field of a type was recoded in its entry, if the values it was made of were sent. -/
theorem fieldsSent_recodes {fields : List (String × TypeRef)}
    {entries read out : List (String × Value)} (distinct : (fields.map (·.1)).Nodup)
    (keys : (entries.map (·.1)).Nodup)
    (isRead : List.Forall₂ (EntryRead types fields) entries read)
    (sent : List.Forall₂ FieldSent
      (fields.zip (fields.map fun f => (read.lookup f.1).getD f.2.default)) out) :
    (∀ e ∈ entries, ∀ t, (e.1, t) ∈ fields → ∃ w, Recodes types t e.2 w) ∧
      ∀ field name, (field, .named name) ∈ fields → field ∈ entries.map (·.1) := by
  have sameKeys : entries.map (·.1) = read.map (·.1) := forall₂_map_eq (isRead.imp fun _ _ h => h.1)
  rw [← List.map_prod_left_eq_zip, List.forall₂_map_left_iff] at sent
  constructor
  · intro e entry t field
    obtain ⟨r, inside, sameKey, hereRead⟩ := forall₂_mem_left isRead entry
    rcases hereRead with ⟨unknown, -⟩ | ⟨t', found, hereRead⟩
    · rw [(lookup_eq_some_iff_mem distinct).mpr field] at unknown
      cases unknown
    · obtain rfl : t' = t := eq_of_lookup distinct found field
      have value : read.lookup e.1 = some r.2 :=
        (lookup_eq_some_iff_mem (sameKeys ▸ keys)).mpr (sameKey ▸ inside)
      obtain ⟨w, -, -, shaped, hereSent⟩ := forall₂_mem_left sent field
      simp only [value, Option.getD_some] at shaped hereSent
      exact ⟨w.2, r.2, hereRead, shaped, hereSent⟩
  · intro field name member
    by_contra absent
    obtain ⟨w, -, -, shaped, -⟩ := forall₂_mem_left sent member
    rw [sameKeys] at absent
    simp [lookup_eq_none_iff_not_mem.mpr absent, TypeRef.default, TypeRef.mismatch?,
      namedAdmits] at shaped

theorem ofWire_record {name : String} {type : RecordType} {entries : List (String × Value)}
    {read : Value} (declared : findType? types name = some type) :
    (Value.object entries).ofWire types (.named name) = .ok read ↔
      ∃ given, List.Forall₂ (EntryRead types type.fields) entries given ∧
        type.make [] given = .ok read := by
  simp only [Value.ofWire, declared, bind_eq_ok, ofWireEntries_eq_ok]

/-- What a value is read as: the same value, a list of what its items are read as, or a record that
is made of what its entries are read as. -/
theorem ofWire_cases {t : TypeRef} {v read : Value} (isRead : v.ofWire types t = .ok read) :
    read = v ∨
      (∃ element items reads, v = .list items ∧ read = .list reads ∧
        List.Forall₂ (fun v r => v.ofWire types element = .ok r) items reads) ∨
      ∃ (type : RecordType) (entries given : List (String × Value)), v = .object entries ∧
        type.make [] given = .ok read ∧
        List.Forall₂ (EntryRead types type.fields) entries given := by
  cases v with
  | list items =>
    cases t with
    | array element =>
      simp only [Value.ofWire, bind_eq_ok, pure_eq_ok, ofWireItems_eq_ok] at isRead
      obtain ⟨reads, all, rfl⟩ := isRead
      exact .inr (.inl ⟨element, items, reads, rfl, rfl, all⟩)
    | primitive kind | named name => exact .inl (Except.ok.inj isRead).symm
  | object entries =>
    cases t with
    | named name =>
      cases declared : findType? types name with
      | some type =>
        obtain ⟨given, all, made⟩ := (ofWire_record declared).mp isRead
        exact .inr (.inr ⟨type, entries, given, rfl, made, all⟩)
      | none =>
        obtain rfl : Value.object entries = read := by simpa [Value.ofWire, declared] using isRead
        exact .inl rfl
    | primitive kind | array element => exact .inl (Except.ok.inj isRead).symm
  | _ => cases t <;> exact .inl (Except.ok.inj isRead).symm

/-- A record is recoded to its normal form, if the value of each of its entries is. -/
theorem record_recodes (well : WellNamed types)
    (unreceived : ∀ type ∈ types, receiverName ∉ type.fieldNames) {name : String}
    {type : RecordType} {entries : List (String × Value)}
    (declared : findType? types name = some type) (known : ∀ e ∈ entries, e.1 ∈ type.fieldNames)
    (present : ∀ field name, (field, .named name) ∈ type.fields → field ∈ entries.map (·.1))
    (inside : ∀ e ∈ entries, ∀ t, (e.1, t) ∈ type.fields →
      Recodes types t e.2 (e.2.normalize types t)) :
    Recodes types (.named name) (.object entries)
      ((Value.object entries).normalize types (.named name)) := by
  obtain ⟨member, rfl⟩ := mem_of_findType? declared
  have distinct := well.fields type member
  obtain ⟨read, isRead, sent⟩ : ∃ read, List.Forall₂ (EntryRead types type.fields) entries read ∧
      List.Forall₂ (FieldRecoded type.fields) read
        (normalizeEntries types type.fields entries) := by
    apply normalizeEntries_recodes
    intro e entry
    obtain ⟨⟨field, t⟩, isField, rfl⟩ := List.mem_map.mp (known e entry)
    exact ⟨t, (lookup_eq_some_iff_mem distinct).mpr isField, inside e entry t isField⟩
  have keys : entries.map (·.1) = read.map (·.1) := forall₂_map_eq (isRead.imp fun _ _ h => h.1)
  have readKnown : ∀ r ∈ read, r.1 ∈ type.fieldNames := by
    intro r inside
    obtain ⟨e, entry, same, -⟩ := forall₂_mem_right isRead inside
    exact same ▸ known e entry
  have noReceiver : read.lookup receiverName = none := by
    rw [lookup_eq_none_iff_not_mem]
    intro isKey
    obtain ⟨r, inside, same⟩ := List.mem_map.mp isKey
    exact unreceived type member (same ▸ readKnown r inside)
  refine ⟨_, (ofWire_record declared).mpr ⟨read, isRead,
    make_eq_ok.mpr ⟨noReceiver, readKnown, rfl⟩⟩, mismatch?_record_eq_none.mpr rfl, ?_⟩
  simp only [Value.normalize, declared]
  exact toWire_record_eq_ok.mpr ⟨_, fields_recode distinct sent (keys ▸ present), rfl⟩

/-- An acceptable value is recoded to its normal form. -/
theorem acceptable_recodes (well : WellNamed types)
    (unreceived : ∀ type ∈ types, receiverName ∉ type.fieldNames) {t : TypeRef} {v : Value}
    (acceptable : Acceptable types t v) :
    v.isPlain = true → Recodes types t v (v.normalize types t) := by
  induction acceptable with
  | int n | float x | string s | boolean b => exact fun _ => ⟨_, rfl, rfl, rfl⟩
  | @array element items all ih =>
    intro plain
    have inside := (Value.everywhere_list.mp plain).2
    obtain ⟨read, isRead, shaped, sent⟩ :=
      normalizeItems_recodes fun v member => ih v member (inside v member)
    refine ⟨.list read, ?_, mismatch?_list_eq_none.mpr ⟨element, rfl, shaped⟩,
      toWire_list_eq_ok.mpr ⟨_, sent, rfl⟩⟩
    simp only [Value.ofWire, bind_eq_ok, ofWireItems_eq_ok]
    exact ⟨read, isRead, rfl⟩
  | @record name type entries declared known given present ih =>
    intro plain
    have inside := (Value.isPlain_object.mp plain).2
    apply record_recodes well unreceived declared known present
    intro e entry t field
    exact ih e entry t field (inside e entry)
  | @untyped entries undeclared =>
    intro plain
    refine ⟨.object entries, ?_, mismatch?_object_eq_none.mpr rfl, ?_⟩
    · simp only [Value.ofWire, undeclared]
    · simp only [Value.normalize, undeclared]
      exact toWire_plain _ plain

theorem primitive_acceptable {kind : Primitive} {v : Value} (admitted : kind.admits v = true) :
    Acceptable types (.primitive kind) v := by
  cases kind <;> cases v <;> first | constructor | simp [Primitive.admits] at admitted

/-- What is recoded to a record has known entries, each of its own type, and all that are
needed. -/
theorem record_acceptable (well : WellNamed types) {name : String} {type : RecordType}
    {entries : List (String × Value)} {w : Value} (declared : findType? types name = some type)
    (keys : (entries.map (·.1)).Nodup)
    (inside : ∀ e ∈ entries, ∀ {t w}, Recodes types t e.2 w → Acceptable types t e.2)
    (recodes : Recodes types (.named name) (.object entries) w) :
    Acceptable types (.named name) (.object entries) := by
  obtain ⟨read, isRead, shaped, sent⟩ := recodes
  have distinct := well.fields type (mem_of_findType? declared).1
  obtain ⟨given, entriesRead, made⟩ := (ofWire_record declared).mp isRead
  obtain ⟨-, known, rfl⟩ := make_eq_ok.mp made
  obtain ⟨out, fieldsSent, rfl⟩ := toWire_record_eq_ok.mp sent
  obtain ⟨recoded, present⟩ := fieldsSent_recodes distinct keys entriesRead fieldsSent
  apply Acceptable.record declared _ _ present
  · intro e entry
    obtain ⟨r, item, same, -⟩ := forall₂_mem_left entriesRead entry
    exact same ▸ known r item
  · intro e entry t field
    obtain ⟨w, recodes⟩ := recoded e entry t field
    exact inside e entry recodes

theorem array_acceptable {element : TypeRef} {items : List Value} {w : Value}
    (inside : ∀ v ∈ items, ∀ {t w}, Recodes types t v w → Acceptable types t v)
    (recodes : Recodes types (.array element) (.list items) w) :
    Acceptable types (.array element) (.list items) := by
  obtain ⟨read, isRead, shaped, sent⟩ := recodes
  simp only [Value.ofWire, bind_eq_ok, pure_eq_ok, ofWireItems_eq_ok] at isRead
  obtain ⟨read, isRead, rfl⟩ := isRead
  obtain ⟨_, same, shaped⟩ := mismatch?_list_eq_none.mp shaped
  obtain rfl := TypeRef.array.inj same
  obtain ⟨ws, itemsSent, rfl⟩ := toWire_list_eq_ok.mp sent
  apply Acceptable.array
  intro v member
  obtain ⟨r, item, isRead⟩ := forall₂_mem_left isRead member
  obtain ⟨w, -, sent⟩ := forall₂_mem_left itemsSent item
  exact inside v member ⟨r, isRead, shaped r item, sent⟩

/-- Only acceptable values are recoded. -/
theorem recodes_acceptable (well : WellNamed types) (v : Value) :
    ∀ {t : TypeRef} {w : Value}, v.isPlain = true → Recodes types t v w → Acceptable types t v := by
  induction v using Value.partsInduction with
  | leaf v leaf =>
    intro t w plain recodes
    obtain ⟨read, isRead, shaped, -⟩ := recodes
    obtain rfl := Except.ok.inj ((ofWire_leaf leaf).symm.trans isRead)
    obtain ⟨kind, rfl, admitted⟩ := (mismatch?_leaf_eq_none leaf).mp shaped
    exact primitive_acceptable admitted
  | list items ih =>
    intro t w plain recodes
    have inside := (Value.everywhere_list.mp plain).2
    cases t with
    | array element =>
      exact array_acceptable (fun v member => ih v member (inside v member)) recodes
    | primitive kind | named name =>
      obtain ⟨read, isRead, shaped, -⟩ := recodes
      obtain rfl : Value.list items = read := by simpa [Value.ofWire] using isRead
      simp [mismatch?_list_eq_none] at shaped
  | object entries ih =>
    intro t w plain recodes
    obtain ⟨keys, inside⟩ := Value.isPlain_object.mp plain
    cases t with
    | named name =>
      cases declared : findType? types name with
      | some type =>
        have inside : ∀ e ∈ entries, ∀ {t w}, Recodes types t e.2 w → Acceptable types t e.2 :=
          fun e entry => ih e entry (inside e entry)
        exact record_acceptable well declared keys inside recodes
      | none =>
        obtain ⟨read, isRead, shaped, -⟩ := recodes
        obtain rfl : Value.object entries = read := by simpa [Value.ofWire, declared] using isRead
        obtain rfl : name = untypedObject := by
          simpa using mismatch?_object_eq_none.mp shaped
        exact .untyped declared
    | primitive kind | array element =>
      obtain ⟨read, isRead, shaped, -⟩ := recodes
      obtain rfl : Value.object entries = read := by simpa [Value.ofWire] using isRead
      simp [mismatch?_object_eq_none] at shaped
  | tuple items | record type values =>
    intro t w plain
    exact absurd (Value.everywhere_here plain) (by simp [Value.isJsonKind])

/-! ## Failures -/

theorem readEntry_error {fields : List (String × TypeRef)} {e : String × Value} {failure : Failure}
    (failed : readEntry types fields e = .error failure) :
    ∃ t, e.2.ofWire types t = .error failure := by
  unfold readEntry at failed
  split at failed
  · exact ⟨_, failed⟩
  · cases failed

theorem ofWire_error (v : Value) : ∀ {t : TypeRef} {failure : Failure},
    v.ofWire types t = .error failure → failure.isUnknownField = true := by
  induction v using Value.partsInduction with
  | leaf v leaf =>
    intro t failure failed
    rw [ofWire_leaf leaf] at failed
    cases failed
  | list items ih =>
    intro t failure failed
    cases t with
    | array element =>
      rw [Value.ofWire, ofWireItems_eq_mapM] at failed
      rcases bind_eq_error.mp failed with inside | ⟨_, -, done⟩
      · obtain ⟨v, member, failed⟩ := mapM_eq_error inside
        exact ih v member failed
      · cases done
    | primitive kind | named name => simp [Value.ofWire] at failed
  | object entries ih =>
    intro t failure failed
    cases t with
    | named name =>
      cases declared : findType? types name with
      | some type =>
        simp only [Value.ofWire, declared, ofWireEntries_eq_mapM] at failed
        rcases bind_eq_error.mp failed with inside | ⟨given, -, refused⟩
        · obtain ⟨e, entry, failed⟩ := mapM_eq_error inside
          rcases bind_eq_error.mp failed with unread | ⟨_, -, done⟩
          · obtain ⟨t, failed⟩ := readEntry_error unread
            exact ih e entry failed
          · cases done
        · exact make_error refused
      | none => simp [Value.ofWire, declared] at failed
    | primitive kind | array element => simp [Value.ofWire] at failed
  | tuple items | record type values =>
    intro t failure failed
    cases t <;> simp [Value.ofWire] at failed

theorem check_error {t : TypeRef} {subject : String} {v : Value} {failure : Failure}
    (failed : t.check subject v = .error failure) : failure.isMismatch = true := by
  unfold TypeRef.check at failed
  split at failed
  · obtain rfl := Except.error.inj failed
    rfl
  · cases failed

theorem toWireFields_error {owner : String} {fields : List (String × TypeRef)}
    {values : List Value} {failure : Failure}
    (failed : toWireFields owner fields values = .error failure) :
    failure.isMismatch = true ∨ ∃ v ∈ values, v.toWire = .error failure := by
  induction fields generalizing values with
  | nil => simp [toWireFields] at failed
  | cons f fields ih =>
    cases values with
    | nil => simp [toWireFields] at failed
    | cons v values =>
      rcases bind_eq_error.mp failed with mismatched | ⟨_, -, failed⟩
      · exact .inl (check_error mismatched)
      · rcases bind_eq_error.mp failed with here | ⟨r, -, failed⟩
        · exact .inr ⟨v, by simp, here⟩
        · rcases bind_eq_error.mp failed with later | ⟨rs, -, done⟩
          · rcases ih later with mismatched | ⟨u, inside, failed⟩
            · exact .inl mismatched
            · exact .inr ⟨u, by simp [inside], failed⟩
          · cases done

theorem toWire_error (v : Value) : ∀ {failure : Failure},
    v.toWire = .error failure → failure.isMismatch = true := by
  induction v using Value.partsInduction with
  | leaf v leaf =>
    intro failure failed
    rw [toWire_leaf leaf] at failed
    cases failed
  | list items ih | tuple items ih =>
    intro failure failed
    rw [Value.toWire, toWireItems_eq_mapM] at failed
    rcases bind_eq_error.mp failed with inside | ⟨_, -, done⟩
    · obtain ⟨v, member, failed⟩ := mapM_eq_error inside
      exact ih v member failed
    · cases done
  | object entries ih =>
    intro failure failed
    rw [Value.toWire, toWireEntries_eq_mapM] at failed
    rcases bind_eq_error.mp failed with inside | ⟨_, -, done⟩
    · obtain ⟨e, member, failed⟩ := mapM_eq_error inside
      rcases bind_eq_error.mp failed with unsent | ⟨_, -, done⟩
      · exact ih e member unsent
      · cases done
    · cases done
  | record type values ih =>
    intro failure failed
    rcases bind_eq_error.mp failed with inside | ⟨_, -, done⟩
    · rcases toWireFields_error inside with mismatched | ⟨v, member, failed⟩
      · exact mismatched
      · exact ih v member failed
    · cases done

theorem recode_error {t : TypeRef} {subject : String} {v : Value} {failure : Failure}
    (failed : v.recode types t subject = .error failure) : failure.isTypeError = true := by
  rcases bind_eq_error.mp failed with unread | ⟨read, -, failed⟩
  · exact isTypeError_iff.mpr (.inl (ofWire_error v unread))
  · rcases bind_eq_error.mp failed with mismatched | ⟨_, -, unsent⟩
    · exact isTypeError_iff.mpr (.inr (check_error mismatched))
    · exact isTypeError_iff.mpr (.inr (toWire_error read unsent))

end

/-- Reading a plain value, checking it and sending it back succeeds for the acceptable values, and
gives their normal form; for all others it fails with a type error. -/
theorem recode_spec {description : Value} {endpoint : String} {client : Client}
    (regular : description.isRegular = true)
    (built : Client.build description endpoint = .ok client)
    (unreceived : ∀ type ∈ client.types, receiverName ∉ type.fieldNames) (t : TypeRef)
    (subject : String) {v : Value} (plain : v.isPlain = true) :
    (Acceptable client.types t v →
        v.recode client.types t subject = .ok (v.normalize client.types t)) ∧
      (¬Acceptable client.types t v →
        ∃ failure, v.recode client.types t subject = .error failure ∧
          failure.isTypeError = true) := by
  have well := build_wellNamed regular built
  refine ⟨fun acceptable => ?_, fun refused => ?_⟩
  · exact recode_eq_ok.mpr (acceptable_recodes well unreceived acceptable plain)
  · cases recoded : v.recode client.types t subject with
    | ok w => exact absurd (recodes_acceptable well v plain (recode_eq_ok.mp recoded)) refused
    | error failure => exact ⟨failure, rfl, recode_error recoded⟩

/-- In a list of nodes, one without a label and a size is given the empty one and zero; a number
is no list of nodes. -/
theorem recode_spec_nodes :
    (Value.list [.object [("links", .list [])]]).recode sampleClient.types
        (.array (.named "Node")) "nodes" =
      .ok (.list [.object [("label", .string ""), ("size", .int 0), ("links", .list [])]]) ∧
    ∃ failure, (Value.int 3).recode sampleClient.types (.array (.named "Node")) "nodes" =
        .error failure ∧ failure.isTypeError = true := by
  constructor
  · apply (recode_spec (by decide) sample_built (by decide) _ _ (by decide)).1
    have declared : findType? sampleClient.types "Node" = some sampleNode := by decide
    refine .array (List.forall_mem_singleton.mpr (.record declared (by decide)
      (List.forall_mem_singleton.mpr fun t field => ?_) (by simp [sampleNode])))
    obtain rfl : t = .array (.named "Node") := by simpa [sampleNode] using field
    exact .array (by simp)
  · apply (recode_spec (by decide) sample_built (by decide) _ _ (by decide)).2
    rintro ⟨⟩

end ServiceClient

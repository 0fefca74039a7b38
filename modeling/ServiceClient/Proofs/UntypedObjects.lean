import ServiceClient.Proofs.BlankEntries
import ServiceClient.Proofs.ReadValues
import ServiceClient.Proofs.Reordering
import ServiceClient.Proofs.Shapes

/-!
What `object` means as the name of a type. Where no type of that name is declared its values are any
mappings, and everything that deals with types agrees on that. Where one is declared it is a type
like any other for loading, for reading and for forms; but the check of a value still takes any
mapping for it. The check is right about values in which no mapping stands for a declared type
(`Settled`), such as all those that were read or entered (`untypedObject_meaning`).
-/

namespace ServiceClient

/-- The values of a name are any mappings: it is that of the untyped object, and no type of that
name is declared. -/
def TakesMappings (types : List RecordType) (name : String) : Prop :=
  name = untypedObject ∧ findType? types name = none

/-- A value stands where another type is expected inside a value: among the items of an array, or as
the value of a field. -/
inductive Position : TypeRef → Value → TypeRef → Value → Prop
  | here {t : TypeRef} {v : Value} : Position t v t v
  | item {element t : TypeRef} {v item u : Value} {items : List Value} (counts : HasItems v items)
      (member : item ∈ items) (inside : Position element item t u) :
      Position (.array element) v t u
  | field {type : RecordType} {values : List Value} {field : String × TypeRef} {value u : Value}
      {t : TypeRef} (paired : (field, value) ∈ type.fields.zip values)
      (inside : Position field.2 value t u) : Position (.named type.name) (.record type values) t u

/-- Nowhere in a value does a mapping stand for a declared type of this name. -/
def Settled (types : List RecordType) (name : String) (t : TypeRef) (v : Value) : Prop :=
  ∀ entries, Position t v (.named name) (.object entries) → findType? types name = none

theorem Position.trans {t t' t'' : TypeRef} {v v' v'' : Value} (outer : Position t v t' v')
    (inner : Position t' v' t'' v'') : Position t v t'' v'' := by
  induction outer with
  | here => exact inner
  | item counts member _ ih => exact .item counts member (ih inner)
  | field paired _ ih => exact .field paired (ih inner)

section

variable {types : List RecordType} {name : String}

theorem Settled.inside {t t' : TypeRef} {v v' : Value} (settled : Settled types name t v)
    (position : Position t v t' v') : Settled types name t' v' :=
  fun entries inner => settled entries (position.trans inner)

theorem settled_leaf {t : TypeRef} {v : Value} (leaf : v.isLeaf = true) :
    Settled types name t v := by
  intro entries position
  cases position with
  | here => cases leaf
  | item counts => cases counts <;> cases leaf
  | field => cases leaf

theorem settled_primitive {kind : Primitive} {v : Value} :
    Settled types name (.primitive kind) v := by
  intro entries position
  cases position

theorem settled_array {element : TypeRef} {v : Value} {items : List Value}
    (counts : HasItems v items) (all : ∀ item ∈ items, Settled types name element item) :
    Settled types name (.array element) v := by
  intro entries position
  cases position with
  | item counts' member inside =>
    obtain rfl := counts.unique counts'
    exact all _ member entries inside

theorem settled_record {t : TypeRef} {type : RecordType} {values : List Value}
    (all : ∀ p ∈ type.fields.zip values, Settled types name p.1.2 p.2) :
    Settled types name t (.record type values) := by
  intro entries position
  cases position with
  | item counts => cases counts
  | field paired inside => exact all _ paired entries inside

theorem settled_default (t : TypeRef) : Settled types name t t.default := by
  cases t with
  | primitive kind => exact settled_primitive
  | array element => exact settled_array (.list []) (List.forall_mem_nil _)
  | named name' => exact settled_leaf rfl

/-! ## Checking -/

theorem isOf_imp {takes takes' : String → Prop} {t : TypeRef} {v : Value} (is : IsOf takes t v)
    (imp : ∀ name entries, t = .named name → v = .object entries → takes name → takes' name) :
    IsOf takes' t v := by
  cases is with
  | int n => exact .int n
  | float x => exact .float x
  | string s => exact .string s
  | boolean b => exact .boolean b
  | record type values => exact .record type values
  | mapping taken entries => exact .mapping (imp _ entries rfl rfl taken) entries

theorem isOf_mapping {takes : String → Prop} {name : String} {entries : List (String × Value)}
    (is : IsOf takes (.named name) (.object entries)) : takes name := by
  cases is with
  | mapping taken => exact taken

/-- The check of a value is right about it if no mapping in it stands for a declared `object`. -/
theorem mismatch?_settled {t : TypeRef} {v : Value} (settled : Settled types untypedObject t v) :
    t.mismatch? v = none ↔ HasShape (TakesMappings types) t v := by
  rw [mismatch?_eq_none_iff]
  constructor
  · intro shaped
    induction shaped with
    | single is =>
      refine .single (isOf_imp is ?_)
      rintro name entries rfl rfl rfl
      exact ⟨rfl, settled entries .here⟩
    | array counts _ ih =>
      apply HasShape.array counts
      intro item member
      exact ih item member (settled.inside (.item counts member .here))
  · intro shaped
    clear settled
    induction shaped with
    | single is => exact .single (isOf_imp is fun name entries _ _ taken => taken.1)
    | array counts _ ih => exact .array counts ih

/-! ## Reading -/

/-- Whatever is read of a value as it stands on the wire, its mappings are made records where a type
is declared. -/
theorem ofWire_settled (fields : ∀ type ∈ types, type.fieldNames.Nodup) (v : Value) :
    ∀ {t : TypeRef} {read : Value}, v.everywhere Value.isFlat = true →
      v.ofWire types t = .ok read → Settled types name t read := by
  induction v using Value.partsInduction with
  | leaf v leaf =>
    intro t read flat isRead
    obtain rfl := Except.ok.inj ((ofWire_leaf leaf).symm.trans isRead)
    exact settled_leaf leaf
  | list items ih =>
    intro t read flat isRead
    obtain ⟨-, flat⟩ := Value.everywhere_list.mp flat
    cases t with
    | array element =>
      simp only [Value.ofWire, bind_eq_ok, pure_eq_ok, ofWireItems_eq_ok] at isRead
      obtain ⟨reads, all, rfl⟩ := isRead
      apply settled_array (.list reads)
      intro r member
      obtain ⟨v, item, isRead⟩ := forall₂_mem_right all member
      exact ih v item (flat v item) isRead
    | primitive kind => exact settled_primitive
    | named name' =>
      obtain rfl : Value.list items = read := by simpa [Value.ofWire] using isRead
      intro entries position
      cases position
  | object entries ih =>
    intro t read flat isRead
    obtain ⟨-, flat⟩ := Value.everywhere_object.mp flat
    cases t with
    | named name' =>
      cases declared : findType? types name' with
      | some type =>
        obtain ⟨given, all, made⟩ := (ofWire_record declared).mp isRead
        obtain ⟨-, -, rfl⟩ := make_eq_ok.mp made
        apply settled_record
        intro p paired
        rw [← List.map_prod_left_eq_zip] at paired
        obtain ⟨f, isField, rfl⟩ := List.mem_map.mp paired
        dsimp only
        cases found : given.lookup f.1 with
        | none => exact settled_default f.2
        | some value =>
          obtain ⟨e, entry, key, isRead⟩ := forall₂_mem_right all (mem_of_lookup found)
          have type : type.fields.lookup f.1 = some f.2 :=
            (lookup_eq_some_iff_mem (fields type (mem_of_findType? declared).1)).mpr isField
          rw [show e.1 = f.1 from key, type] at isRead
          rcases isRead with ⟨undeclared, -⟩ | ⟨t, same, isRead⟩
          · cases undeclared
          · obtain rfl := Option.some.inj same
            exact ih e entry (flat e entry) isRead
      | none =>
        obtain rfl : Value.object entries = read := by simpa [Value.ofWire, declared] using isRead
        intro entries' position
        cases position
        exact declared
    | primitive kind => exact settled_primitive
    | array element =>
      obtain rfl : Value.object entries = read := by simpa [Value.ofWire] using isRead
      intro entries' position
      cases position with
      | item counts => cases counts
  | tuple items | record type values =>
    intro t read flat
    exact absurd (Value.everywhere_here flat) (by simp [Value.isFlat])

/-- A value is read as it is where the untyped object is expected, in arrays of any depth. -/
theorem ofWire_undeclared (undeclared : findType? types name = none) {t : TypeRef}
    (reference : t.reference? = some name) (v : Value) : v.ofWire types t = .ok v := by
  induction t generalizing v with
  | primitive kind => cases reference
  | named name' =>
    obtain rfl : name' = name := Option.some.inj reference
    cases v with
    | object entries => rw [Value.ofWire, undeclared]
    | _ => rfl
  | array element ih =>
    cases v with
    | list items =>
      have inside : ofWireItems types element items = .ok items :=
        ofWireItems_eq_ok.mpr (List.forall₂_same.mpr fun v _ => ih reference v)
      rw [Value.ofWire, inside]
      rfl
    | _ => rfl

end

/-! ## Entering -/

/-- Whatever is entered in the inputs of a toolkit is as it stands on the wire. -/
structure Toolkit.EntersFlat {σ W A : Type} (toolkit : Toolkit σ W A Value) : Prop where
  input : ∀ label kind optional s,
    (toolkit.input label kind optional s).1.2.everywhere Value.isFlat = true
  arrayInput : ∀ label element optional s,
    (toolkit.arrayInput label element optional s).1.2.everywhere Value.isFlat = true

section

variable {σ W A : Type} (toolkit : Toolkit σ W A Value) {types : List RecordType} {name : String}

/-- The value of each field of a frame is that of its control. -/
theorem buildFields_forall₂ (fields : List (String × Control)) (s : σ) :
    List.Forall₂ (fun f entered =>
        ∃ s', (f.2.build toolkit types (label f.1) false s').1.2 = entered)
      fields (buildFields toolkit types fields s).1.2 := by
  induction fields generalizing s with
  | nil => exact .nil
  | cons f fields ih => exact .cons ⟨s, rfl⟩ (ih _)

/-- Whatever is entered, in frames or not, its mappings are made records where a type is
declared. -/
theorem build_settled (flat : toolkit.EntersFlat)
    (fields : ∀ type ∈ types, type.fieldNames.Nodup) (frames : List RecordType) (t : TypeRef)
    (label : String) (optional : Bool) (s : σ) {v : Value}
    (entered : ((Control.ofType frames t).build toolkit types label optional s).1.2 = .ok v) :
    Settled types name t v := by
  fun_induction Control.ofType frames t generalizing label optional s v with
  | case1 frames kind => exact settled_primitive
  | case2 frames element => exact ofWire_settled fields _ (flat.arrayInput ..) entered
  | case3 frames name undeclared => exact ofWire_settled fields _ (flat.input ..) entered
  | case4 frames name' type declared ih =>
    let controls := type.fields.map fun f => (f.1, Control.ofType (withoutType frames name') f.2)
    have inside := @buildFields_forall₂ _ _ _ toolkit types controls s
    change (allEntered (buildFields toolkit types controls s).1.2).map (.record type ·) = .ok v
      at entered
    cases all : allEntered (buildFields toolkit types controls s).1.2 with
    | error failure =>
      rw [all] at entered
      cases entered
    | ok values =>
      rw [all] at entered
      obtain rfl := Except.ok.inj entered
      rw [allEntered_eq_ok.mp all, List.forall₂_map_right_iff, List.forall₂_map_left_iff] at inside
      apply settled_record
      intro p paired
      obtain ⟨s', read⟩ := (List.forall₂_iff_zip.mp inside).2 paired
      exact ih p.1.2 _ _ _ read

/-- What is entered in the one input for a type that is not framed. -/
def Toolkit.rawEntry (label : String) (optional : Bool) (s : σ) : TypeRef → Value
  | .primitive kind => (toolkit.input label (.ofPrimitive kind) optional s).1.2
  | .array element => (toolkit.arrayInput label element optional s).1.2
  | .named _ => (toolkit.input label .object optional s).1.2

/-- What is entered for the untyped object, in arrays of any depth, is taken as it is. -/
theorem build_undeclared (undeclared : findType? types name = none) {frames : List RecordType}
    (unframed : findType? frames name = none) {t : TypeRef} (reference : t.reference? = some name)
    (label : String) (optional : Bool) (s : σ) :
    ((Control.ofType frames t).build toolkit types label optional s).1.2 =
      .ok (toolkit.rawEntry label optional s t) := by
  cases t with
  | primitive kind => cases reference
  | array element =>
    rw [Control.ofType]
    exact ofWire_undeclared undeclared reference _
  | named name' =>
    obtain rfl : name' = name := Option.some.inj reference
    rw [ofType_undeclared unframed]
    exact ofWire_undeclared undeclared reference _

end

theorem html_entersFlat {A : Type} (form : Submitted) (action : String → String) :
    (Html.toolkit (A := A) form action).EntersFlat := by
  have read {key fallback : String} {optional : Bool} {parse : String → Value}
      (flat : ∀ text, (parse text).everywhere Value.isFlat = true) :
      (Html.read form key optional parse fallback).everywhere Value.isFlat = true := by
    unfold Html.read
    dsimp only
    split
    · rfl
    · exact flat _
  have json (text : String) : (Html.readJson text).everywhere Value.isFlat = true := by
    unfold Html.readJson
    split
    · rename_i v parsed
      obtain ⟨flat, -⟩ := Value.isPlain_iff.mp (Json.parse_isPlain parsed)
      exact ((Value.everywhere_and v).mp flat).1
    · rfl
  have number (text : String) : (Html.readNumber text).everywhere Value.isFlat = true := by
    unfold Html.readNumber
    split
    · rfl
    · split <;> rfl
  constructor
  · intro label kind optional s
    cases kind with
    | number => exact read number
    | string => exact read fun _ => rfl
    | boolean => rfl
    | object => exact read json
  · intro label element optional s
    exact read json

/-! ## Loading -/

/-- The name that a type is built on, if there is one, is that of a declared type or of the untyped
object. -/
def HasMeaning (types : List RecordType) (t : TypeRef) : Prop :=
  ∀ name, t.reference? = some name → (findType? types name).isSome ∨ TakesMappings types name

theorem findType?_isSome_iff {types : List RecordType} {name : String} :
    (findType? types name).isSome ↔ name ∈ types.map (·.name) := by
  simp [findType?, List.find?_isSome]

theorem hasMeaning_iff_known {types : List RecordType} {t : TypeRef} :
    HasMeaning types t ↔ Known (types.map (·.name)) (some t) := by
  have same (name : String) : (findType? types name).isSome ∨ TakesMappings types name ↔
      name ∈ types.map (·.name) ∨ name = untypedObject := by
    rw [← findType?_isSome_iff, TakesMappings]
    cases findType? types name <;> simp
  exact forall_congr' fun name => imp_congr_right fun _ => same name

/-- The types of fields and parameters in a description that was read are built on known names. -/
theorem service_known {description : Value} {service : ServiceDescription}
    (read : ServiceDescription.read description = .ok service) :
    (∀ type ∈ service.types, ∀ f ∈ type.2, Known (service.types.map (·.1)) f.2) ∧
      ∀ m ∈ service.methods, ∀ p ∈ m.params, Known (service.types.map (·.1)) p.type := by
  cases description with
  | object fields =>
    obtain ⟨_, -, read⟩ := bind_eq_ok.mp read
    obtain ⟨methods, -, read⟩ := bind_eq_ok.mp read
    obtain ⟨_, -, read⟩ := bind_eq_ok.mp read
    obtain ⟨types, -, read⟩ := bind_eq_ok.mp read
    obtain ⟨references, referred, read⟩ := bind_eq_ok.mp read
    obtain ⟨_, resolved, read⟩ := bind_eq_ok.mp read
    obtain rfl := pure_eq_ok.mp read
    have known := forM_eq_ok.mp ⟨_, refusing_eq_ok.mp resolved⟩
    constructor
    · intro type inTypes f inFields
      refine resolve_eq_ok.mp (known (.field type.1 f.1, f.2) (List.mem_append_left _ ?_))
      exact List.mem_flatMap.mpr ⟨type, inTypes, List.mem_map.mpr ⟨f, inFields, rfl⟩⟩
    · intro m inMethods p inParams
      obtain ⟨own, listed, found⟩ :=
        forall₂_mem_left (mapM_eq_ok.mp (refusing_eq_ok.mp referred)) inMethods
      have typed : own.map (·.2) = m.returns :: m.params.map (·.type) := by
        rcases references_decided m with ⟨-, own', found', typed⟩ | ⟨-, cause, refused⟩
        · rw [found] at found'
          exact Except.ok.inj found' ▸ typed
        · rw [found] at refused
          cases refused
      have isReference : p.type ∈ own.map (·.2) := by
        rw [typed]
        exact List.mem_cons_of_mem _ (List.mem_map_of_mem inParams)
      obtain ⟨r, inOwn, same⟩ := List.mem_map.mp isReference
      have isKnown := resolve_eq_ok.mp (known r (List.mem_append_right _
        (List.mem_flatten.mpr ⟨own, listed, inOwn⟩)))
      rwa [same] at isKnown
  | _ => cases read

/-- The types of the fields and parameters of a client have meanings. -/
theorem build_hasMeaning {description : Value} {endpoint : String} {client : Client}
    (built : Client.build description endpoint = .ok client) :
    (∀ type ∈ client.types, ∀ f ∈ type.fields, HasMeaning client.types f.2) ∧
      ∀ e ∈ client.methodList, ∀ p ∈ e.2.params, HasMeaning client.types p.type := by
  obtain ⟨service, serviceRead, built⟩ := bind_eq_ok.mp built
  obtain ⟨types, typesMade, built⟩ := bind_eq_ok.mp built
  obtain ⟨methods, methodsMade, built⟩ := bind_eq_ok.mp built
  obtain ⟨members, listed, same⟩ := bind_eq_ok.mp built
  obtain rfl := pure_eq_ok.mp same
  obtain ⟨fieldsKnown, paramsKnown⟩ := service_known serviceRead
  have typesMade := (mapM_eq_ok.mp typesMade).imp fun e type made =>
    recordType_ofDescription_eq_ok made
  have names : service.types.map (·.1) = types.map (·.name) :=
    forall₂_map_eq (typesMade.imp fun e type made => made.1)
  simp only [hasMeaning_iff_known, ← names]
  constructor
  · intro type inTypes f inFields
    obtain ⟨e, entry, -, typed⟩ := forall₂_mem_right typesMade inTypes
    obtain ⟨read, inRead, -, same⟩ := forall₂_mem_right (typedFields_eq_ok typed) inFields
    exact same ▸ fieldsKnown e entry read inRead
  · intro e inList p inParams
    have item := (Namespace.toList_ofList_perm (refusing_eq_ok.mp listed)).mem_iff.mp inList
    obtain ⟨read, inMethods, made⟩ := forall₂_mem_right (mapM_eq_ok.mp methodsMade) item
    obtain ⟨m, methodMade, same⟩ := bind_eq_ok.mp made
    obtain rfl := pure_eq_ok.mp same
    obtain ⟨-, params⟩ := method_ofDescription_eq_ok methodMade
    obtain ⟨q, inRead, made⟩ := forall₂_mem_right params inParams
    obtain ⟨-, same, -⟩ := parameter_ofDescription_eq_ok made
    exact same ▸ paramsKnown read inMethods q inRead

/-! ## The two meanings -/

/-- No type `object` is declared, and its values are any mappings, which stay as they are. -/
structure IsUntypedObject (types : List RecordType) : Prop where
  undeclared : findType? types untypedObject = none
  checked : ∀ (t : TypeRef) (v : Value),
    t.mismatch? v = none ↔ HasShape (TakesMappings types) t v
  read : ∀ t : TypeRef, t.reference? = some untypedObject →
    ∀ v : Value, v.ofWire types t = .ok v
  entered : ∀ t : TypeRef, t.reference? = some untypedObject →
    ∀ {σ W A : Type} (toolkit : Toolkit σ W A Value) (frames : List RecordType),
      (∀ type ∈ frames, type ∈ types) → ∀ label optional s,
        ((Control.ofType frames t).build toolkit types label optional s).1.2 =
          .ok (toolkit.rawEntry label optional s t)

/-- A type `object` is declared, and its values are the records of it. Mappings are read as such
records, and a frame is made for one; the check is right wherever no mapping stands for one, as in
whatever is read or entered, but it takes a mapping, too. -/
structure IsDeclaredObject (types : List RecordType) (type : RecordType) : Prop where
  declared : findType? types untypedObject = some type
  checked : ∀ (t : TypeRef) (v : Value), Settled types untypedObject t v →
    ∀ (t' : TypeRef) (v' : Value), Position t v t' v' →
      (t'.mismatch? v' = none ↔ HasShape (TakesMappings types) t' v')
  mappings : ∀ entries, (TypeRef.named untypedObject).mismatch? (.object entries) = none ∧
    ¬HasShape (TakesMappings types) (.named untypedObject) (.object entries)
  read : ∀ entries, (Value.object entries).ofWire types (.named untypedObject) =
    type.ofWireForm types (.object entries)
  readSettled : ∀ (t : TypeRef) (v read : Value), v.everywhere Value.isFlat = true →
    v.ofWire types t = .ok read → Settled types untypedObject t read
  framed : ∃ fields, Control.ofType types (.named untypedObject) = .frame type fields
  enteredSettled : ∀ {σ W A : Type} (toolkit : Toolkit σ W A Value), toolkit.EntersFlat →
    ∀ (frames : List RecordType) (t : TypeRef) (label : String) (optional : Bool) (s : σ)
      (v : Value), ((Control.ofType frames t).build toolkit types label optional s).1.2 = .ok v →
      Settled types untypedObject t v

theorem isUntypedObject {types : List RecordType}
    (undeclared : findType? types untypedObject = none) : IsUntypedObject types where
  undeclared := undeclared
  checked t v := mismatch?_settled fun _ _ => undeclared
  read t reference := ofWire_undeclared undeclared reference
  entered t reference _ _ _ toolkit frames within label optional s := by
    have unframed : findType? frames untypedObject = none := by
      apply List.find?_eq_none.mpr
      intro type member
      exact List.find?_eq_none.mp undeclared type (within type member)
    exact build_undeclared toolkit undeclared unframed reference label optional s

theorem isDeclaredObject {types : List RecordType} {type : RecordType}
    (fields : ∀ type ∈ types, type.fieldNames.Nodup)
    (declared : findType? types untypedObject = some type) : IsDeclaredObject types type where
  declared := declared
  checked t v settled t' v' position := mismatch?_settled (settled.inside position)
  mappings entries := by
    refine ⟨mismatch?_object_eq_none.mpr rfl, ?_⟩
    intro shaped
    have taken := isOf_mapping ((hasShape_iff_isOf (by simp)).mp shaped)
    rw [taken.2] at declared
    cases declared
  read entries := by rw [Value.ofWire, declared, RecordType.ofWireForm]
  readSettled t v read flat isRead := ofWire_settled fields v flat isRead
  framed := ofType_declared declared
  enteredSettled toolkit flat frames t label optional s v entered :=
    build_settled toolkit flat fields frames t label optional s entered

/-- Every name in a client has one meaning when it is loaded, and `object` one of two, which reading
and entering follow in arrays and fields at any depth. The check of values follows it, too, but for
mappings where a type `object` is declared. -/
theorem untypedObject_meaning {description : Value} {endpoint : String} {client : Client}
    (regular : description.isRegular = true)
    (built : Client.build description endpoint = .ok client) :
    (∀ place t, ServiceDescription.resolve (client.types.map (·.name)) (place, some t) = .ok () ↔
      HasMeaning client.types t) ∧
    (∀ type ∈ client.types, ∀ f ∈ type.fields, HasMeaning client.types f.2) ∧
    (∀ e ∈ client.methodList, ∀ p ∈ e.2.params, HasMeaning client.types p.type) ∧
    (IsUntypedObject client.types ∨ ∃ type, IsDeclaredObject client.types type) := by
  obtain ⟨fields, params⟩ := build_hasMeaning built
  refine ⟨fun place t => resolve_eq_ok.trans hasMeaning_iff_known.symm, fields, params, ?_⟩
  cases declared : findType? client.types untypedObject with
  | none => exact .inl (isUntypedObject declared)
  | some type => exact .inr ⟨type, isDeclaredObject (build_wellNamed regular built).fields declared⟩

/-- A description that declares a type `object`, and another type with such objects in it. -/
def objectDescription : Value := .object [
  ("types", .object [("object", .object [("x", .string "number")]),
    ("Box", .object [("inner", .string "object"), ("all", .list [.string "object"])])]),
  ("methods", .object [("put", .object [("params", .object [
    ("o", .object [("type", .string "object"), ("def_order", .int 1)])])])])]

def objectType : RecordType := ⟨"object", [("x", .primitive .number)]⟩

def boxType : RecordType :=
  ⟨"Box", [("inner", .named "object"), ("all", .array (.named "object"))]⟩

def putMethod : Method where
  name := "put"
  params := [{ name := "o", type := .named "object", optional := false, docs := [] }]
  returns := none
  docs := []
  returnDocs := []
  docSource := .list []
  returnDocSource := .list []

def objectClient : Client where
  serviceName := .string ""
  endpoint := "/rpc"
  types := [objectType, boxType]
  methods := [("put", .leaf putMethod)]

theorem object_built : Client.build objectDescription "/rpc" = .ok objectClient := by
  with_unfolding_all rfl

/-- A box is read from JSON with records in it, which pass the check of its fields. -/
theorem untypedObject_meaning_box :
    let entries : List (String × Value) := [("x", .int 1)]
    let raw : Value := .object [("inner", .object entries), ("all", .list [.object entries])]
    let o : Value := .record objectType [.int 1]
    objectDescription.isRegular = true ∧ (∀ f ∈ boxType.fields, HasMeaning objectClient.types f.2) ∧
      raw.ofWire objectClient.types (.named "Box") = .ok (.record boxType [o, .list [o]]) ∧
      Settled objectClient.types untypedObject (.named "Box") (.record boxType [o, .list [o]]) := by
  intro entries raw o
  obtain ⟨-, fields, -, untyped | ⟨type, declared⟩⟩ :=
    untypedObject_meaning (by decide) object_built
  · have undeclared := untyped.undeclared
    cases undeclared
  · exact ⟨by decide, fields boxType (by decide), rfl,
      declared.readSettled _ raw _ (by decide) rfl⟩

/-- A mapping that is no such record passes the check, although it cannot be read as one, and is
posted. -/
theorem declared_object_takesMapping :
    let mapping : Value := .object [("y", .string "z")]
    Client.build objectDescription "/rpc" = .ok objectClient ∧
      findType? objectClient.types untypedObject = some objectType ∧
      (TypeRef.named untypedObject).mismatch? mapping = none ∧
      mapping.ofWire objectClient.types (.named untypedObject) =
        .error (.binding (.type "object") (.unknown "y")) ∧
      (objectClient.call putMethod [mapping] [] (.start 0 [])).2.sent = [⟨"POST", "/rpc",
        some ("\x7b\"jsonrpc\": \"2.0\", \"id\": 0, \"method\": \"put\", \"params\": " ++
          "\x7b\"o\": \x7b\"y\": \"z\"\x7d\x7d\x7d")⟩] := by
  intro mapping
  refine ⟨object_built, rfl, rfl, rfl, ?_⟩
  with_unfolding_all rfl

end ServiceClient

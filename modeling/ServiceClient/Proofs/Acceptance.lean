import Mathlib.Data.List.Perm.Basic
import Mathlib.Data.Set.List
import ServiceClient.Proofs.Decided
import ServiceClient.Proofs.Described
import ServiceClient.Proofs.NamePaths

/-!
Which descriptions are accepted. `Documented` says what a description looks like from outside, and
`WellFormed` what is asked of one that looks like this; `build_accepts` says that a client is built
of exactly the well-formed ones, and that the others are refused as descriptions.
-/

namespace ServiceClient

/-! ## What is written in a description -/

namespace Value

/-- The entries of a mapping; of what is none, no entries. -/
def members : Value → List (String × Value)
  | .object entries => entries
  | _ => []

/-- The value of a key in a mapping, or null. -/
def member (v : Value) (key : String) : Value := (v.members.lookup key).getD .null

def isObject : Value → Bool
  | .object _ => true
  | _ => false

/-- A mapping, or null in its place. -/
def isObjectOrNull : Value → Bool
  | .object _ | .null => true
  | _ => false

/-- A mapping of mappings, or null in its place. -/
def isTable (v : Value) : Bool := v.isObjectOrNull && v.members.all fun e => e.2.isObject

def isText : Value → Bool
  | .string _ => true
  | _ => false

/-- A list of texts, or null in its place. -/
def isDocLines : Value → Bool
  | .null => true
  | .list items => items.all isText
  | _ => false

/-- The name that a type is written with: a text by itself, or inside lists of one element. -/
def typeName? : Value → Option String
  | .string name => some name
  | .list [inner] => inner.typeName?
  | _ => none

/-- A type is written that is built on a primitive type, on one of the declared types, or on the
untyped object. -/
def IsTypeOver (declared : List String) (v : Value) : Prop :=
  ∃ name, v.typeName? = some name ∧
    ((Primitive.ofTag? name).isSome ∨ name ∈ declared ∨ name = untypedObject)

end Value

/-- The entry of a method as it is documented. -/
structure DocumentedMethod (raw : Value) : Prop where
  params : (raw.member "params").isTable = true
  result : (raw.member "ret_info").isObjectOrNull = true
  docs : (raw.member "doc_lines").isDocLines = true
  resultDocs : ((raw.member "ret_info").member "doc_lines").isDocLines = true
  paramDocs : ∀ p ∈ (raw.member "params").members, (p.2.member "doc_lines").isDocLines = true

/-- A description as it is documented. -/
structure Documented (description : Value) : Prop where
  isObject : description.isObject = true
  types : (description.member "types").isTable = true
  typeNames : ∀ type ∈ (description.member "types").members, type.1.toList.contains '\x00' = false
  methods : (description.member "methods").isTable = true
  eachMethod : ∀ m ∈ (description.member "methods").members, DocumentedMethod m.2

/-- The numbers from one on, one for each parameter. -/
def callOrder (count : Nat) : List Int := (List.range count).map fun i : Nat => (i : Int) + 1

/-- The places of parameters are the numbers from one on, in any order. -/
def InPlaces (params : List (String × Value)) : Prop :=
  (params.map fun p => p.2.member "def_order").Perm ((callOrder params.length).map .int)

/-- What is asked of the entry of a method: types for its parameters and, if it has one, its result,
and places for the parameters that are the numbers from one on. -/
structure WellFormedMethod (declared : List String) (raw : Value) : Prop where
  parameterTypes : ∀ p ∈ (raw.member "params").members, (p.2.member "type").IsTypeOver declared
  resultType : (raw.member "ret_info").member "type" = .null ∨
    ((raw.member "ret_info").member "type").IsTypeOver declared
  places : InPlaces (raw.member "params").members

/-- What is asked of a description. -/
structure WellFormed (description : Value) : Prop where
  fieldTypes : ∀ type ∈ (description.member "types").members, ∀ field ∈ type.2.members,
    field.2.IsTypeOver ((description.member "types").members.map (·.1))
  fieldNames : ∀ type ∈ (description.member "types").members, ∀ field ∈ type.2.members,
    isReserved field.1 = false
  eachMethod : ∀ m ∈ (description.member "methods").members,
    WellFormedMethod ((description.member "types").members.map (·.1)) m.2
  /-- No method stands where a namespace is on the way to another. -/
  methodNames : ∀ m ∈ (description.member "methods").members,
    ∀ m' ∈ (description.member "methods").members,
      segments m.1 <+: segments m'.1 → segments m.1 = segments m'.1

namespace Value

theorem entriesOrNone_members {fields : List (String × Value)} {key : String}
    (shaped : ((Value.object fields).member key).isObjectOrNull = true) :
    entriesOrNone (fields.lookup key) = .ok ((Value.object fields).member key).members := by
  rw [member, members] at shaped ⊢
  cases found : fields.lookup key with
  | none => rfl
  | some v =>
    rw [found] at shaped
    cases v with
    | null => rfl
    | object entries => cases entries <;> rfl
    | _ => cases shaped

theorem member_eq_int {fields : List (String × Value)} {key : String} {n : Int} :
    (Value.object fields).member key = .int n ↔ fields.lookup key = some (.int n) := by
  rw [member, members]
  cases fields.lookup key <;> simp

theorem isObject_iff {v : Value} : v.isObject = true ↔ ∃ fields, v = .object fields := by
  cases v <;> simp [isObject]

theorem isTable_iff {v : Value} :
    v.isTable = true ↔ v.isObjectOrNull = true ∧ ∀ e ∈ v.members, e.2.isObject = true := by
  simp [isTable]

theorem docLines_isOk {v : Value} (shaped : v.isDocLines = true) :
    ∃ lines, docLines v = .ok lines := by
  cases v with
  | null => exact ⟨[], rfl⟩
  | list items =>
    obtain ⟨lines, all⟩ : ∃ lines, List.Forall₂
        (fun item line => (match item with
          | .string line => .ok line
          | _ => .error (.misuse .wrongKind) : Except Failure String) = .ok line) items lines := by
      refine exists_forall₂ fun item inside => ?_
      have text := List.all_eq_true.mp shaped item inside
      cases item with
      | string line => exact ⟨line, rfl⟩
      | _ => cases text
    rw [docLines]
    split
    · exact ⟨[], rfl⟩
    · exact ⟨lines, mapM_eq_ok.mpr all⟩
  | _ => cases shaped

/-- How a type is read: null is none, and what has a name is one that refers to this name, unless it
is a primitive type. -/
theorem typeRef_read_cases (raw : Value) :
    (raw = .null ∧ TypeRef.read raw = .ok none) ∨
    (∃ name t, raw.typeName? = some name ∧ TypeRef.read raw = .ok (some t) ∧
      t.reference? = if (Primitive.ofTag? name).isSome then none else some name) ∨
    (raw ≠ .null ∧ raw.typeName? = none ∧ ∃ cause, TypeRef.read raw = .error cause) := by
  fun_induction TypeRef.read raw with
  | case1 => exact .inl ⟨rfl, rfl⟩
  | case2 tag kind found =>
    exact .inr (.inl ⟨tag, _, rfl, rfl, by simp [found, TypeRef.reference?]⟩)
  | case3 tag found => exact .inr (.inl ⟨tag, _, rfl, rfl, by simp [found, TypeRef.reference?]⟩)
  | case4 inner ih =>
    refine .inr ?_
    rw [typeName?]
    rcases ih with ⟨rfl, read⟩ | ⟨name, t, named, read, refers⟩ | ⟨-, unnamed, cause, read⟩
    · exact .inr ⟨by simp, rfl, .arrayOfNull, rfl⟩
    · exact .inl ⟨name, .array t, named, by rw [read]; rfl, refers⟩
    · exact .inr ⟨by simp, unnamed, cause, by rw [read]; rfl⟩
  | case5 items other =>
    refine .inr (.inr ⟨by simp, ?_, _, rfl⟩)
    rcases items with _ | ⟨item, _ | ⟨item', items⟩⟩
    · rfl
    · exact (other item rfl).elim
    · rfl
  | case6 raw notNull notText notOne notList =>
    refine .inr (.inr ⟨notNull, ?_, _, rfl⟩)
    cases raw with
    | null => exact (notNull rfl).elim
    | string s => exact (notText s rfl).elim
    | list items => exact (notList items rfl).elim
    | _ => rfl

end Value

/-- A type was read as it is written: it is none if that is null, and it refers to the name it is
written with unless this is a primitive type. -/
structure WrittenAs (raw : Value) (t? : Option TypeRef) : Prop where
  none_iff : t? = none ↔ raw = .null
  reference : t?.bind TypeRef.reference? =
    raw.typeName?.filter fun name => (Primitive.ofTag? name).isNone

/-- A type, or null in its place. -/
def Value.IsTypeOrNull (v : Value) : Prop := v = .null ∨ v.typeName?.isSome

theorem typeRef_decided (raw : Value) :
    Decided (refusing (TypeRef.read raw)) raw.IsTypeOrNull (WrittenAs raw) := by
  rcases raw.typeRef_read_cases with
    ⟨rfl, read⟩ | ⟨name, t, named, read, refers⟩ | ⟨present, unnamed, cause, read⟩
  · exact .inl ⟨.inl rfl, none, by rw [read]; rfl, by simp, rfl⟩
  · refine .inl ⟨.inr (by simp [named]), some t, by rw [read]; rfl, ?_, ?_⟩
    · refine iff_of_false (by simp) ?_
      rintro rfl
      cases named
    · rw [named, Option.bind_some, refers]
      cases primitive : Primitive.ofTag? name <;> simp [Option.filter, primitive]
  · exact .inr ⟨by simp [Value.IsTypeOrNull, present, unnamed], cause, by rw [read]; rfl⟩

/-- The name a type is written with is known. -/
def Resolves (declared : List String) (raw : Value) : Prop :=
  ∀ name, raw.typeName? = some name →
    (Primitive.ofTag? name).isSome ∨ name ∈ declared ∨ name = untypedObject

theorem isTypeOver_iff {declared : List String} {raw : Value} :
    raw.IsTypeOver declared ↔ raw.IsTypeOrNull ∧ raw ≠ .null ∧ Resolves declared raw := by
  unfold Value.IsTypeOver Value.IsTypeOrNull Resolves
  cases named : raw.typeName? with
  | none => simp
  | some name =>
    have present : raw ≠ .null := by
      rintro rfl
      cases named
    simp [present]

theorem null_or_isTypeOver_iff {declared : List String} {raw : Value} :
    raw = .null ∨ raw.IsTypeOver declared ↔ raw.IsTypeOrNull ∧ Resolves declared raw := by
  by_cases absent : raw = .null
  · subst absent
    exact iff_of_true (.inl rfl) ⟨.inl rfl, fun name named => nomatch named⟩
  · simp [isTypeOver_iff, absent]

/-- The name a type refers to is known. -/
def Known (declared : List String) (t? : Option TypeRef) : Prop :=
  ∀ name, t?.bind TypeRef.reference? = some name → name ∈ declared ∨ name = untypedObject

theorem WrittenAs.known_iff {declared : List String} {raw : Value} {t? : Option TypeRef}
    (written : WrittenAs raw t?) : Resolves declared raw ↔ Known declared t? := by
  unfold Known Resolves
  rw [written.reference]
  cases raw.typeName? with
  | none => simp
  | some name => cases primitive : Primitive.ofTag? name <;> simp [Option.filter, primitive]

theorem resolve_eq_ok {declared : List String} {r : Reference × Option TypeRef} :
    ServiceDescription.resolve declared r = .ok () ↔ Known declared r.2 := by
  obtain ⟨place, t?⟩ := r
  simp only [ServiceDescription.resolve, Known]
  cases t?.bind TypeRef.reference? with
  | none => simp
  | some name => by_cases known : name ∈ declared ∨ name = untypedObject <;> simp [known]

theorem docLines_member_isOk {v : Value} (shaped : (v.member "doc_lines").isDocLines = true) :
    ∃ lines, docLines ((v.members.lookup "doc_lines").getD (.list [])) = .ok lines := by
  rw [Value.member] at shaped
  cases found : v.members.lookup "doc_lines" with
  | none => exact ⟨[], rfl⟩
  | some lines =>
    rw [found] at shaped
    exact Value.docLines_isOk shaped

/-! ## Parameters and methods -/

/-- A parameter was read from an entry. -/
structure ParameterDescription.Of (e : String × Value) (p : ParameterDescription) : Prop where
  type : WrittenAs (e.2.member "type") p.type
  order : e.2.member "def_order" = .int p.order
  docs : ∃ lines, ServiceClient.docLines p.docLines = .ok lines

theorem parameter_decided {name : String} {raw : Value} {fields : List (String × Value)}
    {order : Int} (isObject : raw = .object fields)
    (ordered : fields.lookup "def_order" = some (.int order))
    (docs : (raw.member "doc_lines").isDocLines = true) :
    Decided (ParameterDescription.read name order fields) (raw.member "type").IsTypeOrNull
      fun p => p.order = order ∧ p.Of (name, raw) := by
  subst isObject
  refine (typeRef_decided _).map fun type written => ⟨rfl, written, ?_, ?_⟩
  · rw [Value.member, Value.members, ordered]
    rfl
  · exact docLines_member_isOk docs

/-- The places of parameters are numbers, with none used twice and none of those taken. -/
def FreshPlaces (taken : List Int) (places : List Value) : Prop :=
  ∃ orders : List Int, places = orders.map .int ∧ (taken ++ orders).Nodup

theorem freshPlaces_cons {taken : List Int} {v : Value} {places : List Value} :
    FreshPlaces taken (v :: places) ↔
      ∃ order, v = .int order ∧ order ∉ taken ∧ FreshPlaces (taken ++ [order]) places := by
  constructor
  · rintro ⟨_ | ⟨order, orders⟩, same, fresh⟩
    · cases same
    · obtain ⟨rfl, rfl⟩ := List.cons.inj same
      refine ⟨order, rfl, fun inside => ?_, orders, rfl, by simpa using fresh⟩
      exact (List.nodup_append.mp fresh).2.2 order inside order List.mem_cons_self rfl
  · rintro ⟨order, rfl, -, orders, rfl, fresh⟩
    exact ⟨order :: orders, rfl, by simpa using fresh⟩

/-- What is asked of the entries of parameters where some places are taken: each has a type, or null
in its place, and the places are numbers, with none used twice and none of those taken. -/
structure ReadableAfter (taken : List Int) (entries : List (String × Value)) : Prop where
  types : ∀ e ∈ entries, (e.2.member "type").IsTypeOrNull
  places : FreshPlaces taken (entries.map fun e => e.2.member "def_order")

theorem readableAfter_cons {taken : List Int} {e : String × Value}
    {entries : List (String × Value)} :
    ReadableAfter taken (e :: entries) ↔ (e.2.member "type").IsTypeOrNull ∧
      ∃ order, e.2.member "def_order" = .int order ∧ order ∉ taken ∧
        ReadableAfter (taken ++ [order]) entries := by
  constructor
  · rintro ⟨types, places⟩
    obtain ⟨here, others⟩ := List.forall_mem_cons.mp types
    obtain ⟨order, place, new, fresh⟩ := freshPlaces_cons.mp places
    exact ⟨here, order, place, new, others, fresh⟩
  · rintro ⟨here, order, place, new, others, fresh⟩
    exact ⟨List.forall_mem_cons.mpr ⟨here, others⟩,
      freshPlaces_cons.mpr ⟨order, place, new, fresh⟩⟩

/-- Parameters were read after some others. -/
def ReadAfter (known : List ParameterDescription) (entries : List (String × Value))
    (all : List ParameterDescription) : Prop :=
  ∃ read, all = known ++ read ∧ List.Forall₂ ParameterDescription.Of entries read

theorem readAll_decided {method : String} {known : List ParameterDescription}
    {entries : List (String × Value)} (objects : ∀ e ∈ entries, e.2.isObject = true)
    (docs : ∀ e ∈ entries, (e.2.member "doc_lines").isDocLines = true)
    (distinct : (known.map (·.order)).Nodup) :
    Decided (ParameterDescription.readAll method known entries)
      (ReadableAfter (known.map (·.order)) entries) (ReadAfter known entries) := by
  induction entries generalizing known with
  | nil =>
    have fresh : FreshPlaces (known.map (·.order)) [] := ⟨[], rfl, by simpa using distinct⟩
    exact (decided_ok ⟨[], by simp, .nil⟩).congr (iff_of_true trivial ⟨by simp, fresh⟩)
  | cons e entries ih =>
    obtain ⟨name, raw⟩ := e
    obtain ⟨hereObject, otherObjects⟩ := List.forall_mem_cons.mp objects
    obtain ⟨hereDocs, otherDocs⟩ := List.forall_mem_cons.mp docs
    obtain ⟨fields, rfl⟩ := Value.isObject_iff.mp hereObject
    have isObject : (Value.object fields).entries = .ok fields := rfl
    simp only [readableAfter_cons, Value.member_eq_int]
    rw [ParameterDescription.readAll, isObject, ok_bind]
    split
    · rename_i order ordered
      simp only [ordered, Option.some.injEq, Value.int.injEq, exists_eq_left']
      by_cases taken : known.any (·.order == order)
      · rw [if_pos taken]
        refine decided_refused.congr (iff_of_false id ?_)
        rintro ⟨-, new, -⟩
        exact new (by simpa using taken)
      · rw [if_neg taken]
        have new : order ∉ known.map (·.order) := by simpa using taken
        refine ((parameter_decided rfl ordered hereDocs).bind
          (ReadableAfter (known.map (·.order) ++ [order]) entries) ?_).congr ?_
        · rintro p ⟨rfl, made⟩
          have orders : (known ++ [p]).map (·.order) = known.map (·.order) ++ [p.order] := by simp
          rw [← orders]
          refine (ih otherObjects otherDocs ?_).imp ?_
          · rw [orders]
            exact List.Nodup.append distinct (by simp) (by simpa using new)
          · rintro all ⟨read, rfl, others⟩
            exact ⟨p :: read, by simp, .cons made others⟩
        · exact and_congr_right fun _ => (and_iff_right new).symm
    · rename_i other
      refine decided_refused.congr (iff_of_false id ?_)
      rintro ⟨-, order, ordered, -⟩
      exact other order ordered

theorem inOrder_decided (method : String) (params : List ParameterDescription) :
    Decided (refusing (ParameterDescription.inOrder method params))
      ((params.map (·.order)).Perm (callOrder params.length)) fun sorted => sorted.Perm params := by
  have permuted := List.mergeSort_perm params (·.order ≤ ·.order)
  have increasing : ((params.mergeSort (·.order ≤ ·.order)).map (·.order)).Pairwise (· ≤ ·) := by
    refine List.pairwise_map.mpr ((List.pairwise_mergeSort ?_ ?_ params).imp ?_)
    · intro a b c
      simpa using Int.le_trans
    · intro a b
      simpa using Int.le_total a.order b.order
    · intro a b
      exact of_decide_eq_true
  have numbers : (callOrder params.length).Pairwise (· ≤ ·) :=
    List.pairwise_map.mpr (List.pairwise_le_range.imp fun le => by omega)
  by_cases ordered : (params.mergeSort (·.order ≤ ·.order)).map (·.order) = callOrder params.length
  · refine .inl ⟨ordered ▸ (permuted.map _).symm, _, ?_, permuted⟩
    exact congrArg refusing (if_pos ordered)
  · refine .inr ⟨fun places => ordered ?_, _, congrArg refusing (if_neg ordered)⟩
    exact ((permuted.map _).trans places).eq_of_pairwise (fun _ _ _ _ => Int.le_antisymm)
      increasing numbers

theorem callOrder_nodup (count : Nat) : (callOrder count).Nodup :=
  List.nodup_range.map fun i j (same : (i : Int) + 1 = j + 1) => by omega

/-- Places that are the numbers from one on are fresh. -/
theorem freshPlaces_of_inPlaces {params : List (String × Value)} (inPlaces : InPlaces params) :
    FreshPlaces [] (params.map fun p => p.2.member "def_order") := by
  have ints : (params.map fun p => p.2.member "def_order") ∈ Set.range (List.map Value.int) := by
    rw [Set.range_list_map]
    intro v inside
    obtain ⟨n, -, same⟩ := List.mem_map.mp (inPlaces.mem_iff.mp inside)
    exact ⟨n, same⟩
  obtain ⟨orders, same⟩ := ints
  have distinct := (callOrder_nodup params.length).map (f := Value.int) fun m n => Value.int.inj
  refine ⟨orders, same.symm, ?_⟩
  rw [InPlaces, ← same] at inPlaces
  exact (inPlaces.nodup_iff.mpr distinct).of_map

/-- What is asked of parameters before the names of types are looked up. -/
def ReadableParameters (params : List (String × Value)) : Prop :=
  (∀ p ∈ params, (p.2.member "type").IsTypeOrNull) ∧ InPlaces params

theorem parameters_decided {method : String} {entries : List (String × Value)}
    (objects : ∀ e ∈ entries, e.2.isObject = true)
    (docs : ∀ e ∈ entries, (e.2.member "doc_lines").isDocLines = true) :
    Decided
      (ParameterDescription.readAll method [] entries >>= fun all =>
        refusing (ParameterDescription.inOrder method all))
      (ReadableParameters entries)
      fun sorted => ∃ read, List.Forall₂ ParameterDescription.Of entries read ∧
        sorted.Perm read := by
  have none : (([] : List ParameterDescription).map (·.order)).Nodup := List.nodup_nil
  refine ((readAll_decided objects docs none).bind (InPlaces entries) fun all made => ?_).congr ?_
  · obtain ⟨read, rfl, made⟩ : ∃ read, all = read ∧ _ := made
    refine ((inOrder_decided method all).congr ?_).imp fun sorted perm => ⟨all, made, perm⟩
    have places : (entries.map fun e => e.2.member "def_order") =
        (all.map (·.order)).map .int := by
      rw [List.map_map]
      exact forall₂_map_eq (made.imp fun e p of => of.order)
    rw [InPlaces, places, made.length_eq, List.map_perm_map_iff fun m n => Value.int.inj]
  · exact ⟨fun ⟨⟨types, _⟩, places⟩ => ⟨types, places⟩,
      fun ⟨types, places⟩ => ⟨⟨types, freshPlaces_of_inPlaces places⟩, places⟩⟩

/-- A method was read from an entry. -/
structure MethodDescription.Of (e : String × Value) (m : MethodDescription) : Prop where
  name : m.name = e.1
  returns : WrittenAs ((e.2.member "ret_info").member "type") m.returns
  params : ∃ read, List.Forall₂ ParameterDescription.Of (e.2.member "params").members read ∧
    m.params.Perm read
  docs : ∃ lines, ServiceClient.docLines m.docLines = .ok lines
  returnDocs : ∃ lines, ServiceClient.docLines m.returnDocLines = .ok lines

/-- What is asked of the entry of a method before the names of types are looked up. -/
def ReadableMethod (raw : Value) : Prop :=
  ((raw.member "ret_info").member "type").IsTypeOrNull ∧
    ReadableParameters (raw.member "params").members

theorem methodDescription_decided {name : String} {raw : Value} (isObject : raw.isObject = true)
    (documented : DocumentedMethod raw) :
    Decided (MethodDescription.read name raw) (ReadableMethod raw)
      (MethodDescription.Of (name, raw)) := by
  obtain ⟨fields, rfl⟩ := Value.isObject_iff.mp isObject
  obtain ⟨shaped, objects⟩ := Value.isTable_iff.mp documented.params
  have params := Value.entriesOrNone_members shaped
  have result := Value.entriesOrNone_members documented.result
  unfold MethodDescription.read
  rw [Value.entries, ok_bind, result, ok_bind, params]
  refine (typeRef_decided _).bind _ fun returns written => ?_
  simp only [ok_bind, ← bind_assoc]
  refine (parameters_decided objects documented.paramDocs).map fun sorted read => ?_
  exact ⟨rfl, written, read, docLines_member_isOk documented.docs,
    docLines_member_isOk documented.resultDocs⟩

/-! ## Types -/

/-- A field was read from an entry. -/
def FieldOf (e : String × Value) (field : String × Option TypeRef) : Prop :=
  field.1 = e.1 ∧ WrittenAs e.2 field.2

/-- A declared type was read from an entry. -/
def TypeOf (e : String × Value) (type : String × List (String × Option TypeRef)) : Prop :=
  type.1 = e.1 ∧ List.Forall₂ FieldOf e.2.members type.2

theorem readFields_decided {name : String} {raw : Value} (isObject : raw.isObject = true) :
    Decided (do return (name, ← ServiceDescription.readFields raw))
      (∀ field ∈ raw.members, field.2.IsTypeOrNull) (TypeOf (name, raw)) := by
  obtain ⟨fields, rfl⟩ := Value.isObject_iff.mp isObject
  have each : Decided (ServiceDescription.readFields (.object fields)) _
      (List.Forall₂ FieldOf fields) :=
    Decided.mapM _ FieldOf fun e _ => (typeRef_decided e.2).map fun t? written => ⟨rfl, written⟩
  exact each.map fun read all => ⟨rfl, all⟩

theorem typedFields_decided (fields : List (String × Option TypeRef)) :
    Decided (refusing (RecordType.typedFields fields)) (∀ field ∈ fields, field.2 ≠ none)
      fun _ => True := by
  rw [RecordType.typedFields, refusing_mapM]
  refine (Decided.mapM (fun field : String × Option TypeRef => field.2 ≠ none) (fun _ _ => True)
    fun field _ => ?_).imp fun _ _ => trivial
  obtain ⟨name, t?⟩ := field
  cases t? with
  | none => exact decided_refused.congr (by simp)
  | some t => exact (decided_ok trivial).congr (by simp)

/-- The fields of a declared type have types, and names that are not taken. -/
theorem recordType_decided {e : String × Value} {type : String × List (String × Option TypeRef)}
    (of : TypeOf e type) (named : e.1.toList.contains '\x00' = false) :
    Decided (RecordType.ofDescription type.1 type.2)
      ((∀ field ∈ e.2.members, isReserved field.1 = false) ∧ ∀ field ∈ e.2.members, field.2 ≠ .null)
      fun _ => True := by
  obtain ⟨sameName, fields⟩ := of
  have free : (∀ field ∈ e.2.members, isReserved field.1 = false) ↔
      ∀ field ∈ type.2, isReserved field.1 = false :=
    forall₂_forall_iff fields fun f g of => by rw [of.1]
  have typed : (∀ field ∈ e.2.members, field.2 ≠ .null) ↔ ∀ field ∈ type.2, field.2 ≠ none :=
    forall₂_forall_iff fields fun f g of => not_congr of.2.none_iff.symm
  rw [free, typed, RecordType.ofDescription]
  cases found : type.2.find? fun field => isReserved field.1 with
  | some field =>
    refine decided_refused.congr (iff_of_false id fun both => ?_)
    have reserved := List.find?_some found
    rw [both.1 field (List.mem_of_find?_eq_some found)] at reserved
    cases reserved
  | none =>
    have free : ∀ field ∈ type.2, isReserved field.1 = false := by simpa using found
    rw [sameName]
    simp only [named]
    refine ((typedFields_decided type.2).map fun _ _ => trivial).congr ?_
    exact ⟨fun typed => ⟨free, typed⟩, And.right⟩

/-! ## References -/

theorem references_decided (m : MethodDescription) :
    Decided (refusing m.references) (∀ p ∈ m.params, p.type ≠ none)
      fun references => references.map (·.2) = m.returns :: m.params.map (·.type) := by
  rw [MethodDescription.references, refusing_bind, refusing_mapM]
  refine (Decided.mapM (fun p : ParameterDescription => p.type ≠ none)
    (fun p (r : Reference × Option TypeRef) => p.type = r.2) fun p _ => ?_).map
    fun references all => ?_
  · cases typed : p.type with
    | none => exact decided_refused.congr (by simp)
    | some t => exact .inl ⟨by simp, _, rfl, rfl⟩
  · rw [List.map_cons, forall₂_map_eq all]

theorem resolve_decided {declared : List String}
    (references : List (Reference × Option TypeRef)) :
    Decided (refusing (references.forM (ServiceDescription.resolve declared)))
      (∀ r ∈ references, Known declared r.2) fun _ => True := by
  refine (decided_refusing.congr ?_).imp fun _ _ => trivial
  rw [forM_eq_ok]
  exact forall₂_congr fun r _ => resolve_eq_ok

/-- What holds of the types that are written for the parameters of a method holds of the types of
its parameters. -/
theorem params_forall_iff {e : String × Value} {m : MethodDescription}
    (of : MethodDescription.Of e m) {P : Value → Prop} {Q : Option TypeRef → Prop}
    (same : ∀ raw t?, WrittenAs raw t? → (P raw ↔ Q t?)) :
    (∀ p ∈ (e.2.member "params").members, P (p.2.member "type")) ↔ ∀ p ∈ m.params, Q p.type := by
  obtain ⟨read, made, permuted⟩ := of.params
  rw [forall₂_forall_iff made fun e p of => same _ _ of.type]
  exact forall_congr' fun p => by rw [permuted.mem_iff]

/-! ## The whole description -/

section

variable {types methods : List (String × Value)}

/-- The names of all types that are written are known. -/
def AllResolve (types methods : List (String × Value)) : Prop :=
  (∀ type ∈ types, ∀ field ∈ type.2.members, Resolves (types.map (·.1)) field.2) ∧
    ∀ m ∈ methods, Resolves (types.map (·.1)) ((m.2.member "ret_info").member "type") ∧
      ∀ p ∈ (m.2.member "params").members, Resolves (types.map (·.1)) (p.2.member "type")

/-- A description was read. -/
structure ServiceOf (types methods : List (String × Value)) (service : ServiceDescription) :
    Prop where
  types : List.Forall₂ TypeOf types service.types
  methods : List.Forall₂ MethodDescription.Of methods service.methods
  typed : ∀ m ∈ service.methods, ∀ p ∈ m.params, p.type ≠ none

theorem references_resolve {typesRead : List (String × List (String × Option TypeRef))}
    {methodsRead : List MethodDescription}
    {methodReferences : List (List (Reference × Option TypeRef))}
    (typesOf : List.Forall₂ TypeOf types typesRead)
    (methodsOf : List.Forall₂ MethodDescription.Of methods methodsRead)
    (referencesOf : List.Forall₂ (fun m references =>
      references.map (·.2) = m.returns :: m.params.map (·.type)) methodsRead methodReferences) :
    (∀ r ∈ (typesRead.flatMap fun type => type.2.map fun field =>
        (Reference.field type.1 field.1, field.2)) ++ methodReferences.flatten,
      Known (typesRead.map (·.1)) r.2) ↔ AllResolve types methods := by
  have names : types.map (·.1) = typesRead.map (·.1) :=
    forall₂_map_eq (typesOf.imp fun e type of => of.1.symm)
  have fields : (∀ type ∈ types, ∀ field ∈ type.2.members, Resolves (types.map (·.1)) field.2) ↔
      ∀ type ∈ typesRead, ∀ field ∈ type.2, Known (typesRead.map (·.1)) field.2 := by
    rw [names]
    exact forall₂_forall_iff typesOf fun e type of =>
      forall₂_forall_iff of.2 fun e field of => of.2.known_iff
  have references : (∀ m ∈ methods,
        Resolves (types.map (·.1)) ((m.2.member "ret_info").member "type") ∧
          ∀ p ∈ (m.2.member "params").members, Resolves (types.map (·.1)) (p.2.member "type")) ↔
      ∀ references ∈ methodReferences, ∀ r ∈ references, Known (typesRead.map (·.1)) r.2 := by
    rw [names]
    refine (forall₂_forall_iff methodsOf fun e m of => and_congr of.returns.known_iff
      (params_forall_iff of fun raw t? => WrittenAs.known_iff)).trans ?_
    refine forall₂_forall_iff referencesOf fun m references same => ?_
    have all : (∀ r ∈ references, Known (typesRead.map (·.1)) r.2) ↔
        ∀ t? ∈ references.map (·.2), Known (typesRead.map (·.1)) t? := List.forall_mem_map.symm
    rw [all, same, List.forall_mem_cons, List.forall_mem_map]
  rw [AllResolve, fields, references, List.forall_mem_append]
  refine and_congr ?_ ?_
  · simp only [List.mem_flatMap, List.mem_map]
    constructor
    · intro all type inType field inField
      exact all _ ⟨type, inType, field, inField, rfl⟩
    · rintro all _ ⟨type, inType, field, inField, rfl⟩
      exact all type inType field inField
  · simp only [List.mem_flatten]
    exact ⟨fun all references here r inside => all r ⟨references, here, inside⟩,
      fun all r ⟨references, here, inside⟩ => all references here r inside⟩

theorem service_decided {description : Value} (documented : Documented description) :
    Decided (ServiceDescription.read description)
      ((∀ m ∈ (description.member "methods").members, ReadableMethod m.2) ∧
        (∀ type ∈ (description.member "types").members, ∀ field ∈ type.2.members,
          field.2.IsTypeOrNull) ∧
        (∀ m ∈ (description.member "methods").members,
          ∀ p ∈ (m.2.member "params").members, p.2.member "type" ≠ .null) ∧
        AllResolve (description.member "types").members (description.member "methods").members)
      (ServiceOf (description.member "types").members (description.member "methods").members) := by
  obtain ⟨fields, rfl⟩ := Value.isObject_iff.mp documented.isObject
  obtain ⟨typesShaped, typeObjects⟩ := Value.isTable_iff.mp documented.types
  obtain ⟨methodsShaped, methodObjects⟩ := Value.isTable_iff.mp documented.methods
  have types := Value.entriesOrNone_members typesShaped
  have methods := Value.entriesOrNone_members methodsShaped
  simp only [ServiceDescription.read]
  rw [methods, ok_bind]
  refine (Decided.mapM (fun m : String × Value => ReadableMethod m.2) MethodDescription.Of
    fun m inside => methodDescription_decided (methodObjects m inside)
      (documented.eachMethod m inside)).bind _ fun methodsRead methodsOf => ?_
  rw [types, ok_bind]
  refine (Decided.mapM (fun type : String × Value => ∀ field ∈ type.2.members,
    field.2.IsTypeOrNull) TypeOf fun type inside =>
      readFields_decided (typeObjects type inside)).bind _ fun typesRead typesOf => ?_
  rw [refusing_mapM]
  have typed : (∀ m ∈ ((Value.object fields).member "methods").members,
      ∀ p ∈ (m.2.member "params").members, p.2.member "type" ≠ .null) ↔
      ∀ m ∈ methodsRead, ∀ p ∈ m.params, p.type ≠ none :=
    forall₂_forall_iff methodsOf fun e m of =>
      params_forall_iff of fun raw t? written => not_congr written.none_iff.symm
  rw [typed]
  refine (Decided.mapM _ _ fun m _ => references_decided m).keep.bind _
    fun methodReferences referencesOf => ?_
  obtain ⟨typed, referencesOf⟩ := referencesOf
  rw [← references_resolve typesOf methodsOf referencesOf]
  exact (resolve_decided _).map fun _ _ => ⟨typesOf, methodsOf, typed⟩

/-! ## Building -/

theorem parameter_isOk {method : String} {e : String × Value} {p : ParameterDescription}
    (of : p.Of e) (typed : p.type ≠ none) :
    ∃ built, Parameter.ofDescription method p = .ok built := by
  obtain ⟨t, isTyped⟩ := Option.ne_none_iff_exists'.mp typed
  obtain ⟨lines, docs⟩ := of.docs
  exact ⟨_, by simp only [Parameter.ofDescription, isTyped, docs]; rfl⟩

/-- A method that was read is built. -/
theorem method_isOk {e : String × Value} {m : MethodDescription} (of : MethodDescription.Of e m)
    (typed : ∀ p ∈ m.params, p.type ≠ none) : ∃ built, Method.ofDescription m = .ok built := by
  obtain ⟨lines, docs⟩ := of.docs
  obtain ⟨returnLines, returnDocs⟩ := of.returnDocs
  obtain ⟨read, made, permuted⟩ := of.params
  obtain ⟨params, all⟩ : ∃ params, List.Forall₂
      (fun p built => Parameter.ofDescription m.name p = .ok built) m.params params := by
    refine exists_forall₂ fun p inside => ?_
    obtain ⟨e, -, of⟩ := forall₂_mem_right made (permuted.mem_iff.mp inside)
    exact parameter_isOk of (typed p inside)
  simp only [Method.ofDescription, docs, mapM_eq_ok.mpr all, returnDocs, ok_bind]
  split <;> exact ⟨_, rfl⟩

theorem members_distinct {v : Value} (regular : v.isRegular = true) :
    (v.members.map (·.1)).Nodup := by
  cases v with
  | object entries => exact Value.isMapping_object.mp (Value.everywhere_object.mp regular).1
  | _ => exact List.nodup_nil

theorem member_isRegular {v : Value} (regular : v.isRegular = true) (key : String) :
    (v.member key).isRegular = true := by
  cases v with
  | object entries =>
    rw [Value.member, Value.members]
    cases found : entries.lookup key with
    | none => rfl
    | some v => exact (Value.everywhere_object.mp regular).2 _ (mem_of_lookup found)
  | _ => rfl

/-- What is asked of the parts of a description, step by step, makes it well formed. -/
theorem wellFormed_iff {description : Value} :
    let types := (description.member "types").members
    let methods := (description.member "methods").members
    ((∀ m ∈ methods, ReadableMethod m.2) ∧
        (∀ type ∈ types, ∀ field ∈ type.2.members, field.2.IsTypeOrNull) ∧
        (∀ m ∈ methods, ∀ p ∈ (m.2.member "params").members, p.2.member "type" ≠ .null) ∧
        AllResolve types methods) ∧
      (∀ type ∈ types, (∀ field ∈ type.2.members, isReserved field.1 = false) ∧
        ∀ field ∈ type.2.members, field.2 ≠ .null) ∧
      (∀ a ∈ methods.map (·.1), ∀ b ∈ methods.map (·.1),
        segments a <+: segments b → segments a = segments b) ↔
    WellFormed description := by
  intro types methods
  constructor
  · rintro ⟨⟨readable, fieldTypes, typed, fieldsResolve, methodsResolve⟩, fields, names⟩
    constructor
    · intro type inTypes field inFields
      exact isTypeOver_iff.mpr ⟨fieldTypes type inTypes field inFields,
        (fields type inTypes).2 field inFields, fieldsResolve type inTypes field inFields⟩
    · exact fun type inTypes => (fields type inTypes).1
    · intro m inMethods
      obtain ⟨result, parameters, places⟩ := readable m inMethods
      obtain ⟨resultResolves, parametersResolve⟩ := methodsResolve m inMethods
      refine ⟨fun p inParams => ?_, null_or_isTypeOver_iff.mpr ⟨result, resultResolves⟩, places⟩
      exact isTypeOver_iff.mpr ⟨parameters p inParams, typed m inMethods p inParams,
        parametersResolve p inParams⟩
    · exact fun m inMethods m' inMethods' => names m.1 (List.mem_map_of_mem inMethods) m'.1
        (List.mem_map_of_mem inMethods')
  · rintro ⟨fieldTypes, fieldNames, eachMethod, methodNames⟩
    have field {type : String × Value} (inTypes : type ∈ types) {field : String × Value}
        (inFields : field ∈ type.2.members) :=
      isTypeOver_iff.mp (fieldTypes type inTypes field inFields)
    have parameter {m : String × Value} (inMethods : m ∈ methods) {p : String × Value}
        (inParams : p ∈ (m.2.member "params").members) :=
      isTypeOver_iff.mp ((eachMethod m inMethods).parameterTypes p inParams)
    have result {m : String × Value} (inMethods : m ∈ methods) :=
      null_or_isTypeOver_iff.mp (eachMethod m inMethods).resultType
    refine ⟨⟨fun m inMethods => ?_, fun type inTypes f inFields => (field inTypes inFields).1,
      fun m inMethods p inParams => (parameter inMethods inParams).2.1,
      fun type inTypes f inFields => (field inTypes inFields).2.2, fun m inMethods => ?_⟩,
      fun type inTypes => ⟨fieldNames type inTypes, fun f inFields =>
        (field inTypes inFields).2.1⟩, ?_⟩
    · exact ⟨(result inMethods).1, fun p inParams => (parameter inMethods inParams).1,
        (eachMethod m inMethods).places⟩
    · exact ⟨(result inMethods).2, fun p inParams => (parameter inMethods inParams).2.2⟩
    · intro a inNames b inNames'
      obtain ⟨m, inMethods, rfl⟩ := List.mem_map.mp inNames
      obtain ⟨m', inMethods', rfl⟩ := List.mem_map.mp inNames'
      exact methodNames m inMethods m' inMethods'

/-- The methods that were read are built, under their names. -/
theorem methods_isOk {service : ServiceDescription} (of : ServiceOf types methods service) :
    ∃ built, (service.methods.mapM fun m => do return (m.name, ← Method.ofDescription m)) =
      .ok built ∧ built.map (·.1) = methods.map (·.1) := by
  obtain ⟨built, all⟩ : ∃ built : List (String × Method), List.Forall₂
      (fun m b => Method.ofDescription m = .ok b.2 ∧ b.1 = m.name) service.methods built := by
    refine exists_forall₂ fun m inside => ?_
    obtain ⟨e, -, methodOf⟩ := forall₂_mem_right of.methods inside
    obtain ⟨built, done⟩ := method_isOk methodOf (of.typed m inside)
    exact ⟨(m.name, built), done, rfl⟩
  refine ⟨built, mapM_eq_ok.mpr (all.imp ?_), ?_⟩
  · rintro m ⟨name, built⟩ ⟨done, rfl⟩
    rw [done]
    rfl
  · refine (forall₂_map_eq (forall₂_trans of.methods all |>.imp ?_)).symm
    rintro e b ⟨m, methodOf, -, same⟩
    rw [same, methodOf.name]

theorem build_decided {description : Value} (endpoint : String)
    (regular : description.isRegular = true) (documented : Documented description) :
    Decided (Client.build description endpoint) (WellFormed description) fun _ => True := by
  refine Decided.congr ?_ wellFormed_iff
  refine (service_decided documented).bind _ fun service serviceOf => ?_
  refine (Decided.mapM_related serviceOf.types
    (fun type => (∀ field ∈ type.2.members, isReserved field.1 = false) ∧
      ∀ field ∈ type.2.members, field.2 ≠ .null) (fun _ _ => True)
    fun type inTypes _ _ of => recordType_decided of (documented.typeNames type inTypes)).bind _
    fun types _ => ?_
  obtain ⟨built, made, names⟩ := methods_isOk serviceOf
  have distinct : (built.map (·.1)).Nodup :=
    names ▸ members_distinct (member_isRegular regular "methods")
  rw [made, ok_bind, ← names, ← Namespace.ofList_isOk distinct]
  exact decided_refusing.map fun _ _ => trivial

/-- A client is built of a documented description if and only if that is well formed, and what is
not well formed is refused as a description. -/
theorem build_accepts {description : Value} (endpoint : String)
    (regular : description.isRegular = true) (documented : Documented description) :
    ((∃ client, Client.build description endpoint = .ok client) ↔ WellFormed description) ∧
      ((∃ cause, Client.build description endpoint = .error (.description cause)) ↔
        ¬WellFormed description) := by
  rcases build_decided endpoint regular documented with
    ⟨wellFormed, client, built, -⟩ | ⟨malformed, cause, refused⟩
  · simp [wellFormed, built]
  · simp [malformed, refused]

theorem sample_documented : Documented sampleDescription where
  isObject := rfl
  types := by decide
  typeNames := by decide
  methods := by decide
  eachMethod := by
    intro m inMethods
    obtain rfl := List.mem_singleton.mp inMethods
    exact ⟨by decide, by decide, by decide, by decide, by decide⟩

theorem build_accepts_sample :
    sampleDescription.isRegular = true ∧ Documented sampleDescription ∧
      WellFormed sampleDescription :=
  ⟨rfl, sample_documented,
    (build_accepts "http://0.0.0.0:8080/" rfl sample_documented).1.mp ⟨sampleClient, sample_built⟩⟩

end

end ServiceClient

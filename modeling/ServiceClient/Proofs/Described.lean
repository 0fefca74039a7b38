import ServiceClient.Client
import ServiceClient.Proofs.Conformance
import ServiceClient.Proofs.NameTree

/-!
A client beside the description it was built from. `Client.WrittenIn` says where in the description
each type, method and parameter of a client stands; `build_writtenIn` says that building a client
makes up nothing.
-/

namespace ServiceClient

/-- A declared type stands in an entry of a description: the fields and their types are written
there, in their order. -/
def RecordType.WrittenIn (type : RecordType) (raw : Value) : Prop :=
  ∃ fields, raw = .object fields ∧
    List.Forall₂ (fun e f => e.1 = f.1 ∧ TypeRef.read e.2 = .ok (some f.2)) fields type.fields

/-- A parameter stands among those of a description as the one at a place in the call, counted from
zero. -/
def Parameter.WrittenAt (p : Parameter) (place : Nat) (params : List (String × Value)) : Prop :=
  ∃ entry, (p.name, .object entry) ∈ params ∧
    entry.lookup "def_order" = some (.int (place + 1)) ∧
    TypeRef.read ((entry.lookup "type").getD .null) = .ok (some p.type) ∧
    p.optional = ((entry.lookup "optional").map Value.countsAsTrue).getD false

/-- A method stands in an entry of a description: its parameters are the ones written there, in the
order of their places. -/
def Method.WrittenIn (m : Method) (raw : Value) : Prop :=
  ∃ entry params, raw = .object entry ∧
    Value.entriesOrNone (entry.lookup "params") = .ok params ∧
    m.params.length = params.length ∧
    ∀ (place : Nat) (p : Parameter), m.params[place]? = some p → p.WrittenAt place params

/-- A client stands in a description: its types are those written there, and each of its methods is
written there under its name. -/
def Client.WrittenIn (client : Client) (description : Value) : Prop :=
  ∃ fields types methods, description = .object fields ∧
    Value.entriesOrNone (fields.lookup "types") = .ok types ∧
    Value.entriesOrNone (fields.lookup "methods") = .ok methods ∧
    List.Forall₂ (fun e type => e.1 = type.name ∧ type.WrittenIn e.2) types client.types ∧
    ∀ name m, (name, m) ∈ client.methodList →
      m.name = name ∧ ∃ raw, (name, raw) ∈ methods ∧ m.WrittenIn raw

/-- A method of the client stands in the description under the name it is called by. -/
theorem Client.WrittenIn.of_mem_methodList {client : Client} {description : Value} {name : String}
    {m : Method} (written : client.WrittenIn description) (stub : (name, m) ∈ client.methodList) :
    m.name = name ∧ ∃ raw, m.WrittenIn raw := by
  obtain ⟨_, _, _, _, _, _, _, methods⟩ := written
  obtain ⟨named, raw, -, written⟩ := methods name m stub
  exact ⟨named, raw, written⟩

theorem refusing_eq_ok {α : Type} {x : Except DescriptionFault α} {a : α} :
    refusing x = .ok a ↔ x = .ok a := by
  cases x <;> simp [refusing]

theorem entries_eq_ok {v : Value} {entries : List (String × Value)} :
    v.entries = .ok entries ↔ v = .object entries := by
  cases v <;> simp [Value.entries]

/-! ## Types -/

/-- Fields of a declared type are those that were read, each with a type. -/
theorem typedFields_eq_ok {fields : List (String × Option TypeRef)}
    {typed : List (String × TypeRef)} (done : RecordType.typedFields fields = .ok typed) :
    List.Forall₂ (fun e f => e.1 = f.1 ∧ e.2 = some f.2) fields typed := by
  apply (mapM_eq_ok.mp done).imp
  intro e f typed
  obtain ⟨field, t?⟩ := e
  cases t? with
  | none => cases typed
  | some t =>
    obtain rfl := Except.ok.inj typed
    exact ⟨rfl, rfl⟩

theorem readFields_eq_ok {raw : Value} {read : List (String × Option TypeRef)}
    (done : ServiceDescription.readFields raw = .ok read) :
    ∃ fields, raw = .object fields ∧
      List.Forall₂ (fun e f => e.1 = f.1 ∧ TypeRef.read e.2 = .ok f.2) fields read := by
  obtain ⟨fields, found, done⟩ := bind_eq_ok.mp done
  refine ⟨fields, entries_eq_ok.mp found, (mapM_eq_ok.mp done).imp fun e f typed => ?_⟩
  obtain ⟨t?, read, same⟩ := bind_eq_ok.mp typed
  obtain rfl := pure_eq_ok.mp same
  exact ⟨rfl, refusing_eq_ok.mp read⟩

theorem recordType_ofDescription_eq_ok {name : String} {fields : List (String × Option TypeRef)}
    {type : RecordType} (done : RecordType.ofDescription name fields = .ok type) :
    name = type.name ∧ RecordType.typedFields fields = .ok type.fields := by
  simp only [RecordType.ofDescription] at done
  split at done
  · obtain ⟨_, refused, -⟩ := bind_eq_ok.mp done
    simp at refused
  · obtain ⟨typed, fieldsTyped, done⟩ := bind_eq_ok.mp done
    split at done
    · obtain ⟨_, refused, -⟩ := bind_eq_ok.mp done
      simp at refused
    · obtain rfl := pure_eq_ok.mp done
      exact ⟨rfl, refusing_eq_ok.mp fieldsTyped⟩

theorem recordType_writtenIn {raw : Value} {name : String} {read : List (String × Option TypeRef)}
    {type : RecordType} (fieldsRead : ServiceDescription.readFields raw = .ok read)
    (done : RecordType.ofDescription name read = .ok type) :
    name = type.name ∧ type.WrittenIn raw := by
  obtain ⟨named, typed⟩ := recordType_ofDescription_eq_ok done
  obtain ⟨fields, isObject, fieldsRead⟩ := readFields_eq_ok fieldsRead
  refine ⟨named, fields, isObject, ?_⟩
  apply (forall₂_trans fieldsRead (typedFields_eq_ok typed)).imp
  rintro e f ⟨⟨field, t?⟩, ⟨same, read⟩, ⟨same', rfl⟩⟩
  exact ⟨same.trans same', read⟩

/-! ## Parameters and methods -/

/-- A parameter as it was read from an entry of a description. -/
def ParameterDescription.ReadFrom (e : String × Value) (p : ParameterDescription) : Prop :=
  ∃ fields, e.2 = .object fields ∧ p.name = e.1 ∧
    fields.lookup "def_order" = some (.int p.order) ∧
    TypeRef.read ((fields.lookup "type").getD .null) = .ok p.type ∧
    p.optional = ((fields.lookup "optional").map Value.countsAsTrue).getD false

theorem readAll_eq_ok {method : String} {known all : List ParameterDescription}
    {entries : List (String × Value)}
    (done : ParameterDescription.readAll method known entries = .ok all) :
    ∃ read, all = known ++ read ∧
      List.Forall₂ ParameterDescription.ReadFrom entries read := by
  induction entries generalizing known with
  | nil =>
    obtain rfl := Except.ok.inj done
    exact ⟨[], by simp, .nil⟩
  | cons e rest ih =>
    obtain ⟨name, raw⟩ := e
    obtain ⟨fields, isObject, done⟩ := bind_eq_ok.mp done
    split at done
    · rename_i order ordered
      split at done
      · cases done
      · obtain ⟨p, paramRead, done⟩ := bind_eq_ok.mp done
        obtain ⟨type, typeRead, same⟩ := bind_eq_ok.mp paramRead
        obtain rfl := pure_eq_ok.mp same
        obtain ⟨read, rfl, others⟩ := ih done
        refine ⟨_ :: read, List.append_assoc .., .cons ?_ others⟩
        exact ⟨fields, entries_eq_ok.mp isObject, rfl, ordered, refusing_eq_ok.mp typeRead, rfl⟩
    · cases done

theorem inOrder_eq_ok {method : String} {params sorted : List ParameterDescription}
    (done : ParameterDescription.inOrder method params = .ok sorted) :
    sorted.Perm params ∧
      sorted.map (·.order) = (List.range params.length).map fun i : Nat => (i : Int) + 1 := by
  simp only [ParameterDescription.inOrder] at done
  split at done
  · rename_i ordered
    obtain rfl := Except.ok.inj done
    exact ⟨List.mergeSort_perm _ _, ordered⟩
  · cases done

theorem parameter_ofDescription_eq_ok {method : String} {read : ParameterDescription}
    {p : Parameter} (done : Parameter.ofDescription method read = .ok p) :
    p.name = read.name ∧ read.type = some p.type ∧ p.optional = read.optional := by
  unfold Parameter.ofDescription at done
  split at done
  · cases done
  · rename_i type typed
    obtain ⟨docs, -, same⟩ := bind_eq_ok.mp done
    obtain rfl := pure_eq_ok.mp same
    exact ⟨rfl, typed, rfl⟩

theorem method_ofDescription_eq_ok {read : MethodDescription} {m : Method}
    (done : Method.ofDescription read = .ok m) :
    m.name = read.name ∧
      List.Forall₂ (fun q p => Parameter.ofDescription read.name q = .ok p) read.params
        m.params := by
  obtain ⟨docs, -, done⟩ := bind_eq_ok.mp done
  obtain ⟨params, made, done⟩ := bind_eq_ok.mp done
  simp only at done
  split at done <;>
  · obtain ⟨returnDocs, -, same⟩ := bind_eq_ok.mp done
    obtain rfl := pure_eq_ok.mp same
    exact ⟨rfl, mapM_eq_ok.mp made⟩

theorem methodDescription_read_eq_ok {name : String} {raw : Value} {read : MethodDescription}
    (done : MethodDescription.read name raw = .ok read) :
    read.name = name ∧ ∃ entry params all, raw = .object entry ∧
      Value.entriesOrNone (entry.lookup "params") = .ok params ∧
      List.Forall₂ ParameterDescription.ReadFrom params all ∧
      ParameterDescription.inOrder name all = .ok read.params := by
  obtain ⟨entry, isObject, done⟩ := bind_eq_ok.mp done
  obtain ⟨result, -, done⟩ := bind_eq_ok.mp done
  obtain ⟨returns, -, done⟩ := bind_eq_ok.mp done
  obtain ⟨params, found, done⟩ := bind_eq_ok.mp done
  obtain ⟨all, allRead, done⟩ := bind_eq_ok.mp done
  obtain ⟨sorted, ordered, same⟩ := bind_eq_ok.mp done
  obtain rfl := pure_eq_ok.mp same
  obtain ⟨read, same, readFrom⟩ := readAll_eq_ok allRead
  obtain rfl : all = read := by simpa using same
  exact ⟨rfl, entry, params, all, entries_eq_ok.mp isObject, found, readFrom,
    refusing_eq_ok.mp ordered⟩

/-- A method is built with the parameters of its entry, in the order of their places. -/
theorem method_writtenIn {name : String} {raw : Value} {read : MethodDescription} {m : Method}
    (methodRead : MethodDescription.read name raw = .ok read)
    (done : Method.ofDescription read = .ok m) : m.name = name ∧ m.WrittenIn raw := by
  obtain ⟨named, entry, params, all, isObject, found, allRead, ordered⟩ :=
    methodDescription_read_eq_ok methodRead
  obtain ⟨named', made⟩ := method_ofDescription_eq_ok done
  obtain ⟨permuted, places⟩ := inOrder_eq_ok ordered
  refine ⟨named'.trans named, entry, params, isObject, found, ?_, fun place p here => ?_⟩
  · rw [← made.length_eq, permuted.length_eq, allRead.length_eq]
  · obtain ⟨inBounds, rfl⟩ := List.getElem?_eq_some_iff.mp here
    have inBounds' : place < read.params.length := made.length_eq ▸ inBounds
    obtain ⟨nameEq, typeEq, optionalEq⟩ := parameter_ofDescription_eq_ok
      ((List.forall₂_iff_get.mp made).2 place inBounds' inBounds)
    have order : read.params[place].order = place + 1 := by
      have := congrArg (·[place]?) places
      simpa [inBounds', ← permuted.length_eq] using this
    obtain ⟨⟨key, raw⟩, inParams, fields, rfl, rfl, ordered, typed, optional⟩ :=
      forall₂_mem_right allRead (permuted.mem_iff.mp (List.getElem_mem inBounds'))
    simp only [List.get_eq_getElem] at nameEq typeEq optionalEq
    refine ⟨fields, ?_, ?_, ?_, ?_⟩
    · rwa [nameEq]
    · rw [ordered, order]
    · rw [typed, typeEq]
    · rw [optionalEq, optional]

/-! ## The whole client -/

theorem service_read_eq_ok {description : Value} {service : ServiceDescription}
    (done : ServiceDescription.read description = .ok service) :
    ∃ fields types methods, description = .object fields ∧
      Value.entriesOrNone (fields.lookup "types") = .ok types ∧
      Value.entriesOrNone (fields.lookup "methods") = .ok methods ∧
      List.Forall₂ (fun e type => e.1 = type.1 ∧ ServiceDescription.readFields e.2 = .ok type.2)
        types service.types ∧
      List.Forall₂ (fun e m => MethodDescription.read e.1 e.2 = .ok m) methods service.methods := by
  cases description with
  | object fields =>
    obtain ⟨methods, methodsFound, done⟩ := bind_eq_ok.mp done
    obtain ⟨methodsRead, methodsDone, done⟩ := bind_eq_ok.mp done
    obtain ⟨types, typesFound, done⟩ := bind_eq_ok.mp done
    obtain ⟨typesRead, typesDone, done⟩ := bind_eq_ok.mp done
    obtain ⟨_, -, done⟩ := bind_eq_ok.mp done
    obtain ⟨_, -, same⟩ := bind_eq_ok.mp done
    obtain rfl := pure_eq_ok.mp same
    refine ⟨fields, types, methods, rfl, typesFound, methodsFound, ?_, mapM_eq_ok.mp methodsDone⟩
    apply (mapM_eq_ok.mp typesDone).imp
    intro e type typeRead
    obtain ⟨read, fieldsRead, same⟩ := bind_eq_ok.mp typeRead
    obtain rfl := pure_eq_ok.mp same
    exact ⟨rfl, fieldsRead⟩
  | _ => cases done

/-- A client is built of what its description says, and posts to the endpoint it was given. -/
theorem build_writtenIn {description : Value} {endpoint : String} {client : Client}
    (built : Client.build description endpoint = .ok client) :
    client.WrittenIn description ∧ client.endpoint = endpoint := by
  obtain ⟨service, serviceRead, built⟩ := bind_eq_ok.mp built
  obtain ⟨types, typesMade, built⟩ := bind_eq_ok.mp built
  obtain ⟨methods, methodsMade, built⟩ := bind_eq_ok.mp built
  obtain ⟨members, listed, same⟩ := bind_eq_ok.mp built
  obtain rfl := pure_eq_ok.mp same
  obtain ⟨fields, rawTypes, rawMethods, isObject, typesFound, methodsFound, typesRead,
    methodsRead⟩ := service_read_eq_ok serviceRead
  refine ⟨⟨fields, rawTypes, rawMethods, isObject, typesFound, methodsFound, ?_, ?_⟩, rfl⟩
  · apply (forall₂_trans typesRead (mapM_eq_ok.mp typesMade)).imp
    rintro ⟨key, raw⟩ type ⟨⟨name, read⟩, ⟨rfl, fieldsRead⟩, made⟩
    exact recordType_writtenIn fieldsRead made
  · intro name m member
    have item := (Namespace.toList_ofList_perm (refusing_eq_ok.mp listed)).mem_iff.mp member
    obtain ⟨⟨key, raw⟩, written, read, methodRead, made⟩ :=
      forall₂_mem_right (forall₂_trans methodsRead (mapM_eq_ok.mp methodsMade)) item
    obtain ⟨m', methodMade, same⟩ := bind_eq_ok.mp made
    obtain ⟨rfl, rfl⟩ := Prod.mk.inj (pure_eq_ok.mp same)
    obtain ⟨named, writtenIn⟩ := method_writtenIn methodRead methodMade
    obtain rfl := (methodDescription_read_eq_ok methodRead).1
    exact ⟨named, raw, written, writtenIn⟩

/-- A client lists the methods that its description has. -/
theorem build_lists {description : Value} {endpoint : String} {client : Client}
    (built : Client.build description endpoint = .ok client) :
    ∃ fields methods, description = .object fields ∧
      Value.entriesOrNone (fields.lookup "methods") = .ok methods ∧
      (client.methodList.map (·.1)).Perm (methods.map (·.1)) := by
  obtain ⟨service, serviceRead, built⟩ := bind_eq_ok.mp built
  obtain ⟨types, -, built⟩ := bind_eq_ok.mp built
  obtain ⟨methods, methodsMade, built⟩ := bind_eq_ok.mp built
  obtain ⟨members, listed, same⟩ := bind_eq_ok.mp built
  obtain rfl := pure_eq_ok.mp same
  obtain ⟨fields, -, rawMethods, isObject, -, methodsFound, -, methodsRead⟩ :=
    service_read_eq_ok serviceRead
  have names : rawMethods.map (·.1) = methods.map (·.1) := by
    apply forall₂_map_eq
    apply (forall₂_trans methodsRead (mapM_eq_ok.mp methodsMade)).imp
    rintro e stub ⟨read, methodRead, made⟩
    obtain ⟨m, -, same⟩ := bind_eq_ok.mp made
    obtain rfl := pure_eq_ok.mp same
    exact (methodDescription_read_eq_ok methodRead).1.symm
  refine ⟨fields, rawMethods, isObject, methodsFound, names ▸ ?_⟩
  exact (Namespace.toList_ofList_perm (refusing_eq_ok.mp listed)).map (·.1)

/-- A description with a type that refers to itself. -/
def sampleDescription : Value := .object [
  ("types", .object [("Node", .object [("label", .string "string"), ("size", .string "number"),
    ("links", .list [.string "Node"])])]),
  ("methods", .object [("graph.add", .object [("params", .object [
    ("node", .object [("type", .string "Node"), ("def_order", .int 1)])])])])]

def sampleNode : RecordType :=
  ⟨"Node", [("label", .primitive .string), ("size", .primitive .number),
    ("links", .array (.named "Node"))]⟩

def sampleMethod : Method where
  name := "graph.add"
  params := [{ name := "node", type := .named "Node", optional := false, docs := [] }]
  returns := none
  docs := []
  returnDocs := []
  docSource := .list []
  returnDocSource := .list []

def sampleClient : Client where
  serviceName := .string ""
  endpoint := "http://0.0.0.0:8080/"
  types := [sampleNode]
  methods := [("graph", .branch [("add", .leaf sampleMethod)])]

theorem sample_built :
    Client.build sampleDescription "http://0.0.0.0:8080/" = .ok sampleClient := by
  with_unfolding_all rfl

theorem regular_entries {v? : Option Value} {entries : List (String × Value)}
    (found : Value.entriesOrNone v? = .ok entries) (regular : ∀ v ∈ v?, v.isRegular = true) :
    (entries.map (·.1)).Nodup ∧ ∀ e ∈ entries, e.2.isRegular = true := by
  cases v? with
  | none =>
    obtain rfl := Except.ok.inj found
    simp
  | some v =>
    simp only [Value.entriesOrNone] at found
    split at found
    · obtain rfl := entries_eq_ok.mp found
      obtain ⟨keys, inside⟩ := Value.everywhere_object.mp (regular _ rfl)
      exact ⟨Value.isMapping_object.mp keys, inside⟩
    · obtain rfl := Except.ok.inj found
      simp

/-- The types of a client have different names, and so have the fields of each: they are the keys
of mappings. -/
theorem build_wellNamed {description : Value} {endpoint : String} {client : Client}
    (regular : description.isRegular = true)
    (built : Client.build description endpoint = .ok client) : WellNamed client.types := by
  obtain ⟨⟨fields, types, -, rfl, found, -, writtenTypes, -⟩, -⟩ := build_writtenIn built
  obtain ⟨-, inside⟩ := Value.everywhere_object.mp regular
  obtain ⟨names, typesRegular⟩ :=
    regular_entries found fun v here => inside _ (mem_of_lookup here)
  refine ⟨?_, fun type member => ?_⟩
  · have same := forall₂_map_eq (writtenTypes.imp fun _ _ h => h.1)
    rwa [same] at names
  · obtain ⟨e, entry, -, fields, isObject, written⟩ := forall₂_mem_right writtenTypes member
    have keys := (Value.everywhere_object.mp (isObject ▸ typesRegular e entry)).1
    have same := forall₂_map_eq (written.imp fun _ _ h => h.1)
    rw [RecordType.fieldNames, ← same]
    exact Value.isMapping_object.mp keys

end ServiceClient

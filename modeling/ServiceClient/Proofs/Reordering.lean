import Mathlib.Data.List.Perm.Basic
import ServiceClient.Form.Control
import ServiceClient.Proofs.Acceptance
import ServiceClient.Proofs.Namespaces
import ServiceClient.Proofs.Pages

/-!
The order in which a description has its entries. The types, the methods, and the parameters of a
method may stand in any order (`ReorderedDescription`): every step of the reading ends well for both
orders or for none, and gives the same but for the order, until parameters are put in their places.
`build_reordered` says that the clients of both descriptions are of the same service.
-/

namespace ServiceClient

/-! ## Descriptions in another order -/

/-- Two values are the same, or mappings with related entries. -/
inductive EntriesRelated (related : List (String × Value) → List (String × Value) → Prop) :
    Value → Value → Prop
  | same (v : Value) : EntriesRelated related v v
  | object {entries entries' : List (String × Value)} (inside : related entries entries') :
      EntriesRelated related (.object entries) (.object entries')

/-- The values of a key may differ as a table says, and not at all if it says nothing. -/
def RelatedAt (changes : List (String × (Value → Value → Prop))) (key : String) :
    Value → Value → Prop :=
  (changes.lookup key).getD Eq

/-- Two mappings have the same keys in the same order, and the values of a key differ only as a
table says. -/
def Keywise (changes : List (String × (Value → Value → Prop))) : Value → Value → Prop :=
  EntriesRelated (List.Forall₂ fun e e' => e.1 = e'.1 ∧ RelatedAt changes e.1 e.2 e'.2)

/-- Two values are the same, but for the order of their entries if they are mappings. -/
def Reordered : Value → Value → Prop := EntriesRelated List.Perm

/-- Two entries of methods are the same but for the order of the parameters. -/
def ReorderedMethod : Value → Value → Prop := Keywise [("params", Reordered)]

/-- Two lists of methods are the same but for their order and that of the parameters of each. -/
def SameMethods (entries entries' : List (String × Value)) : Prop :=
  ∃ between, List.Forall₂ (fun e e' => e.1 = e'.1 ∧ ReorderedMethod e.2 e'.2) entries between ∧
    between.Perm entries'

/-- Two descriptions are the same but for the order of the types, of the methods, and of the
parameters of each method. -/
def ReorderedDescription : Value → Value → Prop :=
  Keywise [("types", Reordered), ("methods", EntriesRelated SameMethods)]

section

variable {related : List (String × Value) → List (String × Value) → Prop}
  {changes : List (String × (Value → Value → Prop))} {v v' : Value}

theorem EntriesRelated.symm (back : ∀ entries entries', related entries entries' →
    related entries' entries) (forth : EntriesRelated related v v') :
    EntriesRelated related v' v := by
  cases forth with
  | same => exact .same v
  | object inside => exact .object (back _ _ inside)

theorem Keywise.symm (back : ∀ e ∈ changes, ∀ v v', e.2 v v' → e.2 v' v)
    (forth : Keywise changes v v') : Keywise changes v' v := by
  refine EntriesRelated.symm (fun entries entries' inside => (inside.imp ?_).flip) forth
  rintro ⟨key, v⟩ ⟨key', v'⟩ ⟨rfl, values⟩
  refine ⟨rfl, ?_⟩
  unfold RelatedAt at values ⊢
  cases found : changes.lookup key with
  | none => rw [found] at values; exact values.symm
  | some change => rw [found] at values; exact back _ (mem_of_lookup found) _ _ values

theorem Reordered.symm (forth : Reordered v v') : Reordered v' v :=
  EntriesRelated.symm (fun _ _ order => order.symm) forth

theorem ReorderedMethod.symm (forth : ReorderedMethod v v') : ReorderedMethod v' v :=
  Keywise.symm (List.forall_mem_singleton.mpr fun _ _ => Reordered.symm) forth

theorem SameMethods.symm {entries entries' : List (String × Value)}
    (forth : SameMethods entries entries') : SameMethods entries' entries := by
  obtain ⟨between, renewed, order⟩ := forth
  obtain ⟨between', renewed', order'⟩ := List.perm_comp_forall₂ order.symm renewed.flip
  refine ⟨between', renewed'.imp ?_, order'⟩
  rintro e e' ⟨key, method⟩
  exact ⟨key.symm, method.symm⟩

theorem ReorderedDescription.symm (forth : ReorderedDescription v v') :
    ReorderedDescription v' v := by
  refine Keywise.symm (List.forall_mem_cons.mpr ⟨fun _ _ => Reordered.symm,
    List.forall_mem_singleton.mpr fun _ _ => ?_⟩) forth
  exact EntriesRelated.symm fun _ _ => SameMethods.symm

end

/-! ## Reading entries -/

section

variable {ε α β : Type} {f : α → Except ε β} {xs xs' : List α} {ys : List β}

/-- Steps on the items of a list give the same in another order of the items. -/
theorem mapM_perm (order : xs.Perm xs') (done : xs.mapM f = .ok ys) :
    ∃ ys', xs'.mapM f = .ok ys' ∧ ys.Perm ys' := by
  obtain ⟨ys', all, order'⟩ := List.perm_comp_forall₂ order.symm (mapM_eq_ok.mp done)
  exact ⟨ys', mapM_eq_ok.mpr all, order'.symm⟩

/-- Items may be replaced by others on which a step does the same if it ends well. -/
theorem mapM_replaced {R : α → α → Prop} (related : List.Forall₂ R xs xs')
    (same : ∀ x x' y, R x x' → f x = .ok y → f x' = .ok y) (done : xs.mapM f = .ok ys) :
    xs'.mapM f = .ok ys := by
  rw [mapM_eq_ok] at done ⊢
  refine (forall₂_trans related.flip done).imp ?_
  rintro x' y ⟨x, pair, here⟩
  exact same x x' y pair here

end

theorem lookup_perm {α : Type} {entries entries' : List (String × α)}
    (distinct : (entries.map (·.1)).Nodup) (order : entries.Perm entries') (key : String) :
    entries.lookup key = entries'.lookup key := by
  have distinct' : (entries'.map (·.1)).Nodup := (order.map (·.1)).nodup_iff.mp distinct
  apply Option.ext
  intro a
  rw [lookup_eq_some_iff_mem distinct, lookup_eq_some_iff_mem distinct', order.mem_iff]

/-- The values of a key in two mappings are related as the table says. -/
theorem lookup_keywise {changes : List (String × (Value → Value → Prop))}
    {fields fields' : List (String × Value)}
    (related : List.Forall₂ (fun e e' => e.1 = e'.1 ∧ RelatedAt changes e.1 e.2 e'.2)
      fields fields') (key : String) :
    Option.Rel (RelatedAt changes key) (fields.lookup key) (fields'.lookup key) := by
  rcases forall₂_lookup related (fun _ _ pair => pair.1) key with
    ⟨absent, absent'⟩ | ⟨v, v', found, found', -, values⟩
  · rw [absent, absent']
    exact .none
  · rw [found, found']
    exact .some values

/-- A key of which a table says nothing has one value in both mappings. -/
theorem lookup_keywise_eq {changes : List (String × (Value → Value → Prop))}
    {fields fields' : List (String × Value)}
    (related : List.Forall₂ (fun e e' => e.1 = e'.1 ∧ RelatedAt changes e.1 e.2 e'.2)
      fields fields')
    (key : String) (unchanged : changes.lookup key = none) :
    fields.lookup key = fields'.lookup key := by
  rcases forall₂_lookup related (fun _ _ pair => pair.1) key with
    ⟨absent, absent'⟩ | ⟨v, v', found, found', -, values⟩
  · rw [absent, absent']
  · rw [RelatedAt, unchanged] at values
    exact found.trans ((congrArg some values).trans found'.symm)

theorem entriesOrNone_related {related : List (String × Value) → List (String × Value) → Prop}
    (reflexive : ∀ entries, related entries entries)
    (size : ∀ entries entries', related entries entries' → entries.length = entries'.length)
    {v? v'? : Option Value} (both : Option.Rel (EntriesRelated related) v? v'?)
    {entries : List (String × Value)} (found : Value.entriesOrNone v? = .ok entries) :
    ∃ entries', Value.entriesOrNone v'? = .ok entries' ∧ related entries entries' := by
  cases both with
  | none => exact ⟨entries, found, reflexive entries⟩
  | some values =>
    cases values with
    | same v => exact ⟨entries, found, reflexive entries⟩
    | @object given given' inside =>
      cases given with
      | nil =>
        obtain rfl : given' = [] := List.length_eq_zero_iff.mp (size _ _ inside).symm
        exact ⟨entries, found, reflexive entries⟩
      | cons e rest =>
        obtain rfl : e :: rest = entries := Except.ok.inj found
        obtain ⟨e', rest', rfl⟩ : ∃ e' rest', given' = e' :: rest' := by
          cases given' with
          | nil => cases size _ _ inside
          | cons e' rest' => exact ⟨e', rest', rfl⟩
        exact ⟨_, rfl, inside⟩

theorem entriesOrNone_perm {v? v'? : Option Value} (both : Option.Rel Reordered v? v'?)
    {entries : List (String × Value)} (found : Value.entriesOrNone v? = .ok entries) :
    ∃ entries', Value.entriesOrNone v'? = .ok entries' ∧ entries.Perm entries' :=
  entriesOrNone_related List.Perm.refl (fun _ _ => List.Perm.length_eq) both found

/-! ## Parameters -/

/-- A parameter is what is read from an entry. -/
def ParameterDescription.ReadAs (e : String × Value) (p : ParameterDescription) : Prop :=
  ∃ fields, e.2 = .object fields ∧ fields.lookup "def_order" = some (.int p.order) ∧
    ParameterDescription.read e.1 p.order fields = .ok p

theorem read_order {name : String} {order : Int} {fields : List (String × Value)}
    {p : ParameterDescription} (read : ParameterDescription.read name order fields = .ok p) :
    p.order = order := by
  obtain ⟨type, -, same⟩ := bind_eq_ok.mp read
  obtain rfl := pure_eq_ok.mp same
  rfl

theorem isFree_iff {known : List ParameterDescription} {p : ParameterDescription}
    (distinct : (known.map (·.order)).Nodup) :
    ¬known.any (·.order == p.order) = true ↔ ((known ++ [p]).map (·.order)).Nodup := by
  rw [List.map_append, List.nodup_append]
  simp [distinct]

/-- Parameters are read if and only if each is and no place is used twice. -/
theorem readAll_iff {method : String} {known all : List ParameterDescription}
    {entries : List (String × Value)} (distinct : (known.map (·.order)).Nodup) :
    ParameterDescription.readAll method known entries = .ok all ↔
      ∃ read, all = known ++ read ∧ List.Forall₂ ParameterDescription.ReadAs entries read ∧
        (all.map (·.order)).Nodup := by
  induction entries generalizing known with
  | nil =>
    constructor
    · intro done
      obtain rfl := Except.ok.inj done
      exact ⟨[], by simp, .nil, distinct⟩
    · rintro ⟨read, rfl, made, -⟩
      cases made
      simp [ParameterDescription.readAll]
  | cons e rest ih =>
    obtain ⟨name, raw⟩ := e
    rw [ParameterDescription.readAll]
    constructor
    · intro done
      obtain ⟨fields, isObject, done⟩ := bind_eq_ok.mp done
      split at done
      · rename_i order ordered
        split at done
        · cases done
        · rename_i free
          obtain ⟨p, here, later⟩ := bind_eq_ok.mp done
          obtain rfl := read_order here
          obtain ⟨read, rfl, others, nodup⟩ := (ih ((isFree_iff distinct).mp free)).mp later
          exact ⟨p :: read, by simp,
            .cons ⟨fields, entries_eq_ok.mp isObject, ordered, here⟩ others, nodup⟩
      · cases done
    · rintro ⟨_ | ⟨p, read⟩, rfl, made, nodup⟩
      · cases made
      · obtain ⟨⟨fields, isObject, ordered, here⟩, others⟩ := List.forall₂_cons.mp made
        obtain rfl : raw = .object fields := isObject
        have distinct' : ((known ++ [p]).map (·.order)).Nodup :=
          nodup.sublist (by simp)
        have entries : (Value.object fields).entries = .ok fields := rfl
        rw [entries, ok_bind]
        simp only [ordered]
        rw [if_neg ((isFree_iff distinct).mpr distinct'), here, ok_bind]
        exact (ih distinct').mpr ⟨read, by simp, others, nodup⟩

/-- Parameters with different places are in one call order. -/
theorem inOrder_perm {method : String} {params params' : List ParameterDescription}
    (distinct : (params.map (·.order)).Nodup) (order : params.Perm params') :
    ParameterDescription.inOrder method params = ParameterDescription.inOrder method params' := by
  have sorted (params : List ParameterDescription) :
      (params.mergeSort (·.order ≤ ·.order)).Pairwise (·.order ≤ ·.order) := by
    refine (List.pairwise_mergeSort ?_ ?_ params).imp ?_
    · intro a b c
      simpa using Int.le_trans
    · intro a b
      simpa using Int.le_total a.order b.order
    · intro a b
      exact of_decide_eq_true
  have permuted := List.mergeSort_perm params (·.order ≤ ·.order)
  have permuted' := List.mergeSort_perm params' (·.order ≤ ·.order)
  have same : params.mergeSort (·.order ≤ ·.order) = params'.mergeSort (·.order ≤ ·.order) := by
    refine (permuted.trans (order.trans permuted'.symm)).eq_of_pairwise ?_ (sorted _) (sorted _)
    intro p q inside inside' le ge
    exact List.inj_on_of_nodup_map distinct (permuted.mem_iff.mp inside)
      (order.mem_iff.mpr (permuted'.mem_iff.mp inside')) (Int.le_antisymm le ge)
  rw [ParameterDescription.inOrder, ParameterDescription.inOrder, same, order.length_eq]

/-! ## Methods and types -/

/-- The same is read from an entry of a method in which the parameters have another order. -/
theorem methodDescription_read_reordered {name : String} {raw raw' : Value} {m : MethodDescription}
    (reordered : ReorderedMethod raw raw') (read : MethodDescription.read name raw = .ok m) :
    MethodDescription.read name raw' = .ok m := by
  cases reordered with
  | same => exact read
  | @object fields fields' related =>
    have result := lookup_keywise_eq related "ret_info" (by decide)
    have docs := lookup_keywise_eq related "doc_lines" (by decide)
    have params : Option.Rel Reordered _ _ := lookup_keywise related "params"
    simp only [MethodDescription.read, Value.entries, ok_bind] at read ⊢
    rw [← result, ← docs]
    obtain ⟨returned, resultFound, read⟩ := bind_eq_ok.mp read
    obtain ⟨returns, returnsRead, read⟩ := bind_eq_ok.mp read
    obtain ⟨entries, found, read⟩ := bind_eq_ok.mp read
    obtain ⟨all, allRead, read⟩ := bind_eq_ok.mp read
    obtain ⟨entries', found', order⟩ := entriesOrNone_perm params found
    have none : (([] : List ParameterDescription).map (·.order)).Nodup := List.nodup_nil
    obtain ⟨_, rfl, made, distinct⟩ := (readAll_iff none).mp allRead
    obtain ⟨params', made', order'⟩ := List.perm_comp_forall₂ order.symm made
    have distinct' := (order'.symm.map (·.order)).nodup_iff.mp distinct
    have allRead' : ParameterDescription.readAll name [] entries' = .ok params' :=
      (readAll_iff none).mpr ⟨params', rfl, made', distinct'⟩
    rw [resultFound, ok_bind, returnsRead, ok_bind, found', ok_bind, allRead', ok_bind,
      ← inOrder_perm distinct order'.symm]
    exact read

theorem sameMethods_refl (entries : List (String × Value)) : SameMethods entries entries :=
  ⟨entries, List.forall₂_same.mpr fun _ _ => ⟨rfl, .same _⟩, .refl _⟩

theorem SameMethods.length_eq {entries entries' : List (String × Value)}
    (same : SameMethods entries entries') : entries.length = entries'.length := by
  obtain ⟨between, renewed, order⟩ := same
  rw [renewed.length_eq, order.length_eq]

theorem resolve_perm {declared declared' : List String} (order : declared.Perm declared')
    (r : Reference × Option TypeRef) :
    ServiceDescription.resolve declared r = ServiceDescription.resolve declared' r := by
  obtain ⟨place, t?⟩ := r
  simp only [ServiceDescription.resolve, order.mem_iff]

/-- From a description in another order the same types and methods are read, in another order. -/
theorem service_read_reordered {description description' : Value} {service : ServiceDescription}
    (reordered : ReorderedDescription description description')
    (read : ServiceDescription.read description = .ok service) :
    ∃ types methods, service.types.Perm types ∧ service.methods.Perm methods ∧
      ServiceDescription.read description' =
        .ok { service with types := types, methods := methods } := by
  cases reordered with
  | same => exact ⟨_, _, .refl _, .refl _, read⟩
  | @object fields fields' related =>
    have name := lookup_keywise_eq related "servicename" (by decide)
    have url := lookup_keywise_eq related "url" (by decide)
    have typesRelated : Option.Rel Reordered _ _ := lookup_keywise related "types"
    have methodsRelated : Option.Rel (EntriesRelated SameMethods) _ _ :=
      lookup_keywise related "methods"
    simp only [ServiceDescription.read] at read ⊢
    obtain ⟨rawMethods, methodsFound, read⟩ := bind_eq_ok.mp read
    obtain ⟨methods, methodsRead, read⟩ := bind_eq_ok.mp read
    obtain ⟨rawTypes, typesFound, read⟩ := bind_eq_ok.mp read
    obtain ⟨types, typesRead, read⟩ := bind_eq_ok.mp read
    obtain ⟨references, referred, read⟩ := bind_eq_ok.mp read
    obtain ⟨_, resolved, read⟩ := bind_eq_ok.mp read
    obtain rfl := pure_eq_ok.mp read
    obtain ⟨rawMethods', methodsFound', between, renewed, methodsOrder⟩ :=
      entriesOrNone_related sameMethods_refl (fun _ _ => SameMethods.length_eq) methodsRelated
        methodsFound
    have betweenRead := mapM_replaced renewed (fun e e' m pair here => by
      rw [← pair.1]
      exact methodDescription_read_reordered pair.2 here) methodsRead
    obtain ⟨methods', methodsRead', methodsOrder'⟩ := mapM_perm methodsOrder betweenRead
    obtain ⟨rawTypes', typesFound', typesOrder⟩ := entriesOrNone_perm typesRelated typesFound
    obtain ⟨types', typesRead', typesOrder'⟩ := mapM_perm typesOrder typesRead
    obtain ⟨references', referred', referencesOrder⟩ :=
      mapM_perm methodsOrder' (refusing_eq_ok.mp referred)
    have places := (typesOrder'.flatMap_right fun type => type.2.map fun field =>
      (Reference.field type.1 field.1, field.2)).append referencesOrder.flatten
    have resolved' := forM_eq_ok.mp ⟨_, refusing_eq_ok.mp resolved⟩
    obtain ⟨_, resolved'⟩ := forM_eq_ok.mpr fun r inside =>
      (resolve_perm (typesOrder'.map (·.1)) r).symm.trans (resolved' r (places.mem_iff.mpr inside))
    refine ⟨types', methods', typesOrder', methodsOrder', ?_⟩
    rw [methodsFound', ok_bind, methodsRead', ok_bind, typesFound', ok_bind, typesRead', ok_bind,
      refusing_eq_ok.mpr referred', ok_bind, refusing_eq_ok.mpr resolved', ok_bind, ← name, ← url]
    rfl

/-! ## Clients -/

theorem findType?_perm {types types' : List RecordType} (names : (types.map (·.name)).Nodup)
    (order : types.Perm types') (name : String) : findType? types name = findType? types' name := by
  have names' : (types'.map (·.name)).Nodup := (order.map (·.name)).nodup_iff.mp names
  apply Option.ext
  intro type
  constructor
  · intro found
    obtain ⟨inside, rfl⟩ := mem_of_findType? found
    exact findType?_name names' (order.mem_iff.mp inside)
  · intro found
    obtain ⟨inside, rfl⟩ := mem_of_findType? found
    exact findType?_name names (order.mem_iff.mpr inside)

section

variable {types types' : List RecordType}

mutual

/-- Records are made of a plain value by the types that names stand for, wherever these are. -/
theorem ofWire_eq_of_findType? (same : ∀ name, findType? types name = findType? types' name)
    (t : TypeRef) : (v : Value) → v.ofWire types t = v.ofWire types' t
  | .list items => by
    cases t with
    | array element =>
      rw [Value.ofWire, Value.ofWire, ofWireItems_eq_of_findType? same element items]
    | primitive kind | named name => simp [Value.ofWire]
  | .object entries => by
    cases t with
    | named name =>
      rw [Value.ofWire, Value.ofWire, same name]
      cases findType? types' name with
      | none => rfl
      | some type =>
        dsimp only
        rw [ofWireEntries_eq_of_findType? same type.fields entries]
    | primitive kind | array element => simp [Value.ofWire]
  | .tuple _ | .record .. | .null | .bool _ | .int _ | .float _ | .string _ | .absent
  | .typeObject _ => by cases t <;> simp [Value.ofWire]

theorem ofWireItems_eq_of_findType? (same : ∀ name, findType? types name = findType? types' name)
    (element : TypeRef) :
    (items : List Value) → ofWireItems types element items = ofWireItems types' element items
  | [] => rfl
  | v :: vs => by
    rw [ofWireItems, ofWireItems, ofWire_eq_of_findType? same element v,
      ofWireItems_eq_of_findType? same element vs]

theorem ofWireEntries_eq_of_findType? (same : ∀ name, findType? types name = findType? types' name)
    (fields : List (String × TypeRef)) : (entries : List (String × Value)) →
      ofWireEntries types fields entries = ofWireEntries types' fields entries
  | [] => rfl
  | (key, v) :: rest => by
    rw [ofWireEntries, ofWireEntries, ofWireEntries_eq_of_findType? same fields rest]
    cases fields.lookup key with
    | none => rfl
    | some t =>
      dsimp only
      rw [ofWire_eq_of_findType? same t v]

end

theorem ofType_named (frames : List RecordType) (name : String) :
    Control.ofType frames (.named name) =
      match findType? frames name with
      | none => .object name
      | some type => .frame type (type.fields.map fun f =>
          (f.1, Control.ofType (withoutType frames name) f.2)) := by
  rw [Control.ofType]
  split <;> simp [*]

/-- The control for a type does not depend on the order of the types that may be framed. -/
theorem ofType_perm {frames frames' : List RecordType} (names : (frames.map (·.name)).Nodup)
    (order : frames.Perm frames') (t : TypeRef) :
    Control.ofType frames t = Control.ofType frames' t := by
  fun_induction Control.ofType frames t generalizing frames' with
  | case1 frames kind => rw [Control.ofType]
  | case2 frames element => rw [Control.ofType]
  | case3 frames name undeclared => rw [ofType_named, ← findType?_perm names order, undeclared]
  | case4 frames name type declared ih =>
    rw [ofType_named, ← findType?_perm names order, declared]
    have fewer : ((withoutType frames name).map (·.name)).Nodup :=
      names.sublist (List.filter_sublist.map _)
    have order' : (withoutType frames name).Perm (withoutType frames' name) := order.filter _
    refine congrArg _ (List.map_congr_left fun field _ => ?_)
    exact congrArg (field.1, ·) (ih field.2 fewer order')

end

/-- Two clients are of the same service: one can stand for the other wherever types are looked up,
methods are found, forms are made and calls are sent. -/
structure SameService (client client' : Client) : Prop where
  serviceName : client.serviceName = client'.serviceName
  endpoint : client.endpoint = client'.endpoint
  /-- The types are the same, each with its fields in their order, under the same names. -/
  types : client.types.Perm client'.types
  type : ∀ name, findType? client.types name = findType? client'.types name
  converted : ∀ (v : Value) t, v.ofWire client.types t = v.ofWire client'.types t
  control : ∀ t, Control.ofType client.types t = Control.ofType client'.types t
  namespaces : SameTree (.branch client.methods) (.branch client'.methods)
  /-- Under a name there is the same method, with its parameters in the same order, its signature
  and its documentation. -/
  method : ∀ name, client.method? name = client'.method? name
  call : ∀ m args named link, client.call m args named link = client'.call m args named link

theorem call_eq_of_endpoint {client client' : Client} (same : client.endpoint = client'.endpoint)
    (m : Method) (args : List Value) (named : List (String × Value)) (link : Link) :
    client.call m args named link = client'.call m args named link := by
  simp only [Client.call, Client.send, Client.post, same]

namespace Namespace

theorem ofList_isOk_iff_apart {items : List (String × Method)} :
    (∃ members, ofList items = .ok members) ↔ items.Pairwise fun a b => Apart a.1 b.1 :=
  foldlM_isOk lists_nil .nil

/-- Methods that make a namespace make one in every order. -/
theorem ofList_perm {items items' : List (String × Method)} {members : Namespace Method}
    (order : items.Perm items') (built : ofList items = .ok members) :
    ∃ members', ofList items' = .ok members' := by
  have apart := ofList_isOk_iff_apart.mp ⟨members, built⟩
  exact ofList_isOk_iff_apart.mpr (apart.perm order And.symm)

theorem ofList_nodup {items : List (String × Method)} {members : Namespace Method}
    (built : ofList items = .ok members) : (items.map (·.1)).Nodup := by
  refine List.pairwise_map.mpr ((ofList_isOk_iff_apart.mp ⟨members, built⟩).imp ?_)
  intro a b apart same
  exact apart.1 (same ▸ List.prefix_refl _)

end Namespace

/-- From a description in another order a client of the same service is built. -/
theorem build_sameService {description description' : Value} {endpoint : String} {client : Client}
    (reordered : ReorderedDescription description description')
    (built : Client.build description endpoint = .ok client) :
    ∃ client', Client.build description' endpoint = .ok client' ∧
      ((client.types.map (·.name)).Nodup → SameService client client') := by
  obtain ⟨service, read, rest⟩ := bind_eq_ok.mp built
  obtain ⟨types, typesMade, rest⟩ := bind_eq_ok.mp rest
  obtain ⟨items, itemsMade, rest⟩ := bind_eq_ok.mp rest
  obtain ⟨members, listed, same⟩ := bind_eq_ok.mp rest
  obtain rfl := pure_eq_ok.mp same
  rw [refusing_eq_ok] at listed
  obtain ⟨typesRead', methodsRead', typesOrder, methodsOrder, read'⟩ :=
    service_read_reordered reordered read
  obtain ⟨types', typesMade', order⟩ := mapM_perm typesOrder typesMade
  obtain ⟨items', itemsMade', itemsOrder⟩ := mapM_perm methodsOrder itemsMade
  obtain ⟨members', listed'⟩ := Namespace.ofList_perm itemsOrder listed
  refine ⟨⟨service.name, endpoint, types', members'⟩, ?_, fun typeNames => ?_⟩
  · rw [Client.build, read', ok_bind, typesMade', ok_bind, itemsMade', ok_bind,
      refusing_eq_ok.mpr listed']
    rfl
  · have methods : ∀ name, (Namespace.toList "" members).lookup name =
        (Namespace.toList "" members').lookup name := by
      have lists := Namespace.toList_ofList_perm listed
      have lists' := Namespace.toList_ofList_perm listed'
      have distinct := (lists.map (·.1)).nodup_iff.mpr (Namespace.ofList_nodup listed)
      exact lookup_perm distinct (lists.trans (itemsOrder.trans lists'.symm))
    exact {
      serviceName := rfl
      endpoint := rfl
      types := order
      type := findType?_perm typeNames order
      converted := fun v t => ofWire_eq_of_findType? (findType?_perm typeNames order) t v
      control := ofType_perm typeNames order
      namespaces := Namespace.ofList_sameTree itemsOrder listed listed'
      method := methods
      call := call_eq_of_endpoint rfl }

/-- A client is built of a description if and only if one is built of the description in another
order, and both are clients of the same service. -/
theorem build_reordered {description description' : Value} (endpoint : String)
    (regular : description.isRegular = true)
    (reordered : ReorderedDescription description description') :
    ((∃ client, Client.build description endpoint = .ok client) ↔
        ∃ client', Client.build description' endpoint = .ok client') ∧
      ∀ client client', Client.build description endpoint = .ok client →
        Client.build description' endpoint = .ok client' → SameService client client' := by
  constructor
  · constructor
    · rintro ⟨client, built⟩
      obtain ⟨client', built', -⟩ := build_sameService reordered built
      exact ⟨client', built'⟩
    · rintro ⟨client', built'⟩
      obtain ⟨client, built, -⟩ := build_sameService reordered.symm built'
      exact ⟨client, built⟩
  · intro client client' built built'
    obtain ⟨_, built'', same⟩ := build_sameService reordered built
    obtain rfl := Except.ok.inj (built'.symm.trans built'')
    exact same (build_wellNamed regular built).names

section

/-! The types, the methods, and the parameters of a method stand in reverse. -/

def shapeTypes : List (String × Value) := [
  ("Segment", .object [("start", .string "Point"), ("end", .string "Point")]),
  ("Point", .object [("x", .string "number"), ("y", .string "number")])]

def distanceParams : List (String × Value) := [
  ("b", .object [("type", .string "Point"), ("def_order", .int 2)]),
  ("a", .object [("type", .string "Point"), ("def_order", .int 1)])]

def shapeMethods (distance : List (String × Value)) : List (String × Value) := [
  ("shape.distance", .object [("params", .object distance)]),
  ("shape.length", .object [("params", .object [
    ("of", .object [("type", .string "Segment"), ("def_order", .int 1)])])])]

def shapeDescription (types methods : List (String × Value)) : Value :=
  .object [("types", .object types), ("methods", .object methods)]

def shapes : Value := shapeDescription shapeTypes (shapeMethods distanceParams)

def reversedShapes : Value :=
  shapeDescription shapeTypes.reverse (shapeMethods distanceParams.reverse).reverse

theorem shapes_reordered : ReorderedDescription shapes reversedShapes := by
  have methods : SameMethods (shapeMethods distanceParams)
      (shapeMethods distanceParams.reverse).reverse := by
    refine ⟨shapeMethods distanceParams.reverse, ?_, (List.reverse_perm _).symm⟩
    refine .cons ⟨rfl, ?_⟩ (.cons ⟨rfl, .same _⟩ .nil)
    exact .object (.cons ⟨rfl, .object (List.reverse_perm _).symm⟩ .nil)
  refine .object (.cons ⟨rfl, ?_⟩ (.cons ⟨rfl, .object methods⟩ .nil))
  exact .object (List.reverse_perm _).symm

theorem shapes_documented : Documented shapes where
  isObject := rfl
  types := by decide
  typeNames := by decide
  methods := by decide
  eachMethod := by
    refine List.forall_mem_cons.mpr ⟨?_, List.forall_mem_singleton.mpr ?_⟩
    · exact ⟨by decide, by decide, by decide, by decide, by decide⟩
    · exact ⟨by decide, by decide, by decide, by decide, by decide⟩

theorem shapes_wellFormed : WellFormed shapes where
  fieldTypes := by
    refine List.forall_mem_cons.mpr ⟨?_, List.forall_mem_singleton.mpr ?_⟩
    · refine List.forall_mem_cons.mpr ⟨⟨_, rfl, by decide⟩, List.forall_mem_singleton.mpr ?_⟩
      exact ⟨_, rfl, by decide⟩
    · refine List.forall_mem_cons.mpr ⟨⟨_, rfl, by decide⟩, List.forall_mem_singleton.mpr ?_⟩
      exact ⟨_, rfl, by decide⟩
  fieldNames := by decide
  eachMethod := by
    refine List.forall_mem_cons.mpr ⟨⟨?_, .inl rfl, ?_⟩, List.forall_mem_singleton.mpr
      ⟨List.forall_mem_singleton.mpr ⟨_, rfl, by decide⟩, .inl rfl, .refl _⟩⟩
    · refine List.forall_mem_cons.mpr ⟨⟨_, rfl, by decide⟩, List.forall_mem_singleton.mpr ?_⟩
      exact ⟨_, rfl, by decide⟩
    · exact .swap _ _ _
  methodNames := by decide

theorem build_reordered_shapes :
    shapes.isRegular = true ∧ ReorderedDescription shapes reversedShapes ∧
      ∃ client client', Client.build shapes "http://0.0.0.0:8080/" = .ok client ∧
        Client.build reversedShapes "http://0.0.0.0:8080/" = .ok client' ∧
        SameService client client' := by
  have regular : shapes.isRegular = true := by decide
  obtain ⟨both, same⟩ := build_reordered "http://0.0.0.0:8080/" regular shapes_reordered
  rcases build_decided "http://0.0.0.0:8080/" regular shapes_documented with
    ⟨-, client, built, -⟩ | ⟨malformed, -⟩
  · obtain ⟨client', built'⟩ := both.mp ⟨client, built⟩
    exact ⟨regular, shapes_reordered, client, client', built, built',
      same client client' built built'⟩
  · exact absurd shapes_wellFormed malformed

end

end ServiceClient

import ServiceClient.Proofs.Described
import ServiceClient.Proofs.SessionCalls

/-!
Worlds in which the types are as they were declared. `World.Changes` is the frame of what is done in
a world: the types stay, and of the objects that were there only some are replaced. As long as
nothing but records has changed since the start (`World.Declares`), nothing that could be set on a
type is in the way, and the members of a record are what its type and its fields say.
-/

namespace ServiceClient

/-! ## What changes in a world -/

/-- A world goes on from another: only objects with these numbers, and new ones, are not what they
were. -/
structure World.Changes (written : List Nat) (before after : World) : Prop where
  types : after.types = before.types
  absentType : after.absentType = before.absentType
  absentOwn : after.absentOwn = before.absentOwn
  size : before.objects.size ≤ after.objects.size
  kept : ∀ id, id < before.objects.size → id ∉ written → after.objects[id]? = before.objects[id]?

namespace World.Changes

variable {written written' : List Nat} {a b c : World}

theorem refl (written : List Nat) (world : World) : world.Changes written world :=
  ⟨rfl, rfl, rfl, Nat.le_refl _, fun _ _ _ => rfl⟩

theorem mono (changes : a.Changes written b) (more : ∀ id ∈ written, id ∈ written') :
    a.Changes written' b :=
  { changes with kept := fun id inside other => changes.kept id inside fun h => other (more id h) }

theorem trans (first : a.Changes written b) (second : b.Changes written c) :
    a.Changes written c where
  types := second.types.trans first.types
  absentType := second.absentType.trans first.absentType
  absentOwn := second.absentOwn.trans first.absentOwn
  size := Nat.le_trans first.size second.size
  kept id inside other := (second.kept id (Nat.lt_of_lt_of_le inside first.size) other).trans
    (first.kept id inside other)

theorem getElem? (changes : a.Changes written b) {id : Nat} {object : Object}
    (here : a.objects[id]? = some object) (other : id ∉ written) :
    b.objects[id]? = some object :=
  (changes.kept id (Array.getElem?_eq_some_iff.mp here).1 other).trans here

end World.Changes

theorem changes_push (world : World) (object : Object) :
    world.Changes [] { world with objects := world.objects.push object } where
  types := rfl
  absentType := rfl
  absentOwn := rfl
  size := by simp
  kept id inside _ := by rw [Array.getElem?_push, if_neg (Nat.ne_of_lt inside)]

theorem changes_set (world : World) (id : Nat) (object : Object) :
    world.Changes [id] { world with objects := world.objects.setIfInBounds id object } where
  types := rfl
  absentType := rfl
  absentOwn := rfl
  size := by simp
  kept other inside apart := by
    exact Array.getElem?_setIfInBounds_ne fun same => apart (List.mem_singleton.mpr same.symm)

/-! ## The types of a world -/

/-- Types that a client can have: no name stands twice, and no field has a name that is taken. -/
structure WellDeclared (types : List RecordType) : Prop extends WellNamed types where
  unreserved : ∀ type ∈ types, ∀ field ∈ type.fieldNames, isReserved field = false

theorem ofDescription_unreserved {name : String} {fields : List (String × Option TypeRef)}
    {type : RecordType} (done : RecordType.ofDescription name fields = .ok type) :
    ∀ field ∈ type.fieldNames, isReserved field = false := by
  have typed := (recordType_ofDescription_eq_ok done).2
  have names : fields.map (·.1) = type.fieldNames :=
    forall₂_map_eq ((typedFields_eq_ok typed).imp fun _ _ here => here.1)
  have free : fields.find? (fun e => isReserved e.1) = none := by
    cases found : fields.find? fun e => isReserved e.1 with
    | none => rfl
    | some e =>
      rw [RecordType.ofDescription, found] at done
      cases done
  intro field member
  obtain ⟨e, entry, rfl⟩ := List.mem_map.mp (names ▸ member)
  simpa using List.find?_eq_none.mp free e entry

theorem build_wellDeclared {description : Value} {endpoint : String} {client : Client}
    (regular : description.isRegular = true)
    (built : Client.build description endpoint = .ok client) : WellDeclared client.types := by
  refine ⟨build_wellNamed regular built, fun type member => ?_⟩
  obtain ⟨service, serviceRead, built⟩ := bind_eq_ok.mp built
  obtain ⟨types, typesMade, built⟩ := bind_eq_ok.mp built
  obtain ⟨methods, methodsMade, built⟩ := bind_eq_ok.mp built
  obtain ⟨members, listed, same⟩ := bind_eq_ok.mp built
  obtain rfl := pure_eq_ok.mp same
  obtain ⟨e, -, made⟩ := forall₂_mem_right (mapM_eq_ok.mp typesMade) member
  exact ofDescription_unreserved made

namespace World

/-- A world in which the types are as they were declared at the start. -/
def Declares (types : List RecordType) (world : World) : Prop :=
  (start types).Changes [(start types).absentOwn] world

/-- The state of a type as it is declared, with its mappings in a world. -/
def HasType (world : World) (type : RecordType) (fields checks : Nat) : Prop :=
  world.types.lookup type.name = some (declare type fields checks) ∧
    world.objects[fields]? = some (.mapping (type.fields.map fun f => (f.1, .declared f.2))) ∧
    world.objects[checks]? =
      some (.mapping (type.fields.map fun f => (f.1, .check (type.name ++ "." ++ f.1) f.2)))

theorem declares_start (types : List RecordType) : (start types).Declares types := .refl _ _

theorem fieldMappings_getElem? {types : List RecordType} {i : Nat} {type : RecordType}
    (here : types[i]? = some type) :
    (types.flatMap fieldMappings)[2 * i]? = (fieldMappings type)[0]? ∧
      (types.flatMap fieldMappings)[2 * i + 1]? = (fieldMappings type)[1]? := by
  induction types generalizing i with
  | nil => simp at here
  | cons t types ih =>
    cases i with
    | zero =>
      obtain rfl : t = type := by simpa using here
      exact ⟨rfl, rfl⟩
    | succ i => exact ih (by simpa using here)

/-- The state of a type at the start is as it was declared. -/
theorem start_lookup {types : List RecordType} {name : String} {state : TypeState}
    (found : (start types).types.lookup name = some state) :
    ∃ type fields checks, type ∈ types ∧ state = declare type fields checks := by
  obtain ⟨⟨type, i⟩, place, same⟩ := List.mem_map.mp (mem_of_lookup found)
  obtain ⟨rfl, rfl⟩ := Prod.mk.inj same
  exact ⟨type, _, _, (List.mem_zipIdx' place).2 ▸ List.getElem_mem _, rfl⟩

theorem hasType_start {types : List RecordType} (names : (types.map (·.name)).Nodup)
    {type : RecordType} (member : type ∈ types) :
    ∃ i < types.length, (start types).HasType type (2 * i + 2) (2 * i + 3) := by
  obtain ⟨i, inside, rfl⟩ := List.getElem_of_mem member
  have here : types[i]? = some types[i] := List.getElem?_eq_getElem inside
  obtain ⟨fields, checks⟩ := fieldMappings_getElem? here
  have keys : (start types).types.map (·.1) = types.map (·.name) := by
    have same := congrArg (List.map (·.name)) (List.zipIdx_map_fst 0 types)
    rw [List.map_map] at same
    rw [start, List.map_map]
    exact same
  refine ⟨i, inside, ?_, ?_, ?_⟩
  · rw [lookup_eq_some_iff_mem (keys ▸ names)]
    exact List.mem_map.mpr ⟨(types[i], i), List.mk_mem_zipIdx_iff_getElem?.mpr here, rfl⟩
  · simpa [start, fieldMappings] using fields
  · simpa [start, fieldMappings] using checks

/-- The object that an item is in a world. -/
def object? (world : World) : Item → Option Object
  | .object id => world.objects[id]?
  | .absent => world.absentType.map (.record · world.absentOwn)
  | _ => none

/-- The type of a record in a world. -/
def type? (world : World) (item : Item) : Option String :=
  match world.object? item with
  | some (.record type _) => some type
  | _ => none

/-- What is set in a world under a name on a type. -/
def setOn? (world : World) (type member : String) : Option Item :=
  (world.types.lookup type).bind (·.members.lookup member)

end World

/-- The names under which something is set on every declared type. -/
def Member.ofDeclared : List String :=
  [Member.typeName, Member.fields, Member.types, Member.checks, "__doc__", "__module__"]

theorem run_objectOf? (item : Item) (world : World) :
    (objectOf? item).run world = (.ok (world.object? item), world) := by
  cases item <;> rfl

theorem run_bind_objectOf? (item : Item) (next : Option Object → Run α) (world : World) :
    (objectOf? item >>= next).run world = (next (world.object? item)).run world := by
  rw [run_bind, run_objectOf?]

theorem run_typeOf? (item : Item) (world : World) :
    (typeOf? item).run world = (.ok (world.type? item), world) := by
  rw [typeOf?, run_bind_objectOf?, World.type?]
  cases world.object? item with
  | none => rfl
  | some object => cases object <;> rfl

section

variable {ε σ α : Type} {s s' : σ} {a : α}

theorem run_tryCatch {attempt : ExceptT ε (StateM σ) α} {handle : ε → ExceptT ε (StateM σ) α}
    (done : attempt.run s = (.ok a, s')) : (tryCatch attempt handle).run s = (.ok a, s') := by
  rw [ExceptT.run_tryCatch]
  change (match attempt.run s with
    | (r, s') => (match r with
      | .ok a => pure (.ok a)
      | .error e => (handle e).run : StateM σ (Except ε α)) s') = _
  rw [done]
  rfl

theorem run_discard {act : ExceptT ε (StateM σ) α} (done : act.run s = (.ok a, s')) :
    (discard act).run s = (.ok (), s') := by
  change (act >>= fun _ => pure ()).run s = _
  rw [run_bind, done]
  rfl

end

section

variable {α β : Type} {world : World}

/-- What leaves a world as it is. -/
def Leaves (world : World) (act : Run α) : Prop := (act.run world).2 = world

theorem leaves_of_run {act : Run α} {r : Except Failure α} (done : act.run world = (r, world)) :
    Leaves world act := by
  rw [Leaves, done]

theorem Leaves.bind {act : Run α} {next : α → Run β} (first : Leaves world act)
    (rest : ∀ a, act.run world = (.ok a, world) → Leaves world (next a)) :
    Leaves world (act >>= next) := by
  rw [Leaves] at first ⊢
  rw [run_bind]
  cases done : act.run world with
  | mk r world' =>
    rw [done] at first
    obtain rfl : world' = world := first
    cases r with
    | ok a => exact rest a done
    | error failure => rfl

theorem leaves_bind {act : Run α} {next : α → Run β} {a : α}
    (done : act.run world = (.ok a, world)) (rest : Leaves world (next a)) :
    Leaves world (act >>= next) := by
  rw [Leaves, run_bind, done]
  exact rest

theorem leaves_pure (a : α) : Leaves world (pure a : Run α) := rfl

theorem Leaves.discard {act : Run α} (leaves : Leaves world act) : Leaves world (discard act) :=
  leaves.bind fun _ _ => leaves_pure ()

theorem leaves_throw (failure : Failure) : Leaves world (throw failure : Run α) := rfl

end

theorem run_entriesAt {world : World} {own : Nat} {entries : List (String × Item)}
    (here : world.objects[own]? = some (.mapping entries)) :
    (entriesAt own).run world = (.ok entries, world) := by
  rw [entriesAt, run_bind, run_get]
  simp only [here]
  rfl

/-! ## Mappings -/

section

variable {world : World} {id : Nat} {entries : List (String × Item)} (call : Call)
  (here : world.objects[id]? = some (.mapping entries))

include here

theorem run_length :
    (length call (.object id)).run world = (.ok entries.length, world) := by
  unfold length
  rw [run_bind_objectOf?, World.object?, here]
  rfl

theorem run_itemsOf :
    (itemsOf call (.object id)).run world = (.ok (entries.map fun e => .string e.1), world) := by
  unfold itemsOf
  rw [run_bind_objectOf?, World.object?, here]
  rfl

theorem run_entriesOf :
    (entriesOf call (.object id)).run world = (.ok entries, world) := by
  rw [entriesOf, run_bind_objectOf?, World.object?, here]
  rfl

theorem run_contains (name : String) :
    (contains call (.object id) name).run world =
      (.ok (entries.lookup name).isSome, world) := by
  unfold contains
  rw [run_bind_objectOf?, World.object?, here]
  rfl

theorem run_itemAt {name : String} {item : Item} (found : entries.lookup name = some item) :
    (itemAt call (.object id) name).run world = (.ok item, world) := by
  unfold itemAt
  rw [run_bind_objectOf?, World.object?, here]
  simp only [found]
  rfl

theorem run_entryOrNull (name : String) :
    (entryOrNull call (.object id) name).run world =
      (.ok ((entries.lookup name).getD .null), world) := by
  rw [entryOrNull, run_bind_objectOf?, World.object?, here]
  rfl

end

namespace World.Declares

variable {types : List RecordType} {world : World}

theorem grows {world' : World} (declared : world.Declares types)
    (changes : world.Changes [] world') : world'.Declares types :=
  declared.trans (changes.mono fun _ among => absurd among List.not_mem_nil)

theorem hasType (declared : world.Declares types) (names : (types.map (·.name)).Nodup)
    {type : RecordType} (member : type ∈ types) :
    ∃ fields checks, world.HasType type fields checks := by
  obtain ⟨i, -, state, fields, checks⟩ := hasType_start names member
  refine ⟨2 * i + 2, 2 * i + 3, ?_, ?_, ?_⟩
  · rw [declared.types, state]
  · exact declared.getElem? fields (by simp [start])
  · exact declared.getElem? checks (by simp [start])

theorem typeTable (declared : world.Declares types) :
    world.objects[World.typeTable]? =
      some (.mapping (types.map fun type => (type.name, .type type.name))) :=
  declared.getElem? rfl (by simp [start, World.typeTable])

theorem bases (declared : world.Declares types) (name : String) : world.bases name = [] := by
  rw [World.bases, declared.types]
  cases found : (start types).types.lookup name with
  | none => rfl
  | some state =>
    obtain ⟨type, fields, checks, -, rfl⟩ := start_lookup found
    rfl

/-- Nothing but what the types were declared with is set on any of them. -/
theorem setOn?_eq_none (declared : world.Declares types) {member : String}
    (other : member ∉ Member.ofDeclared) (name : String) : world.setOn? name member = none := by
  rw [setOn?, declared.types]
  cases found : (start types).types.lookup name with
  | none => rfl
  | some state =>
    obtain ⟨type, fields, checks, -, rfl⟩ := start_lookup found
    exact lookup_eq_none_iff_not_mem.mpr other

theorem setOn?_eq_none_of_free (declared : world.Declares types) {member : String}
    (free : isReserved member = false) (name : String) : world.setOn? name member = none := by
  have taken : ∀ taken ∈ Member.ofDeclared, isReserved taken = true := by decide
  refine declared.setOn?_eq_none (fun among => ?_) name
  rw [taken member among] at free
  cases free

theorem run_lineage (declared : world.Declares types) (name : String) :
    (lineage name).run world = (.ok [name], world) := by
  have alone : world.lineage? name = some [name] := by
    rw [World.lineage?, Lineage.of?, declared.bases]
    rfl
  change (Except.ok ((world.lineage? name).getD [name]), world) = _
  rw [alone, Option.getD_some]

theorem run_setOnTypes? (declared : world.Declares types) (name member : String) :
    (setOnTypes? name member).run world = (.ok (world.setOn? name member), world) := by
  rw [setOnTypes?, run_bind, run_get]
  simp only
  rw [run_bind, declared.run_lineage]
  simp only [List.findSome?_cons, List.findSome?_nil, World.setOn?]
  cases (world.types.lookup name).bind (·.members.lookup member) <;> rfl

theorem run_setOnTypeOf? (declared : world.Declares types) {member : String}
    (other : member ∉ Member.ofDeclared) (item : Item) :
    (setOnTypeOf? item member).run world = (.ok none, world) := by
  rw [setOnTypeOf?, run_bind, run_typeOf?]
  cases world.type? item with
  | none => rfl
  | some type => exact (declared.run_setOnTypes? type member).trans (by
      rw [declared.setOn?_eq_none other])

variable (call : Call)

theorem run_attach (declared : world.Declares types) (item receiver : Item) (type : String) :
    (attach call item receiver type).run world = (.ok item, world) := by
  rw [attach, run_bind, declared.run_setOnTypeOf? (by decide)]
  rfl

theorem run_special? (declared : world.Declares types) {name : String}
    (other : name ∉ Member.ofDeclared) (item : Item) :
    (special? call item name).run world = (.ok none, world) := by
  rw [special?, run_bind, run_typeOf?]
  cases world.type? item with
  | none => rfl
  | some type =>
    simp only
    rw [run_bind, declared.run_setOnTypes?, declared.setOn?_eq_none other]
    rfl

theorem run_setsItself (declared : world.Declares types) (item : Item) :
    (setsItself item).run world = (.ok false, world) := by
  rw [setsItself, run_bind, declared.run_setOnTypeOf? (by decide)]
  simp only
  rw [run_bind, declared.run_setOnTypeOf? (by decide)]
  rfl

theorem run_goesFirst (declared : world.Declares types) (item : Item) :
    (goesFirst item).run world = (.ok false, world) := by
  rw [goesFirst, run_bind, declared.run_setOnTypeOf? (by decide)]
  simp only
  rw [run_bind, declared.run_setsItself]
  rfl

/-! ## The members of records -/

variable {id own : Nat} {type : String} {name : String}

theorem run_getMember (declared : world.Declares types)
    (here : world.objects[id]? = some (.record type own)) :
    (getMember call (.object id) name).run world =
      (foundMember call (.object id) type own name).run world := by
  unfold getMember
  rw [run_bind_objectOf?]
  simp only [World.object?, here]
  rw [run_bind, declared.run_setOnTypes?, declared.setOn?_eq_none (by decide)]
  simp only
  rw [run_bind, declared.run_special? call (by decide)]

theorem run_getMember_type (declared : world.Declares types)
    (here : world.objects[id]? = some (.record type own)) :
    (getMember call (.object id) Member.type).run world = (.ok (.type type), world) := by
  rw [declared.run_getMember call here]
  rfl

variable {entries : List (String × Item)} {item : Item}

/-- What is set on the type of a record is a member of the record, if it is none of its own. -/
theorem run_getMember_set (declared : world.Declares types)
    (here : world.objects[id]? = some (.record type own))
    (fields : world.objects[own]? = some (.mapping entries)) (other : entries.lookup name = none)
    (set : world.setOn? type name = some item)
    (plain : name ≠ Member.type ∧ name ≠ Member.own) :
    (getMember call (.object id) name).run world = (.ok item, world) := by
  rw [declared.run_getMember call here, foundMember]
  simp only [beq_eq_false_iff_ne.mpr plain.1, beq_eq_false_iff_ne.mpr plain.2, Bool.false_eq_true,
    if_false]
  rw [run_bind, declared.run_setOnTypes?, set]
  simp only
  rw [run_bind, run_entriesAt fields]
  simp only [other]
  rw [run_bind, declared.run_goesFirst]
  exact declared.run_attach call item (.object id) type

/-- A field of a record is a member of it. -/
theorem run_getMember_own (declared : world.Declares types)
    (here : world.objects[id]? = some (.record type own))
    (fields : world.objects[own]? = some (.mapping entries))
    (found : entries.lookup name = some item) (free : isReserved name = false) :
    (getMember call (.object id) name).run world = (.ok item, world) := by
  have apart (taken : String) (reserved : isReserved taken = true) : name ≠ taken := by
    rintro rfl
    rw [free] at reserved
    cases reserved
  rw [declared.run_getMember call here, foundMember]
  simp only [beq_eq_false_iff_ne.mpr (apart Member.type (by decide)),
    beq_eq_false_iff_ne.mpr (apart Member.own (by decide)),
    beq_eq_false_iff_ne.mpr (apart Member.weakReference (by decide)), Bool.false_eq_true, if_false]
  have unset : world.setOn? type name = none := declared.setOn?_eq_none_of_free free type
  rw [run_bind, declared.run_setOnTypes?, unset]
  simp only
  rw [run_bind, run_entriesAt fields]
  simp only [found]
  rfl

/-- What all records have is a member of a record, if it is none of its own. -/
theorem run_getMember_given (declared : world.Declares types)
    (here : world.objects[id]? = some (.record type own))
    (fields : world.objects[own]? = some (.mapping entries)) (other : entries.lookup name = none)
    (given : givenMember? (.object id) type name = some item)
    (plain : name ≠ Member.type ∧ name ≠ Member.own ∧ name ≠ Member.weakReference ∧
      name ∉ Member.ofDeclared) :
    (getMember call (.object id) name).run world = (.ok item, world) := by
  obtain ⟨notType, notOwn, notReference, undeclared⟩ := plain
  rw [declared.run_getMember call here, foundMember]
  simp only [beq_eq_false_iff_ne.mpr notType, beq_eq_false_iff_ne.mpr notOwn,
    beq_eq_false_iff_ne.mpr notReference, Bool.false_eq_true, if_false]
  rw [run_bind, declared.run_setOnTypes?, declared.setOn?_eq_none undeclared]
  simp only
  rw [run_bind, run_entriesAt fields]
  simp only [other, given]
  rfl

/-- Asking a thing for its type does nothing. -/
theorem run_askType (declared : world.Declares types) (item : Item) :
    (askType call item).run world = (.ok (), world) := by
  rw [askType, run_bind, run_typeOf?, World.type?]
  cases found : world.object? item with
  | none => rfl
  | some object =>
    cases object with
    | list | mapping => rfl
    | record type own =>
      cases item with
      | object id =>
        exact run_tryCatch (run_discard (declared.run_getMember_type call found))
      | absent =>
        rw [World.object?, declared.absentType] at found
        cases found
      | _ => cases found

end World.Declares

/-- A record of a declared type in a world, in which nothing is set under a name that is taken. -/
structure World.HasInstance (types : List RecordType) (world : World) (id own : Nat)
    (type : RecordType) (entries : List (String × Item)) : Prop where
  declared : type ∈ types
  object : world.objects[id]? = some (.record type.name own)
  own : world.objects[own]? = some (.mapping entries)
  free : ∀ e ∈ entries, isReserved e.1 = false

/-- A record of a declared type in a world, with nothing set in it but its fields. -/
structure World.HasRecord (types : List RecordType) (world : World) (id own : Nat)
    (type : RecordType) (entries : List (String × Item)) : Prop
    extends world.HasInstance types id own type entries where
  keys : entries.map (·.1) = type.fieldNames

namespace World.HasInstance

variable {types : List RecordType} {world world' : World} {id own : Nat} {type : RecordType}
  {entries : List (String × Item)} (call : Call)

theorem keep {written : List Nat} (record : world.HasInstance types id own type entries)
    (changes : world.Changes written world') (idKept : id ∉ written) (ownKept : own ∉ written) :
    world'.HasInstance types id own type entries where
  declared := record.declared
  object := changes.getElem? record.object idKept
  own := changes.getElem? record.own ownKept
  free := record.free

theorem lookup_reserved (record : world.HasInstance types id own type entries) {name : String}
    (reserved : isReserved name = true) : entries.lookup name = none := by
  refine lookup_eq_none_iff_not_mem.mpr fun field => ?_
  obtain ⟨e, member, rfl⟩ := List.mem_map.mp field
  rw [record.free e member] at reserved
  cases reserved

/-- What is set on the type of a record from the start is a member of the record. -/
theorem run_getMember_set (record : world.HasInstance types id own type entries)
    (declared : world.Declares types) {fields checks : Nat}
    (state : world.HasType type fields checks) {name : String} {item : Item}
    (set : (World.declare type fields checks).members.lookup name = some item)
    (among : name ∈ Member.ofDeclared) :
    (getMember call (.object id) name).run world = (.ok item, world) := by
  have known : ∀ name ∈ Member.ofDeclared,
      isReserved name = true ∧ name ≠ Member.type ∧ name ≠ Member.own := by decide
  obtain ⟨reserved, plain⟩ := known name among
  have here : world.setOn? type.name name = some item := by
    rw [World.setOn?, state.1, Option.bind_some, set]
  exact declared.run_getMember_set call record.object record.own
    (record.lookup_reserved reserved) here plain

theorem run_typeName (record : world.HasInstance types id own type entries)
    (sound : WellDeclared types) (declared : world.Declares types) :
    (getMember call (.object id) Member.typeName).run world =
      (.ok (.string type.name), world) := by
  obtain ⟨fields, checks, state⟩ := declared.hasType sound.names record.declared
  exact record.run_getMember_set call declared state rfl (by decide)

/-- The fields of a record are found in the mapping of its type. -/
theorem run_fields (record : world.HasInstance types id own type entries)
    (sound : WellDeclared types) (declared : world.Declares types) :
    ∃ fields, (getMember call (.object id) Member.fields).run world =
        (.ok (.object fields), world) ∧
      world.objects[fields]? =
        some (.mapping (type.fields.map fun f => (f.1, .declared f.2))) := by
  obtain ⟨fields, checks, state⟩ := declared.hasType sound.names record.declared
  exact ⟨fields, record.run_getMember_set call declared state rfl (by decide), state.2.1⟩

theorem run_checks (record : world.HasInstance types id own type entries)
    (sound : WellDeclared types) (declared : world.Declares types) :
    ∃ checks, (getMember call (.object id) Member.checks).run world =
        (.ok (.object checks), world) ∧
      world.objects[checks]? = some
        (.mapping (type.fields.map fun f => (f.1, .check (type.name ++ "." ++ f.1) f.2))) := by
  obtain ⟨fields, checks, state⟩ := declared.hasType sound.names record.declared
  exact ⟨checks, record.run_getMember_set call declared state rfl (by decide), state.2.2⟩

theorem run_wireForm (record : world.HasInstance types id own type entries)
    (declared : world.Declares types) :
    (getMember call (.object id) Member.wireForm).run world =
      (.ok (.bound Member.wireForm (.object id)), world) :=
  declared.run_getMember_given call record.object record.own
    (record.lookup_reserved (by decide)) rfl (by decide)

theorem run_types (record : world.HasInstance types id own type entries)
    (sound : WellDeclared types) (declared : world.Declares types) :
    (getMember call (.object id) Member.types).run world =
      (.ok (.object World.typeTable), world) := by
  obtain ⟨fields, checks, state⟩ := declared.hasType sound.names record.declared
  exact record.run_getMember_set call declared state rfl (by decide)

/-- A field that a record has is found in it. -/
theorem run_field (record : world.HasInstance types id own type entries)
    (declared : world.Declares types) {name : String} {item : Item}
    (found : entries.lookup name = some item) :
    (getMember call (.object id) name).run world = (.ok item, world) :=
  declared.run_getMember_own call record.object record.own found
    (record.free _ (mem_of_lookup found))

end World.HasInstance

/-! ## Values in a world -/

/-- An item is a value in a world: its objects have what the value has inside. -/
inductive World.Holds (types : List RecordType) (world : World) : Item → Value → Prop
  | simple {item : Item} {v : Value} (same : item.simple? = some v) : Holds types world item v
  | absent : Holds types world .absent .absent
  | type (type : RecordType) : Holds types world (.type type.name) (.typeObject type)
  | list {id : Nat} {items : List Item} {vs : List Value}
      (here : world.objects[id]? = some (.list items))
      (each : List.Forall₂ (Holds types world) items vs) : Holds types world (.object id) (.list vs)
  | tuple {items : List Item} {vs : List Value}
      (each : List.Forall₂ (Holds types world) items vs) :
      Holds types world (.tuple items) (.tuple vs)
  | mapping {id : Nat} {entries : List (String × Item)} {out : List (String × Value)}
      (here : world.objects[id]? = some (.mapping entries))
      (distinct : (out.map (·.1)).Nodup) (keys : entries.map (·.1) = out.map (·.1))
      (each : List.Forall₂ (Holds types world) (entries.map (·.2)) (out.map (·.2))) :
      Holds types world (.object id) (.object out)
  | record {id own : Nat} {type : RecordType} {entries : List (String × Item)} {vs : List Value}
      (here : world.HasRecord types id own type entries)
      (each : List.Forall₂ (Holds types world) (entries.map (·.2)) vs) :
      Holds types world (.object id) (.record type vs)

section

variable {types : List RecordType} {world world' : World}

theorem World.HasRecord.grows {id own : Nat} {type : RecordType} {entries : List (String × Item)}
    (record : world.HasRecord types id own type entries) (changes : world.Changes [] world') :
    world'.HasRecord types id own type entries where
  __ := record.keep changes List.not_mem_nil List.not_mem_nil
  keys := record.keys

/-- What an item holds stays what it holds as long as no object is replaced. -/
theorem World.Holds.grows (changes : world.Changes [] world') (v : Value) :
    ∀ {item : Item}, world.Holds types item v → world'.Holds types item v := by
  induction v using Value.partsInduction with
  | leaf v leaf =>
    intro item held
    cases held with
    | simple same => exact .simple same
    | absent => exact .absent
    | type type => exact .type type
    | list | tuple | mapping | record => cases leaf
  | list vs ih =>
    intro item held
    cases held with
    | simple same => exact .simple same
    | list here each =>
      refine .list (changes.getElem? here List.not_mem_nil) (List.Forall₂.flip ?_)
      exact forall₂_imp_mem (List.Forall₂.flip each) fun v member _ => ih v member
  | tuple vs ih =>
    intro item held
    cases held with
    | simple same => exact .simple same
    | tuple each =>
      refine .tuple (List.Forall₂.flip ?_)
      exact forall₂_imp_mem (List.Forall₂.flip each) fun v member _ => ih v member
  | object out ih =>
    intro item held
    cases held with
    | simple same => exact .simple same
    | mapping here distinct keys each =>
      refine .mapping (changes.getElem? here List.not_mem_nil) distinct keys (List.Forall₂.flip ?_)
      refine forall₂_imp_mem (List.Forall₂.flip each) fun v member _ => ?_
      obtain ⟨e, entry, rfl⟩ := List.mem_map.mp member
      exact ih e entry
  | record type vs ih =>
    intro item held
    cases held with
    | simple same => exact .simple same
    | record here each =>
      refine .record (here.grows changes) (List.Forall₂.flip ?_)
      exact forall₂_imp_mem (List.Forall₂.flip each) fun v member _ => ih v member

theorem World.HasRecord.isRecordOf {id own : Nat} {type : RecordType}
    {entries : List (String × Item)} (record : world.HasRecord types id own type entries)
    {vs : List Value} (each : List.Forall₂ (world.Holds types) (entries.map (·.2)) vs) :
    (Value.record type vs).isRecordOf types = true := by
  refine Value.isRecordOf_record.mpr ⟨record.declared, ?_⟩
  rw [← each.length_eq, List.length_map]
  simpa [RecordType.fieldNames] using congrArg List.length record.keys

/-- What an item holds is a value of the declared types. -/
theorem World.Holds.belongsTo (v : Value) : ∀ {item : Item}, world.Holds types item v →
    v.belongsTo types = true := by
  induction v using Value.partsInduction with
  | leaf v leaf =>
    intro item held
    refine Value.everywhere_leaf leaf ?_
    cases v <;> first | rfl | cases leaf
  | list vs ih =>
    intro item held
    cases held with
    | simple same => cases item <;> cases same
    | list here each =>
      refine Value.everywhere_list.mpr ⟨rfl, fun v member => ?_⟩
      obtain ⟨item, -, held⟩ := forall₂_mem_right each member
      exact ih v member held
  | tuple vs ih =>
    intro item held
    cases held with
    | simple same => cases item <;> cases same
    | tuple each =>
      refine Value.everywhere_tuple.mpr ⟨rfl, fun v member => ?_⟩
      obtain ⟨item, -, held⟩ := forall₂_mem_right each member
      exact ih v member held
  | object out ih =>
    intro item held
    cases held with
    | simple same => cases item <;> cases same
    | mapping here distinct keys each =>
      refine Value.everywhere_object.mpr ⟨Value.isMapping_object.mpr distinct, fun e member => ?_⟩
      obtain ⟨item, -, held⟩ := forall₂_mem_right each (List.mem_map_of_mem member)
      exact ih e member held
  | record type vs ih =>
    intro item held
    cases held with
    | simple same => cases item <;> cases same
    | record here each =>
      refine Value.everywhere_record.mpr ⟨here.isRecordOf each, fun v member => ?_⟩
      obtain ⟨item, -, held⟩ := forall₂_mem_right each member
      exact ih v member held

end

/-- A world with three nodes in it that differ only in what their sizes are written as. -/
def sampleWorld : World :=
  [Object.list [],
    .mapping [("label", .string "a"), ("size", .int 1), ("links", .object 4)],
    .record "Node" 5,
    .mapping [("label", .string "a"), ("size", .float (.finite 1)), ("links", .object 4)],
    .record "Node" 7,
    .mapping [("label", .string "a"), ("size", .bool true), ("links", .object 4)],
    .record "Node" 9].foldl (fun world object =>
      { world with objects := world.objects.push object }) (.start sampleClient.types)

theorem declares_foldl_push {types : List RecordType} (objects : List Object) {world : World}
    (declared : world.Declares types) :
    World.Declares types (objects.foldl (fun world object =>
      { world with objects := world.objects.push object }) world) := by
  induction objects generalizing world with
  | nil => exact declared
  | cons object objects ih => exact ih (declared.grows (changes_push world object))

end ServiceClient

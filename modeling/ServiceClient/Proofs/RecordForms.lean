import ServiceClient.Proofs.FormParts

/-!
The forms of records. The form of a record has a part for each field, laid out as the controls for
its type are (`Control.ofRecord`), with a record of its own in every frame; so what `FormPart` says
about reading parts is true of the form (`record_form_read`).
-/

namespace ServiceClient

variable {W : Type} {types : List RecordType}

/-- The inputs of a toolkit can be read without a change to what is there. -/
structure Toolkit.ReadsQuietly {W : Type} (types : List RecordType)
    (toolkit : Toolkit (CallForms Filled) W Filled (Run Item)) : Prop where
  input : ∀ label kind optional forms,
    Allocates types ((toolkit.input label kind optional).run forms).1.2
  arrayInput : ∀ label element optional forms,
    Allocates types ((toolkit.arrayInput label element optional).run forms).1.2

namespace FormPart

/-- A part of a form is what a toolkit makes for the control of a field: the input of the control
with the label of the field, or a frame with a part for each control in it. -/
inductive MadeFor (toolkit : Toolkit (CallForms Filled) W Filled (Run Item)) :
    String → Control → FormPart → Prop
  | primitive (name : String) (kind : Primitive) (forms : CallForms Filled) :
      MadeFor toolkit name (.primitive kind) (.input (.primitive kind)
        ((toolkit.input (label name) (.ofPrimitive kind) false).run forms).1.2)
  | array (name : String) (element : TypeRef) (forms : CallForms Filled) :
      MadeFor toolkit name (.array element) (.input (.array element)
        ((toolkit.arrayInput (label name) element false).run forms).1.2)
  | object (name type : String) (forms : CallForms Filled) :
      MadeFor toolkit name (.object type) (.input (.named type)
        ((toolkit.input (label name) .object false).run forms).1.2)
  | frame {name : String} {type : RecordType} {id own : Nat} {fields : List (String × Control)}
      {parts : List (String × FormPart)} (names : fields.map (·.1) = parts.map (·.1))
      (each : ∀ p ∈ fields.zip parts, MadeFor toolkit p.1.1 p.1.2 p.2.2) :
      MadeFor toolkit name (.frame type fields) (.frame id own type parts)

/-- A part that was made between two worlds: its records are new, and no two of them the same. -/
structure Fresh (types : List RecordType) (before after : World) (part : FormPart) : Prop where
  stands : part.Stands types after
  new : ∀ n ∈ part.numbers, before.objects.size ≤ n ∧ n < after.objects.size
  distinct : part.numbers.Nodup

/-- The parts that were made between two worlds for the controls of some fields. -/
structure AllMade (types : List RecordType)
    (toolkit : Toolkit (CallForms Filled) W Filled (Run Item)) (before after : World)
    (fields : List (String × Control)) (parts : List (String × FormPart)) : Prop where
  names : fields.map (·.1) = parts.map (·.1)
  each : ∀ p ∈ fields.zip parts, MadeFor toolkit p.1.1 p.1.2 p.2.2
  stand : ∀ p ∈ parts, p.2.Stands types after
  new : ∀ n ∈ numbersOf parts, before.objects.size ≤ n ∧ n < after.objects.size
  distinct : (numbersOf parts).Nodup

variable {toolkit : Toolkit (CallForms Filled) W Filled (Run Item)} {before world after : World}

theorem Stands.grows {part : FormPart} (stands : part.Stands types world)
    (changes : world.Changes [] after) : part.Stands types after :=
  stands.keep changes fun _ _ => List.not_mem_nil

theorem allMade_nil : AllMade types toolkit before after [] [] :=
  ⟨rfl, by simp, by simp, by simp [numbersOf], .nil⟩

theorem AllMade.cons {name : String} {control : Control} {part : FormPart}
    {fields : List (String × Control)} {parts : List (String × FormPart)}
    (made : MadeFor toolkit name control part) (fresh : Fresh types before world part)
    (rest : AllMade types toolkit world after fields parts) (first : before.Changes [] world)
    (later : world.Changes [] after) :
    AllMade types toolkit before after ((name, control) :: fields) ((name, part) :: parts) where
  names := by rw [List.map_cons, List.map_cons, rest.names]
  each := List.forall_mem_cons.mpr ⟨made, rest.each⟩
  stand := List.forall_mem_cons.mpr ⟨fresh.stands.grows later, rest.stand⟩
  new n among := by
    rcases List.mem_append.mp among with here | there
    · exact ⟨(fresh.new n here).1, Nat.lt_of_lt_of_le (fresh.new n here).2 later.size⟩
    · exact ⟨Nat.le_trans first.size (rest.new n there).1, (rest.new n there).2⟩
  distinct := by
    refine List.nodup_append.mpr ⟨fresh.distinct, rest.distinct, fun n here m there same => ?_⟩
    have below := (fresh.new n here).2
    have above := (rest.new m there).1
    omega

end FormPart

/-! ## Building -/

section

variable {α β : Type}

/-- Building in a world makes new objects only, and comes to something that was `made`; it fails at
most if it goes too deep. -/
def Builds (world : World) (deep : Prop) (made : α → World → Prop) (act : Building α) : Prop :=
  ∀ forms, ∃ r world', (act.run forms).run world = (r, world') ∧ world.Changes [] world' ∧
    match r with
    | .error _ => deep
    | .ok (a, _) => made a world'

variable {world : World} {deep : Prop} {made : α → World → Prop} {made' : β → World → Prop}

theorem builds_pure {a : α} (is : made a world) : Builds world deep made (pure a) :=
  fun forms => ⟨.ok (a, forms), world, rfl, .refl _ _, is⟩

theorem Builds.bind {act : Building α} {next : α → Building β} (first : Builds world deep made act)
    (rest : ∀ a world', world.Changes [] world' → made a world' →
      Builds world' deep made' (next a)) : Builds world deep made' (act >>= next) := by
  intro forms
  obtain ⟨r, world₁, done, changes, is⟩ := first forms
  rw [StateT.run_bind, run_bind, done]
  cases r with
  | error failure => exact ⟨.error failure, world₁, rfl, changes, is⟩
  | ok result =>
    obtain ⟨a, forms'⟩ := result
    obtain ⟨r', world₂, done', changes', is'⟩ := rest a world₁ changes is forms'
    exact ⟨r', world₂, done', changes.trans changes', is'⟩

theorem Builds.weaken {deep' : Prop} {act : Building α} (imp : deep → deep')
    (builds : Builds world deep made act) : Builds world deep' made act := by
  intro forms
  obtain ⟨r, world', done, changes, is⟩ := builds forms
  refine ⟨r, world', done, changes, ?_⟩
  cases r with
  | error failure => exact imp is
  | ok result => exact is

theorem builds_lift {act : Run α} {a : α} {world' : World} (done : act.run world = (.ok a, world'))
    (changes : world.Changes [] world') (is : made a world') :
    Builds world deep made (liftM act : Building α) := by
  intro forms
  refine ⟨.ok (a, forms), world', ?_, changes, is⟩
  change (act >>= fun a => pure (a, forms)).run world = _
  rw [run_bind, done]
  rfl

/-- A step that is done in the world of a building, and changes nothing, may be left out. -/
theorem Builds.after_lift {act : Run α} {a : α} {next : α → Building β}
    (done : act.run world = (.ok a, world)) (rest : Builds world deep made' (next a)) :
    Builds world deep made' (liftM act >>= next) := by
  intro forms
  obtain ⟨r, world', done', changes, is⟩ := rest forms
  refine ⟨r, world', ?_, changes, is⟩
  rw [← done', StateT.run_bind]
  change ((act >>= fun a => pure (a, forms)) >>= _).run world = _
  rw [run_bind, run_bind, done]
  rfl

end

section

variable {toolkit : Toolkit (CallForms Filled) W Filled (Run Item)} {world : World} {deep : Prop}

/-- What was built since a world is a part for the control of a field. -/
def IsPart (types : List RecordType) (toolkit : Toolkit (CallForms Filled) W Filled (Run Item))
    (before : World) (name : String) (control : Control) (built : Built W) (after : World) : Prop :=
  ∃ part : FormPart, built.2 = part.reader ∧ part.MadeFor toolkit name control ∧
    part.Fresh types before after

theorem isPart_input {name : String} {control : Control} {t : TypeRef} {entered : Run Item}
    {built : Built W} (reader : built.2 = (FormPart.input t entered).reader)
    (quiet : Allocates types entered)
    (made : (FormPart.input t entered).MadeFor toolkit name control) :
    IsPart types toolkit world name control built world :=
  ⟨.input t entered, reader, made, .input quiet, by simp [FormPart.numbers], .nil⟩

theorem builds_object (quiet : toolkit.ReadsQuietly types) (name type : String) :
    Builds world deep (IsPart types toolkit world name (.object type))
      (buildObject invoke toolkit (.object World.typeTable) false (label name)
        (.declared (.named type))) := by
  intro forms
  refine ⟨_, world, rfl, .refl _ _, ?_⟩
  exact isPart_input rfl (quiet.input _ _ _ forms) (.object name type forms)

theorem builds_primitive (quiet : toolkit.ReadsQuietly types)
    (buildRecord : List String → Item → Building (Built W)) (around : List String) (name : String)
    (kind : Primitive) :
    Builds world deep (IsPart types toolkit world name (.primitive kind))
      (buildField invoke toolkit buildRecord (.object World.typeTable) around false name
        (.declared (.primitive kind))) := by
  intro forms
  refine ⟨_, world, rfl, .refl _ _, ?_⟩
  refine isPart_input ?_ (quiet.input _ _ _ forms) (.primitive name kind forms)
  exact (bind_pure _).symm

theorem builds_array (quiet : toolkit.ReadsQuietly types)
    (buildRecord : List String → Item → Building (Built W)) (around : List String) (name : String)
    (element : TypeRef) :
    Builds world deep (IsPart types toolkit world name (.array element))
      (buildField invoke toolkit buildRecord (.object World.typeTable) around false name
        (.declared (.array element))) := by
  intro forms
  refine ⟨_, world, rfl, .refl _ _, ?_⟩
  exact isPart_input rfl (quiet.arrayInput _ _ _ forms) (.array name element forms)

/-- What was built since a world sets the fields of a record to what is entered in parts for their
controls. -/
def SetsFields (types : List RecordType) (toolkit : Toolkit (CallForms Filled) W Filled (Run Item))
    (before : World) (id : Nat) (fields : List (String × Control)) (built : Built W)
    (after : World) : Prop :=
  ∃ parts, built.2 = enter invoke (.object id) (FormPart.readersOf parts) ∧
    FormPart.AllMade types toolkit before after fields parts

/-- Building the part for a record in a world, inside frames of some types, gives one that sets the
record's fields. -/
def BuildsRecords (types : List RecordType)
    (toolkit : Toolkit (CallForms Filled) W Filled (Run Item)) (fuel : Nat) : Prop :=
  ∀ {world : World} {id own : Nat} {type : RecordType} {entries : List (String × Item)}
    {around : List String}, world.Declares types →
    world.HasInstance types id own type entries → type.name ∉ around →
    Builds world (fuel ≤ (typesOutside types around).length)
      (SetsFields types toolkit world id (type.fields.map fun f =>
        (f.1, Control.ofType (typesOutside types (type.name :: around)) f.2)))
      (buildRecordWithin invoke toolkit fuel around (.object id))

/-- A record is made of a type that is called without values. -/
theorem run_invoke_blank (sound : WellDeclared types) (declared : world.Declares types)
    {type : RecordType} (member : type ∈ types) :
    ∃ world' entries, (invoke (.type type.name) [] []).run world =
        (.ok (.object (world.objects.size + 1)), world') ∧
      world.Changes [] world' ∧
      world'.HasInstance types (world.objects.size + 1) world.objects.size type entries :=
  run_makeRecord_blank (invokeWithin 999) sound declared member

/-- A frame around a new record is a part, if it sets the fields of the record. -/
theorem SetsFields.isPart {before after : World} {t : RecordType} {entries : List (String × Item)}
    {fields : List (String × Control)} {built : Built W}
    (sets : SetsFields types toolkit world (before.objects.size + 1) fields built after)
    (names : fields.map (·.1) = t.fieldNames) (declared : before.Declares types)
    (first : before.Changes [] world)
    (record : world.HasInstance types (before.objects.size + 1) before.objects.size t entries)
    (later : world.Changes [] after) (name : String) (widget : W) :
    IsPart types toolkit before name (.frame t fields) (widget, built.2) after := by
  obtain ⟨parts, reader, made⟩ := sets
  have room := (Array.getElem?_eq_some_iff.mp record.object).1
  have wider := later.size
  refine ⟨.frame (before.objects.size + 1) before.objects.size t parts, reader,
    .frame made.names made.each, ?_, fun n among => ?_, ?_⟩
  · exact .frame (record.keep later List.not_mem_nil List.not_mem_nil) declared.size
      (made.names ▸ names) made.stand
  · rcases List.mem_cons.mp among with rfl | among
    · omega
    rcases List.mem_cons.mp among with rfl | among
    · omega
    have inside := made.new n among
    have grown := first.size
    omega
  · have above : ∀ n ∈ FormPart.numbersOf parts, before.objects.size + 1 < n := fun n among =>
      Nat.lt_of_lt_of_le room (made.new n among).1
    refine List.nodup_cons.mpr ⟨fun among => ?_, List.nodup_cons.mpr ⟨fun among => ?_, ?_⟩⟩
    · rcases List.mem_cons.mp among with same | among
      · omega
      · exact Nat.lt_irrefl _ (above _ among)
    · have := above _ among
      omega
    · exact made.distinct

theorem builds_named (sound : WellDeclared types) (quiet : toolkit.ReadsQuietly types) {fuel : Nat}
    (records : BuildsRecords types toolkit fuel) (declared : world.Declares types)
    (around : List String) (name type : String) :
    Builds world (fuel ≤ (typesOutside types around).length)
      (IsPart types toolkit world name (Control.ofType (typesOutside types around) (.named type)))
      (buildField invoke toolkit (buildRecordWithin invoke toolkit fuel) (.object World.typeTable)
        around false name (.declared (.named type))) := by
  have asked := run_contains invoke declared.typeTable type
  rw [lookup_typeTable] at asked
  unfold buildField
  refine Builds.after_lift asked ?_
  cases found : findType? types type with
  | none =>
    have undeclared : findType? (typesOutside types around) type = none := by
      by_cases inside : type ∈ around
      · exact findType?_typesOutside_of_mem inside
      · rw [findType?_typesOutside inside, found]
    rw [ofType_object undeclared]
    exact builds_object quiet name type
  | some t =>
    obtain ⟨member, rfl⟩ := mem_of_findType? found
    by_cases inside : t.name ∈ around
    · rw [ofType_object (findType?_typesOutside_of_mem inside)]
      simp [inside]
      exact builds_object quiet name t.name
    · have typed : (types.map fun type => (type.name, Item.type type.name)).lookup t.name =
          some (.type t.name) := by
        rw [lookup_typeTable, found, Option.map_some]
      have outside : (!around.contains t.name) = true := by simp [inside]
      obtain ⟨world₁, entries, made, first, record⟩ := run_invoke_blank sound declared member
      rw [ofType_frame found inside]
      simp only [Option.map_some, Option.isSome_some, outside, Bool.and_self, if_true]
      refine Builds.after_lift (run_itemAt invoke declared.typeTable typed) ?_
      have called : Builds world (fuel ≤ (typesOutside types around).length)
          (fun item after => item = .object (world.objects.size + 1) ∧ after = world₁)
          (liftM (invoke (.type t.name) [] [])) := builds_lift made first ⟨rfl, rfl⟩
      refine called.bind ?_
      rintro _ _ - ⟨rfl, rfl⟩
      refine (records (declared.grows first) record inside).bind fun built world₂ later sets => ?_
      refine builds_pure (sets.isPart ?_ declared first record later name _)
      rw [List.map_map]
      rfl

theorem builds_field (sound : WellDeclared types) (quiet : toolkit.ReadsQuietly types) {fuel : Nat}
    (records : BuildsRecords types toolkit fuel) (declared : world.Declares types)
    (around : List String) (name : String) (t : TypeRef) :
    Builds world (fuel ≤ (typesOutside types around).length)
      (IsPart types toolkit world name (Control.ofType (typesOutside types around) t))
      (buildField invoke toolkit (buildRecordWithin invoke toolkit fuel) (.object World.typeTable)
        around false name (.declared t)) := by
  cases t with
  | primitive kind =>
    rw [Control.ofType]
    exact builds_primitive quiet _ around name kind
  | array element =>
    rw [Control.ofType]
    exact builds_array quiet _ around name element
  | named type => exact builds_named sound quiet records declared around name type

/-- The parts for the fields of a record are built one after the other. -/
theorem builds_fields (sound : WellDeclared types) (quiet : toolkit.ReadsQuietly types) {fuel : Nat}
    (records : BuildsRecords types toolkit fuel) (around : List String) {id own : Nat}
    {type : RecordType} {entries : List (String × Item)} (fields : List (String × TypeRef))
    (declared : world.Declares types) (record : world.HasInstance types id own type entries) :
    Builds world (fuel ≤ (typesOutside types around).length)
      (fun built after => ∃ parts, built.map (·.2) = FormPart.readersOf parts ∧
        FormPart.AllMade types toolkit world after
          (fields.map fun f => (f.1, Control.ofType (typesOutside types around) f.2)) parts)
      ((fields.map fun f => (f.1, Item.declared f.2)).mapM fun (name, t) => do
        let types ← getMember invoke (.object id) Member.types
        let (widget, entered) ← buildField invoke toolkit (buildRecordWithin invoke toolkit fuel)
          types around false name t
        return (widget, name, entered)) := by
  induction fields generalizing world with
  | nil => exact builds_pure ⟨[], rfl, FormPart.allMade_nil⟩
  | cons f fields ih =>
    have here := builds_field sound quiet records declared around f.1 f.2
    rw [List.map_cons, List.map_cons, List.mapM_cons]
    simp only [bind_assoc]
    refine Builds.after_lift (record.run_types invoke sound declared) ?_
    refine here.bind fun built world₁ first part => ?_
    obtain ⟨part, reader, made, fresh⟩ := part
    have record₁ := record.keep first List.not_mem_nil List.not_mem_nil
    simp only [pure_bind]
    refine (ih (declared.grows first) record₁).bind fun rest world₂ later parts => ?_
    obtain ⟨parts, readers, all⟩ := parts
    refine builds_pure ⟨(f.1, part) :: parts, ?_, all.cons made fresh first later⟩
    rw [List.map_cons, readers, reader, FormPart.readersOf]

theorem buildsRecords (sound : WellDeclared types) (quiet : toolkit.ReadsQuietly types)
    (fuel : Nat) : BuildsRecords types toolkit fuel := by
  induction fuel with
  | zero =>
    intro world id own type entries around declared record outside forms
    exact ⟨_, world, rfl, .refl _ _, Nat.zero_le _⟩
  | succ fuel ih =>
    intro world id own type entries around declared record outside
    obtain ⟨fields, found, mapping⟩ := record.run_fields invoke sound declared
    have hashable : (checkHashable invoke (.string type.name)).run world = (.ok (), world) := rfl
    unfold buildRecordWithin
    refine Builds.after_lift (record.run_typeName invoke sound declared) ?_
    refine Builds.after_lift hashable (Builds.after_lift found ?_)
    refine Builds.after_lift (run_entriesOf invoke mapping) ?_
    have fewer := typesOutside_lt (findType?_name sound.names record.declared) outside
    refine Builds.weaken (fun deep => Nat.lt_of_le_of_lt deep fewer) ?_
    refine (builds_fields sound quiet ih (type.name :: around) type.fields declared record).bind
      fun built after changes all => ?_
    obtain ⟨parts, readers, made⟩ := all
    exact builds_pure ⟨parts, congrArg _ readers, made⟩

end

/-! ## Toolkits -/

theorem outline_readsQuietly (types : List RecordType) (entered : Nat → Item) :
    Toolkit.ReadsQuietly types
      (Outline.toolkit fun number => (return entered number : Run Item)) where
  input _ _ _ _ := allocates_pure _
  arrayInput _ _ _ _ := allocates_pure _

theorem allocates_enteredItem (kind : InputKind) (v : Value) :
    Allocates types (enteredItem kind v) := by
  unfold enteredItem
  split
  · exact fun world _ => ⟨rfl, rfl, rfl, Nat.le_refl _, fun _ _ _ => rfl⟩
  · exact allocates_ofValue v

theorem html_readsQuietly (types : List RecordType) (form : Submitted) (action : String → String) :
    Toolkit.ReadsQuietly types ((Html.toolkit form action).mapEntered enteredItem) where
  input _ _ _ _ := allocates_enteredItem _ _
  arrayInput _ _ _ _ := allocates_enteredItem _ _

/-! ## Reading -/

theorem ofRecord_eq (types : List RecordType) (type : RecordType) :
    Control.ofRecord types type =
      type.fields.map fun f => (f.1, Control.ofType (typesOutside types [type.name]) f.2) := by
  rw [← withoutType_typesOutside, typesOutside_nil]
  rfl

/-- The form of a record can be built, unless there are more types than are gone into, and has a
part for each field. Reading it, whenever its records are there, sets the fields one after the
other. If all parts can be read, every field holds what was entered in its part, and what is read is
the record itself; if one cannot, the fields before it hold what was entered, and all others what
they held before. -/
theorem record_form_read {description : Value} {endpoint : String} {client : Client}
    (regular : description.isRegular = true)
    (built : Client.build description endpoint = .ok client)
    {toolkit : Toolkit (CallForms Filled) W Filled (Run Item)}
    (quiet : toolkit.ReadsQuietly client.types) {world : World}
    (declared : world.Declares client.types) {id own : Nat} {type : RecordType}
    {entries : List (String × Item)}
    (record : world.HasInstance client.types id own type entries)
    (made : (World.start client.types).objects.size ≤ own) (forms : CallForms Filled) :
    ∃ r world', ((buildRecord invoke toolkit [] (.object id)).run forms).run world = (r, world') ∧
      match r with
      | .error _ => greatestDepth ≤ client.types.length
      | .ok ((_, read), _) => ∃ parts,
          FormPart.AllMade client.types toolkit world world' (Control.ofRecord client.types type)
            parts ∧
          world.Changes [] world' ∧
          (FormPart.frame id own type parts).Stands client.types world' ∧
          ∀ {before after : World} {result : Except Failure Item},
            before.Declares client.types →
            (FormPart.frame id own type parts).Stands client.types before →
            read.run before = (result, after) →
            after.Declares client.types ∧
            (FormPart.frame id own type parts).Stands client.types after ∧
            ∃ entries entries',
              before.HasInstance client.types id own type entries ∧
              after.HasInstance client.types id own type entries' ∧
              before.Changes (own :: FormPart.numbersOf parts) after ∧
              FormPart.ReadUpTo client.types before (own :: FormPart.numbersOf parts) after id
                entries entries' parts result := by
  have sound := build_wellDeclared regular built
  obtain ⟨r, world', done, changes, is⟩ :=
    buildsRecords sound quiet greatestDepth declared record List.not_mem_nil forms
  refine ⟨r, world', done, ?_⟩
  cases r with
  | error failure => rwa [typesOutside_nil] at is
  | ok result =>
    obtain ⟨⟨widget, read⟩, forms'⟩ := result
    obtain ⟨parts, rfl, all⟩ := is
    rw [← ofRecord_eq] at all
    have names : parts.map (·.1) = type.fieldNames := by
      rw [← all.names, ofRecord_eq, List.map_map]
      rfl
    have distinct : (FormPart.frame id own type parts).numbers.Nodup := by
      have idBelow := (Array.getElem?_eq_some_iff.mp record.object).1
      have ownBelow := (Array.getElem?_eq_some_iff.mp record.own).1
      refine List.nodup_cons.mpr ⟨fun among => ?_, List.nodup_cons.mpr ⟨fun among => ?_, ?_⟩⟩
      · rcases List.mem_cons.mp among with same | among
        · exact record.own_ne same
        · exact Nat.not_le.mpr idBelow (all.new id among).1
      · exact Nat.not_le.mpr ownBelow (all.new own among).1
      · exact all.distinct
    have stands : (FormPart.frame id own type parts).Stands client.types world' :=
      .frame (record.keep changes List.not_mem_nil List.not_mem_nil) made names all.stand
    refine ⟨parts, all, changes, stands, fun declared' stands' reading => ?_⟩
    obtain ⟨entries, ready⟩ := stands'.ready sound distinct
    obtain ⟨declared'', changes', stand, entries', record', outcome⟩ :=
      FormPart.reads_enter (fun p _ => FormPart.readsWell sound p.2) declared' ready reading
    exact ⟨declared'', .frame record' made names stand, entries, entries', ready.record, record',
      changes', outcome⟩

/-- A world with a list of something that is no node in it. -/
def colourWorld : World :=
  [Object.mapping [("colour", .string "red")], .list [.object 11]].foldl (fun world object =>
    { world with objects := world.objects.push object }) sampleWorld

/-- What is entered in the inputs for a node: a label, a size, and links that are no nodes. -/
def colourEntered : Nat → Item
  | 1 => .string "b"
  | 2 => .int 2
  | _ => .object 12

/-- The form of a node in which the links cannot be read. -/
def colourForm : Except Failure (Built Outline × CallForms Filled) × World :=
  ((buildRecord invoke (Outline.toolkit fun number => (return colourEntered number : Run Item)) []
    (.object 6)).run .start).run colourWorld

theorem record_form_read_colour :
    ∃ widget read forms world failure after, colourForm = (.ok ((widget, read), forms), world) ∧
      read.run world = (.error failure, after) ∧
      ∃ parts entries entries', parts.map (·.1) = ["label", "size", "links"] ∧
        world.HasInstance sampleClient.types 6 5 sampleNode entries ∧
        after.HasInstance sampleClient.types 6 5 sampleNode entries' ∧
        FormPart.ReadUpTo sampleClient.types world (5 :: FormPart.numbersOf parts) after 6 entries
          entries' parts (.error failure) := by
  have declared : colourWorld.Declares sampleClient.types :=
    declares_foldl_push _ (declares_foldl_push _ (World.declares_start _))
  have record : colourWorld.HasInstance sampleClient.types 6 5 sampleNode
      [("label", .string "a"), ("size", .int 1), ("links", .object 4)] :=
    ⟨by decide, rfl, rfl, by simp +decide⟩
  obtain ⟨widget, read, forms, world, failure, after, computed, reading⟩ :
      ∃ widget read forms world failure after, colourForm = (.ok ((widget, read), forms), world) ∧
        read.run world = (.error failure, after) := ⟨_, _, _, _, _, _, rfl, rfl⟩
  obtain ⟨r, world', done, form⟩ := record_form_read (by decide) sample_built
    (outline_readsQuietly _ colourEntered) declared record (by decide) .start
  obtain ⟨rfl, rfl⟩ := Prod.mk.inj (done.symm.trans computed)
  obtain ⟨parts, made, changes, stands, reads⟩ := form
  obtain ⟨-, -, entries, entries', before, record', -, outcome⟩ :=
    reads (declared.grows changes) stands reading
  exact ⟨widget, read, forms, _, failure, after, computed, reading, parts, entries, entries',
    made.names.symm, before, record', outcome⟩

/-- The links of the node cannot be read, but its label is another afterwards. -/
theorem form_not_allOrNothing :
    ∃ widget read forms world failure after, colourForm = (.ok ((widget, read), forms), world) ∧
      read.run world = (.error failure, after) ∧
      (getMember invoke (.object 6) "label").run world = (.ok (.string "a"), world) ∧
      (getMember invoke (.object 6) "label").run after = (.ok (.string "b"), after) :=
  ⟨_, _, _, _, _, _, rfl, rfl, rfl, rfl⟩

end ServiceClient

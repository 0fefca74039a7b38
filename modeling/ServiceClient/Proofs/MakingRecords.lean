import ServiceClient.Proofs.DeclaredWorlds
import ServiceClient.Proofs.NamePaths
import ServiceClient.Proofs.ReadValues

/-!
Making records in worlds whose types are as they were declared. A record is filled in its own
mapping, which is new (`run_makeRecord`); so making records, and reading them from what is on the
wire, leaves everything as it is that was there before (`makesRecords_invokeWithin`,
`allocates_itemOfWire`).
-/

namespace ServiceClient

/-! ## What is written -/

/-- What, done in a world, changes no objects but those with these numbers. -/
def Writes {α : Type} (written : List Nat) (world : World) (act : Run α) : Prop :=
  world.Changes written (act.run world).2

/-- What only makes new objects, wherever the types are as they were declared. -/
def Allocates {α : Type} (types : List RecordType) (act : Run α) : Prop :=
  ∀ world : World, world.Declares types → Writes [] world act

section

variable {α β : Type} {written : List Nat} {world world' : World}

theorem writes_of_run {act : Run α} {r : Except Failure α} (done : act.run world = (r, world'))
    (changes : world.Changes written world') : Writes written world act := by
  rw [Writes, done]
  exact changes

theorem Writes.of_run {act : Run α} {r : Except Failure α} (writes : Writes written world act)
    (done : act.run world = (r, world')) : world.Changes written world' := by
  rw [Writes, done] at writes
  exact writes

theorem writes_pure (a : α) : Writes written world (pure a : Run α) := .refl _ _

theorem writes_throw (failure : Failure) : Writes written world (throw failure : Run α) := .refl _ _

theorem Writes.bind {act : Run α} {next : α → Run β} (first : Writes written world act)
    (rest : ∀ a world', act.run world = (.ok a, world') → world.Changes written world' →
      Writes written world' (next a)) : Writes written world (act >>= next) := by
  rw [Writes] at first ⊢
  rw [run_bind]
  cases done : act.run world with
  | mk r world' =>
    rw [done] at first
    cases r with
    | ok a => exact first.trans (rest a world' done first)
    | error failure => exact first

theorem writes_bind {act : Run α} {next : α → Run β} {a : α}
    (done : act.run world = (.ok a, world)) (rest : Writes written world (next a)) :
    Writes written world (act >>= next) := by
  rw [Writes, run_bind, done]
  exact rest

variable {types : List RecordType}

theorem allocates_pure (a : α) : Allocates types (pure a : Run α) := fun _ _ => writes_pure a

theorem allocates_throw (failure : Failure) : Allocates types (throw failure : Run α) :=
  fun _ _ => writes_throw failure

theorem Allocates.bind {act : Run α} {next : α → Run β} (first : Allocates types act)
    (rest : ∀ a, Allocates types (next a)) : Allocates types (act >>= next) :=
  fun world declared => (first world declared).bind fun a world' _ changes =>
    rest a world' (declared.grows changes)

theorem Allocates.mapM {f : α → Run β} (each : ∀ a, Allocates types (f a)) (items : List α) :
    Allocates types (items.mapM f) := by
  induction items with
  | nil => exact allocates_pure []
  | cons a items ih =>
    rw [List.mapM_cons]
    exact (each a).bind fun b => ih.bind fun bs => allocates_pure (b :: bs)

theorem allocates_allocate (object : Object) : Allocates types (allocate object) :=
  fun world _ => changes_push world object

/-- Objects that are new since some world may be replaced without a change to what was there. -/
theorem World.Changes.beyond {a b c : World} (first : a.Changes [] b) (second : b.Changes written c)
    (new : ∀ id ∈ written, a.objects.size ≤ id) : a.Changes [] c where
  types := second.types.trans first.types
  absentType := second.absentType.trans first.absentType
  absentOwn := second.absentOwn.trans first.absentOwn
  size := Nat.le_trans first.size second.size
  kept id inside _ := by
    have old : id ∉ written := fun among => absurd (new id among) (Nat.not_le.mpr inside)
    rw [second.kept id (Nat.lt_of_lt_of_le inside first.size) old]
    exact first.kept id inside List.not_mem_nil

/-- The types stay as they were declared as long as nothing is replaced that was there from the
start. -/
theorem World.Declares.writes (declared : world.Declares types)
    (changes : world.Changes written world')
    (new : ∀ id ∈ written, (World.start types).objects.size ≤ id) : world'.Declares types where
  types := changes.types.trans declared.types
  absentType := changes.absentType.trans declared.absentType
  absentOwn := changes.absentOwn.trans declared.absentOwn
  size := Nat.le_trans declared.size changes.size
  kept id inside other := by
    have old : id ∉ written := fun among => absurd (new id among) (Nat.not_le.mpr inside)
    rw [changes.kept id (Nat.lt_of_lt_of_le inside declared.size) old]
    exact declared.kept id inside other

end

/-! ## The things of plain values -/

section

variable {types : List RecordType}

mutual

/-- Making the thing of a plain value makes new objects only. -/
theorem allocates_ofValue : (v : Value) → Allocates types (Item.ofValue v)
  | .null | .bool _ | .int _ | .string _ | .absent | .typeObject _ => allocates_pure _
  | .float x => by
    cases x with
    | nan => exact allocates_pure _
    | _ => exact allocates_pure _
  | .list items => by
    rw [Item.ofValue]
    exact (allocates_itemsOfValues items).bind fun made => allocates_allocate (.list made)
  | .tuple items => by
    rw [Item.ofValue]
    exact (allocates_itemsOfValues items).bind fun _ => allocates_pure _
  | .object entries => by
    rw [Item.ofValue]
    exact (allocates_entriesOfValues entries).bind fun made => allocates_allocate (.mapping made)
  | .record type values => by
    rw [Item.ofValue]
    refine (allocates_itemsOfValues values).bind fun items => ?_
    refine (allocates_allocate _).bind fun own => ?_
    cases own with
    | object own => exact allocates_allocate (.record type.name own)
    | _ => exact allocates_throw _

theorem allocates_itemsOfValues : (vs : List Value) → Allocates types (itemsOfValues vs)
  | [] => by
    rw [itemsOfValues]
    exact allocates_pure _
  | v :: vs => by
    rw [itemsOfValues]
    exact (allocates_ofValue v).bind fun _ =>
      (allocates_itemsOfValues vs).bind fun _ => allocates_pure _

theorem allocates_entriesOfValues :
    (entries : List (String × Value)) → Allocates types (entriesOfValues entries)
  | [] => by
    rw [entriesOfValues]
    exact allocates_pure _
  | (_, v) :: rest => by
    rw [entriesOfValues]
    exact (allocates_ofValue v).bind fun _ =>
      (allocates_entriesOfValues rest).bind fun _ => allocates_pure _

end

/-- A field has something in it before it is assigned. -/
theorem run_default (call : Call) (t : TypeRef) (world : World) :
    ∃ item world', (defaultItem call (.declared t)).run world = (.ok item, world') ∧
      world.Changes [] world' := by
  cases t with
  | primitive kind => cases kind <;> exact ⟨_, _, rfl, .refl _ _⟩
  | array element => exact ⟨_, _, rfl, changes_push world _⟩
  | named name => exact ⟨_, _, rfl, .refl _ _⟩

end

/-! ## Types and their members -/

section

variable {types : List RecordType} {world world' : World} (call : Call)

/-- A type gives the members that are set on it, but for those that follow from its making. -/
theorem run_getMember_ofType (declared : world.Declares types) {type : RecordType}
    {fields checks : Nat} (state : world.HasType type fields checks) {name : String}
    (plain : name ∉ [Member.title, Member.fullTitle, Member.base, Member.annotations] ∧
      name ∉ Member.fixedOnTypes ∧ name ∉ Member.ofTypeAlone) :
    (getMember call (.type type.name) name).run world =
      (match world.setOn? type.name name <|> givenOnType? type.name name with
        | some item => (.ok item, world)
        | none => (.error (.misuse .noMember), world)) := by
  obtain ⟨other, notFixed, notAlone⟩ := plain
  simp only [List.mem_cons, List.not_mem_nil, or_false, not_or] at other
  obtain ⟨notTitle, notFull, notBase, notNotes⟩ := other
  have typed : (typeState? type.name).run world =
      (.ok (some (World.declare type fields checks)), world) :=
    congrArg (fun state? => (Except.ok state?, world)) state.1
  unfold getMember
  rw [run_bind_objectOf?]
  simp only [World.object?]
  rw [run_bind, typed]
  unfold memberOfType
  simp only [beq_eq_false_iff_ne.mpr notTitle, beq_eq_false_iff_ne.mpr notFull,
    beq_eq_false_iff_ne.mpr notBase, beq_eq_false_iff_ne.mpr notNotes,
    List.contains_eq_mem, notFixed, notAlone, decide_false, Bool.false_eq_true, if_false]
  rw [run_bind, declared.run_setOnTypes?]
  cases world.setOn? type.name name with
  | some item => exact declared.run_attach call item .null type.name
  | none =>
    cases givenOnType? type.name name with
    | some item => rfl
    | none => rfl

theorem run_fields_ofType (sound : WellDeclared types) (declared : world.Declares types)
    {type : RecordType} (member : type ∈ types) :
    ∃ fields, (getMember call (.type type.name) Member.fields).run world =
        (.ok (.object fields), world) ∧
      world.objects[fields]? =
        some (.mapping (type.fields.map fun f => (f.1, .declared f.2))) := by
  obtain ⟨fields, checks, state⟩ := declared.hasType sound.names member
  have set : world.setOn? type.name Member.fields = some (.object fields) := by
    rw [World.setOn?, state.1]
    rfl
  refine ⟨fields, ?_, state.2.1⟩
  rw [run_getMember_ofType call declared state (by decide), set]
  rfl

theorem run_types_ofType (sound : WellDeclared types) (declared : world.Declares types)
    {type : RecordType} (member : type ∈ types) :
    (getMember call (.type type.name) Member.types).run world =
      (.ok (.object World.typeTable), world) := by
  obtain ⟨fields, checks, state⟩ := declared.hasType sound.names member
  have set : world.setOn? type.name Member.types = some (.object World.typeTable) := by
    rw [World.setOn?, state.1]
    rfl
  rw [run_getMember_ofType call declared state (by decide), set]
  rfl

theorem run_wireReader_ofType (sound : WellDeclared types) (declared : world.Declares types)
    {type : RecordType} (member : type ∈ types) :
    (getMember call (.type type.name) Member.wireReader).run world =
      (.ok (.bound Member.wireReader (.type type.name)), world) := by
  obtain ⟨fields, checks, state⟩ := declared.hasType sound.names member
  rw [run_getMember_ofType call declared state (by decide),
    declared.setOn?_eq_none (by decide)]
  rfl

/-! ## Filling records -/

variable {id own : Nat} {type : RecordType} {entries : List (String × Item)}

/-- A world with other members in a mapping. -/
def World.withEntries (world : World) (own : Nat) (entries : List (String × Item)) : World :=
  { world with objects := world.objects.setIfInBounds own (.mapping entries) }

theorem changes_withEntries (world : World) (own : Nat) (entries : List (String × Item)) :
    world.Changes [own] (world.withEntries own entries) := changes_set world own _

namespace World.HasInstance

theorem own_ne (record : world.HasInstance types id own type entries) : id ≠ own := by
  rintro rfl
  cases record.object.symm.trans record.own

theorem put (record : world.HasInstance types id own type entries) {name : String}
    (free : isReserved name = false) (v : Item) :
    (world.withEntries own (putEntry name v entries)).HasInstance types id own type
      (putEntry name v entries) where
  declared := record.declared
  object := (changes_withEntries world own _).getElem? record.object
    fun among => record.own_ne (List.mem_singleton.mp among)
  own := Array.getElem?_setIfInBounds_self_of_lt (Array.getElem?_eq_some_iff.mp record.own).1
  free e member := by
    rcases Json.mem_putEntry member with rfl | before
    · exact free
    · exact record.free e before

/-- Setting a field of a record sets it in the record's own mapping. -/
theorem run_setMember (record : world.HasInstance types id own type entries)
    (declared : world.Declares types) {name : String} (free : isReserved name = false) (v : Item) :
    (setMember call (.object id) name v).run world =
      (.ok (), world.withEntries own (putEntry name v entries)) := by
  have apart (taken : String) (reserved : isReserved taken = true) : (name == taken) = false := by
    refine beq_eq_false_iff_ne.mpr ?_
    rintro rfl
    rw [free] at reserved
    cases reserved
  unfold setMember
  rw [run_bind_objectOf?, World.object?, record.object]
  simp only
  rw [run_bind, declared.run_special? call (by decide)]
  simp only [setFound]
  rw [run_bind, declared.run_setOnTypes?, declared.setOn?_eq_none_of_free free]
  simp only [apart Member.type (by decide), apart Member.own (by decide), setOwn,
    apart Member.weakReference (by decide), Bool.false_eq_true, if_false, setEntry]
  rw [run_bind, run_entriesAt record.own]
  rfl

end World.HasInstance

theorem keysIn_names (names : List String) :
    (keysIn call (names.map .string)).run world = (.ok (names.map some), world) := by
  induction names with
  | nil => rfl
  | cons name names ih =>
    rw [List.map_cons, keysIn, run_bind, ih]
    rfl

/-- What fills a record of a world: it changes nothing but the record's own members, and succeeds
where it has to. -/
structure Fills (types : List RecordType) (world : World) (id own : Nat) (type : RecordType)
    (succeeds : Prop) (act : Run Unit) : Prop where
  writes : Writes [own] world act
  record : ∃ entries, (act.run world).2.HasInstance types id own type entries
  done : succeeds → (act.run world).1 = .ok ()

section

variable {succeeds : Prop}

theorem fills_bind {α : Type} {act : Run α} {next : α → Run Unit} {a : α}
    (first : act.run world = (.ok a, world))
    (rest : Fills types world id own type succeeds (next a)) :
    Fills types world id own type succeeds (act >>= next) := by
  obtain ⟨writes, ⟨entries, record⟩, done⟩ := rest
  refine ⟨writes_bind first writes, ⟨entries, ?_⟩, fun sure => ?_⟩
  · rwa [run_bind, first]
  · rw [run_bind, first]
    exact done sure

theorem World.HasInstance.fills_of_leaves {act : Run Unit}
    (record : world.HasInstance types id own type entries) (leaves : Leaves world act)
    (fails : ¬succeeds) : Fills types world id own type succeeds act where
  writes := by
    rw [Writes, leaves]
    exact .refl _ _
  record := ⟨entries, by rwa [leaves]⟩
  done sure := absurd sure fails

end

namespace World.HasInstance

/-- Setting the fields of a record always succeeds, and changes nothing but its own members. -/
theorem run_setFields (given : List (String × Item)) (fields : List (String × TypeRef))
    (record : world.HasInstance types id own type entries) (declared : world.Declares types)
    (new : (World.start types).objects.size ≤ own)
    (free : ∀ f ∈ fields, isReserved f.1 = false) :
    ∃ world' entries', (setFields call (.object id) given
        (fields.map fun f => (f.1, .declared f.2))).run world = (.ok (), world') ∧
      world.Changes [own] world' ∧ world'.HasInstance types id own type entries' := by
  induction fields generalizing world entries with
  | nil => exact ⟨world, entries, rfl, .refl _ _, record⟩
  | cons f fields ih =>
    obtain ⟨freeHere, freeLater⟩ := List.forall_mem_cons.mp free
    have old : ∀ id ∈ [own], (World.start types).objects.size ≤ id := by simpa using new
    have filled (v : Item) (world₁ : World) (changes : world.Changes [] world₁) :
        ∃ world' entries', (do
            setMember call (.object id) f.1 v
            setFields call (.object id) given (fields.map fun f => (f.1, .declared f.2))
            : Run Unit).run world₁ = (.ok (), world') ∧
          world.Changes [own] world' ∧ world'.HasInstance types id own type entries' := by
      have record₁ := record.keep changes List.not_mem_nil List.not_mem_nil
      have written := changes_withEntries world₁ own (putEntry f.1 v entries)
      obtain ⟨world', entries', rest, changes', record'⟩ := ih (record₁.put freeHere v)
        ((declared.grows changes).writes written old) freeLater
      refine ⟨world', entries', ?_, ((changes.mono (by simp)).trans written).trans changes',
        record'⟩
      rw [run_bind, record₁.run_setMember call (declared.grows changes) freeHere]
      exact rest
    rw [List.map_cons, setFields]
    cases given.lookup f.1 with
    | some v => exact filled v world (.refl _ _)
    | none =>
      obtain ⟨v, world₁, done, changes⟩ := run_default call f.2 world
      obtain ⟨world', entries', rest, changes', record'⟩ := filled v world₁ changes
      refine ⟨world', entries', ?_, changes', record'⟩
      simp only
      rw [run_bind, done]
      exact rest

theorem fills_setFields (given : List (String × Item)) (fields : List (String × TypeRef))
    (record : world.HasInstance types id own type entries) (declared : world.Declares types)
    (new : (World.start types).objects.size ≤ own)
    (free : ∀ f ∈ fields, isReserved f.1 = false) {succeeds : Prop} :
    Fills types world id own type succeeds (setFields call (.object id) given
      (fields.map fun f => (f.1, .declared f.2))) := by
  obtain ⟨world', entries', done, changes, record'⟩ :=
    record.run_setFields call given fields declared new free
  refine ⟨writes_of_run done changes, ⟨entries', ?_⟩, fun _ => ?_⟩
  · rwa [done]
  · rw [done]

theorem run_calledText (record : world.HasInstance types id own type entries)
    (sound : WellDeclared types) (declared : world.Declares types) :
    (calledText call (.object id)).run world = (.ok type.name, world) := by
  rw [calledText, run_bind, record.run_typeName call sound declared]
  rfl

/-- Joining values by name to those by position changes nothing. -/
theorem leaves_joinNamed (record : world.HasInstance types id own type entries)
    (sound : WellDeclared types) (declared : world.Declares types) (named : List (String × Item)) :
    ∀ given, Leaves world (joinNamed call (.object id) given named) := by
  obtain ⟨fields, found, mapping⟩ := record.run_fields call sound declared
  induction named with
  | nil => exact fun given => leaves_pure _
  | cons e named ih =>
    intro given
    have refused {α : Type} (fault : String → Failure) (rest : Run α) :
        Leaves world (do throw (fault (← calledText call (.object id))); rest) :=
      (leaves_of_run (record.run_calledText call sound declared)).bind fun name _ =>
        (leaves_throw (fault name)).bind fun _ thrown => by cases thrown
    rw [joinNamed, Leaves, run_bind, found]
    simp only
    rw [run_bind, run_contains call mapping]
    simp only
    split
    · split
      · exact refused (fun name => .binding (.type name) (.twice e.1)) _
      · exact ih _
    · exact refused (fun name => .binding (.type name) (.unknown e.1)) _

/-- Filling a record succeeds where no values are given. -/
theorem fills_fillRecord (record : world.HasInstance types id own type entries)
    (sound : WellDeclared types) (declared : world.Declares types)
    (new : (World.start types).objects.size ≤ own) (args : List Item)
    (named : List (String × Item)) :
    Fills types world id own type (args = [] ∧ named = []) (fillRecord call (.object id) args named)
    := by
  obtain ⟨fields, found, mapping⟩ := record.run_fields call sound declared
  have free : ∀ f ∈ type.fields, isReserved f.1 = false := fun f member =>
    sound.unreserved type record.declared f.1 (List.mem_map_of_mem member)
  unfold fillRecord
  cases receiver : refuseReceiver named with
  | error failure =>
    refine record.fills_of_leaves (leaves_throw failure) fun blank => ?_
    rw [blank.2] at receiver
    cases receiver
  | ok _ =>
    refine fills_bind rfl (fills_bind found (fills_bind (run_length call mapping) ?_))
    split
    · rename_i many
      refine record.fills_of_leaves ?_ fun blank => ?_
      · refine (leaves_of_run (record.run_calledText call sound declared)).bind fun name _ => ?_
        refine leaves_bind found (leaves_bind (run_length call mapping) ?_)
        exact (leaves_throw _).bind fun _ thrown => by cases thrown
      · rw [blank.1] at many
        cases many
    · refine fills_bind found (fills_bind (run_itemsOf call mapping) ?_)
      have names : ((type.fields.map fun f => (f.1, Item.declared f.2)).map fun e =>
          Item.string e.1).take args.length = (type.fieldNames.take args.length).map .string := by
        rw [List.map_take, RecordType.fieldNames, List.map_map, List.map_map]
        rfl
      rw [names]
      refine fills_bind (keysIn_names call _) ?_
      set given := (((type.fieldNames.take args.length).map some).zip args).filterMap
        fun e => e.1.map (·, e.2)
      have leaves := record.leaves_joinNamed call sound declared named given
      cases joined : (joinNamed call (.object id) given named).run world with
      | mk r world' =>
        rw [Leaves, joined] at leaves
        obtain rfl : world' = world := leaves
        cases r with
        | ok given =>
          refine fills_bind joined (fills_bind found (fills_bind (run_entriesOf call mapping) ?_))
          exact record.fills_setFields call given type.fields declared new free
        | error failure =>
          refine record.fills_of_leaves ?_ fun blank => ?_
          · refine (leaves_of_run joined).bind fun _ done => ?_
            rw [joined] at done
            cases done
          · rw [blank.2] at joined
            cases joined

end World.HasInstance

/-! ## Making records -/

/-- A world with a record in it that has no members of its own yet. -/
def World.withRecord (world : World) (type : String) : World :=
  { world with
    objects := (world.objects.push (.mapping [])).push (.record type world.objects.size) }

theorem changes_withRecord (world : World) (type : String) :
    world.Changes [] (world.withRecord type) :=
  (changes_push world (.mapping [])).trans (changes_push _ (.record type world.objects.size))

theorem hasInstance_withRecord (member : type ∈ types) :
    (world.withRecord type.name).HasInstance types (world.objects.size + 1) world.objects.size type
      [] where
  declared := member
  object := by
    have last : (world.objects.push (.mapping [])).size = world.objects.size + 1 :=
      Array.size_push ..
    rw [World.withRecord, ← last]
    exact Array.getElem?_push_size
  own := (changes_push { world with objects := world.objects.push (.mapping []) }
    (.record type.name world.objects.size)).getElem? Array.getElem?_push_size List.not_mem_nil
  free e member := absurd member List.not_mem_nil

/-- A record is made first and filled then. -/
theorem run_makeRecord_eq (sound : WellDeclared types) (declared : world.Declares types)
    (member : type ∈ types) (args : List Item) (named : List (String × Item)) :
    (makeRecord call type.name args named).run world =
      (do
        fillRecord call (.object (world.objects.size + 1)) args named
        return .object (world.objects.size + 1) : Run Item).run (world.withRecord type.name) := by
  obtain ⟨fields, checks, state⟩ := declared.hasType sound.names member
  have typed : (typeState? type.name).run world =
      (.ok (some (World.declare type fields checks)), world) :=
    congrArg (fun state? => (Except.ok state?, world)) state.1
  have empty : (emptyRecord type.name).run world =
      (.ok (.object (world.objects.size + 1)), world.withRecord type.name) := by
    have last : (world.objects.push (.mapping [])).size = world.objects.size + 1 :=
      Array.size_push ..
    rw [World.withRecord, ← last]
    rfl
  have declared' := declared.grows (changes_withRecord world type.name)
  unfold makeRecord
  rw [run_bind, declared.run_setOnTypes?, declared.setOn?_eq_none (by decide)]
  simp only
  rw [run_bind, typed]
  simp only [Option.map_some, World.declare, Option.getD_some, Bool.false_eq_true, if_false]
  rw [run_bind, empty]
  simp only
  rw [run_bind, initialise, run_bind, declared'.run_special? call (by decide), run_bind]

/-- The new record is filled, and nothing that was there before is changed. -/
theorem fills_withRecord (sound : WellDeclared types) (declared : world.Declares types)
    (member : type ∈ types) (args : List Item) (named : List (String × Item)) :
    Fills types (world.withRecord type.name) (world.objects.size + 1) world.objects.size type
      (args = [] ∧ named = [])
      (fillRecord call (.object (world.objects.size + 1)) args named) :=
  (hasInstance_withRecord member).fills_fillRecord call sound
    (declared.grows (changes_withRecord world type.name)) declared.size args named

/-- Making a record changes nothing that was there before. -/
theorem allocates_makeRecord (sound : WellDeclared types) (member : type ∈ types)
    (args : List Item) (named : List (String × Item)) :
    Allocates types (makeRecord call type.name args named) := by
  intro world declared
  have fills := fills_withRecord call sound declared member args named
  have writes := fills.writes.bind fun _ _ _ _ =>
    writes_pure (Item.object (world.objects.size + 1))
  rw [Writes, run_makeRecord_eq call sound declared member]
  exact (changes_withRecord world type.name).beyond writes (by simp)

/-- A record is made of a type where no values are given for its fields. -/
theorem run_makeRecord_blank (sound : WellDeclared types) (declared : world.Declares types)
    (member : type ∈ types) :
    ∃ world' entries, (makeRecord call type.name [] []).run world =
        (.ok (.object (world.objects.size + 1)), world') ∧
      world.Changes [] world' ∧
      world'.HasInstance types (world.objects.size + 1) world.objects.size type entries := by
  obtain ⟨writes, ⟨entries, record⟩, done⟩ := fills_withRecord call sound declared member [] []
  have changes := (changes_withRecord world type.name).beyond writes (by simp)
  rw [run_makeRecord_eq call sound declared member, run_bind]
  cases filled : (fillRecord call (.object (world.objects.size + 1)) [] []).run
      (world.withRecord type.name) with
  | mk r world' =>
    rw [filled] at record changes done
    obtain rfl : r = .ok () := done ⟨rfl, rfl⟩
    exact ⟨world', entries, rfl, changes, record⟩

/-! ## Reading what is on the wire -/

/-- Calling a type, or what reads records of one from mappings, changes nothing that was there
before. -/
structure MakesRecords (types : List RecordType) (call : Call) : Prop where
  make : ∀ type ∈ types, ∀ args named, Allocates types (call (.type type.name) args named)
  read : ∀ type ∈ types, ∀ (world : World) (id : Nat) (entries : List (String × Item)),
    world.Declares types → world.objects[id]? = some (.mapping entries) →
      Writes [] world (call (.bound Member.wireReader (.type type.name)) [.object id] [])

variable {call : Call}

theorem allocates_askType (item : Item) : Allocates types (askType call item) := fun _ declared =>
  writes_of_run (declared.run_askType call item) (.refl _ _)

/-- The table of the types has a type under each of their names. -/
theorem lookup_typeTable (types : List RecordType) (name : String) :
    (types.map fun type => (type.name, Item.type type.name)).lookup name =
      (findType? types name).map fun type => .type type.name := by
  induction types with
  | nil => rfl
  | cons type types ih =>
    rw [List.map_cons, lookup_cons_eq, ih, findType?, findType?, List.find?_cons]
    by_cases same : name = type.name
    · simp [same]
    · rw [if_neg same, beq_eq_false_iff_ne.mpr (Ne.symm same)]

/-- Making records of what is on the wire changes nothing that was there before. -/
theorem allocates_itemOfWire (sound : WellDeclared types) (makes : MakesRecords types call)
    (t : TypeRef) : ∀ item,
      Allocates types (itemOfWire call (.object World.typeTable) t item) := by
  induction t with
  | primitive kind => exact fun item => allocates_pure item
  | array element ih =>
    intro item world declared
    rw [itemOfWire]
    refine writes_bind (run_objectOf? item world) ?_
    split
    · rename_i items _
      exact ((Allocates.mapM ih items).bind fun made => allocates_allocate (.list made)) world
        declared
    · exact ((allocates_askType item).bind fun _ => allocates_pure item) world declared
  | named name =>
    intro item world declared
    rw [itemOfWire]
    refine writes_bind (run_contains call declared.typeTable name) ?_
    rw [lookup_typeTable]
    cases found : findType? types name with
    | none => exact writes_pure item
    | some type =>
      obtain ⟨member, rfl⟩ := mem_of_findType? found
      simp only [Option.map_some, Option.isSome_some, if_true]
      refine writes_bind (run_objectOf? item world) ?_
      split
      · rename_i entries mapping
        cases item with
        | object id =>
          have typed : (types.map fun type => (type.name, Item.type type.name)).lookup type.name =
              some (.type type.name) := by
            rw [lookup_typeTable, found, Option.map_some]
          refine writes_bind (run_itemAt call declared.typeTable typed) ?_
          refine writes_bind (run_wireReader_ofType call sound declared member) ?_
          exact makes.read type member world id entries declared mapping
        | absent =>
          rw [World.object?, declared.absentType] at mapping
          cases mapping
        | _ => cases mapping
      · exact ((allocates_askType item).bind fun _ => allocates_pure item) world declared

/-- A record is read from the wire without a change to what was there before. -/
theorem writes_recordOfWire (sound : WellDeclared types) (makes : MakesRecords types call)
    (declared : world.Declares types) (member : type ∈ types) {id : Nat}
    {entries : List (String × Item)} (here : world.objects[id]? = some (.mapping entries)) :
    Writes [] world (recordOfWire call (.type type.name) (.object id)) := by
  have read (entries : List (String × Item)) :
      Allocates types (readEntries call (.type type.name) entries) := by
    induction entries with
    | nil => exact allocates_pure []
    | cons e entries ih =>
      intro world declared
      obtain ⟨fields, found, mapping⟩ := run_fields_ofType call sound declared member
      have rest (v : Item) : Allocates types (do
          return (e.1, v) :: (← readEntries call (.type type.name) entries) : Run _) :=
        ih.bind fun rest => allocates_pure ((e.1, v) :: rest)
      rw [readEntries]
      refine writes_bind found (writes_bind (run_entryOrNull call mapping e.1) ?_)
      cases typed : (type.fields.map fun f => (f.1, Item.declared f.2)).lookup e.1 with
      | none =>
        have untrue : (truth call .null).run world = (.ok false, world) := rfl
        exact writes_bind untrue (rest e.2 world declared)
      | some t =>
        obtain ⟨f, -, same⟩ := List.mem_map.mp (mem_of_lookup typed)
        obtain ⟨-, rfl⟩ := Prod.mk.inj same
        have isTrue : (truth call (.declared f.2)).run world = (.ok true, world) := rfl
        refine writes_bind isTrue ?_
        refine writes_bind (run_types_ofType call sound declared member) ?_
        exact ((allocates_itemOfWire sound makes f.2 e.2).bind rest) world declared
  rw [recordOfWire]
  refine writes_bind (run_entriesOf call here) ?_
  exact ((read entries).bind fun named => makes.make type member [] named) world declared

theorem makesRecords_invokeWithin (sound : WellDeclared types) (limit : Nat) :
    MakesRecords types (invokeWithin limit) := by
  induction limit with
  | zero => exact ⟨fun _ _ _ _ => allocates_throw _, fun _ _ _ _ _ _ _ => writes_throw _⟩
  | succ limit ih =>
    refine ⟨fun type member args named => ?_, fun type member world id entries declared here => ?_⟩
    · exact allocates_makeRecord (invokeWithin limit) sound member args named
    · exact writes_recordOfWire sound ih declared member here

end

end ServiceClient

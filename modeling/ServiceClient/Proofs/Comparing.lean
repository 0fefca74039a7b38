import ServiceClient.Proofs.DeclaredWorlds
import ServiceClient.Proofs.Equality

/-!
Comparing things in a session. Comparing goes through records by the names of their members, through
lists and mappings item by item, and takes one thing to stand for itself. In a world whose types are
as they were declared it comes to the equality of the values that the things hold
(`compares_compareWithin`).
-/

namespace ServiceClient

/-! ## What is compared -/

/-- A value that can be compared: no mapping in it has a key twice, and nothing in it is not equal
to itself. -/
structure Value.Comparable (v : Value) : Prop where
  regular : v.isRegular = true
  numbers : v.everywhere Value.isNotNan = true

namespace Value.Comparable

theorem of_list {vs : List Value} (comparable : (Value.list vs).Comparable) :
    ∀ v ∈ vs, v.Comparable := fun v member =>
  ⟨(everywhere_list.mp comparable.regular).2 v member,
    (everywhere_list.mp comparable.numbers).2 v member⟩

theorem of_tuple {vs : List Value} (comparable : (Value.tuple vs).Comparable) :
    ∀ v ∈ vs, v.Comparable := fun v member =>
  ⟨(everywhere_tuple.mp comparable.regular).2 v member,
    (everywhere_tuple.mp comparable.numbers).2 v member⟩

theorem of_record {type : RecordType} {vs : List Value}
    (comparable : (Value.record type vs).Comparable) : ∀ v ∈ vs, v.Comparable := fun v member =>
  ⟨(everywhere_record.mp comparable.regular).2 v member,
    (everywhere_record.mp comparable.numbers).2 v member⟩

theorem of_object {out : List (String × Value)} (comparable : (Value.object out).Comparable) :
    ∀ e ∈ out, e.2.Comparable := fun e member =>
  ⟨(everywhere_object.mp comparable.regular).2 e member,
    (everywhere_object.mp comparable.numbers).2 e member⟩

end Value.Comparable

section

variable {types : List RecordType} {world : World}

theorem eq_of_isOne {x y : Item} {v : Value} (held : world.Holds types x v)
    (one : x.isOne y = true) : x = y := by
  cases held with
  | simple same => cases x <;> cases y <;> simp_all [Item.isOne, Item.simple?]
  | absent | type | tuple | list | mapping | record => cases y <;> simp_all [Item.isOne]

theorem World.HasRecord.eq {id own own' : Nat} {s t : RecordType} {xs ys : List (String × Item)}
    (first : world.HasRecord types id own s xs) (second : world.HasRecord types id own' t ys) :
    s.name = t.name ∧ xs = ys := by
  have same := Object.record.inj (Option.some.inj (first.object.symm.trans second.object))
  obtain rfl := same.2
  exact ⟨same.1, Object.mapping.inj (Option.some.inj (first.own.symm.trans second.own))⟩

theorem equalItems_of_holds {items : List Item} {vs ws : List Value}
    (first : List.Forall₂ (world.Holds types) items vs)
    (second : List.Forall₂ (world.Holds types) items ws)
    (same : ∀ v ∈ vs, ∀ item w, world.Holds types item v → world.Holds types item w →
      v.equal w = true) : List.Forall₂ (fun v w => v.equal w = true) vs ws := by
  induction first generalizing ws with
  | nil =>
    cases second
    exact .nil
  | cons here _ ih =>
    cases second with
    | cons here' second =>
      refine .cons (same _ List.mem_cons_self _ _ here here') (ih second ?_)
      exact fun v member => same v (List.mem_cons_of_mem _ member)

/-- Two values that one item holds are equal. -/
theorem equal_of_holds (v : Value) : ∀ {item : Item} {w : Value}, world.Holds types item v →
    world.Holds types item w → v.Comparable → v.equal w = true := by
  induction v using Value.partsInduction with
  | leaf v leaf =>
    intro item w first second comparable
    have self := Value.equal_self v comparable.regular comparable.numbers
    cases first with
    | simple same =>
      cases second with
      | simple same' => rwa [← Option.some.inj (same.symm.trans same')]
      | _ => cases same
    | absent =>
      cases second with
      | simple same => cases same
      | absent => rfl
    | type type =>
      generalize held : Item.type type.name = item at second
      cases second with
      | type type' => simpa [Value.equal] using held
      | simple same => subst held; cases same
      | _ => cases held
    | list | tuple | mapping | record => cases leaf
  | list vs ih =>
    intro item w first second comparable
    cases first with
    | simple same => cases item <;> cases same
    | list here each =>
      cases second with
      | simple same => cases same
      | list here' each' =>
        obtain rfl := Object.list.inj (Option.some.inj (here.symm.trans here'))
        refine Value.equal_list.mpr ⟨_, rfl, equalItems_of_holds each each' ?_⟩
        exact fun v member item w held held' =>
          ih v member held held' (comparable.of_list v member)
      | mapping here' => cases here.symm.trans here'
      | record here' => cases here.symm.trans here'.object
  | tuple vs ih =>
    intro item w first second comparable
    cases first with
    | simple same => cases item <;> cases same
    | tuple each =>
      cases second with
      | simple same => cases same
      | tuple each' =>
        refine Value.equal_tuple.mpr ⟨_, rfl, equalItems_of_holds each each' ?_⟩
        exact fun v member item w held held' =>
          ih v member held held' (comparable.of_tuple v member)
  | object out ih =>
    intro item w first second comparable
    cases first with
    | simple same => cases item <;> cases same
    | mapping here distinct keys each =>
      cases second with
      | simple same => cases same
      | list here' => cases here.symm.trans here'
      | mapping here' _ keys' each' =>
        obtain rfl := Object.mapping.inj (Option.some.inj (here.symm.trans here'))
        refine equal_object_of_forall₂ (keys' ▸ keys ▸ distinct) ?_
        refine forall₂_entries (keys.symm.trans keys') (equalItems_of_holds each each' ?_)
        intro v member item w held held'
        obtain ⟨e, entry, rfl⟩ := List.mem_map.mp member
        exact ih e entry held held' (comparable.of_object e entry)
      | record here' => cases here.symm.trans here'.object
  | record type vs ih =>
    intro item w first second comparable
    cases first with
    | simple same => cases item <;> cases same
    | record here each =>
      cases second with
      | simple same => cases same
      | list here' => cases here'.symm.trans here.object
      | mapping here' => cases here'.symm.trans here.object
      | record here' each' =>
        obtain ⟨named, rfl⟩ := here.eq here'
        refine Value.equal_record.mpr ⟨_, _, rfl, named, equalItems_of_holds each each' ?_⟩
        exact fun v member item w held held' =>
          ih v member held held' (comparable.of_record v member)

/-! ## Comparing -/

/-- Whether a value is what JSON has that is no list and no mapping. -/
def Value.isSimple : Value → Bool
  | .null | .bool _ | .int _ | .float _ | .string _ => true
  | _ => false

theorem isSimple_of_simple? {x : Item} {v : Value} (same : x.simple? = some v) :
    v.isSimple = true := by
  cases x <;> cases same <;> rfl

theorem sameAmount_comm (v w : Value) : v.sameAmount w = w.sameAmount v := by
  rw [Bool.eq_iff_iff, Value.sameAmount_iff, Value.sameAmount_iff]
  simp only [and_comm]

/-- What is simple equals nothing that is not, whichever of them comes first. -/
theorem equal_simple_other {v w : Value} (simple : v.isSimple = true) (other : w.isSimple = false) :
    v.equal w = false ∧ w.equal v = false := by
  have unequal : w.sameAmount v = false := by
    cases w with
    | null | bool | int | float | string => cases other
    | _ => rfl
  have unequal' : v.sameAmount w = false := by rw [sameAmount_comm, unequal]
  cases v with
  | list | tuple | object | absent | typeObject | record => cases simple
  | _ =>
    cases w with
    | null | bool | int | float | string => cases other
    | _ => exact ⟨unequal', unequal⟩

theorem run_truth_bool (call : Call) (b : Bool) (world : World) :
    (truth call (.bool b)).run world = (.ok b, world) := rfl

/-- Comparing things that hold values no deeper than that answers whether these are equal. -/
def Compares (types : List RecordType) (world : World)
    (compare : Relation → Item → Item → Run Item) (bound : Nat) : Prop :=
  ∀ (relation : Relation) (x y : Item) (v w : Value), world.Holds types x v →
    world.Holds types y w → v.Comparable → v.depth < bound →
      (compare relation x y).run world = (.ok (relation.answer (v.equal w)), world)

section

variable {call : Call} {compare : Relation → Item → Item → Run Item} {bound : Nat}

theorem run_holdsInside (compares : Compares types world compare bound) {x y : Item} {v w : Value}
    (held : world.Holds types x v) (held' : world.Holds types y w) (comparable : v.Comparable)
    (deep : v.depth < bound) :
    (holdsInside call compare x y).run world = (.ok (v.equal w), world) := by
  rw [holdsInside]
  cases one : x.isOne y with
  | true =>
    obtain rfl := eq_of_isOne held one
    rw [equal_of_holds v held held' comparable]
    rfl
  | false =>
    simp only [Bool.false_eq_true, if_false]
    rw [run_bind, compares .equal x y v w held held' comparable deep]
    exact run_truth_bool call _ world

theorem run_equalInside (compares : Compares types world compare bound) {xs ys : List Item}
    {vs ws : List Value} (each : List.Forall₂ (world.Holds types) xs vs)
    (each' : List.Forall₂ (world.Holds types) ys ws) (comparable : ∀ v ∈ vs, v.Comparable)
    (deep : ∀ v ∈ vs, v.depth < bound) :
    (equalInside call compare xs ys).run world = (.ok (Value.equalItems vs ws), world) := by
  induction each generalizing ys ws with
  | nil => cases each' <;> rfl
  | cons here _ ih =>
    cases each' with
    | nil => rfl
    | cons here' each' =>
      obtain ⟨comparableHere, comparable⟩ := List.forall_mem_cons.mp comparable
      obtain ⟨deepHere, deep⟩ := List.forall_mem_cons.mp deep
      rw [equalInside, run_bind, run_holdsInside compares here here' comparableHere deepHere,
        Value.equalItems]
      cases Value.equal _ _ with
      | true => exact ih each' comparable deep
      | false => rfl

theorem run_entriesInside (compares : Compares types world compare bound)
    {xs ys : List (String × Item)} {vs ws : List (String × Value)}
    (each : List.Forall₂ (fun e e' => e.1 = e'.1 ∧ world.Holds types e.2 e'.2) xs vs)
    (each' : List.Forall₂ (fun e e' => e.1 = e'.1 ∧ world.Holds types e.2 e'.2) ys ws)
    (comparable : ∀ e ∈ vs, e.2.Comparable) (deep : ∀ e ∈ vs, e.2.depth < bound) :
    (entriesInside call compare xs ys).run world = (.ok (Value.equalEntries vs ws), world) := by
  induction each with
  | nil => rfl
  | @cons e e' _ _ here _ ih =>
    obtain ⟨key, x⟩ := e
    obtain ⟨key', v⟩ := e'
    obtain ⟨rfl, held⟩ := here
    obtain ⟨comparableHere, comparable⟩ := List.forall_mem_cons.mp comparable
    obtain ⟨deepHere, deep⟩ := List.forall_mem_cons.mp deep
    rw [entriesInside, Value.equalEntries]
    rcases forall₂_lookup each' (fun _ _ here => here.1) key with
      ⟨missing, missing'⟩ | ⟨y, w, found, found', -, held'⟩
    · rw [missing, missing']
      rfl
    · rw [found, found']
      simp only
      rw [run_bind, run_holdsInside compares held held' comparableHere deepHere]
      cases v.equal w with
      | true => exact ih comparable deep
      | false => rfl

/-- Lists are equal if they are as long as each other and equal item by item. -/
theorem run_equalLists (compares : Compares types world compare bound) {xs ys : List Item}
    {vs ws : List Value} (each : List.Forall₂ (world.Holds types) xs vs)
    (each' : List.Forall₂ (world.Holds types) ys ws) (comparable : ∀ v ∈ vs, v.Comparable)
    (deep : ∀ v ∈ vs, v.depth < bound) :
    (if xs.length == ys.length then equalInside call compare xs ys else return false :
      Run Bool).run world = (.ok ((Value.list vs).equal (.list ws)), world) := by
  rw [each.length_eq, each'.length_eq]
  by_cases sized : vs.length = ws.length
  · rw [if_pos (beq_iff_eq.mpr sized)]
    exact run_equalInside compares each each' comparable deep
  · rw [if_neg (by simpa using sized)]
    have unequal : (Value.list vs).equal (.list ws) = false := by
      refine Bool.eq_false_iff.mpr fun same => sized ?_
      obtain ⟨ws', same, each⟩ := Value.equal_list.mp same
      obtain rfl := Value.list.inj same
      exact each.length_eq
    rw [unequal]
    rfl

/-- Mappings are equal if they have as many entries as each other and each has its equal. -/
theorem run_equalMappings (compares : Compares types world compare bound)
    {xs ys : List (String × Item)} {vs ws : List (String × Value)}
    (each : List.Forall₂ (fun e e' => e.1 = e'.1 ∧ world.Holds types e.2 e'.2) xs vs)
    (each' : List.Forall₂ (fun e e' => e.1 = e'.1 ∧ world.Holds types e.2 e'.2) ys ws)
    (comparable : ∀ e ∈ vs, e.2.Comparable) (deep : ∀ e ∈ vs, e.2.depth < bound) :
    (if xs.length == ys.length then entriesInside call compare xs ys else return false :
      Run Bool).run world = (.ok ((Value.object vs).equal (.object ws)), world) := by
  rw [each.length_eq, each'.length_eq, Value.equal]
  by_cases sized : vs.length = ws.length
  · rw [if_pos (beq_iff_eq.mpr sized), beq_iff_eq.mpr sized, Bool.true_and]
    exact run_entriesInside compares each each' comparable deep
  · rw [if_neg (by simpa using sized), beq_eq_false_iff_ne.mpr sized, Bool.false_and]
    rfl

theorem beq_eq_false_of_objects {id id' : Nat} {a b : Object}
    (here : world.objects[id]? = some a) (there : world.objects[id']? = some b) (other : a ≠ b) :
    (id == id') = false := by
  refine beq_eq_false_iff_ne.mpr ?_
  rintro rfl
  exact other (Option.some.inj (here.symm.trans there))

theorem run_equalPlain_apart {x y : Item} (apart : ∀ xs ys, x = .tuple xs → y ≠ .tuple ys) :
    (equalPlain call compare x y).run world =
      (match x.simple?, y.simple? with
        | some v, some w => return v.equal w
        | none, none =>
          match world.object? x, world.object? y with
          | some (.list vs), some (.list ws) =>
            if vs.length == ws.length then equalInside call compare vs ws else return false
          | some (.mapping vs), some (.mapping ws) =>
            if vs.length == ws.length then entriesInside call compare vs ws else return false
          | _, _ => return x.isOne y
        | _, _ => return false : Run Bool).run world := by
  unfold equalPlain
  split
  · exact absurd rfl (apart _ _ rfl)
  · cases x.simple? with
    | some v => cases y.simple? <;> rfl
    | none =>
      cases y.simple? with
      | some w => rfl
      | none =>
        exact (run_bind_objectOf? x _ world).trans (run_bind_objectOf? y _ world)

theorem run_equalPlain_simple {x y : Item} {v w : Value} (other : x.simple? = none)
    (composite : v.isSimple = false) (same : y.simple? = some w) :
    (equalPlain call compare x y).run world = (.ok (v.equal w), world) := by
  rw [run_equalPlain_apart (by rintro xs ys - rfl; cases same), other, same,
    (equal_simple_other (isSimple_of_simple? same) composite).2]
  rfl

/-- Things that are no records are equal if the values are that they hold. -/
theorem run_equalPlain (declared : world.Declares types)
    (compares : Compares types world compare bound) {x y : Item} {v w : Value}
    (held : world.Holds types x v) (held' : world.Holds types y w) (plain : world.type? x = none)
    (plain' : world.type? y = none) (comparable : v.Comparable) (deep : v.depth < bound + 1) :
    (equalPlain call compare x y).run world = (.ok (v.equal w), world) := by
  have absent : world.object? .absent = none := by rw [World.object?, declared.absentType]; rfl
  have notRecord {id : Nat} (hid : world.type? (.object id) = none) {own : Nat} {type : RecordType}
      {entries : List (String × Item)} (record : world.HasRecord types id own type entries) :
      False := by
    rw [World.type?, World.object?, record.object] at hid
    cases hid
  cases held with
  | simple same =>
    rw [run_equalPlain_apart (by rintro xs ys rfl; cases same), same]
    cases held' with
    | simple same' =>
      rw [same']
      rfl
    | record here' => exact (notRecord plain' here').elim
    | absent | type | list | tuple | mapping =>
      rw [(equal_simple_other (isSimple_of_simple? same) rfl).1]
      rfl
  | absent =>
    cases held' with
    | simple same => exact run_equalPlain_simple rfl rfl same
    | record here' => exact (notRecord plain' here').elim
    | absent | type | list | tuple | mapping =>
      rw [run_equalPlain_apart (by simp), absent]
      rfl
  | type type =>
    cases held' with
    | simple same => exact run_equalPlain_simple rfl rfl same
    | record here' => exact (notRecord plain' here').elim
    | absent | type | list | tuple | mapping =>
      rw [run_equalPlain_apart (by simp)]
      rfl
  | list here each =>
    cases held' with
    | simple same => exact run_equalPlain_simple rfl rfl same
    | record here' => exact (notRecord plain' here').elim
    | absent =>
      rw [run_equalPlain_apart (by simp), World.object?, here, absent]
      rfl
    | type | tuple =>
      rw [run_equalPlain_apart (by simp), World.object?, here]
      rfl
    | list here' each' =>
      rw [run_equalPlain_apart (by simp), World.object?, here, World.object?, here']
      exact run_equalLists compares each each' comparable.of_list (below_of_items deep)
    | mapping here' _ keys' each' =>
      rw [run_equalPlain_apart (by simp), World.object?, here, World.object?, here']
      exact congrArg (Except.ok · , world) (beq_eq_false_of_objects here here' (by simp))
  | tuple each =>
    cases held' with
    | simple same => exact run_equalPlain_simple rfl rfl same
    | record here' => exact (notRecord plain' here').elim
    | tuple each' =>
      exact run_equalInside compares each each' comparable.of_tuple (below_of_items deep)
    | absent | type | list | mapping =>
      rw [run_equalPlain_apart (by simp)]
      rfl
  | mapping here distinct keys each =>
    cases held' with
    | simple same => exact run_equalPlain_simple rfl rfl same
    | record here' => exact (notRecord plain' here').elim
    | absent =>
      rw [run_equalPlain_apart (by simp), World.object?, here, absent]
      rfl
    | type | tuple =>
      rw [run_equalPlain_apart (by simp), World.object?, here]
      rfl
    | list here' each' =>
      rw [run_equalPlain_apart (by simp), World.object?, here, World.object?, here']
      exact congrArg (Except.ok · , world) (beq_eq_false_of_objects here here' (by simp))
    | mapping here' _ keys' each' =>
      rw [run_equalPlain_apart (by simp), World.object?, here, World.object?, here']
      exact run_equalMappings compares (forall₂_entries keys each) (forall₂_entries keys' each')
        comparable.of_object (below_of_entries deep)
  | record here each => exact (notRecord plain here).elim

/-! ## Comparing records -/

theorem World.HasRecord.type? {id own : Nat} {type : RecordType} {entries : List (String × Item)}
    (record : world.HasRecord types id own type entries) :
    world.type? (.object id) = some type.name := by
  rw [World.type?, World.object?, record.object]

/-- Two records have equal fields if the values of these are equal. -/
theorem run_equalMembers (compares : Compares types world compare bound) {v w : Item}
    {xs ys : List (String × Item)} {vs ws : List Value}
    (keys : xs.map (·.1) = ys.map (·.1))
    (found : ∀ e ∈ xs, (getMember call v e.1).run world = (.ok e.2, world))
    (found' : ∀ e ∈ ys, (getMember call w e.1).run world = (.ok e.2, world))
    (each : List.Forall₂ (world.Holds types) (xs.map (·.2)) vs)
    (each' : List.Forall₂ (world.Holds types) (ys.map (·.2)) ws)
    (comparable : ∀ v ∈ vs, v.Comparable) (deep : ∀ v ∈ vs, v.depth < bound) :
    (equalMembers call compare v w (xs.map fun e => .string e.1)).run world =
      (.ok (Value.equalItems vs ws), world) := by
  induction xs generalizing ys vs ws with
  | nil =>
    obtain rfl : ys = [] := by simpa using keys.symm
    cases each
    cases each'
    rfl
  | cons e xs ih =>
    cases ys with
    | nil => simp at keys
    | cons e' ys =>
      obtain ⟨named, keys⟩ := List.cons.inj keys
      cases each with
      | cons here each =>
        cases each' with
        | cons here' each' =>
          obtain ⟨foundHere, found⟩ := List.forall_mem_cons.mp found
          obtain ⟨foundHere', found'⟩ := List.forall_mem_cons.mp found'
          obtain ⟨comparableHere, comparable⟩ := List.forall_mem_cons.mp comparable
          obtain ⟨deepHere, deep⟩ := List.forall_mem_cons.mp deep
          rw [List.map_cons, equalMembers, run_bind, getMemberBy, nameOf]
          simp only [pure_bind]
          rw [foundHere]
          simp only
          rw [run_bind, getMemberBy, nameOf]
          simp only [pure_bind]
          rw [show e.1 = e'.1 from named, foundHere']
          simp only
          rw [run_bind, compares .equal _ _ _ _ here here' comparableHere deepHere]
          simp only [Relation.answer]
          rw [run_bind, run_truth_bool, Value.equalItems]
          cases Value.equal _ _ with
          | true => exact ih keys found found' each each' comparable deep
          | false => rfl

variable {x y : Nat} {own own' : Nat} {s t : RecordType} {xs ys : List (String × Item)}
  {vs ws : List Value}

/-- A record has nothing to say about another that is called otherwise, and goes through the fields
if they are called the same. -/
theorem run_equalFields?_named (sound : WellDeclared types) (declared : world.Declares types)
    (compares : Compares types world compare bound) (record : world.HasRecord types x own s xs)
    (record' : world.HasRecord types y own' t ys) (room : 0 < bound) :
    (equalFields? call compare (.object x) (.object y)).run world =
      (if s.name = t.name then do
        return some (← equalMembers call compare (.object x) (.object y)
          (← itemsOf call (← getMember call (.object x) Member.fields)))
      else return none : Run (Option Bool)).run world := by
  have names : (compare .unequal (.string t.name) (.string s.name)).run world =
      (.ok (.bool (!(t.name == s.name))), world) :=
    compares .unequal _ _ (.string t.name) (.string s.name) (.simple rfl) (.simple rfl)
      ⟨rfl, rfl⟩ room
  rw [equalFields?, run_bind, run_typeOf?, record'.type?]
  simp only [Option.isNone_some, Bool.false_eq_true, if_false]
  rw [run_bind, record'.run_typeName call sound declared]
  simp only
  rw [run_bind, record.run_typeName call sound declared]
  simp only
  rw [run_bind, names]
  simp only
  rw [run_bind, run_truth_bool]
  by_cases named : s.name = t.name
  · simp only [named, beq_self_eq_true, Bool.not_true, Bool.false_eq_true, if_false, if_true]
  · simp only [beq_eq_false_iff_ne.mpr (Ne.symm named), Bool.not_false, if_true, if_neg named]

/-- A record says about another of its type whether their fields are equal. -/
theorem run_equalFields?_alike (call : Call) (sound : WellDeclared types)
    (declared : world.Declares types) (compares : Compares types world compare bound)
    (record : world.HasRecord types x own s xs) (record' : world.HasRecord types y own' s ys)
    (each : List.Forall₂ (world.Holds types) (xs.map (·.2)) vs)
    (each' : List.Forall₂ (world.Holds types) (ys.map (·.2)) ws)
    (comparable : ∀ v ∈ vs, v.Comparable) (deep : ∀ v ∈ vs, v.depth < bound)
    (room : 0 < bound) :
    (equalFields? call compare (.object x) (.object y)).run world =
      (.ok (some (Value.equalItems vs ws)), world) := by
  have distinct := sound.fields s record.declared
  obtain ⟨fields, here, mapping⟩ := record.run_fields call sound declared
  have order : (s.fields.map fun f => (f.1, Item.declared f.2)).map (fun e => Item.string e.1) =
      xs.map fun e => .string e.1 := by
    have keys := congrArg (List.map Item.string) record.keys
    simpa [RecordType.fieldNames, Function.comp_def] using keys.symm
  have members : (equalMembers call compare (.object x) (.object y)
      (xs.map fun e => .string e.1)).run world = (.ok (Value.equalItems vs ws), world) := by
    refine run_equalMembers compares (record.keys.trans record'.keys.symm) ?_ ?_ each each'
      comparable deep
    · exact fun e entry => record.run_field call declared
        ((lookup_eq_some_iff_mem (record.keys ▸ distinct)).mpr entry)
    · exact fun e entry => record'.run_field call declared
        ((lookup_eq_some_iff_mem (record'.keys ▸ distinct)).mpr entry)
  rw [run_equalFields?_named sound declared compares record record' room, if_pos rfl, run_bind,
    here]
  simp only
  rw [run_bind, run_itemsOf call mapping, order]
  simp only
  rw [run_bind, members]
  rfl

theorem run_equalFields?_unlike (sound : WellDeclared types) (declared : world.Declares types)
    (compares : Compares types world compare bound) (record : world.HasRecord types x own s xs)
    (record' : world.HasRecord types y own' t ys) (unlike : s.name ≠ t.name) (room : 0 < bound) :
    (equalFields? call compare (.object x) (.object y)).run world = (.ok none, world) := by
  rw [run_equalFields?_named sound declared compares record record' room, if_neg unlike]
  rfl

theorem run_equalFields?_plain {v w : Item} (plain : world.type? w = none) :
    (equalFields? call compare v w).run world = (.ok none, world) := by
  rw [equalFields?, run_bind, run_typeOf?, plain]
  rfl

/-- What a record says about the equality of its fields is its answer to either question. -/
theorem run_ask? (declared : world.Declares types) (relation : Relation) {v w : Item}
    {answer : Option Bool}
    (said : (equalFields? call compare v w).run world = (.ok answer, world)) :
    (ask? call compare relation v w).run world = (.ok (answer.map relation.answer), world) := by
  have asked : (equalAsked? call compare v w).run world = (.ok (answer.map .bool), world) := by
    rw [equalAsked?, run_bind, declared.run_special? call (by decide)]
    simp only
    rw [run_bind, said]
    rfl
  cases relation with
  | equal => exact asked
  | unequal =>
    rw [ask?, run_bind, declared.run_special? call (by decide)]
    simp only
    rw [run_bind, asked]
    cases answer with
    | none => rfl
    | some b => rfl

theorem run_isBelow (declared : world.Declares types) (type other : String) :
    (isBelow type other).run world = (.ok false, world) := by
  have apart : (type != other && [type].contains other) = false := by
    by_cases same : type = other <;> simp [same, eq_comm]
  rw [isBelow, run_bind, declared.run_lineage]
  exact congrArg (Except.ok ·, world) apart

/-- Two things are compared by what the records among them say; where none has an answer they are
equal only if they are one thing. -/
theorem run_compareOnce (declared : world.Declares types) (call : Call)
    (compare : Relation → Item → Item → Run Item) (relation : Relation) (v w : Item)
    (first second : Option Bool) (silent : world.type? v = none → first = none)
    (silent' : world.type? w = none → second = none)
    (record : world.type? v ≠ none ∨ world.type? w ≠ none)
    (said : world.type? v ≠ none → (equalFields? call compare v w).run world = (.ok first, world))
    (said' : first = none → world.type? w ≠ none →
      (equalFields? call compare w v).run world = (.ok second, world)) :
    (compareOnce call compare relation v w).run world =
      (.ok (relation.answer ((first <|> second).getD (v.isOne w))), world) := by
  rw [compareOnce, run_bind, run_typeOf?]
  simp only
  rw [run_bind, run_typeOf?]
  cases first? : world.type? v with
  | none =>
    obtain rfl := silent first?
    cases second? : world.type? w with
    | none => simp [first?, second?] at record
    | some t =>
      have said' := run_ask? declared relation (said' rfl (by simp [second?]))
      simp only [pure_bind, List.isEmpty_cons, Bool.false_eq_true, if_false, firstAnswer]
      rw [bind_assoc, run_bind, said']
      cases second <;> rfl
  | some s =>
    have said := run_ask? declared relation (said (by simp [first?]))
    cases second? : world.type? w with
    | none =>
      obtain rfl := silent' second?
      simp only [pure_bind, List.isEmpty_cons, Bool.false_eq_true, if_false, firstAnswer]
      rw [bind_assoc, run_bind, said]
      cases first <;> rfl
    | some t =>
      simp only
      rw [run_bind, run_isBelow declared]
      simp only [pure_bind, List.isEmpty_cons, Bool.false_eq_true, if_false, firstAnswer]
      rw [bind_assoc, run_bind, said]
      cases first with
      | some b => rfl
      | none =>
        have said' := run_ask? declared relation (said' rfl (by simp [second?]))
        simp only [Option.map_none, bind_assoc]
        rw [run_bind, said']
        cases second <;> rfl

theorem run_compareOnce_plain {relation : Relation} {v w : Item} {b : Bool}
    (plain : world.type? v = none) (plain' : world.type? w = none)
    (compared : (equalPlain call compare v w).run world = (.ok b, world)) :
    (compareOnce call compare relation v w).run world = (.ok (relation.answer b), world) := by
  rw [compareOnce, run_bind, run_typeOf?, plain]
  simp only
  rw [run_bind, run_typeOf?, plain']
  simp only [pure_bind, List.isEmpty_nil, if_true]
  rw [run_bind, compared]
  rfl

end

/-- What a thing holds is a record just if the thing is one. -/
theorem World.Holds.record_or_plain (declared : world.Declares types) {x : Item} {v : Value}
    (held : world.Holds types x v) :
    (world.type? x = none ∧ ∀ type vs, v ≠ .record type vs) ∨
      ∃ id own type entries vs, x = .object id ∧ v = .record type vs ∧
        world.HasRecord types id own type entries ∧
        List.Forall₂ (world.Holds types) (entries.map (·.2)) vs := by
  cases held with
  | record here each => exact .inr ⟨_, _, _, _, _, rfl, rfl, here, each⟩
  | simple same => exact .inl (by cases x <;> cases same <;> exact ⟨rfl, by simp⟩)
  | absent =>
    rw [World.type?, World.object?, declared.absentType]
    exact .inl ⟨rfl, by simp⟩
  | type | tuple => exact .inl ⟨rfl, by simp⟩
  | list here | mapping here =>
    rw [World.type?, World.object?, here]
    exact .inl ⟨rfl, by simp⟩

theorem equal_record_plain {type : RecordType} {vs : List Value} {v : Value}
    (plain : ∀ type vs, v ≠ .record type vs) :
    (Value.record type vs).equal v = false ∧ v.equal (.record type vs) = false := by
  have unequal : (Value.record type vs).sameAmount v = false := rfl
  have unequal' : v.sameAmount (.record type vs) = false := by rw [sameAmount_comm, unequal]
  cases v with
  | record type' vs' => exact absurd rfl (plain type' vs')
  | _ => exact ⟨unequal, unequal'⟩

/-- In a world whose types are as they were declared, things are compared as the values are that
they hold. -/
theorem compares_compareWithin (sound : WellDeclared types) (declared : world.Declares types)
    (call : Call) (fuel : Nat) : Compares types world (compareWithin call fuel) fuel := by
  induction fuel with
  | zero =>
    intro relation x y v w held held' comparable deep
    exact absurd deep (Nat.not_lt_zero _)
  | succ fuel ih =>
    intro relation x y v w held held' comparable deep
    rw [compareWithin]
    rcases held.record_or_plain declared with
      ⟨plain, notRecord⟩ | ⟨id, own, s, xs, vs, rfl, rfl, here, each⟩ <;>
      rcases held'.record_or_plain declared with
        ⟨plain', notRecord'⟩ | ⟨id', own', t, ys, ws, rfl, rfl, here', each'⟩
    · exact run_compareOnce_plain plain plain'
        (run_equalPlain declared ih held held' plain plain' comparable deep)
    · rw [(equal_record_plain notRecord).2]
      have apart : x.isOne (.object id') = false := by
        refine Bool.eq_false_iff.mpr fun one => ?_
        obtain rfl := eq_of_isOne held one
        cases plain.symm.trans here'.type?
      have done := run_compareOnce declared call (compareWithin call fuel) relation x (.object id')
        none none (fun _ => rfl) (fun _ => rfl) (.inr (by simp [here'.type?]))
        (fun record => absurd plain record) fun _ _ => run_equalFields?_plain plain
      rwa [apart] at done
    · rw [(equal_record_plain notRecord').1]
      have apart : (Item.object id).isOne y = false := by
        refine Bool.eq_false_iff.mpr fun one => ?_
        obtain rfl := eq_of_isOne held one
        cases plain'.symm.trans here.type?
      have done := run_compareOnce declared call (compareWithin call fuel) relation (.object id) y
        none none (fun _ => rfl) (fun _ => rfl) (.inl (by simp [here.type?]))
        (fun _ => run_equalFields?_plain plain') fun _ record => absurd plain' record
      rwa [apart] at done
    · have room : 0 < fuel := Nat.lt_of_le_of_lt (Nat.zero_le _) (Nat.lt_of_succ_lt_succ deep)
      by_cases named : s.name = t.name
      · obtain rfl : s = t :=
          List.inj_on_of_nodup_map sound.names here.declared here'.declared named
        have said := run_equalFields?_alike call sound declared ih here here' each each'
          comparable.of_record (below_of_items deep) room
        have done := run_compareOnce declared call (compareWithin call fuel) relation _ _ _ none
          (fun plain => by simp [here.type?] at plain) (fun _ => rfl) (.inl (by simp [here.type?]))
          (fun _ => said) fun silent => by cases silent
        simpa [Value.equal] using done
      · have unequal : (Value.record s vs).equal (.record t ws) = false := by
          simp [Value.equal, named]
        have apart : (Item.object id).isOne (.object id') = false :=
          beq_eq_false_of_objects here.object here'.object (by simp [named])
        have done := run_compareOnce declared call (compareWithin call fuel) relation (.object id)
          (.object id') none none (fun _ => rfl) (fun _ => rfl) (.inl (by simp [here.type?]))
          (fun _ => run_equalFields?_unlike sound declared ih here here' named room)
          fun _ _ => run_equalFields?_unlike sound declared ih here' here (Ne.symm named) room
        rw [apart] at done
        rwa [unequal]

end

end ServiceClient

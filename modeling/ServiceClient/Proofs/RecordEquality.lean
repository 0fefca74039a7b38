import ServiceClient.Proofs.Comparing

/-!
The equality of records and their forms on the wire. What a record is sent as holds a plain form of
the value that the record holds (`sentForm_holds`), and records are compared as their values are; so
the laws of equality hold of records, and what equal records are sent as is equal.
-/

namespace ServiceClient

/-! ## Plain forms -/

/-- Entries are told by their keys and their values. -/
theorem entries_ext {α : Type} {xs ys : List (String × α)} (keys : xs.map (·.1) = ys.map (·.1))
    (values : xs.map (·.2) = ys.map (·.2)) : xs = ys := by
  rw [← List.forall₂_eq_eq_eq] at values ⊢
  exact (forall₂_entries keys values).imp fun _ _ same => Prod.ext same.1 same.2

theorem depthOfEntries_eq (entries : List (String × Value)) :
    depthOfEntries entries = depthOfItems (entries.map (·.2)) := by
  induction entries with
  | nil => rfl
  | cons e entries ih => rw [depthOfEntries, ih, List.map_cons, depthOfItems]

namespace IsPlainForm

theorem again_items {vs ps qs : List Value}
    (each : ∀ v ∈ vs, ∀ {p q : Value}, IsPlainForm v p → IsPlainForm p q → q = p)
    (first : List.Forall₂ IsPlainForm vs ps) (second : List.Forall₂ IsPlainForm ps qs) :
    qs = ps := by
  induction first generalizing qs with
  | nil =>
    cases second
    rfl
  | cons here _ ih =>
    cases second with
    | cons here' second =>
      rw [each _ List.mem_cons_self here here',
        ih (fun v member => each v (List.mem_cons_of_mem _ member)) second]

/-- A plain form is its own plain form. -/
theorem again (v : Value) : ∀ {p q : Value}, IsPlainForm v p → IsPlainForm p q → q = p := by
  induction v using Value.partsInduction with
  | leaf v leaf =>
    intro p q first second
    obtain rfl := first.eq_of_leaf leaf
    exact second.eq_of_leaf leaf
  | list vs ih =>
    intro p q first second
    obtain ⟨ps, rfl, forms⟩ := first.of_list
    obtain ⟨qs, rfl, forms'⟩ := second.of_list
    rw [again_items ih forms forms']
  | tuple vs ih =>
    intro p q first second
    obtain ⟨ps, rfl, forms⟩ := first.of_tuple
    obtain ⟨qs, rfl, forms'⟩ := second.of_list
    rw [again_items ih forms forms']
  | object entries ih =>
    intro p q first second
    cases first with
    | leaf leaf => cases leaf
    | object keys forms =>
      cases second with
      | leaf leaf => cases leaf
      | object keys' forms' =>
        refine congrArg Value.object (entries_ext keys' (again_items ?_ forms forms'))
        intro v member
        obtain ⟨e, entry, rfl⟩ := List.mem_map.mp member
        exact ih e entry
  | record type vs ih =>
    intro p q first second
    cases first with
    | leaf leaf => cases leaf
    | record keys forms =>
      cases second with
      | leaf leaf => cases leaf
      | object keys' forms' =>
        exact congrArg Value.object (entries_ext keys' (again_items ih forms forms'))

theorem keeps_items {vs ps : List Value} (forms : List.Forall₂ IsPlainForm vs ps)
    (each : ∀ v ∈ vs, ∀ {p : Value}, IsPlainForm v p →
      p.everywhere Value.isNotNan = true ∧ p.depth ≤ v.depth) :
    (∀ p ∈ ps, p.everywhere Value.isNotNan = true) ∧ depthOfItems ps ≤ depthOfItems vs := by
  induction forms with
  | nil => exact ⟨by simp, Nat.le_refl _⟩
  | cons here _ ih =>
    obtain ⟨numbers, deep⟩ := each _ List.mem_cons_self here
    obtain ⟨all, deepest⟩ := ih fun v member => each v (List.mem_cons_of_mem _ member)
    refine ⟨List.forall_mem_cons.mpr ⟨numbers, all⟩, ?_⟩
    simp only [depthOfItems]
    omega

theorem numbers_object {entries : List (String × Value)}
    (all : ∀ p ∈ entries.map (·.2), p.everywhere Value.isNotNan = true) :
    (Value.object entries).everywhere Value.isNotNan = true :=
  Value.everywhere_object.mpr ⟨rfl, fun e entry => all e.2 (List.mem_map_of_mem entry)⟩

/-- In a plain form there is nothing that is no number unless there is in the value, and there are
no more layers. -/
theorem keeps (v : Value) : ∀ {p : Value}, v.everywhere Value.isNotNan = true → IsPlainForm v p →
    p.everywhere Value.isNotNan = true ∧ p.depth ≤ v.depth := by
  induction v using Value.partsInduction with
  | leaf v leaf =>
    intro p numbers form
    obtain rfl := form.eq_of_leaf leaf
    exact ⟨numbers, Nat.le_refl _⟩
  | list vs ih =>
    intro p numbers form
    obtain ⟨ps, rfl, forms⟩ := form.of_list
    obtain ⟨-, inside⟩ := Value.everywhere_list.mp numbers
    obtain ⟨all, deep⟩ := keeps_items forms fun v member => ih v member (inside v member)
    exact ⟨Value.everywhere_list.mpr ⟨rfl, all⟩, Nat.succ_le_succ deep⟩
  | tuple vs ih =>
    intro p numbers form
    obtain ⟨ps, rfl, forms⟩ := form.of_tuple
    obtain ⟨-, inside⟩ := Value.everywhere_tuple.mp numbers
    obtain ⟨all, deep⟩ := keeps_items forms fun v member => ih v member (inside v member)
    exact ⟨Value.everywhere_list.mpr ⟨rfl, all⟩, Nat.succ_le_succ deep⟩
  | object entries ih =>
    intro p numbers form
    obtain ⟨-, inside⟩ := Value.everywhere_object.mp numbers
    cases form with
    | leaf leaf => cases leaf
    | @object _ out keys forms =>
      obtain ⟨all, deep⟩ := keeps_items forms fun v member => by
        obtain ⟨e, entry, rfl⟩ := List.mem_map.mp member
        exact ih e entry (inside e entry)
      rw [← depthOfEntries_eq, ← depthOfEntries_eq] at deep
      exact ⟨numbers_object all, Nat.succ_le_succ deep⟩
  | record type vs ih =>
    intro p numbers form
    obtain ⟨-, inside⟩ := Value.everywhere_record.mp numbers
    obtain ⟨out, rfl, keys, forms⟩ := form.of_record
    obtain ⟨all, deep⟩ := keeps_items forms fun v member => ih v member (inside v member)
    rw [← depthOfEntries_eq] at deep
    exact ⟨numbers_object all, Nat.succ_le_succ deep⟩

end IsPlainForm

/-! ## Sending -/

section

variable {types : List RecordType} {world : World} {call : Call}

theorem leaves_isPrimitive (declared : world.Declares types) (kind : Primitive) (item : Item) :
    Leaves world (isPrimitive call kind item) :=
  (leaves_of_run (declared.run_askType call item)).bind fun _ _ => leaves_pure _

theorem run_holds_strings (sound : WellDeclared types) (declared : world.Declares types)
    (s t : String) : (holds call .equal (.string s) (.string t)).run world =
      (.ok (s == t), world) := by
  have compared : (compareItems call .equal (.string s) (.string t)).run world =
      (.ok (.bool (s == t)), world) :=
    compares_compareWithin sound declared call greatestDepth .equal _ _ (.string s) (.string t)
      (.simple rfl) (.simple rfl) ⟨rfl, rfl⟩ (by simp [Value.depth, greatestDepth])
  rw [holds, run_bind, compared]
  exact run_truth_bool call _ world

theorem leaves_isNamed (sound : WellDeclared types) (declared : world.Declares types)
    (name : String) {item : Item} {v : Value} (held : world.Holds types item v) :
    Leaves world (isNamed call name item) := by
  refine (leaves_of_run (run_objectOf? item world)).bind fun object? here => ?_
  obtain rfl : world.object? item = object? :=
    Except.ok.inj (Prod.mk.inj ((run_objectOf? item world).symm.trans here)).1
  rcases held.record_or_plain declared with
    ⟨plain, -⟩ | ⟨id, own, type, entries, vs, rfl, rfl, record, -⟩
  · rw [World.type?] at plain
    split
    · rename_i same
      rw [same] at plain
      cases plain
    · exact leaves_pure _
    · exact leaves_pure _
  · rw [World.object?, record.object]
    refine (leaves_of_run (record.run_typeName call sound declared)).bind fun called found => ?_
    obtain rfl : Item.string type.name = called :=
      Except.ok.inj (Prod.mk.inj ((record.run_typeName call sound declared).symm.trans found)).1
    refine (leaves_of_run (run_holds_strings sound declared type.name name)).bind fun same _ => ?_
    cases same with
    | true => exact leaves_pure _
    | false =>
      simp only [Bool.false_eq_true, if_false]
      split
      · exact (leaves_of_run (declared.run_askType call _)).bind fun _ _ => leaves_pure _
      · exact leaves_pure _

/-- The elements of a thing hold the elements of its value. -/
theorem run_elementsOf? (call : Call) (declared : world.Declares types) {item : Item} {v : Value}
    (held : world.Holds types item v) :
    ∃ elements?, (elementsOf? call item).run world = (.ok elements?, world) ∧
      ∀ items ∈ elements?, ∀ x ∈ items, ∃ v, world.Holds types x v := by
  have asked := declared.run_askType call item
  unfold elementsOf?
  rw [run_bind_objectOf?]
  cases held with
  | list here each =>
    rw [World.object?, here]
    refine ⟨_, rfl, ?_⟩
    rintro items ⟨⟩ x member
    exact (forall₂_mem_left each member).imp fun _ => And.right
  | tuple each =>
    refine ⟨_, rfl, ?_⟩
    rintro items ⟨⟩ x member
    exact (forall₂_mem_left each member).imp fun _ => And.right
  | simple same =>
    refine ⟨none, ?_, by simp⟩
    cases item <;> cases same <;>
    · simp only [World.object?]
      rw [run_bind, asked]
      rfl
  | absent =>
    refine ⟨none, ?_, by simp⟩
    rw [World.object?, declared.absentType]
    exact (run_bind ..).trans (by rw [asked]; rfl)
  | type =>
    refine ⟨none, ?_, by simp⟩
    exact (run_bind ..).trans (by rw [asked]; rfl)
  | mapping here =>
    refine ⟨none, ?_, by simp⟩
    rw [World.object?, here]
    exact (run_bind ..).trans (by rw [asked]; rfl)
  | record here =>
    refine ⟨none, ?_, by simp⟩
    rw [World.object?, here.object]
    exact (run_bind ..).trans (by rw [asked]; rfl)

/-- Checking a thing changes nothing. -/
theorem leaves_checkAt (sound : WellDeclared types) (declared : world.Declares types)
    (subject : String) (t : TypeRef) : ∀ (path : List Nat) {item : Item} {v : Value},
      world.Holds types item v → Leaves world (checkAt call subject path t item) := by
  induction t with
  | primitive kind =>
    intro path item v held
    rw [checkAt]
    refine (leaves_isPrimitive declared kind item).bind fun admitted _ => ?_
    cases admitted with
    | true => exact leaves_pure _
    | false => exact leaves_throw _
  | named name =>
    intro path item v held
    rw [checkAt]
    refine (leaves_isNamed sound declared name held).bind fun admitted _ => ?_
    cases admitted with
    | true => exact leaves_pure _
    | false => exact leaves_throw _
  | array element ih =>
    intro path item v held
    have each (i : Nat) (items : List Item) (held : ∀ x ∈ items, ∃ v, world.Holds types x v) :
        Leaves world (forEachIndexed
          (fun i item => checkAt call subject (path ++ [i]) element item) i items) := by
      induction items generalizing i with
      | nil => exact leaves_pure _
      | cons x items rest =>
        obtain ⟨⟨v, here⟩, later⟩ := List.forall_mem_cons.mp held
        exact (ih (path ++ [i]) here).bind fun _ _ => rest (i + 1) later
    obtain ⟨elements?, done, held⟩ := run_elementsOf? call declared held
    rw [checkAt]
    refine (leaves_of_run done).bind fun elements?' done' => ?_
    obtain rfl : elements? = elements?' :=
      Except.ok.inj (Prod.mk.inj (done.symm.trans done')).1
    cases elements? with
    | none => exact leaves_throw _
    | some items => exact each 0 items (held items rfl)

end

theorem forall₂_exists {α β γ : Type} {R : β → γ → Prop} {S : α → γ → Prop} {xs : List α}
    {ys : List β} (h : List.Forall₂ (fun x y => ∃ z, R y z ∧ S x z) xs ys) :
    ∃ zs, List.Forall₂ R ys zs ∧ List.Forall₂ S xs zs := by
  induction h with
  | nil => exact ⟨[], .nil, .nil⟩
  | cons here _ ih =>
    obtain ⟨z, first, second⟩ := here
    obtain ⟨zs, firsts, seconds⟩ := ih
    exact ⟨z :: zs, .cons first firsts, .cons second seconds⟩

section

variable {types : List RecordType}

/-- What is done with each item of a list is done in worlds that go on from one another. -/
theorem run_mapM {α β γ : Type} {f : α → Run β} (given : World → α → γ → Prop)
    (made : World → β → γ → Prop)
    (givenGrows : ∀ {w w' : World} {x : α} {v : γ}, w.Changes [] w' → given w x v → given w' x v)
    (madeGrows : ∀ {w w' : World} {y : β} {v : γ}, w.Changes [] w' → made w y v → made w' y v)
    (step : ∀ {w w' : World} {x : α} {v : γ} {y : β}, w.Declares types → given w x v →
      (f x).run w = (.ok y, w') → made w' y v ∧ w.Changes [] w')
    {xs : List α} {vs : List γ} {ys : List β} {world world' : World}
    (declared : world.Declares types) (each : List.Forall₂ (given world) xs vs)
    (done : (xs.mapM f).run world = (.ok ys, world')) :
    List.Forall₂ (made world') ys vs ∧ world.Changes [] world' := by
  induction xs generalizing vs world ys with
  | nil =>
    cases each
    cases done
    exact ⟨.nil, .refl _ _⟩
  | cons x xs ih =>
    obtain ⟨v, vs, here, later, rfl⟩ := List.forall₂_cons_left_iff.mp each
    rw [List.mapM_cons] at done
    obtain ⟨y, w, first, done⟩ := run_bind_eq_ok done
    obtain ⟨ys, w', rest, done⟩ := run_bind_eq_ok done
    cases done
    obtain ⟨madeHere, changes⟩ := step declared here first
    obtain ⟨madeRest, changes'⟩ :=
      ih (declared.grows changes) (later.imp fun _ _ => givenGrows changes) rest
    exact ⟨.cons (madeGrows changes' madeHere) madeRest, changes.trans changes'⟩

/-- A step that makes of a thing one that holds a plain form of its value. -/
def Flattens (types : List RecordType) (act : Item → Run Item) : Prop :=
  ∀ {world world' : World} {x u : Item} {v : Value}, world.Declares types →
    world.Holds types x v → (act x).run world = (.ok u, world') →
      (∃ p, IsPlainForm v p ∧ world'.Holds types u p) ∧ world.Changes [] world'

theorem holds_grows {v : Value} {w w' : World} {x : Item} (changes : w.Changes [] w')
    (held : w.Holds types x v) : w'.Holds types x v := held.grows changes v

theorem form_grows {v : Value} {w w' : World} {u : Item} (changes : w.Changes [] w')
    (formed : ∃ p, IsPlainForm v p ∧ w.Holds types u p) :
    ∃ p, IsPlainForm v p ∧ w'.Holds types u p :=
  formed.imp fun _ formed => ⟨formed.1, holds_grows changes formed.2⟩

theorem Flattens.items {act : Item → Run Item} (flattens : Flattens types act)
    {items out : List Item} {vs : List Value} {world world' : World}
    (declared : world.Declares types) (each : List.Forall₂ (world.Holds types) items vs)
    (done : (items.mapM act).run world = (.ok out, world')) :
    (∃ ps, List.Forall₂ IsPlainForm vs ps ∧ List.Forall₂ (world'.Holds types) out ps) ∧
      world.Changes [] world' := by
  obtain ⟨made, changes⟩ := run_mapM (fun w x v => w.Holds types x v)
    (fun w u v => ∃ p, IsPlainForm v p ∧ w.Holds types u p) holds_grows form_grows flattens
    declared each done
  exact ⟨forall₂_exists made, changes⟩

/-- An entry that was made of another: under the same key, it holds a plain form of the value. -/
def FormedEntry (types : List RecordType) (world : World) (u : String × Item)
    (e : String × Value) : Prop :=
  e.1 = u.1 ∧ ∃ p, IsPlainForm e.2 p ∧ world.Holds types u.2 p

theorem FormedEntry.grows {w w' : World} {u : String × Item} {e : String × Value}
    (changes : w.Changes [] w') (formed : FormedEntry types w u e) : FormedEntry types w' u e :=
  ⟨formed.1, form_grows changes formed.2⟩

theorem formedEntries {world : World} {out : List (String × Item)} {es : List (String × Value)}
    (made : List.Forall₂ (FormedEntry types world) out es) :
    ∃ ps : List (String × Value),
      List.Forall₂ (fun e e' => e.1 = e'.1 ∧ IsPlainForm e.2 e'.2) es ps ∧
      List.Forall₂ (fun e e' => e.1 = e'.1 ∧ world.Holds types e.2 e'.2) out ps := by
  refine forall₂_exists (made.imp ?_)
  rintro u e ⟨named, p, formed, held⟩
  exact ⟨(e.1, p), ⟨rfl, formed⟩, named.symm, held⟩

theorem Flattens.entries {act : Item → Run Item} (flattens : Flattens types act)
    {entries out : List (String × Item)} {vs : List (String × Value)} {world world' : World}
    (declared : world.Declares types)
    (each : List.Forall₂ (fun e e' => e.1 = e'.1 ∧ world.Holds types e.2 e'.2) entries vs)
    (done : (entries.mapM fun (e : String × Item) => do return (e.1, ← act e.2)).run world =
      (.ok out, world')) :
    (∃ ps : List (String × Value),
      List.Forall₂ (fun e e' => e.1 = e'.1 ∧ IsPlainForm e.2 e'.2) vs ps ∧
      List.Forall₂ (fun e e' => e.1 = e'.1 ∧ world'.Holds types e.2 e'.2) out ps) ∧
      world.Changes [] world' := by
  have step {w w' : World} {e u : String × Item} {e' : String × Value} (declared : w.Declares types)
      (held : e.1 = e'.1 ∧ w.Holds types e.2 e'.2)
      (done : (do return (e.1, ← act e.2) : Run _).run w = (.ok u, w')) :
      FormedEntry types w' u e' ∧ w.Changes [] w' := by
    obtain ⟨u, w, done, rest⟩ := run_bind_eq_ok done
    cases rest
    obtain ⟨formed, changes⟩ := flattens declared held.2 done
    exact ⟨⟨held.1.symm, formed⟩, changes⟩
  obtain ⟨made, changes⟩ := run_mapM
    (fun w (e : String × Item) (e' : String × Value) => e.1 = e'.1 ∧ w.Holds types e.2 e'.2)
    (FormedEntry types) (fun changes held => ⟨held.1, holds_grows changes held.2⟩)
    FormedEntry.grows step declared each done
  exact ⟨formedEntries made, changes⟩

/-- A new mapping holds what its entries hold. -/
theorem holds_allocate {world : World} {out : List (String × Item)} {ps : List (String × Value)}
    (distinct : (ps.map (·.1)).Nodup)
    (each : List.Forall₂ (fun e e' => e.1 = e'.1 ∧ world.Holds types e.2 e'.2) out ps) :
    World.Holds types { world with objects := world.objects.push (.mapping out) }
      (.object world.objects.size) (.object ps) := by
  refine .mapping Array.getElem?_push_size distinct
    (forall₂_map_eq (each.imp fun _ _ held => held.1)) ?_
  rw [List.forall₂_map_left_iff, List.forall₂_map_right_iff]
  exact each.imp fun _ _ held => holds_grows (changes_push world _) held.2

theorem wireEntries_eq_mapM (call : Call) (record : Item) (checks : List (String × Item)) :
    wireEntries call record checks = checks.mapM fun e => do
      let item ← getMember call record e.1
      discard (call e.2 [item] [])
      return (e.1, ← itemToWire call item) := by
  induction checks with
  | nil => rfl
  | cons e rest ih => simp only [wireEntries, List.mapM_cons, bind_assoc, pure_bind, ih]

theorem leaves_invoke_check {world : World} (sound : WellDeclared types)
    (declared : world.Declares types) (limit : Nat) (subject : String) (t : TypeRef) {item : Item}
    {v : Value} (held : world.Holds types item v) :
    Leaves world (invokeWithin limit (.check subject t) [item] []) := by
  cases limit with
  | zero => exact leaves_throw _
  | succ limit =>
    exact (leaves_checkAt sound declared subject t [] held).bind fun _ _ => leaves_pure _

/-- The fields of a record beside their names and values. -/
theorem forall₂_fields {world : World} {id own : Nat} {type : RecordType}
    {entries : List (String × Item)} {vs : List Value}
    (record : world.HasRecord types id own type entries)
    (each : List.Forall₂ (world.Holds types) (entries.map (·.2)) vs) :
    List.Forall₂ (fun f e => f.1 = e.1 ∧ ∃ item, (e.1, item) ∈ entries ∧ world.Holds types item e.2)
      type.fields (type.fieldNames.zip vs) := by
  have sized : vs.length = type.fieldNames.length := by
    rw [← each.length_eq, ← record.keys, List.length_map, List.length_map]
  have keys : List.Forall₂ (· = ·) (type.fields.map (·.1)) (entries.map (·.1)) := by
    rw [List.forall₂_eq_eq_eq]
    exact record.keys.symm
  have named := List.forall₂_map_left_iff.mp (List.forall₂_map_right_iff.mp keys)
  have beside : List.Forall₂ (fun e e' => e.1 = e'.1 ∧ world.Holds types e.2 e'.2) entries
      (type.fieldNames.zip vs) := by
    apply forall₂_entries
    · rw [record.keys, List.map_fst_zip (Nat.le_of_eq sized.symm)]
    · rwa [List.map_snd_zip (Nat.le_of_eq sized)]
  have inside := forall₂_imp_mem beside fun e member e' held =>
    (⟨member, held⟩ : e ∈ entries ∧ e.1 = e'.1 ∧ world.Holds types e.2 e'.2)
  refine (forall₂_trans named inside).imp ?_
  rintro f e' ⟨e, named, member, named', held⟩
  exact ⟨named.trans named', e.2, named' ▸ member, held⟩

/-- A check of a field of a record, beside the name and the value of the field. -/
structure ChecksField (types : List RecordType) (id own : Nat) (type : RecordType)
    (entries : List (String × Item)) (world : World) (check : String × Item)
    (field : String × Value) : Prop where
  record : world.HasRecord types id own type entries
  named : check.1 = field.1
  isCheck : ∃ subject t, check.2 = .check subject t
  held : ∃ item, (field.1, item) ∈ entries ∧ world.Holds types item field.2

theorem ChecksField.grows {id own : Nat} {type : RecordType} {entries : List (String × Item)}
    {w w' : World} {check : String × Item} {field : String × Value} (changes : w.Changes [] w')
    (checks : ChecksField types id own type entries w check field) :
    ChecksField types id own type entries w' check field where
  record := checks.record.grows changes
  named := checks.named
  isCheck := checks.isCheck
  held := checks.held.imp fun _ held => ⟨held.1, holds_grows changes held.2⟩

/-- What a record is sent as holds a plain form of the record's value. -/
theorem wireFormOf_holds {call : Call} {world world' : World} (sound : WellDeclared types)
    (declared : world.Declares types) (flattens : Flattens types (itemToWire call))
    (checks : ∀ {w : World} {item : Item} {v : Value} (subject : String) (t : TypeRef),
      w.Declares types → w.Holds types item v → Leaves w (call (.check subject t) [item] []))
    {id own : Nat} {type : RecordType} {entries : List (String × Item)} {vs : List Value}
    (record : world.HasRecord types id own type entries)
    (each : List.Forall₂ (world.Holds types) (entries.map (·.2)) vs) {u : Item}
    (done : (wireFormOf call (.object id)).run world = (.ok u, world')) :
    (∃ p, IsPlainForm (.record type vs) p ∧ world'.Holds types u p) ∧ world.Changes [] world' := by
  obtain ⟨table, found, mapping⟩ := record.run_checks call sound declared
  rw [wireFormOf, run_bind, found] at done
  simp only at done
  rw [run_bind, run_entriesOf call mapping] at done
  obtain ⟨out, w, sent, done⟩ := run_bind_eq_ok done
  cases done
  rw [wireEntries_eq_mapM] at sent
  have step {w w' : World} {e u : String × Item} {e' : String × Value} (declared : w.Declares types)
      (given : ChecksField types id own type entries w e e')
      (done : (do
        let item ← getMember call (.object id) e.1
        discard (call e.2 [item] [])
        return (e.1, ← itemToWire call item) : Run _).run w = (.ok u, w')) :
      FormedEntry types w' u e' ∧ w.Changes [] w' := by
    obtain ⟨record, named, ⟨subject, t, check⟩, item, member, held⟩ := given
    have distinct := record.keys ▸ sound.fields type record.declared
    rw [run_bind, named, record.run_field call declared
      ((lookup_eq_some_iff_mem distinct).mpr member), check] at done
    simp only at done
    obtain ⟨_, w₁, checked, rest⟩ := run_bind_eq_ok done
    have unchanged := (checks subject t declared held).discard
    rw [Leaves, checked] at unchanged
    obtain rfl : w₁ = w := unchanged
    obtain ⟨x, w₂, sent, rest⟩ := run_bind_eq_ok rest
    cases rest
    obtain ⟨formed, changes⟩ := flattens declared held sent
    exact ⟨⟨rfl, formed⟩, changes⟩
  have given : List.Forall₂ (ChecksField types id own type entries world)
      (type.fields.map fun f => (f.1, .check (type.name ++ "." ++ f.1) f.2))
      (type.fieldNames.zip vs) := by
    rw [List.forall₂_map_left_iff]
    exact (forall₂_fields record each).imp fun f e' beside =>
      ⟨record, beside.1, ⟨_, _, rfl⟩, beside.2⟩
  obtain ⟨made, changes⟩ := run_mapM (ChecksField types id own type entries)
    (FormedEntry types) ChecksField.grows FormedEntry.grows step declared given sent
  obtain ⟨ps, formed, held⟩ := formedEntries made
  have sized : vs.length = type.fieldNames.length := by
    rw [← each.length_eq, ← record.keys, List.length_map, List.length_map]
  have keys : ps.map (·.1) = type.fieldNames := by
    rw [← forall₂_map_eq (formed.imp fun _ _ form => form.1),
      List.map_fst_zip (Nat.le_of_eq sized.symm)]
  refine ⟨⟨.object ps, .record keys ?_, ?_⟩, changes.trans (changes_push w _)⟩
  · rw [← List.map_snd_zip (Nat.le_of_eq sized), List.forall₂_map_left_iff,
      List.forall₂_map_right_iff]
    exact formed.imp fun _ _ form => form.2
  · exact holds_allocate (keys ▸ sound.fields type record.declared) held

/-- Calling for the form of a record gives one that holds a plain form of the record's value. -/
def SendsRecords (types : List RecordType) (call : Call) : Prop :=
  ∀ {world world' : World} {id own : Nat} {type : RecordType} {entries : List (String × Item)}
    {vs : List Value} {u : Item}, world.Declares types →
    world.HasRecord types id own type entries →
    List.Forall₂ (world.Holds types) (entries.map (·.2)) vs →
    (call (.bound Member.wireForm (.object id)) [] []).run world = (.ok u, world') →
      (∃ p, IsPlainForm (.record type vs) p ∧ world'.Holds types u p) ∧ world.Changes [] world'

variable {call : Call}

theorem Flattens.list {act : Item → Run Item} (flattens : Flattens types act)
    {items : List Item} {vs : List Value} {world world' : World} {u : Item}
    (declared : world.Declares types) (each : List.Forall₂ (world.Holds types) items vs)
    (done : (items.mapM act >>= fun out => allocate (.list out)).run world = (.ok u, world')) :
    (∃ ps, List.Forall₂ IsPlainForm vs ps ∧ world'.Holds types u (.list ps)) ∧
      world.Changes [] world' := by
  obtain ⟨out, w, made, done⟩ := run_bind_eq_ok done
  cases done
  obtain ⟨⟨ps, formed, held⟩, changes⟩ := flattens.items declared each made
  have push := changes_push w (.list out)
  refine ⟨⟨ps, formed, .list Array.getElem?_push_size ?_⟩, changes.trans push⟩
  exact held.imp fun _ _ held => holds_grows push held

theorem Flattens.mapping {act : Item → Run Item} (flattens : Flattens types act)
    {entries : List (String × Item)} {vs : List (String × Value)} {world world' : World} {u : Item}
    (declared : world.Declares types) (distinct : (vs.map (·.1)).Nodup)
    (each : List.Forall₂ (fun e e' => e.1 = e'.1 ∧ world.Holds types e.2 e'.2) entries vs)
    (done : ((entries.mapM fun (e : String × Item) => do return (e.1, ← act e.2)) >>= fun out =>
      allocate (.mapping out)).run world = (.ok u, world')) :
    (∃ p, IsPlainForm (.object vs) p ∧ world'.Holds types u p) ∧ world.Changes [] world' := by
  obtain ⟨out, w, made, done⟩ := run_bind_eq_ok done
  cases done
  obtain ⟨⟨ps, formed, held⟩, changes⟩ := flattens.entries declared each made
  have keys : vs.map (·.1) = ps.map (·.1) := forall₂_map_eq (formed.imp fun _ _ form => form.1)
  refine ⟨⟨.object ps, .object keys.symm ?_, holds_allocate (keys ▸ distinct) held⟩,
    changes.trans (changes_push w _)⟩
  rw [List.forall₂_map_left_iff, List.forall₂_map_right_iff]
  exact formed.imp fun _ _ form => form.2

/-- Turning a thing into its plain form gives one that holds a plain form of its value. -/
theorem flattens_toWireWithin (sends : SendsRecords types call) (fuel : Nat) :
    Flattens types (toWireWithin call fuel) := by
  induction fuel with
  | zero =>
    intro world world' x u v declared held done
    rw [toWireWithin] at done
    cases done
  | succ fuel ih =>
    intro world world' x u v declared held done
    unfold toWireWithin at done
    rw [run_bind_objectOf?] at done
    cases held with
    | simple same =>
      cases x <;> cases same <;>
      · cases done
        exact ⟨⟨_, .leaf rfl, .simple rfl⟩, .refl _ _⟩
    | absent =>
      rw [World.object?, declared.absentType] at done
      cases done
      exact ⟨⟨_, .leaf rfl, .absent⟩, .refl _ _⟩
    | type type =>
      cases done
      exact ⟨⟨_, .leaf rfl, .type type⟩, .refl _ _⟩
    | list here each =>
      rw [World.object?, here] at done
      obtain ⟨⟨ps, formed, held⟩, changes⟩ := ih.list declared each done
      exact ⟨⟨_, .list formed, held⟩, changes⟩
    | tuple each =>
      obtain ⟨⟨ps, formed, held⟩, changes⟩ := ih.list declared each done
      exact ⟨⟨_, .tuple formed, held⟩, changes⟩
    | mapping here distinct keys each =>
      rw [World.object?, here] at done
      change (toWireWithin.sendEntries call fuel _).run world = _ at done
      rw [toWireWithin.sendEntries] at done
      exact ih.mapping declared distinct (forall₂_entries keys each) done
    | @record id own type entries vs here each =>
      rw [World.object?, here.object] at done
      change (do
        let sent ← call (← getMember call (.object id) Member.wireForm) [] []
        toWireWithin.sendEntries call fuel (← entriesOf call sent) : Run Item).run world = _ at done
      rw [run_bind, here.run_wireForm call declared] at done
      obtain ⟨sent, w, called, done⟩ := run_bind_eq_ok done
      obtain ⟨⟨p, formed, held⟩, changes⟩ := sends declared here each called
      obtain ⟨ps, rfl, keys, -⟩ := formed.of_record
      cases held with
      | simple same => cases sent <;> cases same
      | mapping here' distinct keys' each' =>
        rw [run_bind, run_entriesOf call here'] at done
        change (toWireWithin.sendEntries call fuel _).run w = _ at done
        rw [toWireWithin.sendEntries] at done
        obtain ⟨⟨q, formed', held'⟩, changes'⟩ := ih.mapping (declared.grows changes) distinct
          (forall₂_entries keys' each') done
        obtain rfl := formed.again _ formed'
        exact ⟨⟨_, formed, held'⟩, changes.trans changes'⟩

theorem sendsRecords_invokeWithin (sound : WellDeclared types) (limit : Nat) :
    SendsRecords types (invokeWithin limit) := by
  induction limit with
  | zero =>
    intro world world' id own type entries vs u declared record each done
    cases done
  | succ limit ih =>
    intro world world' id own type entries vs u declared record each done
    exact wireFormOf_holds sound declared (flattens_toWireWithin ih greatestDepth)
      (fun subject t declared held => leaves_invoke_check sound declared limit subject t held)
      record each done

end

/-! ## The laws of equality -/

/-- What comparing two things in a world finds, without changing anything. -/
def World.Finds (world : World) (call : Call) (fuel : Nat) (x y : Item) (equal : Bool) : Prop :=
  (compareWithin call fuel .equal x y).run world = (.ok (.bool equal), world)

/-- The form of a thing on the wire, as the thing itself gives it. -/
def sentForm (limit : Nat) (x : Item) : Run Item := do
  invokeWithin limit (← getMember (invokeWithin limit) x Member.wireForm) [] []

section

variable {types : List RecordType} {world world' : World}

theorem World.Finds.eq {call : Call} {fuel : Nat} {x y : Item} {b b' : Bool}
    (found : world.Finds call fuel x y b) (found' : world.Finds call fuel x y b') : b = b' :=
  Item.bool.inj (Except.ok.inj (Prod.mk.inj (found.symm.trans found')).1)

theorem World.Holds.comparable {x : Item} {v : Value} (held : world.Holds types x v)
    (numbers : v.everywhere Value.isNotNan = true) : v.Comparable :=
  ⟨Value.isRegular_of_belongsTo (held.belongsTo v), numbers⟩

theorem finds (sound : WellDeclared types) (declared : world.Declares types) (call : Call)
    {fuel : Nat} {x y : Item} {v w : Value} (held : world.Holds types x v)
    (held' : world.Holds types y w) (numbers : v.everywhere Value.isNotNan = true)
    (room : v.depth < fuel) : world.Finds call fuel x y (v.equal w) :=
  compares_compareWithin sound declared call fuel .equal x y v w held held'
    (held.comparable numbers) room

/-- What a record gives as its form holds a plain form of the record's value. -/
theorem sentForm_holds (sound : WellDeclared types) (declared : world.Declares types) {limit : Nat}
    {x u : Item} {type : RecordType} {vs : List Value}
    (held : world.Holds types x (.record type vs))
    (sent : (sentForm limit x).run world = (.ok u, world')) :
    (∃ p, IsPlainForm (.record type vs) p ∧ world'.Holds types u p) ∧ world.Changes [] world' := by
  cases held with
  | simple same => cases x <;> cases same
  | record here each =>
    rw [sentForm, run_bind, here.run_wireForm (invokeWithin limit) declared] at sent
    exact sendsRecords_invokeWithin sound limit declared here each sent

end

/-- Equality of records is reflexive, symmetric and transitive, records of different types are never
equal, and what equal records are sent as is equal. The records have nothing set in them but their
fields, and no NaN inside; they are compared with room for going as deep as they do. -/
theorem record_equality {description : Value} {endpoint : String} {client : Client}
    (regular : description.isRegular = true)
    (built : Client.build description endpoint = .ok client) {world : World}
    (declared : world.Declares client.types) {x y z : Item} {s t r : RecordType}
    {as bs cs : List Value} (first : world.Holds client.types x (.record s as))
    (second : world.Holds client.types y (.record t bs))
    (third : world.Holds client.types z (.record r cs))
    (numbers : ∀ v ∈ [Value.record s as, .record t bs, .record r cs],
      v.everywhere Value.isNotNan = true)
    (call : Call) (fuel : Nat)
    (room : ∀ v ∈ [Value.record s as, .record t bs, .record r cs], v.depth < fuel) :
    world.Finds call fuel x x true ∧
      (∃ same, world.Finds call fuel x y same ∧ world.Finds call fuel y x same) ∧
      (world.Finds call fuel x y true → world.Finds call fuel y z true →
        world.Finds call fuel x z true) ∧
      (s ≠ t → world.Finds call fuel x y false) ∧
      ∀ limit u v world₁ world₂, (sentForm limit x).run world = (.ok u, world₁) →
        (sentForm limit y).run world₁ = (.ok v, world₂) → world.Finds call fuel x y true →
        world₂.Finds call fuel u v true := by
  have sound := build_wellDeclared regular built
  simp only [List.forall_mem_cons] at numbers room
  obtain ⟨numbersA, numbersB, numbersC, -⟩ := numbers
  obtain ⟨roomA, roomB, roomC, -⟩ := room
  have comparableA := first.comparable numbersA
  have comparableB := second.comparable numbersB
  have xy := finds sound declared call first second numbersA roomA
  refine ⟨?_, ⟨_, xy, ?_⟩, fun same same' => ?_, fun unlike => ?_, ?_⟩
  · rw [← Value.equal_self _ comparableA.regular comparableA.numbers]
    exact finds sound declared call first first numbersA roomA
  · rw [Value.equal_symm comparableA.regular comparableB.regular]
    exact finds sound declared call second first numbersB roomB
  · have yz := finds sound declared call second third numbersB roomB
    rw [← Value.equal_trans _ (xy.eq same) (yz.eq same')]
    exact finds sound declared call first third numbersA roomA
  · have member := (Value.isRecordOf_record.mp (Value.everywhere_here (first.belongsTo _))).1
    have member' := (Value.isRecordOf_record.mp (Value.everywhere_here (second.belongsTo _))).1
    have named : s.name ≠ t.name :=
      fun same => unlike (List.inj_on_of_nodup_map sound.names member member' same)
    have unequal : (Value.record s as).equal (.record t bs) = false := by simp [Value.equal, named]
    rwa [unequal] at xy
  · intro limit u v world₁ world₂ sent sent' same
    obtain ⟨⟨p, formed, held⟩, changes⟩ := sentForm_holds sound declared first sent
    obtain ⟨⟨q, formed', held'⟩, changes'⟩ :=
      sentForm_holds sound (declared.grows changes) (second.grows changes _) sent'
    obtain ⟨numbersP, deep⟩ := formed.keeps _ numbersA
    have equal := plainForm_equal sound.toWellNamed _ (first.belongsTo _) (second.belongsTo _)
      formed formed' (xy.eq same)
    rw [← equal]
    exact finds sound (declared.grows (changes.trans changes')) call (held.grows changes' _) held'
      numbersP (Nat.lt_of_le_of_lt deep roomA)

/-- One is one, written with a point or as true, and sent alike either way. -/
theorem record_equality_nodes :
    sampleWorld.Finds invoke 3 (.object 6) (.object 10) true ∧
      ∀ u v world₁ world₂, (sentForm 3 (.object 6)).run sampleWorld = (.ok u, world₁) →
        (sentForm 3 (.object 8)).run world₁ = (.ok v, world₂) →
        world₂.Finds invoke 3 u v true := by
  have declared : sampleWorld.Declares sampleClient.types :=
    declares_foldl_push _ (World.declares_start _)
  have holds (id own : Nat) (size : Item) (v : Value) (simple : size.simple? = some v)
      (here : sampleWorld.objects[id]? = some (.record "Node" own))
      (fields : sampleWorld.objects[own]? =
        some (.mapping [("label", .string "a"), ("size", size), ("links", .object 4)])) :
      sampleWorld.Holds sampleClient.types (.object id)
        (.record sampleNode [.string "a", v, .list []]) :=
    .record ⟨⟨by decide, here, fields, by simp +decide⟩, rfl⟩
      (.cons (.simple rfl) (.cons (.simple simple) (.cons (.list rfl .nil) .nil)))
  obtain ⟨-, -, trans, -, sent⟩ := record_equality (by decide) sample_built declared
    (holds 6 5 _ _ rfl rfl rfl) (holds 8 7 _ _ rfl rfl rfl) (holds 10 9 _ _ rfl rfl rfl)
    (by decide) invoke 3 (by decide)
  have same : sampleWorld.Finds invoke 3 (.object 6) (.object 8) true := rfl
  have same' : sampleWorld.Finds invoke 3 (.object 8) (.object 10) true := rfl
  refine ⟨trans same same', ?_⟩
  intro u v world₁ world₂ posted posted'
  exact sent 3 u v world₁ world₂ posted posted' same

end ServiceClient

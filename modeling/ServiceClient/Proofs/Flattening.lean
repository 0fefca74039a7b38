import Mathlib.Logic.Relation
import ServiceClient.Proofs.Described
import ServiceClient.Proofs.Shapes

/-!
The plain form of a value, and the checks on the way to it. `IsPlainForm` says layer by layer what
the plain form of a value is, and `Value.checks` lists the fields of the records in a value in the
order in which they are checked, each before the fields inside it. A value has a plain form if they
all pass; otherwise the first that does not is what fails (`toWire_flattens`). An encoder that walks
through the form of every record once more comes to the same, failures included
(`encodeWithin_eq`).
-/

namespace ServiceClient

/-- A plain value has the layers of another: a list for each list or tuple, with as many items, and
for each mapping or record a mapping, with the same keys or those of the declared fields. -/
inductive IsPlainForm : Value → Value → Prop
  | leaf {v : Value} (leaf : v.isLeaf = true) : IsPlainForm v v
  | list {items ws : List Value} (each : List.Forall₂ IsPlainForm items ws) :
      IsPlainForm (.list items) (.list ws)
  | tuple {items ws : List Value} (each : List.Forall₂ IsPlainForm items ws) :
      IsPlainForm (.tuple items) (.list ws)
  | object {entries out : List (String × Value)} (keys : out.map (·.1) = entries.map (·.1))
      (each : List.Forall₂ IsPlainForm (entries.map (·.2)) (out.map (·.2))) :
      IsPlainForm (.object entries) (.object out)
  | record {type : RecordType} {values : List Value} {out : List (String × Value)}
      (keys : out.map (·.1) = type.fieldNames)
      (each : List.Forall₂ IsPlainForm values (out.map (·.2))) :
      IsPlainForm (.record type values) (.object out)

/-- A field that is checked: what messages call it, its type, and its value. -/
structure FieldCheck where
  subject : String
  type : TypeRef
  value : Value

/-- What comes of the check of a field that does not pass. -/
def FieldCheck.failure? (c : FieldCheck) : Option Failure :=
  (c.type.mismatch? c.value).map (.mismatch c.subject)

mutual

/-- The fields of all records in a value, in the order in which they are checked. -/
def Value.checks : Value → List FieldCheck
  | .list items | .tuple items => checksOfItems items
  | .object entries => checksOfEntries entries
  | .record type values => checksOfFields type.name type.fields values
  | _ => []

def checksOfItems : List Value → List FieldCheck
  | [] => []
  | v :: vs => v.checks ++ checksOfItems vs

def checksOfEntries : List (String × Value) → List FieldCheck
  | [] => []
  | (_, v) :: rest => v.checks ++ checksOfEntries rest

def checksOfFields (owner : String) : List (String × TypeRef) → List Value → List FieldCheck
  | (field, t) :: fields, v :: vs =>
    ⟨owner ++ "." ++ field, t, v⟩ :: (v.checks ++ checksOfFields owner fields vs)
  | _, _ => []

end

/-- A value is reached from another that it is, or is inside of at any depth. -/
def Value.Reaches : Value → Value → Prop := Relation.ReflTransGen fun v part => part ∈ v.parts

/-! ## What fails first -/

/-- What a step fails with. -/
def failureOf {α : Type} : Except Failure α → Option Failure
  | .ok _ => none
  | .error failure => some failure

section

variable {α β : Type}

theorem failureOf_eq_some {x : Except Failure α} {failure : Failure} :
    failureOf x = some failure ↔ x = .error failure := by
  cases x <;> simp [failureOf]

/-- Of two steps the first fails, or else the second, if what that fails with does not depend on
the first. -/
theorem failureOf_bind {x : Except Failure α} {f : α → Except Failure β} {later : Option Failure}
    (rest : ∀ a, failureOf (f a) = later) : failureOf (x >>= f) = (failureOf x).or later := by
  cases x with
  | error failure => rfl
  | ok a => exact rest a

theorem failureOf_return {x : Except Failure α} {f : α → β} :
    failureOf (do return f (← x)) = failureOf x := by
  cases x <;> rfl

end

theorem failureOf_check (t : TypeRef) (subject : String) (v : Value) :
    failureOf (t.check subject v) = (FieldCheck.mk subject t v).failure? := by
  rw [TypeRef.check, FieldCheck.failure?]
  cases t.mismatch? v <;> rfl

/-- The first failure in the checks on the way through a value. -/
def Value.firstFailure? (v : Value) : Option Failure := v.checks.findSome? FieldCheck.failure?

theorem toWireItems_failure {items : List Value}
    (inside : ∀ v ∈ items, failureOf v.toWire = v.firstFailure?) :
    failureOf (toWireItems items) = (checksOfItems items).findSome? FieldCheck.failure? := by
  induction items with
  | nil => rfl
  | cons v vs ih =>
    obtain ⟨here, later⟩ := List.forall_mem_cons.mp inside
    rw [toWireItems, checksOfItems, List.findSome?_append, ← ih later]
    rw [failureOf_bind fun w => failureOf_return, here]
    rfl

theorem toWireEntries_failure {entries : List (String × Value)}
    (inside : ∀ e ∈ entries, failureOf e.2.toWire = e.2.firstFailure?) :
    failureOf (toWireEntries entries) =
      (checksOfEntries entries).findSome? FieldCheck.failure? := by
  induction entries with
  | nil => rfl
  | cons e rest ih =>
    obtain ⟨here, later⟩ := List.forall_mem_cons.mp inside
    rw [toWireEntries, checksOfEntries, List.findSome?_append, ← ih later]
    rw [failureOf_bind fun w => failureOf_return, here]
    rfl

theorem toWireFields_failure {owner : String} {fields : List (String × TypeRef)}
    {values : List Value} (inside : ∀ v ∈ values, failureOf v.toWire = v.firstFailure?) :
    failureOf (toWireFields owner fields values) =
      (checksOfFields owner fields values).findSome? FieldCheck.failure? := by
  induction fields generalizing values with
  | nil => simp [toWireFields, checksOfFields, failureOf]
  | cons f fields ih =>
    cases values with
    | nil => rfl
    | cons v vs =>
      obtain ⟨here, later⟩ := List.forall_mem_cons.mp inside
      -- The check of the field, then what is inside it, then the other fields.
      rw [toWireFields, checksOfFields, List.findSome?_cons, List.findSome?_append, ← ih later]
      rw [failureOf_bind fun _ => failureOf_bind fun w => failureOf_return, failureOf_check, here]
      cases (FieldCheck.mk (owner ++ "." ++ f.1) f.2 v).failure? <;> rfl

/-- What a value fails with is what the first of its checks fails with. -/
theorem toWire_failure (v : Value) : failureOf v.toWire = v.firstFailure? := by
  induction v using Value.partsInduction with
  | leaf v leaf => cases v <;> first | rfl | cases leaf
  | list items ih | tuple items ih =>
    rw [Value.toWire, failureOf_return]
    exact toWireItems_failure ih
  | object entries ih =>
    rw [Value.toWire, failureOf_return]
    exact toWireEntries_failure ih
  | record type values ih =>
    rw [Value.toWire, failureOf_return]
    exact toWireFields_failure ih

/-- A value has a plain form if none of its checks fails. -/
theorem exists_toWire_iff {v : Value} :
    (∃ w, v.toWire = .ok w) ↔ ∀ c ∈ v.checks, c.failure? = none := by
  rw [← List.findSome?_eq_none_iff]
  change _ ↔ v.firstFailure? = none
  rw [← toWire_failure]
  cases v.toWire <;> simp [failureOf]

theorem toWire_eq_error_iff {v : Value} {failure : Failure} :
    v.toWire = .error failure ↔ ∃ before c after, v.checks = before ++ c :: after ∧
      c.failure? = some failure ∧ ∀ b ∈ before, b.failure? = none := by
  rw [← failureOf_eq_some, toWire_failure]
  exact List.findSome?_eq_some_iff

/-! ## What is reached -/

theorem reaches_iff {v u : Value} : v.Reaches u ↔ v = u ∨ ∃ part ∈ v.parts, part.Reaches u :=
  Relation.ReflTransGen.cases_head_iff

/-- The fields of a record itself. -/
def Value.ownChecks : Value → List FieldCheck
  | .record type values =>
    (type.fields.zip values).map fun f => ⟨type.name ++ "." ++ f.1.1, f.1.2, f.2⟩
  | _ => []

theorem mem_checksOfItems {items : List Value} {c : FieldCheck} :
    c ∈ checksOfItems items ↔ ∃ v ∈ items, c ∈ v.checks := by
  induction items with
  | nil => simp [checksOfItems]
  | cons v vs ih => simp [checksOfItems, ih]

theorem mem_checksOfEntries {entries : List (String × Value)} {c : FieldCheck} :
    c ∈ checksOfEntries entries ↔ ∃ e ∈ entries, c ∈ e.2.checks := by
  induction entries with
  | nil => simp [checksOfEntries]
  | cons e rest ih => simp [checksOfEntries, ih]

theorem mem_checksOfFields {owner : String} {fields : List (String × TypeRef)}
    {values : List Value} (full : values.length = fields.length) {c : FieldCheck} :
    c ∈ checksOfFields owner fields values ↔
      c ∈ (fields.zip values).map (fun f => FieldCheck.mk (owner ++ "." ++ f.1.1) f.1.2 f.2) ∨
        ∃ v ∈ values, c ∈ v.checks := by
  induction fields generalizing values with
  | nil =>
    obtain rfl := List.eq_nil_of_length_eq_zero full
    simp [checksOfFields]
  | cons f fields ih =>
    cases values with
    | nil => simp at full
    | cons v values =>
      have full : values.length = fields.length := by simpa using full
      have rest := ih full
      simp only [checksOfFields, List.mem_cons, List.mem_append, rest, List.zip_cons_cons,
        List.map_cons, exists_eq_or_imp]
      tauto

/-- The checks of a value are those of its own fields and those of the values inside it. -/
theorem mem_checks {v : Value} (full : v.isFull = true) {c : FieldCheck} :
    c ∈ v.checks ↔ c ∈ v.ownChecks ∨ ∃ part ∈ v.parts, c ∈ part.checks := by
  cases v with
  | list items | tuple items => simp [Value.checks, Value.ownChecks, Value.parts, mem_checksOfItems]
  | object entries =>
    simp only [Value.checks, Value.ownChecks, Value.parts, mem_checksOfEntries, List.not_mem_nil,
      false_or, List.mem_map, exists_exists_and_eq_and]
  | record type values => exact mem_checksOfFields (beq_iff_eq.mp full)
  | _ => simp [Value.checks, Value.ownChecks, Value.parts]

/-- The checks of a value are those of the records that are reached from it. -/
theorem mem_checks_iff_reaches (v : Value) (full : v.everywhere Value.isFull = true)
    {c : FieldCheck} : c ∈ v.checks ↔ ∃ u, v.Reaches u ∧ c ∈ u.ownChecks := by
  induction v using Value.insideInduction with
  | step v ih =>
    rw [mem_checks (Value.everywhere_here full)]
    constructor
    · rintro (own | ⟨part, inside, deeper⟩)
      · exact ⟨v, .refl, own⟩
      · obtain ⟨u, reached, own⟩ := (ih part inside (everywhere_parts full part inside)).mp deeper
        exact ⟨u, .head inside reached, own⟩
    · rintro ⟨u, reached, own⟩
      rcases reaches_iff.mp reached with rfl | ⟨part, inside, reached⟩
      · exact .inl own
      · have deeper := (ih part inside (everywhere_parts full part inside)).mpr ⟨u, reached, own⟩
        exact .inr ⟨part, inside, deeper⟩

theorem everywhere_reached {test : Value → Bool} {v u : Value} (reached : v.Reaches u)
    (passes : v.everywhere test = true) : u.everywhere test = true := by
  induction reached with
  | refl => exact passes
  | tail _ inside ih => exact everywhere_parts ih _ inside

/-- What is reached from a value with a plain form has one too. -/
theorem toWire_reached {v u w : Value} (full : v.everywhere Value.isFull = true)
    (sent : v.toWire = .ok w) (reached : v.Reaches u) : ∃ x, u.toWire = .ok x := by
  have passed := exists_toWire_iff.mp ⟨w, sent⟩
  apply exists_toWire_iff.mpr
  intro c inside
  obtain ⟨r, further, own⟩ :=
    (mem_checks_iff_reaches u (everywhere_reached reached full)).mp inside
  exact passed c ((mem_checks_iff_reaches v full).mpr ⟨r, reached.trans further, own⟩)

/-- A value fails if and only if some record that is reached from it has a field of another shape
than its type. -/
theorem toWire_fails_iff {v : Value} (full : v.everywhere Value.isFull = true) :
    (∃ failure, v.toWire = .error failure) ↔ ∃ type values, v.Reaches (.record type values) ∧
      ∃ f ∈ type.fields.zip values, ¬HasShape isUntyped f.1.2 f.2 := by
  have fails : (∃ failure, v.toWire = .error failure) ↔ ¬∃ w, v.toWire = .ok w := by
    cases v.toWire <;> simp
  have shaped (c : FieldCheck) : c.failure? = none ↔ HasShape isUntyped c.type c.value := by
    rw [FieldCheck.failure?, Option.map_eq_none_iff, mismatch?_eq_none_iff]
  rw [fails, exists_toWire_iff]
  simp only [shaped, mem_checks_iff_reaches v full, not_forall]
  constructor
  · rintro ⟨c, ⟨u, reached, own⟩, other⟩
    cases u with
    | record type values =>
      obtain ⟨f, field, rfl⟩ := List.mem_map.mp own
      exact ⟨type, values, reached, f, field, other⟩
    | _ => cases own
  · rintro ⟨type, values, reached, f, field, other⟩
    exact ⟨_, ⟨_, reached, List.mem_map_of_mem field⟩, other⟩

/-! ## The plain form -/

theorem toWire_isPlainForm (v : Value) : ∀ {w : Value}, v.everywhere Value.isFull = true →
    v.toWire = .ok w → IsPlainForm v w := by
  induction v using Value.partsInduction with
  | leaf v leaf =>
    intro w full sent
    obtain rfl := Except.ok.inj ((toWire_leaf leaf).symm.trans sent)
    exact .leaf leaf
  | list items ih =>
    intro w full sent
    obtain ⟨ws, all, rfl⟩ := toWire_list_eq_ok.mp sent
    have full := everywhere_parts full
    exact .list (forall₂_imp_mem all fun v member w sent => ih v member (full v member) sent)
  | tuple items ih =>
    intro w full sent
    obtain ⟨ws, all, rfl⟩ := toWire_tuple_eq_ok.mp sent
    have full := everywhere_parts full
    exact .tuple (forall₂_imp_mem all fun v member w sent => ih v member (full v member) sent)
  | object entries ih =>
    intro w full sent
    obtain ⟨out, all, rfl⟩ := toWire_object_eq_ok.mp sent
    obtain ⟨-, full⟩ := Value.everywhere_object.mp full
    refine .object (forall₂_map_eq (all.imp fun _ _ here => here.1)).symm ?_
    rw [List.forall₂_map_left_iff, List.forall₂_map_right_iff]
    exact forall₂_imp_mem all fun e member e' here => ih e member (full e member) here.2
  | record type values ih =>
    intro w full sent
    obtain ⟨out, all, rfl⟩ := toWire_record_eq_ok.mp sent
    obtain ⟨here, full⟩ := Value.everywhere_record.mp full
    have sized : values.length = type.fields.length := beq_iff_eq.mp here
    refine .record (fieldsSent_zip sized all).1 ?_
    rw [List.forall₂_map_right_iff, ← List.map_snd_zip (Nat.le_of_eq sized),
      List.forall₂_map_left_iff]
    apply forall₂_imp_mem all
    rintro p paired e ⟨-, -, sent⟩
    have member : p.2 ∈ values := (List.of_mem_zip paired).2
    exact ih p.2 member (full p.2 member) sent

/-! ## Walking through the form of a record once more -/

/-- The entries a record of the named type is sent as, each field checked and then converted. -/
def wireFormBy (convert : Value → Except Failure Value) (owner : String) :
    List (String × TypeRef) → List Value → Except Failure (List (String × Value))
  | (field, t) :: fields, v :: vs => do
    t.check (owner ++ "." ++ field) v
    return (field, ← convert v) :: (← wireFormBy convert owner fields vs)
  | _, _ => .ok []

def convertEntries (convert : Value → Except Failure Value) (entries : List (String × Value)) :
    Except Failure (List (String × Value)) :=
  entries.mapM fun (key, v) => return (key, ← convert v)

/-- The plain form of a value with nothing deeper inside it than `fuel`, as an encoder makes it that
asks a record for its form, in which everything is converted already, and then converts what is in
that as it does with any mapping. -/
def Value.encodeWithin : (fuel : Nat) → Value → Except Failure Value
  | 0, _ => .error (.misuse .tooDeep)
  | fuel + 1, .list items | fuel + 1, .tuple items => do
    return .list (← items.mapM (encodeWithin fuel))
  | fuel + 1, .object entries => do return .object (← convertEntries (encodeWithin fuel) entries)
  | fuel + 1, .record type values => do
    let form ← wireFormBy (encodeWithin fuel) type.name type.fields values
    return .object (← convertEntries (encodeWithin fuel) form)
  | _ + 1, v => .ok v

section

variable {convert : Value → Except Failure Value}

theorem mapM_eq_toWireItems {items : List Value} (same : ∀ v ∈ items, convert v = v.toWire) :
    items.mapM convert = toWireItems items := by
  rw [toWireItems_eq_mapM]
  exact mapM_congr same

theorem convertEntries_eq {entries : List (String × Value)}
    (same : ∀ e ∈ entries, convert e.2 = e.2.toWire) :
    convertEntries convert entries = toWireEntries entries := by
  rw [toWireEntries_eq_mapM]
  apply mapM_congr
  rintro ⟨key, v⟩ entry
  rw [← same (key, v) entry]

theorem wireFormBy_eq {owner : String} {fields : List (String × TypeRef)} {values : List Value}
    (same : ∀ v ∈ values, convert v = v.toWire) :
    wireFormBy convert owner fields values = toWireFields owner fields values := by
  induction fields generalizing values with
  | nil => rw [wireFormBy, toWireFields] <;> simp
  | cons f fields ih =>
    cases values with
    | nil => rfl
    | cons v vs =>
      obtain ⟨here, later⟩ := List.forall_mem_cons.mp same
      rw [wireFormBy, toWireFields, here, ih later]

end

theorem depthOfItems_toWire_le {items ws : List Value}
    (sent : List.Forall₂ (fun v w => v.toWire = .ok w) items ws)
    (inside : ∀ v ∈ items, ∀ {w : Value}, v.toWire = .ok w → w.depth ≤ v.depth) :
    depthOfItems ws ≤ depthOfItems items := by
  apply depthOfItems_le_iff.mpr
  intro w member'
  obtain ⟨v, member, here⟩ := forall₂_mem_right sent member'
  exact Nat.le_trans (inside v member here) (depthOfItems_le_iff.mp (Nat.le_refl _) v member)

/-- Nothing is deeper inside the plain form of a value than inside the value. -/
theorem depth_toWire_le (v : Value) : ∀ {w : Value}, v.toWire = .ok w → w.depth ≤ v.depth := by
  induction v using Value.partsInduction with
  | leaf v leaf =>
    intro w sent
    obtain rfl := Except.ok.inj ((toWire_leaf leaf).symm.trans sent)
    exact Nat.le_refl _
  | list items ih =>
    intro w sent
    obtain ⟨ws, all, rfl⟩ := toWire_list_eq_ok.mp sent
    exact Nat.succ_le_succ (depthOfItems_toWire_le all ih)
  | tuple items ih =>
    intro w sent
    obtain ⟨ws, all, rfl⟩ := toWire_tuple_eq_ok.mp sent
    exact Nat.succ_le_succ (depthOfItems_toWire_le all ih)
  | object entries ih =>
    intro w sent
    obtain ⟨out, all, rfl⟩ := toWire_object_eq_ok.mp sent
    refine Nat.succ_le_succ (depthOfEntries_le_iff.mpr fun e' entry' => ?_)
    obtain ⟨e, entry, -, here⟩ := forall₂_mem_right all entry'
    exact Nat.le_trans (ih e entry here) (depthOfEntries_le_iff.mp (Nat.le_refl _) e entry)
  | record type values ih =>
    intro w sent
    obtain ⟨out, all, rfl⟩ := toWire_record_eq_ok.mp sent
    refine Nat.succ_le_succ (depthOfEntries_le_iff.mpr fun e entry => ?_)
    obtain ⟨f, field, -, -, here⟩ := forall₂_mem_right all entry
    have member : f.2 ∈ values := (List.of_mem_zip field).2
    exact Nat.le_trans (ih f.2 member here) (depthOfItems_le_iff.mp (Nat.le_refl _) f.2 member)

/-- What is in the form of a record is converted already. -/
theorem toWireEntries_again {owner : String} {fields : List (String × TypeRef)}
    {values : List Value} {form : List (String × Value)}
    (formed : toWireFields owner fields values = .ok form) : toWireEntries form = .ok form := by
  have sent : (Value.record ⟨owner, fields⟩ values).toWire = .ok (.object form) :=
    bind_eq_ok.mpr ⟨form, formed, rfl⟩
  obtain ⟨form', walked, same⟩ := bind_eq_ok.mp (toWire_unchanged _ (flat_of_toWire sent))
  obtain rfl : form' = form := Value.object.inj (pure_eq_ok.mp same)
  exact walked

/-- The plain form of a value is what the encoder makes of it, and if the value has none, both fail
the same. -/
theorem encodeWithin_eq {fuel : Nat} {v : Value} (room : v.depth < fuel) :
    v.encodeWithin fuel = v.toWire := by
  induction fuel generalizing v with
  | zero => cases room
  | succ fuel ih =>
    cases v with
    | list items | tuple items =>
      have inside : ∀ u ∈ items, u.encodeWithin fuel = u.toWire := fun u member =>
        ih (below_of_items room u member)
      rw [Value.encodeWithin, Value.toWire, mapM_eq_toWireItems inside]
    | object entries =>
      have inside : ∀ e ∈ entries, e.2.encodeWithin fuel = e.2.toWire := fun e entry =>
        ih (below_of_entries room e entry)
      rw [Value.encodeWithin, Value.toWire, convertEntries_eq inside]
    | record type values =>
      have inside : ∀ u ∈ values, u.encodeWithin fuel = u.toWire := fun u member =>
        ih (below_of_items room u member)
      rw [Value.encodeWithin, Value.toWire, wireFormBy_eq inside]
      cases formed : toWireFields type.name type.fields values with
      | error failure => rfl
      | ok form =>
        -- What is converted once more is the form, so there is room for that, and nothing changes.
        have sent : (Value.record type values).toWire = .ok (.object form) :=
          bind_eq_ok.mpr ⟨form, formed, rfl⟩
        have room' := Nat.lt_of_le_of_lt (depth_toWire_le _ sent) room
        have again : ∀ e ∈ form, e.2.encodeWithin fuel = e.2.toWire := fun e entry =>
          ih (below_of_entries room' e entry)
        rw [ok_bind, convertEntries_eq again, toWireEntries_again formed]
    | _ => rfl

/-- The plain form of a value has neither records nor tuples in it, has the layers of the value and
is its own plain form. That of a record is the form it has by itself, with its fields in the order
of the declaration, which going through once more does not change. A value fails if some record in
it has a field that does not pass its check, and the first such field is what it fails with. -/
theorem toWire_flattens (v : Value) (full : v.everywhere Value.isFull = true) :
    (∀ w, v.toWire = .ok w →
      IsPlainForm v w ∧ w.everywhere Value.isFlat = true ∧ w.toWire = .ok w ∧
        ∀ type values, v.Reaches (.record type values) → ∃ entries,
          toWireFields type.name type.fields values = .ok entries ∧
            (Value.record type values).toWire = .ok (.object entries) ∧
            toWireEntries entries = .ok entries ∧ entries.map (·.1) = type.fieldNames) ∧
    ((∃ failure, v.toWire = .error failure) ↔ ∃ type values, v.Reaches (.record type values) ∧
      ∃ f ∈ type.fields.zip values, ¬HasShape isUntyped f.1.2 f.2) ∧
    ∀ failure, v.toWire = .error failure ↔ ∃ before c after, v.checks = before ++ c :: after ∧
      c.failure? = some failure ∧ ∀ b ∈ before, b.failure? = none := by
  refine ⟨?_, toWire_fails_iff full, fun failure => toWire_eq_error_iff⟩
  intro w sent
  have flat := flat_of_toWire sent
  refine ⟨toWire_isPlainForm v full sent, flat, toWire_unchanged w flat, ?_⟩
  intro type values reached
  have sized : values.length = type.fields.length :=
    beq_iff_eq.mp (Value.everywhere_here (everywhere_reached reached full))
  obtain ⟨x, formed⟩ := toWire_reached full sent reached
  obtain ⟨entries, fields, same⟩ := bind_eq_ok.mp formed
  obtain rfl := pure_eq_ok.mp same
  exact ⟨entries, fields, formed, toWireEntries_again fields,
    (fieldsSent_zip sized (toWireFields_eq_ok.mp fields)).1⟩

/-- A node is linked to one whose label is no text. If something that is no node is linked behind
it, that is what fails, as the links are checked before what is in them; without it, the label. -/
theorem toWire_flattens_links :
    let unlabelled : Value := .record sampleNode [.int 1, .int 0, .list []]
    let linked (links : List Value) : Value :=
      .record sampleNode [.string "a", .int 3, .list links]
    (linked [unlabelled, .int 5]).toWire = .error (.mismatch "Node.links" ⟨[1], .named "Node"⟩) ∧
      (linked [unlabelled]).toWire = .error (.mismatch "Node.label" ⟨[], .primitive .string⟩) ∧
      ∀ w, (linked []).toWire = .ok w → w.everywhere Value.isFlat = true ∧ w.toWire = .ok w := by
  intro unlabelled linked
  obtain ⟨-, -, broken⟩ := toWire_flattens (linked [unlabelled, .int 5]) (by decide)
  obtain ⟨-, -, inside⟩ := toWire_flattens (linked [unlabelled]) (by decide)
  obtain ⟨formed, -⟩ := toWire_flattens (linked []) (by decide)
  refine ⟨(broken _).mpr ?_, (inside _).mpr ?_, ?_⟩
  · exact ⟨(linked [unlabelled, .int 5]).checks.take 2, _, _, rfl, rfl, by decide⟩
  · exact ⟨(linked [unlabelled]).checks.take 3, _, _, rfl, rfl, by decide⟩
  · intro w sent
    obtain ⟨-, flat, again, -⟩ := formed w sent
    exact ⟨flat, again⟩

end ServiceClient

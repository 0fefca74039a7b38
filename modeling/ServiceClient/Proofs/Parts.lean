import Mathlib.Data.List.Forall2
import Mathlib.Data.List.Nodup
import ServiceClient.Record

/-!
Properties of a value and of everything inside it. `Value.everywhere` carries a test to every part
of a value; the tests that matter here tell plain values of JSON (`isPlain`) and values made with
the declared types of one service (`belongsTo`). `Value.depth` counts the layers of parts inside one
another.
-/

namespace ServiceClient

/-- Whether no key stands in two entries. -/
def keysDistinct {α : Type} (entries : List (String × α)) : Bool := decide (entries.map (·.1)).Nodup

section

variable {α : Type} {entries : List (String × α)} {key : String} {a : α}

theorem mem_of_lookup (h : entries.lookup key = some a) : (key, a) ∈ entries := by
  obtain ⟨before, after, rfl, -⟩ := List.lookup_eq_some_iff.mp h
  simp

theorem lookup_eq_some_iff_mem (distinct : (entries.map (·.1)).Nodup) :
    entries.lookup key = some a ↔ (key, a) ∈ entries := by
  refine ⟨mem_of_lookup, fun member => ?_⟩
  obtain ⟨before, after, rfl⟩ := List.append_of_mem member
  refine List.lookup_eq_some_iff.mpr ⟨before, after, rfl, fun e earlier => ?_⟩
  simp only [List.map_append, List.map_cons, List.nodup_append] at distinct
  exact bne_iff_ne.mpr (distinct.2.2 e.1 (List.mem_map_of_mem earlier) key (by simp)).symm

/-- Where keys differ, a key has one value. -/
theorem eq_of_lookup {b : α} (distinct : (entries.map (·.1)).Nodup)
    (found : entries.lookup key = some b) (member : (key, a) ∈ entries) : b = a := by
  rw [(lookup_eq_some_iff_mem distinct).mpr member] at found
  exact (Option.some.inj found).symm

theorem lookup_eq_none_iff_not_mem : entries.lookup key = none ↔ key ∉ entries.map (·.1) := by
  simp only [List.lookup_eq_none_iff, List.mem_map, not_exists, not_and]
  constructor
  · intro h e member same
    simpa [same] using h e member
  · intro h e member
    exact bne_iff_ne.mpr fun same => h e member same.symm

/-- Entries that are related one by one, key by key, are found together. -/
theorem forall₂_lookup {β : Type} {R : String × α → String × β → Prop}
    {entries' : List (String × β)} (h : List.Forall₂ R entries entries')
    (keys : ∀ e e', R e e' → e.1 = e'.1) (key : String) :
    (entries.lookup key = none ∧ entries'.lookup key = none) ∨
      ∃ a b, entries.lookup key = some a ∧ entries'.lookup key = some b ∧ R (key, a) (key, b) := by
  induction h with
  | nil => exact .inl ⟨rfl, rfl⟩
  | @cons e e' rest rest' here _ ih =>
    obtain ⟨k, a⟩ := e
    obtain ⟨k', b⟩ := e'
    obtain rfl : k = k' := keys _ _ here
    by_cases same : key = k
    · subst same
      exact .inr ⟨a, b, by simp, by simp, here⟩
    · simpa [List.lookup_cons, beq_eq_false_iff_ne.mpr same] using ih

theorem putEntry_new (new : key ∉ entries.map (·.1)) :
    putEntry key a entries = entries ++ [(key, a)] := by
  induction entries with
  | nil => rfl
  | cons e rest ih =>
    obtain ⟨other, new⟩ := not_or.mp (fun h => new (List.mem_cons.mpr h))
    rw [putEntry, if_neg (Ne.symm other), ih new, List.cons_append]

/-- Entries with different keys are a mapping as they stand. -/
theorem entriesOfPairs_eq (distinct : (entries.map (·.1)).Nodup) :
    entriesOfPairs entries = entries := by
  have all : ∀ before after : List (String × α), ((before ++ after).map (·.1)).Nodup →
      after.foldl (fun entries e => putEntry e.1 e.2 entries) before = before ++ after := by
    intro before after
    induction after generalizing before with
    | nil => simp
    | cons e rest ih =>
      intro distinct
      have new : e.1 ∉ before.map (·.1) := by
        simp only [List.map_append, List.map_cons, List.nodup_append] at distinct
        exact fun earlier => distinct.2.2 e.1 earlier e.1 List.mem_cons_self rfl
      rw [List.foldl_cons, putEntry_new new, ih (before ++ [e]) (by simpa using distinct),
        List.append_assoc, List.singleton_append]
  exact all [] entries distinct

end

section

variable {α β : Type}

theorem zip_keys {fields : List (String × α)} {entries : List (String × β)}
    (keys : entries.map (·.1) = fields.map (·.1)) : ∀ p ∈ fields.zip entries, p.1.1 = p.2.1 := by
  induction fields generalizing entries with
  | nil => simp
  | cons f fields ih =>
    cases entries with
    | nil => simp
    | cons e entries =>
      obtain ⟨here, later⟩ := List.cons.inj keys
      exact List.forall_mem_cons.mpr ⟨here.symm, ih later⟩

theorem exists_mem_zip {xs : List α} {ys : List β} (full : ys.length = xs.length) {y : β}
    (member : y ∈ ys) : ∃ x, (x, y) ∈ xs.zip ys := by
  rw [← List.map_snd_zip (Nat.le_of_eq full)] at member
  obtain ⟨p, inside, rfl⟩ := List.mem_map.mp member
  exact ⟨p.1, inside⟩

theorem exists_mem_zip_left {xs : List α} {ys : List β} (full : ys.length = xs.length) {x : α}
    (member : x ∈ xs) : ∃ y, (x, y) ∈ xs.zip ys := by
  rw [← List.map_fst_zip (Nat.le_of_eq full.symm)] at member
  obtain ⟨p, inside, rfl⟩ := List.mem_map.mp member
  exact ⟨p.2, inside⟩

theorem map_eq_of_zip {xs : List α} {ys : List β} {g : α → β} (full : ys.length = xs.length)
    (same : ∀ p ∈ xs.zip ys, g p.1 = p.2) : xs.map g = ys := by
  induction xs generalizing ys with
  | nil => simpa [eq_comm] using full
  | cons x xs ih =>
    cases ys with
    | nil => simp at full
    | cons y ys =>
      obtain ⟨here, later⟩ := List.forall_mem_cons.mp same
      rw [List.map_cons, here, ih (by simpa using full) later]

end

namespace Value

/-- Whether a value has no values inside it. -/
def isLeaf : Value → Bool
  | list _ | tuple _ | object _ | record .. => false
  | _ => true

/-- Induction over a value and the values inside it. -/
theorem partsInduction {P : Value → Prop} (leaf : ∀ v, v.isLeaf = true → P v)
    (list : ∀ items, (∀ v ∈ items, P v) → P (.list items))
    (tuple : ∀ items, (∀ v ∈ items, P v) → P (.tuple items))
    (object : ∀ entries, (∀ e ∈ entries, P e.2) → P (.object entries))
    (record : ∀ type values, (∀ v ∈ values, P v) → P (.record type values)) (v : Value) : P v :=
  @Value.rec P (fun items => ∀ v ∈ items, P v) (fun entries => ∀ e ∈ entries, P e.2)
    (fun e => P e.2) (leaf _ rfl) (fun _ => leaf _ rfl) (fun _ => leaf _ rfl)
    (fun _ => leaf _ rfl) (fun _ => leaf _ rfl) list tuple object (leaf _ rfl)
    (fun _ => leaf _ rfl) record (fun _ member => nomatch member)
    (fun _ _ here later => List.forall_mem_cons.mpr ⟨here, later⟩) (fun _ member => nomatch member)
    (fun _ _ here later => List.forall_mem_cons.mpr ⟨here, later⟩) (fun _ _ inside => inside) v

mutual

/-- Whether a value and every value inside it pass a test. -/
def everywhere (test : Value → Bool) : Value → Bool
  | v@(list items) | v@(tuple items) | v@(record _ items) => test v && everyItem test items
  | v@(object entries) => test v && everyEntry test entries
  | v => test v

def everyItem (test : Value → Bool) : List Value → Bool
  | [] => true
  | v :: vs => v.everywhere test && everyItem test vs

def everyEntry (test : Value → Bool) : List (String × Value) → Bool
  | [] => true
  | (_, v) :: rest => v.everywhere test && everyEntry test rest

end

/-- Whether a value is of a kind that JSON has. -/
def isJsonKind : Value → Bool
  | null | bool _ | int _ | float _ | string _ | list _ | object _ => true
  | tuple _ | absent | typeObject _ | record .. => false

/-- Whether a value is as it stands on the wire, neither a tuple nor a record. -/
def isFlat : Value → Bool
  | tuple _ | record .. => false
  | _ => true

/-- Whether a mapping has each key once. -/
def isMapping : Value → Bool
  | object entries => keysDistinct entries
  | _ => true

/-- Whether a value has a form on the wire: there is none for an argument that was not given, nor
for a type. -/
def isSendable : Value → Bool
  | absent | typeObject _ => false
  | _ => true

/-- Whether a record is of one of the types and has a value for each of its fields. -/
def isRecordOf (types : List RecordType) : Value → Bool
  | record type values => types.contains type && values.length == type.fields.length
  | v => v.isMapping

/-- Whether each mapping in a value has each key once. -/
def isRegular (v : Value) : Bool := v.everywhere isMapping

/-- Whether a record has a value for each of its fields. -/
def isFull : Value → Bool
  | record type values => values.length == type.fields.length
  | _ => true

/-- Whether a value is one of JSON. -/
def isPlain (v : Value) : Bool := v.everywhere fun v => v.isJsonKind && v.isMapping

/-- Whether every record in a value is of one of the types, with a value for each of its fields. -/
def belongsTo (types : List RecordType) (v : Value) : Bool := v.everywhere (isRecordOf types)

variable {test : Value → Bool}

theorem everyItem_iff {items : List Value} :
    everyItem test items = true ↔ ∀ v ∈ items, v.everywhere test = true := by
  induction items with
  | nil => simp [everyItem]
  | cons v vs ih => simp [everyItem, ih]

theorem everyEntry_iff {entries : List (String × Value)} :
    everyEntry test entries = true ↔ ∀ e ∈ entries, e.2.everywhere test = true := by
  induction entries with
  | nil => simp [everyEntry]
  | cons e rest ih => simp [everyEntry, ih]

@[simp]
theorem everywhere_list {items : List Value} :
    (list items).everywhere test = true ↔
      test (list items) = true ∧ ∀ v ∈ items, v.everywhere test = true := by
  rw [everywhere, Bool.and_eq_true, everyItem_iff]

@[simp]
theorem everywhere_tuple {items : List Value} :
    (tuple items).everywhere test = true ↔
      test (tuple items) = true ∧ ∀ v ∈ items, v.everywhere test = true := by
  rw [everywhere, Bool.and_eq_true, everyItem_iff]

@[simp]
theorem everywhere_record {type : RecordType} {values : List Value} :
    (record type values).everywhere test = true ↔
      test (record type values) = true ∧ ∀ v ∈ values, v.everywhere test = true := by
  rw [everywhere, Bool.and_eq_true, everyItem_iff]

@[simp]
theorem everywhere_object {entries : List (String × Value)} :
    (object entries).everywhere test = true ↔
      test (object entries) = true ∧ ∀ e ∈ entries, e.2.everywhere test = true := by
  rw [everywhere, Bool.and_eq_true, everyEntry_iff]

theorem isMapping_object {entries : List (String × Value)} :
    (object entries).isMapping = true ↔ (entries.map (·.1)).Nodup := by
  simp [isMapping, keysDistinct]

theorem isPlain_object {entries : List (String × Value)} :
    (object entries).isPlain = true ↔
      (entries.map (·.1)).Nodup ∧ ∀ e ∈ entries, e.2.isPlain = true := by
  simp [isPlain, isJsonKind, isMapping_object]

theorem isRecordOf_record {types : List RecordType} {type : RecordType} {values : List Value} :
    (record type values).isRecordOf types = true ↔
      type ∈ types ∧ values.length = type.fields.length := by
  simp [isRecordOf]

theorem everywhere_and {test' : Value → Bool} (v : Value) :
    v.everywhere (fun v => test v && test' v) = true ↔
      v.everywhere test = true ∧ v.everywhere test' = true := by
  induction v using partsInduction with
  | leaf v leaf => cases v <;> simp_all [everywhere, isLeaf]
  | list items ih | tuple items ih | object entries ih | record type values ih =>
    simp only [everywhere_list, everywhere_tuple, everywhere_object, everywhere_record,
      Bool.and_eq_true]
    grind

theorem everywhere_imp {test' : Value → Bool} (imp : ∀ v, test v = true → test' v = true)
    (v : Value) (h : v.everywhere test = true) : v.everywhere test' = true := by
  induction v using partsInduction with
  | leaf v leaf => cases v <;> simp_all [everywhere, isLeaf]
  | list items ih | tuple items ih | object entries ih | record type values ih =>
    simp only [everywhere_list, everywhere_tuple, everywhere_object, everywhere_record] at h ⊢
    exact ⟨imp _ h.1, fun v member => ih v member (h.2 v member)⟩

/-- A test that every value passes is passed everywhere. -/
theorem everywhere_of_forall (all : ∀ v, test v = true) (v : Value) :
    v.everywhere test = true := by
  induction v using partsInduction with
  | leaf v leaf => cases v <;> simp_all [everywhere, isLeaf]
  | list items ih | tuple items ih | object entries ih | record type values ih =>
    simp only [everywhere_list, everywhere_tuple, everywhere_object, everywhere_record]
    exact ⟨all _, ih⟩

/-- Values of the declared types have each key once in each mapping. -/
theorem isRegular_of_belongsTo {types : List RecordType} {v : Value}
    (owned : v.belongsTo types = true) : v.isRegular = true := by
  refine everywhere_imp (fun v here => ?_) v owned
  cases v <;> first | exact here | rfl

/-- A plain value is a flat and sendable one in which each mapping has each key once. -/
theorem isPlain_iff {v : Value} :
    v.isPlain = true ↔ (v.everywhere fun v => v.isFlat && v.isMapping) = true ∧
      v.everywhere isSendable = true := by
  rw [← everywhere_and, isPlain]
  refine Eq.congr_left (congrArg (v.everywhere ·) (funext fun v => ?_))
  cases v <;> simp [isJsonKind, isFlat, isMapping, isSendable]

theorem everywhere_leaf {v : Value} (leaf : v.isLeaf = true) (here : test v = true) :
    v.everywhere test = true := by
  cases v <;> simp_all [isLeaf, everywhere]

theorem everywhere_here {v : Value} (h : v.everywhere test = true) : test v = true := by
  cases v <;> simp_all [everywhere]

/-- An entry passes a test that the whole object passes, and so does null in place of one. -/
theorem lookup_everywhere {entries : List (String × Value)}
    (every : (object entries).everywhere test = true) (null : test .null = true) (key : String) :
    ((entries.lookup key).getD .null).everywhere test = true := by
  cases found : entries.lookup key with
  | none => exact null
  | some v => exact (everywhere_object.mp every).2 (key, v) (mem_of_lookup found)

end Value

/-! ## The values inside a value -/

/-- The values that are directly inside a value. -/
def Value.parts : Value → List Value
  | .list items | .tuple items | .record _ items => items
  | .object entries => entries.map (·.2)
  | _ => []

/-- Induction over a value and the values directly inside it. -/
theorem Value.insideInduction {P : Value → Prop} (step : ∀ v, (∀ part ∈ v.parts, P part) → P v)
    (v : Value) : P v := by
  induction v using Value.partsInduction with
  | leaf v leaf =>
    apply step
    cases v <;> first | exact List.forall_mem_nil _ | cases leaf
  | list items ih | tuple items ih | record type values ih => exact step _ ih
  | object entries ih => exact step _ (List.forall_mem_map.mpr ih)

theorem everywhere_parts {test : Value → Bool} {v : Value} (passes : v.everywhere test = true) :
    ∀ part ∈ v.parts, part.everywhere test = true := by
  cases v with
  | list items => exact (Value.everywhere_list.mp passes).2
  | tuple items => exact (Value.everywhere_tuple.mp passes).2
  | record type values => exact (Value.everywhere_record.mp passes).2
  | object entries => exact List.forall_mem_map.mpr (Value.everywhere_object.mp passes).2
  | _ => exact List.forall_mem_nil _

/-! ## How deep a value goes -/

mutual

/-- How many layers of things inside one another a value has. -/
def Value.depth : Value → Nat
  | .list items | .tuple items | .record _ items => depthOfItems items + 1
  | .object entries => depthOfEntries entries + 1
  | _ => 0

def depthOfItems : List Value → Nat
  | [] => 0
  | v :: vs => max v.depth (depthOfItems vs)

def depthOfEntries : List (String × Value) → Nat
  | [] => 0
  | (_, v) :: rest => max v.depth (depthOfEntries rest)

end

section

variable {items : List Value} {entries : List (String × Value)} {bound : Nat}

theorem depthOfItems_le_iff : depthOfItems items ≤ bound ↔ ∀ v ∈ items, v.depth ≤ bound := by
  induction items with
  | nil => simp [depthOfItems]
  | cons v vs ih => rw [depthOfItems, Nat.max_le, ih, List.forall_mem_cons]

theorem depthOfEntries_le_iff :
    depthOfEntries entries ≤ bound ↔ ∀ e ∈ entries, e.2.depth ≤ bound := by
  induction entries with
  | nil => simp [depthOfEntries]
  | cons e rest ih => rw [depthOfEntries, Nat.max_le, ih, List.forall_mem_cons]

theorem below_of_items (deep : depthOfItems items + 1 < bound + 1) :
    ∀ v ∈ items, v.depth < bound := by
  intro v member
  have within := depthOfItems_le_iff.mp (Nat.le_refl _) v member
  exact Nat.lt_of_le_of_lt within (Nat.lt_of_succ_lt_succ deep)

theorem below_of_entries (deep : depthOfEntries entries + 1 < bound + 1) :
    ∀ e ∈ entries, e.2.depth < bound := by
  intro e member
  have within := depthOfEntries_le_iff.mp (Nat.le_refl _) e member
  exact Nat.lt_of_le_of_lt within (Nat.lt_of_succ_lt_succ deep)

end

end ServiceClient

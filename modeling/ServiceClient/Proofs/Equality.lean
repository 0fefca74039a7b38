import Mathlib.Data.List.Perm.Subperm
import ServiceClient.Proofs.Flattening
import ServiceClient.Proofs.RoundTrip

/-!
The laws of equality. Equality goes through two values layer by layer, and only what has nothing
inside is compared by itself (`Value.atom?`); so it is symmetric where mappings have each key once,
transitive, and kept by the plain forms of values.
-/

namespace ServiceClient

theorem forall₂_swap {α β : Type} {R : α → β → Prop} {S : β → α → Prop} {xs : List α}
    {ys : List β} (h : List.Forall₂ R xs ys)
    (imp : ∀ x ∈ xs, ∀ y ∈ ys, R x y → S y x) : List.Forall₂ S ys xs := by
  induction h with
  | nil => exact .nil
  | cons here _ ih =>
    refine .cons (imp _ List.mem_cons_self _ List.mem_cons_self here) (ih fun x hx y hy => ?_)
    exact imp x (List.mem_cons_of_mem _ hx) y (List.mem_cons_of_mem _ hy)

namespace Value

/-- What is compared of a value that has no values inside it. -/
inductive Atom
  | null
  | absent
  | string (s : String)
  | type (name : String)
  | number (amount : Amount)

def atom? : Value → Option Atom
  | null => some .null
  | absent => some .absent
  | string s => some (.string s)
  | typeObject type => some (.type type.name)
  | v => v.amount?.map .number

theorem isLeaf_of_atom? {v : Value} {a : Atom} (atom : v.atom? = some a) : v.isLeaf = true := by
  cases v <;> first | rfl | cases atom

theorem sameAmount_iff {v w : Value} :
    v.sameAmount w = true ↔ ∃ a, v.amount? = some a ∧ w.amount? = some a := by
  cases hv : v.amount? with
  | none => simp [sameAmount, hv]
  | some a => cases hw : w.amount? <;> simp [sameAmount, hv, hw, eq_comm (a := a)]

theorem atom?_eq_number {v : Value} {a : Amount} :
    v.atom? = some (.number a) ↔ v.amount? = some a := by
  cases v <;> simp [atom?, amount?]

/-- A value that has no values inside it equals what is compared by the same. -/
theorem equal_leaf {v : Value} (leaf : v.isLeaf = true) {w : Value} :
    v.equal w = true ↔ ∃ a, v.atom? = some a ∧ w.atom? = some a := by
  have number (same : v.equal w = v.sameAmount w)
      (numeric : v.atom? = v.amount?.map .number) :
      v.equal w = true ↔ ∃ a, v.atom? = some a ∧ w.atom? = some a := by
    simp only [same, numeric, sameAmount_iff, Option.map_eq_some_iff]
    constructor
    · rintro ⟨a, ofV, ofW⟩
      exact ⟨_, ⟨a, ofV, rfl⟩, atom?_eq_number.mpr ofW⟩
    · rintro ⟨_, ⟨a, ofV, rfl⟩, ofW⟩
      exact ⟨a, ofV, atom?_eq_number.mp ofW⟩
  have other (a : Atom) (atom : v.atom? = some a)
      (same : v.equal w = true ↔ w.atom? = some a) :
      v.equal w = true ↔ ∃ a, v.atom? = some a ∧ w.atom? = some a := by
    simp [atom, same]
  cases v with
  | list | tuple | object | record => cases leaf
  | bool | int | float => cases w <;> exact number rfl rfl
  | null | absent =>
    refine other _ rfl ?_
    cases w <;> simp [equal, sameAmount, atom?, amount?]
  | string s =>
    refine other _ rfl ?_
    cases w <;> simp [equal, sameAmount, atom?, amount?, eq_comm (a := s)]
  | typeObject type =>
    refine other _ rfl ?_
    cases w <;> simp [equal, sameAmount, atom?, amount?, eq_comm (a := type.name)]

theorem equalItems_iff {xs ys : List Value} :
    equalItems xs ys = true ↔ List.Forall₂ (fun v w => v.equal w = true) xs ys := by
  induction xs generalizing ys with
  | nil => cases ys <;> simp [equalItems]
  | cons x xs ih => cases ys <;> simp [equalItems, ih]

theorem equalEntries_iff {xs ys : List (String × Value)} :
    equalEntries xs ys = true ↔ ∀ e ∈ xs, ∃ y, ys.lookup e.1 = some y ∧ e.2.equal y = true := by
  induction xs with
  | nil => simp [equalEntries]
  | cons e xs ih =>
    cases found : ys.lookup e.1 <;> simp [equalEntries, found, ih]

theorem equal_list {xs : List Value} {w : Value} :
    (list xs).equal w = true ↔
      ∃ ys, w = list ys ∧ List.Forall₂ (fun v w => v.equal w = true) xs ys := by
  cases w <;> simp [equal, equalItems_iff, sameAmount, amount?]

theorem equal_tuple {xs : List Value} {w : Value} :
    (tuple xs).equal w = true ↔
      ∃ ys, w = tuple ys ∧ List.Forall₂ (fun v w => v.equal w = true) xs ys := by
  cases w <;> simp [equal, equalItems_iff, sameAmount, amount?]

theorem equal_object {xs : List (String × Value)} {w : Value} :
    (object xs).equal w = true ↔
      ∃ ys, w = object ys ∧ xs.length = ys.length ∧
        ∀ e ∈ xs, ∃ y, ys.lookup e.1 = some y ∧ e.2.equal y = true := by
  cases w <;> simp [equal, equalEntries_iff, sameAmount, amount?]

theorem equal_record {s : RecordType} {xs : List Value} {w : Value} :
    (record s xs).equal w = true ↔
      ∃ t ys, w = record t ys ∧ s.name = t.name ∧
        List.Forall₂ (fun v w => v.equal w = true) xs ys := by
  cases w <;> simp [equal, equalItems_iff, sameAmount, amount?]

/-! ## Symmetry and transitivity -/

/-- Of two mappings with as many entries, each key in the second is one of the first if each key of
the first is in the second. -/
theorem keys_subset {xs ys : List (String × Value)} (distinct : (xs.map (·.1)).Nodup)
    (sized : xs.length = ys.length) (found : ∀ e ∈ xs, ∃ y, ys.lookup e.1 = some y) :
    ys.map (·.1) ⊆ xs.map (·.1) := by
  have inside : xs.map (·.1) ⊆ ys.map (·.1) := by
    intro key member
    obtain ⟨e, entry, rfl⟩ := List.mem_map.mp member
    obtain ⟨y, found⟩ := found e entry
    exact List.mem_map.mpr ⟨(e.1, y), mem_of_lookup found, rfl⟩
  have same : (xs.map (·.1)).Perm (ys.map (·.1)) :=
    (List.subperm_of_subset distinct inside).perm_of_length_le (by simp [sized])
  exact same.symm.subset

theorem equal_symm_of (v : Value) : ∀ {w : Value}, v.isRegular = true → w.isRegular = true →
    v.equal w = true → w.equal v = true := by
  induction v using partsInduction with
  | leaf v leaf =>
    intro w _ _ same
    obtain ⟨a, here, there⟩ := (equal_leaf leaf).mp same
    exact (equal_leaf (isLeaf_of_atom? there)).mpr ⟨a, there, here⟩
  | list xs ih =>
    intro w first second same
    obtain ⟨ys, rfl, each⟩ := equal_list.mp same
    obtain ⟨-, first⟩ := everywhere_list.mp first
    obtain ⟨-, second⟩ := everywhere_list.mp second
    refine equal_list.mpr ⟨xs, rfl, forall₂_swap each fun x hx y hy => ?_⟩
    exact ih x hx (first x hx) (second y hy)
  | tuple xs ih =>
    intro w first second same
    obtain ⟨ys, rfl, each⟩ := equal_tuple.mp same
    obtain ⟨-, first⟩ := everywhere_tuple.mp first
    obtain ⟨-, second⟩ := everywhere_tuple.mp second
    refine equal_tuple.mpr ⟨xs, rfl, forall₂_swap each fun x hx y hy => ?_⟩
    exact ih x hx (first x hx) (second y hy)
  | object xs ih =>
    intro w first second same
    obtain ⟨ys, rfl, sized, each⟩ := equal_object.mp same
    obtain ⟨xsKeys, first⟩ := everywhere_object.mp first
    obtain ⟨ysKeys, second⟩ := everywhere_object.mp second
    have xsKeys := isMapping_object.mp xsKeys
    have ysKeys := isMapping_object.mp ysKeys
    refine equal_object.mpr ⟨xs, rfl, sized.symm, fun e there => ?_⟩
    have keys := keys_subset xsKeys sized fun e here => (each e here).imp fun _ => And.left
    obtain ⟨⟨key, x⟩, here, rfl⟩ := List.mem_map.mp (keys (List.mem_map_of_mem there))
    obtain ⟨y, found, same⟩ := each _ here
    obtain rfl : y = e.2 := eq_of_lookup ysKeys found there
    refine ⟨x, (lookup_eq_some_iff_mem xsKeys).mpr here, ?_⟩
    exact ih _ here (first _ here) (second e there) same
  | record s xs ih =>
    intro w first second same
    obtain ⟨t, ys, rfl, named, each⟩ := equal_record.mp same
    obtain ⟨-, first⟩ := everywhere_record.mp first
    obtain ⟨-, second⟩ := everywhere_record.mp second
    refine equal_record.mpr ⟨s, xs, rfl, named.symm, forall₂_swap each fun x hx y hy => ?_⟩
    exact ih x hx (first x hx) (second y hy)

/-- It does not matter which of two values is compared to the other. -/
theorem equal_symm {v w : Value} (first : v.isRegular = true) (second : w.isRegular = true) :
    v.equal w = w.equal v :=
  Bool.eq_iff_iff.mpr ⟨equal_symm_of v first second, equal_symm_of w second first⟩

theorem equal_trans (u : Value) : ∀ {v w : Value}, u.equal v = true → v.equal w = true →
    u.equal w = true := by
  induction u using partsInduction with
  | leaf u leaf =>
    intro v w first second
    obtain ⟨a, ofU, ofV⟩ := (equal_leaf leaf).mp first
    obtain ⟨b, ofV', ofW⟩ := (equal_leaf (isLeaf_of_atom? ofV)).mp second
    obtain rfl : a = b := Option.some.inj (ofV.symm.trans ofV')
    exact (equal_leaf leaf).mpr ⟨a, ofU, ofW⟩
  | list xs ih =>
    intro v w first second
    obtain ⟨ys, rfl, each⟩ := equal_list.mp first
    obtain ⟨zs, rfl, each'⟩ := equal_list.mp second
    refine equal_list.mpr ⟨zs, rfl, forall₂_imp_mem (forall₂_trans each each') ?_⟩
    rintro x member z ⟨y, first, second⟩
    exact ih x member first second
  | tuple xs ih =>
    intro v w first second
    obtain ⟨ys, rfl, each⟩ := equal_tuple.mp first
    obtain ⟨zs, rfl, each'⟩ := equal_tuple.mp second
    refine equal_tuple.mpr ⟨zs, rfl, forall₂_imp_mem (forall₂_trans each each') ?_⟩
    rintro x member z ⟨y, first, second⟩
    exact ih x member first second
  | object xs ih =>
    intro v w first second
    obtain ⟨ys, rfl, sized, each⟩ := equal_object.mp first
    obtain ⟨zs, rfl, sized', each'⟩ := equal_object.mp second
    refine equal_object.mpr ⟨zs, rfl, sized.trans sized', fun e member => ?_⟩
    obtain ⟨y, found, first⟩ := each e member
    obtain ⟨z, found', second⟩ := each' _ (mem_of_lookup found)
    exact ⟨z, found', ih e member first second⟩
  | record s xs ih =>
    intro v w first second
    obtain ⟨t, ys, rfl, named, each⟩ := equal_record.mp first
    obtain ⟨u, zs, rfl, named', each'⟩ := equal_record.mp second
    refine equal_record.mpr
      ⟨u, zs, rfl, named.trans named', forall₂_imp_mem (forall₂_trans each each') ?_⟩
    rintro x member z ⟨y, first, second⟩
    exact ih x member first second

end Value

/-! ## Plain forms -/

/-- Entries with the same keys and related values are related one by one. -/
theorem forall₂_entries {α β : Type} {R : α → β → Prop} {xs : List (String × α)}
    {ys : List (String × β)} (keys : xs.map (·.1) = ys.map (·.1))
    (each : List.Forall₂ R (xs.map (·.2)) (ys.map (·.2))) :
    List.Forall₂ (fun e e' => e.1 = e'.1 ∧ R e.2 e'.2) xs ys := by
  induction xs generalizing ys with
  | nil =>
    obtain rfl : ys = [] := by simpa using keys.symm
    exact .nil
  | cons e xs ih =>
    cases ys with
    | nil => simp at keys
    | cons e' ys =>
      obtain ⟨here, later⟩ := List.forall₂_cons.mp each
      obtain ⟨named, keys⟩ := List.cons.inj keys
      exact .cons ⟨named, here⟩ (ih keys later)

/-- Mappings that have the same distinct keys in the same order are equal if their values are. -/
theorem equal_object_of_forall₂ {xs ys : List (String × Value)}
    (distinct : (ys.map (·.1)).Nodup)
    (each : List.Forall₂ (fun e e' => e.1 = e'.1 ∧ e.2.equal e'.2 = true) xs ys) :
    (Value.object xs).equal (.object ys) = true := by
  refine Value.equal_object.mpr ⟨ys, rfl, each.length_eq, fun e member => ?_⟩
  obtain ⟨e', inside, named, same⟩ := forall₂_mem_left each member
  exact ⟨e'.2, named ▸ (lookup_eq_some_iff_mem distinct).mpr inside, same⟩

namespace IsPlainForm

theorem eq_of_leaf {v w : Value} (form : IsPlainForm v w) (leaf : v.isLeaf = true) : w = v := by
  cases form with
  | leaf => rfl
  | list | tuple | object | record => cases leaf

theorem of_list {items : List Value} {w : Value} (form : IsPlainForm (.list items) w) :
    ∃ ws, w = .list ws ∧ List.Forall₂ IsPlainForm items ws := by
  cases form with
  | leaf leaf => cases leaf
  | list each => exact ⟨_, rfl, each⟩

theorem of_tuple {items : List Value} {w : Value} (form : IsPlainForm (.tuple items) w) :
    ∃ ws, w = .list ws ∧ List.Forall₂ IsPlainForm items ws := by
  cases form with
  | leaf leaf => cases leaf
  | tuple each => exact ⟨_, rfl, each⟩

theorem of_object {entries : List (String × Value)} {w : Value}
    (form : IsPlainForm (.object entries) w) :
    ∃ out, w = .object out ∧
      List.Forall₂ (fun e e' => e.1 = e'.1 ∧ IsPlainForm e.2 e'.2) entries out := by
  cases form with
  | leaf leaf => cases leaf
  | object keys each => exact ⟨_, rfl, forall₂_entries keys.symm each⟩

theorem of_record {type : RecordType} {values : List Value} {w : Value}
    (form : IsPlainForm (.record type values) w) :
    ∃ out, w = .object out ∧ out.map (·.1) = type.fieldNames ∧
      List.Forall₂ IsPlainForm values (out.map (·.2)) := by
  cases form with
  | leaf leaf => cases leaf
  | record keys each => exact ⟨_, rfl, keys, each⟩

end IsPlainForm

/-- What is related item by item to equal values is equal, if that holds of each of these. -/
theorem equal_of_plainForms {xs ys as bs : List Value}
    (same : List.Forall₂ (fun v w => v.equal w = true) xs ys)
    (first : List.Forall₂ IsPlainForm xs as) (second : List.Forall₂ IsPlainForm ys bs)
    (kept : ∀ x ∈ xs, ∀ y ∈ ys, ∀ a b, IsPlainForm x a → IsPlainForm y b →
      x.equal y = true → a.equal b = true) :
    List.Forall₂ (fun a b => a.equal b = true) as bs := by
  induction same generalizing as bs with
  | nil =>
    cases first
    cases second
    exact .nil
  | cons here _ ih =>
    cases first with
    | cons formed first =>
      cases second with
      | cons formed' second =>
        refine .cons (kept _ (by simp) _ (by simp) _ _ formed formed' here) ?_
        exact ih first second fun x hx y hy =>
          kept x (List.mem_cons_of_mem _ hx) y (List.mem_cons_of_mem _ hy)

/-- Equal values have equal plain forms. -/
theorem plainForm_equal {types : List RecordType} (well : WellNamed types) (v : Value) :
    ∀ {w a b : Value}, v.belongsTo types = true → w.belongsTo types = true →
      IsPlainForm v a → IsPlainForm w b → v.equal w = true → a.equal b = true := by
  induction v using Value.partsInduction with
  | leaf v leaf =>
    intro w a b _ _ first second same
    obtain ⟨_, -, atom⟩ := (Value.equal_leaf leaf).mp same
    rw [first.eq_of_leaf leaf, second.eq_of_leaf (Value.isLeaf_of_atom? atom)]
    exact same
  | list xs ih =>
    intro w a b owned owned' first second same
    obtain ⟨ys, rfl, each⟩ := Value.equal_list.mp same
    obtain ⟨as, rfl, forms⟩ := first.of_list
    obtain ⟨bs, rfl, forms'⟩ := second.of_list
    obtain ⟨-, inside⟩ := Value.everywhere_list.mp owned
    obtain ⟨-, inside'⟩ := Value.everywhere_list.mp owned'
    refine Value.equal_list.mpr ⟨bs, rfl, equal_of_plainForms each forms forms' ?_⟩
    intro x hx y hy _ _
    exact ih x hx (inside x hx) (inside' y hy)
  | tuple xs ih =>
    intro w a b owned owned' first second same
    obtain ⟨ys, rfl, each⟩ := Value.equal_tuple.mp same
    obtain ⟨as, rfl, forms⟩ := first.of_tuple
    obtain ⟨bs, rfl, forms'⟩ := second.of_tuple
    obtain ⟨-, inside⟩ := Value.everywhere_tuple.mp owned
    obtain ⟨-, inside'⟩ := Value.everywhere_tuple.mp owned'
    refine Value.equal_list.mpr ⟨bs, rfl, equal_of_plainForms each forms forms' ?_⟩
    intro x hx y hy _ _
    exact ih x hx (inside x hx) (inside' y hy)
  | object xs ih =>
    intro w a b owned owned' first second same
    obtain ⟨ys, rfl, sized, each⟩ := Value.equal_object.mp same
    obtain ⟨as, rfl, forms⟩ := first.of_object
    obtain ⟨bs, rfl, forms'⟩ := second.of_object
    obtain ⟨-, inside⟩ := Value.everywhere_object.mp owned
    obtain ⟨-, inside'⟩ := Value.everywhere_object.mp owned'
    refine Value.equal_object.mpr ⟨bs, rfl, ?_, fun e member => ?_⟩
    · rw [← forms.length_eq, sized, forms'.length_eq]
    · obtain ⟨x, here, named, formed⟩ := forall₂_mem_right forms member
      obtain ⟨y, found, same⟩ := each x here
      rcases forall₂_lookup forms' (fun _ _ here => here.1) x.1 with
        ⟨missing, -⟩ | ⟨y', b, found', out, -, formed'⟩
      · cases found.symm.trans missing
      · obtain rfl : y = y' := Option.some.inj (found.symm.trans found')
        refine ⟨b, named ▸ out, ?_⟩
        exact ih x here (inside x here) (inside' _ (mem_of_lookup found)) formed formed' same
  | record s xs ih =>
    intro w a b owned owned' first second same
    obtain ⟨t, ys, rfl, named, each⟩ := Value.equal_record.mp same
    obtain ⟨as, rfl, keys, forms⟩ := first.of_record
    obtain ⟨bs, rfl, keys', forms'⟩ := second.of_record
    obtain ⟨ofTypes, inside⟩ := Value.everywhere_record.mp owned
    obtain ⟨ofTypes', inside'⟩ := Value.everywhere_record.mp owned'
    obtain ⟨member, -⟩ := Value.isRecordOf_record.mp ofTypes
    obtain ⟨member', -⟩ := Value.isRecordOf_record.mp ofTypes'
    obtain rfl : s = t := List.inj_on_of_nodup_map well.names member member' named
    have distinct : (bs.map (·.1)).Nodup := keys' ▸ well.fields s member
    apply equal_object_of_forall₂ distinct
    refine forall₂_entries (keys.trans keys'.symm) (equal_of_plainForms each forms forms' ?_)
    intro x hx y hy _ _
    exact ih x hx (inside x hx) (inside' y hy)

end ServiceClient

import ServiceClient.Proofs.Wire

/-!
The shape of a value, and where it first differs from that of a type. `HasShape` says what the shape
of each type is, and `Disagrees` that a value differs at the end of a path of indices. The check of
a value accepts exactly those of the right shape, and for every other it names the first such path
in the order of its indices (`check_exact`).
-/

namespace ServiceClient

/-- A value is of a type that is no array. The types that take any mapping are those whose names are
in `takes`. -/
inductive IsOf (takes : String → Prop) : TypeRef → Value → Prop
  | int (n : Int) : IsOf takes (.primitive .number) (.int n)
  | float (x : Binary64) : IsOf takes (.primitive .number) (.float x)
  | string (s : String) : IsOf takes (.primitive .string) (.string s)
  | boolean (b : Bool) : IsOf takes (.primitive .boolean) (.bool b)
  | record (type : RecordType) (values : List Value) :
      IsOf takes (.named type.name) (.record type values)
  | mapping {name : String} (taken : takes name) (entries : List (String × Value)) :
      IsOf takes (.named name) (.object entries)

/-- A value counts as an array of some items. -/
inductive HasItems : Value → List Value → Prop
  | list (items : List Value) : HasItems (.list items) items
  | tuple (items : List Value) : HasItems (.tuple items) items

/-- A value has the shape of a type, and so have all items in it, if it is an array. -/
inductive HasShape (takes : String → Prop) : TypeRef → Value → Prop
  | single {t : TypeRef} {v : Value} (is : IsOf takes t v) : HasShape takes t v
  | array {element : TypeRef} {v : Value} {items : List Value} (counts : HasItems v items)
      (all : ∀ item ∈ items, HasShape takes element item) : HasShape takes (.array element) v

/-- The shape of a value differs from a type at the end of a path, where a value of `expected` is
to stand. -/
inductive Disagrees (takes : String → Prop) : TypeRef → Value → List Nat → TypeRef → Prop
  | here {t : TypeRef} {v : Value} (other : ¬IsOf takes t v)
      (noItems : ∀ element items, t = .array element → ¬HasItems v items) : Disagrees takes t v [] t
  | inside {element expected : TypeRef} {v item : Value} {items : List Value} {i : Nat}
      {path : List Nat} (counts : HasItems v items) (found : items[i]? = some item)
      (deeper : Disagrees takes element item path expected) :
      Disagrees takes (.array element) v (i :: path) expected

/-- The name of the type that takes any mapping, whatever the declared types are. -/
def isUntyped (name : String) : Prop := name = untypedObject

theorem hasItems_iff {v : Value} {items : List Value} :
    HasItems v items ↔ v.elements? = some items := by
  constructor
  · rintro (_ | _) <;> rfl
  · intro found
    cases v <;> cases found
    · exact .list _
    · exact .tuple _

theorem HasItems.unique {v : Value} {items items' : List Value} (counts : HasItems v items)
    (counts' : HasItems v items') : items = items' :=
  Option.some.inj ((hasItems_iff.mp counts).symm.trans (hasItems_iff.mp counts'))

/-- A value counts as an array of its items, or it has none. -/
theorem hasItems_cases (v : Value) :
    (∃ items, HasItems v items) ∨ v.elements? = none ∧ ∀ items, ¬HasItems v items := by
  cases found : v.elements? with
  | some items => exact .inl ⟨items, hasItems_iff.mpr found⟩
  | none =>
    refine .inr ⟨rfl, fun items counts => ?_⟩
    rw [hasItems_iff.mp counts] at found
    cases found

theorem not_isOf_array {takes : String → Prop} {element : TypeRef} {v : Value} :
    ¬IsOf takes (.array element) v := by
  intro is
  cases is

theorem isOf_primitive_iff {takes : String → Prop} {kind : Primitive} {v : Value} :
    IsOf takes (.primitive kind) v ↔ kind.admits v = true := by
  constructor
  · intro is
    cases is <;> rfl
  · intro admitted
    cases kind <;> cases v <;> first | constructor | cases admitted

theorem isOf_named_iff {name : String} {v : Value} :
    IsOf isUntyped (.named name) v ↔ namedAdmits name v = true := by
  constructor
  · intro is
    cases is with
    | record type values => exact beq_self_eq_true _
    | mapping taken entries => exact beq_iff_eq.mpr taken
  · intro admitted
    cases v with
    | record type values =>
      obtain rfl : type.name = name := beq_iff_eq.mp admitted
      exact .record type values
    | object entries =>
      have taken : isUntyped name := beq_iff_eq.mp admitted
      exact .mapping taken entries
    | _ => cases admitted

theorem hasShape_array_iff {takes : String → Prop} {element : TypeRef} {v : Value} :
    HasShape takes (.array element) v ↔
      ∃ items, HasItems v items ∧ ∀ item ∈ items, HasShape takes element item := by
  constructor
  · intro shaped
    cases shaped with
    | single is => exact absurd is not_isOf_array
    | array counts all => exact ⟨_, counts, all⟩
  · rintro ⟨items, counts, all⟩
    exact .array counts all

theorem hasShape_iff_isOf {takes : String → Prop} {t : TypeRef} {v : Value}
    (single : ∀ element, t ≠ .array element) : HasShape takes t v ↔ IsOf takes t v := by
  constructor
  · intro shaped
    cases shaped with
    | single is => exact is
    | array => exact absurd rfl (single _)
  · exact .single

/-- Nothing in a value has the wrong shape if the whole has the right one. -/
theorem HasShape.agrees {takes : String → Prop} {t expected : TypeRef} {v : Value} {path : List Nat}
    (shaped : HasShape takes t v) : ¬Disagrees takes t v path expected := by
  induction shaped generalizing path with
  | single is =>
    intro disagrees
    cases disagrees with
    | here other => exact other is
    | inside => exact not_isOf_array is
  | array counts all ih =>
    intro disagrees
    cases disagrees with
    | here _ noItems => exact noItems _ _ rfl counts
    | inside counts' found deeper =>
      obtain rfl := counts.unique counts'
      exact ih _ (List.mem_of_getElem? found) deeper

/-! ## What the check finds -/

/-- What is found among items is found in the first that has anything wrong. -/
theorem firstMismatch?_eq_some {mismatch? : Value → Option Mismatch} {items : List Value}
    {start : Nat} {m : Mismatch} (found : firstMismatch? mismatch? start items = some m) :
    ∃ i item inner, items[i]? = some item ∧ mismatch? item = some inner ∧
      m = ⟨(start + i) :: inner.path, inner.expected⟩ ∧
      ∀ j before, j < i → items[j]? = some before → mismatch? before = none := by
  induction items generalizing start with
  | nil => cases found
  | cons v items ih =>
    cases here : mismatch? v with
    | some inner =>
      refine ⟨0, v, inner, rfl, here, ?_, ?_⟩
      · simpa [firstMismatch?, here] using found.symm
      · intro j before earlier
        omega
    | none =>
      rw [firstMismatch?, here] at found
      obtain ⟨i, item, inner, place, wrong, rfl, fine⟩ := ih found
      refine ⟨i + 1, item, inner, place, wrong, ?_, ?_⟩
      · rw [Nat.add_assoc, Nat.add_comm 1 i]
      · intro j before earlier place'
        cases j with
        | zero =>
          obtain rfl : v = before := Option.some.inj place'
          exact here
        | succ j => exact fine j before (Nat.lt_of_succ_lt_succ earlier) place'

theorem mismatch?_array {element : TypeRef} {v : Value} {items : List Value}
    (counts : HasItems v items) :
    (TypeRef.array element).mismatch? v = firstMismatch? element.mismatch? 0 items := by
  simp only [TypeRef.mismatch?, hasItems_iff.mp counts]

/-- Nothing is found in exactly the values of the right shape. -/
theorem mismatch?_eq_none_iff {t : TypeRef} {v : Value} :
    t.mismatch? v = none ↔ HasShape isUntyped t v := by
  induction t generalizing v with
  | primitive kind =>
    rw [mismatch?_primitive_eq_none, hasShape_iff_isOf (by simp), isOf_primitive_iff]
  | named name =>
    rw [hasShape_iff_isOf (by simp), isOf_named_iff]
    by_cases admitted : namedAdmits name v = true <;> simp [TypeRef.mismatch?, admitted]
  | array element ih =>
    rw [hasShape_array_iff]
    rcases hasItems_cases v with ⟨items, counts⟩ | ⟨none, noItems⟩
    · rw [mismatch?_array counts, firstMismatch?_eq_none]
      constructor
      · intro all
        exact ⟨items, counts, fun item member => ih.mp (all item member)⟩
      · rintro ⟨items', counts', all⟩ item member
        obtain rfl := counts.unique counts'
        exact ih.mpr (all item member)
    · simp only [TypeRef.mismatch?, none, reduceCtorEq, false_iff]
      rintro ⟨items, counts, -⟩
      exact noItems items counts

/-- A path leads to something wrong, and none that does comes before it. Paths are in the order of
their first indices that differ. -/
def FirstDisagrees (takes : String → Prop) (t : TypeRef) (v : Value) (path : List Nat)
    (expected : TypeRef) : Prop :=
  Disagrees takes t v path expected ∧
    ∀ other expected', Disagrees takes t v other expected' →
      other = path ∨ List.Lex (· < ·) path other

/-- Where a value is wrong as a whole there is no path into it. -/
theorem firstDisagrees_here {takes : String → Prop} {t : TypeRef} {v : Value}
    (other : ¬IsOf takes t v)
    (noItems : ∀ element items, t = .array element → ¬HasItems v items) :
    FirstDisagrees takes t v [] t := by
  refine ⟨.here other noItems, ?_⟩
  intro path _ _
  cases path with
  | nil => exact .inl rfl
  | cons i path => exact .inr .nil

/-- The first path into an array leads to the first item with anything wrong in it, and inside that
it is the first. -/
theorem firstDisagrees_inside {takes : String → Prop} {element expected : TypeRef} {v item : Value}
    {items : List Value} {i : Nat} {path : List Nat} (counts : HasItems v items)
    (found : items[i]? = some item) (first : FirstDisagrees takes element item path expected)
    (fine : ∀ j before, j < i → items[j]? = some before → HasShape takes element before) :
    FirstDisagrees takes (.array element) v (i :: path) expected := by
  refine ⟨.inside counts found first.1, ?_⟩
  intro other expected' disagrees
  cases disagrees with
  | here _ noItems => exact absurd counts (noItems _ _ rfl)
  | @inside _ _ _ item' _ j path' counts' found' deeper =>
    obtain rfl := counts.unique counts'
    rcases Nat.lt_trichotomy j i with earlier | rfl | later
    · exact absurd deeper (fine j item' earlier found').agrees
    · obtain rfl := Option.some.inj (found.symm.trans found')
      rcases first.2 path' expected' deeper with rfl | before
      · exact .inl rfl
      · exact .inr (.cons before)
    · exact .inr (.rel later)

/-- What is found is the first thing that is wrong. -/
theorem mismatch?_first {t : TypeRef} {v : Value} {m : Mismatch} (found : t.mismatch? v = some m) :
    FirstDisagrees isUntyped t v m.path m.expected := by
  induction t generalizing v m with
  | primitive kind =>
    simp only [TypeRef.mismatch?] at found
    split at found
    · cases found
    · rename_i refused
      obtain rfl := Option.some.inj found
      exact firstDisagrees_here (mt isOf_primitive_iff.mp refused) (by simp)
  | named name =>
    simp only [TypeRef.mismatch?] at found
    split at found
    · cases found
    · rename_i refused
      obtain rfl := Option.some.inj found
      exact firstDisagrees_here (mt isOf_named_iff.mp refused) (by simp)
  | array element ih =>
    rcases hasItems_cases v with ⟨items, counts⟩ | ⟨none, noItems⟩
    · rw [mismatch?_array counts] at found
      obtain ⟨i, item, inner, place, wrong, rfl, fine⟩ := firstMismatch?_eq_some found
      rw [Nat.zero_add]
      apply firstDisagrees_inside counts place (ih wrong)
      intro j before earlier place'
      exact mismatch?_eq_none_iff.mp (fine j before earlier place')
    · simp only [TypeRef.mismatch?, none] at found
      obtain rfl := Option.some.inj found
      exact firstDisagrees_here not_isOf_array fun _ items _ => noItems items

/-- A value passes the check of a type if it has its shape. If it has not, the message names the
first place in it where the shape is another, and the kind of value that is to stand there. -/
theorem check_exact (t : TypeRef) (subject : String) (v : Value) :
    (HasShape isUntyped t v ∧ t.check subject v = .ok ()) ∨
    (¬HasShape isUntyped t v ∧ ∃ path expected, FirstDisagrees isUntyped t v path expected ∧
      t.check subject v = .error (.mismatch subject ⟨path, expected⟩) ∧
      (Failure.mismatch subject ⟨path, expected⟩).message? =
        some (subject ++ String.join (path.map fun i => "[" ++ toString i ++ "]") ++
          " must be " ++ expected.kindText)) := by
  cases found : t.mismatch? v with
  | none => exact .inl ⟨mismatch?_eq_none_iff.mp found, check_eq_ok.mpr found⟩
  | some m =>
    have first := mismatch?_first found
    have failed : t.check subject v = .error (.mismatch subject m) := by rw [TypeRef.check, found]
    refine .inr ⟨?_, m.path, m.expected, first, failed, rfl⟩
    intro shaped
    exact shaped.agrees first.1

example : (TypeRef.array (.array (.primitive .boolean))).check "grid"
      (.list [.list [.bool true], .tuple [.bool false, .int 0]]) =
    .error (.mismatch "grid" ⟨[1, 1], .primitive .boolean⟩) := rfl

end ServiceClient

import Mathlib.Data.List.Pairwise
import ServiceClient.Proofs.NameTree

/-!
What stands where in a namespace. `standing?` says what is at the end of a path: an item, or a
namespace. An item can be added if its path is free (`insert_isOk`); this puts it there and
namespaces on the way, and changes nothing else (`insert_adds`). So items with different names make
a namespace if and only if no path leads through another (`ofList_isOk`).
-/

namespace ServiceClient

section

variable {α : Type} {key k : String} {a : α} {entries : List (String × α)}

theorem lookup_cons_eq :
    ((key, a) :: entries).lookup k = if k = key then some a else entries.lookup k := by
  by_cases same : k = key
  · simp [same]
  · simp [List.lookup_cons, beq_eq_false_iff_ne.mpr same, same]

theorem lookup_putEntry :
    (putEntry key a entries).lookup k = if k = key then some a else entries.lookup k := by
  induction entries with
  | nil => exact lookup_cons_eq
  | cons e rest ih =>
    obtain ⟨key', b⟩ := e
    rw [putEntry]
    by_cases here : key' = key
    · subst here
      rw [if_pos rfl, lookup_cons_eq, lookup_cons_eq]
      by_cases same : k = key' <;> simp [same]
    · rw [if_neg here, lookup_cons_eq, lookup_cons_eq, ih]
      by_cases same : k = key'
      · simp [same, here]
      · simp [same]

theorem lookup_append_new (new : entries.lookup key = none) :
    (entries ++ [(key, a)]).lookup k = if k = key then some a else entries.lookup k := by
  have absent : key ∉ entries.map (·.1) := lookup_eq_none_iff_not_mem.mp new
  rw [← putEntry_new absent, lookup_putEntry]

end

/-- What can stand at the end of a path. -/
inductive Standing (α : Type)
  | branch
  | leaf (x : α)

namespace Namespace

variable {α : Type}

/-- What a member is. -/
def standingOf : NameTree α → Standing α
  | .leaf x => .leaf x
  | .branch _ => .branch

/-- What stands at the end of a path. -/
def standing? (path : List String) (members : Namespace α) : Option (Standing α) :=
  (find? path members).map standingOf

@[simp]
theorem standing?_nil (members : Namespace α) : standing? [] members = some .branch := rfl

/-- What stands at the end of a path that starts at a member. -/
def standingBelow? (path : List String) : NameTree α → Option (Standing α)
  | .leaf x => if path = [] then some (.leaf x) else none
  | .branch inner => standing? path inner

theorem standing?_cons (segment : String) (path : List String) (members : Namespace α) :
    standing? (segment :: path) members =
      (members.lookup segment).bind (standingBelow? path) := by
  rw [standing?, find?]
  cases members.lookup segment with
  | none => rfl
  | some t =>
    cases t with
    | leaf x => cases path <;> rfl
    | branch inner => rfl

theorem standing?_empty {path : List String} (more : path ≠ []) :
    standing? path ([] : Namespace α) = none := by
  obtain ⟨segment, path, rfl⟩ := List.exists_cons_of_ne_nil more
  exact standing?_cons segment path []

/-! ## Adding an item -/

/-- Nothing stands at a path, and no item on the way there. -/
structure Free (path : List String) (members : Namespace α) : Prop where
  nothing : standing? path members = none
  noItem : ∀ q, q <+: path → q ≠ path → ∀ x, standing? q members ≠ some (.leaf x)

theorem free_empty {path : List String} (more : path ≠ []) : Free path ([] : Namespace α) := by
  refine ⟨standing?_empty more, fun q _ _ x => ?_⟩
  by_cases start : q = []
  · simp [start]
  · simp [standing?_empty start]

section

variable {segment : String} {path : List String} {members : Namespace α}

theorem free_cons_none (nothing : members.lookup segment = none) :
    Free (segment :: path) members := by
  refine ⟨by simp [standing?_cons, nothing], fun q before _ x => ?_⟩
  rcases List.prefix_cons_iff.mp before with rfl | ⟨q, rfl, -⟩
  · simp
  · simp [standing?_cons, nothing]

theorem free_singleton : Free [segment] members ↔ members.lookup segment = none := by
  refine ⟨fun free => ?_, free_cons_none⟩
  have nothing := free.nothing
  rw [standing?_cons] at nothing
  cases found : members.lookup segment with
  | none => rfl
  | some t => cases t <;> simp [found, standingBelow?] at nothing

theorem free_cons_branch {inner : Namespace α}
    (found : members.lookup segment = some (.branch inner)) :
    Free (segment :: path) members ↔ Free path inner := by
  have below (q : List String) : standing? (segment :: q) members = standing? q inner := by
    rw [standing?_cons, found]
    rfl
  constructor
  · rintro ⟨nothing, noItem⟩
    refine ⟨below path ▸ nothing, fun q before other x => ?_⟩
    rw [← below q]
    exact noItem (segment :: q) ((List.prefix_cons_inj segment).mpr before) (by simpa using other) x
  · rintro ⟨nothing, noItem⟩
    refine ⟨(below path).trans nothing, fun q before other x => ?_⟩
    rcases List.prefix_cons_iff.mp before with rfl | ⟨q, rfl, before'⟩
    · simp
    · rw [below q]
      exact noItem q before' (by simpa using other) x

theorem not_free_cons_leaf (more : path ≠ []) {x : α}
    (found : members.lookup segment = some (.leaf x)) : ¬Free (segment :: path) members := by
  intro free
  refine free.noItem [segment] ?_ ?_ x (by simp [standing?_cons, found, standingBelow?])
  · exact (List.prefix_cons_inj segment).mpr List.nil_prefix
  · simpa using more.symm

end

/-- An item can be added at a path if and only if that is free. -/
theorem insert_isOk {name : String} {item : α} {path : List String} {members : Namespace α}
    (more : path ≠ []) :
    (∃ members', insert name item path members = .ok members') ↔ Free path members := by
  fun_induction insert name item path members with
  | case1 => exact absurd rfl more
  | case2 last members taken =>
    refine iff_of_false (by simp) fun free => ?_
    rw [free_singleton.mp free] at taken
    cases taken
  | case3 last members free =>
    exact iff_of_true ⟨_, rfl⟩ (free_singleton.mpr (Option.not_isSome_iff_eq_none.mp free))
  | case4 segment path members more' nothing ih =>
    obtain ⟨inner, added⟩ := (ih more').mpr (free_empty more')
    exact iff_of_true ⟨_, by rw [added]; rfl⟩ (free_cons_none nothing)
  | case5 segment path members more' inner found ih =>
    rw [free_cons_branch found, ← ih more']
    constructor
    · rintro ⟨members', added⟩
      obtain ⟨inner', innerAdded, -⟩ := bind_eq_ok.mp added
      exact ⟨inner', innerAdded⟩
    · rintro ⟨inner', innerAdded⟩
      exact ⟨_, by rw [innerAdded]; rfl⟩
  | case6 segment path members more' x found =>
    exact iff_of_false (by simp) (not_free_cons_leaf more' found)

/-- A namespace has an item more, at a path, and namespaces on the way there. -/
def Adds (path : List String) (item : α) (members members' : Namespace α) : Prop :=
  ∀ q, standing? q members' =
    if q = path then some (.leaf item)
    else if q <+: path then some .branch
    else standing? q members

/-- An item is added below a member, which may be a new one. -/
theorem adds_cons {segment : String} {path : List String} {item : α} {t : NameTree α}
    {members members' : Namespace α}
    (lookups : ∀ k, members'.lookup k = if k = segment then some t else members.lookup k)
    (below : ∀ q, standingBelow? q t =
      if q = path then some (.leaf item)
      else if q <+: path then some .branch
      else (members.lookup segment).bind (standingBelow? q)) :
    Adds (segment :: path) item members members' := by
  intro q
  cases q with
  | nil => simp
  | cons s q =>
    rw [standing?_cons, standing?_cons, lookups]
    by_cases same : s = segment
    · subst same
      simp [below]
    · simp [same, List.prefix_cons_iff]

theorem insert_adds {name : String} {item : α} {path : List String}
    {members members' : Namespace α} (more : path ≠ [])
    (added : insert name item path members = .ok members') : Adds path item members members' := by
  fun_induction insert name item path members generalizing members' with
  | case1 => exact absurd rfl more
  | case2 => cases added
  | case3 last members free =>
    obtain rfl := Except.ok.inj added
    have nothing := Option.not_isSome_iff_eq_none.mp free
    refine adds_cons (fun k => lookup_append_new nothing) fun q => ?_
    by_cases ends : q = [] <;> simp [standingBelow?, ends, nothing]
  | case4 segment path members more' nothing ih =>
    obtain ⟨inner, innerAdded, same⟩ := bind_eq_ok.mp added
    obtain rfl := pure_eq_ok.mp same
    refine adds_cons (fun k => lookup_append_new nothing) fun q => ?_
    rw [standingBelow?, ih more' innerAdded q, nothing]
    by_cases start : q = []
    · simp [start]
    · simp [standing?_empty start]
  | case5 segment path members more' inner found ih =>
    obtain ⟨inner', innerAdded, same⟩ := bind_eq_ok.mp added
    obtain rfl := pure_eq_ok.mp same
    refine adds_cons (fun k => lookup_putEntry) fun q => ?_
    rw [standingBelow?, ih more' innerAdded q, found]
    rfl
  | case6 => cases added

section

variable {path : List String} {item : α} {members members' : Namespace α}

theorem Adds.leaf_iff (adds : Adds path item members members') (free : Free path members)
    (q : List String) (x : α) :
    standing? q members' = some (.leaf x) ↔
      standing? q members = some (.leaf x) ∨ (item = x ∧ path = q) := by
  rw [adds q]
  by_cases here : q = path
  · simp [here, free.nothing]
  · by_cases before : q <+: path
    · simp [here, before, free.noItem q before here, Ne.symm here]
    · simp [here, before, Ne.symm here]

theorem Adds.branch_iff (adds : Adds path item members members') (free : Free path members)
    (q : List String) :
    standing? q members' = some .branch ↔
      standing? q members = some .branch ∨ (q <+: path ∧ q ≠ path) := by
  rw [adds q]
  by_cases here : q = path
  · simp [here, free.nothing]
  · by_cases before : q <+: path <;> simp [here, before]

end

/-! ## Named items -/

theorem segments_injective {a b : String} (same : segments a = segments b) : a = b := by
  rw [← String.toList_inj, ← dotted_segments, same, dotted_segments]

/-- The paths of two names do not lead through each other. -/
def Apart (a b : String) : Prop := ¬segments a <+: segments b ∧ ¬segments b <+: segments a

instance : Std.Symm Apart := ⟨fun _ _ => And.symm⟩

/-- A namespace has some named items, and namespaces on the ways to these and nowhere else. -/
structure Lists (items : List (String × α)) (members : Namespace α) : Prop where
  leaf : ∀ q x, standing? q members = some (.leaf x) ↔ ∃ name, (name, x) ∈ items ∧ segments name = q
  branch : ∀ q, standing? q members = some .branch ↔
    q = [] ∨ ∃ e ∈ items, q <+: segments e.1 ∧ q ≠ segments e.1

theorem lists_nil : Lists [] ([] : Namespace α) where
  leaf q x := by
    by_cases start : q = []
    · simp [start]
    · simp [standing?_empty start]
  branch q := by
    by_cases start : q = []
    · simp [start]
    · simp [standing?_empty start, start]

section

variable {items : List (String × α)} {members members' : Namespace α} {name : String} {item : α}

theorem Lists.free_iff (lists : Lists items members) :
    Free (segments name) members ↔ ∀ e ∈ items, Apart e.1 name := by
  constructor
  · intro free e inside
    have there : standing? (segments e.1) members = some (.leaf e.2) :=
      (lists.leaf _ _).mpr ⟨e.1, inside, rfl⟩
    have other : segments name ≠ segments e.1 := fun same => by
      rw [← same, free.nothing] at there
      cases there
    refine ⟨fun before => free.noItem _ before other.symm e.2 there, fun before => ?_⟩
    have onTheWay := (lists.branch (segments name)).mpr (.inr ⟨e, inside, before, other⟩)
    rw [free.nothing] at onTheWay
    cases onTheWay
  · intro apart
    constructor
    · cases found : standing? (segments name) members with
      | none => rfl
      | some standing =>
        cases standing with
        | leaf x =>
          obtain ⟨name', inside, same⟩ := (lists.leaf _ _).mp found
          exact absurd (same ▸ List.prefix_rfl) (apart _ inside).1
        | branch =>
          rcases (lists.branch _).mp found with start | ⟨e, inside, before, -⟩
          · exact absurd start (segments_ne_nil name)
          · exact absurd before (apart e inside).2
    · intro q before _ x found
      obtain ⟨name', inside, rfl⟩ := (lists.leaf _ _).mp found
      exact (apart _ inside).1 before

theorem Lists.insert (lists : Lists items members)
    (added : Namespace.insert name item (segments name) members = .ok members') :
    Lists (items ++ [(name, item)]) members' := by
  have adds := insert_adds (segments_ne_nil name) added
  have free := (insert_isOk (segments_ne_nil name)).mp ⟨members', added⟩
  constructor
  · intro q x
    rw [adds.leaf_iff free, lists.leaf]
    constructor
    · rintro (⟨name', inside, same⟩ | ⟨rfl, same⟩)
      · exact ⟨name', List.mem_append_left _ inside, same⟩
      · exact ⟨name, by simp, same⟩
    · rintro ⟨name', inside, same⟩
      rcases List.mem_append.mp inside with old | new
      · exact .inl ⟨name', old, same⟩
      · obtain ⟨rfl, rfl⟩ := Prod.mk.inj (List.mem_singleton.mp new)
        exact .inr ⟨rfl, same⟩
  · intro q
    rw [adds.branch_iff free, lists.branch]
    simp only [List.mem_append, List.mem_singleton, or_and_right, exists_or, exists_eq_left,
      or_assoc]

theorem foldlM_lists {known : List (String × α)} (lists : Lists known members)
    (built : items.foldlM (fun members e => Namespace.insert e.1 e.2 (segments e.1) members)
      members = .ok members') : Lists (known ++ items) members' := by
  induction items generalizing known members with
  | nil =>
    obtain rfl := pure_eq_ok.mp built
    rwa [List.append_nil]
  | cons e items ih =>
    rw [List.foldlM_cons] at built
    obtain ⟨next, added, rest⟩ := bind_eq_ok.mp built
    simpa using ih (lists.insert added) rest

/-- Items can be added to others if and only if no path leads through another. -/
theorem foldlM_isOk {known : List (String × α)} (lists : Lists known members)
    (apart : known.Pairwise fun a b => Apart a.1 b.1) :
    (∃ members', items.foldlM (fun members e => Namespace.insert e.1 e.2 (segments e.1) members)
      members = .ok members') ↔ (known ++ items).Pairwise fun a b => Apart a.1 b.1 := by
  induction items generalizing known members with
  | nil => exact iff_of_true ⟨members, rfl⟩ (by rwa [List.append_nil])
  | cons e items ih =>
    rw [List.foldlM_cons]
    by_cases free : Free (segments e.1) members
    · obtain ⟨next, added⟩ :
          ∃ next, Namespace.insert e.1 e.2 (segments e.1) members = .ok next :=
        (insert_isOk (segments_ne_nil _)).mpr free
      have apart' : (known ++ [e]).Pairwise fun a b => Apart a.1 b.1 := by
        rw [List.pairwise_append]
        refine ⟨apart, List.pairwise_singleton _ _, fun a inside b new => ?_⟩
        obtain rfl := List.mem_singleton.mp new
        exact lists.free_iff.mp free a inside
      rw [added, ok_bind, ih (lists.insert added) apart', List.append_assoc, List.singleton_append]
    · refine iff_of_false ?_ fun all => free (lists.free_iff.mpr fun a inside => ?_)
      · rintro ⟨members', built⟩
        obtain ⟨next, added, -⟩ := bind_eq_ok.mp built
        exact free ((insert_isOk (segments_ne_nil _)).mp ⟨next, added⟩)
      · exact (List.pairwise_append.mp all).2.2 a inside e List.mem_cons_self

/-- What stands in the namespace of some named items. -/
theorem ofList_lists (built : ofList items = .ok members) : Lists items members :=
  foldlM_lists lists_nil built

/-- Items with different names make a namespace if and only if no path leads through another. -/
theorem ofList_isOk (distinct : (items.map (·.1)).Nodup) :
    (∃ members, ofList items = .ok members) ↔
      ∀ a ∈ items.map (·.1), ∀ b ∈ items.map (·.1), segments a <+: segments b →
        segments a = segments b := by
  have built : (∃ members, ofList items = .ok members) ↔ (items.map (·.1)).Pairwise Apart := by
    rw [List.pairwise_map]
    exact foldlM_isOk lists_nil .nil
  rw [built]
  constructor
  · intro apart a ina b inb before
    by_contra other
    exact (apart.forall ina inb fun same => other (same ▸ rfl)).1 before
  · intro free
    refine distinct.pairwise_of_forall_ne fun a ina b inb other =>
      ⟨fun before => ?_, fun before => ?_⟩
    · exact other (segments_injective (free a ina b inb before))
    · exact other (segments_injective (free b inb a ina before)).symm

end

end Namespace
end ServiceClient

import ServiceClient.Proofs.Described
import ServiceClient.Proofs.NamePaths
import ServiceClient.Session.Lookup

/-!
Namespaces and the names they are made of. `ofList_determined` says that names and namespace
determine each other: some named methods make a namespace if and only if no name leads through
another, in whatever order they come; then the namespace lists just these methods, the segments of a
name lead to its method from the root, and any order gives the same nested mappings (`SameTree`).
-/

namespace ServiceClient

variable {α : Type}

/-! ## Nested mappings -/

/-- No namespace in a tree has two members of one name. -/
inductive NameTree.IsMapping : NameTree α → Prop
  | leaf (item : α) : IsMapping (.leaf item)
  | branch {members : Namespace α} (distinct : (members.map (·.1)).Nodup)
      (inside : ∀ e ∈ members, IsMapping e.2) : IsMapping (.branch members)

/-- Two trees are equal as nested mappings: their namespaces have the same names, in any order, and
equal members under each. -/
inductive SameTree : NameTree α → NameTree α → Prop
  | leaf (item : α) : SameTree (.leaf item) (.leaf item)
  | branch {members members' : Namespace α}
      (names : (members.map (·.1)).Perm (members'.map (·.1)))
      (inside : ∀ name member member', members.lookup name = some member →
        members'.lookup name = some member' → SameTree member member') :
      SameTree (.branch members) (.branch members')

/-- A fault that says of a name that it clashes with others. -/
def DescriptionFault.IsClash (name : String) (fault : DescriptionFault) : Prop :=
  fault = .nameClash name ∨ ∃ segment ∈ segments name, fault = .methodAsNamespace name segment

namespace Namespace

theorem isMapping_branch {members : Namespace α} :
    NameTree.IsMapping (.branch members) ↔
      (members.map (·.1)).Nodup ∧ ∀ e ∈ members, NameTree.IsMapping e.2 := by
  constructor
  · intro mapping
    cases mapping with
    | branch distinct inside => exact ⟨distinct, inside⟩
  · rintro ⟨distinct, inside⟩
    exact .branch distinct inside

theorem isMapping_append {segment : String} {member : NameTree α} {members : Namespace α}
    (mapping : NameTree.IsMapping (.branch members)) (new : members.lookup segment = none)
    (below : member.IsMapping) :
    NameTree.IsMapping (.branch (members ++ [(segment, member)])) := by
  obtain ⟨distinct, inside⟩ := isMapping_branch.mp mapping
  have absent : segment ∉ members.map (·.1) := lookup_eq_none_iff_not_mem.mp new
  constructor
  · rw [List.map_append, List.nodup_append]
    refine ⟨distinct, List.nodup_singleton _, fun name there last here => ?_⟩
    obtain rfl : last = segment := by simpa using here
    exact fun same => absent (same ▸ there)
  · intro e member
    rcases List.mem_append.mp member with old | last
    · exact inside e old
    · obtain rfl := List.mem_singleton.mp last
      exact below

theorem isMapping_putEntry {segment : String} {member member' : NameTree α}
    {members : Namespace α} (mapping : NameTree.IsMapping (.branch members))
    (found : members.lookup segment = some member) (below : member'.IsMapping) :
    NameTree.IsMapping (.branch (putEntry segment member' members)) := by
  obtain ⟨distinct, inside⟩ := isMapping_branch.mp mapping
  obtain ⟨before, after, rfl, put⟩ := putEntry_found (a := member') found
  rw [put]
  constructor
  · simpa using distinct
  · intro e there
    rcases List.mem_append.mp there with early | late
    · exact inside e (List.mem_append_left _ early)
    · rcases List.mem_cons.mp late with rfl | later
      · exact below
      · exact inside e (List.mem_append_right _ (List.mem_cons_of_mem _ later))

theorem insert_isMapping {name : String} {item : α} {path : List String}
    {members members' : Namespace α} (mapping : NameTree.IsMapping (.branch members))
    (added : insert name item path members = .ok members') :
    NameTree.IsMapping (.branch members') := by
  fun_induction insert name item path members generalizing members' with
  | case1 members =>
    obtain rfl := Except.ok.inj added
    exact mapping
  | case2 => cases added
  | case3 last members free =>
    obtain rfl := Except.ok.inj added
    exact isMapping_append mapping (Option.not_isSome_iff_eq_none.mp free) (.leaf item)
  | case4 segment path members more nothing ih =>
    obtain ⟨inner, innerAdded, same⟩ := bind_eq_ok.mp added
    obtain rfl := pure_eq_ok.mp same
    have empty : NameTree.IsMapping (.branch ([] : Namespace α)) := .branch .nil (by simp)
    exact isMapping_append mapping nothing (ih empty innerAdded)
  | case5 segment path members more inner found ih =>
    obtain ⟨inner', innerAdded, same⟩ := bind_eq_ok.mp added
    obtain rfl := pure_eq_ok.mp same
    have below : NameTree.IsMapping (.branch inner) :=
      (isMapping_branch.mp mapping).2 _ (mem_of_lookup found)
    exact isMapping_putEntry mapping found (ih below innerAdded)
  | case6 => cases added

/-- A namespace of named items is a nested mapping. -/
theorem ofList_isMapping {items : List (String × α)} {members : Namespace α}
    (built : ofList items = .ok members) : NameTree.IsMapping (.branch members) := by
  have run (known : Namespace α) (mapping : NameTree.IsMapping (.branch known))
      (done : items.foldlM (fun members e => insert e.1 e.2 (segments e.1) members) known =
        .ok members) : NameTree.IsMapping (.branch members) := by
    clear built
    induction items generalizing known with
    | nil =>
      obtain rfl := pure_eq_ok.mp done
      exact mapping
    | cons e items ih =>
      rw [List.foldlM_cons] at done
      obtain ⟨next, added, rest⟩ := bind_eq_ok.mp done
      exact ih next (insert_isMapping mapping added) rest
  exact run [] (.branch .nil (by simp)) built

theorem lookup_isSome_iff {members : Namespace α} {name : String} :
    (members.lookup name).isSome = true ↔ (standing? [name] members).isSome = true := by
  rw [standing?_cons]
  cases members.lookup name with
  | none => rfl
  | some member => cases member <;> simp [standingBelow?]

/-- Trees in which the same stands at every path are equal as nested mappings. -/
theorem sameTree_of_standing {tree tree' : NameTree α} (mapping : tree.IsMapping)
    (mapping' : tree'.IsMapping)
    (same : ∀ path, standingBelow? path tree = standingBelow? path tree') :
    SameTree tree tree' := by
  induction mapping generalizing tree' with
  | leaf item =>
    have root := same []
    cases tree' with
    | leaf item' =>
      obtain rfl : item = item' := by simpa [standingBelow?] using root
      exact .leaf item
    | branch members' => simp [standingBelow?] at root
  | @branch members distinct inside ih =>
    cases mapping' with
    | leaf item' =>
      have root := same []
      simp [standingBelow?] at root
    | @branch members' distinct' inside' =>
      have known (name : String) :
          (members.lookup name).isSome = (members'.lookup name).isSome := by
        have there : standing? [name] members = standing? [name] members' := same [name]
        rw [Bool.eq_iff_iff, lookup_isSome_iff, lookup_isSome_iff, there]
      refine .branch ((List.perm_ext_iff_of_nodup distinct distinct').mpr fun name => ?_) ?_
      · have absent (members : Namespace α) :
            members.lookup name = none ↔ name ∉ members.map (·.1) := lookup_eq_none_iff_not_mem
        rw [← not_iff_not, ← absent, ← absent, ← Option.not_isSome_iff_eq_none,
          ← Option.not_isSome_iff_eq_none, known name]
      · intro name member member' found found'
        have mapping' := inside' _ (mem_of_lookup found')
        refine ih _ (mem_of_lookup found) mapping' fun path => ?_
        have there : standing? (name :: path) members = standing? (name :: path) members' :=
          same (name :: path)
        simpa [standing?_cons, found, found'] using there

/-! ## Orders and clashes -/

/-- What stands where does not depend on the order in which the items came. -/
theorem Lists.standing_eq {items items' : List (String × α)} {members members' : Namespace α}
    (lists : Lists items members) (lists' : Lists items' members') (order : items.Perm items')
    (path : List String) : standing? path members = standing? path members' := by
  apply Option.ext
  intro standing
  cases standing with
  | leaf item => rw [lists.leaf, lists'.leaf]; simp only [order.mem_iff]
  | branch => rw [lists.branch, lists'.branch]; simp only [order.mem_iff]

/-- Any order of some named items gives the same nested mappings. -/
theorem ofList_sameTree {items items' : List (String × α)} {members members' : Namespace α}
    (order : items.Perm items') (built : ofList items = .ok members)
    (built' : ofList items' = .ok members') : SameTree (.branch members) (.branch members') :=
  sameTree_of_standing (ofList_isMapping built) (ofList_isMapping built')
    ((ofList_lists built).standing_eq (ofList_lists built') order)

/-- Whether items make a namespace does not depend on their order. -/
theorem ofList_isOk_perm {items items' : List (String × α)} (distinct : (items.map (·.1)).Nodup)
    (order : items.Perm items') :
    (∃ members, ofList items = .ok members) ↔ ∃ members, ofList items' = .ok members := by
  have names : (items.map (·.1)).Perm (items'.map (·.1)) := order.map (·.1)
  rw [ofList_isOk distinct, ofList_isOk (names.nodup_iff.mp distinct)]
  simp only [names.mem_iff]

theorem insert_error {name : String} {item : α} {path : List String} {members : Namespace α}
    {fault : DescriptionFault} (failed : insert name item path members = .error fault) :
    fault = .nameClash name ∨ ∃ segment ∈ path, fault = .methodAsNamespace name segment := by
  fun_induction insert name item path members with
  | case1 => cases failed
  | case2 => exact .inl (Except.error.inj failed).symm
  | case3 => cases failed
  | case4 segment path members more nothing ih =>
    rcases bind_eq_error.mp failed with inside | ⟨_, -, done⟩
    · rcases ih inside with clash | ⟨segment', there, clash⟩
      · exact .inl clash
      · exact .inr ⟨segment', List.mem_cons_of_mem segment there, clash⟩
    · cases done
  | case5 segment path members more inner found ih =>
    rcases bind_eq_error.mp failed with inside | ⟨_, -, done⟩
    · rcases ih inside with clash | ⟨segment', there, clash⟩
      · exact .inl clash
      · exact .inr ⟨segment', List.mem_cons_of_mem segment there, clash⟩
    · cases done
  | case6 segment path members more item' found =>
    exact .inr ⟨segment, List.mem_cons_self, (Except.error.inj failed).symm⟩

/-- What is wrong with items that make no namespace is that the name of one clashes. -/
theorem ofList_error {items : List (String × α)} {fault : DescriptionFault}
    (failed : ofList items = .error fault) : ∃ name ∈ items.map (·.1), fault.IsClash name := by
  have run (known : Namespace α)
      (failed : items.foldlM (fun members e => insert e.1 e.2 (segments e.1) members) known =
        .error fault) : ∃ name ∈ items.map (·.1), fault.IsClash name := by
    clear * - failed
    induction items generalizing known with
    | nil => cases failed
    | cons e items ih =>
      rw [List.foldlM_cons] at failed
      rcases bind_eq_error.mp failed with here | ⟨next, -, later⟩
      · exact ⟨e.1, List.mem_cons_self, insert_error here⟩
      · obtain ⟨name, there, clash⟩ := ih next later
        exact ⟨name, List.mem_cons_of_mem e.1 there, clash⟩
  exact run [] failed

end Namespace

/-! ## Walking from the root -/

section

variable {members : Namespace Method} {m : Method}

/-- Going down by items leads to the methods that stand at the ends of paths, and to no others. -/
theorem walk_byItem {path : List String} (name : Option String) :
    path.foldlM (fun found segment => Found.item segment found) (.namespaceOf name members) =
        .ok (.method m) ↔
      Namespace.standing? path members = some (.leaf m) := by
  induction path generalizing name members with
  | nil => simp
  | cons segment path ih =>
    rw [List.foldlM_cons, Namespace.standing?_cons, Found.item]
    cases found : members.lookup segment with
    | none => simp
    | some member =>
      cases member with
      | branch inner => exact ih (some segment)
      | leaf m' =>
        cases path with
        | nil => simp [Found.ofMember, Namespace.standingBelow?]
        | cons next path => simp [Found.ofMember, Found.item, Namespace.standingBelow?]

/-- A member of a namespace goes before whatever else a namespace has under its name. -/
theorem ownMember_namespaceOf {endpoint segment : String} {name : Option String}
    {member : NameTree Method} (found : members.lookup segment = some member)
    (visible : segment.toList.head? ≠ some '_') :
    Found.ownMember endpoint segment (.namespaceOf name members) =
      .ok (Found.ofMember segment member) := by
  simp [Found.ownMember, found, visible]

theorem walk_byAttribute {path : List String} (endpoint : String) (name : Option String)
    (visible : ∀ segment ∈ path, segment.toList.head? ≠ some '_')
    (stands : Namespace.standing? path members = some (.leaf m)) :
    path.foldlM (fun found segment => Found.ownMember endpoint segment found)
      (.namespaceOf name members) = .ok (.method m) := by
  induction path generalizing name members with
  | nil => simp at stands
  | cons segment path ih =>
    obtain ⟨here, later⟩ := List.forall_mem_cons.mp visible
    rw [Namespace.standing?_cons] at stands
    obtain ⟨member, found, below⟩ := Option.bind_eq_some_iff.mp stands
    rw [List.foldlM_cons, ownMember_namespaceOf found here, ok_bind]
    cases member with
    | branch inner => exact ih (some segment) later below
    | leaf m' =>
      obtain ⟨rfl, rfl⟩ : path = [] ∧ m' = m := by simpa [Namespace.standingBelow?] using below
      rfl

end

/-- Named methods make a namespace if and only if no name leads through another, in any order; if
they make none, the fault is that a name clashes. A namespace lists its methods, each once and under
its own name. The segments of a name, and no other path, lead to its method from the root; and they
do so as attributes too if none of them starts with an underscore. Every order of the methods gives
the same nested mappings. -/
theorem ofList_determined {items : List (String × Method)}
    (distinct : (items.map (·.1)).Nodup) :
    ((∃ members, Namespace.ofList items = .ok members) ↔
        ∀ a ∈ items.map (·.1), ∀ b ∈ items.map (·.1), segments a <+: segments b →
          segments a = segments b) ∧
      (∀ fault, Namespace.ofList items = .error fault →
        ∃ name ∈ items.map (·.1), fault.IsClash name) ∧
      (∀ items', items.Perm items' → ((∃ members, Namespace.ofList items = .ok members) ↔
        ∃ members', Namespace.ofList items' = .ok members')) ∧
      ∀ members, Namespace.ofList items = .ok members →
        (Namespace.toList "" members).Perm items ∧
        (∀ client : Client, client.methods = members →
          (∀ path m, client.find .byItem path = .ok (.method m) ↔
            ∃ name, (name, m) ∈ items ∧ segments name = path) ∧
          ∀ e ∈ items, (∀ segment ∈ segments e.1, segment.toList.head? ≠ some '_') →
            client.find .byAttribute (segments e.1) = .ok (.method e.2)) ∧
        NameTree.IsMapping (.branch members) ∧
        ∀ items' members', items.Perm items' → Namespace.ofList items' = .ok members' →
          SameTree (.branch members) (.branch members') := by
  refine ⟨Namespace.ofList_isOk distinct, fun fault failed => Namespace.ofList_error failed,
    fun items' order => Namespace.ofList_isOk_perm distinct order, fun members built => ?_⟩
  have lists := Namespace.ofList_lists built
  refine ⟨Namespace.toList_ofList_perm built, ?_, Namespace.ofList_isMapping built,
    fun items' members' order built' => Namespace.ofList_sameTree order built built'⟩
  rintro client rfl
  constructor
  · intro path m
    exact (walk_byItem none).trans (lists.leaf path m)
  · intro e inside visible
    apply walk_byAttribute client.endpoint none visible
    exact (lists.leaf _ _).mpr ⟨e.1, inside, rfl⟩

/-- Methods with parts of their names empty, or called like what a namespace has of its own, are
where their names say. -/
theorem ofList_determined_sample :
    let items := [("users.items", sampleMethod), ("users..get", sampleMethod),
      ("keys", sampleMethod), ("", sampleMethod)]
    (items.map (·.1)).Nodup ∧
      (∃ members, Namespace.ofList items = .ok members ∧
        { sampleClient with methods := members }.find .byAttribute ["users", "items"] =
          .ok (.method sampleMethod) ∧
        { sampleClient with methods := members }.find .byItem ["users", "", "get"] =
          .ok (.method sampleMethod)) ∧
      ¬∃ members, Namespace.ofList (("users", sampleMethod) :: items) = .ok members := by
  intro items
  have distinct : (items.map (·.1)).Nodup := by decide
  obtain ⟨made, -, -, determined⟩ := ofList_determined distinct
  obtain ⟨members, built⟩ := made.mpr (by decide)
  obtain ⟨-, walks, -⟩ := determined members built
  obtain ⟨byItem, byAttribute⟩ := walks { sampleClient with methods := members } rfl
  refine ⟨distinct, ⟨members, built, ?_, ?_⟩, fun clash => ?_⟩
  · exact byAttribute ("users.items", sampleMethod) (by simp [items]) (by decide)
  · exact (byItem _ _).mpr ⟨"users..get", by simp [items], by decide⟩
  · have distinct' : ((("users", sampleMethod) :: items).map (·.1)).Nodup := by decide
    have apart := (ofList_determined distinct').1.mp clash
    exact absurd (apart "users" (by simp) "users.items" (by simp [items]) (by decide)) (by decide)

end ServiceClient

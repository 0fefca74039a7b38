import ServiceClient.Namespace
import ServiceClient.Proofs.Outcome
import ServiceClient.Proofs.Parts

/-!
Dotted names and the tree they make: a tree built of named items lists these and no others.
-/

namespace ServiceClient.Namespace

variable {α : Type}

/-- The characters of a path as a dotted name. -/
def dotted (path : List String) : List Char := ['.'].intercalate (path.map String.toList)

theorem dotted_segments (name : String) : dotted (segments name) = name.toList := by
  have same : (String.toList ∘ String.ofList) = id := funext fun cs => String.toList_ofList
  rw [dotted, segments, List.map_map, same, List.map_id, List.intercalate_splitOn]

theorem segments_ne_nil (name : String) : segments name ≠ [] := by
  simp [segments, List.splitOn_ne_nil]

theorem dotted_cons {segment : String} {path : List String} (more : path ≠ []) :
    dotted (segment :: path) = segment.toList ++ '.' :: dotted path := by
  rw [dotted, List.map_cons, List.intercalate_cons_of_ne_nil (by simpa using more)]
  simp [dotted]

theorem lead_dotted_cons (lead segment : String) {path : List String} (more : path ≠ []) :
    lead ++ segment ++ "." ++ String.ofList (dotted path) =
      lead ++ String.ofList (dotted (segment :: path)) := by
  rw [← String.toList_inj]
  simp [dotted_cons more]

theorem toList_append (lead : String) (members members' : Namespace α) :
    toList lead (members ++ members') = toList lead members ++ toList lead members' := by
  induction members with
  | nil => rfl
  | cons e members ih => simp [toList, ih]

/-- Putting an entry in the place of another leaves those around it. -/
theorem putEntry_found {key : String} {a b : α} {entries : List (String × α)}
    (found : entries.lookup key = some b) :
    ∃ before after, entries = before ++ (key, b) :: after ∧
      putEntry key a entries = before ++ (key, a) :: after := by
  induction entries with
  | nil => cases found
  | cons e rest ih =>
    obtain ⟨k, c⟩ := e
    by_cases here : key = k
    · subst here
      obtain rfl : c = b := by simpa using found
      exact ⟨[], rest, rfl, by simp [putEntry]⟩
    · rw [List.lookup_cons, beq_eq_false_iff_ne.mpr here] at found
      obtain ⟨before, after, rfl, put⟩ := ih found
      exact ⟨(k, c) :: before, after, rfl, by simp [putEntry, Ne.symm here, put]⟩

/-- An item that is added is listed at one place, under the name of its path; what was listed before
stays around it in its order. -/
theorem toList_insert {name : String} {item : α} {path : List String} (more : path ≠ [])
    {members members' : Namespace α} (added : insert name item path members = .ok members')
    (lead : String) :
    ∃ before after, toList lead members = before ++ after ∧
      toList lead members' = before ++ (lead ++ String.ofList (dotted path), item) :: after := by
  fun_induction insert name item path members generalizing members' lead with
  | case1 => exact absurd rfl more
  | case2 => cases added
  | case3 last members free =>
    obtain rfl := Except.ok.inj added
    refine ⟨toList lead members, [], by simp, ?_⟩
    simp [toList_append, toList, memberList, dotted]
  | case4 segment path members more' free ih =>
    obtain ⟨inner, innerAdded, same⟩ := bind_eq_ok.mp added
    obtain rfl := pure_eq_ok.mp same
    obtain ⟨before, after, empty, listed⟩ := ih more' innerAdded (lead ++ segment ++ ".")
    obtain ⟨rfl, rfl⟩ := List.append_eq_nil_iff.mp empty.symm
    refine ⟨toList lead members, [], by simp, ?_⟩
    simp [toList_append, toList, memberList, listed, lead_dotted_cons lead segment more']
  | case5 segment path members more' inner found ih =>
    obtain ⟨inner', innerAdded, same⟩ := bind_eq_ok.mp added
    obtain rfl := pure_eq_ok.mp same
    obtain ⟨before, after, innerListed, listed⟩ := ih more' innerAdded (lead ++ segment ++ ".")
    obtain ⟨left, right, rfl, put⟩ := putEntry_found (a := .branch inner') found
    refine ⟨toList lead left ++ before, after ++ toList lead right, ?_, ?_⟩
    · simp [toList_append, toList, memberList, innerListed]
    · simp [put, toList_append, toList, memberList, listed, lead_dotted_cons lead segment more']
  | case6 => cases added

theorem toList_foldlM_perm {items : List (String × α)} {known members : Namespace α}
    (built : items.foldlM (fun members e => insert e.1 e.2 (segments e.1) members) known =
      .ok members) : (toList "" members).Perm (toList "" known ++ items) := by
  induction items generalizing known with
  | nil =>
    obtain rfl := pure_eq_ok.mp built
    simp
  | cons e items ih =>
    rw [List.foldlM_cons] at built
    obtain ⟨next, added, rest⟩ := bind_eq_ok.mp built
    obtain ⟨before, after, listed, listed'⟩ := toList_insert (segments_ne_nil e.1) added ""
    rw [dotted_segments, String.ofList_toList, String.empty_append] at listed'
    have here : (toList "" next).Perm (e :: toList "" known) := by
      rw [listed, listed']
      exact List.perm_middle
    exact (ih rest).trans ((here.append_right items).trans List.perm_middle.symm)

/-- The namespace of some named items lists these, each under its own name. -/
theorem toList_ofList_perm {items : List (String × α)} {members : Namespace α}
    (built : ofList items = .ok members) : (toList "" members).Perm items := by
  simpa [toList] using toList_foldlM_perm built

end ServiceClient.Namespace

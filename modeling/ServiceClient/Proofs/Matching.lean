import ServiceClient.Proofs.NamedValues
import ServiceClient.Proofs.Reordering

/-!
Values by position and by name. Calls and records match them to names by one law, `MatchesByName`:
they are refused if one of them has no place or a place would have two, and otherwise each place has
the value by position, else the one under its name, else what stands for none. So the last values by
position may as well be given by name, in any order (`Moved`): the same comes out, or values are
refused both times (`matched_alike`). What a refusal reports is the first value by name that has no
place, so it is the same if those given by name before keep their order.
-/

namespace ServiceClient

section

variable {α : Type} {names : List String} {values : List α} {named : List (String × α)}

/-- Values cannot be matched to names: there are more by position than names, or one is given under
a name that is none of them, or under one that has a value by position. -/
def Unmatched (names : List String) (values : List α) (named : List (String × α)) : Prop :=
  names.length < values.length ∨ (∃ key ∈ givenNames named, key ∉ names) ∨
    ∃ key ∈ givenNames named, key ∈ names.take values.length

theorem bindingFault?_eq_none_iff {taken : Nat} :
    bindingFault? names taken named = none ↔
      ∀ key ∈ givenNames named, key ∈ names ∧ key ∉ names.take taken := by
  rw [bindingFault?_eq_none, givenNames, List.forall_mem_map]

/-- Values are matched, each to its place, or they cannot be. -/
theorem bindArguments_cases (names : List String) (values : List α) (named : List (String × α)) :
    (Unmatched names values named ∧ ∃ cause, bindArguments names values named = .error cause) ∨
      (¬Unmatched names values named ∧
        bindArguments names values named = .ok (placeArguments names values named)) := by
  rw [bindArguments]
  by_cases tooMany : names.length < values.length
  · exact .inl ⟨.inl tooMany, _, if_pos tooMany⟩
  rw [if_neg tooMany]
  cases fault : bindingFault? names values.length named with
  | none =>
    have fine := bindingFault?_eq_none_iff.mp fault
    refine .inr ⟨?_, rfl⟩
    rintro (tooMany' | ⟨key, given, unknown⟩ | ⟨key, given, twice⟩)
    · exact tooMany tooMany'
    · exact unknown (fine key given).1
    · exact (fine key given).2 twice
  | some cause =>
    refine .inl ⟨.inr ?_, cause, rfl⟩
    by_contra fine
    obtain ⟨known, once⟩ := not_or.mp fine
    have none : bindingFault? names values.length named = none := by
      apply bindingFault?_eq_none_iff.mpr
      intro key given
      constructor
      · by_contra unknown
        exact known ⟨key, given, unknown⟩
      · intro twice
        exact once ⟨key, given, twice⟩
    rw [fault] at none
    cases none

theorem bindArguments_refuses (unmatched : Unmatched names values named) :
    ∃ cause, bindArguments names values named = .error cause := by
  rcases bindArguments_cases names values named with ⟨-, refused⟩ | ⟨matched, -⟩
  · exact refused
  · exact absurd unmatched matched

theorem placeArguments_getElem? (i : Nat) :
    (placeArguments names values named)[i]? =
      names[i]?.map fun name => values[i]?.or (named.lookup name) := by
  induction names generalizing values i with
  | nil => simp [placeArguments]
  | cons name names ih =>
    cases values with
    | nil => cases i <;> simp [placeArguments, ih]
    | cons v values => cases i <;> simp [placeArguments, ih]

/-! ## Values that are given by name instead -/

/-- The values of `back`, which stood behind those of `front`, are given by name, each under the
name of its place, somewhere among the values that were given so before. -/
structure Moved (names : List String) (front back : List α) (named named' : List (String × α)) :
    Prop where
  fits : front.length + back.length ≤ names.length
  order : named'.Perm (named ++ (names.drop front.length).zip back)
  distinct : (givenNames named').Nodup

variable {front back : List α} {named' : List (String × α)}

/-- The names of values that are given by name instead are those of their places. -/
theorem givenNames_zip (places : List String) (values : List α) :
    givenNames (places.zip values) = places.take values.length := by
  induction places generalizing values with
  | nil => simp [givenNames]
  | cons name places ih =>
    cases values with
    | nil => simp [givenNames]
    | cons v values => simpa [givenNames] using ih values

theorem take_moved (names : List String) (front back : List α) :
    names.take (front ++ back).length =
      names.take front.length ++ (names.drop front.length).take back.length := by
  rw [List.length_append, List.take_add]

namespace Moved

/-- There are no more values by position than names, before and after. -/
theorem notTooMany (moved : Moved names front back named named') :
    ¬names.length < front.length ∧ ¬names.length < (front ++ back).length := by
  have fits := moved.fits
  rw [List.length_append]
  omega

theorem mem_iff (moved : Moved names front back named named') {key : String} :
    key ∈ givenNames named' ↔
      key ∈ givenNames named ∨ key ∈ (names.drop front.length).take back.length := by
  have order := moved.order.map (·.1)
  rw [List.map_append] at order
  rw [← givenNames_zip]
  exact order.mem_iff.trans List.mem_append

/-- What was given by name before was not for one of the places that are now named. -/
theorem other (moved : Moved names front back named named') {key : String}
    (given : key ∈ givenNames named) : key ∉ (names.drop front.length).take back.length := by
  have order := moved.order.map (·.1)
  rw [List.map_append] at order
  have distinct := order.nodup_iff.mp moved.distinct
  rw [← givenNames_zip]
  intro place
  exact (List.nodup_append.mp distinct).2.2 key given key place rfl

/-- The names of the places behind those of the front are not among the first. -/
theorem fresh (unlike : names.Nodup) {key : String}
    (place : key ∈ (names.drop front.length).take back.length) :
    key ∈ names ∧ key ∉ names.take front.length := by
  have behind : key ∈ names.drop front.length := List.mem_of_mem_take place
  refine ⟨List.mem_of_mem_drop behind, fun before => ?_⟩
  rw [← List.take_append_drop front.length names] at unlike
  exact (List.nodup_append.mp unlike).2.2 key before key behind rfl

theorem unmatched_iff (moved : Moved names front back named named') (unlike : names.Nodup) :
    Unmatched names front named' ↔ Unmatched names (front ++ back) named := by
  obtain ⟨fewer, fewer'⟩ := moved.notTooMany
  simp only [Unmatched, fewer, fewer', false_or, take_moved, List.mem_append]
  constructor
  · rintro (⟨key, given, unknown⟩ | ⟨key, given, twice⟩)
    · rcases moved.mem_iff.mp given with given | place
      · exact .inl ⟨key, given, unknown⟩
      · exact absurd (fresh unlike place).1 unknown
    · rcases moved.mem_iff.mp given with given | place
      · exact .inr ⟨key, given, .inl twice⟩
      · exact absurd twice (fresh unlike place).2
  · rintro (⟨key, given, unknown⟩ | ⟨key, given, twice | place⟩)
    · exact .inl ⟨key, moved.mem_iff.mpr (.inl given), unknown⟩
    · exact .inr ⟨key, moved.mem_iff.mpr (.inl given), twice⟩
    · exact absurd place (moved.other given)

/-- Under the name of a place behind the front is the value that stood there, if one did. -/
theorem lookup_place (moved : Moved names front back named named') (unlike : names.Nodup)
    {name : String} {j : Nat} (place : (names.drop front.length)[j]? = some name) :
    named'.lookup name = back[j]?.or (named.lookup name) := by
  have unlike := unlike.sublist (List.drop_sublist front.length names)
  rw [lookup_perm moved.distinct moved.order, List.lookup_append]
  cases value? : back[j]? with
  | some v =>
    have paired : (name, v) ∈ (names.drop front.length).zip back :=
      List.mem_of_getElem? (List.getElem?_zip_eq_some.mpr ⟨place, value?⟩)
    have distinct : (givenNames ((names.drop front.length).zip back)).Nodup := by
      rw [givenNames_zip]
      exact unlike.sublist (List.take_sublist _ _)
    have absent : named.lookup name = none := by
      apply lookup_eq_none_iff_not_mem.mpr
      intro given
      apply moved.other given
      rw [← givenNames_zip]
      exact List.mem_map_of_mem paired
    rw [absent, (lookup_eq_some_iff_mem distinct).mpr paired]
    rfl
  | none =>
    have absent : ((names.drop front.length).zip back).lookup name = none := by
      apply lookup_eq_none_iff_not_mem.mpr
      change name ∉ givenNames _
      rw [givenNames_zip]
      intro before
      obtain ⟨i, inBounds, same⟩ := List.mem_take_iff_getElem.mp before
      obtain ⟨inBounds', same'⟩ := List.getElem?_eq_some_iff.mp place
      have sameIndex := (unlike.getElem_inj_iff).mp (same.trans same'.symm)
      have beyond : back.length ≤ j := List.getElem?_eq_none_iff.mp value?
      omega
    rw [absent, Option.or_none, Option.none_or]

/-- Every place has the value it had. -/
theorem placed_eq (moved : Moved names front back named named') (unlike : names.Nodup) :
    placeArguments names front named' = placeArguments names (front ++ back) named := by
  apply List.ext_getElem?
  intro i
  rw [placeArguments_getElem?, placeArguments_getElem?]
  cases named? : names[i]? with
  | none => rfl
  | some name =>
    apply congrArg some
    change front[i]?.or (named'.lookup name) = (front ++ back)[i]?.or (named.lookup name)
    by_cases inFront : i < front.length
    · rw [List.getElem?_append_left inFront, List.getElem?_eq_getElem inFront]
      rfl
    · have behind : front.length ≤ i := Nat.not_lt.mp inFront
      have place : (names.drop front.length)[i - front.length]? = some name := by
        rw [List.getElem?_drop, Nat.add_sub_cancel' behind, named?]
      rw [List.getElem?_append_right behind, List.getElem?_eq_none behind, Option.none_or,
        moved.lookup_place unlike place]

/-- A value for the receiver is given by name now if one was before, unless a place has its name. -/
theorem receiver_iff (moved : Moved names front back named named')
    (may : receiverName ∈ givenNames named' → receiverName ∉ names) :
    receiverName ∈ givenNames named' ↔ receiverName ∈ givenNames named := by
  refine ⟨fun given => ?_, fun given => moved.mem_iff.mpr (.inl given)⟩
  refine (moved.mem_iff.mp given).resolve_right fun place => may given ?_
  exact List.mem_of_mem_drop (List.mem_of_mem_take place)

end Moved

/-- The first value by name that cannot be matched is the same, if the values that are added among
them can be, and the others may not be matched for the same reasons. -/
theorem bindingFault?_sublist {taken taken' : Nat} (sub : named.Sublist named')
    (distinct : (givenNames named').Nodup)
    (added : ∀ key ∈ givenNames named', key ∉ givenNames named →
      key ∈ names ∧ key ∉ names.take taken')
    (same : ∀ key ∈ givenNames named, key ∈ names.take taken' ↔ key ∈ names.take taken) :
    bindingFault? names taken' named' = bindingFault? names taken named := by
  induction sub with
  | slnil => rfl
  | @cons earlier later e sub ih =>
    obtain ⟨new, distinct⟩ := List.nodup_cons.mp distinct
    have isAdded : e.1 ∉ givenNames earlier := fun given => new ((sub.map (·.1)).subset given)
    obtain ⟨known, once⟩ := added e.1 List.mem_cons_self isAdded
    rw [bindingFault?, if_neg (not_not.mpr known), if_neg once]
    exact ih distinct (fun key given => added key (List.mem_cons_of_mem _ given)) same
  | @cons_cons earlier later e sub ih =>
    obtain ⟨new, distinct⟩ := List.nodup_cons.mp distinct
    rw [bindingFault?, bindingFault?]
    simp only [same e.1 List.mem_cons_self]
    rw [ih distinct]
    · intro key given notGiven
      apply added key (List.mem_cons_of_mem _ given)
      rintro (_ | ⟨_, given'⟩)
      · exact new given
      · exact notGiven given'
    · exact fun key given => same key (List.mem_cons_of_mem _ given)

/-- Values that can be matched are matched the same when some of them are given by name instead. -/
theorem Moved.bindArguments_matched (moved : Moved names front back named named')
    (unlike : names.Nodup) (matched : ¬Unmatched names (front ++ back) named) :
    bindArguments names front named' = bindArguments names (front ++ back) named := by
  rcases bindArguments_cases names (front ++ back) named with ⟨unmatched, -⟩ | ⟨-, placed⟩
  · exact absurd unmatched matched
  rcases bindArguments_cases names front named' with ⟨unmatched', -⟩ | ⟨-, placed'⟩
  · exact absurd ((moved.unmatched_iff unlike).mp unmatched') matched
  · rw [placed, placed', moved.placed_eq unlike]

/-- So are those that cannot be matched, if the values that were given by name before keep their
order: the first of them that has no place is the same. -/
theorem Moved.bindArguments_inOrder (moved : Moved names front back named named')
    (unlike : names.Nodup) (inOrder : named.Sublist named') :
    bindArguments names front named' = bindArguments names (front ++ back) named := by
  obtain ⟨fewer, fewer'⟩ := moved.notTooMany
  have sameFault : bindingFault? names front.length named' =
      bindingFault? names (front ++ back).length named := by
    apply bindingFault?_sublist inOrder moved.distinct
    · intro key given notGiven
      exact fresh unlike ((moved.mem_iff.mp given).resolve_left notGiven)
    · intro key given
      rw [take_moved, List.mem_append, or_iff_left (moved.other given)]
  rw [bindArguments, bindArguments, if_neg fewer, if_neg fewer', sameFault, moved.placed_eq unlike]

end

/-! ## The law -/

/-- Whether a failure is about values that cannot be matched to names. -/
def Failure.refusesValues : Failure → Bool
  | binding .. | misuse .receiverGiven => true
  | _ => false

/-- Two outcomes are the same, or values are refused in both, though it may not be for the same
reason. -/
inductive Alike {β : Type} : Except Failure β → Except Failure β → Prop
  | same (outcome : Except Failure β) : Alike outcome outcome
  | refused {failure failure' : Failure} (refuses : failure.refusesValues = true)
      (refuses' : failure'.refusesValues = true) : Alike (.error failure) (.error failure')

theorem Alike.bind {β γ : Type} {x y : Except Failure β} (alike : Alike x y)
    (f : β → Except Failure γ) : Alike (x >>= f) (y >>= f) := by
  cases alike with
  | same => exact .same _
  | refused refuses refuses' => exact .refused refuses refuses'

/-- How `act` matches values to places, each with a name and what stands there if no value is given,
and makes `result` of them, as long as the values by name are `usable`. -/
structure MatchesByName {β : Type} (places : List (String × Value))
    (usable : List (String × Value) → Prop) (result : List Value → β)
    (act : List Value → List (String × Value) → Except Failure β) : Prop where
  refuses {args : List Value} {named : List (String × Value)} (may : usable named)
      (unmatched : Unmatched (places.map (·.1)) args named) :
      ∃ failure, act args named = .error failure ∧ failure.refusesValues = true
  gives {args : List Value} {named : List (String × Value)} (may : usable named)
      (matched : ¬Unmatched (places.map (·.1)) args named) :
      ∃ values, act args named = .ok (result values) ∧ values.length = places.length ∧
        ∀ (i : Nat) place, places[i]? = some place →
          values[i]? = some ((args[i]?.or (named.lookup place.1)).getD place.2)
  /-- Values are refused or not, whichever of the last ones by position are given by name. -/
  refusesAlike {front back : List Value} {named named' : List (String × Value)}
      (moved : Moved (places.map (·.1)) front back named named') :
      Unmatched (places.map (·.1)) front named' ↔ Unmatched (places.map (·.1)) (front ++ back) named
  /-- Nothing else comes out different either, in whatever order the values are given by name. -/
  alike {front back : List Value} {named named' : List (String × Value)} (may : usable named')
      (moved : Moved (places.map (·.1)) front back named named') :
      Alike (act front named') (act (front ++ back) named)
  /-- A refusal reports the same, too, if those given by name before keep their order. -/
  inOrder {front back : List Value} {named named' : List (String × Value)} (may : usable named')
      (moved : Moved (places.map (·.1)) front back named named') (kept : named.Sublist named') :
      act front named' = act (front ++ back) named

section

variable {β : Type} {places : List (String × Value)} {result : List Value → β}

/-- The values for places, where they are not given what stands there. -/
def standIns (places : List (String × Value)) (given : List (Option Value)) : List Value :=
  List.zipWith (fun place v? => v?.getD place.2) places given

theorem standIns_placed (places : List (String × Value)) (args : List Value)
    (named : List (String × Value)) :
    let values := standIns places (placeArguments (places.map (·.1)) args named)
    values.length = places.length ∧ ∀ (i : Nat) place, places[i]? = some place →
      values[i]? = some ((args[i]?.or (named.lookup place.1)).getD place.2) := by
  refine ⟨by simp [standIns], ?_⟩
  intro i place here
  rw [standIns, List.getElem?_zipWith, placeArguments_getElem?, List.getElem?_map, here]
  rfl

theorem matchesByName_of_bindArguments (unlike : (places.map (·.1)).Nodup) (receiver : Receiver)
    {act : List Value → List (String × Value) → Except Failure β}
    (acts : ∀ args named, act args named =
      match bindArguments (places.map (·.1)) args named with
      | .error cause => .error (.binding receiver cause)
      | .ok given => .ok (result (standIns places given))) :
    MatchesByName places (fun _ => True) result act where
  refuses _ unmatched := by
    obtain ⟨cause, refused⟩ := bindArguments_refuses unmatched
    refine ⟨.binding receiver cause, ?_, rfl⟩
    rw [acts, refused]
  gives {args named} _ matched := by
    rcases bindArguments_cases (places.map (·.1)) args named with ⟨unmatched, -⟩ | ⟨-, placed⟩
    · exact absurd unmatched matched
    · refine ⟨_, ?_, standIns_placed places args named⟩
      rw [acts, placed]
  refusesAlike moved := moved.unmatched_iff unlike
  alike {front back named named'} _ moved := by
    rw [acts, acts]
    by_cases unmatched : Unmatched (places.map (·.1)) (front ++ back) named
    · obtain ⟨cause, refused⟩ := bindArguments_refuses unmatched
      obtain ⟨cause', refused'⟩ :=
        bindArguments_refuses ((moved.unmatched_iff unlike).mpr unmatched)
      rw [refused, refused']
      exact .refused rfl rfl
    · rw [moved.bindArguments_matched unlike unmatched]
      exact .same _
  inOrder _ moved kept := by rw [acts, acts, moved.bindArguments_inOrder unlike kept]

/-- The law holds as well where values for the receiver are refused first, if no place has the name
of the receiver, or no value is given under it. -/
theorem MatchesByName.refusingReceiver
    {act : List Value → List (String × Value) → Except Failure β}
    (law : MatchesByName places (fun _ => True) result act) :
    MatchesByName places
      (fun named => receiverName ∈ givenNames named → receiverName ∉ places.map (·.1)) result
      (fun args named => do refuseReceiver named; act args named) where
  refuses {args named} may unmatched := by
    rw [refuseReceiver_eq]
    by_cases receiver : receiverName ∈ givenNames named
    · rw [if_pos receiver]
      exact ⟨_, rfl, rfl⟩
    · rw [if_neg receiver]
      exact law.refuses trivial unmatched
  gives {args named} may matched := by
    have receiver : receiverName ∉ givenNames named := by
      intro given
      exact matched (.inr (.inl ⟨receiverName, given, may given⟩))
    rw [refuseReceiver_eq, if_neg receiver]
    exact law.gives trivial matched
  refusesAlike := law.refusesAlike
  alike {front back named named'} may moved := by
    simp only [refuseReceiver_eq, moved.receiver_iff may]
    by_cases receiver : receiverName ∈ givenNames named
    · simp only [if_pos receiver]
      exact .same _
    · simp only [if_neg receiver]
      exact law.alike trivial moved
  inOrder {front back named named'} may moved kept := by
    simp only [refuseReceiver_eq, moved.receiver_iff may, law.inOrder trivial moved kept]

end

/-- The parameters of a method as places; what is not given is absent. -/
def Method.places (m : Method) : List (String × Value) := m.params.map fun p => (p.name, .absent)

/-- The fields of a type as places; what is not given is the default. -/
def RecordType.places (type : RecordType) : List (String × Value) :=
  type.fields.map fun f => (f.1, f.2.default)

@[simp]
theorem Method.places_names (m : Method) : m.places.map (·.1) = m.params.map (·.name) := by
  simp [Method.places]

@[simp]
theorem RecordType.places_names (type : RecordType) : type.places.map (·.1) = type.fieldNames := by
  simp [RecordType.places, RecordType.fieldNames]

theorem standIns_absent {params : List Parameter} {given : List (Option Value)}
    (one : given.length = params.length) :
    standIns (params.map fun p => (p.name, .absent)) given = given.map (·.getD .absent) := by
  induction params generalizing given with
  | nil =>
    obtain rfl := List.length_eq_zero_iff.mp one
    rfl
  | cons p params ih =>
    cases given with
    | nil => cases one
    | cons v? given => exact congrArg (v?.getD .absent :: ·) (ih (Nat.succ.inj one))

theorem bind_matchesByName {m : Method} (unlike : (m.params.map (·.name)).Nodup) :
    MatchesByName m.places (fun _ => True) id m.bind := by
  apply matchesByName_of_bindArguments (by simpa using unlike) (.method m.name)
  intro args named
  rw [Method.bind, Method.assign, Method.places_names]
  rcases bindArguments_cases (m.params.map (·.name)) args named with
    ⟨-, cause, refused⟩ | ⟨-, placed⟩
  · rw [refused]
    rfl
  · rw [placed]
    apply congrArg Except.ok
    exact (standIns_absent (by simp)).symm

theorem fill_eq_standIns {fields : List (String × TypeRef)} {given : List (Option Value)} :
    RecordType.fill fields given =
      standIns (fields.map fun f => (f.1, f.2.default)) given := by
  induction fields generalizing given with
  | nil => simp [RecordType.fill, standIns]
  | cons f fields ih =>
    cases given with
    | nil => simp [RecordType.fill, standIns]
    | cons v? given => simpa [RecordType.fill, standIns] using ih

theorem make_matchesByName {type : RecordType} (unlike : type.fieldNames.Nodup) :
    MatchesByName type.places
      (fun named => receiverName ∈ givenNames named → receiverName ∉ type.fieldNames)
      (.record type) type.make := by
  rw [← type.places_names] at unlike ⊢
  apply MatchesByName.refusingReceiver
  apply matchesByName_of_bindArguments unlike (.type type.name)
  intro args named
  rw [type.places_names]
  simp only [fill_eq_standIns]
  cases bindArguments type.fieldNames args named <;> rfl

/-! ## Clients -/

section

variable {client : Client} {m : Method} {front back : List Value}
  {named named' : List (String × Value)}

theorem call_unreceived {args : List Value} (unreceived : receiverName ∉ givenNames named)
    (link : Link) :
    client.call m args named link =
      match m.bind args named with
      | .error failure => (.error failure, link)
      | .ok values => client.send m values link := by
  rw [Client.call, refuseReceiver_eq, if_neg unreceived]
  rfl

/-- A call comes to the same as one in which the last values by position are given by name, or the
values are refused both times. Either way the link is left the same. -/
theorem call_moved (law : MatchesByName m.places (fun _ => True) id m.bind)
    (moved : Moved (m.params.map (·.name)) front back named named')
    (unreceived : receiverName ∉ givenNames named') (link : Link) :
    Alike (client.call m front named' link).1 (client.call m (front ++ back) named link).1 ∧
      (client.call m front named' link).2 = (client.call m (front ++ back) named link).2 ∧
      (named.Sublist named' →
        client.call m front named' link = client.call m (front ++ back) named link) := by
  have unreceived' : receiverName ∉ givenNames named := by
    intro given
    exact unreceived (moved.mem_iff.mpr (.inl given))
  rw [← m.places_names] at moved
  rw [call_unreceived unreceived, call_unreceived unreceived']
  have alike := law.alike trivial moved
  generalize bound : m.bind front named' = x at alike
  generalize bound' : m.bind (front ++ back) named = y at alike
  refine ⟨?_, ?_, fun kept => ?_⟩
  · cases alike with
    | same => exact .same _
    | refused refuses refuses' => exact .refused refuses refuses'
  · cases alike <;> rfl
  · rw [← bound, ← bound', law.inOrder trivial moved kept]

end

/-- In every client values by position and by name mean the same. Calls and records match them by
one law, to the parameters of the method, which stand in the order the description gives them, and
to the fields of the type. The last values by position may be given by name, in any order: then the
request is the same and so is the answer to the call, or the values are refused both times. If the
values that were given by name before keep their order, the refusal is the same as well. -/
theorem matched_alike {description : Value} {endpoint : String} {client : Client}
    (regular : description.isRegular = true)
    (built : Client.build description endpoint = .ok client) :
    client.WrittenIn description ∧
    (∀ stub ∈ client.methodList,
      MatchesByName stub.2.places (fun _ => True) id stub.2.bind ∧
      ∀ (front back : List Value) (named named' : List (String × Value)),
        Moved (stub.2.params.map (·.name)) front back named named' →
        (∀ id, Alike (stub.2.bind front named' >>= stub.2.request id)
          (stub.2.bind (front ++ back) named >>= stub.2.request id)) ∧
        (named.Sublist named' → ∀ id, (stub.2.bind front named' >>= stub.2.request id) =
          (stub.2.bind (front ++ back) named >>= stub.2.request id)) ∧
        (receiverName ∉ givenNames named' → ∀ link : Link,
          Alike (client.call stub.2 front named' link).1
              (client.call stub.2 (front ++ back) named link).1 ∧
            (client.call stub.2 front named' link).2 =
              (client.call stub.2 (front ++ back) named link).2 ∧
            (named.Sublist named' → client.call stub.2 front named' link =
              client.call stub.2 (front ++ back) named link))) ∧
    ∀ type ∈ client.types,
      MatchesByName type.places
        (fun named => receiverName ∈ givenNames named → receiverName ∉ type.fieldNames)
        (.record type) type.make := by
  have well := build_wellNamed regular built
  refine ⟨(build_writtenIn built).1, ?_, fun type inTypes => ?_⟩
  · rintro ⟨name, m⟩ inList
    have law := bind_matchesByName (build_params_nodup regular built inList)
    refine ⟨law, ?_⟩
    intro front back named named' moved
    have placed := moved
    rw [← m.places_names] at placed
    refine ⟨fun id => ?_, fun kept id => ?_, call_moved law moved⟩
    · exact (law.alike trivial placed).bind (m.request id)
    · rw [law.inOrder trivial placed kept]
  · exact make_matchesByName (well.fields type inTypes)

def pointType : RecordType := ⟨"Point", [("x", .primitive .number), ("y", .primitive .number)]⟩

def segmentType : RecordType := ⟨"Segment", [("start", .named "Point"), ("end", .named "Point")]⟩

def shapeMethod (name : String) (params : List (String × String)) : Method where
  name := name
  params := params.map fun p => { name := p.1, type := .named p.2, optional := false, docs := [] }
  returns := none
  docs := []
  returnDocs := []
  docSource := .list []
  returnDocSource := .list []

/-- The parameters stand the other way round in the description. -/
def distanceMethod : Method := shapeMethod "shape.distance" [("a", "Point"), ("b", "Point")]

def shapesClient : Client where
  serviceName := .string ""
  endpoint := "http://0.0.0.0:8080/"
  types := [segmentType, pointType]
  methods := [("shape", .branch [("distance", .leaf distanceMethod),
    ("length", .leaf (shapeMethod "shape.length" [("of", "Segment")]))])]

def distancePoint (name : String) (order : Int) : ParameterDescription where
  name := name
  type := some (.named "Point")
  optional := false
  order := order
  docLines := .list []

theorem distance_read :
    MethodDescription.read "shape.distance" (.object [("params", .object distanceParams)]) =
      .ok ⟨"shape.distance", .list [], none, .list [],
        [distancePoint "a" 1, distancePoint "b" 2]⟩ := by
  have entries : Value.entriesOrNone (List.lookup "params" [("params", .object distanceParams)]) =
      .ok distanceParams := by with_unfolding_all rfl
  have asWritten : ParameterDescription.readAll "shape.distance" [] distanceParams =
      .ok [distancePoint "b" 2, distancePoint "a" 1] := by with_unfolding_all rfl
  have sorted : ParameterDescription.inOrder "shape.distance"
      [distancePoint "b" 2, distancePoint "a" 1] =
      .ok [distancePoint "a" 1, distancePoint "b" 2] := by
    simp [ParameterDescription.inOrder, List.mergeSort, distancePoint, List.range_succ]
  simp only [MethodDescription.read, Value.entries, ok_bind, entries, asWritten, sorted]
  rfl

theorem shapes_built : Client.build shapes "http://0.0.0.0:8080/" = .ok shapesClient := by
  have methods : Value.entriesOrNone (List.lookup "methods"
      [("types", .object shapeTypes), ("methods", .object (shapeMethods distanceParams))]) =
      .ok (shapeMethods distanceParams) := by with_unfolding_all rfl
  rw [Client.build, shapes, shapeDescription, ServiceDescription.read, methods, ok_bind,
    shapeMethods, List.mapM_cons]
  simp only [distance_read]
  with_unfolding_all rfl

theorem shapes_distance : ("shape.distance", distanceMethod) ∈ shapesClient.methodList :=
  List.mem_cons_self

/-- The distance of two points is asked for with the second by name, and a point is made with its
second coordinate by name. A point that has its first coordinate twice is refused. -/
theorem matched_alike_shapes :
    shapes.isRegular = true ∧
      Client.build shapes "http://0.0.0.0:8080/" = .ok shapesClient ∧
      (∀ (p q : Value) (link : Link), shapesClient.call distanceMethod [p] [("b", q)] link =
        shapesClient.call distanceMethod [p, q] [] link) ∧
      pointType.make [.int 3] [("y", .int 4)] = pointType.make [.int 3, .int 4] [] ∧
      ∃ failure, pointType.make [.int 3] [("x", .int 4)] = .error failure := by
  have regular : shapes.isRegular = true := by decide
  obtain ⟨-, methods, types⟩ := matched_alike regular shapes_built
  obtain ⟨-, calls⟩ := methods _ shapes_distance
  have makes := types pointType (by simp [shapesClient])
  refine ⟨regular, shapes_built, ?_, ?_, ?_⟩
  · intro p q link
    have moved : Moved ["a", "b"] [p] [q] [] [("b", q)] :=
      ⟨le_rfl, .refl _, List.nodup_singleton "b"⟩
    have unreceived : receiverName ∉ ["b"] := by decide
    obtain ⟨-, -, call⟩ := calls [p] [q] [] _ moved
    obtain ⟨-, -, same⟩ := call unreceived link
    exact same (List.nil_sublist _)
  · have moved : Moved ["x", "y"] [Value.int 3] [.int 4] [] [("y", .int 4)] :=
      ⟨by decide, .refl _, List.nodup_singleton "y"⟩
    exact makes.inOrder (by decide) moved (List.nil_sublist _)
  · have twice : Unmatched ["x", "y"] [Value.int 3] [("x", .int 4)] :=
      .inr (.inr ⟨"x", by decide, by decide⟩)
    obtain ⟨failure, refused, -⟩ := makes.refuses (by decide) twice
    exact ⟨failure, refused⟩

/-- Of two values under names that are no parameters the first is reported. They are refused
whether the value before them is given by name or not; but if they change places then, it is the
other one that is reported. -/
theorem bind_reordered :
    let named : List (String × Value) := [("u", .int 1), ("v", .int 2)]
    let named' : List (String × Value) := [("v", .int 2), ("u", .int 1), ("a", .int 0)]
    let refusal (key : String) : Failure := .binding (.method "shape.distance") (.unknown key)
    Client.build shapes "http://0.0.0.0:8080/" = .ok shapesClient ∧
      ("shape.distance", distanceMethod) ∈ shapesClient.methodList ∧
      Moved (distanceMethod.params.map (·.name)) [] [.int 0] named named' ∧
      distanceMethod.bind [.int 0] named = .error (refusal "u") ∧
      distanceMethod.bind [] named' = .error (refusal "v") ∧
      refusal "v" ≠ refusal "u" := by
  intro named named' refusal
  have distinct : (givenNames named').Nodup := by decide
  refine ⟨shapes_built, shapes_distance, ⟨by decide, .swap _ _ _, distinct⟩, rfl, rfl, ?_⟩
  simp [refusal]

end ServiceClient

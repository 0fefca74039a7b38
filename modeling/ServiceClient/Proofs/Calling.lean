import ServiceClient.Client
import ServiceClient.Proofs.Conformance
import ServiceClient.Proofs.JsonWriting

/-!
What a call does. Matching arguments to parameters gives each parameter a value or marks it absent;
`call_cases` lists the three ways a call can go, and `requestParams_sends` says what is in the
request of one that is posted.
-/

namespace ServiceClient

/-! ## Matching arguments -/

section

variable {α : Type} {names : List String} {values : List α} {named : List (String × α)}

@[simp]
theorem placeArguments_length : (placeArguments names values named).length = names.length := by
  induction names generalizing values with
  | nil => simp [placeArguments]
  | cons name names ih => cases values <;> simp [placeArguments, ih]

theorem placeArguments_mem {a : α} (member : some a ∈ placeArguments names values named) :
    a ∈ values ∨ ∃ key, (key, a) ∈ named := by
  induction names generalizing values with
  | nil => simp [placeArguments] at member
  | cons name names ih =>
    cases values with
    | nil =>
      rcases List.mem_cons.mp member with here | later
      · exact .inr ⟨name, mem_of_lookup here.symm⟩
      · exact ih later
    | cons v values =>
      rcases List.mem_cons.mp member with here | later
      · exact .inl (by simp [Option.some.inj here])
      · exact (ih later).imp_left (List.mem_cons_of_mem v)

theorem placeArguments_full (full : values.length = names.length) :
    placeArguments names values named = values.map some := by
  induction names generalizing values with
  | nil =>
    obtain rfl : values = [] := by simpa using full
    rfl
  | cons name names ih =>
    cases values with
    | nil => simp at full
    | cons v values => rw [placeArguments, ih (by simpa using full), List.map_cons]

theorem none_mem_placeArguments (short : values.length < names.length) :
    none ∈ placeArguments names values [] := by
  induction names generalizing values with
  | nil => simp at short
  | cons name names ih =>
    cases values with
    | nil => exact List.mem_cons_self
    | cons v values => exact List.mem_cons_of_mem _ (ih (by simpa using short))

theorem bindArguments_eq_ok {given : List (Option α)}
    (bound : bindArguments names values named = .ok given) :
    values.length ≤ names.length ∧ placeArguments names values named = given := by
  unfold bindArguments at bound
  split at bound
  · cases bound
  · rename_i fits
    split at bound
    · cases bound
    · exact ⟨Nat.not_lt.mp fits, Except.ok.inj bound⟩

end

section

variable {m : Method} {args values : List Value} {named : List (String × Value)}

theorem bind_eq_ok_placed (bound : m.bind args named = .ok values) :
    args.length ≤ m.params.length ∧
      (placeArguments (m.params.map (·.name)) args named).map (·.getD .absent) = values := by
  obtain ⟨given, assigned, same⟩ := bind_eq_ok.mp bound
  unfold Method.assign at assigned
  split at assigned
  · cases assigned
  · rename_i given' matched
    obtain rfl := Except.ok.inj assigned
    obtain ⟨fits, placed⟩ := bindArguments_eq_ok matched
    exact ⟨by simpa using fits, by rw [placed, pure_eq_ok.mp same]⟩

theorem bind_length (bound : m.bind args named = .ok values) :
    values.length = m.params.length := by
  simp [← (bind_eq_ok_placed bound).2]

/-- Arguments by position are the values of the parameters, if none is absent. -/
theorem bind_given (bound : m.bind args [] = .ok values) (given : ∀ v ∈ values, v ≠ .absent) :
    args = values := by
  obtain ⟨fits, placed⟩ := bind_eq_ok_placed bound
  have full : args.length = (m.params.map (·.name)).length := by
    rw [List.length_map]
    refine Nat.le_antisymm fits (Nat.not_lt.mp fun short => ?_)
    have missing : none ∈ placeArguments (m.params.map (·.name)) args [] :=
      none_mem_placeArguments (by simpa using short)
    exact given .absent (placed ▸ List.mem_map.mpr ⟨none, missing, rfl⟩) rfl
  rw [placeArguments_full full, List.map_map] at placed
  exact (List.map_id args).symm.trans placed

theorem bind_full (full : args.length = m.params.length) : m.bind args [] = .ok args := by
  have fits : ¬(m.params.map (·.name)).length < args.length := by simp [full]
  have placed : placeArguments (m.params.map (·.name)) args [] = args.map some :=
    placeArguments_full (by simpa using full)
  have bound : bindArguments (m.params.map (·.name)) args [] = .ok (args.map some) := by
    rw [bindArguments, if_neg fits, bindingFault?, placed]
  simp only [Method.bind, Method.assign, bound, ok_bind, List.map_map]
  exact congrArg Except.ok (List.map_id args)

/-- A value that is matched to a parameter was given, or it is the mark of one that was not. -/
theorem bind_mem (bound : m.bind args named = .ok values) {v : Value} (member : v ∈ values) :
    v = .absent ∨ v ∈ args ∨ ∃ key, (key, v) ∈ named := by
  rw [← (bind_eq_ok_placed bound).2] at member
  obtain ⟨given, placed, rfl⟩ := List.mem_map.mp member
  cases given with
  | none => exact .inl rfl
  | some v => exact .inr (placeArguments_mem placed)

end

/-! ## Requests -/

/-- The request of a call, as a value. -/
def envelope (id : Int) (method : String) (params : List (String × Value)) : Value :=
  .object [("jsonrpc", .string "2.0"), ("id", .int id), ("method", .string method),
    ("params", .object params)]

/-- The entries sent for parameters: in their order, each under the name of its parameter and
conforming to its type, with none left out but optional ones. -/
inductive Sends (types : List RecordType) : List Parameter → List (String × Value) → Prop
  | nil : Sends types [] []
  | leftOut {p : Parameter} {params : List Parameter} {entries : List (String × Value)}
      (optional : p.optional = true) (rest : Sends types params entries) :
      Sends types (p :: params) entries
  | given {p : Parameter} {params : List Parameter} {entries : List (String × Value)} {w : Value}
      (conforms : Conforms types p.type w) (rest : Sends types params entries) :
      Sends types (p :: params) ((p.name, w) :: entries)

/-- An envelope can be written around entries that can. -/
theorem write_envelope {id : Int} {name : String} {params : List (String × Value)}
    (short : Json.isShort (.int id) = true)
    (writable : ∀ e ∈ params, e.2.everywhere Json.isWritable = true) :
    ∃ body, Json.write (envelope id name params) = .ok body := by
  refine Json.exists_write_of_isWritable ?_
  have number : (Value.int id).everywhere Json.isWritable = true :=
    Value.everywhere_leaf rfl short
  simp only [envelope, Value.everywhere_object, List.forall_mem_cons]
  exact ⟨rfl, rfl, number, rfl, ⟨rfl, writable⟩, List.forall_mem_nil _⟩

theorem request_eq_ok {m : Method} {id : Int} {values : List Value} {request : Value} :
    m.request (.int id) values = .ok request ↔
      ∃ params, Method.requestParams m.params values = .ok params ∧
        envelope id m.name params = request := by
  simp only [Method.request, bind_eq_ok, pure_eq_ok, envelope]

theorem requestParams_cons_eq_ok {p : Parameter} {params : List Parameter} {v : Value}
    {values : List Value} {entries : List (String × Value)} :
    Method.requestParams (p :: params) (v :: values) = .ok entries ↔
      ((p.optional && v.isOmitted) = true ∧ Method.requestParams params values = .ok entries) ∨
      ((p.optional && v.isOmitted) = false ∧ p.type.mismatch? v = none ∧
        ∃ w rest, v.toWire = .ok w ∧ Method.requestParams params values = .ok rest ∧
          (p.name, w) :: rest = entries) := by
  cases omitted : p.optional && v.isOmitted with
  | true => simp [Method.requestParams, omitted]
  | false =>
    simp only [Method.requestParams, omitted, bind_eq_ok, pure_eq_ok, Bool.false_eq_true,
      if_false, false_and, false_or, true_and]
    constructor
    · rintro ⟨_, checked, w, converted, rest, sent, rfl⟩
      exact ⟨check_eq_ok.mp checked, w, rest, converted, sent, rfl⟩
    · rintro ⟨shaped, w, rest, converted, sent, rfl⟩
      exact ⟨(), check_eq_ok.mpr shaped, w, converted, rest, sent, rfl⟩

theorem requestParams_sends {types : List RecordType} (well : WellNamed types)
    (undeclared : findType? types untypedObject = none) {params : List Parameter}
    {values : List Value} {entries : List (String × Value)}
    (full : values.length = params.length) (owned : ∀ v ∈ values, v.belongsTo types = true)
    (sent : Method.requestParams params values = .ok entries)
    (sendable : ∀ e ∈ entries, e.2.everywhere Value.isSendable = true) :
    Sends types params entries := by
  induction params generalizing values entries with
  | nil =>
    obtain rfl : [] = entries := by simpa [Method.requestParams] using sent
    exact .nil
  | cons p params ih =>
    cases values with
    | nil => simp at full
    | cons v values =>
      have full : values.length = params.length := by simpa using full
      obtain ⟨here, later⟩ := List.forall_mem_cons.mp owned
      rcases requestParams_cons_eq_ok.mp sent with
        ⟨omitted, others⟩ | ⟨-, shaped, w, rest, converted, others, rfl⟩
      · exact .leftOut (Bool.and_eq_true_iff.mp omitted).1 (ih full later others sendable)
      · obtain ⟨hereSendable, laterSendable⟩ := List.forall_mem_cons.mp sendable
        have plain : w.isPlain = true :=
          Value.isPlain_iff.mpr ⟨toWire_flat well.fields here converted, hereSendable⟩
        have conforms : Conforms types p.type w :=
          toWire_conforms well.names undeclared v p.type w here shaped converted plain
        exact .given conforms (ih full later others laterSendable)

/-! ## Calls -/

/-- The three ways a call can go: its arguments cannot be matched, and nothing happens; its request
cannot be made, and a number is used up; or its request is posted. -/
theorem call_cases (client : Client) (m : Method) (args : List Value)
    (named : List (String × Value)) (link : Link) :
    (∃ failure, (refuseReceiver named >>= fun _ => m.bind args named) = .error failure ∧
      client.call m args named link = (.error failure, link)) ∨
    (∃ values failure, m.bind args named = .ok values ∧
      (m.request (.int link.nextId) values >>= Json.write) = .error failure ∧
      client.call m args named link =
        (.error failure, { link with nextId := link.nextId + 1 })) ∨
    (∃ values body, m.bind args named = .ok values ∧
      (m.request (.int link.nextId) values >>= Json.write) = .ok body ∧
      client.call m args named link =
        ((Link.readReply ⟨"POST", client.endpoint, some body⟩
            (link.replies.headD Link.defaultReply) >>= m.result),
          ⟨link.nextId + 1, link.replies.tail,
            link.sent ++ [⟨"POST", client.endpoint, some body⟩]⟩)) := by
  cases bound : (refuseReceiver named >>= fun _ => m.bind args named) with
  | error failure =>
    refine .inl ⟨failure, rfl, ?_⟩
    simp [Client.call, bound]
  | ok values =>
    obtain ⟨_, -, matched⟩ := bind_eq_ok.mp bound
    right
    cases written : (m.request (.int link.nextId) values >>= Json.write) with
    | error failure =>
      refine .inl ⟨values, failure, matched, written, ?_⟩
      simp [Client.call, bound, Client.send, Link.takeId, Client.post, written]
    | ok body =>
      refine .inr ⟨values, body, matched, written, ?_⟩
      simp [Client.call, bound, Client.send, Link.takeId, Client.post, written, Link.post,
        Link.exchange]

/-- A call whose arguments were matched sends the values of the parameters. -/
theorem call_eq_send {client : Client} {m : Method} {args values : List Value}
    (bound : m.bind args [] = .ok values) (link : Link) :
    client.call m args [] link = client.send m values link := by
  have matched : (refuseReceiver ([] : List (String × Value)) >>= fun _ => m.bind args []) =
      .ok values := bound
  rw [Client.call, matched]

end ServiceClient

import ServiceClient.Proofs.Calling
import ServiceClient.Proofs.Described

/-!
What the client of a service sends: a call posts nothing, or one request with entries that conform
to the description the client was built from.
-/

namespace ServiceClient

/-- Every value given to a method was made with the declared types. -/
theorem bind_belongsTo {types : List RecordType} {m : Method} {args values : List Value}
    {named : List (String × Value)} (bound : m.bind args named = .ok values)
    (owned : ∀ v ∈ args, v.belongsTo types = true)
    (ownedNamed : ∀ e ∈ named, e.2.belongsTo types = true) :
    ∀ v ∈ values, v.belongsTo types = true := by
  intro v member
  rcases bind_mem bound member with rfl | byPosition | ⟨key, byName⟩
  · rfl
  · exact owned v byPosition
  · exact ownedNamed (key, v) byName

/-- What can be written in the entries of an envelope holds nothing without a form on the wire. -/
theorem envelope_isSendable {id : Int} {name body : String} {params : List (String × Value)}
    (written : Json.write (envelope id name params) = .ok body) :
    ∀ e ∈ params, e.2.everywhere Value.isSendable = true := by
  have sendable := Json.isSendable_of_writeAt _ (Json.write_eq_ok.mp written)
  have entries := (Value.everywhere_object.mp sendable).2
  exact (Value.everywhere_object.mp (entries ("params", .object params) (by simp))).2

/-- A call sends nothing, or it posts one request: an envelope with the call's number and the name
of the method, and in it conforming entries for the parameters of the description, in their
order. -/
theorem call_sends_conforming {description : Value} {endpoint name : String} {client : Client}
    {m : Method} {args : List Value} {named : List (String × Value)}
    (regular : description.isRegular = true)
    (built : Client.build description endpoint = .ok client)
    (undeclared : findType? client.types untypedObject = none)
    (stub : (name, m) ∈ client.methodList)
    (owned : ∀ v ∈ args, v.belongsTo client.types = true)
    (ownedNamed : ∀ e ∈ named, e.2.belongsTo client.types = true) (link : Link) :
    client.WrittenIn description ∧
      ((client.call m args named link).2.sent = link.sent ∨
        ∃ params body,
          (client.call m args named link).2.sent =
            link.sent ++ [⟨"POST", endpoint, some body⟩] ∧
          Json.write (envelope link.nextId name params) = .ok body ∧
          Sends client.types m.params params) := by
  obtain ⟨writtenIn, rfl⟩ := build_writtenIn built
  obtain rfl := (writtenIn.of_mem_methodList stub).1
  refine ⟨writtenIn, ?_⟩
  rcases call_cases client m args named link with
    ⟨failure, -, call⟩ | ⟨values, failure, -, -, call⟩ | ⟨values, body, bound, written, call⟩
  · exact .inl (by rw [call])
  · exact .inl (by rw [call])
  · right
    obtain ⟨request, requested, written⟩ := bind_eq_ok.mp written
    obtain ⟨params, sent, rfl⟩ := request_eq_ok.mp requested
    refine ⟨params, body, by rw [call], written, ?_⟩
    exact requestParams_sends (build_wellNamed regular built) undeclared (bind_length bound)
      (bind_belongsTo bound owned ownedNamed) sent (envelope_isSendable written)

/-- A node with a link to another, in a tuple. -/
theorem call_sends_conforming_node :
    let node : Value := .record sampleNode
      [.string "a", .int 3, .tuple [.record sampleNode [.string "b", .int 0, .list []]]]
    let sent := (sampleClient.call sampleMethod [node] [] (.start 7 [])).2.sent
    sent.length = 1 ∧ sampleClient.WrittenIn sampleDescription ∧
      (sent = [] ∨ ∃ params body,
        sent = [⟨"POST", "http://0.0.0.0:8080/", some body⟩] ∧
          Json.write (envelope 7 "graph.add" params) = .ok body ∧
          Sends sampleClient.types sampleMethod.params params) :=
  ⟨rfl, call_sends_conforming (by decide) sample_built (by decide) (List.mem_singleton.mpr rfl)
    (by decide) (by decide) (.start 7 [])⟩

end ServiceClient

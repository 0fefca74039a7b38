import ServiceClient.Proofs.Calling

/-!
What a call comes to. Its arguments may not match the parameters, one of them may be unfit to be
sent (`Unsendable`), or the request goes out and the reply decides (`ReplyMeans`). `call_outcome`
says that every call goes one of these ways, and that what fails before the request is posted leaves
nothing behind but a number that is used up.
-/

namespace ServiceClient

/-! ## Arguments -/

/-- The failure of a call whose arguments do not match the parameters. -/
def Failure.IsUnmatched (m : Method) (failure : Failure) : Prop :=
  failure = .misuse .receiverGiven ∨ ∃ cause, failure = .binding (.method m.name) cause

theorem bind_isUnmatched {m : Method} {args : List Value} {named : List (String × Value)}
    {failure : Failure}
    (refused : (refuseReceiver named >>= fun _ => m.bind args named) = .error failure) :
    failure.IsUnmatched m := by
  rcases bind_eq_error.mp refused with receiver | ⟨_, -, unbound⟩
  · unfold refuseReceiver at receiver
    split at receiver
    · exact .inl (Except.error.inj receiver).symm
    · cases receiver
  · rcases bind_eq_error.mp unbound with unassigned | ⟨given, -, done⟩
    · unfold Method.assign at unassigned
      split at unassigned
      · rename_i cause _
        exact .inr ⟨cause, (Except.error.inj unassigned).symm⟩
      · cases unassigned
    · cases done

/-- An argument that nothing is sent for, or one that can be sent. -/
def Passes (p : Parameter) (v : Value) : Prop :=
  (p.optional && v.isOmitted) = true ∨ (p.type.mismatch? v = none ∧ ∃ w, v.toWire = .ok w)

/-- Some argument cannot be sent, and the first such one fails like this: it does not have the type
of its parameter, or it has, and a record inside it has a field that is not valid. -/
inductive Unsendable : List Parameter → List Value → Failure → Prop
  | mismatched {p : Parameter} {params : List Parameter} {v : Value} {values : List Value}
      {cause : Mismatch} (given : (p.optional && v.isOmitted) = false)
      (mismatch : p.type.mismatch? v = some cause) :
      Unsendable (p :: params) (v :: values) (.mismatch p.name cause)
  | inside {p : Parameter} {params : List Parameter} {v : Value} {values : List Value}
      {failure : Failure} (given : (p.optional && v.isOmitted) = false)
      (shaped : p.type.mismatch? v = none) (unsent : v.toWire = .error failure) :
      Unsendable (p :: params) (v :: values) failure
  | later {p : Parameter} {params : List Parameter} {v : Value} {values : List Value}
      {failure : Failure} (here : Passes p v) (rest : Unsendable params values failure) :
      Unsendable (p :: params) (v :: values) failure

theorem check_eq_error {t : TypeRef} {subject : String} {v : Value} {failure : Failure} :
    t.check subject v = .error failure ↔
      ∃ cause, t.mismatch? v = some cause ∧ failure = .mismatch subject cause := by
  unfold TypeRef.check
  cases t.mismatch? v with
  | none => simp
  | some cause => simp [eq_comm]

/-- The entries of a request cannot be made because of the first argument that cannot be sent. -/
theorem requestParams_eq_error {params : List Parameter} {values : List Value}
    {failure : Failure} :
    Method.requestParams params values = .error failure ↔ Unsendable params values failure := by
  constructor
  · intro failed
    induction params generalizing values with
    | nil => simp [Method.requestParams] at failed
    | cons p params ih =>
      cases values with
      | nil => simp [Method.requestParams] at failed
      | cons v values =>
        cases omitted : p.optional && v.isOmitted with
        | true =>
          rw [Method.requestParams, if_pos omitted] at failed
          exact .later (.inl omitted) (ih failed)
        | false =>
          rw [Method.requestParams, if_neg (by simp [omitted])] at failed
          rcases bind_eq_error.mp failed with mismatched | ⟨_, checked, failed⟩
          · obtain ⟨cause, mismatch, rfl⟩ := check_eq_error.mp mismatched
            exact .mismatched omitted mismatch
          · have shaped := check_eq_ok.mp checked
            rcases bind_eq_error.mp failed with unsent | ⟨w, sent, failed⟩
            · exact .inside omitted shaped unsent
            · rcases bind_eq_error.mp failed with later | ⟨_, -, done⟩
              · exact .later (.inr ⟨shaped, w, sent⟩) (ih later)
              · cases done
  · intro unsendable
    induction unsendable with
    | mismatched given mismatch =>
      rw [Method.requestParams, if_neg (by simp [given]), check_eq_error.mpr ⟨_, mismatch, rfl⟩]
      rfl
    | inside given shaped unsent =>
      rw [Method.requestParams, if_neg (by simp [given]), check_eq_ok.mpr shaped, ok_bind, unsent]
      rfl
    | @later p params v values failure here _ ih =>
      cases omitted : p.optional && v.isOmitted with
      | true => rw [Method.requestParams, if_pos omitted, ih]
      | false =>
        obtain ⟨shaped, w, sent⟩ := here.resolve_left (by simp [omitted])
        rw [Method.requestParams, if_neg (by simp [omitted]), check_eq_ok.mpr shaped, ok_bind, sent,
          ok_bind, ih]
        rfl

/-! ## Replies -/

/-- What the reply to the request of a method means, whatever its status: that there is no response,
that the server refuses, or what the result is. -/
inductive ReplyMeans (m : Method) (request : HttpRequest) : Reply → Except Failure Value → Prop
  | unreachable (reason : String) :
      ReplyMeans m request (.failure reason)
        (.error (.exchange (.failed request.verb request.url reason)))
  | unreadable {text : String} {status : Int} (notJson : ∀ v, Json.parse text ≠ .ok v) :
      ReplyMeans m request (.body text status)
        (.error (.exchange (.notJson request.verb request.url status)))
  | notAnObject {text : String} {status : Int} {v : Value} (read : Json.parse text = .ok v)
      (other : ∀ fields, v ≠ .object fields) :
      ReplyMeans m request (.body text status) (.error (.exchange (.notAnObject m.name v)))
  /-- The parts of an error are what the server says. -/
  | refused {text : String} {status : Int} {fields error : List (String × Value)}
      (read : Json.parse text = .ok (.object fields))
      (found : fields.lookup "error" = some (.object error)) :
      ReplyMeans m request (.body text status)
        (.error (.remote ((error.lookup "message").elim "" Value.plainText)
          ((error.lookup "code").getD .null) ((error.lookup "data").getD .null)))
  /-- An error without parts is itself what the server says. -/
  | refusedBriefly {text : String} {status : Int} {fields : List (String × Value)} {error : Value}
      (read : Json.parse text = .ok (.object fields)) (found : fields.lookup "error" = some error)
      (present : error ≠ .null) (bare : ∀ parts, error ≠ .object parts) :
      ReplyMeans m request (.body text status) (.error (.remote error.plainText .null .null))
  | answered {text : String} {status : Int} {fields : List (String × Value)}
      (read : Json.parse text = .ok (.object fields))
      (fine : ∀ error ∈ fields.lookup "error", error = .null) :
      ReplyMeans m request (.body text status) (.ok ((fields.lookup "result").getD .null))

section

variable {m : Method} {request : HttpRequest} {reply : Reply} {outcome : Except Failure Value}

theorem result_of_error {fields : List (String × Value)} {error : Value}
    (found : fields.lookup "error" = some error) (present : error ≠ .null) :
    m.result (.object fields) = .error (Method.remoteFailure error) := by
  rw [Method.result, found]
  cases error <;> first | rfl | exact absurd rfl present

theorem result_of_fine {fields : List (String × Value)}
    (fine : ∀ error ∈ fields.lookup "error", error = .null) :
    m.result (.object fields) = .ok ((fields.lookup "result").getD .null) := by
  rw [Method.result]
  cases found : fields.lookup "error" with
  | none => rfl
  | some error =>
    obtain rfl := fine error found
    rfl

theorem result_of_other {v : Value} (other : ∀ fields, v ≠ .object fields) :
    m.result v = .error (.exchange (.notAnObject m.name v)) := by
  cases v <;> first | rfl | exact absurd rfl (other _)

theorem remoteFailure_bare {error : Value} (bare : ∀ parts, error ≠ .object parts) :
    Method.remoteFailure error = .remote error.plainText .null .null := by
  cases error <;> first | rfl | exact absurd rfl (bare _)

theorem remoteFailure_parts {error : List (String × Value)} :
    Method.remoteFailure (.object error) =
      .remote ((error.lookup "message").elim "" Value.plainText)
        ((error.lookup "code").getD .null) ((error.lookup "data").getD .null) := by
  rw [Method.remoteFailure]
  cases error.lookup "message" <;> rfl

theorem readReply_body {text : String} {status : Int} {v : Value} (read : Json.parse text = .ok v) :
    Link.readReply request (.body text status) = .ok v := by
  rw [Link.readReply, read]

theorem readReply_eq_of_replyMeans (means : ReplyMeans m request reply outcome) :
    (Link.readReply request reply >>= m.result) = outcome := by
  cases means with
  | unreachable reason => rfl
  | @unreadable text status notJson =>
    cases read : Json.parse text with
    | ok v => exact absurd read (notJson v)
    | error fault => rw [Link.readReply, read]; rfl
  | notAnObject read other => rw [readReply_body read, ok_bind, result_of_other other]
  | refused read found =>
    rw [readReply_body read, ok_bind, result_of_error found (by simp), remoteFailure_parts]
  | refusedBriefly read found present bare =>
    rw [readReply_body read, ok_bind, result_of_error found present, remoteFailure_bare bare]
  | answered read fine => rw [readReply_body read, ok_bind, result_of_fine fine]

/-- Every reply means something. -/
theorem exists_replyMeans (m : Method) (request : HttpRequest) (reply : Reply) :
    ∃ outcome, ReplyMeans m request reply outcome := by
  cases reply with
  | failure reason => exact ⟨_, .unreachable reason⟩
  | body text status =>
    cases read : Json.parse text with
    | error fault => exact ⟨_, .unreadable (by simp [read])⟩
    | ok v =>
      by_cases object : ∃ fields, v = .object fields
      · obtain ⟨fields, rfl⟩ := object
        by_cases fine : ∀ error ∈ fields.lookup "error", error = .null
        · exact ⟨_, .answered read fine⟩
        · push Not at fine
          obtain ⟨error, found, present⟩ := fine
          by_cases parts : ∃ parts, error = .object parts
          · obtain ⟨parts, rfl⟩ := parts
            exact ⟨_, .refused read found⟩
          · exact ⟨_, .refusedBriefly read found present (not_exists.mp parts)⟩
      · exact ⟨_, .notAnObject read (not_exists.mp object)⟩

/-- What is read in a reply is the one thing it means. -/
theorem replyMeans_iff :
    ReplyMeans m request reply outcome ↔ (Link.readReply request reply >>= m.result) = outcome := by
  refine ⟨readReply_eq_of_replyMeans, fun read => ?_⟩
  obtain ⟨outcome', means⟩ := exists_replyMeans m request reply
  exact read ▸ (readReply_eq_of_replyMeans means).symm ▸ means

theorem replyMeans_ok {result : Value} (means : ReplyMeans m request reply (.ok result)) :
    ∃ text status fields, reply = .body text status ∧ Json.parse text = .ok (.object fields) ∧
      (∀ error ∈ fields.lookup "error", error = .null) ∧
      result = (fields.lookup "result").getD .null := by
  cases means with
  | answered read fine => exact ⟨_, _, _, rfl, read, fine, rfl⟩

/-- An error counts before any result, and what is neither null nor an object is an error too. -/
example : m.result (.object [("result", .int 1), ("error", .bool false)]) =
    .error (.remote "False" .null .null) := rfl

end

/-! ## Calls -/

section

variable {client : Client} {m : Method} {values : List Value} {params : List (String × Value)}
  {link : Link}

/-- An argument that cannot be sent uses up the number of the call, and nothing else happens. -/
theorem send_unmade {failure : Failure}
    (unmade : Method.requestParams m.params values = .error failure) :
    client.send m values link = (.error failure, { link with nextId := link.nextId + 1 }) := by
  have unmade : m.request (.int link.nextId) values = .error failure := by
    rw [Method.request, unmade, error_bind]
  simp [Client.send, Link.takeId, Client.post, unmade]

theorem send_unwritten {failure : Failure}
    (made : Method.requestParams m.params values = .ok params)
    (unwritten : Json.write (envelope link.nextId m.name params) = .error failure) :
    client.send m values link = (.error failure, { link with nextId := link.nextId + 1 }) := by
  have request : m.request (.int link.nextId) values = .ok (envelope link.nextId m.name params) :=
    request_eq_ok.mpr ⟨params, made, rfl⟩
  simp [Client.send, Link.takeId, Client.post, request, unwritten]

/-- A request that has a text is posted, and the outcome is what the reply means. -/
theorem send_posted {body : String} (made : Method.requestParams m.params values = .ok params)
    (written : Json.write (envelope link.nextId m.name params) = .ok body) :
    ∃ outcome, ReplyMeans m ⟨"POST", client.endpoint, some body⟩
        (link.replies.headD Link.defaultReply) outcome ∧
      client.send m values link =
        (outcome, ⟨link.nextId + 1, link.replies.tail,
          link.sent ++ [⟨"POST", client.endpoint, some body⟩]⟩) := by
  have request : m.request (.int link.nextId) values = .ok (envelope link.nextId m.name params) :=
    request_eq_ok.mpr ⟨params, made, rfl⟩
  obtain ⟨outcome, means⟩ := exists_replyMeans m ⟨"POST", client.endpoint, some body⟩
    (link.replies.headD Link.defaultReply)
  refine ⟨outcome, means, ?_⟩
  simp only [Client.send, Link.takeId, Client.post, request, ok_bind, written, Link.post,
    Link.exchange, replyMeans_iff.mp means]

end

/-- Every call goes one of three ways. Its arguments do not match the parameters: nothing happens
but a failure to match. Or they match, but an argument cannot be sent or the request has no text:
that failure is all there is to see, and the call's number is used up. Or exactly one request is
posted, and the outcome is the one that the reply means. -/
theorem call_outcome (client : Client) (m : Method) (args : List Value)
    (named : List (String × Value)) (link : Link) :
    (∃ failure, (refuseReceiver named >>= fun _ => m.bind args named) = .error failure ∧
      failure.IsUnmatched m ∧ client.call m args named link = (.error failure, link)) ∨
    (∃ values failure, (refuseReceiver named >>= fun _ => m.bind args named) = .ok values ∧
      (Unsendable m.params values failure ∨
        ∃ params, Method.requestParams m.params values = .ok params ∧
          Json.write (envelope link.nextId m.name params) = .error failure) ∧
      client.call m args named link =
        (.error failure, { link with nextId := link.nextId + 1 })) ∨
    (∃ values params body outcome,
      (refuseReceiver named >>= fun _ => m.bind args named) = .ok values ∧
      Method.requestParams m.params values = .ok params ∧
      Json.write (envelope link.nextId m.name params) = .ok body ∧
      (∀ outcome', ReplyMeans m ⟨"POST", client.endpoint, some body⟩
        (link.replies.headD Link.defaultReply) outcome' ↔ outcome' = outcome) ∧
      client.call m args named link =
        (outcome, ⟨link.nextId + 1, link.replies.tail,
          link.sent ++ [⟨"POST", client.endpoint, some body⟩]⟩)) := by
  cases matched : (refuseReceiver named >>= fun _ => m.bind args named) with
  | error failure =>
    refine .inl ⟨failure, rfl, bind_isUnmatched matched, ?_⟩
    simp [Client.call, matched]
  | ok values =>
    right
    have call : client.call m args named link = client.send m values link := by
      simp [Client.call, matched]
    cases made : Method.requestParams m.params values with
    | error failure =>
      exact .inl ⟨values, failure, rfl, .inl (requestParams_eq_error.mp made),
        call.trans (send_unmade made)⟩
    | ok params =>
      cases written : Json.write (envelope link.nextId m.name params) with
      | error failure =>
        exact .inl ⟨values, failure, rfl, .inr ⟨params, made, written⟩,
          call.trans (send_unwritten made written)⟩
      | ok body =>
        obtain ⟨outcome, means, sent⟩ := @send_posted client _ _ _ link _ made written
        refine .inr ⟨values, params, body, outcome, rfl, made, written, fun outcome' => ?_,
          call.trans sent⟩
        rw [replyMeans_iff, replyMeans_iff.mp means, eq_comm]

end ServiceClient

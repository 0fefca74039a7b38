import ServiceClient.Explorer
import ServiceClient.Proofs.JsonReading
import ServiceClient.Proofs.SessionCalls

/-!
Call numbers over whole runs. Services in use share one link, and what is done with them comes in
any order: steps of their sessions, calls with plain values, requests to their explorers.
`Operation.invocation?` finds the call that an operation makes, and `perform_moves` says what it
does over the link. From this `call_numbers` gets, for every run, that the calls whose arguments
match take the numbers one after the other, and that nothing else takes any.
-/

namespace ServiceClient

/-! ## Numbers in requests -/

/-- What the text of a request starts with, up to its number. -/
def requestHead : List Char := "\x7b\"jsonrpc\": \"2.0\", \"id\": ".toList

/-- The number in the body of a request. -/
def HttpRequest.callId? (request : HttpRequest) : Option Int := do
  let body ← request.body
  guard (requestHead.isPrefixOf body.toList)
  match Json.readNumber (body.toList.drop requestHead.length) with
  | .ok (.int id, _) => some id
  | _ => none

/-- The text of a request: its head, its number, and more after a comma. -/
theorem write_envelope_front {id : Int} {name body : String} {params : List (String × Value)}
    (written : Json.write (envelope id name params) = .ok body) :
    ∃ digits rest, Json.writeInt id = .ok digits ∧
      body.toList = requestHead ++ (digits ++ ',' :: rest) := by
  obtain ⟨texts, entries, text⟩ := Json.writeAt_object_eq_ok.mp (Json.write_eq_ok.mp written)
  cases entries with | cons versionEntry entries =>
  cases entries with | cons idEntry entries =>
  cases entries with | @cons _ method _ texts _ entries =>
  obtain ⟨_, version, rfl⟩ := versionEntry
  obtain ⟨digits, number, rfl⟩ := idEntry
  obtain rfl := Except.ok.inj version
  refine ⟨digits, [' '] ++ [',', ' '].intercalate (method :: texts) ++ ['\x7d'], number, ?_⟩
  rw [← text]
  simp only [Json.enclose, Json.Layout.gap, Json.Layout.comma, List.intercalate_cons_cons,
    List.append_assoc, List.cons_append, List.nil_append]
  rfl

theorem callId?_posted {id : Int} {name body : String} {params : List (String × Value)}
    (written : Json.write (envelope id name params) = .ok body) (verb url : String) :
    HttpRequest.callId? ⟨verb, url, some body⟩ = some id := by
  obtain ⟨digits, rest, number, front⟩ := write_envelope_front written
  obtain ⟨rfl, short⟩ := Json.writeInt_eq_ok number
  have read : Json.readNumber ((integerText id).chars ++ ',' :: rest) =
      .ok (.int (signedInt (integerText id).negative (digitsValue (integerText id).whole)),
        ',' :: rest) :=
    Json.readNumber_whole (integerText_proper id) (by rintro c ⟨⟩; rfl) short
  rw [integerText_value] at read
  have head : requestHead.isPrefixOf body.toList = true := by
    rw [front]
    exact List.isPrefixOf_iff_prefix.mpr (List.prefix_append _ _)
  have passes : (guard (requestHead.isPrefixOf body.toList) : Option Unit) = some () := if_pos head
  dsimp only [HttpRequest.callId?, Option.bind_eq_bind, Option.bind_some]
  rw [passes, Option.bind_some, front, List.drop_left, read]

/-! ## One call -/

/-- Whether arguments match the parameters of a method. -/
def Method.accepts {α : Type} (m : Method) (args : List α) (named : List (String × α)) : Bool :=
  (refuseReceiver named >>= fun _ => m.assign args named).isOk

/-- A call that is made: its method, and whether its arguments match the parameters. -/
structure Invocation where
  method : Method
  accepted : Bool

/-- What a call does over a link. One whose arguments do not match does nothing; any other takes the
next number, and posts one request that has this number, or none. -/
inductive Invocation.Moves (link : Link) : Invocation → Link → Prop
  | refused {m : Method} : Moves link ⟨m, false⟩ link
  | unsent {m : Method} : Moves link ⟨m, true⟩ { link with nextId := link.nextId + 1 }
  | posted {m : Method} {endpoint body : String} {params : List (String × Value)}
      (written : Json.write (envelope link.nextId m.name params) = .ok body) :
      Moves link ⟨m, true⟩
        ⟨link.nextId + 1, link.replies.tail, link.sent ++ [⟨"POST", endpoint, some body⟩]⟩

/-- What may happen over a link: the call found moves it, and without one it stays. -/
def MovesOrStays (link : Link) (invocation? : Option Invocation) (link' : Link) : Prop :=
  match invocation? with
  | some invocation => invocation.Moves link link'
  | none => link' = link

theorem accepts_eq {α β : Type} {m : Method} {args : List α} {named : List (String × α)}
    {finish : List (Option α) → β} {matched : Except Failure β}
    (same : (do refuseReceiver named; return finish (← m.assign args named)) = matched) :
    m.accepts args named = matched.isOk := by
  subst same
  unfold Method.accepts
  cases refuseReceiver named with
  | error failure => rfl
  | ok leave => cases m.assign args named <;> rfl

theorem call_moves (client : Client) (m : Method) (args : List Value)
    (named : List (String × Value)) (link : Link) :
    Invocation.Moves link ⟨m, m.accepts args named⟩ (client.call m args named link).2 := by
  unfold Client.call
  cases matched : (do refuseReceiver named; m.bind args named) with
  | error failure =>
    rw [accepts_eq matched]
    exact .refused
  | ok values =>
    rw [accepts_eq matched]
    simp only [Client.send, Link.takeId]
    cases written : m.request (.int link.nextId) values >>= Json.write with
    | error failure => exact .unsent
    | ok body =>
      obtain ⟨request, requested, written⟩ := bind_eq_ok.mp written
      obtain ⟨params, -, rfl⟩ := request_eq_ok.mp requested
      exact .posted written

namespace Act

theorem run_takeId (s : Session) :
    takeId.run s = (.ok s.link.nextId, { s with link := s.link.takeId.2 }) := rfl

/-- A call with the things of a session does over its link what a call with plain values does. -/
theorem call_moves (m : Method) (args : List Item) (named : List (String × Item)) (s : Session) :
    Invocation.Moves s.link ⟨m, m.accepts args named⟩ ((call m args named).run s).2.link := by
  have matched : call m args named =
      (ofExcept (do refuseReceiver named; m.bindItems args named) >>= fun items => do
        let id ← takeId
        let body ← inWorld do itemJson invoke (← m.requestItem (.int id) items)
        post m body) := by
    unfold call
    cases refuseReceiver named <;> rfl
  rw [matched, run_bind, run_ofExcept]
  cases matched : (do refuseReceiver named; m.bindItems args named) with
  | error failure =>
    rw [accepts_eq matched]
    exact .refused
  | ok items =>
    rw [accepts_eq matched]
    simp only [run_bind takeId, run_takeId]
    rw [run_bind, run_inWorld]
    cases made : (m.requestItem (.int s.link.nextId) items >>= itemJson invoke).run s.world with
    | mk result world =>
      cases result with
      | error failure => exact .unsent
      | ok body =>
        obtain ⟨params, written⟩ := itemJson_request made
        simp only [post, run_bind, run_get, run_set, run_ofExcept]
        exact .posted written

end Act

/-- The call that a step of a session makes. -/
def Session.invocation? (s : Session) (step : Step) : Option Invocation :=
  match ((Act.prepare step).run s).1 with
  | .ok (some c) => some ⟨c.method, c.method.accepts c.args c.named⟩
  | _ => none

theorem Session.run_moves (s : Session) (step : Step) :
    MovesOrStays s.link (s.invocation? step) (s.run step).2.link := by
  have follows := Act.prepares_answer step s
  unfold invocation? run
  cases prepared : (Act.prepare step).run s with
  | mk result s' =>
    rw [prepared] at follows
    cases result with
    | error failure => exact follows.2
    | ok call? =>
      cases call? with
      | none => exact follows.2
      | some c =>
        obtain ⟨same, after⟩ := follows
        have moves := Act.call_moves c.method c.args c.named s'
        rw [same, ← after] at moves
        exact moves

/-! ## Requests to an explorer -/

/-- The call that a submission makes, unless its arguments cannot be read. -/
def Submission.invocation? (s : Submission) : Option Invocation :=
  match s.args with
  | .ok args => some ⟨s.method, s.method.accepts args []⟩
  | .error _ => none

theorem submission_moves (client : Client) (s : Submission) (link : Link) :
    MovesOrStays link s.invocation? (s.run client link).2 := by
  unfold Submission.invocation? Submission.run
  cases s.args with
  | error failure => exact rfl
  | ok args => exact call_moves client s.method args [] link

namespace Explorer

/-- The submission that a request makes where it arrives: of the form of a method there is. -/
def submissionAt? (e : Explorer) (place : Place) (taken : List String) (form : Submitted) :
    Option Submission :=
  match place, taken with
  | .call, [name] => (e.client.method? name).map fun m => ⟨m, (e.callForm m form).2⟩
  | _, _ => none

/-- The submission that a request to an explorer makes. -/
def submission? (e : Explorer) (request : Explorer.Request) : Option Submission :=
  match requestPath request.address.toList with
  | .error _ => none
  | .ok path =>
    match Route.arrive e.routes request.verb path with
    | .at route taken => e.submissionAt? route.place taken request.form
    | _ => none

theorem respondAt_moves (e : Explorer) (place : Place) (taken : List String)
    (request : Explorer.Request) (link : Link) :
    MovesOrStays link ((e.submissionAt? place taken request.form).bind Submission.invocation?)
      (e.respondAt place taken request link).2 := by
  unfold submissionAt? respondAt
  split
  · rename_i name
    simp only [submit]
    cases e.client.method? name with
    | none => exact rfl
    | some m =>
      -- Whatever page is shown, the link is the one after the call.
      have moved := submission_moves e.client ⟨m, (e.callForm m request.form).2⟩ link
      dsimp only [Option.map_some, Option.bind_some]
      split
      · exact moved
      · split <;> exact moved
  · rename_i elsewhere
    split
    · exact rfl
    · exact rfl
    · exact (elsewhere _ rfl rfl).elim
    · exact rfl

/-- The link after a request to an explorer. One to what is no address does nothing. -/
def linkAfter (e : Explorer) (request : Explorer.Request) (link : Link) : Link :=
  match e.respond request link with
  | .ok (_, link) => link
  | .error _ => link

theorem respond_moves (e : Explorer) (request : Explorer.Request) (link : Link) :
    MovesOrStays link ((e.submission? request).bind Submission.invocation?)
      (e.linkAfter request link) := by
  unfold submission? linkAfter respond
  cases requestPath request.address.toList with
  | error cause => exact rfl
  | ok path =>
    dsimp only
    cases Route.arrive e.routes request.verb path with
    | «at» route taken => exact e.respondAt_moves route.place taken request link
    | redirected | wrongVerb | nowhere | unclear => exact rfl

end Explorer

/-! ## Runs -/

/-- Services in use: their sessions, and the link they all share. -/
structure Services where
  sessions : List Session
  link : Link

/-- Something done with services: a step of a session, a call with plain values, or a request to an
explorer. -/
inductive Operation
  | step (session : Nat) (step : Step)
  | call (client : Client) (m : Method) (args : List Value) (named : List (String × Value))
  | visit (explorer : Explorer) (request : Explorer.Request)

namespace Services

/-- A session of the services, over the link they share. -/
def session? (services : Services) (i : Nat) : Option Session :=
  services.sessions[i]?.map fun s => { s with link := services.link }

/-- The services after a step of one of their sessions. -/
def keep (services : Services) (i : Nat) (s : Session) : Services where
  sessions := services.sessions.set i s
  link := s.link

end Services

namespace Operation

def perform : Operation → Services → Services
  | step i taken, services =>
    match services.session? i with
    | some s => services.keep i (s.run taken).2
    | none => services
  | call client m args named, services =>
    { services with link := (client.call m args named services.link).2 }
  | visit explorer request, services =>
    { services with link := explorer.linkAfter request services.link }

/-- The call that an operation makes. -/
def invocation? : Operation → Services → Option Invocation
  | step i taken, services => (services.session? i).bind fun s => s.invocation? taken
  | call _ m args named, _ => some ⟨m, m.accepts args named⟩
  | visit explorer request, _ => (explorer.submission? request).bind Submission.invocation?

/-- An operation does over the link what its call does, and nothing if it makes none. -/
theorem perform_moves (operation : Operation) (services : Services) :
    MovesOrStays services.link (operation.invocation? services)
      (operation.perform services).link := by
  cases operation with
  | step i taken =>
    simp only [invocation?, perform]
    cases found : services.session? i with
    | none => exact rfl
    | some s =>
      have same : s.link = services.link := by
        obtain ⟨before, -, rfl⟩ := Option.map_eq_some_iff.mp found
        rfl
      exact same ▸ s.run_moves taken
  | call client m args named => exact call_moves client m args named services.link
  | visit explorer request => exact explorer.respond_moves request services.link

end Operation

/-- A call that took a number, with what it sent. -/
structure NumberedCall where
  method : Method
  id : Int
  sent : List HttpRequest

/-- A call posts at most one request, and this one has its number and its method. -/
inductive NumberedCall.PostsOnce : NumberedCall → Prop
  | unsent {m : Method} {id : Int} : PostsOnce ⟨m, id, []⟩
  | posted {m : Method} {id : Int} {endpoint body : String} {params : List (String × Value)}
      (written : Json.write (envelope id m.name params) = .ok body) :
      PostsOnce ⟨m, id, [⟨"POST", endpoint, some body⟩]⟩

/-- Calls that took one number after the other, from the first one on. -/
inductive Consecutive : Int → List NumberedCall → Prop
  | nil {first : Int} : Consecutive first []
  | cons {call : NumberedCall} {calls : List NumberedCall} (posts : call.PostsOnce)
      (rest : Consecutive (call.id + 1) calls) : Consecutive call.id (call :: calls)

namespace Consecutive

variable {first : Int} {calls : List NumberedCall}

theorem id_eq (consecutive : Consecutive first calls) {i : Nat} {call : NumberedCall}
    (here : calls[i]? = some call) : call.id = first + i := by
  induction consecutive generalizing i with
  | nil => simp at here
  | cons posts rest ih =>
    cases i with
    | zero =>
      obtain rfl := Option.some.inj here
      simp
    | succ i =>
      rw [ih here]
      omega

theorem postsOnce (consecutive : Consecutive first calls) : ∀ call ∈ calls, call.PostsOnce := by
  induction consecutive with
  | nil => simp
  | cons posts rest ih => exact List.forall_mem_cons.mpr ⟨posts, ih⟩

/-- The numbers in what consecutive calls sent increase. -/
theorem callIds_increase (consecutive : Consecutive first calls) :
    ∃ ids : List Int, (calls.flatMap (·.sent)).map HttpRequest.callId? = ids.map some ∧
      (∀ id ∈ ids, first ≤ id) ∧ ids.Pairwise (· < ·) := by
  induction consecutive with
  | nil => exact ⟨[], rfl, by simp, .nil⟩
  | @cons call calls posts rest ih =>
    obtain ⟨ids, same, above, increase⟩ := ih
    have later : ∀ id ∈ ids, call.id < id := fun id inside => Int.lt_of_add_one_le (above id inside)
    cases posts with
    | unsent => exact ⟨ids, same, fun id inside => Int.le_of_lt (later id inside), increase⟩
    | @posted m id endpoint body params written =>
      refine ⟨id :: ids, ?_, ?_, .cons later increase⟩
      · simp [callId?_posted written, same]
      · exact List.forall_mem_cons.mpr
          ⟨Int.le_refl id, fun id inside => Int.le_of_lt (later id inside)⟩

end Consecutive

namespace Operation

/-- The call of an operation if its arguments match. It has the number that was next, and it sent
what was sent over the link. -/
def numberedCall? (operation : Operation) (services : Services) : Option NumberedCall :=
  match operation.invocation? services with
  | some ⟨m, true⟩ =>
    some {
      method := m
      id := services.link.nextId
      sent := (operation.perform services).link.sent.drop services.link.sent.length }
  | _ => none

section

variable {operation : Operation} {services : Services}

theorem perform_unmatched
    (unmatched : ∀ m, operation.invocation? services ≠ some ⟨m, true⟩) :
    operation.numberedCall? services = none ∧
      (operation.perform services).link = services.link := by
  have moves := operation.perform_moves services
  unfold numberedCall?
  generalize (operation.perform services).link = after at moves
  cases found : operation.invocation? services with
  | none =>
    rw [found] at moves
    exact ⟨rfl, moves⟩
  | some invocation =>
    rw [found] at moves
    cases moves with
    | refused => exact ⟨rfl, rfl⟩
    | unsent | posted => exact absurd found (unmatched _)

theorem perform_matched {m : Method} (matched : operation.invocation? services = some ⟨m, true⟩) :
    ∃ call, operation.numberedCall? services = some call ∧ call.PostsOnce ∧
      call.id = services.link.nextId ∧
      (operation.perform services).link.nextId = services.link.nextId + 1 ∧
      (operation.perform services).link.sent = services.link.sent ++ call.sent := by
  have moves := operation.perform_moves services
  unfold numberedCall?
  generalize (operation.perform services).link = after at moves
  rw [matched] at moves ⊢
  cases moves with
  | unsent => exact ⟨_, rfl, by simpa using .unsent, rfl, rfl, by simp⟩
  | posted written => exact ⟨_, rfl, by simpa using .posted written, rfl, rfl, by simp⟩

end

end Operation

namespace Services

open Operation

/-- Does some operations one after the other, and lists the calls among them that took a number. -/
def run : Services → List Operation → Services × List NumberedCall
  | services, [] => (services, [])
  | services, operation :: operations =>
    let (final, calls) := (operation.perform services).run operations
    (final, (operation.numberedCall? services).toList ++ calls)

theorem run_consecutive (services : Services) (operations : List Operation) :
    Consecutive services.link.nextId (services.run operations).2 ∧
      (services.run operations).1.link.nextId =
        services.link.nextId + (services.run operations).2.length ∧
      (services.run operations).1.link.sent =
        services.link.sent ++ (services.run operations).2.flatMap (·.sent) := by
  induction operations generalizing services with
  | nil => exact ⟨.nil, by simp [run], by simp [run]⟩
  | cons operation operations ih =>
    obtain ⟨consecutive, next, sent⟩ := ih (operation.perform services)
    rw [run]
    by_cases matched : ∃ m, operation.invocation? services = some ⟨m, true⟩
    · obtain ⟨m, matched⟩ := matched
      obtain ⟨call, found, posts, id, taken, grown⟩ := perform_matched matched
      rw [taken] at consecutive next
      rw [grown] at sent
      rw [found]
      simp only [Option.toList_some, List.singleton_append, List.length_cons, List.flatMap_cons]
      refine ⟨id ▸ .cons posts (id ▸ consecutive), ?_, sent.trans (List.append_assoc ..)⟩
      rw [next]
      omega
    · obtain ⟨none, same⟩ := perform_unmatched (not_exists.mp matched)
      rw [same] at consecutive next sent
      rw [none]
      exact ⟨consecutive, next, sent⟩

end Services

/-- In every run over one link, the call numbers go up by one for each call whose arguments match,
and the calls have them in their order, whether they then are sent or not. Each posts at most one
request, with its own number in it; nothing else is sent; and the numbers in what was sent strictly
increase. Whatever makes no call with matching arguments leaves the link as it is. -/
theorem call_numbers (services : Services) (operations : List Operation) :
    let final := (services.run operations).1
    let calls := (services.run operations).2
    final.link.nextId = services.link.nextId + calls.length ∧
      (∀ (i : Nat) (call : NumberedCall), calls[i]? = some call →
        call.id = services.link.nextId + i) ∧
      (∀ call ∈ calls, call.PostsOnce) ∧
      final.link.sent = services.link.sent ++ calls.flatMap (·.sent) ∧
      (∃ ids : List Int, (calls.flatMap (·.sent)).map HttpRequest.callId? = ids.map some ∧
        ids.Pairwise (· < ·)) ∧
      ∀ (operation : Operation) (now : Services),
        (∀ m, operation.invocation? now ≠ some ⟨m, true⟩) →
          operation.numberedCall? now = none ∧ (operation.perform now).link = now.link := by
  obtain ⟨consecutive, next, sent⟩ := services.run_consecutive operations
  obtain ⟨ids, same, -, increase⟩ := consecutive.callIds_increase
  exact ⟨next, fun i call here => consecutive.id_eq here, consecutive.postsOnce, sent,
    ⟨ids, same, increase⟩, fun operation now unmatched => Operation.perform_unmatched unmatched⟩

end ServiceClient

import ServiceClient.CommandLine.Run
import ServiceClient.Proofs.ReadValues
import ServiceClient.Proofs.Serializing

/-!
Calls from the command line. Whatever the arguments are, a call either fails before its request is
posted, with a message, or it posts one request and the reply decides (`callMethod_cases`). What is
printed of a result is read as the result again, and no failure escapes (`run_call`).
-/

namespace ServiceClient

/-! ## Printing -/

theorem dropSequences_cons {c : Char} (other : c ≠ '\x1b') (cs : List Char) :
    dropSequences (c :: cs) = c :: dropSequences cs := by
  have noSequence : afterSequence? (c :: cs) = none := by
    unfold afterSequence?
    split
    · rename_i same
      exact absurd (List.cons.inj same).1 other
    · rfl
  rw [dropSequences]
  split
  · rename_i found
    rw [noSequence] at found
    cases found
  · rfl

theorem joinLineBreaks_cons {c : Char} (other : c ≠ '\r') (cs : List Char) :
    joinLineBreaks (c :: cs) = c :: joinLineBreaks cs := by
  rw [joinLineBreaks]
  rintro - rfl
  exact absurd rfl other

/-- JSON text arrives as it is, whatever is printed behind it. -/
theorem outputText_append {text : List Char} (written : ∀ c ∈ text, Json.isWritten c = true)
    (rest : String) :
    outputText (String.ofList text ++ rest) = String.ofList text ++ outputText rest := by
  have kept (cs : List Char) : joinLineBreaks (dropSequences (text ++ cs)) =
      text ++ joinLineBreaks (dropSequences cs) := by
    induction text with
    | nil => rfl
    | cons c text ih =>
      obtain ⟨here, later⟩ := List.forall_mem_cons.mp written
      have noEscape : c ≠ '\x1b' := by
        rintro rfl
        cases here
      have noReturn : c ≠ '\r' := by
        rintro rfl
        cases here
      rw [List.cons_append, dropSequences_cons noEscape, joinLineBreaks_cons noReturn, ih later,
        List.cons_append]
  rw [outputText, String.toList_append, String.toList_ofList, kept, String.ofList_append,
    outputText]

namespace CommandLine

open Client (defaultBase descriptionFile)

/-! ## Lines -/

/-- The line that calls a method with arguments, all of it but the option behind a `--`. -/
def callLine (endpoint : Option String) (base method : String) (args : List String) : List String :=
  "call" :: (endpoint.elim [] fun path => ["--path", path]) ++ "--" :: base :: method :: args

theorem parse_callLine (endpoint : Option String) (base method : String) (args : List String) :
    parse (callLine endpoint base method args) = some (.call base method args endpoint) := by
  cases endpoint <;> rfl

/-! ## Failures -/

/-- Whether a failure is about the exchange, or what the server says. -/
def isReplied : Failure → Bool
  | .exchange _ | .remote .. => true
  | _ => false

theorem exists_report_of_isTypeError {failure : Failure} (typeError : failure.isTypeError = true) :
    ∃ message, ofFailure failure = .reported message := by
  cases failure with
  | mismatch subject cause => exact ⟨_, rfl⟩
  | binding receiver cause => exact ⟨_, rfl⟩
  | misuse cause => cases cause <;> first | exact ⟨_, rfl⟩ | cases typeError
  | description | exchange | remote => cases typeError

theorem readArguments_eq_ok {texts : List String} {values : List Value} :
    readArguments texts = .ok values ↔
      List.Forall₂ (fun text v => Json.parse text = .ok v) texts values := by
  induction texts generalizing values with
  | nil => simp [readArguments, eq_comm]
  | cons text texts ih =>
    rw [readArguments, List.forall₂_cons_left_iff]
    cases read : Json.parse text with
    | error fault => simp
    | ok v =>
      simp only [bind_eq_ok, pure_eq_ok, ih, Except.ok.injEq]
      constructor
      · rintro ⟨vs, others, rfl⟩
        exact ⟨v, vs, rfl, others, rfl⟩
      · rintro ⟨_, vs, rfl, others, rfl⟩
        exact ⟨vs, others, rfl⟩

theorem convertArguments_error {types : List RecordType} {params : List Parameter}
    {values : List Value} {failure : Failure}
    (failed : convertArguments types params values = .error failure) :
    failure.isUnknownField = true := by
  induction params generalizing values with
  | nil => cases failed
  | cons p params ih =>
    cases values with
    | nil => cases failed
    | cons v values =>
      rcases bind_eq_error.mp failed with here | ⟨_, -, failed⟩
      · exact ofWire_error v here
      · rcases bind_eq_error.mp failed with later | ⟨_, -, done⟩
        · exact ih later
        · cases done

theorem convertArguments_everywhere {test : Value → Bool} (passed : PassedByMaking test)
    {types : List RecordType} {params : List Parameter} {values converted : List Value}
    (done : convertArguments types params values = .ok converted)
    (every : ∀ v ∈ values, v.everywhere test = true) :
    ∀ v ∈ converted, v.everywhere test = true := by
  induction params generalizing values converted with
  | nil =>
    obtain rfl := Except.ok.inj done
    exact every
  | cons p params ih =>
    cases values with
    | nil =>
      obtain rfl := Except.ok.inj done
      exact every
    | cons v values =>
      obtain ⟨here, later⟩ := List.forall_mem_cons.mp every
      obtain ⟨read, isRead, done⟩ := bind_eq_ok.mp done
      obtain ⟨rest, others, same⟩ := bind_eq_ok.mp done
      obtain rfl := pure_eq_ok.mp same
      exact List.forall_mem_cons.mpr ⟨ofWire_everywhere passed v here isRead, ih others later⟩

theorem readArguments_isSubmittable {texts : List String} {values : List Value}
    (read : readArguments texts = .ok values) :
    ∀ v ∈ values, v.everywhere Value.isSubmittable = true := by
  intro v member
  obtain ⟨text, -, read⟩ := forall₂_mem_right (readArguments_eq_ok.mp read) member
  exact Value.everywhere_imp isSubmittable_of_isWritable v (Json.parse_isWritable read)

/-! ## Calls -/

section

variable {client : Client} {link : Link}

/-- How a run ends after its call. -/
def ending (outcome : Except Failure Value) : Outcome :=
  match outcome >>= Json.writeIndented with
  | .ok text => .done (text ++ "\n")
  | .error failure => ofFailure failure

/-- Arguments that are read and made records of where they have to be are those of the call. -/
theorem callMethod_eq {method : String} {m : Method} {args : List String}
    {given values : List Value} (found : client.method? method = some m)
    (read : readArguments args = .ok given)
    (converted : convertArguments client.types m.params given = .ok values) :
    callMethod client method args link =
      (ending (client.call m values [] link).1, (client.call m values [] link).2) := by
  cases text : (client.call m values [] link).1 >>= Json.writeIndented <;>
    simp only [callMethod, found, read, converted, ending, text]

/-- A call with values that can be sent fails with a message before anything is posted, or its
request is posted and the reply decides. -/
theorem call_ends {m : Method} {values : List Value}
    (submittable : ∀ v ∈ values, v.everywhere Value.isSubmittable = true)
    (short : Json.isShort (.int link.nextId) = true) :
    let called := client.call m values [] link
    (called.2.sent = link.sent ∧ ∃ message, ending called.1 = .reported message) ∨
    ∃ body, called.2.sent = link.sent ++ [⟨"POST", client.endpoint, some body⟩] ∧
      ReplyMeans m ⟨"POST", client.endpoint, some body⟩ (link.replies.headD Link.defaultReply)
        called.1 := by
  intro called
  cases bound : m.bind values [] with
  | error failure =>
    have refused : called = (.error failure, link) := by
      simp [called, Client.call, refuseReceiver, bound]
    obtain receiver | ⟨cause, rfl⟩ :=
      @bind_isUnmatched m values [] failure (by simpa [refuseReceiver] using bound)
    · exact .inl ⟨by rw [refused], _, by rw [refused, receiver]; rfl⟩
    · exact .inl ⟨by rw [refused], _, by rw [refused]; rfl⟩
  | ok arguments =>
    have sendable : ∀ v ∈ arguments, v.everywhere Value.isSubmittable = true ∨ v = .absent := by
      intro v member
      rcases bind_mem bound member with absent | given | ⟨key, named⟩
      · exact .inr absent
      · exact .inl (submittable v given)
      · cases named
    have sends : called = client.send m arguments link := call_eq_send bound link
    cases made : Method.requestParams m.params arguments with
    | error failure =>
      have mismatch := unsendable_isMismatch (requestParams_eq_error.mp made)
      obtain ⟨message, reported⟩ :=
        exists_report_of_isTypeError (isTypeError_iff.mpr (.inr mismatch))
      rw [sends, send_unmade made]
      exact .inl ⟨rfl, message, reported⟩
    | ok params =>
      obtain ⟨body, written⟩ := @write_envelope link.nextId m.name params short
        (requestParams_isWritable sendable made)
      obtain ⟨outcome, means, posted⟩ := @send_posted client _ _ _ link _ made written
      rw [sends, posted]
      exact .inr ⟨body, rfl, means⟩

/-- A call from the command line fails with a message before anything is posted, or one request is
posted and the run ends as the reply says. -/
theorem callMethod_cases (method : String) (args : List String)
    (short : Json.isShort (.int link.nextId) = true) :
    let ran := callMethod client method args link
    (ran.2.sent = link.sent ∧ ∃ message, ran.1 = .reported message) ∨
    ∃ m body outcome, ran.2.sent = link.sent ++ [⟨"POST", client.endpoint, some body⟩] ∧
      ReplyMeans m ⟨"POST", client.endpoint, some body⟩ (link.replies.headD Link.defaultReply)
        outcome ∧
      ran.1 = ending outcome := by
  intro ran
  cases found : client.method? method with
  | none =>
    have unknown : ran = (.reported ("Unknown method: " ++ method), link) := by
      simp only [ran, callMethod, found]
    exact .inl ⟨by rw [unknown], _, by rw [unknown]⟩
  | some m =>
    cases read : readArguments args with
    | error message =>
      have unread : ran = (.reported message, link) := by simp only [ran, callMethod, found, read]
      exact .inl ⟨by rw [unread], _, by rw [unread]⟩
    | ok given =>
      cases converted : convertArguments client.types m.params given with
      | error failure =>
        have refused : ran = (ofFailure failure, link) := by
          simp only [ran, callMethod, found, read, converted]
        have unknownField := convertArguments_error converted
        rw [refused]
        exact .inl ⟨rfl, exists_report_of_isTypeError (isTypeError_iff.mpr (.inl unknownField))⟩
      | ok values =>
        have called : ran = _ := callMethod_eq found read converted
        have submittable :=
          convertArguments_everywhere isSubmittable_passed converted
            (readArguments_isSubmittable read)
        rw [called]
        rcases @call_ends client link m values submittable short with
          ⟨unsent, failed⟩ | ⟨body, sent, means⟩
        · exact .inl ⟨unsent, failed⟩
        · exact .inr ⟨m, body, _, sent, means, rfl⟩

/-- What is printed of a value from a reply is read as the value. -/
theorem ending_ok {text : String} {fields : List (String × Value)}
    (read : Json.parse text = .ok (.object fields)) (key : String) :
    ∃ output, ending (.ok ((fields.lookup key).getD .null)) = .done output ∧
      Json.parse (Outcome.done output).output = .ok ((fields.lookup key).getD .null) := by
  have plain : ((fields.lookup key).getD .null).isPlain = true :=
    Value.lookup_everywhere (Json.parse_isPlain read) rfl key
  have back := Value.lookup_everywhere (Json.parse_readsBack read) rfl key
  have writable := Value.lookup_everywhere (Json.parse_isWritable read) rfl key
  generalize (fields.lookup key).getD .null = v at plain back writable ⊢
  obtain ⟨json, short⟩ := (Value.everywhere_and v).mp writable
  obtain ⟨chars, written⟩ : ∃ chars, Json.writeAt (.indented 2) 0 v = .ok chars :=
    Json.exists_writeAt v json short 0
  have text : Json.writeIndented v = .ok (String.ofList chars) :=
    Json.writeIndented_eq_ok.mpr (by rw [String.toList_ofList, written])
  refine ⟨String.ofList chars ++ "\n", by rw [ending, ok_bind, text], ?_⟩
  have lineBreak : outputText "\n" = "\n" := by
    have nothing : dropSequences [] = [] := by
      rw [dropSequences]
      rfl
    simp [outputText, dropSequences_cons, nothing, joinLineBreaks]
  rw [Outcome.output, outputText_append (Json.writeAt_isWritten v written), lineBreak]
  exact Json.parse_writeIndented plain back text

theorem ending_error {m : Method} {request : HttpRequest} {reply : Reply} {failure : Failure}
    (means : ReplyMeans m request reply (.error failure)) :
    isReplied failure = true ∧
      ∃ message, failure.message? = some message ∧ ending (.error failure) = .reported message := by
  cases means <;> exact ⟨rfl, _, rfl, rfl⟩

theorem output_reported (message : String) :
    (Outcome.reported message).output = "Error: " ++ outputText (message ++ "\n") := by
  have written : ∀ c ∈ "Error: ".toList, Json.isWritten c = true := List.all_eq_true.mp (by decide)
  have front := outputText_append written (message ++ "\n")
  rwa [String.ofList_toList, ← String.append_assoc] at front

/-- A line that calls a method calls it once the service is loaded. -/
theorem run_callLine {base method : String} {endpoint : Option String} {args : List String}
    {loaded : Link} (load : Client.load base endpoint link = (.ok client, loaded)) :
    run (callLine endpoint base method args) link = callMethod client method args loaded := by
  simp only [run, parse_callLine, Command.run, withClient, load]

theorem load_nextId {base : String} {endpoint : Option String} {loaded : Link}
    (load : Client.load base endpoint link = (.ok client, loaded)) :
    loaded.nextId = link.nextId := by
  rw [← (Prod.mk.inj load).2]

/-- A call from the command line ends in one of two ways. With exit code 0 exactly one request was
posted, its reply has no error, and the output is read as the result in it. With exit code 1 there
is a message, and nothing was posted unless the message is the server's or about the exchange. -/
theorem run_call {base method : String} {endpoint : Option String} {args : List String}
    {link loaded : Link} {client : Client}
    (load : Client.load base endpoint link = (.ok client, loaded))
    (short : Json.isShort (.int link.nextId) = true) :
    let ran := run (callLine endpoint base method args) link
    let reply := loaded.replies.headD Link.defaultReply
    let request (body : String) : HttpRequest := ⟨"POST", client.endpoint, some body⟩
    (ran.1.exitCode = 0 ∧ ∃ body text status fields,
      ran.2.sent = loaded.sent ++ [request body] ∧ reply = .body text status ∧
        Json.parse text = .ok (.object fields) ∧
        (∀ error ∈ fields.lookup "error", error = .null) ∧
        Json.parse ran.1.output = .ok ((fields.lookup "result").getD .null)) ∨
    (ran.1.exitCode = 1 ∧ ∃ message, ran.1 = .reported message ∧
      ran.1.output = "Error: " ++ outputText (message ++ "\n") ∧
        (ran.2.sent = loaded.sent ∨ ∃ m body failure,
          ran.2.sent = loaded.sent ++ [request body] ∧
            ReplyMeans m (request body) reply (.error failure) ∧
            isReplied failure = true ∧ failure.message? = some message)) := by
  intro ran reply request
  have called : ran = callMethod client method args loaded := run_callLine load
  rcases @callMethod_cases client loaded method args (load_nextId load ▸ short) with
    ⟨unsent, message, failed⟩ | ⟨m, body, outcome, sent, means, ended⟩
  · rw [← called] at unsent failed
    refine .inr ⟨by rw [failed]; rfl, message, failed, ?_, .inl unsent⟩
    rw [failed, output_reported]
  · rw [← called] at sent ended
    cases outcome with
    | error failure =>
      obtain ⟨replied, message, worded, reported⟩ := ending_error means
      rw [reported] at ended
      refine .inr ⟨by rw [ended]; rfl, message, ended, ?_,
        .inr ⟨m, body, failure, sent, means, replied, worded⟩⟩
      rw [ended, output_reported]
    | ok result =>
      obtain ⟨text, status, fields, replied, read, fine, rfl⟩ := replyMeans_ok means
      obtain ⟨output, done, printed⟩ := ending_ok read "result"
      rw [done] at ended
      exact .inl ⟨by rw [ended]; rfl, body, text, status, fields, sent, replied, read, fine,
        by rw [ended, printed]⟩

/-! ## A service with one method -/

/-- A description with a method that takes a number. -/
def levelDescription : Value := .object [
  ("methods", .object [("level", .object [("params", .object [
    ("value", .object [("type", .string "number"), ("def_order", .int 1)])])])])]

def levelText : String :=
  "\x7b\"methods\": \x7b\"level\": \x7b\"params\": " ++
    "\x7b\"value\": \x7b\"type\": \"number\", \"def_order\": 1\x7d\x7d\x7d\x7d\x7d"

def levelMethod : Method where
  name := "level"
  params := [{ name := "value", type := .primitive .number, optional := false, docs := [] }]
  returns := none
  docs := []
  returnDocs := []
  docSource := .list []
  returnDocSource := .list []

def levelClient : Client where
  serviceName := .string ""
  endpoint := defaultBase
  types := []
  methods := [("level", .leaf levelMethod)]

/-- A description in the first reply is loaded from the default address. -/
theorem load_start {text : String} {description : Value} {client : Client}
    (read : Json.parse text = .ok description)
    (built : Client.build description defaultBase = .ok client) (replies : List Reply) :
    Client.load "" none (.start 0 (.body text 200 :: replies)) =
      (.ok client, ⟨0, replies, [⟨"GET", defaultBase ++ descriptionFile, none⟩]⟩) := by
  simp only [Client.load, Link.get, Link.exchange, Link.start, List.headD_cons, Link.readReply,
    read, ok_bind]
  exact congrArg₂ Prod.mk built rfl

theorem parse_levelText : Json.parse levelText = .ok levelDescription := by
  have written : Json.write levelDescription = .ok levelText := by with_unfolding_all rfl
  exact Json.parse_write (by decide) (by decide) written

theorem build_level : Client.build levelDescription defaultBase = .ok levelClient := by
  with_unfolding_all rfl

/-- The level is set, and what is printed is the result in the reply. -/
theorem run_call_level :
    let ran := run (callLine none "" "level" ["7"])
      (.start 0 [.body levelText 200, .body "\x7b\"result\": [1]\x7d" 200])
    ran.1.exitCode = 0 ∧ Json.parse ran.1.output = .ok (.list [.int 1]) := by
  intro ran
  let answer : Value := .object [("result", .list [.int 1])]
  have written : Json.write answer = .ok "\x7b\"result\": [1]\x7d" := by with_unfolding_all rfl
  have answered : Json.parse "\x7b\"result\": [1]\x7d" = .ok answer :=
    Json.parse_write (by decide) (by decide) written
  have load := load_start parse_levelText build_level [.body "\x7b\"result\": [1]\x7d" 200]
  rcases @run_call "" "level" none ["7"] _ _ _ load (by decide) with
    ⟨done, -, text, status, fields, -, replied, read, -, printed⟩ | ⟨-, message, failed, -⟩
  · obtain ⟨rfl, -⟩ := Reply.body.inj replied
    rw [answered] at read
    obtain rfl : _ = fields := Value.object.inj (Except.ok.inj read)
    exact ⟨done, printed⟩
  · have seven : Json.write (.int 7) = .ok "7" := by with_unfolding_all rfl
    have given : readArguments ["7"] = .ok [.int 7] := by
      rw [readArguments, Json.parse_write (by decide) (by decide) seven]
      rfl
    have made : Method.requestParams levelMethod.params [.int 7] = .ok [("value", .int 7)] := rfl
    obtain ⟨body, posted⟩ : ∃ body,
        Json.write (envelope 0 "level" [("value", .int 7)]) = .ok body :=
      ⟨_, by with_unfolding_all rfl⟩
    let loaded : Link := ⟨0, [.body "\x7b\"result\": [1]\x7d" 200],
      [⟨"GET", defaultBase ++ descriptionFile, none⟩]⟩
    obtain ⟨outcome, means, sent⟩ := @send_posted levelClient _ _ _ loaded _ made posted
    have fine : outcome = .ok (.list [.int 1]) := by
      rw [← replyMeans_iff.mp means, List.headD_cons, readReply_body answered]
      rfl
    have ended : ran.1 = ending outcome := by
      rw [show ran = _ from run_callLine load, callMethod_eq (m := levelMethod) rfl given rfl,
        call_eq_send (bind_full rfl), sent]
    obtain ⟨output, printed, -⟩ := ending_ok answered "result"
    have printed : ending (.ok (.list [.int 1])) = .done output := printed
    rw [failed, fine, printed] at ended
    cases ended

end

end CommandLine

end ServiceClient

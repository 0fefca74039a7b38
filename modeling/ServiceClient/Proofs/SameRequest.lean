import ServiceClient.Proofs.CommandLineCalls
import ServiceClient.Proofs.ExplorerAnswers
import ServiceClient.Proofs.NumberInput

/-!
The command line and the explorer make the same request of the same texts. Each reads a text in its
own way, but what is sent for a parameter is the same (`sent?_entered`), so the bodies are the same,
or neither side has one (`call_as_submitted`).
-/

namespace ServiceClient

/-- The types whose values are entered as one text on the command line and in a form alike. -/
inductive TypeRef.IsOneText (types : List RecordType) : TypeRef → Prop
  | number : IsOneText types (.primitive .number)
  | array (element : TypeRef) : IsOneText types (.array element)
  | object (undeclared : findType? types untypedObject = none) :
      IsOneText types (.named untypedObject)

/-! ## What is sent -/

/-- What is sent for a parameter of what was entered for it, if that can be sent. -/
def Parameter.sent? (p : Parameter) (entered : Entered) : Option Value :=
  (do
    let v ← entered
    p.type.check p.name v
    v.toWire : Except Failure Value).toOption

/-- The body of the request of a call with arguments, if they can be sent. -/
def Method.body? (m : Method) (id : Int) (args : Except Failure (List Value)) : Option String := do
  let params ← (args >>= Method.requestParams m.params).toOption
  (Json.write (envelope id m.name params)).toOption

/-- The request that posts a body, if there is one. -/
def posting (endpoint : String) (body? : Option String) : List HttpRequest :=
  body?.toList.map fun body => ⟨"POST", endpoint, some body⟩

/-- A submission posts the body of its request, if there is one, and nothing else. -/
theorem run_sent {client : Client} {m : Method} {args : Except Failure (List Value)} {link : Link}
    (full : ∀ values, args = .ok values → values.length = m.params.length) :
    (Submission.run client ⟨m, args⟩ link).2.sent =
      link.sent ++ posting client.endpoint (m.body? link.nextId args) := by
  cases args with
  | error failure => exact (List.append_nil _).symm
  | ok values =>
    change (client.call m values [] link).2.sent = _
    rw [call_eq_send (bind_full (full values rfl))]
    cases made : Method.requestParams m.params values with
    | error failure =>
      have none : m.body? link.nextId (.ok values) = none := by
        rw [Method.body?, ok_bind, made]
        rfl
      rw [send_unmade made, none]
      exact (List.append_nil _).symm
    | ok params =>
      have some : m.body? link.nextId (.ok values) =
          (Json.write (envelope link.nextId m.name params)).toOption := by
        rw [Method.body?, ok_bind, made]
        rfl
      rw [some]
      cases written : Json.write (envelope link.nextId m.name params) with
      | error failure =>
        rw [send_unwritten made written]
        exact (List.append_nil _).symm
      | ok body =>
        obtain ⟨outcome, -, sent⟩ := @send_posted client _ _ _ link _ made written
        rw [sent]
        rfl

/-- The entries of a request are those of the first parameter and of the others, or there are none
because one of them cannot be sent. -/
theorem entries_cons {p : Parameter} (required : p.optional = false) (params : List Parameter)
    (e : Entered) (entered : List Entered) :
    (allEntered (e :: entered) >>= Method.requestParams (p :: params)).toOption =
      (p.sent? e).bind fun w =>
        (allEntered entered >>= Method.requestParams params).toOption.map ((p.name, w) :: ·) := by
  cases e with
  | error failure => rfl
  | ok v =>
    cases all : allEntered entered with
    | error failure =>
      rw [allEntered, all]
      cases p.sent? (.ok v) <;> rfl
    | ok values =>
      have front : allEntered (.ok v :: entered) = .ok (v :: values) := by
        rw [allEntered, all]
        rfl
      rw [front, ok_bind, ok_bind, Method.requestParams, if_neg (by simp [required]),
        Parameter.sent?, ok_bind]
      cases p.type.check p.name v with
      | error failure => rfl
      | ok _ =>
        cases v.toWire with
        | error failure => rfl
        | ok w => cases Method.requestParams params values <;> rfl

/-- What was entered for parameters in two ways, and sent alike. -/
inductive SentAlike : List Parameter → List Entered → List Entered → Prop
  | nil : SentAlike [] [] []
  | cons {p : Parameter} {params : List Parameter} {e e' : Entered}
      {entered entered' : List Entered} (required : p.optional = false)
      (here : p.sent? e = p.sent? e') (later : SentAlike params entered entered') :
      SentAlike (p :: params) (e :: entered) (e' :: entered')

section

variable {params : List Parameter} {entered entered' : List Entered}

theorem SentAlike.entries (alike : SentAlike params entered entered') :
    (allEntered entered >>= Method.requestParams params).toOption =
      (allEntered entered' >>= Method.requestParams params).toOption := by
  induction alike with
  | nil => rfl
  | cons required here later ih => rw [entries_cons required, entries_cons required, here, ih]

theorem SentAlike.length (alike : SentAlike params entered entered') :
    entered.length = params.length ∧ entered'.length = params.length := by
  induction alike with
  | nil => exact ⟨rfl, rfl⟩
  | cons required here later ih => simp [ih]

theorem SentAlike.body? {m : Method} (alike : SentAlike m.params entered entered') (id : Int) :
    m.body? id (allEntered entered) = m.body? id (allEntered entered') := by
  rw [Method.body?, alike.entries, Method.body?]

end

/-! ## What is entered -/

section

variable {A : Type} {types : List RecordType} {form : Submitted} (action : String → String)

theorem sent?_mismatched {p : Parameter} {v : Value}
    (mismatched : (p.type.mismatch? v).isSome = true) : p.sent? (.ok v) = none := by
  obtain ⟨cause, mismatched⟩ := Option.isSome_iff_exists.mp mismatched
  rw [Parameter.sent?, ok_bind, check_eq_error.mpr ⟨cause, mismatched, rfl⟩]
  rfl

theorem ne_empty_of_parse {text : String} {v : Value} (read : Json.parse text = .ok v) :
    text ≠ "" := by
  rintro rfl
  have nothing : Json.parse "" = .error ⟨.noValue, 0⟩ := rfl
  rw [nothing] at read
  cases read

/-- What is sent for a text in an input is what is sent for the value that the text has as JSON. -/
theorem sent?_entered {p : Parameter} (required : p.optional = false)
    (oneText : p.type.IsOneText types) {text : String} {v : Value}
    (read : Json.parse text = .ok v) {s : CallForms A}
    (filled : form.lookup (inputKey s.current (s.inputs + 1)) = some text) :
    p.sent? ((Control.ofType types p.type).build (Html.toolkit form action) types (label p.name)
        p.optional s).1.2 = p.sent? (v.ofWire types p.type) ∧
      (Control.ofType types p.type).inputCount = 1 := by
  have nonempty := ne_empty_of_parse read
  have asJson : Html.readJson text = v := by rw [Html.readJson, read]
  obtain ⟨name, type, optional, docs⟩ := p
  obtain rfl : optional = false := required
  cases oneText with
  | number =>
    rw [Control.ofType]
    refine ⟨?_, rfl⟩
    have isRead : (Html.input form (inputKey s.current (s.inputs + 1)) (label name) false
        (.ofPrimitive .number)).2 = Html.readNumber text := by
      change Html.read form _ false Html.readNumber "" = _
      exact read_entered filled nonempty
    have asIs : v.ofWire types (.primitive .number) = .ok v := by cases v <;> rfl
    rw [build_primitive, asIs]
    dsimp only
    rw [isRead]
    rcases readNumber_parse read with same | ⟨noNumber, other⟩
    · rw [same]
    · rw [noNumber, sent?_mismatched rfl, sent?_mismatched (by simp [TypeRef.mismatch?, other])]
  | array element =>
    rw [Control.ofType]
    refine ⟨?_, rfl⟩
    rw [build_array, read_entered filled nonempty, asJson]
  | object undeclared =>
    rw [ofType_undeclared undeclared]
    refine ⟨?_, rfl⟩
    rw [build_object, read_entered filled nonempty, asJson]

/-- Texts that are entered in a form are sent as the arguments that they have as JSON. -/
theorem entered_alike {params : List Parameter} {texts : List String} {values : List Value}
    {s : CallForms A}
    (oneText : ∀ p ∈ params, p.optional = false ∧ p.type.IsOneText types)
    (full : texts.length = params.length)
    (read : List.Forall₂ (fun text v => Json.parse text = .ok v) texts values)
    (filled : FilledIn form s.current (s.inputs + 1) (texts.map some)) :
    ∃ converted, CommandLine.convertArguments types params values = allEntered converted ∧
      SentAlike params (enteredFor types form action params s) converted := by
  induction params generalizing texts values s with
  | nil =>
    obtain rfl : texts = [] := List.eq_nil_of_length_eq_zero full
    cases read
    exact ⟨[], rfl, .nil⟩
  | cons p params ih =>
    cases read with
    | nil => simp at full
    | @cons text v texts values here later =>
      obtain ⟨⟨required, single⟩, others⟩ := List.forall_mem_cons.mp oneText
      obtain ⟨filledHere, filledLater⟩ := filled_cons filled
      obtain ⟨alike, count⟩ := sent?_entered action required single here filledHere
      obtain ⟨converted, isConverted, rest⟩ :=
        ih (s := advance s 1) others (by simpa using full) later filledLater
      refine ⟨v.ofWire types p.type :: converted, ?_, ?_⟩
      · rw [CommandLine.convertArguments, isConverted]
        rfl
      · rw [enteredFor_cons, count]
        exact .cons required alike rest

end

/-! ## Both sides -/

theorem load_name {base name : String} {endpoint : Option String} {link loaded : Link}
    {client : Client} {m : Method} (load : Client.load base endpoint link = (.ok client, loaded))
    (found : client.method? name = some m) : m.name = name := by
  obtain ⟨description, -, built⟩ := bind_eq_ok.mp (Prod.mk.inj load).1
  exact ((build_writtenIn built).1.of_mem_methodList (mem_of_lookup found)).1

/-- What is sent for a form is what is sent by the call of its submission. -/
theorem submit_link {e : Explorer} {name : String} {m : Method}
    (found : e.client.method? name = some m) (form : Submitted) (link : Link) :
    (e.submit name form link).2 = (Submission.run e.client ⟨m, (e.callForm m form).2⟩ link).2 := by
  rw [Explorer.submit, found]
  dsimp only
  split
  · rfl
  · split <;> rfl

theorem callMethod_link {client : Client} {name : String} {m : Method} {texts : List String}
    {values : List Value} (found : client.method? name = some m)
    (read : CommandLine.readArguments texts = .ok values) (link : Link) :
    (CommandLine.callMethod client name texts link).2 =
      (Submission.run client
        ⟨m, CommandLine.convertArguments client.types m.params values⟩ link).2 := by
  cases converted : CommandLine.convertArguments client.types m.params values with
  | error failure => simp only [CommandLine.callMethod, found, read, converted, Submission.run]
  | ok args => rw [CommandLine.callMethod_eq found read converted, Submission.run]

theorem run_callLine_sent {base name : String} {endpoint : Option String} {client : Client}
    {m : Method} {link loaded : Link} {texts : List String} {values : List Value}
    (load : Client.load base endpoint link = (.ok client, loaded))
    (found : client.method? name = some m)
    (read : CommandLine.readArguments texts = .ok values)
    (full : ∀ args, CommandLine.convertArguments client.types m.params values = .ok args →
      args.length = m.params.length) :
    (CommandLine.run (CommandLine.callLine endpoint base name texts) link).2.sent =
      loaded.sent ++ posting client.endpoint
        (m.body? link.nextId (CommandLine.convertArguments client.types m.params values)) := by
  rw [CommandLine.run_callLine load, callMethod_link found read, run_sent full,
    CommandLine.load_nextId load]

theorem posting_injective {endpoint : String} {body? body?' : Option String}
    (same : posting endpoint body? = posting endpoint body?') : body? = body?' := by
  cases body? <;> cases body?' <;> simp_all [posting]

/-- A method whose parameters are required and take a text each is called with texts that are JSON
on the command line, and with the same texts in its form. Both post the same body, or both none. -/
theorem call_as_submitted {base name : String} {endpoint : Option String} {client : Client}
    {m : Method} {link loaded page : Link} {texts : List String} {form : Submitted}
    (load : Client.load base endpoint link = (.ok client, loaded))
    (found : client.method? name = some m) (routable : isRoutable name = true)
    (oneText : ∀ p ∈ m.params, p.optional = false ∧ p.type.IsOneText client.types)
    (full : texts.length = m.params.length)
    (json : ∀ text ∈ texts, ∃ v, Json.parse text = .ok v)
    (filled : FilledIn form name 1 (texts.map some)) (sameNumber : page.nextId = link.nextId) :
    let e := Explorer.ofClient client
    Explorer.mount client "" = .ok e ∧ ∃ body? answer after,
      (CommandLine.run (CommandLine.callLine endpoint base name texts) link).2.sent =
        loaded.sent ++ posting client.endpoint body? ∧
      e.respond (.post (e.actionUrl name) form) page = .ok (answer, after) ∧
      after.sent = page.sent ++ posting client.endpoint body? := by
  intro e
  obtain rfl := load_name load found
  obtain ⟨values, read⟩ := exists_forall₂ json
  let fresh : CallForms Submission := ⟨m.name, 0, []⟩
  obtain ⟨converted, isConverted, alike⟩ :=
    entered_alike (s := fresh) e.actionUrl oneText full read filled
  have own : (e.callForm m form).2 =
      allEntered (enteredFor client.types form e.actionUrl m.params fresh) := rfl
  have given {entered : List Entered} (count : entered.length = m.params.length) :
      ∀ values, allEntered entered = .ok values → values.length = m.params.length := by
    intro values all
    rw [← count, allEntered_eq_ok.mp all, List.length_map]
  refine ⟨mount_ofClient client, m.body? link.nextId (allEntered converted),
    (e.submit m.name form page).1, (e.submit m.name form page).2, ?_,
    respond_actionUrl routable form page, ?_⟩
  · rw [run_callLine_sent load found (CommandLine.readArguments_eq_ok.mpr read)
      (isConverted ▸ given alike.length.2), isConverted]
  · have found : e.client.method? m.name = some m := found
    rw [submit_link found, own, run_sent (given alike.length.1), alike.body?, sameNumber]
    rfl

open CommandLine in
/-- The level is set to the same number from both sides. -/
theorem call_as_submitted_level :
    let e := Explorer.ofClient levelClient
    let get : HttpRequest := ⟨"GET", Client.defaultBase ++ Client.descriptionFile, none⟩
    ∃ body answer after,
      (run (callLine none "" "level" [" -7"]) (.start 0 [.body levelText 200])).2.sent =
        [get, ⟨"POST", Client.defaultBase, some body⟩] ∧
      e.respond (.post (e.actionUrl "level") [("level:1", " -7")]) (.start 0 []) =
        .ok (answer, after) ∧
      after.sent = [⟨"POST", Client.defaultBase, some body⟩] := by
  intro e get
  have load := load_start parse_levelText build_level []
  have read : Json.parse " -7" = .ok (.int (-7)) := by with_unfolding_all rfl
  have given : readArguments [" -7"] = .ok [.int (-7)] :=
    readArguments_eq_ok.mpr (.cons read .nil)
  have filled : FilledIn [("level:1", " -7")] "level" 1 ([" -7"].map some) :=
    filled_numberedTexts "level" 1 [some " -7"]
  obtain ⟨-, body?, answer, after, called, submitted, sent⟩ :=
    call_as_submitted load rfl (by decide) (List.forall_mem_singleton.mpr ⟨rfl, .number⟩) rfl
      (List.forall_mem_singleton.mpr ⟨_, read⟩) filled (show (Link.start 0 []).nextId = 0 from rfl)
  obtain ⟨body, written⟩ : ∃ body, levelMethod.body? 0 (.ok [.int (-7)]) = some body :=
    ⟨_, by with_unfolding_all rfl⟩
  have found : levelClient.method? "level" = some levelMethod := rfl
  have known := run_callLine_sent load found given fun args done => Except.ok.inj done ▸ rfl
  obtain rfl : body? = some body :=
    (posting_injective (List.append_cancel_left (called.symm.trans known))).trans written
  exact ⟨body, answer, after, called, submitted, sent⟩

/-! ## A name on two lines -/

/-- A description with a method whose name has a line break in it. -/
def foldedDescription : Value := .object [("methods", .object [("a\nb", .object [])])]

def foldedText : String := "\x7b\"methods\": \x7b\"a\\nb\": \x7b\x7d\x7d\x7d"

def foldedMethod : Method where
  name := "a\nb"
  params := []
  returns := none
  docs := []
  returnDocs := []
  docSource := .list []
  returnDocSource := .list []

def foldedClient : Client where
  serviceName := .string ""
  endpoint := Client.defaultBase
  types := []
  methods := [("a\nb", .leaf foldedMethod)]

open CommandLine in
/-- The method can be called from the command line, but its form comes to no place. -/
theorem call_not_submitted :
    let e := Explorer.ofClient foldedClient
    let get : HttpRequest := ⟨"GET", Client.defaultBase ++ Client.descriptionFile, none⟩
    Client.load "" none (.start 0 [.body foldedText 200]) = (.ok foldedClient, ⟨0, [], [get]⟩) ∧
      foldedClient.method? "a\nb" = some foldedMethod ∧ Explorer.mount foldedClient "" = .ok e ∧
      (∃ body, (run (callLine none "" "a\nb" []) (.start 0 [.body foldedText 200])).2.sent =
        [get, ⟨"POST", Client.defaultBase, some body⟩]) ∧
      e.respond (.post (e.actionUrl "a\nb") []) (.start 0 []) =
        .ok (⟨404, none⟩, .start 0 []) := by
  intro e get
  have written : Json.write foldedDescription = .ok foldedText := by with_unfolding_all rfl
  have read : Json.parse foldedText = .ok foldedDescription :=
    Json.parse_write (by decide) (by decide) written
  have built : Client.build foldedDescription Client.defaultBase = .ok foldedClient := by
    with_unfolding_all rfl
  have load := load_start read built []
  have found : foldedClient.method? "a\nb" = some foldedMethod := rfl
  refine ⟨load, found, mount_ofClient foldedClient, ?_, ?_⟩
  · obtain ⟨body, posted⟩ : ∃ body, foldedMethod.body? 0 (.ok []) = some body :=
      ⟨_, by with_unfolding_all rfl⟩
    refine ⟨body, ?_⟩
    have sent := run_callLine_sent load found (show readArguments [] = .ok [] from rfl)
      fun args done => Except.ok.inj done ▸ rfl
    rw [sent]
    exact congrArg (fun body? => get :: posting Client.defaultBase body?) posted
  · have asked : requestPath (e.actionUrl "a\nb").toList = .ok "/call/a\nb".toList :=
      requestPath_percentEncode (s := "/call/a\nb") rfl (by decide) (by decide)
    have nowhere : Route.arrive e.routes .post "/call/a\nb".toList = .nowhere := by
      with_unfolding_all rfl
    rw [Explorer.respond]
    simp only [Explorer.Request.address, Explorer.Request.verb, asked, nowhere]

end ServiceClient

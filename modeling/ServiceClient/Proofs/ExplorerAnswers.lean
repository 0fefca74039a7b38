import ServiceClient.Proofs.Addresses
import ServiceClient.Proofs.EnteredTexts
import ServiceClient.Proofs.ReadValues
import ServiceClient.Proofs.Replies

/-!
What an explorer answers when the form of a method is submitted. Whatever is entered is read as
arguments, or a key in it is no field of the record it is given for (`enteredFor_areEntries`).
Arguments that are read come to a result or a failure that the client reports
(`call_isShown`), and either is shown on a page; a key that is no field is not reported, and the
answer is no page (`respond_call`). This is about texts that any reader reads the same, in the form
and in the reply, and about services that are walked through without going too deep.
-/

namespace ServiceClient

/-! ## What is entered -/

/-- An argument of a form can be sent, or it is left out of an input that is optional. -/
def IsArgument (optional : Bool) (v : Value) : Prop :=
  v.everywhere Value.isSubmittable = true ∨ optional = true ∧ v = .absent

/-- What an input comes to: an argument, or the failure about a key that is no field. -/
def IsEntry (optional : Bool) : Entered → Prop
  | .ok v => IsArgument optional v
  | .error failure => failure.isUnknownField = true

theorem allEntered_eq_error {entered : List Entered} {failure : Failure}
    (failed : allEntered entered = .error failure) : .error failure ∈ entered := by
  induction entered with
  | nil => cases failed
  | cons first entered ih =>
    rcases bind_eq_error.mp failed with rfl | ⟨v, -, failed⟩
    · exact List.mem_cons_self
    · rcases bind_eq_error.mp failed with later | ⟨vs, -, done⟩
      · exact List.mem_cons_of_mem first (ih later)
      · cases done

section

variable {A : Type} {types : List RecordType} {form : Submitted} {action : String → String}

theorem read_isArgument {name fallback : String} {optional : Bool} {parse : String → Value}
    (parsed : ∀ text, (parse text).everywhere Value.isSubmittable = true) :
    IsArgument optional (Html.read form name optional parse fallback) := by
  unfold Html.read
  dsimp only
  split
  · rename_i blank
    exact .inr ⟨(Bool.and_eq_true_iff.mp blank).1, rfl⟩
  · exact .inl (parsed _)

theorem readNumber_isSubmittable (text : String) :
    (Html.readNumber text).everywhere Value.isSubmittable = true :=
  Value.everywhere_imp isSubmittable_of_isWritable _ (readNumber_isWritable text)

theorem readJson_isSubmittable (text : String) :
    (Html.readJson text).everywhere Value.isSubmittable = true :=
  Value.everywhere_imp isSubmittable_of_isWritable _ (readJson_isWritable text)

theorem ofWire_isEntry {t : TypeRef} {optional : Bool} {v : Value}
    (argument : IsArgument optional v) : IsEntry optional (v.ofWire types t) := by
  rcases argument with submittable | ⟨isOptional, rfl⟩
  · cases isRead : v.ofWire types t with
    | ok read => exact .inl (ofWire_isSubmittable v submittable isRead)
    | error failure => exact ofWire_error v isRead
  · rw [ofWire_leaf rfl]
    exact .inr ⟨isOptional, rfl⟩

mutual

theorem Control.build_isEntry (label : String) (optional : Bool) : (control : Control) →
    (s : CallForms A) →
    IsEntry optional (control.build (Html.toolkit form action) types label optional s).1.2
  | .primitive kind, s => by
    cases kind with
    | number => exact read_isArgument readNumber_isSubmittable
    | string => exact read_isArgument fun _ => rfl
    | boolean => exact .inl rfl
  | .object _, _ => ofWire_isEntry (read_isArgument readJson_isSubmittable)
  | .array _, _ => ofWire_isEntry (read_isArgument readJson_isSubmittable)
  | .frame type fields, s => by
    have inside := buildFields_areEntries fields s
    change IsEntry optional ((allEntered (buildFields (Html.toolkit form action) types fields
      s).1.2).map (.record type ·))
    cases entered : allEntered (buildFields (Html.toolkit form action) types fields s).1.2 with
    | ok values =>
      refine .inl (Value.everywhere_record.mpr ⟨rfl, fun v member => ?_⟩)
      rw [allEntered_eq_ok.mp entered] at inside
      rcases inside _ (List.mem_map_of_mem member) with submittable | ⟨isOptional, -⟩
      · exact submittable
      · cases isOptional
    | error failure => exact inside _ (allEntered_eq_error entered)

theorem buildFields_areEntries : (fields : List (String × Control)) → (s : CallForms A) →
    ∀ e ∈ (buildFields (Html.toolkit form action) types fields s).1.2, IsEntry false e
  | [], _ => List.forall_mem_nil _
  | (name, control) :: rest, s =>
    List.forall_mem_cons.mpr ⟨Control.build_isEntry (label name) false control s,
      buildFields_areEntries rest _⟩

end

theorem enteredFor_areEntries (params : List Parameter) (s : CallForms A) :
    List.Forall₂ (fun p e => IsEntry p.optional e) params
      (enteredFor types form action params s) := by
  induction params generalizing s with
  | nil => exact .nil
  | cons p params ih =>
    rw [enteredFor_cons]
    exact .cons (Control.build_isEntry _ _ _ s) (ih _)

/-- The arguments in the form of a method, if no key in it is unknown. -/
theorem ownForm_arguments (submit : Submission → A) (m : Method) :
    (∃ args, (m.ownForm types form action submit).2 = .ok args ∧
      List.Forall₂ (fun p v => IsArgument p.optional v) m.params args) ∨
    ∃ failure, (m.ownForm types form action submit).2 = .error failure ∧
      failure.isUnknownField = true := by
  let fresh : CallForms A := ⟨m.name, 0, []⟩
  have entries : List.Forall₂ (fun p e => IsEntry p.optional e) m.params
      (enteredFor types form action m.params fresh) := enteredFor_areEntries m.params fresh
  have whole : (m.ownForm types form action submit).2 =
      allEntered (enteredFor types form action m.params fresh) := rfl
  rw [whole]
  cases entered : allEntered (enteredFor types form action m.params fresh) with
  | ok args =>
    rw [allEntered_eq_ok.mp entered, List.forall₂_map_right_iff] at entries
    exact .inl ⟨args, rfl, entries⟩
  | error failure =>
    obtain ⟨p, -, unknown⟩ := forall₂_mem_right entries (allEntered_eq_error entered)
    exact .inr ⟨failure, rfl, unknown⟩

end

/-! ## What is shown -/

/-- What a page shows of an outcome, and its status. -/
inductive IsShown : Except Failure Value → Nat → Verdict → Prop
  | result {v : Value} {text : String} (rendered : renderResult v = .ok text) :
      IsShown (.ok v) 200 (.result text)
  | error {failure : Failure} {message : String} (reported : failure.isReported = true)
      (worded : failure.message? = some message) :
      IsShown (.error failure) 500 (.error message)

theorem exists_renderResult {v : Value} (writable : v.everywhere Json.isWritable = true) :
    ∃ text, renderResult v = .ok text := by
  cases v with
  | object entries => exact Json.exists_write_of_isWritable writable
  | list items => exact Json.exists_write_of_isWritable writable
  | bool b => exact Json.exists_write_of_isWritable writable
  | _ => exact ⟨_, rfl⟩

theorem mismatch_isShown {failure : Failure} (mismatch : failure.isMismatch = true) :
    ∃ message, IsShown (.error failure) 500 (.error message) := by
  cases failure with
  | mismatch subject cause => exact ⟨_, .error rfl rfl⟩
  | _ => cases mismatch

/-- Whatever a reply means is shown. -/
theorem replyMeans_isShown {m : Method} {request : HttpRequest} {reply : Reply}
    {outcome : Except Failure Value} (means : ReplyMeans m request reply outcome) :
    ∃ status verdict, IsShown outcome status verdict := by
  cases means with
  | unreachable | unreadable | notAnObject | refused | refusedBriefly =>
    exact ⟨_, _, .error rfl rfl⟩
  | @answered text status fields read fine =>
    obtain ⟨text, rendered⟩ :=
      exists_renderResult (Value.lookup_everywhere (Json.parse_isWritable read) rfl "result")
    exact ⟨_, _, .result rendered⟩

theorem arguments_areSubmittable {params : List Parameter} {args : List Value}
    (arguments : List.Forall₂ (fun p v => IsArgument p.optional v) params args) :
    ∀ v ∈ args, v.everywhere Value.isSubmittable = true ∨ v = .absent := by
  intro v member
  obtain ⟨p, -, argument⟩ := forall₂_mem_right arguments member
  exact argument.imp_right And.right

/-- What a call with the arguments of a form comes to: one of them does not have its type, or it is
what the reply means. -/
theorem call_means {client : Client} {m : Method} {args : List Value} {link : Link}
    (arguments : List.Forall₂ (fun p v => IsArgument p.optional v) m.params args)
    (short : Json.isShort (.int link.nextId) = true) :
    (∃ failure, (client.call m args [] link).1 = .error failure ∧ failure.isMismatch = true) ∨
      ∃ request, ReplyMeans m request (link.replies.headD Link.defaultReply)
        (client.call m args [] link).1 := by
  rw [call_eq_send (bind_full arguments.length_eq.symm)]
  cases made : Method.requestParams m.params args with
  | error failure =>
    rw [send_unmade made]
    exact .inl ⟨failure, rfl, unsendable_isMismatch (requestParams_eq_error.mp made)⟩
  | ok params =>
    obtain ⟨body, written⟩ := @write_envelope link.nextId m.name params short
      (requestParams_isWritable (arguments_areSubmittable arguments) made)
    obtain ⟨outcome, means, posted⟩ := @send_posted client _ _ _ link _ made written
    rw [posted]
    exact .inr ⟨_, means⟩

/-- A call with the arguments of a form comes to something that is shown. -/
theorem call_isShown {client : Client} {m : Method} {args : List Value} {link : Link}
    (arguments : List.Forall₂ (fun p v => IsArgument p.optional v) m.params args)
    (short : Json.isShort (.int link.nextId) = true) :
    ∃ status verdict, IsShown (client.call m args [] link).1 status verdict := by
  rcases call_means arguments short with ⟨failure, failed, mismatch⟩ | ⟨request, means⟩
  · obtain ⟨message, shown⟩ := mismatch_isShown mismatch
    exact ⟨500, .error message, failed ▸ shown⟩
  · exact replyMeans_isShown means

/-- The text of a reply is ordinary, if it has one. -/
def Reply.IsOrdinary : Reply → Prop
  | .body text _ => Json.IsOrdinary text
  | .failure _ => True

/-- A result is no deeper than the text of the reply. -/
theorem replyMeans_depth_le {m : Method} {request : HttpRequest} {reply : Reply} {v : Value}
    (means : ReplyMeans m request reply (.ok v)) (ordinary : reply.IsOrdinary) :
    v.depth ≤ reach := by
  cases means with
  | @answered text status fields read fine =>
    have whole := Nat.le_trans (Json.parse_depth_le read) ordinary.shallow
    cases found : fields.lookup "result" with
    | none => exact Nat.zero_le _
    | some v =>
      have inside : v.depth ≤ depthOfEntries fields :=
        depthOfEntries_le_iff.mp (Nat.le_refl _) ("result", v) (mem_of_lookup found)
      exact Nat.le_trans (Nat.le_succ_of_le inside) whole

/-! ## Answers -/

namespace Explorer

variable {e : Explorer} {name : String} {m : Method} {form : Submitted} {link : Link}

/-- An outcome that is shown is the answer, with the form of the method below it. -/
theorem submit_shown (found : e.client.method? name = some m) {status : Nat} {verdict : Verdict}
    (shown : IsShown (Submission.run e.client ⟨m, (e.callForm m form).2⟩ link).1 status verdict) :
    e.submit name form link =
      (⟨status, some (Page.render e.title (some (name, verdict)) (e.callForm m form).1)⟩,
        (Submission.run e.client ⟨m, (e.callForm m form).2⟩ link).2) := by
  rw [submit, found]
  dsimp only
  generalize Submission.run e.client ⟨m, (e.callForm m form).2⟩ link = ran at shown ⊢
  obtain ⟨outcome, link'⟩ := ran
  cases shown with
  | result rendered => simp only [ok_bind, rendered]
  | error reported worded => simp only [error_bind, reported, worded]

/-- A key that is no field is not reported, and nothing is sent. -/
theorem submit_unknownField (found : e.client.method? name = some m) {failure : Failure}
    (entered : (e.callForm m form).2 = .error failure) (unknown : failure.isUnknownField = true) :
    e.submit name form link = (⟨500, none⟩, link) := by
  have unreported : failure.isReported = false := by
    cases failure <;> first | rfl | cases unknown
  rw [submit, found]
  dsimp only
  rw [entered, Submission.run]
  simp only [error_bind, unreported]

end Explorer

/-- What is walked through for the form of a method does not go too deep: the description of the
service, the namespaces of its methods, and the frames of the form. -/
structure Client.WithinReach (client : Client) (description : Value) (m : Method) : Prop where
  described : description.depth ≤ reach
  named : ∀ stub ∈ client.methodList, (segments stub.1).length ≤ reach
  framed : m.frames client.types ≤ reach

/-- What is answered where the form of a method is posted to. If the arguments in it can be read,
the answer is a page with the result of the call, or the message of its failure in place of that.
If they cannot, a key in them is no field, and the answer is no page. The JSON that is entered and
that is replied is ordinary: with half a surrogate pair in a result no page could be sent, and what
goes too deep for one of the walks through it is not reported either. -/
theorem respond_call {description : Value} {endpoint name : String} {client : Client} {m : Method}
    {link : Link} (regular : description.isRegular = true)
    (built : Client.build description endpoint = .ok client)
    (stub : (name, m) ∈ client.methodList) (routable : isRoutable name = true)
    (short : Json.isShort (.int link.nextId) = true) (form : Submitted)
    (shallow : client.WithinReach description m)
    (entered : ∀ key ∈ m.jsonKeys client.types, ∀ text, form.lookup key = some text →
      Json.IsOrdinary text)
    (replied : (link.replies.headD Link.defaultReply).IsOrdinary) :
    let e := Explorer.ofClient client
    let own := e.callForm m form
    let ran := Submission.run client ⟨m, own.2⟩ link
    let answer := e.respond (.post (e.actionUrl name) form) link
    Explorer.mount client "" = .ok e ∧
      ((∃ args status verdict, own.2 = .ok args ∧ IsShown ran.1 status verdict ∧
          answer = .ok
            (⟨status, some (Page.render e.title (some (name, verdict)) own.1)⟩, ran.2) ∧
          (∀ v ∈ args, v.depth ≤ 2 * reach + 1) ∧ ∀ v, ran.1 = .ok v → v.depth ≤ reach) ∨
        ∃ failure, own.2 = .error failure ∧ failure.isUnknownField = true ∧
          answer = .ok (⟨500, none⟩, link)) := by
  intro e own ran answer
  have found : e.client.method? name = some m :=
    (lookup_eq_some_iff_mem (methodList_names regular built).2.1).mpr stub
  have submitted : answer = .ok (e.submit name form link) := respond_actionUrl routable form link
  have arguments : (∃ args, own.2 = .ok args ∧
        List.Forall₂ (fun p v => IsArgument p.optional v) m.params args) ∨
      ∃ failure, own.2 = .error failure ∧ failure.isUnknownField = true :=
    ownForm_arguments id m
  refine ⟨mount_ofClient client, ?_⟩
  rcases arguments with ⟨args, isRead, arguments⟩ | ⟨failure, unread, unknown⟩
  · left
    have ranCall : ran.1 = (client.call m args [] link).1 := by
      simp only [ran, isRead, Submission.run]
    obtain ⟨status, verdict, shown⟩ := @call_isShown client m args link arguments short
    have ranShown : IsShown ran.1 status verdict := ranCall ▸ shown
    have within : EnteredWithin form reach (m.jsonKeys client.types) :=
      fun key input text found => (entered key input text found).shallow
    have sentDeep : ∀ v ∈ args, v.depth ≤ m.frames client.types + (reach + 1) :=
      ownForm_depth_le (by decide) within isRead
    refine ⟨args, status, verdict, isRead, ranShown,
      submitted.trans (congrArg Except.ok (Explorer.submit_shown found ranShown)), ?_, ?_⟩
    · intro v member
      have framed := shallow.framed
      have deep := sentDeep v member
      omega
    · intro v result
      rw [ranCall] at result
      rcases @call_means client m args link arguments short with
        ⟨failure, failed, -⟩ | ⟨request, means⟩
      · rw [failed] at result
        cases result
      · exact replyMeans_depth_le (result ▸ means) replied
  · right
    exact ⟨failure, unread, unknown,
      submitted.trans (congrArg Except.ok (Explorer.submit_unknownField found unread unknown))⟩

/-- The form of the sample method is a frame for a node, with the links as JSON. -/
theorem sample_controls : sampleMethod.controls [sampleNode] =
    [("node", .frame sampleNode [("label", .primitive .string), ("size", .primitive .number),
      ("links", .array (.named "Node"))])] := by
  with_unfolding_all rfl

theorem sample_withinReach : sampleClient.WithinReach sampleDescription sampleMethod where
  described := by decide
  named := List.forall_mem_singleton.mpr (by decide)
  framed := by
    rw [Method.frames]
    change framesOfFields (sampleMethod.controls [sampleNode]) ≤ reach
    rw [sample_controls]
    decide

/-- What is entered in the form of the sample method. -/
theorem sample_entered (form : Submitted) :
    ((Explorer.ofClient sampleClient).callForm sampleMethod form).2 = allEntered [
      (allEntered [.ok (Html.read form "graph.add:1" false .string ""),
        .ok (Html.read form "graph.add:2" false Html.readNumber ""),
        (Html.read form "graph.add:3" false Html.readJson "[]").ofWire [sampleNode]
          (.array (.named "Node"))]).map (.record sampleNode ·)] := by
  with_unfolding_all rfl

/-- The links of a node, if a value is entered for them as it is written. -/
theorem sample_links {links : Value} {text : String} {form : Submitted}
    (written : Json.write links = .ok text) (plain : links.isPlain = true)
    (back : links.everywhere Value.readsBack = true)
    (found : form.lookup "graph.add:3" = some text) (nonempty : text ≠ "") :
    Html.read form "graph.add:3" false Html.readJson "[]" = links := by
  rw [read_entered found nonempty, Html.readJson, Json.parse_write plain back written]

/-- A node without links can be entered, so that the answer is a page. -/
theorem respond_call_added :
    let e := Explorer.ofClient sampleClient
    let form := [("graph.add:2", "7"), ("graph.add:3", "[]")]
    ∃ status page link, e.respond (.post (e.actionUrl "graph.add") form) (.start 0 []) =
      .ok (⟨status, some page⟩, link) := by
  intro e form
  have links : Html.read form "graph.add:3" false Html.readJson "[]" = .list [] :=
    sample_links rfl (by decide) (by decide) rfl (by decide)
  have read : ∃ args, (e.callForm sampleMethod form).2 = .ok args := by
    rw [sample_entered, links]
    exact ⟨_, rfl⟩
  have ordinary : ∀ key ∈ sampleMethod.jsonKeys [sampleNode], ∀ text,
      form.lookup key = some text → Json.IsOrdinary text := by
    rw [Method.jsonKeys, sample_controls]
    refine List.forall_mem_singleton.mpr ?_
    rintro _ ⟨⟩
    exact ⟨by decide, by decide⟩
  have replied : Link.defaultReply.IsOrdinary := ⟨by decide, by decide⟩
  obtain ⟨-, ⟨args, status, verdict, -, -, answer, -⟩ | ⟨failure, unread, -, -⟩⟩ :=
    respond_call (by decide) sample_built (List.mem_singleton.mpr rfl) (by decide)
      (by decide : Json.isShort (.int (Link.start 0 []).nextId) = true) form sample_withinReach
      ordinary replied
  · exact ⟨_, _, _, answer⟩
  · obtain ⟨args, isRead⟩ := read
    rw [isRead] at unread
    cases unread

/-- A node with a link that has a colour is not added, and no page says so. -/
theorem respond_call_colour :
    let e := Explorer.ofClient sampleClient
    let text := "[\x7b\"colour\": \"red\"\x7d]"
    e.respond (.post (e.actionUrl "graph.add") [("graph.add:3", text)]) (.start 0 []) =
      .ok (⟨500, none⟩, .start 0 []) := by
  intro e text
  let form : Submitted := [("graph.add:3", text)]
  let coloured : Value := .list [.object [("colour", .string "red")]]
  have links : Html.read form "graph.add:3" false Html.readJson "[]" = coloured :=
    sample_links (by with_unfolding_all rfl) (by decide) (by decide) rfl (by decide)
  have refused : coloured.ofWire [sampleNode] (.array (.named "Node")) =
      .error (.binding (.type "Node") (.unknown "colour")) := rfl
  have entered : (e.callForm sampleMethod form).2 =
      .error (.binding (.type "Node") (.unknown "colour")) := by
    rw [sample_entered, links, refused]
    rfl
  rw [respond_actionUrl (by decide), Explorer.submit_unknownField rfl entered rfl]

end ServiceClient

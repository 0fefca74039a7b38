import ServiceClient.Proofs.Calling
import ServiceClient.Session.Step

/-!
Calls in a session. A step makes at most one call, which `Act.prepare` finds without making it;
`prepares_answer` says that the step does over the link of the session what this call does, and
nothing if there is none. The request of a call goes through the world of the session, and
`itemJson_request` says that what is written in the end is the text of a request with its number.
-/

namespace ServiceClient

/-! ## Acts and their states -/

section

variable {ε σ α β : Type}

theorem run_bind (x : ExceptT ε (StateM σ) α) (f : α → ExceptT ε (StateM σ) β) (s : σ) :
    (x >>= f).run s = match x.run s with
      | (.ok a, s') => (f a).run s'
      | (.error e, s') => (.error e, s') := by
  rw [ExceptT.run_bind]
  change (match x.run s with
    | (r, s') => (match r with
      | .ok a => (f a).run
      | .error e => pure (.error e) : StateM σ (Except ε β)) s') = _
  cases x.run s with
  | mk r s' => cases r <;> rfl

theorem run_pure (a : α) (s : σ) : (pure a : ExceptT ε (StateM σ) α).run s = (.ok a, s) := rfl

theorem run_get (s : σ) : (get : ExceptT ε (StateM σ) σ).run s = (.ok s, s) := rfl

theorem run_set (s s' : σ) : (set s' : ExceptT ε (StateM σ) Unit).run s = (.ok (), s') := rfl

/-- What is done after something else ends well only if both do. -/
theorem run_bind_eq_ok {x : ExceptT ε (StateM σ) α} {f : α → ExceptT ε (StateM σ) β} {s s' : σ}
    {b : β} (done : (x >>= f).run s = (.ok b, s')) :
    ∃ a s₁, x.run s = (.ok a, s₁) ∧ (f a).run s₁ = (.ok b, s') := by
  rw [run_bind] at done
  cases first : x.run s with
  | mk r s₁ =>
    rw [first] at done
    cases r with
    | ok a => exact ⟨a, s₁, rfl, done⟩
    | error e => cases done

end

namespace Act

variable {α β : Type}

theorem run_inWorld (step : Run α) (s : Session) :
    (inWorld step).run s = ((step.run s.world).1, { s with world := (step.run s.world).2 }) := by
  simp only [inWorld, run_bind, run_get]
  cases step.run s.world with
  | mk r world => cases r <;> rfl

theorem run_ofExcept (x : Except Failure α) (s : Session) : (ofExcept x).run s = (x, s) := by
  cases x <;> rfl

theorem run_outcome (act : Act α) (s : Session) :
    (outcome act).run s = (.ok (act.run s).1, (act.run s).2) := rfl

/-- An act that does nothing over the link of its session. -/
def KeepsLink (act : Act α) : Prop := ∀ s, (act.run s).2.link = s.link

theorem KeepsLink.bind {act : Act α} {next : α → Act β} (first : KeepsLink act)
    (rest : ∀ a, KeepsLink (next a)) : KeepsLink (act >>= next) := by
  intro s
  have here := first s
  rw [run_bind]
  cases done : act.run s with
  | mk r s₁ =>
    rw [done] at here
    cases r with
    | ok a => exact (rest a s₁).trans here
    | error failure => exact here

theorem keepsLink_pure (a : α) : KeepsLink (pure a) := fun _ => rfl

theorem keepsLink_throw (failure : Failure) : KeepsLink (throw failure : Act α) := fun _ => rfl

theorem keepsLink_inWorld (step : Run α) : KeepsLink (inWorld step) := by
  intro s
  rw [run_inWorld]

theorem keepsLink_ofExcept (x : Except Failure α) : KeepsLink (ofExcept x) := by
  intro s
  rw [run_ofExcept]

theorem KeepsLink.outcome {act : Act α} (keeps : KeepsLink act) : KeepsLink (outcome act) := keeps

theorem KeepsLink.discard {act : Act α} (keeps : KeepsLink act) : KeepsLink (discard act) :=
  keeps.bind fun _ => keepsLink_pure ()

theorem keepsLink_get : KeepsLink get := fun _ => rfl

theorem KeepsLink.mapM {f : α → Act β} (each : ∀ a, KeepsLink (f a)) (items : List α) :
    KeepsLink (items.mapM f) := by
  induction items with
  | nil => exact keepsLink_pure []
  | cons a items ih =>
    rw [List.mapM_cons]
    exact (each a).bind fun b => ih.bind fun bs => keepsLink_pure (b :: bs)

theorem keepsLink_lookUp (name : String) : KeepsLink (lookUp name) := by
  refine keepsLink_get.bind fun s => ?_
  split
  · exact keepsLink_pure _
  · exact keepsLink_throw _

theorem keepsLink_keep (name : String) (item : Item) : KeepsLink (keep name item) := fun _ => rfl

theorem keepsLink_typeNamed (name : String) : KeepsLink (typeNamed name) := by
  refine (keepsLink_inWorld _).bind fun state? => ?_
  split
  · exact keepsLink_pure _
  · exact keepsLink_throw _

theorem keepsLink_methodNamed (name : String) : KeepsLink (methodNamed name) := by
  refine keepsLink_get.bind fun s => ?_
  split
  · exact keepsLink_pure _
  · exact keepsLink_throw _

/-! ## Terms -/

theorem keepsLink_number (x : Binary64) : KeepsLink (maker.number x) := by
  cases x with
  | nan => exact keepsLink_inWorld newNotNumber
  | _ => exact keepsLink_pure _

mutual

/-- Making the things of a term uses no link. -/
theorem keepsLink_make : (term : Term) → KeepsLink (term.make maker)
  | .value v => keepsLink_inWorld (Item.ofValue v)
  | .integer text => by
    rw [Term.make]
    cases integer? text with
    | none => exact keepsLink_throw _
    | some n => exact keepsLink_inWorld (Item.ofValue (.int n))
  | .floating text => by
    rw [Term.make]
    cases floating? text with
    | none => exact keepsLink_throw _
    | some x => exact keepsLink_number x
  | .list items => (keepsLink_makeItems items).bind fun made =>
    keepsLink_inWorld (allocate (.list made))
  | .tuple items => (keepsLink_makeItems items).bind fun _ => keepsLink_pure _
  | .object entries => (keepsLink_makeEntries entries).bind fun made =>
    keepsLink_inWorld (allocate (.mapping made))
  | .record type args named => by
    rw [Term.make]
    refine (keepsLink_makeItems args).bind fun given =>
      (keepsLink_makeEntries named).bind fun givenByName => ?_
    exact (keepsLink_typeNamed type).bind fun type =>
      keepsLink_inWorld (invoke type given givenByName)
  | .typeObject name => keepsLink_typeNamed name
  | .reference name => keepsLink_lookUp name

theorem keepsLink_makeItems : (items : List Term) → KeepsLink (makeItems maker items)
  | [] => keepsLink_pure _
  | term :: items => (keepsLink_make term).bind fun _ =>
    (keepsLink_makeItems items).bind fun _ => keepsLink_pure _

theorem keepsLink_makeEntries :
    (entries : List (String × Term)) → KeepsLink (makeEntries maker entries)
  | [] => keepsLink_pure _
  | (_, term) :: entries => (keepsLink_make term).bind fun _ =>
    (keepsLink_makeEntries entries).bind fun _ => keepsLink_pure _

end

theorem keepsLink_eval (term : Term) : KeepsLink (eval term) := keepsLink_make term

theorem keepsLink_evalItems (terms : List Term) : KeepsLink (evalItems terms) :=
  keepsLink_makeItems terms

theorem keepsLink_evalEntries (terms : List (String × Term)) : KeepsLink (evalEntries terms) :=
  keepsLink_makeEntries terms

theorem keepsLink_view (item : Item) : KeepsLink (view item) := keepsLink_inWorld _

theorem keepsLink_answerValue (name : String) : KeepsLink (answerValue name) :=
  (keepsLink_lookUp name).bind fun item => (keepsLink_view item).bind fun _ => keepsLink_pure _

theorem keepsLink_answerKept (name : String) (item : Item) : KeepsLink (answerKept name item) :=
  (keepsLink_keep name item).bind fun _ => (keepsLink_view item).bind fun _ => keepsLink_pure _

/-! ## Forms -/

theorem keepsLink_recordSubject (record : Item) : KeepsLink (recordSubject record) := by
  refine (keepsLink_inWorld _).bind fun type? => ?_
  split
  · exact keepsLink_throw _
  · refine (keepsLink_inWorld _).bind fun asked => ?_
    split
    · exact keepsLink_pure _
    · exact (keepsLink_inWorld _).bind fun _ => keepsLink_pure _

theorem keepsLink_formSubject (target : FormTarget) : KeepsLink (formSubject target) := by
  cases target with
  | call name => exact (keepsLink_methodNamed name).bind fun _ => keepsLink_pure _
  | record name => exact (keepsLink_lookUp name).bind fun item => keepsLink_recordSubject item
  | namespaceAt path =>
    refine keepsLink_get.bind fun s => (keepsLink_ofExcept _).bind fun found => ?_
    split
    · exact keepsLink_pure _
    · exact keepsLink_pure _
    · exact keepsLink_throw _

theorem keepsLink_buildForm {W : Type}
    (toolkit : Toolkit (CallForms Filled) W Filled (Run Item)) (subject : FormSubject) :
    KeepsLink (buildForm toolkit subject) :=
  (keepsLink_inWorld _).bind fun _ => keepsLink_pure _

/-- The submissions of the forms for a target, by the names of their methods. -/
def submissions (target : FormTarget) (view : FormView) : Act (List (String × Filled)) := do
  let subject ← formSubject target
  match view with
  | .html form =>
    let toolkit := (Html.toolkit form Html.relativeAction).mapEntered enteredItem
    return (← buildForm toolkit subject).submissions
  | .outline terms =>
    let entered ← evalEntries terms
    let toolkit := Outline.toolkit fun number =>
      (return (entered.lookup (toString number)).getD .null : Run Item)
    return (← buildForm toolkit subject).submissions

end Act

/-- A call to be made in a session: its method, and its arguments by position and by name. -/
structure ItemCall where
  method : Method
  args : List Item
  named : List (String × Item)

namespace Act

/-- Does what a step does before it makes a call, and finds this call. -/
def prepare : Step → Act (Option ItemCall)
  | .call name args named => do
    let args ← evalItems args
    let named ← evalEntries named
    let m ← methodNamed name
    return some ⟨m, args, named⟩
  | .form target view (some name) => do
    match (← submissions target view).lookup name with
    | none => throw (.misuse .noKey)
    | some filled => return some ⟨filled.method, ← inWorld filled.args, []⟩
  | _ => return none

/-- From this link on, a session has gone on as the call does that was found, or its link is as it
was if none was found. -/
def Follows (link : Link) (after : Session) : Except Failure (Option ItemCall) × Session → Prop
  | (.ok (some c), s) => s.link = link ∧ after = ((call c.method c.args c.named).run s).2
  | (_, s) => s.link = link ∧ after.link = link

/-- An act does over the link what the call does that another act finds, and nothing if it finds
none. -/
def Prepares (find : Act (Option ItemCall)) {α : Type} (act : Act α) : Prop :=
  ∀ s, Follows s.link (act.run s).2 (find.run s)

theorem Prepares.bind {α β : Type} {first : Act α} {find : α → Act (Option ItemCall)}
    {act : α → Act β} (keeps : KeepsLink first) (rest : ∀ a, Prepares (find a) (act a)) :
    Prepares (first >>= find) (first >>= act) := by
  intro s
  have here := keeps s
  rw [run_bind, run_bind]
  cases done : first.run s with
  | mk r s₁ =>
    rw [done] at here
    cases r with
    | error failure => exact ⟨here, here⟩
    | ok a => exact here ▸ rest a s₁

theorem prepares_none {α : Type} {act : Act α} (keeps : KeepsLink act) :
    Prepares (pure none) act := fun s => ⟨rfl, keeps s⟩

theorem prepares_throw {α : Type} {act : Act α} {failure : Failure} (keeps : KeepsLink act) :
    Prepares (throw failure) act := fun s => ⟨rfl, keeps s⟩

/-- A call whose outcome is answered does what the call does. -/
theorem prepares_call {α : Type} (c : ItemCall) (answer : Except Failure Value → α) :
    Prepares (pure (some c)) (do return answer (← outcome (call c.method c.args c.named))) := by
  intro s
  refine ⟨rfl, ?_⟩
  simp only [run_bind, run_outcome]
  rfl

/-- Answering a submission makes the call with what was entered, unless that cannot be read. -/
theorem prepares_answerForm {W : Type} (widget : W → Widget) (name : String) (form : BuiltForm W) :
    Prepares
      (match form.submissions.lookup name with
        | none => throw (.misuse .noKey)
        | some filled => do return some ⟨filled.method, ← inWorld filled.args, []⟩)
      (answerForm widget (some name) form) := by
  cases found : form.submissions.lookup name with
  | none =>
    refine prepares_throw (KeepsLink.bind (KeepsLink.outcome ?_) fun _ => keepsLink_pure _)
    rw [found]
    exact keepsLink_throw _
  | some filled =>
    intro s
    simp only [answerForm, found, run_bind, run_outcome, run_inWorld]
    cases (filled.args.run s.world).1 with
    | error failure => exact ⟨rfl, rfl⟩
    | ok args => exact ⟨rfl, rfl⟩

/-- Submitting one of the forms for a target makes the call with what was entered in it. -/
theorem prepares_submit (target : FormTarget) (view : FormView) (name : String) :
    Prepares (prepare (.form target view (some name))) (runForm target view (some name)) := by
  simp only [prepare, submissions, bind_assoc]
  refine .bind (keepsLink_formSubject target) fun subject => ?_
  cases view with
  | html form =>
    simp only [bind_assoc, pure_bind]
    exact .bind (keepsLink_buildForm _ subject) fun built => prepares_answerForm .html name built
  | outline terms =>
    simp only [bind_assoc, pure_bind]
    refine .bind (keepsLink_evalEntries terms) fun entered => ?_
    exact .bind (keepsLink_buildForm _ subject) fun built =>
      prepares_answerForm .outline name built

/-- Every step does over the link what the call does that it makes, if it makes one. -/
theorem prepares_answer (step : Step) : Prepares (prepare step) (answer step) := by
  cases step with
  | call name args named =>
    refine .bind (keepsLink_evalItems args) fun args => ?_
    refine .bind (keepsLink_evalEntries named) fun named => ?_
    exact .bind (keepsLink_methodNamed name) fun m => prepares_call ⟨m, args, named⟩ _
  | form target view submit =>
    cases submit with
    | some name => exact prepares_submit target view name
    | none =>
      refine prepares_none ((keepsLink_formSubject target).bind fun subject => ?_)
      cases view with
      | html form =>
        refine (keepsLink_buildForm _ subject).bind fun built => ?_
        exact (keepsLink_inWorld _).outcome.bind fun _ => keepsLink_pure _
      | outline terms =>
        refine (keepsLink_evalEntries terms).bind fun entered => ?_
        refine (keepsLink_buildForm _ subject).bind fun built => ?_
        exact (keepsLink_inWorld _).outcome.bind fun _ => keepsLink_pure _
  | make name type args named =>
    exact prepares_none ((keepsLink_eval _).bind fun _ => keepsLink_answerKept _ _)
  | ofWireForm name type data =>
    refine prepares_none ((keepsLink_typeNamed type).bind fun _ => ?_)
    refine (keepsLink_inWorld _).bind fun reader => (keepsLink_eval data).bind fun data => ?_
    exact (keepsLink_inWorld _).bind fun _ => keepsLink_answerKept _ _
  | ofWire name type data =>
    refine prepares_none ((keepsLink_ofExcept _).bind fun type => ?_)
    refine (keepsLink_eval data).bind fun data => ?_
    cases type with
    | some t => exact (keepsLink_inWorld _).bind fun _ => keepsLink_answerKept _ _
    | none => exact keepsLink_answerKept _ _
  | keep name term =>
    exact prepares_none ((keepsLink_eval term).bind fun _ => keepsLink_answerKept _ _)
  | setField name field term =>
    refine prepares_none ((keepsLink_lookUp name).bind fun item => ?_)
    refine (keepsLink_eval term).bind fun v => ?_
    exact (keepsLink_inWorld _).bind fun _ => keepsLink_answerValue name
  | append name field term =>
    refine prepares_none ((keepsLink_lookUp name).bind fun item => ?_)
    refine (keepsLink_inWorld _).bind fun collection => (keepsLink_inWorld _).bind fun add => ?_
    refine (keepsLink_eval term).bind fun v => ?_
    exact (keepsLink_inWorld _).discard.bind fun _ => keepsLink_answerValue name
  | inspect name =>
    refine prepares_none ((keepsLink_lookUp name).bind fun item => ?_)
    exact (keepsLink_view item).bind fun _ => (keepsLink_inWorld _).bind fun _ => keepsLink_pure _
  | toWire name =>
    refine prepares_none ((keepsLink_lookUp name).bind fun item => ?_)
    refine (keepsLink_inWorld _).bind fun sender => (keepsLink_inWorld _).bind fun sent => ?_
    exact (keepsLink_view sent).bind fun _ => keepsLink_pure _
  | toJson term =>
    refine prepares_none ((keepsLink_eval term).bind fun item => ?_)
    exact (keepsLink_inWorld _).bind fun _ => keepsLink_pure _
  | compare a b =>
    refine prepares_none ((keepsLink_eval a).bind fun a => (keepsLink_eval b).bind fun b => ?_)
    exact (keepsLink_inWorld _).bind fun _ => (keepsLink_inWorld _).bind fun _ => keepsLink_pure _
  | document name =>
    exact prepares_none ((keepsLink_methodNamed name).bind fun _ => keepsLink_pure _)
  | bind name args named =>
    refine prepares_none ((keepsLink_evalItems args).bind fun args => ?_)
    refine (keepsLink_evalEntries named).bind fun named => ?_
    refine (keepsLink_methodNamed name).bind fun m => (keepsLink_ofExcept _).bind fun items => ?_
    exact (KeepsLink.mapM keepsLink_view items).bind fun _ => keepsLink_pure _
  | request name id values =>
    refine prepares_none ((keepsLink_methodNamed name).bind fun m => ?_)
    refine (keepsLink_evalItems values).bind fun items => (keepsLink_inWorld _).bind fun sent => ?_
    exact (keepsLink_view sent).bind fun _ => keepsLink_pure _
  | tree => exact prepares_none (keepsLink_get.bind fun _ => keepsLink_pure _)
  | find access path =>
    refine prepares_none (keepsLink_get.bind fun s => ?_)
    exact (keepsLink_ofExcept _).bind fun _ => keepsLink_pure _

end Act

/-! ## Requests of things -/

section

variable {call : Call} {fuel : Nat} {world world' : World}

theorem run_objectOf?_object (id : Nat) (world : World) :
    (objectOf? (.object id)).run world = (.ok world.objects[id]?, world) := rfl

/-- A mapping is sent as a new mapping. -/
theorem toWireWithin_mapping {id : Nat} {entries : List (String × Item)} {item : Item}
    (here : world.objects[id]? = some (.mapping entries))
    (sent : (toWireWithin call (fuel + 1) (.object id)).run world = (.ok item, world')) :
    ∃ out w, (entries.mapM fun e => do return (e.1, ← toWireWithin call fuel e.2) :
        Run _).run world = (.ok out, w) ∧
      item = .object w.objects.size ∧
      world' = { w with objects := w.objects.push (.mapping out) } := by
  rw [toWireWithin] at sent
  obtain ⟨object?, w₀, found, sent⟩ := run_bind_eq_ok sent
  rw [run_objectOf?_object, here] at found
  cases found
  change (toWireWithin.sendEntries call fuel entries).run world = _ at sent
  rw [toWireWithin.sendEntries] at sent
  obtain ⟨out, w, all, sent⟩ := run_bind_eq_ok sent
  cases sent
  exact ⟨out, w, all, rfl, rfl⟩

theorem toWireWithin_string (s : String) (world : World) :
    (toWireWithin call (fuel + 1) (.string s)).run world = (.ok (.string s), world) := by
  rw [toWireWithin]
  rfl

theorem toWireWithin_int (n : Int) (world : World) :
    (toWireWithin call (fuel + 1) (.int n)).run world = (.ok (.int n), world) := by
  rw [toWireWithin]
  rfl

/-- The entries of a request whose parameters are in the mapping of a number. -/
def requestMembers (id : Int) (name : String) (params : Nat) : List (String × Item) :=
  [("jsonrpc", .string "2.0"), ("id", .int id), ("method", .string name),
    ("params", .object params)]

/-- A world with a request in it, at a number. -/
def HasRequest (id : Int) (name : String) (request : Nat) (world : World) : Prop :=
  ∃ params entries, world.objects[request]? = some (.mapping (requestMembers id name params)) ∧
    world.objects[params]? = some (.mapping entries)

variable {id : Int} {name : String} {request : Nat}

/-- A request is sent as a request. -/
theorem toWireWithin_request {item : Item} (here : HasRequest id name request world)
    (sent : (toWireWithin call (fuel + 3) (.object request)).run world = (.ok item, world')) :
    ∃ request', item = .object request' ∧ HasRequest id name request' world' := by
  obtain ⟨params, entries, here, inside⟩ := here
  obtain ⟨out, w, all, rfl, rfl⟩ := toWireWithin_mapping here sent
  simp only [requestMembers, List.mapM_cons, List.mapM_nil, run_bind, toWireWithin_string,
    toWireWithin_int, run_pure] at all
  cases paramsSent : (toWireWithin call (fuel + 2) (.object params)).run world with
  | mk result w₁ =>
    rw [paramsSent] at all
    cases result with
    | error failure => cases all
    | ok item =>
      obtain ⟨entries', w₂, -, rfl, rfl⟩ := toWireWithin_mapping inside paramsSent
      cases all
      refine ⟨_, rfl, w₂.objects.size, entries', Array.getElem?_push_size, ?_⟩
      rw [Array.getElem?_push, Array.getElem?_push_size, if_neg (by simp)]

theorem plainWithin_mapping {id : Nat} {entries : List (String × Item)}
    (here : world.objects[id]? = some (.mapping entries)) :
    (Item.plainWithin (fuel + 1) (.object id)).run world =
      (do return .object (← entries.mapM fun e => do return (e.1, ← e.2.plainWithin fuel)) :
        Run Value).run world := by
  rw [Item.plainWithin, run_bind, run_objectOf?_object, here]
  rfl

/-- The plain value of a request. -/
theorem plainWithin_request {v : Value} (here : HasRequest id name request world)
    (plain : (Item.plainWithin (fuel + 3) (.object request)).run world = (.ok v, world')) :
    ∃ params, v = envelope id name params := by
  obtain ⟨params, entries, here, inside⟩ := here
  have onString (s : String) :
      (Item.plainWithin (fuel + 2) (.string s)).run world = (.ok (.string s), world) := rfl
  have onInt (n : Int) :
      (Item.plainWithin (fuel + 2) (.int n)).run world = (.ok (.int n), world) := rfl
  rw [plainWithin_mapping here] at plain
  simp only [requestMembers, List.mapM_cons, List.mapM_nil, run_bind, onString, onInt, run_pure,
    plainWithin_mapping inside] at plain
  cases read : (entries.mapM fun e => do return (e.1, ← e.2.plainWithin (fuel + 1)) :
      Run (List (String × Value))).run world with
  | mk result w =>
    rw [read] at plain
    cases result with
    | error failure => cases plain
    | ok out =>
      cases plain
      exact ⟨out, rfl⟩

theorem requestItem_hasRequest {m : Method} {items : List Item} {item : Item}
    (made : (m.requestItem (.int id) items).run world = (.ok item, world')) :
    ∃ request, item = .object request ∧ HasRequest id m.name request world' := by
  obtain ⟨entries, w, -, made⟩ := run_bind_eq_ok made
  cases made
  refine ⟨_, rfl, w.objects.size, entries, Array.getElem?_push_size, ?_⟩
  rw [Array.getElem?_push, Array.getElem?_push_size, if_neg (by simp)]

/-- The text that is posted for a call is that of a request with the number of the call. -/
theorem itemJson_request {m : Method} {items : List Item} {body : String}
    (made : (m.requestItem (.int id) items >>= itemJson invoke).run world = (.ok body, world')) :
    ∃ params, Json.write (envelope id m.name params) = .ok body := by
  obtain ⟨item, w, asked, made⟩ := run_bind_eq_ok made
  obtain ⟨request, rfl, there⟩ := requestItem_hasRequest asked
  obtain ⟨sent, w₁, sending, made⟩ := run_bind_eq_ok made
  obtain ⟨request, rfl, here⟩ := toWireWithin_request there sending
  obtain ⟨v, w₂, plain, made⟩ := run_bind_eq_ok made
  obtain ⟨params, rfl⟩ := plainWithin_request here plain
  refine ⟨params, ?_⟩
  cases written : Json.write (envelope id m.name params) with
  | error failure =>
    rw [written] at made
    cases made
  | ok text =>
    rw [written] at made
    cases made
    rfl

end

end ServiceClient

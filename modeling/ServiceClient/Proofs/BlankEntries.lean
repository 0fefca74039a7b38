import ServiceClient.Proofs.Pages

/-!
Forms in which the inputs of an optional parameter are left blank. An input that takes a text gives
no argument then, so the call is that of the method without the parameter (`blank_argument`). A box
always gives one, as what is not checked is false, and so does a frame, as what its inputs give is
a record: for these the parameter is sent whenever the call is.
-/

namespace ServiceClient

/-- Whether the control of a type gives an argument whatever is entered: a box, or the frame of a
declared type. -/
def TypeRef.isAlwaysEntered (types : List RecordType) : TypeRef → Bool
  | .primitive kind => kind = .boolean
  | .array _ => false
  | .named name => (findType? types name).isSome

/-- How many inputs are made for parameters. -/
def parametersInputCount (types : List RecordType) (params : List Parameter) : Nat :=
  fieldsInputCount (params.map fun p => (p.name, Control.ofType types p.type))

/-- The names of the inputs of a parameter of a call, which come after those of the ones before. -/
def Parameter.inputs (types : List RecordType) (call : String) (before : List Parameter)
    (p : Parameter) : List String :=
  inputKeys call (parametersInputCount types before + 1) (Control.ofType types p.type).inputCount

section

variable {A : Type} {types : List RecordType} {form : Submitted} {action : String → String}

/-! ## What is entered -/

/-- What is entered for parameters, from a state on. -/
def enteredFor (types : List RecordType) (form : Submitted) (action : String → String)
    (params : List Parameter) (s : CallForms A) : List Entered :=
  (buildParameters (Html.toolkit form action) types params s).1.2

theorem enteredFor_cons (p : Parameter) (params : List Parameter) (s : CallForms A) :
    enteredFor types form action (p :: params) s =
      ((Control.ofType types p.type).build (Html.toolkit form action) types (label p.name)
        p.optional s).1.2 ::
      enteredFor types form action params (advance s (Control.ofType types p.type).inputCount) := by
  let make := (Control.ofType types p.type).build (Html.toolkit (A := A) form action) types
    (label p.name) p.optional
  have makes : MakesInputs (fun x => [x.1]) (Control.ofType types p.type).inputCount make :=
    Control.build_makes (label p.name) p.optional (Control.ofType types p.type)
  change (make s).1.2 :: enteredFor types form action params (make s).2 = _
  rw [makes.state]

theorem enteredFor_append (before params : List Parameter) (s : CallForms A) :
    enteredFor types form action (before ++ params) s =
      enteredFor types form action before s ++
        enteredFor types form action params (advance s (parametersInputCount types before)) := by
  induction before generalizing s with
  | nil => rfl
  | cons p before ih =>
    rw [List.cons_append, enteredFor_cons, enteredFor_cons, ih, List.cons_append]
    simp only [advance, parametersInputCount, List.map_cons, fieldsInputCount, Nat.add_assoc]

theorem enteredFor_length (params : List Parameter) (s : CallForms A) :
    (enteredFor types form action params s).length = params.length := by
  induction params generalizing s with
  | nil => rfl
  | cons p params ih => rw [enteredFor_cons, List.length_cons, ih, List.length_cons]

/-- A blank optional input gives nothing. -/
theorem read_blank {key fallback : String} {parse : String → Value}
    (blank : isBlankText ((form.lookup key).getD "") = true) :
    Html.read form key true parse fallback = .absent := by
  simp [Html.read, blank]

theorem ofType_undeclared {name : String} (undeclared : findType? types name = none) :
    Control.ofType types (.named name) = .object name := by
  rw [Control.ofType]
  split
  · rfl
  · rename_i declared
    rw [undeclared] at declared
    cases declared

theorem ofType_declared {name : String} {type : RecordType}
    (declared : findType? types name = some type) :
    ∃ fields, Control.ofType types (.named name) = .frame type fields := by
  rw [Control.ofType]
  split
  · rename_i undeclared
    rw [declared] at undeclared
    cases undeclared
  · rename_i type' declared'
    rw [declared] at declared'
    obtain rfl := Option.some.inj declared'
    exact ⟨_, rfl⟩

/-- The inputs of an optional parameter, left blank, give no argument but for a box or a frame. -/
theorem build_blank {t : TypeRef} {s : CallForms A} (label : String)
    (mayBeAbsent : t.isAlwaysEntered types = false)
    (blank : ∀ key ∈ inputKeys s.current (s.inputs + 1) (Control.ofType types t).inputCount,
      isBlankText ((form.lookup key).getD "") = true) :
    ((Control.ofType types t).build (Html.toolkit form action) types label true s).1.2 =
      .ok .absent := by
  have oneInput (single : (Control.ofType types t).inputCount = 1) :
      isBlankText ((form.lookup (inputKey s.current (s.inputs + 1))).getD "") = true :=
    blank _ (by simp [single, inputKeys])
  cases t with
  | primitive kind =>
    have first := oneInput (by rw [Control.ofType, Control.inputCount])
    rw [Control.ofType]
    cases kind with
    | number => exact congrArg Except.ok (read_blank first)
    | string => exact congrArg Except.ok (read_blank first)
    | boolean => simp [TypeRef.isAlwaysEntered] at mayBeAbsent
  | array element =>
    have first := oneInput (by rw [Control.ofType, Control.inputCount])
    rw [Control.ofType]
    exact congrArg (Value.ofWire types (.array element)) (read_blank first)
  | named name =>
    have undeclared : findType? types name = none := by
      simpa [TypeRef.isAlwaysEntered] using mayBeAbsent
    have control := ofType_undeclared undeclared
    have first := oneInput (by rw [control, Control.inputCount])
    rw [control]
    exact congrArg (Value.ofWire types (.named name)) (read_blank first)

/-- What a box or a frame gives is not left out. -/
theorem build_given {t : TypeRef} {s : CallForms A} {optional : Bool} {v : Value} (label : String)
    (always : t.isAlwaysEntered types = true)
    (entered : ((Control.ofType types t).build (Html.toolkit form action) types label optional
      s).1.2 = .ok v) : v.isOmitted = false := by
  cases t with
  | primitive kind =>
    obtain rfl : kind = .boolean := by simpa [TypeRef.isAlwaysEntered] using always
    rw [Control.ofType] at entered
    obtain rfl := Except.ok.inj entered
    rfl
  | array element => cases always
  | named name =>
    obtain ⟨type, declared⟩ := Option.isSome_iff_exists.mp always
    obtain ⟨fields, control⟩ := ofType_declared declared
    rw [control] at entered
    change (allEntered (buildFields (Html.toolkit form action) types fields s).1.2).map
      (Value.record type ·) = .ok v at entered
    cases fieldsEntered :
        allEntered (buildFields (Html.toolkit form action) types fields s).1.2 with
    | error failure =>
      rw [fieldsEntered] at entered
      cases entered
    | ok values =>
      rw [fieldsEntered] at entered
      obtain rfl := Except.ok.inj entered
      rfl

theorem allEntered_eq_ok {entered : List Entered} {args : List Value} :
    allEntered entered = .ok args ↔ entered = args.map .ok := by
  constructor
  · intro all
    induction entered generalizing args with
    | nil =>
      obtain rfl := Except.ok.inj all
      rfl
    | cons first entered ih =>
      rw [allEntered] at all
      obtain ⟨v, rfl, rest⟩ := bind_eq_ok.mp all
      obtain ⟨vs, others, same⟩ := bind_eq_ok.mp rest
      obtain rfl := pure_eq_ok.mp same
      rw [ih others, List.map_cons]
  · rintro rfl
    exact allEntered_ok args

/-- The arguments in the form of a method, with that of one parameter singled out. -/
theorem ownForm_entered {submit : Submission → A} {m : Method} {before after : List Parameter}
    {p : Parameter} {args : List Value} (split : m.params = before ++ p :: after)
    (entered : (m.ownForm types form action submit).2 = .ok args) :
    ∃ (front : List Value) (v : Value) (back : List Value), args = front ++ v :: back ∧
      front.length = before.length ∧ back.length = after.length ∧
      ((Control.ofType types p.type).build (Html.toolkit (A := A) form action) types
        (label p.name) p.optional ⟨m.name, parametersInputCount types before, []⟩).1.2 =
          .ok v := by
  let start : CallForms A := ⟨m.name, 0, []⟩
  have whole : enteredFor types form action m.params start = args.map .ok :=
    allEntered_eq_ok.mp entered
  rw [split, enteredFor_append, enteredFor_cons] at whole
  simp only [start, advance, Nat.zero_add] at whole
  obtain ⟨front, rest, rfl, frontRead, restRead⟩ := List.map_eq_append_iff.mp whole.symm
  obtain ⟨v, back, rfl, read, backRead⟩ := List.map_eq_cons_iff.mp restRead
  have size : front.length = before.length := by
    rw [← List.length_map, frontRead, enteredFor_length]
  have size' : back.length = after.length := by
    rw [← List.length_map, backRead, enteredFor_length]
  exact ⟨front, v, back, rfl, size, size', read.symm⟩

end

/-! ## What is sent -/

/-- An optional argument that is left out might as well not be asked for. -/
theorem requestParams_omitted {before after : List Parameter} {p : Parameter}
    {front back : List Value} {v : Value} (full : front.length = before.length)
    (omitted : (p.optional && v.isOmitted) = true) :
    Method.requestParams (before ++ p :: after) (front ++ v :: back) =
      Method.requestParams (before ++ after) (front ++ back) := by
  induction before generalizing front with
  | nil =>
    obtain rfl : front = [] := by simpa using full
    rw [List.nil_append, List.nil_append, Method.requestParams, if_pos omitted]
    rfl
  | cons q before ih =>
    cases front with
    | nil => simp at full
    | cons u front =>
      simp only [List.cons_append, Method.requestParams, ih (Nat.succ.inj full)]

/-- Whether an argument is sent for a parameter. -/
def isSent (e : Parameter × Value) : Bool := !(e.1.optional && e.2.isOmitted)

/-- The arguments that are sent are those that are not left out. -/
theorem requestParams_names {params : List Parameter} {values : List Value}
    {entries : List (String × Value)}
    (sent : Method.requestParams params values = .ok entries) :
    entries.map (·.1) = ((params.zip values).filter isSent).map (·.1.name) := by
  induction params generalizing values entries with
  | nil =>
    obtain rfl : [] = entries := by simpa [Method.requestParams] using sent
    rfl
  | cons p params ih =>
    cases values with
    | nil =>
      obtain rfl : [] = entries := by simpa [Method.requestParams] using sent
      rfl
    | cons v values =>
      rcases requestParams_cons_eq_ok.mp sent with
        ⟨omitted, others⟩ | ⟨given, -, w, rest, -, others, rfl⟩
      · have left : isSent (p, v) = false := by simp [isSent, omitted]
        rw [List.zip_cons_cons, List.filter_cons_of_neg (by simp [left]), ih others]
      · have kept : isSent (p, v) = true := by simp [isSent, given]
        rw [List.zip_cons_cons, List.filter_cons_of_pos kept, List.map_cons, List.map_cons,
          ih others]

/-- Of parameters with different names, one is sent if its own argument is. -/
theorem name_mem_sent {before after : List Parameter} {p : Parameter} {front back : List Value}
    {v : Value} (distinct : ((before ++ p :: after).map (·.name)).Nodup)
    (full : front.length = before.length) :
    p.name ∈ (((before ++ p :: after).zip (front ++ v :: back)).filter isSent).map (·.1.name) ↔
      isSent (p, v) = true := by
  rw [List.map_append, List.map_cons] at distinct
  obtain ⟨-, rest, apart⟩ := List.nodup_append.mp distinct
  rw [List.zip_append full.symm, List.zip_cons_cons]
  constructor
  · intro listed
    obtain ⟨⟨q, u⟩, kept, same⟩ := List.mem_map.mp listed
    obtain ⟨inside, sent⟩ := List.mem_filter.mp kept
    rcases List.mem_append.mp inside with earlier | later
    · have there : q.name ∈ before.map (·.name) :=
        List.mem_map_of_mem (List.of_mem_zip earlier).1
      exact absurd same (apart q.name there p.name List.mem_cons_self)
    · rcases List.mem_cons.mp later with here | later
      · exact here ▸ sent
      · have there : q.name ∈ after.map (·.name) := List.mem_map_of_mem (List.of_mem_zip later).1
        exact absurd (same ▸ there) (List.nodup_cons.mp rest).1
  · intro sent
    refine List.mem_map.mpr ⟨(p, v), List.mem_filter.mpr ⟨?_, sent⟩, rfl⟩
    exact List.mem_append_right _ List.mem_cons_self

/-- Parameters of a method have different names: each stands at one place of the call, and is the
entry of its name. -/
theorem Method.WrittenIn.params_nodup {m : Method} {raw : Value} (written : m.WrittenIn raw)
    (regular : raw.isRegular = true) : (m.params.map (·.name)).Nodup := by
  obtain ⟨entry, params, rfl, found, -, places⟩ := written
  obtain ⟨-, inside⟩ := Value.everywhere_object.mp regular
  obtain ⟨keys, -⟩ := regular_entries found fun v here => inside _ (mem_of_lookup here)
  rw [List.Nodup, List.pairwise_iff_getElem]
  intro i j hi hj before same
  rw [List.length_map] at hi hj
  rw [List.getElem_map, List.getElem_map] at same
  obtain ⟨entryI, inI, orderI, -⟩ := places i m.params[i] (List.getElem?_eq_getElem hi)
  obtain ⟨entryJ, inJ, orderJ, -⟩ := places j m.params[j] (List.getElem?_eq_getElem hj)
  have lookupI := (lookup_eq_some_iff_mem keys).mpr inI
  have lookupJ := (lookup_eq_some_iff_mem keys).mpr inJ
  rw [same, lookupJ] at lookupI
  obtain rfl : entryJ = entryI := by simpa using lookupI
  rw [orderI] at orderJ
  have places : (i : Int) + 1 = j + 1 := by simpa using orderJ
  omega

theorem build_params_nodup {description : Value} {endpoint name : String} {client : Client}
    {m : Method} (regular : description.isRegular = true)
    (built : Client.build description endpoint = .ok client)
    (stub : (name, m) ∈ client.methodList) : (m.params.map (·.name)).Nodup := by
  obtain ⟨⟨fields, _, methods, rfl, -, found, -, written⟩, -⟩ := build_writtenIn built
  obtain ⟨-, raw, inside, writtenIn⟩ := written name m stub
  obtain ⟨-, parts⟩ := Value.everywhere_object.mp regular
  obtain ⟨-, methodsRegular⟩ := regular_entries found fun v here => parts _ (mem_of_lookup here)
  exact writtenIn.params_nodup (methodsRegular _ inside)

/-! ## Submitting -/

section

variable {client : Client} {m : Method} {before after : List Parameter} {p : Parameter}
  {front back : List Value} {v : Value}

/-- A call with an argument that is left out is that of the method without the parameter. -/
theorem call_omitted (split : m.params = before ++ p :: after)
    (full : front.length = before.length) (full' : back.length = after.length)
    (omitted : (p.optional && v.isOmitted) = true) (link : Link) :
    client.call m (front ++ v :: back) [] link =
      client.call { m with params := before ++ after } (front ++ back) [] link := by
  have bound : m.bind (front ++ v :: back) [] = .ok (front ++ v :: back) :=
    bind_full (by simp [split, full, full'])
  have bound' : ({ m with params := before ++ after } : Method).bind (front ++ back) [] =
      .ok (front ++ back) := bind_full (by simp [full, full'])
  have request (id : Value) : m.request id (front ++ v :: back) =
      ({ m with params := before ++ after } : Method).request id (front ++ back) := by
    rw [Method.request, Method.request, split, requestParams_omitted full omitted]
  have result (response : Value) :
      m.result response = ({ m with params := before ++ after } : Method).result response := by
    cases response <;> rfl
  rw [call_eq_send bound, call_eq_send bound']
  simp only [Client.send, Client.post, request, funext result]

/-- What a call posts, if it posts anything: the arguments that are not left out. -/
theorem call_posts {args : List Value} (full : args.length = m.params.length) (link : Link) :
    (client.call m args [] link).2.sent = link.sent ∨ ∃ params body,
      (client.call m args [] link).2.sent =
        link.sent ++ [⟨"POST", client.endpoint, some body⟩] ∧
      Json.write (envelope link.nextId m.name params) = .ok body ∧
      params.map (·.1) = ((m.params.zip args).filter isSent).map (·.1.name) := by
  rcases call_cases client m args [] link with
    ⟨failure, -, call⟩ | ⟨values, failure, -, -, call⟩ | ⟨values, body, bound, written, call⟩
  · exact .inl (by rw [call])
  · exact .inl (by rw [call])
  · obtain rfl : args = values := Except.ok.inj ((bind_full full).symm.trans bound)
    obtain ⟨request, requested, written⟩ := bind_eq_ok.mp written
    obtain ⟨params, sent, rfl⟩ := request_eq_ok.mp requested
    exact .inr ⟨params, body, by rw [call], written, requestParams_names sent⟩

end

/-- The submission of a form in which the inputs of an optional parameter are blank. If they take
texts the submission goes as if the method had no such parameter; and whatever is posted has an
argument for the parameter if and only if it is entered in a box or a frame. -/
theorem blank_argument {description : Value} {endpoint name : String} {client : Client}
    {m : Method} {before after : List Parameter} {p : Parameter} {form : Submitted}
    (regular : description.isRegular = true)
    (built : Client.build description endpoint = .ok client)
    (stub : (name, m) ∈ client.methodList) (split : m.params = before ++ p :: after)
    (optional : p.optional = true)
    (blank : ∀ key ∈ p.inputs client.types name before,
      isBlankText ((form.lookup key).getD "") = true)
    (action : String → String) (link : Link) :
    let args := (m.ownForm client.types form action id).2
    let run := Submission.run client ⟨m, args⟩ link
    (p.type.isAlwaysEntered client.types = false →
      run = Submission.run client
        ⟨{ m with params := before ++ after }, args.map (·.eraseIdx before.length)⟩ link) ∧
    (run.2.sent = link.sent ∨ ∃ params body,
      run.2.sent = link.sent ++ [⟨"POST", endpoint, some body⟩] ∧
      Json.write (envelope link.nextId name params) = .ok body ∧
      (p.name ∈ params.map (·.1) ↔ p.type.isAlwaysEntered client.types = true)) := by
  obtain ⟨writtenIn, rfl⟩ := build_writtenIn built
  obtain rfl := (writtenIn.of_mem_methodList stub).1
  have distinct := build_params_nodup regular built stub
  intro args run
  cases entered : args with
  | error failure =>
    have done : run = (.error failure, link) := by simp only [run, entered, Submission.run]
    exact ⟨fun _ => by rw [done]; rfl, .inl (by rw [done])⟩
  | ok values =>
    obtain ⟨front, v, back, rfl, size, size', given⟩ := ownForm_entered split entered
    rw [optional] at given
    have absent (mayBe : p.type.isAlwaysEntered client.types = false) : v = .absent :=
      Except.ok.inj (given.symm.trans (build_blank (label p.name) mayBe blank))
    have ran : run = client.call m (front ++ v :: back) [] link := by
      simp only [run, entered, Submission.run]
    rw [ran]
    constructor
    · intro mayBe
      obtain rfl := absent mayBe
      have omitted : (p.optional && Value.absent.isOmitted) = true := by rw [optional]; rfl
      rw [call_omitted split size size' omitted, ← size]
      simp [Submission.run, Except.map, List.eraseIdx_append_of_length_le]
    · have full : (front ++ v :: back).length = m.params.length := by
        simp [split, size, size']
      rcases @call_posts client m _ full link with
        quiet | ⟨params, body, posted, written, names⟩
      · exact .inl quiet
      · refine .inr ⟨params, body, posted, written, ?_⟩
        rw [names, split, name_mem_sent (split ▸ distinct) size, isSent, optional]
        cases always : p.type.isAlwaysEntered client.types with
        | true => simp [build_given (label p.name) always given]
        | false => simp [absent always, Value.isOmitted]

/-- A description with optional parameters: one that is entered as a text, one in a box, and two in
frames. -/
def visitsDescription : Value :=
  let method (name : String) (param : String) (type : String) : String × Value :=
    (name, .object [("params", .object [(param, .object [("type", .string type),
      ("optional", .bool true), ("def_order", .int 1)])])])
  .object [
    ("types", .object [("Place", .object [("city", .string "string")]),
      ("Spot", .object [("x", .string "number")])]),
    ("methods", .object [method "list" "level" "number", method "mute" "flag" "boolean",
      method "find" "place" "Place", method "go" "to" "Spot"])]

def visitsMethod (name param : String) (type : TypeRef) : Method where
  name
  params := [{ name := param, type, optional := true, docs := [] }]
  returns := none
  docs := []
  returnDocs := []
  docSource := .list []
  returnDocSource := .list []

def listMethod : Method := visitsMethod "list" "level" (.primitive .number)

def muteMethod : Method := visitsMethod "mute" "flag" (.primitive .boolean)

def findMethod : Method := visitsMethod "find" "place" (.named "Place")

def goMethod : Method := visitsMethod "go" "to" (.named "Spot")

def visitsClient : Client where
  serviceName := .string ""
  endpoint := "/rpc"
  types := [⟨"Place", [("city", .primitive .string)]⟩, ⟨"Spot", [("x", .primitive .number)]⟩]
  methods := [("list", .leaf listMethod), ("mute", .leaf muteMethod), ("find", .leaf findMethod),
    ("go", .leaf goMethod)]

theorem visits_built : Client.build visitsDescription "/rpc" = .ok visitsClient := by
  with_unfolding_all rfl

/-- Submits the form of a method with nothing entered in it. -/
def submitBlank (m : Method) : Except Failure Value × Link :=
  Submission.run visitsClient
    ⟨m, (m.ownForm visitsClient.types [] Html.relativeAction id).2⟩ (.start 0 [])

theorem blank_argument_level :
    (submitBlank listMethod).2.sent.length = 1 ∧
      ∃ params body, (submitBlank listMethod).2.sent = [⟨"POST", "/rpc", some body⟩] ∧
        Json.write (envelope 0 "list" params) = .ok body ∧ "level" ∉ params.map (·.1) := by
  have once : (submitBlank listMethod).2.sent.length = 1 := by with_unfolding_all rfl
  let level : Parameter :=
    { name := "level", type := .primitive .number, optional := true, docs := [] }
  have split : listMethod.params = [] ++ level :: [] := rfl
  have blank (key : String) : isBlankText ((([] : Submitted).lookup key).getD "") = true := rfl
  obtain ⟨-, quiet | ⟨params, body, posted, written, named⟩⟩ := blank_argument (by decide)
    visits_built (List.mem_cons_self : ("list", listMethod) ∈ _) split rfl (fun key _ => blank key)
    Html.relativeAction (.start 0 [])
  · rw [submitBlank, quiet] at once
    cases once
  · exact ⟨once, params, body, posted, written, mt named.mp (by decide)⟩

/-- With nothing entered, a box is sent as false and a frame as a record; and a record that cannot
be sent makes the call fail. -/
theorem blank_argument_given :
    (submitBlank muteMethod).2.sent = [⟨"POST", "/rpc",
      some ("\x7b\"jsonrpc\": \"2.0\", \"id\": 0, \"method\": \"mute\", \"params\": " ++
        "\x7b\"flag\": false\x7d\x7d")⟩] ∧
      (submitBlank findMethod).2.sent = [⟨"POST", "/rpc",
        some ("\x7b\"jsonrpc\": \"2.0\", \"id\": 0, \"method\": \"find\", \"params\": " ++
          "\x7b\"place\": \x7b\"city\": \"\"\x7d\x7d\x7d")⟩] ∧
      (submitBlank goMethod).1 = .error (.mismatch "Spot.x" ⟨[], .primitive .number⟩) :=
  ⟨by with_unfolding_all rfl, by with_unfolding_all rfl, by with_unfolding_all rfl⟩

end ServiceClient

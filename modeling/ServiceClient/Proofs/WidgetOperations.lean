import ServiceClient.Proofs.FormLayout
import ServiceClient.Proofs.Pages

/-!
What a widget factory is asked for while a form is built. The operations of a `Factory` may fail,
and each may depend on those before it. Its toolkit leaves a form as an act that asks for one after
the other. They are the steps that the controls of the form stand for, each once, and if none of
them fails the form is built (`builds_forms`).
-/

namespace ServiceClient

/-- How a widget is made. -/
inductive WidgetOperation
  | input (label : String) (kind : InputKind) (optional : Bool)
  | arrayInput (label : String) (element : TypeRef) (optional : Bool)
  | frame (label : String)
  | fieldset
  | callForm (title : String)
  | group (title : Option String)

/-- A step in the building of a form: a call is begun, or a widget is made, with some of those made
before inside it. -/
inductive FormStep
  | startCall (name : String)
  | make (operation : WidgetOperation) (inside : Nat)

/-- Whether an input is made. -/
def FormStep.isInput : FormStep → Bool
  | make (.input ..) _ | make (.arrayInput ..) _ => true
  | _ => false

/-- Makes widgets by operations that may change a state and may fail. A call form is given what it
does when it is submitted. -/
structure Factory (ε τ W A : Type) where
  startCall : (name : String) → StateT τ (Except ε) Unit
  make : WidgetOperation → (inside : List W) → (submit : Option A) → StateT τ (Except ε) W

namespace Factory

variable {ε τ W A : Type}

/-- No operation of a factory fails, in whatever state. -/
structure Succeeds (f : Factory ε τ W A) : Prop where
  startCall (name : String) (s : τ) : ∃ s', f.startCall name s = .ok ((), s')
  make (operation : WidgetOperation) (inside : List W) (submit : Option A) (s : τ) :
    ∃ w s', f.make operation inside submit s = .ok (w, s')

/-- The toolkit of a factory. A widget of it is an act that makes one of the factory, after those
inside it; the name of a call is kept for its form. `entered` stands in every input. -/
def toolkit (f : Factory ε τ W A) (entered : Value) :
    Toolkit String (StateT τ (Except ε) W) A Value where
  startCall name := set name
  input label kind optional := return (f.make (.input label kind optional) [] none, entered)
  arrayInput label element optional :=
    return (f.make (.arrayInput label element optional) [] none, entered)
  frame label inner := do f.make (.frame label) [← inner] none
  fieldset children := do f.make .fieldset (← children.mapM id) none
  callForm title children submit := do
    let name ← get
    return do
      f.startCall name
      f.make (.callForm title) (← children.mapM id) (some submit)
  group title children := do f.make (.group title) (← children.mapM id) none

/-- The steps that take a factory from one state to another. Beside the state stand the widgets that
were made and are not inside others; a new one takes the last of them. -/
inductive Run (f : Factory ε τ W A) : τ × List W → List FormStep → τ × List W → Prop
  | nothing (s : τ × List W) : f.Run s [] s
  | startCall {s : τ × List W} {t t' : τ} {free : List W} {steps : List FormStep} {name : String}
      (earlier : f.Run s steps (t, free)) (done : f.startCall name t = .ok ((), t')) :
      f.Run s (steps ++ [.startCall name]) (t', free)
  | make {s : τ × List W} {t t' : τ} {free inside : List W} {steps : List FormStep}
      {operation : WidgetOperation} {submit : Option A} {w : W}
      (earlier : f.Run s steps (t, free ++ inside))
      (done : f.make operation inside submit t = .ok (w, t')) :
      f.Run s (steps ++ [.make operation inside.length]) (t', free ++ [w])

/-- A factory that also writes down its steps. -/
def logged (f : Factory ε τ W A) : Factory ε (τ × List FormStep) W A where
  startCall name := fun (s, log) => do
    let (_, s) ← f.startCall name s
    return ((), (s, log ++ [.startCall name]))
  make operation inside submit := fun (s, log) => do
    let (w, s) ← f.make operation inside submit s
    return (w, (s, log ++ [.make operation inside.length]))

theorem Succeeds.logged {f : Factory ε τ W A} (succeeds : f.Succeeds) : f.logged.Succeeds where
  startCall name := by
    rintro ⟨s, log⟩
    obtain ⟨s', done⟩ := succeeds.startCall name s
    refine ⟨(s', log ++ [.startCall name]), ?_⟩
    change (f.startCall name s >>= _) = _
    rw [done]
    rfl
  make operation inside submit := by
    rintro ⟨s, log⟩
    obtain ⟨w, s', done⟩ := succeeds.make operation inside submit s
    refine ⟨w, (s', log ++ [.make operation inside.length]), ?_⟩
    change (f.make operation inside submit s >>= _) = _
    rw [done]
    rfl

/-- The steps that lead from one state to another are those written down between them. -/
theorem Run.log_eq {f : Factory ε τ W A} {s s' : (τ × List FormStep) × List W}
    {steps : List FormStep} (run : f.logged.Run s steps s') : s'.1.2 = s.1.2 ++ steps := by
  induction run with
  | nothing => rw [List.append_nil]
  | startCall _ done ih =>
    obtain ⟨r, -, same⟩ := bind_eq_ok.mp done
    obtain ⟨-, rfl⟩ := Prod.ext_iff.mp (pure_eq_ok.mp same)
    rw [ih, List.append_assoc]
  | make _ done ih =>
    obtain ⟨r, -, same⟩ := bind_eq_ok.mp done
    obtain ⟨-, rfl⟩ := Prod.ext_iff.mp (pure_eq_ok.mp same)
    rw [ih, List.append_assoc]

end Factory

/-! ## The steps of a form -/

mutual

/-- The steps for a control: one for an input, and for a frame those for its fields and two that put
them together. -/
def Control.steps (label : String) (optional : Bool) : Control → List FormStep
  | .primitive kind => [.make (.input label (.ofPrimitive kind) optional) 0]
  | .array element => [.make (.arrayInput label element optional) 0]
  | .object _ => [.make (.input label .object optional) 0]
  | .frame _ fields => fieldSteps fields ++ [.make .fieldset fields.length, .make (.frame label) 1]

def fieldSteps : List (String × Control) → List FormStep
  | [] => []
  | (name, control) :: rest => control.steps (label name) false ++ fieldSteps rest

end

/-- The steps for the form of a record. -/
def RecordType.steps (types : List RecordType) (type : RecordType) : List FormStep :=
  fieldSteps (Control.ofRecord types type) ++ [.make .fieldset type.fields.length]

/-- The steps for the parameters of a call. -/
def parameterSteps (types : List RecordType) (params : List Parameter) : List FormStep :=
  params.flatMap fun p => (Control.ofType types p.type).steps (label p.name) p.optional

/-- The steps for the form of a call. -/
def Method.steps (types : List RecordType) (m : Method) : List FormStep :=
  .startCall m.name :: parameterSteps types m.params ++ [.make (.callForm m.title) m.params.length]

mutual

/-- The steps for the forms of a member of a namespace, which is known there as `name`. -/
def memberSteps (types : List RecordType) (name : String) : NameTree Method → List FormStep
  | .leaf m => m.steps types
  | .branch members =>
    let title := if name.isEmpty then none else some (label name)
    membersSteps types members ++ [.make (.group title) members.length]

def membersSteps (types : List RecordType) : List (String × NameTree Method) → List FormStep
  | [] => []
  | (name, member) :: rest => memberSteps types name member ++ membersSteps types rest

end

/-! ## Acts that end well -/

section

variable {ε τ W A X Y : Type} {f : Factory ε τ W A} {steps steps' : List FormStep}
  {inside : List W} {made : X → List W} {made' : Y → List W} {count count' : Nat}

theorem Factory.Run.append {s s' s'' : τ × List W} (first : f.Run s steps s')
    (rest : f.Run s' steps' s'') : f.Run s (steps ++ steps') s'' := by
  induction rest with
  | nothing => rwa [List.append_nil]
  | startCall _ done ih =>
    rw [← List.append_assoc]
    exact ih.startCall done
  | make _ done ih =>
    rw [← List.append_assoc]
    exact ih.make done

/-- From every state an act ends well, by these steps of a factory. They put the widgets of `inside`
into others, and leave some that were made. -/
def Performs (f : Factory ε τ W A) (inside : List W) (act : StateT τ (Except ε) X)
    (steps : List FormStep) (made : X → List W) (count : Nat) : Prop :=
  ∀ s, ∃ x s', act s = .ok (x, s') ∧ (made x).length = count ∧
    ∀ free, f.Run (s, free ++ inside) steps (s', free ++ made x)

/-- An act makes one widget, by these steps of a factory. -/
abbrev Makes (f : Factory ε τ W A) (act : StateT τ (Except ε) W) (steps : List FormStep) : Prop :=
  Performs f [] act steps (fun w => [w]) 1

/-- Acts make a widget each, by these steps of a factory. -/
abbrev MakesAll (f : Factory ε τ W A) (acts : List (StateT τ (Except ε) W))
    (steps : List FormStep) : Prop :=
  Performs f [] (acts.mapM id) steps id acts.length

theorem Performs.bind {act : StateT τ (Except ε) X} {next : X → StateT τ (Except ε) Y}
    (first : Performs f inside act steps made count)
    (rest : ∀ x, (made x).length = count → Performs f (made x) (next x) steps' made' count') :
    Performs f inside (act >>= next) (steps ++ steps') made' count' := by
  intro s
  obtain ⟨x, s', done, size, run⟩ := first s
  obtain ⟨y, s'', done', size', run'⟩ := rest x size s'
  refine ⟨y, s'', ?_, size', fun free => (run free).append (run' free)⟩
  change (act s >>= fun r => next r.1 r.2) = _
  rw [done]
  exact done'

theorem performs_pure (made : X → List W) (x : X) :
    Performs f (made x) (pure x) [] made (made x).length :=
  fun s => ⟨x, s, rfl, rfl, fun _ => .nothing _⟩

/-- Widgets that an act makes stand behind the others. -/
theorem Performs.beside {act : StateT τ (Except ε) X}
    (performs : Performs f [] act steps made count) (inside : List W) :
    Performs f inside act steps (fun x => inside ++ made x) (inside.length + count) := by
  intro s
  obtain ⟨x, s', done, size, run⟩ := performs s
  refine ⟨x, s', done, ?_, fun free => ?_⟩
  · rw [List.length_append, size]
  · simpa using run (free ++ inside)

theorem Factory.Succeeds.makes (succeeds : f.Succeeds) (operation : WidgetOperation)
    (inside : List W) (submit : Option A) :
    Performs f inside (f.make operation inside submit) [.make operation inside.length]
      (fun w => [w]) 1 := by
  intro s
  obtain ⟨w, s', done⟩ := succeeds.make operation inside submit s
  exact ⟨w, s', done, rfl, fun _ => .make (.nothing _) done⟩

theorem Factory.Succeeds.starts (succeeds : f.Succeeds) (name : String) :
    Performs f [] (f.startCall name) [.startCall name] (fun _ => []) 0 := by
  intro s
  obtain ⟨s', done⟩ := succeeds.startCall name s
  refine ⟨(), s', done, rfl, fun free => ?_⟩
  rw [List.append_nil]
  exact .startCall (.nothing _) done

theorem makesAll_nil : MakesAll f [] [] := performs_pure id []

theorem Performs.cons {act : StateT τ (Except ε) W} {acts : List (StateT τ (Except ε) W)}
    (first : Makes f act steps) (rest : MakesAll f acts steps') :
    MakesAll f (act :: acts) (steps ++ steps') := by
  rw [MakesAll, List.mapM_cons]
  apply first.bind
  intro w _
  rw [← List.append_nil steps']
  apply (rest.beside [w]).bind
  intro ws size
  have size : (w :: ws).length = acts.length + 1 := by
    simpa [Nat.add_comm] using size
  have whole : Performs f (w :: ws) _ _ _ _ := performs_pure id (w :: ws)
  rwa [id, size] at whole

/-- Widgets are made, and then one that they stand inside. -/
theorem Performs.around (succeeds : f.Succeeds) (operation : WidgetOperation) (submit : Option A)
    {acts : List (StateT τ (Except ε) W)} (inside : MakesAll f acts steps) :
    Makes f (do f.make operation (← acts.mapM id) submit)
      (steps ++ [.make operation acts.length]) := by
  apply inside.bind
  intro ws size
  rw [← size]
  exact succeeds.makes operation ws submit

/-- What an act asks a factory for is its steps, and nothing else. -/
theorem Performs.asks {act : StateT (τ × List FormStep) (Except ε) X} {inside : List W}
    {made : X → List W} (performs : Performs f.logged inside act steps made count) (t : τ)
    (log : List FormStep) : ∃ x t', act (t, log) = .ok (x, (t', log ++ steps)) := by
  obtain ⟨x, ⟨t', log'⟩, done, -, run⟩ := performs (t, log)
  obtain rfl : log' = log ++ steps := (run []).log_eq
  exact ⟨x, t', done⟩

/-! ## Forms of a factory -/

variable {types : List RecordType} {entered : Value} {submit : Submission → A}

mutual

/-- A control is made by the steps for it. The call whose form is made stays the same. -/
theorem Control.build_performs (succeeds : f.Succeeds) (label : String) (optional : Bool) :
    (control : Control) → (s : String) →
    let made := control.build (f.toolkit entered) types label optional s
    Makes f made.1.1 (control.steps label optional) ∧ made.2 = s
  | .primitive kind, _ => ⟨succeeds.makes (.input label (.ofPrimitive kind) optional) [] none, rfl⟩
  | .array element, _ => ⟨succeeds.makes (.arrayInput label element optional) [] none, rfl⟩
  | .object _, _ => ⟨succeeds.makes (.input label .object optional) [] none, rfl⟩
  | .frame _ fields, s => by
    obtain ⟨inside, size, same⟩ := buildFields_performs succeeds fields s
    have fieldset := inside.around succeeds .fieldset none
    rw [size] at fieldset
    have frame (w : W) (_ : [w].length = 1) :
        Performs f [w] (f.make (.frame label) [w] none) [.make (.frame label) 1] (fun w => [w]) 1 :=
      succeeds.makes (.frame label) [w] none
    have framed := fieldset.bind frame
    rw [List.append_assoc] at framed
    exact ⟨framed, same⟩

theorem buildFields_performs (succeeds : f.Succeeds) :
    (fields : List (String × Control)) → (s : String) →
    let made := buildFields (f.toolkit entered) types fields s
    MakesAll f made.1.1 (fieldSteps fields) ∧ made.1.1.length = fields.length ∧ made.2 = s
  | [], _ => ⟨makesAll_nil, rfl, rfl⟩
  | (name, control) :: rest, s => by
    let make := control.build (f.toolkit entered) types (label name) false
    obtain ⟨first, same⟩ : Makes f (make s).1.1 _ ∧ (make s).2 = s :=
      Control.build_performs succeeds (label name) false control s
    obtain ⟨others, size, same'⟩ := buildFields_performs succeeds rest (make s).2
    exact ⟨first.cons others, congrArg Nat.succ size, same'.trans same⟩

end

theorem buildParameters_performs (succeeds : f.Succeeds) (params : List Parameter) (s : String) :
    let made := buildParameters (f.toolkit entered) types params s
    MakesAll f made.1.1 (parameterSteps types params) ∧ made.1.1.length = params.length ∧
      made.2 = s := by
  induction params generalizing s with
  | nil => exact ⟨makesAll_nil, rfl, rfl⟩
  | cons p params ih =>
    let control := Control.ofType types p.type
    let make := control.build (f.toolkit entered) types (label p.name) p.optional
    obtain ⟨first, same⟩ : Makes f (make s).1.1 _ ∧ (make s).2 = s :=
      Control.build_performs succeeds (label p.name) p.optional control s
    obtain ⟨others, size, same'⟩ := ih (make s).2
    rw [parameterSteps, List.flatMap_cons]
    exact ⟨first.cons others, congrArg Nat.succ size, same'.trans same⟩

/-- The form of a record is built by its steps. -/
theorem recordForm_performs (succeeds : f.Succeeds) (type : RecordType) (s : String) :
    Makes f (type.buildForm (f.toolkit entered) types s).1.1 (type.steps types) := by
  obtain ⟨inside, size, -⟩ := buildFields_performs succeeds (Control.ofRecord types type) s
  have made := inside.around succeeds .fieldset none
  rw [size, Control.ofRecord, List.length_map] at made
  exact made

/-- The form of a call is built by its steps. -/
theorem callForm_performs (succeeds : f.Succeeds) (m : Method) (s : String) :
    Makes f (m.buildForm (f.toolkit entered) types submit s).1.1 (m.steps types) := by
  let build := buildParameters (f.toolkit entered) types m.params
  obtain ⟨inside, size, same⟩ : MakesAll f (build m.name).1.1 _ ∧ _ ∧ (build m.name).2 = _ :=
    buildParameters_performs succeeds m.params m.name
  have form := inside.around succeeds (.callForm m.title)
    (some (submit ⟨m, allEntered (build m.name).1.2⟩))
  rw [size] at form
  have begun := (succeeds.starts m.name).bind fun _ _ => form
  -- The call that the widget is for is the one that was begun before its parameters.
  change Makes f (do
    f.startCall (build m.name).2
    f.make (.callForm m.title) (← (build m.name).1.1.mapM id)
      (some (submit ⟨m, allEntered (build m.name).1.2⟩))) _
  rw [same]
  exact begun

mutual

/-- The forms of a member of a namespace are built by its steps. -/
theorem buildMember_performs (succeeds : f.Succeeds) (name : String) :
    (member : NameTree Method) → (s : String) →
    Makes f (buildMember (f.toolkit entered) types submit name member s).1
      (memberSteps types name member)
  | .leaf m, s => callForm_performs succeeds m s
  | .branch members, s => by
    obtain ⟨inside, size⟩ := buildMembers_performs succeeds members s
    have made := inside.around succeeds (.group (if name.isEmpty then none else some (label name)))
      none
    rw [size] at made
    exact made

theorem buildMembers_performs (succeeds : f.Succeeds) :
    (members : List (String × NameTree Method)) → (s : String) →
    let acts := (buildMembers (f.toolkit entered) types submit members s).1
    MakesAll f acts (membersSteps types members) ∧ acts.length = members.length
  | [], _ => ⟨makesAll_nil, rfl⟩
  | (name, member) :: rest, s => by
    let make := buildMember (f.toolkit entered) types submit name member
    have first : Makes f (make s).1 _ := buildMember_performs succeeds name member s
    obtain ⟨others, size⟩ := buildMembers_performs succeeds rest (make s).2
    exact ⟨first.cons others, congrArg Nat.succ size⟩

end

end

/-! ## Numbers of inputs -/

mutual

/-- The inputs of a control are those made in the steps for it. -/
theorem Control.countP_steps (label : String) (optional : Bool) : (control : Control) →
    (control.steps label optional).countP FormStep.isInput = control.inputCount
  | .primitive _ | .array _ | .object _ => rfl
  | .frame _ fields => by
    rw [Control.steps, List.countP_append, countP_fieldSteps fields]
    rfl

theorem countP_fieldSteps : (fields : List (String × Control)) →
    (fieldSteps fields).countP FormStep.isInput = fieldsInputCount fields
  | [] => rfl
  | (name, control) :: rest => by
    rw [fieldSteps, List.countP_append, Control.countP_steps (label name) false control,
      countP_fieldSteps rest, fieldsInputCount]

end

theorem countP_parameterSteps (types : List RecordType) (params : List Parameter) :
    (parameterSteps types params).countP FormStep.isInput =
      fieldsInputCount (params.map fun p => (p.name, Control.ofType types p.type)) := by
  induction params with
  | nil => rfl
  | cons p params ih =>
    rw [parameterSteps, List.flatMap_cons, List.countP_append, Control.countP_steps]
    exact congrArg _ ih

theorem countP_callSteps (types : List RecordType) (m : Method) :
    (m.steps types).countP FormStep.isInput = m.inputCount types := by
  rw [Method.steps, List.countP_append, List.countP_cons, countP_parameterSteps]
  rfl

/-! ## All forms -/

/-- Forms are built on a table of types, whatever cycles there are in it. -/
structure BuildsForms (types : List RecordType) : Prop where
  /-- A type has exactly one control. -/
  laidOut (t : TypeRef) (control : Control) :
    LaidOut types [] t control ↔ control = Control.ofType types t
  /-- A record has the controls that stand in the frame of its type. -/
  framed {type : RecordType} (declared : type ∈ types) :
    Control.ofType types (.named type.name) = .frame type (Control.ofRecord types type)
  /-- Frames in each other are of different declared types, of which there are only so many. -/
  nested {t : TypeRef} {chain : List RecordType}
      (frames : NestedFrames (Control.ofType types t) chain) :
    (chain.map (·.name)).Nodup ∧ (∀ type ∈ chain, type ∈ types) ∧ chain.length ≤ types.length
  /-- The form of a record is built by every factory whose operations succeed, in the steps for its
  controls. It is asked for nothing else (`Performs.asks`). -/
  recordForm {ε τ W A : Type} {f : Factory ε τ W A} (succeeds : f.Succeeds) (entered : Value)
      {type : RecordType} (declared : type ∈ types) (s : String) :
    Makes f (type.buildForm (f.toolkit entered) types s).1.1 (type.steps types)
  callForm {ε τ W A : Type} {f : Factory ε τ W A} (succeeds : f.Succeeds) (entered : Value)
      (submit : Submission → A) (m : Method) (s : String) :
    Makes f (m.buildForm (f.toolkit entered) types submit s).1.1 (m.steps types)
  /-- So are the forms of a namespace, which is known by its name where it stands. -/
  namespaceForm {ε τ W A : Type} {f : Factory ε τ W A} (succeeds : f.Succeeds) (entered : Value)
      (submit : Submission → A) (name : String) (members : Namespace Method) (s : String) :
    Makes f (buildMember (f.toolkit entered) types submit name (.branch members) s).1
      (memberSteps types name (.branch members))
  /-- The inputs of a call are numbered from one on as they stand on the page, wherever its form
  is. -/
  numbered {A : Type} (form : Submitted) (action : String → String) (submit : Submission → A)
      (name : String) (member : NameTree Method) (s : CallForms A) :
    (buildMember (Html.toolkit form action) types submit name member s).1.callForms.map
        (·.inputNames) =
      (Namespace.memberList name member).map fun stub =>
        inputKeys stub.2.name 1 ((stub.2.steps types).countP FormStep.isInput)

theorem buildsForms_of_names {types : List RecordType} (names : (types.map (·.name)).Nodup) :
    BuildsForms types where
  laidOut t control := by
    rw [laidOut_iff, typesOutside_nil]
  framed declared := ofType_eq_ofRecord (findType?_name names declared)
  nested {t chain} frames := by
    have laid := ofType_laidOut types [] t
    rw [typesOutside_nil] at laid
    obtain ⟨distinct, declared⟩ := frames.distinct laid
    exact ⟨distinct, fun type member => (declared type member).1, frames.length_le laid⟩
  recordForm succeeds entered type _ s := recordForm_performs succeeds type s
  callForm succeeds entered submit m s := callForm_performs succeeds m s
  namespaceForm succeeds entered submit name members s :=
    buildMember_performs succeeds name (.branch members) s
  numbered form action submit name member s := by
    let make := buildMember (Html.toolkit form action) types submit name member
    have makes : MakesForms types form action submit _ (fun widget => [widget]) make :=
      buildMember_makes name name member
    have forms : (make s).1.callForms ++ [] = _ := makes.forms s
    rw [List.append_nil, List.map_map] at forms
    rw [forms, List.map_map]
    apply List.map_congr_left
    intro stub _
    rw [countP_callSteps]
    exact ownForm_inputNames

/-- In every client the forms of all records, calls and namespaces are built. -/
theorem builds_forms {description : Value} {endpoint : String} {client : Client}
    (regular : description.isRegular = true)
    (built : Client.build description endpoint = .ok client) : BuildsForms client.types :=
  buildsForms_of_names (build_wellNamed regular built).names

/-- The type of a person refers to that of a team, and back. -/
def staffDescription : Value := .object [
  ("types", .object [
    ("Person", .object [("name", .string "string"), ("team", .string "Team"),
      ("friends", .list [.string "Person"])]),
    ("Team", .object [("lead", .string "Person"), ("tags", .string "object")])]),
  ("methods", .object [("staff.hire", .object [("params", .object [
    ("who", .object [("type", .string "Person"), ("def_order", .int 1)])])])])]

def personType : RecordType :=
  ⟨"Person", [("name", .primitive .string), ("team", .named "Team"),
    ("friends", .array (.named "Person"))]⟩

def teamType : RecordType := ⟨"Team", [("lead", .named "Person"), ("tags", .named "object")]⟩

def hireMethod : Method where
  name := "staff.hire"
  params := [{ name := "who", type := .named "Person", optional := false, docs := [] }]
  returns := none
  docs := []
  returnDocs := []
  docSource := .list []
  returnDocSource := .list []

def staffClient : Client where
  serviceName := .string ""
  endpoint := "/rpc"
  types := [personType, teamType]
  methods := [("staff", .branch [("hire", .leaf hireMethod)])]

theorem staff_built : Client.build staffDescription "/rpc" = .ok staffClient := by
  with_unfolding_all rfl

def teamControl : Control :=
  .frame teamType [("lead", .object "Person"), ("tags", .object "object")]

def personControl : Control :=
  .frame personType [("name", .primitive .string), ("team", teamControl),
    ("friends", .array (.named "Person"))]

theorem person_laidOut : LaidOut staffClient.types [] (.named "Person") personControl := by
  have team : LaidOut staffClient.types ["Person"] (.named "Team") teamControl := by
    refine .frame rfl (by decide) rfl (List.forall_mem_cons.mpr ⟨.enclosed (by decide), ?_⟩)
    exact List.forall_mem_singleton.mpr (.untyped rfl)
  refine .frame rfl (by decide) rfl (List.forall_mem_cons.mpr ⟨.primitive .string, ?_⟩)
  exact List.forall_mem_cons.mpr ⟨team, List.forall_mem_singleton.mpr (.array (.named "Person"))⟩

/-- A factory of widgets that are nothing. -/
def blankFactory : Factory Empty Unit Unit Submission where
  startCall _ := pure ()
  make _ _ _ := pure ()

theorem blankFactory_succeeds : blankFactory.Succeeds where
  startCall _ s := ⟨s, rfl⟩
  make _ _ _ s := ⟨(), s, rfl⟩

/-- A person is entered in a frame with that of the team in it, where the lead is entered as JSON.
Frames are no deeper in each other than these two, the call is built in its steps, and its inputs
are numbered. -/
theorem builds_forms_staff :
    staffDescription.isRegular = true ∧ Client.build staffDescription "/rpc" = .ok staffClient ∧
      Control.ofType staffClient.types (.named "Person") = personControl ∧
      (∀ chain, NestedFrames personControl chain → chain.length ≤ 2) ∧
      (∃ w s, (hireMethod.buildForm (blankFactory.logged.toolkit .null) staffClient.types id "").1.1
        ((), []) = .ok (w, (s, hireMethod.steps staffClient.types))) ∧
      ∀ s : CallForms Submission, (buildMember (Html.toolkit [] Html.relativeAction)
          staffClient.types id "staff.hire" (.leaf hireMethod) s).1.callForms.map (·.inputNames) =
        [["staff.hire:1", "staff.hire:2", "staff.hire:3", "staff.hire:4"]] := by
  have regular : staffDescription.isRegular = true := by decide
  have forms := builds_forms regular staff_built
  have person := (forms.laidOut (.named "Person") personControl).mp person_laidOut
  refine ⟨regular, staff_built, person.symm, ?_, ?_, ?_⟩
  · intro chain nested
    rw [person] at nested
    exact (forms.nested nested).2.2
  · have made := forms.callForm blankFactory_succeeds.logged .null id hireMethod ""
    exact made.asks () []
  · intro s
    rw [forms.numbered]
    with_unfolding_all rfl

end ServiceClient

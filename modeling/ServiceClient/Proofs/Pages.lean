import Mathlib.Data.List.Nodup
import ServiceClient.Proofs.Acceptance
import ServiceClient.Proofs.FormEntry

/-!
Pages with the forms of many calls. The inputs of a call are numbered from one on under its name, so
its form is the same on a page with others as it is by itself (`page_forms`): what is submitted from
a page is read by making the form of the one call again.
-/

namespace ServiceClient

namespace Markup

/-- The values that are given to an attribute. -/
def valuesOf (name : String) (attributes : List Attribute) : List String :=
  attributes.filterMap fun a => if a.name = name then a.value else none

mutual

/-- The names of the inputs in a piece of markup, in the order in which they stand there. -/
def inputNames : Markup → List String
  | text _ => []
  | element _ attributes children => valuesOf "name" attributes ++ inputNamesOfAll children
  | void _ attributes => valuesOf "name" attributes

def inputNamesOfAll : List Markup → List String
  | [] => []
  | m :: ms => m.inputNames ++ inputNamesOfAll ms

end

mutual

/-- The forms of calls in a piece of markup, in the order in which they begin there. -/
def callForms : Markup → List Markup
  | text _ | void _ _ => []
  | element tag attributes children =>
    let inside := callFormsOfAll children
    if "call" ∈ valuesOf "class" attributes then element tag attributes children :: inside
    else inside

def callFormsOfAll : List Markup → List Markup
  | [] => []
  | m :: ms => m.callForms ++ callFormsOfAll ms

end

@[simp]
theorem valuesOf_nil (name : String) : valuesOf name [] = [] := rfl

@[simp]
theorem valuesOf_attr (name key value : String) (attributes : List Attribute) :
    valuesOf name (Html.attr key value :: attributes) =
      if key = name then value :: valuesOf name attributes else valuesOf name attributes := by
  by_cases same : key = name <;> simp [valuesOf, Html.attr, same]

@[simp]
theorem valuesOf_append (name : String) (attributes attributes' : List Attribute) :
    valuesOf name (attributes ++ attributes') =
      valuesOf name attributes ++ valuesOf name attributes' :=
  List.filterMap_append

@[simp]
theorem valuesOf_flag (name flag : String) (on : Bool) :
    valuesOf name (Html.flag flag on) = [] := by
  cases on <;> simp [valuesOf, Html.flag]

theorem inputNamesOfAll_append (ms ms' : List Markup) :
    inputNamesOfAll (ms ++ ms') = inputNamesOfAll ms ++ inputNamesOfAll ms' := by
  induction ms with
  | nil => rfl
  | cons m ms ih => simp [inputNamesOfAll, ih]

theorem callFormsOfAll_append (ms ms' : List Markup) :
    callFormsOfAll (ms ++ ms') = callFormsOfAll ms ++ callFormsOfAll ms' := by
  induction ms with
  | nil => rfl
  | cons m ms ih => simp [callFormsOfAll, ih]

end Markup

open Markup (inputNamesOfAll callFormsOfAll)

/-! ## The inputs of a call -/

/-- Inputs of a call, from a number on. -/
def inputKeys (call : String) (number count : Nat) : List String :=
  (List.range' number count).map (inputKey call)

theorem inputKeys_append (call : String) (number count count' : Nat) :
    inputKeys call number count ++ inputKeys call (number + count) count' =
      inputKeys call number (count + count') := by
  rw [inputKeys, inputKeys, inputKeys, ← List.map_append, List.range'_append_1]

/-- Widgets with some inputs in them, and no form of a call. -/
structure HasInputs (names : List String) (widgets : List Markup) : Prop where
  inputs : inputNamesOfAll widgets = names
  noCalls : callFormsOfAll widgets = []

theorem HasInputs.cons {names names' : List String} {widget : Markup} {widgets : List Markup}
    (first : HasInputs names [widget]) (others : HasInputs names' widgets) :
    HasInputs (names ++ names') (widget :: widgets) where
  inputs := by
    rw [← List.singleton_append, Markup.inputNamesOfAll_append, first.inputs, others.inputs]
  noCalls := by
    rw [← List.singleton_append, Markup.callFormsOfAll_append, first.noCalls, others.noCalls]
    rfl

theorem input_hasInputs (form : Submitted) (name label : String) (optional : Bool)
    (kind : InputKind) : HasInputs [name] [(Html.input form name label optional kind).1] := by
  cases kind <;> constructor <;>
    simp [Html.input, Html.checkbox, Html.textArea, Html.lineInput, inputNamesOfAll,
      callFormsOfAll, Markup.inputNames, Markup.callForms]

theorem arrayInput_hasInputs (form : Submitted) (name label : String) (element : TypeRef)
    (optional : Bool) :
    HasInputs [name] [(Html.arrayInput form name label element optional).1] := by
  constructor <;>
    simp [Html.arrayInput, Html.textArea, inputNamesOfAll, callFormsOfAll, Markup.inputNames,
      Markup.callForms]

theorem frame_hasInputs {names : List String} {widgets : List Markup} (label : String)
    (inside : HasInputs names widgets) :
    HasInputs names [Html.frame label (Html.fieldset widgets)] := by
  constructor <;>
    simp [Html.frame, Html.fieldset, inputNamesOfAll, callFormsOfAll, Markup.inputNames,
      Markup.callForms, inside.inputs, inside.noCalls]

section

variable {A X Y : Type} {types : List RecordType} {form : Submitted} {action : String → String}

/-- Makes inputs of the current call, numbered after those made before; what was registered until
then does not matter. -/
structure MakesInputs (widgets : X → List Markup) (count : Nat) (make : StateM (CallForms A) X) :
    Prop where
  state (s : CallForms A) : (make s).2 = advance s count
  blind (s s' : CallForms A) (call : s.current = s'.current) (made : s.inputs = s'.inputs) :
    (make s).1 = (make s').1
  inputs (s : CallForms A) :
    HasInputs (inputKeys s.current (s.inputs + 1) count) (widgets (make s).1)

theorem MakesInputs.map {widgets : X → List Markup} {widgets' : Y → List Markup} {count : Nat}
    {make : StateM (CallForms A) X} (makes : MakesInputs widgets count make) (g : X → Y)
    (same : ∀ names x, HasInputs names (widgets x) → HasInputs names (widgets' (g x))) :
    MakesInputs widgets' count (do return g (← make)) where
  state := makes.state
  blind s s' call made := congrArg g (makes.blind s s' call made)
  inputs s := same _ _ (makes.inputs s)

theorem makesInputs_nothing (y : Y) :
    MakesInputs Prod.fst 0 (pure ([], y) : StateM (CallForms A) (List Markup × Y)) where
  state _ := rfl
  blind _ _ _ _ := rfl
  inputs _ := ⟨rfl, rfl⟩

theorem MakesInputs.cons {count count' : Nat} {make : StateM (CallForms A) (Markup × X)}
    {others : StateM (CallForms A) (List Markup × List X)}
    (first : MakesInputs (fun x => [x.1]) count make)
    (rest : MakesInputs Prod.fst count' others) :
    MakesInputs Prod.fst (count + count') (do
      let (widget, v) ← make
      let (widgets, vs) ← others
      return (widget :: widgets, v :: vs)) where
  state s := by
    change (others (make s).2).2 = _
    rw [first.state, rest.state]
    simp [advance, Nat.add_assoc]
  blind s s' call made := by
    change ((make s).1.1 :: (others (make s).2).1.1, (make s).1.2 :: (others (make s).2).1.2) =
      ((make s').1.1 :: (others (make s').2).1.1, (make s').1.2 :: (others (make s').2).1.2)
    have later := rest.blind (advance s count) (advance s' count) call (by simp [advance, made])
    rw [first.blind s s' call made, first.state, first.state, later]
  inputs s := by
    change HasInputs _ ((make s).1.1 :: (others (make s).2).1.1)
    rw [← inputKeys_append]
    refine (first.inputs s).cons ?_
    have later := rest.inputs (advance s count)
    rw [first.state]
    simpa [advance, Nat.add_right_comm] using later

/-- A new input, and what is entered in it. -/
theorem newInput_makes (input : String → Markup × Value)
    (has : ∀ name, HasInputs [name] [(input name).1]) :
    MakesInputs (fun x => [x.1]) 1
      (do return input (← Html.inputName) : StateM (CallForms A) (Markup × Value)) where
  state _ := rfl
  blind s s' call made := by
    change input (inputKey s.current (s.inputs + 1)) = input (inputKey s'.current (s'.inputs + 1))
    rw [call, made]
  inputs s := has (inputKey s.current (s.inputs + 1))

mutual

/-- How many inputs a control has. -/
def Control.inputCount : Control → Nat
  | .frame _ fields => fieldsInputCount fields
  | .primitive _ | .array _ | .object _ => 1

def fieldsInputCount : List (String × Control) → Nat
  | [] => 0
  | (_, control) :: rest => control.inputCount + fieldsInputCount rest

end

mutual

theorem Control.build_makes (label : String) (optional : Bool) : (control : Control) →
    MakesInputs (fun x => [x.1]) control.inputCount
      (control.build (Html.toolkit (A := A) form action) types label optional)
  | .primitive kind =>
    (newInput_makes (Html.input form · label optional (.ofPrimitive kind)) fun name =>
      input_hasInputs form name label optional (.ofPrimitive kind)).map _ fun _ _ has => has
  | .object _ =>
    (newInput_makes (Html.input form · label optional .object) fun name =>
      input_hasInputs form name label optional .object).map _ fun _ _ has => has
  | .array element =>
    (newInput_makes (Html.arrayInput form · label element optional) fun name =>
      arrayInput_hasInputs form name label element optional).map _ fun _ _ has => has
  | .frame _ fields => (buildFields_makes fields).map _ fun _ _ has => frame_hasInputs label has

theorem buildFields_makes : (fields : List (String × Control)) →
    MakesInputs Prod.fst (fieldsInputCount fields)
      (buildFields (Html.toolkit (A := A) form action) types fields)
  | [] => makesInputs_nothing []
  | (name, control) :: rest =>
    (Control.build_makes (label name) false control).cons (buildFields_makes rest)

end

/-- How many inputs the form of a method has. -/
def Method.inputCount (types : List RecordType) (m : Method) : Nat :=
  fieldsInputCount (m.params.map fun p => (p.name, Control.ofType types p.type))

theorem buildParameters_makes (params : List Parameter) :
    MakesInputs Prod.fst
      (fieldsInputCount (params.map fun p => (p.name, Control.ofType types p.type)))
      (buildParameters (Html.toolkit (A := A) form action) types params) := by
  induction params with
  | nil => exact makesInputs_nothing []
  | cons p params ih =>
    rw [List.map_cons, fieldsInputCount]
    exact (Control.build_makes (label p.name) p.optional (Control.ofType types p.type)).cons ih

/-! ## The form of one call -/

/-- The form of a call when it is made by itself, and the arguments entered in it. -/
def Method.ownForm (types : List RecordType) (form : Submitted) (action : String → String)
    (submit : Submission → A) (m : Method) : Markup × Except Failure (List Value) :=
  ((m.buildForm (Html.toolkit form action) types submit).run CallForms.start).1

variable {submit : Submission → A} {m : Method}

/-- The form of a call is the same whatever was made before it; what it does on submission is
registered under the name of the method. -/
theorem buildForm_run (s : CallForms A) :
    (m.buildForm (Html.toolkit form action) types submit).run s =
      (m.ownForm types form action submit,
        ⟨m.name, m.inputCount types,
          putEntry m.name (submit ⟨m, (m.ownForm types form action submit).2⟩) s.actions⟩) := by
  have run (s : CallForms A) : (m.buildForm (Html.toolkit form action) types submit).run s =
      let made := buildParameters (Html.toolkit form action) types m.params ⟨m.name, 0, s.actions⟩
      let args := allEntered made.1.2
      ((Html.callForm m.title (action made.2.current) made.1.1, args),
        { made.2 with
          actions := putEntry made.2.current (submit ⟨m, args⟩) made.2.actions }) := rfl
  have makes : MakesInputs Prod.fst (m.inputCount types)
      (buildParameters (Html.toolkit (A := A) form action) types m.params) :=
    buildParameters_makes m.params
  -- The parameters are made in a state that differs from a fresh one in the actions only.
  have state := makes.state
  have blind := makes.blind ⟨m.name, 0, s.actions⟩ ⟨m.name, 0, []⟩ rfl rfl
  simp only [Method.ownForm, run, state, blind, advance, CallForms.start, Nat.zero_add]

/-- The form of a call made by itself has the inputs of the call. -/
theorem ownForm_widgets (types : List RecordType) (form : Submitted) (action : String → String)
    (submit : Submission → A) (m : Method) :
    ∃ widgets, HasInputs (inputKeys m.name 1 (m.inputCount types)) widgets ∧
      (m.ownForm types form action submit).1 = Html.callForm m.title (action m.name) widgets := by
  have makes : MakesInputs Prod.fst (m.inputCount types)
      (buildParameters (Html.toolkit (A := A) form action) types m.params) :=
    buildParameters_makes m.params
  refine ⟨_, makes.inputs ⟨m.name, 0, []⟩, ?_⟩
  exact congrArg (fun s => Html.callForm m.title (action s.current) _)
    (makes.state ⟨m.name, 0, []⟩)

/-- The names of the inputs of a form depend on nothing but the method. -/
theorem ownForm_inputNames :
    (m.ownForm types form action submit).1.inputNames =
      inputKeys m.name 1 (m.inputCount types) := by
  obtain ⟨widgets, has, own⟩ := ownForm_widgets types form action submit m
  rw [own]
  simp [Html.callForm, Markup.inputNames, inputNamesOfAll, Markup.inputNamesOfAll_append,
    has.inputs]

theorem ownForm_callForms :
    (m.ownForm types form action submit).1.callForms =
      [(m.ownForm types form action submit).1] := by
  obtain ⟨widgets, has, own⟩ := ownForm_widgets types form action submit m
  rw [own]
  simp [Html.callForm, Markup.callForms, callFormsOfAll, Markup.callFormsOfAll_append, has.noCalls]

/-! ## The forms of all calls -/

/-- Makes the forms of some calls, each as it is when made by itself. -/
structure MakesForms (types : List RecordType) (form : Submitted) (action : String → String)
    (submit : Submission → A) (methods : List Method) (widgets : X → List Markup)
    (make : StateM (CallForms A) X) : Prop where
  forms (s : CallForms A) : callFormsOfAll (widgets (make s).1) =
    methods.map fun m => (m.ownForm types form action submit).1
  inputs (s : CallForms A) : inputNamesOfAll (widgets (make s).1) =
    methods.flatMap fun m => inputKeys m.name 1 (m.inputCount types)
  actions (s : CallForms A) : (make s).2.actions = methods.foldl (fun actions m =>
    putEntry m.name (submit ⟨m, (m.ownForm types form action submit).2⟩) actions) s.actions

theorem MakesForms.cons {methods methods' : List Method} {make : StateM (CallForms A) Markup}
    {others : StateM (CallForms A) (List Markup)}
    (first : MakesForms types form action submit methods (fun widget => [widget]) make)
    (rest : MakesForms types form action submit methods' id others) :
    MakesForms types form action submit (methods ++ methods') id
      (do return (← make) :: (← others)) where
  forms s := by
    rw [List.map_append, ← first.forms s, ← rest.forms (make s).2, ← Markup.callFormsOfAll_append]
    rfl
  inputs s := by
    rw [List.flatMap_append, ← first.inputs s, ← rest.inputs (make s).2,
      ← Markup.inputNamesOfAll_append]
    rfl
  actions s := by
    rw [List.foldl_append, ← first.actions, ← rest.actions]
    rfl

theorem buildForm_makes (m : Method) :
    MakesForms types form action submit [m] (fun widget => [widget])
      (do return (← m.buildForm (Html.toolkit form action) types submit).1) where
  forms s := by
    change callFormsOfAll [((m.buildForm (Html.toolkit form action) types submit).run s).1.1] = _
    simp [buildForm_run, callFormsOfAll, ownForm_callForms]
  inputs s := by
    change inputNamesOfAll [((m.buildForm (Html.toolkit form action) types submit).run s).1.1] = _
    simp [buildForm_run, inputNamesOfAll, ownForm_inputNames]
  actions s := by
    change ((m.buildForm (Html.toolkit form action) types submit).run s).2.actions = _
    simp [buildForm_run]

theorem MakesForms.group (title : Option String) {methods : List Method}
    {make : StateM (CallForms A) (List Markup)}
    (makes : MakesForms types form action submit methods id make) :
    MakesForms types form action submit methods (fun widget => [widget])
      (do return Html.group title (← make)) where
  forms s := by
    rw [← makes.forms s]
    change callFormsOfAll [Html.group title (make s).1] = callFormsOfAll (make s).1
    cases title <;> simp [Html.group, callFormsOfAll, Markup.callForms]
  inputs s := by
    rw [← makes.inputs s]
    change inputNamesOfAll [Html.group title (make s).1] = inputNamesOfAll (make s).1
    cases title <;> simp [Html.group, inputNamesOfAll, Markup.inputNames]
  actions s := makes.actions s

mutual

theorem buildMember_makes (name lead : String) : (member : NameTree Method) →
    MakesForms types form action submit ((Namespace.memberList lead member).map (·.2))
      (fun widget => [widget]) (buildMember (Html.toolkit form action) types submit name member)
  | .leaf m => buildForm_makes m
  | .branch members => (buildMembers_makes (lead ++ ".") members).group _

theorem buildMembers_makes (lead : String) : (members : List (String × NameTree Method)) →
    MakesForms types form action submit ((Namespace.toList lead members).map (·.2)) id
      (buildMembers (Html.toolkit form action) types submit members)
  | [] => ⟨fun _ => rfl, fun _ => rfl, fun _ => rfl⟩
  | (name, member) :: rest => by
    rw [Namespace.toList, List.map_append]
    exact (buildMember_makes name (lead ++ name) member).cons (buildMembers_makes lead rest)

end

end

/-! ## Pages -/

theorem append_cons_cancel {α : Type} {x : α} {front front' rest rest' : List α}
    (last : x ∉ rest) (last' : x ∉ rest') (same : front ++ x :: rest = front' ++ x :: rest') :
    front = front' := by
  rcases List.append_eq_append_iff.mp same with ⟨more, rfl, between⟩ | ⟨more, rfl, between⟩
  -- If one front were longer, the other list would have another `x` after the one shown.
  · cases more with
    | nil => simp
    | cons y more =>
      obtain ⟨-, rfl⟩ := List.cons.inj between
      simp at last
  · cases more with
    | nil => simp
    | cons y more =>
      obtain ⟨-, rfl⟩ := List.cons.inj between
      simp at last'

/-- The name of an input tells the call, whatever stands in the name of that: the number comes after
the last colon. -/
theorem inputKey_call {call call' : String} {n n' : Nat}
    (same : inputKey call n = inputKey call' n') : call = call' := by
  have noColon (n : Nat) : ':' ∉ Nat.toDigits 10 n := fun colon =>
    nomatch allDigits_toDigits n ':' colon
  have lists : call.toList ++ ':' :: Nat.toDigits 10 n =
      call'.toList ++ ':' :: Nat.toDigits 10 n' := by
    simpa [inputKey] using congrArg String.toList same
  exact String.toList_inj.mp (append_cons_cancel (noColon n) (noColon n') lists)

theorem inputKeys_nodup (call : String) (number count : Nat) :
    (inputKeys call number count).Nodup :=
  List.Nodup.map (fun _ _ => inputKey_injective) List.nodup_range'

theorem inputKeys_disjoint {call call' : String} (other : call ≠ call')
    (number number' count count' : Nat) :
    (inputKeys call number count).Disjoint (inputKeys call' number' count') := by
  intro key here there
  obtain ⟨n, -, rfl⟩ := List.mem_map.mp here
  obtain ⟨n', -, same⟩ := List.mem_map.mp there
  exact other (inputKey_call same.symm)

/-- Calls with different names have different inputs. -/
theorem inputs_nodup (types : List RecordType) {methods : List Method}
    (distinct : (methods.map (·.name)).Nodup) :
    (methods.flatMap fun m => inputKeys m.name 1 (m.inputCount types)).Nodup := by
  rw [List.nodup_flatMap]
  refine ⟨fun m _ => inputKeys_nodup m.name 1 _, ?_⟩
  exact (List.pairwise_map.mp distinct).imp fun other => inputKeys_disjoint other 1 1 _ _

theorem entriesOrNone_eq_members {fields entries : List (String × Value)} {key : String}
    (found : Value.entriesOrNone (fields.lookup key) = .ok entries) :
    ((Value.object fields).member key).members = entries := by
  simp only [Value.member, Value.members]
  cases there : fields.lookup key with
  | none =>
    rw [there] at found
    exact Except.ok.inj found
  | some v =>
    simp only [there, Value.entriesOrNone] at found
    split at found
    · obtain rfl := entries_eq_ok.mp found
      rfl
    · rename_i nothing
      obtain rfl := Except.ok.inj found
      cases v with
      | object entries =>
        cases entries with
        | nil => rfl
        | cons e rest => exact absurd rfl nothing
      | _ => rfl

/-- The methods of a client are those of its description, each under its own name. -/
theorem methodList_names {description : Value} {endpoint : String} {client : Client}
    (regular : description.isRegular = true)
    (built : Client.build description endpoint = .ok client) :
    (client.methodList.map (·.1)).Perm ((description.member "methods").members.map (·.1)) ∧
      (client.methodList.map (·.1)).Nodup ∧ ∀ e ∈ client.methodList, e.2.name = e.1 := by
  obtain ⟨fields, methods, rfl, found, listed⟩ := build_lists built
  rw [← entriesOrNone_eq_members found] at listed
  refine ⟨listed, ?_, fun e inside => ((build_writtenIn built).1.of_mem_methodList inside).1⟩
  exact listed.nodup_iff.mpr (members_distinct (member_isRegular regular "methods"))

/-- What calls with different names do on submission is registered in their order. -/
theorem registered_eq {A : Type} {methods : List Method} (act : Method → A)
    (distinct : (methods.map (·.name)).Nodup) :
    methods.foldl (fun actions m => putEntry m.name (act m) actions) [] =
      methods.map fun m => (m.name, act m) := by
  have whole : entriesOfPairs (methods.map fun m => (m.name, act m)) = _ :=
    entriesOfPairs_eq (by simpa [Function.comp_def] using distinct)
  rwa [entriesOfPairs, List.foldl_map] at whole

/-- The page of a client has the form of each of its methods once, in the order in which they are
listed, and each is the form that is made for the one method by itself. What the forms do on
submission is registered under the names of the methods. No two inputs have the same name, and these
names are the same whatever is submitted. -/
theorem page_forms {A : Type} {description : Value} {endpoint : String} {client : Client}
    (regular : description.isRegular = true)
    (built : Client.build description endpoint = .ok client) (form : Submitted)
    (action : String → String) (submit : Submission → A) :
    let own (form : Submitted) (m : Method) := m.ownForm client.types form action submit
    let page := (client.buildForms (Html.toolkit form action) submit).run CallForms.start
    (client.methodList.map (·.1)).Perm ((description.member "methods").members.map (·.1)) ∧
      page.1.callForms = client.methodList.map (fun e => (own form e.2).1) ∧
      page.2.actions = client.methodList.map (fun e => (e.1, submit ⟨e.2, (own form e.2).2⟩)) ∧
      page.1.inputNames.Nodup ∧
      ∀ form' : Submitted, page.1.callForms.map (·.inputNames) =
        client.methodList.map fun e => (own form' e.2).1.inputNames := by
  intro own page
  obtain ⟨listed, distinct, named⟩ := methodList_names regular built
  have names : (client.methodList.map (·.2)).map (·.name) = client.methodList.map (·.1) := by
    rw [List.map_map]
    exact List.map_congr_left named
  rw [← names] at distinct
  -- The page is made by walking the tree of names, which is how the methods are listed.
  have makes : MakesForms client.types form action submit (client.methodList.map (·.2))
      (fun widget => [widget]) (client.buildForms (Html.toolkit form action) submit) :=
    (buildMembers_makes "" client.methods).group none
  have forms : page.1.callForms ++ [] = _ := makes.forms CallForms.start
  have inputs : page.1.inputNames ++ [] = _ := makes.inputs CallForms.start
  have actions : page.2.actions = _ := makes.actions CallForms.start
  rw [List.append_nil, List.map_map] at forms
  rw [List.append_nil] at inputs
  refine ⟨listed, forms, ?_, ?_, fun form' => ?_⟩
  · rw [actions, CallForms.start, registered_eq _ distinct, List.map_map]
    exact List.map_congr_left fun e inside => congrArg (·, _) (named e inside)
  · rw [inputs]
    exact inputs_nodup client.types distinct
  · rw [forms, List.map_map]
    exact List.map_congr_left fun e _ => ownForm_inputNames.trans ownForm_inputNames.symm

theorem page_forms_sample :
    let page := (sampleClient.buildForms (Html.toolkit [("graph.add:1", "a")] Html.relativeAction)
      id).run CallForms.start
    page.1.callForms.length = 1 ∧ page.2.actions.map (·.1) = ["graph.add"] ∧
      page.1.inputNames = ["graph.add:1", "graph.add:2", "graph.add:3"] ∧
      page.1.inputNames.Nodup := by
  obtain ⟨-, forms, actions, distinct, -⟩ := page_forms (by decide) sample_built
    [("graph.add:1", "a")] Html.relativeAction id
  exact ⟨by rw [forms]; rfl, by rw [actions]; rfl, by with_unfolding_all rfl, distinct⟩

end ServiceClient

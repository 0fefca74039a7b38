import ServiceClient.Proofs.Pages

/-!
Forms that are submitted as they are shown. `Markup.contents` is what a browser submits for a page
on which nothing was entered or changed: the text in each input, and a box only if it is checked.
A form over what was shown of it is that form again, and the same arguments are entered in it
(`ownForm_contents`).
-/

namespace ServiceClient

namespace Markup

/-- The text between the tags of an element. -/
def textIn (children : List Markup) : String :=
  String.join (children.map fun
    | text s => s
    | _ => "")

/-- Whether an input is a box that is not checked. -/
def isUnchecked (attributes : List Attribute) : Bool :=
  (valuesOf "type" attributes).contains "checkbox" && !attributes.any (·.name = "checked")

mutual

/-- What is submitted for the inputs in a piece of markup, by their names. -/
def contents : Markup → Submitted
  | text _ => []
  | element tag attributes children =>
    if tag = "textarea" then (valuesOf "name" attributes).map (·, textIn children)
    else contentsOfAll children
  | void _ attributes =>
    if isUnchecked attributes then []
    else (valuesOf "name" attributes).zip (valuesOf "value" attributes)

def contentsOfAll : List Markup → Submitted
  | [] => []
  | m :: ms => m.contents ++ contentsOfAll ms

end

theorem contentsOfAll_append (ms ms' : List Markup) :
    contentsOfAll (ms ++ ms') = contentsOfAll ms ++ contentsOfAll ms' := by
  induction ms with
  | nil => rfl
  | cons m ms ih => simp [contentsOfAll, ih]

mutual

/-- What is submitted is submitted for inputs of the page. -/
theorem mem_inputNames_of_contents : (m : Markup) → {e : String × String} →
    e ∈ m.contents → e.1 ∈ m.inputNames
  | text _, _, member => nomatch member
  | element tag attributes children, e, member => by
    rw [contents] at member
    rw [inputNames, List.mem_append]
    split at member
    · obtain ⟨name, inside, rfl⟩ := List.mem_map.mp member
      exact .inl inside
    · exact .inr (mem_inputNamesOfAll_of_contents children member)
  | void tag attributes, e, member => by
    rw [contents] at member
    split at member
    · cases member
    · exact (List.of_mem_zip member).1

theorem mem_inputNamesOfAll_of_contents : (ms : List Markup) → {e : String × String} →
    e ∈ contentsOfAll ms → e.1 ∈ inputNamesOfAll ms
  | [], _, member => nomatch member
  | m :: ms, e, member => by
    rw [inputNamesOfAll, List.mem_append]
    rcases List.mem_append.mp member with here | later
    · exact .inl (mem_inputNames_of_contents m here)
    · exact .inr (mem_inputNamesOfAll_of_contents ms later)

end

/-- Nothing is submitted under the name of an input that is not on the page. -/
theorem lookup_contentsOfAll {ms : List Markup} {name : String}
    (missing : name ∉ inputNamesOfAll ms) : (contentsOfAll ms).lookup name = none := by
  apply lookup_eq_none_iff_not_mem.mpr
  intro listed
  obtain ⟨e, member, rfl⟩ := List.mem_map.mp listed
  exact missing (mem_inputNamesOfAll_of_contents ms member)

end Markup

open Markup (contentsOfAll inputNamesOfAll)

/-! ## Single inputs -/

section

variable (label name : String)

theorem textArea_contents (caption : List Markup) (noInputs : contentsOfAll caption = [])
    (value : String) : contentsOfAll [Html.textArea caption name value] = [(name, value)] := by
  simp [Html.textArea, contentsOfAll, Markup.contents, noInputs, Markup.textIn]

theorem lineInput_contents {type : String} {others : List Attribute} (noBox : type ≠ "checkbox")
    (apart : ∀ key ∈ ["type", "name", "value"], Markup.valuesOf key others = []) (value : String)
    (optional : Bool) :
    contentsOfAll [Html.lineInput (Html.attr "type" type :: others) name value label optional] =
      [(name, value)] := by
  simp only [List.forall_mem_cons, List.not_mem_nil, false_implies, implies_true, and_true] at apart
  simp [Html.lineInput, contentsOfAll, Markup.contents, Markup.isUnchecked, apart, noBox.symm]

theorem frame_contents (widgets : List Markup) :
    contentsOfAll [Html.frame label (Html.fieldset widgets)] = contentsOfAll widgets := by
  simp [Html.frame, Html.fieldset, contentsOfAll, Markup.contents]

theorem checkbox_contents (checked : Bool) :
    contentsOfAll [Html.checkbox label name checked] = if checked then [(name, "1")] else [] := by
  cases checked <;> rfl

end

section

variable {form again : Submitted} {name label : String} {optional : Bool}

/-- From an input with the same text in it the same is read. -/
theorem read_again {parse : String → Value} {fallback : String}
    (same : (again.lookup name).getD "" = (form.lookup name).getD "") :
    Html.read again name optional parse fallback = Html.read form name optional parse fallback := by
  rw [Html.read, Html.read, same]

/-- An empty input that has to be filled is read as what is shown in it. -/
theorem read_filled {parse : String → Value} {fallback : String}
    (empty : (form.lookup name).getD "" = "")
    (filled : again.lookup name = some (if optional then "" else fallback)) :
    Html.read again name optional parse fallback = Html.read form name optional parse fallback := by
  cases optional <;> simp [Html.read, empty, filled]

theorem input_again {kind : InputKind} (shown : again.lookup name =
    (contentsOfAll [(Html.input form name label optional kind).1]).lookup name) :
    Html.input again name label optional kind = Html.input form name label optional kind := by
  cases kind with
  | boolean =>
    have same : (again.lookup name).isSome = (form.lookup name).isSome := by
      simp only [Html.input, checkbox_contents] at shown
      rw [shown]
      cases (form.lookup name).isSome <;> simp
    simp only [Html.input, same]
  | number | string =>
    have same : (again.lookup name).getD "" = (form.lookup name).getD "" := by
      simp only [Html.input] at shown
      rw [lineInput_contents label name (by decide) (by simp)] at shown
      simp [shown]
    simp only [Html.input, same, read_again same]
  | object =>
    simp only [Html.input, textArea_contents name [.text label] rfl,
      List.lookup_cons_self] at shown
    by_cases empty : (form.lookup name).getD "" = ""
    · have filled : again.lookup name = some (if optional then "" else "\x7b\x7d") := by
        simpa [empty] using shown
      simp only [Html.input, read_filled empty filled, empty, filled]
      cases optional <;> rfl
    · have same : (again.lookup name).getD "" = (form.lookup name).getD "" := by
        simp [shown, empty]
      simp only [Html.input, same, read_again same]

theorem arrayInput_again {element : TypeRef} (shown : again.lookup name =
    (contentsOfAll [(Html.arrayInput form name label element optional).1]).lookup name) :
    Html.arrayInput again name label element optional =
      Html.arrayInput form name label element optional := by
  rw [Html.arrayInput, textArea_contents name _ rfl, List.lookup_cons_self] at shown
  cases given : form.lookup name with
  | none =>
    have empty : (form.lookup name).getD "" = "" := by rw [given, Option.getD_none]
    rw [given, Option.getD_none] at shown
    simp only [Html.arrayInput, read_filled empty shown, given, shown, Option.getD_none,
      Option.getD_some]
  | some text =>
    have same : again.lookup name = form.lookup name := by rw [shown, given, Option.getD_some]
    simp only [Html.arrayInput, read_again (congrArg (·.getD "") same), same]

end

/-! ## The form of a call -/

theorem HasInputs.lookup_eq_none {names : List String} {widgets : List Markup} {name : String}
    (has : HasInputs names widgets) (other : name ∉ names) :
    (contentsOfAll widgets).lookup name = none :=
  Markup.lookup_contentsOfAll (has.inputs ▸ other)

/-- What is submitted for some inputs is what is shown in them. -/
def Shows (again : Submitted) (names : List String) (widgets : List Markup) : Prop :=
  ∀ name ∈ names, again.lookup name = (contentsOfAll widgets).lookup name

/-- What is shown on a widget does not depend on the inputs of others. -/
theorem Shows.cons {again : Submitted} {call : String} {number count count' : Nat}
    {widget : Markup} {widgets : List Markup}
    (shows : Shows again (inputKeys call number (count + count')) (widget :: widgets))
    (first : HasInputs (inputKeys call number count) [widget])
    (others : HasInputs (inputKeys call (number + count) count') widgets) :
    Shows again (inputKeys call number count) [widget] ∧
      Shows again (inputKeys call (number + count) count') widgets := by
  have distinct := inputKeys_nodup call number (count + count')
  rw [← inputKeys_append] at distinct shows
  have apart := List.disjoint_of_nodup_append distinct
  have whole (name : String) : (contentsOfAll (widget :: widgets)).lookup name =
      ((contentsOfAll [widget]).lookup name).or ((contentsOfAll widgets).lookup name) := by
    rw [← List.singleton_append, Markup.contentsOfAll_append, List.lookup_append]
  constructor
  · intro name here
    have noneLater := others.lookup_eq_none fun there => apart here there
    rw [shows name (List.mem_append_left _ here), whole, noneLater, Option.or_none]
  · intro name there
    have noneBefore := first.lookup_eq_none fun here => apart here there
    rw [shows name (List.mem_append_right _ there), whole, noneBefore, Option.none_or]

section

variable {A X Y : Type} {types : List RecordType} {form again : Submitted}
  {action : String → String}

/-- Makes over what is shown on some widgets what makes these widgets. -/
def MakesAgain (again : Submitted) (widgets : X → List Markup) (count : Nat)
    (make make' : StateM (CallForms A) X) : Prop :=
  ∀ s, Shows again (inputKeys s.current (s.inputs + 1) count) (widgets (make s).1) →
    make' s = make s

theorem MakesAgain.map {widgets : X → List Markup} {widgets' : Y → List Markup} {count : Nat}
    {make make' : StateM (CallForms A) X} (makes : MakesAgain again widgets count make make')
    (g : X → Y) (same : ∀ x, contentsOfAll (widgets' (g x)) = contentsOfAll (widgets x)) :
    MakesAgain again widgets' count (do return g (← make)) (do return g (← make')) := by
  intro s shows
  have here : make' s = make s := by
    apply makes
    intro name inside
    rw [← same]
    exact shows name inside
  change (g (make' s).1, (make' s).2) = (g (make s).1, (make s).2)
  rw [here]

theorem MakesAgain.cons {count count' : Nat} {first first' : StateM (CallForms A) (Markup × X)}
    {others others' : StateM (CallForms A) (List Markup × List X)}
    (firstInputs : MakesInputs (fun x => [x.1]) count first)
    (othersInputs : MakesInputs Prod.fst count' others)
    (firstAgain : MakesAgain again (fun x => [x.1]) count first first')
    (othersAgain : MakesAgain again Prod.fst count' others others') :
    MakesAgain again Prod.fst (count + count')
      (do
        let (widget, v) ← first
        let (widgets, vs) ← others
        return (widget :: widgets, v :: vs))
      (do
        let (widget, v) ← first'
        let (widgets, vs) ← others'
        return (widget :: widgets, v :: vs)) := by
  intro s shows
  have state := firstInputs.state s
  have inputs := othersInputs.inputs (first s).2
  rw [state] at inputs
  have number : (advance s count).inputs + 1 = s.inputs + 1 + count := Nat.add_right_comm ..
  rw [number] at inputs
  obtain ⟨here, later⟩ := Shows.cons shows (firstInputs.inputs s) (by rw [state]; exact inputs)
  have same : first' s = first s := firstAgain s here
  have same' : others' (first s).2 = others (first s).2 := by
    apply othersAgain
    rw [state, number]
    rw [state] at later
    exact later
  change (((first' s).1.1 :: (others' (first' s).2).1.1,
    (first' s).1.2 :: (others' (first' s).2).1.2), (others' (first' s).2).2) = _
  rw [same, same']
  rfl

theorem newInput_again {input input' : String → Markup × Value}
    (same : ∀ name, again.lookup name = (contentsOfAll [(input name).1]).lookup name →
      input' name = input name) :
    MakesAgain again (fun x => [x.1]) 1
      (do return input (← Html.inputName) : StateM (CallForms A) (Markup × Value))
      (do return input' (← Html.inputName)) := by
  intro s shows
  have here := same (inputKey s.current (s.inputs + 1)) (shows _ List.mem_cons_self)
  exact congrArg (·, advance s 1) here

variable (form again types action)

mutual

theorem Control.build_again (label : String) (optional : Bool) : (control : Control) →
    MakesAgain again (fun x => [x.1]) control.inputCount
      (control.build (Html.toolkit (A := A) form action) types label optional)
      (control.build (Html.toolkit again action) types label optional)
  | .primitive _ => (newInput_again fun _ => input_again).map _ fun _ => rfl
  | .object _ => (newInput_again fun _ => input_again).map _ fun _ => rfl
  | .array _ => (newInput_again fun _ => arrayInput_again).map _ fun _ => rfl
  | .frame _ fields => (buildFields_again fields).map _ fun x => frame_contents label x.1

theorem buildFields_again : (fields : List (String × Control)) →
    MakesAgain again Prod.fst (fieldsInputCount fields)
      (buildFields (Html.toolkit (A := A) form action) types fields)
      (buildFields (Html.toolkit again action) types fields)
  | [] => fun _ _ => rfl
  | (name, control) :: rest =>
    (Control.build_again (label name) false control).cons
      (Control.build_makes (label name) false control) (buildFields_makes rest)
      (buildFields_again rest)

end

theorem buildParameters_again (params : List Parameter) :
    MakesAgain again Prod.fst
      (fieldsInputCount (params.map fun p => (p.name, Control.ofType types p.type)))
      (buildParameters (Html.toolkit (A := A) form action) types params)
      (buildParameters (Html.toolkit again action) types params) := by
  induction params with
  | nil => exact fun _ _ => rfl
  | cons p params ih =>
    let control := Control.ofType types p.type
    exact (control.build_again types form again action (label p.name) p.optional).cons
      (control.build_makes (label p.name) p.optional) (buildParameters_makes params) ih

theorem callForm_contents (title address : String) (widgets : List Markup) :
    (Html.callForm title address widgets).contents = contentsOfAll widgets := by
  simp [Html.callForm, Markup.contents, contentsOfAll, Markup.contentsOfAll_append]

/-- The form of a call over what is shown in its inputs is the same form, and the arguments entered
in it are the same, or fail to be read in the same way. -/
theorem ownForm_contents (submit : Submission → A) (m : Method) :
    let shown := m.ownForm types form action submit
    m.ownForm types shown.1.contents action submit = shown := by
  intro shown
  let start : CallForms A := ⟨m.name, 0, []⟩
  let make (form : Submitted) := buildParameters (Html.toolkit (A := A) form action) types m.params
  have own (form : Submitted) : m.ownForm types form action submit =
      (Html.callForm m.title (action (make form start).2.current) (make form start).1.1,
        allEntered (make form start).1.2) := rfl
  have contents : shown.1.contents = contentsOfAll (make form start).1.1 := by
    rw [show shown = _ from own form, callForm_contents]
  have same : make shown.1.contents start = make form start :=
    buildParameters_again types form shown.1.contents action m.params start fun name _ =>
      congrArg (List.lookup name) contents
  rw [own, same]
  rfl

end

end ServiceClient

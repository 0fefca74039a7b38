import ServiceClient.Explorer
import ServiceClient.Proofs.Pages
import ServiceClient.Proofs.Tokens

/-!
What is read back from the pages of an explorer. A `Template` is one of the things that forms are
made of, and its tokens are the fixed tags and attributes of such a thing around the given strings.
Reading back what is rendered gives these tokens, whatever the strings are (`Template.html_spells`),
and a page is made of the widgets that the names, methods and parameters of the service ask for
(`pages_read_back`).
-/

namespace ServiceClient

open Html (attr flag)

/-- A widget by its template, with the strings that are put in. -/
inductive Template
  | input (form : Submitted) (name label : String) (optional : Bool) (kind : InputKind)
  | arrayInput (form : Submitted) (name label : String) (optional : Bool) (element : TypeRef)
  | frame (label : String) (inner : Template)
  | fieldset (children : List Template)
  | callForm (title action : String) (children : List Template)
  | group (title : Option String) (children : List Template)

namespace Template

mutual

/-- A widget as it is made. -/
def html : Template → Markup
  | input form name label optional kind => (Html.input form name label optional kind).1
  | arrayInput form name label optional element =>
    (Html.arrayInput form name label element optional).1
  | frame label inner => Html.frame label inner.html
  | fieldset children => Html.fieldset (htmlOfAll children)
  | callForm title action children => Html.callForm title action (htmlOfAll children)
  | group title children => Html.group title (htmlOfAll children)

def htmlOfAll : List Template → List Markup
  | [] => []
  | w :: ws => w.html :: htmlOfAll ws

end

def areaTokens (label name shown : String) : List Token :=
  within "div" [attr "class" "input"]
    (textIn "label" [] label ++ textIn "textarea" [attr "name" name] shown)

def lineTokens (type : List Attribute) (label name shown : String) (optional : Bool) : List Token :=
  within "div" [attr "class" "input"]
    (.opening "input" (type ++ [attr "name" name, attr "value" shown] ++
      flag "required" (!optional)) :: textIn "label" [] label)

def inputTokens (form : Submitted) (name label : String) (optional : Bool) :
    InputKind → List Token
  | .boolean =>
    within "label" [attr "class" "checkbox"] [.text label,
      .opening "input" ([attr "type" "checkbox", attr "name" name, attr "value" "1"] ++
        flag "checked" (form.lookup name).isSome)]
  | .object =>
    let entered := (form.lookup name).getD ""
    let preset := if optional then "" else "\x7b\x7d"
    areaTokens label name (if entered = "" then preset else entered)
  | .number =>
    lineTokens [attr "type" "number", attr "step" "any"] label name ((form.lookup name).getD "")
      optional
  | .string => lineTokens [attr "type" "text"] label name ((form.lookup name).getD "") optional

mutual

/-- The tags and texts that a widget is read back as. -/
def tokens : Template → List Token
  | input form name label optional kind => inputTokens form name label optional kind
  | arrayInput form name label optional element =>
    let preset := if optional then "" else "[]"
    areaTokens (label ++ " (" ++ (TypeRef.text (.array element) ++ " as JSON") ++ ")") name
      ((form.lookup name).getD preset)
  | frame label inner =>
    within "fieldset" [attr "class" "frame"] (textIn "legend" [] label ++ inner.tokens)
  | fieldset children => within "div" [attr "class" "record"] (tokensOfAll children)
  | callForm title action children =>
    within "details" [attr "class" "call", ⟨"open", none⟩]
      (textIn "summary" [] title ++
        within "form" [attr "method" "post", attr "action" action]
          (tokensOfAll children ++ textIn "button" [attr "type" "submit"] title))
  | group none children => within "div" [attr "class" "api"] (tokensOfAll children)
  | group (some title) children =>
    within "details" [attr "class" "namespace", ⟨"open", none⟩]
      (textIn "summary" [] title ++ tokensOfAll children)

def tokensOfAll : List Template → List Token
  | [] => []
  | w :: ws => w.tokens ++ tokensOfAll ws

end

end Template

/-! ## Rendered widgets -/

theorem isPlainTag_flag {tag name : String} {attributes : List Attribute}
    (plain : isPlainTag tag attributes = true) (named : isPlain name = true) (on : Bool) :
    isPlainTag tag (attributes ++ flag name on) = true := by
  cases on with
  | false => simpa [flag] using plain
  | true =>
    rw [isPlainTag, List.map_append, ← List.cons_append, List.all_append]
    exact Bool.and_eq_true_iff.mpr ⟨plain, by simpa [flag] using named⟩

namespace Template

theorem textArea_spells {content : List Markup} {s : String} (label : Spells content [.text s])
    (name shown : String) :
    Spells [Html.textArea content name shown] (areaTokens s name shown) := by
  have area : isPlainTag "textarea" [attr "name" name] = true :=
    (by decide : ["textarea", "name"].all isPlain = true)
  have labelled := Spells.element (by decide : isPlainTag "label" [] = true) label
  exact .element (by decide) (labelled.cons (.textIn area shown))

theorem lineInput_spells (type : List Attribute) (name shown label : String)
    (plain : isPlainTag "input" (type ++ [attr "name" name, attr "value" shown]) = true)
    (optional : Bool) :
    Spells [Html.lineInput type name shown label optional]
      (lineTokens type label name shown optional) := by
  have box := Spells.void (isPlainTag_flag plain (by decide : isPlain "required" = true) !optional)
  have labelled : Spells [.element "label" [] [.text label]] (textIn "label" [] label) :=
    .textIn (by decide) label
  exact .element (by decide) (box.cons labelled)

theorem checkbox_spells (label name : String) (checked : Bool) :
    Spells [Html.checkbox label name checked]
      (within "label" [attr "class" "checkbox"] [.text label,
        .opening "input" ([attr "type" "checkbox", attr "name" name, attr "value" "1"] ++
          flag "checked" checked)]) := by
  have plain : isPlainTag "input" [attr "type" "checkbox", attr "name" name, attr "value" "1"] :=
    (by decide : ["input", "type", "name", "value"].all isPlain = true)
  have box := Spells.void (isPlainTag_flag plain (by decide : isPlain "checked" = true) checked)
  exact .element (by decide) ((Spells.text label).cons box)

theorem input_spells (form : Submitted) (name label : String) (optional : Bool)
    (kind : InputKind) :
    Spells [(Html.input form name label optional kind).1]
      (inputTokens form name label optional kind) := by
  cases kind with
  | boolean => exact checkbox_spells label name _
  | object =>
    have empty (s : String) : s.isEmpty = true ↔ s = "" := String.isEmpty_iff
    simp only [Html.input, inputTokens, empty]
    exact textArea_spells (.text label) name _
  | number =>
    have plain : ["input", "type", "step", "name", "value"].all isPlain = true := by decide
    exact lineInput_spells [attr "type" "number", attr "step" "any"] name _ label plain optional
  | string =>
    have plain : ["input", "type", "name", "value"].all isPlain = true := by decide
    exact lineInput_spells [attr "type" "text"] name _ label plain optional

mutual

/-- A widget is read back as the tokens of its template. -/
theorem html_spells : (t : Template) → Spells [t.html] t.tokens
  | input form name label optional kind => input_spells form name label optional kind
  | arrayInput form name label optional element => by
    have texts (a b c d : String) : Spells [.text a, .text b, .text c, .text d]
        [.text a, .text b, .text c, .text d] :=
      (Spells.text a).cons ((Spells.text b).cons ((Spells.text c).cons (.text d)))
    exact textArea_spells (texts label " (" _ ")").join.join.join name _
  | frame label inner => by
    have legend : Spells [.element "legend" [] [.text label]] (textIn "legend" [] label) :=
      .textIn (by decide) label
    exact .element (by decide) (legend.cons (html_spells inner))
  | fieldset children => .element (by decide) (htmlOfAll_spells children)
  | callForm title action children => by
    have summary : Spells [.element "summary" [] [.text title]] (textIn "summary" [] title) :=
      .textIn (by decide) title
    have button : Spells [.element "button" [attr "type" "submit"] [.text title]]
        (textIn "button" [attr "type" "submit"] title) := .textIn (by decide) title
    have plain : isPlainTag "form" [attr "method" "post", attr "action" action] = true :=
      (by decide : ["form", "method", "action"].all isPlain = true)
    have form := Spells.element plain ((htmlOfAll_spells children).append button)
    exact .element (by decide) (summary.cons form)
  | group none children => .element (by decide) (htmlOfAll_spells children)
  | group (some title) children => by
    have summary : Spells [.element "summary" [] [.text title]] (textIn "summary" [] title) :=
      .textIn (by decide) title
    exact .element (by decide) (summary.cons (htmlOfAll_spells children))

theorem htmlOfAll_spells : (ts : List Template) → Spells (htmlOfAll ts) (tokensOfAll ts)
  | [] => .nil
  | t :: ts => (html_spells t).cons (htmlOfAll_spells ts)

end

end Template

/-! ## Forms -/

mutual

/-- The widget of a control whose inputs are numbered from `number` on. -/
def Control.template (form : Submitted) (call label : String) (optional : Bool) (number : Nat) :
    Control → Template
  | .primitive kind => .input form (inputKey call number) label optional (.ofPrimitive kind)
  | .object _ => .input form (inputKey call number) label optional .object
  | .array element => .arrayInput form (inputKey call number) label optional element
  | .frame _ fields => .frame label (.fieldset (fieldTemplates form call number fields))

def fieldTemplates (form : Submitted) (call : String) (number : Nat) :
    List (String × Control) → List Template
  | [] => []
  | (name, control) :: rest =>
    control.template form call (label name) false number ::
      fieldTemplates form call (number + control.inputCount) rest

end

def parameterTemplates (types : List RecordType) (form : Submitted) (call : String)
    (number : Nat) : List Parameter → List Template
  | [] => []
  | p :: params =>
    let control := Control.ofType types p.type
    control.template form call (label p.name) p.optional number ::
      parameterTemplates types form call (number + control.inputCount) params

/-- The form of a method. -/
def Method.template (types : List RecordType) (form : Submitted) (action : String → String)
    (m : Method) : Template :=
  .callForm m.title (action m.name) (parameterTemplates types form m.name 1 m.params)

mutual

/-- The forms of a member of a namespace, which is known there as `name`. -/
def memberTemplate (types : List RecordType) (form : Submitted) (action : String → String)
    (name : String) : NameTree Method → Template
  | .leaf m => m.template types form action
  | .branch members =>
    .group (if name = "" then none else some (label name))
      (memberTemplates types form action members)

def memberTemplates (types : List RecordType) (form : Submitted) (action : String → String) :
    List (String × NameTree Method) → List Template
  | [] => []
  | (name, member) :: rest =>
    memberTemplate types form action name member :: memberTemplates types form action rest

end

/-- The forms of a service. -/
def Client.template (form : Submitted) (action : String → String) (client : Client) : Template :=
  .group none (memberTemplates client.types form action client.methods)

section

variable {A : Type} {types : List RecordType} {form : Submitted} {action : String → String}
  {submit : Submission → A}

mutual

/-- The widget made for a control is that of its template. -/
theorem Control.build_template (label : String) (optional : Bool) : (control : Control) →
    (s : CallForms A) →
    (control.build (Html.toolkit form action) types label optional s).1.1 =
      (control.template form s.current label optional (s.inputs + 1)).html
  | .primitive _, _ | .object _, _ | .array _, _ => rfl
  | .frame _ fields, s =>
    congrArg (fun widgets => Html.frame label (Html.fieldset widgets))
      (buildFields_templates fields s)

theorem buildFields_templates : (fields : List (String × Control)) → (s : CallForms A) →
    (buildFields (Html.toolkit form action) types fields s).1.1 =
      Template.htmlOfAll (fieldTemplates form s.current (s.inputs + 1) fields)
  | [], _ => rfl
  | (name, control) :: rest, s => by
    let make := control.build (Html.toolkit (A := A) form action) types (label name) false
    have makes : MakesInputs (fun x => [x.1]) control.inputCount make :=
      Control.build_makes (label name) false control
    change (make s).1.1 :: (buildFields (Html.toolkit form action) types rest (make s).2).1.1 = _
    rw [Control.build_template, makes.state, buildFields_templates, fieldTemplates,
      Template.htmlOfAll]
    simp [advance, Nat.add_right_comm]

end

theorem buildParameters_templates (params : List Parameter) (s : CallForms A) :
    (buildParameters (Html.toolkit form action) types params s).1.1 =
      Template.htmlOfAll (parameterTemplates types form s.current (s.inputs + 1) params) := by
  induction params generalizing s with
  | nil => rfl
  | cons p params ih =>
    let control := Control.ofType types p.type
    let make := control.build (Html.toolkit (A := A) form action) types (label p.name) p.optional
    have makes : MakesInputs (fun x => [x.1]) control.inputCount make :=
      Control.build_makes (label p.name) p.optional control
    change (make s).1.1 ::
      (buildParameters (Html.toolkit form action) types params (make s).2).1.1 = _
    rw [Control.build_template, makes.state, ih, parameterTemplates, Template.htmlOfAll]
    simp [advance, control, Nat.add_right_comm]

theorem ownForm_template (m : Method) :
    (m.ownForm types form action submit).1 = (m.template types form action).html := by
  let make := buildParameters (Html.toolkit (A := A) form action) types m.params
  let fresh : CallForms A := ⟨m.name, 0, []⟩
  have makes : MakesInputs Prod.fst (m.inputCount types) make := buildParameters_makes m.params
  have widgets : (make fresh).1.1 =
      Template.htmlOfAll (parameterTemplates types form m.name 1 m.params) :=
    buildParameters_templates m.params fresh
  change Html.callForm m.title (action (make fresh).2.current) (make fresh).1.1 = _
  rw [makes.state, widgets]
  rfl

mutual

theorem buildMember_template (name : String) : (member : NameTree Method) → (s : CallForms A) →
    (buildMember (Html.toolkit form action) types submit name member s).1 =
      (memberTemplate types form action name member).html
  | .leaf m, s => by
    have own : ((m.buildForm (Html.toolkit form action) types submit).run s).1.1 =
        (m.ownForm types form action submit).1 := congrArg (·.1.1) (buildForm_run s)
    exact own.trans (ownForm_template m)
  | .branch members, s => by
    have inside := buildMembers_templates members s
    have empty : name.isEmpty = true ↔ name = "" := String.isEmpty_iff
    rw [memberTemplate, Template.html, ← inside]
    simp only [← empty]
    rfl

theorem buildMembers_templates : (members : List (String × NameTree Method)) →
    (s : CallForms A) → (buildMembers (Html.toolkit form action) types submit members s).1 =
      Template.htmlOfAll (memberTemplates types form action members)
  | [], _ => rfl
  | (name, member) :: rest, s =>
    congrArg₂ List.cons (buildMember_template name member s) (buildMembers_templates rest _)

end

theorem Client.buildForms_template (client : Client) (s : CallForms A) :
    ((client.buildForms (Html.toolkit form action) submit).run s).1 =
      (client.template form action).html :=
  congrArg (Html.group none) (buildMembers_templates client.methods s)

end

/-! ## Pages -/

namespace Page

def verdictTokens : Verdict → List Token
  | .result text => textIn "div" [attr "class" "value"] text
  | .error message => textIn "div" [attr "class" "error"] message

def reportTokens : Option (String × Verdict) → List Token
  | none => [.text "\n    "]
  | some (method, v) =>
    [.text "\n    \n    "] ++
      within "div" [attr "class" "result"]
        ([.text "\n        "] ++ textIn "div" [attr "class" "title"] method ++
          [.text "\n        "] ++ verdictTokens v ++ [.text "\n    "]) ++
      [.text "\n    "]

def headTokens (title : String) : List Token :=
  within "head" [] ([.text "\n    "] ++ textIn "title" [] title ++ [.text "\n"])

def bodyTokens (title : String) (shown : Option (String × Verdict)) (content : List Token) :
    List Token :=
  within "body" [] ([.text "\n    "] ++ textIn "h1" [] title ++ reportTokens shown ++
    ([.text "\n    "] ++ content ++ [.text "\n"]))

/-- The tokens of a page, around those of its forms. -/
def tokens (title : String) (shown : Option (String × Verdict)) (content : List Token) :
    List Token :=
  [.opening "!DOCTYPE" [⟨"html", none⟩], .text "\n"] ++
    within "html" [] ([.text "\n"] ++ headTokens title ++ [.text "\n"] ++
      bodyTokens title shown content ++ [.text "\n"])

theorem report_spells : (shown : Option (String × Verdict)) →
    Spells (report shown) (reportTokens shown)
  | none => .text _
  | some (method, v) => by
    have title : Spells [.element "div" [attr "class" "title"] [.text method]]
        (textIn "div" [attr "class" "title"] method) := .textIn (by decide) method
    have shown : Spells [verdict v] (verdictTokens v) := by
      cases v with
      | result text => exact .textIn (by decide) text
      | error message => exact .textIn (by decide) message
    have inside := ((((Spells.text "\n        ").append title).append
      (Spells.text "\n        ")).append shown).append (.text "\n    ")
    have result := Spells.element (by decide : isPlainTag "div" [attr "class" "result"] = true)
      inside
    exact ((Spells.text "\n    \n    ").append result).append (.text "\n    ")

/-- A page is read back as its tokens, around those of the forms on it. -/
theorem readTokens_render {content : Markup} {ts : List Token} (forms : Spells [content] ts)
    (title : String) (shown : Option (String × Verdict)) :
    readTokens (render title shown content).toList = Token.joined (tokens title shown ts) := by
  have line : ∀ s, Spells [.text s] [.text s] := Spells.text
  have name : Spells [.element "title" [] [.text title]] (textIn "title" [] title) :=
    .textIn (by decide) title
  have heading : Spells [.element "h1" [] [.text title]] (textIn "h1" [] title) :=
    .textIn (by decide) title
  have head := Spells.element (by decide : isPlainTag "head" [] = true)
    (((line "\n    ").append name).append (line "\n"))
  have body := Spells.element (by decide : isPlainTag "body" [] = true)
    ((((line "\n    ").append heading).append (report_spells shown)).append
      (((line "\n    ").append forms).append (line "\n")))
  have whole : Spells [html title shown content] _ :=
    Spells.element (by decide : isPlainTag "html" [] = true)
      (((((line "\n").append head).append (line "\n")).append body).append (line "\n"))
  have doctype : Spells [.void "!DOCTYPE" [⟨"html", none⟩], .text "\n"]
      [.opening "!DOCTYPE" [⟨"html", none⟩], .text "\n"] :=
    (Spells.void (by decide)).append (line "\n")
  have start : "<!DOCTYPE html>\n".toList =
      Markup.openTag "!DOCTYPE" [⟨"html", none⟩] ++ escapeText "\n" := by decide
  have chars : (render title shown content).toList = Markup.charsOfAll
      [.void "!DOCTYPE" [⟨"html", none⟩], .text "\n", html title shown content] :=
    calc (render title shown content).toList
      _ = "<!DOCTYPE html>\n".toList ++ (html title shown content).render.toList :=
        String.toList_append
      _ = (Markup.openTag "!DOCTYPE" [⟨"html", none⟩] ++ escapeText "\n") ++
          (html title shown content).chars := congrArg₂ _ start String.toList_ofList
      _ = _ := by
        simp only [Markup.charsOfAll, Markup.chars, List.append_nil, List.append_assoc]
  rw [chars]
  exact (doctype.append whole).read

end Page

/-- What a page shows of a call: its result or the message of its failure, if that is one that the
client reports. -/
def shownVerdict : Except Failure String → Option Verdict
  | .ok text => some (.result text)
  | .error failure => if failure.isReported then failure.message?.map .error else none

namespace Explorer

variable (e : Explorer)

/-- What the page shows of the call that a form is submitted for. -/
def verdict? (m : Method) (form : Submitted) (link : Link) : Option Verdict :=
  shownVerdict
    ((Submission.run e.client ⟨m, (e.callForm m form).2⟩ link).1 >>= renderResult)

theorem submit_page (name : String) (form : Submitted) (link : Link) :
    (e.submit name form link).1.page = (do
      let m ← e.client.method? name
      let v ← e.verdict? m form link
      return Page.render e.title (some (name, v)) (e.callForm m form).1) := by
  rw [submit]
  cases e.client.method? name with
  | none => rfl
  | some m =>
    simp only [verdict?, Option.bind_eq_bind, Option.bind_some]
    cases (Submission.run e.client ⟨m, (e.callForm m form).2⟩ link).1 >>= renderResult with
    | ok text => rfl
    | error failure =>
      simp only [shownVerdict]
      cases failure.isReported <;> cases failure.message? <;> rfl

/-- The pages of an explorer are the one with all forms and those with what came of a submission. -/
theorem respondAt_page (place : Place) (taken : List String) (request : Request) (link : Link) :
    let page := (e.respondAt place taken request link).1.page
    page = none ∨ page = some e.indexPage ∨
      ∃ name, page = (e.submit name request.form link).1.page := by
  cases place with
  | file => exact .inl rfl
  | index =>
    cases taken with
    | nil => exact .inr (.inl rfl)
    | cons first rest => exact .inl rfl
  | call =>
    match taken with
    | [method] => exact .inr (.inr ⟨method, rfl⟩)
    | [] | _ :: _ :: _ => exact .inl rfl

theorem respond_page (request : Request) (link : Link) :
    let page := (e.respond request link).toOption.bind (·.1.page)
    page = none ∨ page = some e.indexPage ∨
      ∃ name, page = (e.submit name request.form link).1.page := by
  rw [respond]
  cases requestPath request.address.toList with
  | error cause => exact .inl rfl
  | ok path =>
    dsimp only
    cases Route.arrive e.routes request.verb path with
    | «at» route taken => exact e.respondAt_page route.place taken request link
    | redirected | wrongVerb | nowhere | unclear => exact .inl rfl

end Explorer

/-- Whatever strings a service, a form and a reply put on the pages of an explorer, a tokeniser
reads the tags and attributes of the templates, nested as the namespaces, methods and parameters
are, and each string as it is. -/
theorem pages_read_back (e : Explorer) :
    (∀ t : Template, readTokens t.html.chars = Token.joined t.tokens) ∧
    readTokens e.indexPage.toList =
      Token.joined (Page.tokens e.title none (e.client.template [] e.actionUrl).tokens) ∧
    (∀ name form link, (e.submit name form link).1.page.map (readTokens ·.toList) = (do
      let m ← e.client.method? name
      let v ← e.verdict? m form link
      return Token.joined (Page.tokens e.title (some (name, v))
        (m.template e.client.types form e.actionUrl).tokens))) ∧
    ∀ request link,
      let page := (e.respond request link).toOption.bind (·.1.page)
      page = none ∨ page = some e.indexPage ∨
        ∃ name, page = (e.submit name request.form link).1.page := by
  refine ⟨fun t => ?_, ?_, fun name form link => ?_, e.respond_page⟩
  · have read := t.html_spells.read
    rwa [Markup.charsOfAll, Markup.charsOfAll, List.append_nil] at read
  · rw [Explorer.indexPage, Client.buildForms_template]
    exact Page.readTokens_render (e.client.template [] e.actionUrl).html_spells e.title none
  · rw [e.submit_page]
    cases e.client.method? name with
    | none => rfl
    | some m =>
      have own : (e.callForm m form).1 = (m.template e.client.types form e.actionUrl).html :=
        ownForm_template m
      cases verdict : e.verdict? m form link with
      | none => simp [verdict]
      | some v =>
        have read := Page.readTokens_render (m.template e.client.types form e.actionUrl).html_spells
          e.title (some (name, v))
        simp [verdict, own, read]

end ServiceClient

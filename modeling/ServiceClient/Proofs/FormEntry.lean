import ServiceClient.Form.Html
import ServiceClient.Proofs.JsonReading
import ServiceClient.Proofs.RoundTrip
import ServiceClient.Proofs.Sending

/-!
Forms filled in for given arguments. `Method.entered` writes each argument into the inputs of a
method's form as a person would: numbers and texts as they are, records field by field, and
everything else as JSON. Submitting such a form makes the call with these arguments.
-/

namespace ServiceClient

/-- The JSON text of a value that can be sent. -/
def Value.jsonText (v : Value) : String := ((v.toWire >>= Json.write).toOption).getD ""

mutual

/-- The texts entered for a value of a type, one for each input and in the order of the inputs; a
box that is not checked has none. A record is entered field by field, unless one of its type is
being entered around it. -/
def Value.inputTexts (enclosing : List String) : TypeRef → Value → List (Option String)
  | .primitive _, .int n => [some (toString n)]
  | .primitive _, .float x => [some x.text]
  | .primitive _, .string s => [some s]
  | .primitive _, .bool b => [if b then some "1" else none]
  | .named name, .record type values =>
    if name ∈ enclosing then [some (Value.record type values).jsonText]
    else fieldInputTexts (name :: enclosing) type.fields values
  | _, v => [some v.jsonText]

def fieldInputTexts (enclosing : List String) :
    List (String × TypeRef) → List Value → List (Option String)
  | (_, t) :: fields, v :: vs => v.inputTexts enclosing t ++ fieldInputTexts enclosing fields vs
  | _, _ => []

end

/-- The name of an input. -/
def inputKey (call : String) (number : Nat) : String := call ++ ":" ++ toString number

/-- Texts under the names of numbered inputs. -/
def numberedTexts (call : String) : Nat → List (Option String) → Submitted
  | _, [] => []
  | number, none :: texts => numberedTexts call (number + 1) texts
  | number, some text :: texts =>
    (inputKey call number, text) :: numberedTexts call (number + 1) texts

/-- The parameters of a method with their types. -/
def Method.fields (m : Method) : List (String × TypeRef) := m.params.map fun p => (p.name, p.type)

/-- The form of a method with an argument entered for each parameter. -/
def Method.entered (m : Method) (args : List Value) : Submitted :=
  numberedTexts m.name 1 (fieldInputTexts [] m.fields args)

/-- Whether a value is one that forms take: made with the declared types, of values that JSON has,
with integers that can be written and floating point numbers that are read as they are written. -/
def Value.isEnterable (types : List RecordType) (v : Value) : Bool :=
  v.isRecordOf types && v.isSendable && Json.isShort v && v.readsBack

/-! ## Numbered inputs -/

theorem inputKey_injective {call : String} {n n' : Nat}
    (same : inputKey call n = inputKey call n') : n = n' := by
  have digits : Nat.toDigits 10 n = Nat.toDigits 10 n' := by
    have lists := congrArg String.toList same
    simpa [inputKey] using lists
  rw [← digitsValue_toDigits n, digits, digitsValue_toDigits]

/-- A form has a list of texts in its inputs, from a number on. -/
def FilledIn (form : Submitted) (call : String) (number : Nat)
    (texts : List (Option String)) : Prop :=
  ∀ i text?, texts[i]? = some text? → form.lookup (inputKey call (number + i)) = text?

theorem filled_cons {form : Submitted} {call : String} {number : Nat} {text? : Option String}
    {texts : List (Option String)} (filled : FilledIn form call number (text? :: texts)) :
    form.lookup (inputKey call number) = text? ∧ FilledIn form call (number + 1) texts := by
  refine ⟨filled 0 text? rfl, fun i text? here => ?_⟩
  rw [Nat.add_assoc, Nat.add_comm 1]
  exact filled (i + 1) text? here

theorem filled_append {form : Submitted} {call : String} {number : Nat}
    {texts texts' : List (Option String)} (filled : FilledIn form call number (texts ++ texts')) :
    FilledIn form call number texts ∧ FilledIn form call (number + texts.length) texts' := by
  constructor
  · intro i text? here
    apply filled i text?
    rw [List.getElem?_append_left (List.getElem?_eq_some_iff.mp here).1, here]
  · intro i text? here
    rw [Nat.add_assoc]
    apply filled (texts.length + i) text?
    rw [List.getElem?_append_right (Nat.le_add_right ..), Nat.add_sub_cancel_left, here]

theorem lookup_numberedTexts_early {call : String} {early number : Nat} (before : early < number)
    (texts : List (Option String)) :
    (numberedTexts call number texts).lookup (inputKey call early) = none := by
  induction texts generalizing number with
  | nil => rfl
  | cons text? texts ih =>
    cases text? with
    | none => exact ih (Nat.lt_succ_of_lt before)
    | some text =>
      have other : (inputKey call early == inputKey call number) = false :=
        beq_eq_false_iff_ne.mpr fun same => Nat.ne_of_lt before (inputKey_injective same)
      rw [numberedTexts, List.lookup_cons, other]
      exact ih (Nat.lt_succ_of_lt before)

theorem filled_numberedTexts (call : String) (number : Nat) (texts : List (Option String)) :
    FilledIn (numberedTexts call number texts) call number texts := by
  induction texts generalizing number with
  | nil => exact fun i text? here => nomatch here
  | cons text? texts ih =>
    intro i given here
    cases i with
    | zero =>
      obtain rfl : text? = given := Option.some.inj here
      cases text? with
      | none => exact lookup_numberedTexts_early (Nat.lt_succ_self number) texts
      | some text => simp [numberedTexts]
    | succ i =>
      have later := ih (number + 1) i given here
      rw [Nat.add_assoc, Nat.add_comm 1] at later
      cases text? with
      | none => exact later
      | some text =>
        have other : (inputKey call (number + (i + 1)) == inputKey call number) = false := by
          apply beq_eq_false_iff_ne.mpr
          intro same
          have := inputKey_injective same
          omega
        rw [numberedTexts, List.lookup_cons, other]
        exact later

/-! ## What is read from the inputs -/

section

variable {types : List RecordType}

theorem isRecordOf_of_isEnterable (v : Value) (enterable : v.isEnterable types = true) :
    v.isRecordOf types = true := by
  simp only [Value.isEnterable, Bool.and_eq_true] at enterable
  exact enterable.1.1.1

theorem isSendable_of_isEnterable (v : Value) (enterable : v.isEnterable types = true) :
    v.isSendable = true := by
  simp only [Value.isEnterable, Bool.and_eq_true] at enterable
  exact enterable.1.1.2

/-- What is sent for a value that forms take is plain, and its numbers are written and read. -/
theorem toWire_isEnterable (well : WellNamed types) {v w : Value}
    (enterable : v.everywhere (Value.isEnterable types) = true) (sent : v.toWire = .ok w) :
    w.isPlain = true ∧ w.everywhere Json.isShort = true ∧ w.everywhere Value.readsBack = true := by
  have owned : v.belongsTo types = true :=
    Value.everywhere_imp isRecordOf_of_isEnterable v enterable
  have sendable := Value.everywhere_imp isSendable_of_isEnterable v enterable
  refine ⟨toWire_isPlain well.fields owned sendable sent, (Value.everywhere_and w).mp ?_⟩
  refine toWire_everywhere_leaves (fun _ => rfl) (fun _ => rfl) (fun v _ here => ?_) enterable sent
  simp only [Value.isEnterable, Bool.and_eq_true] at here ⊢
  exact ⟨here.1.2, here.2⟩

/-- What is read from an input has the type and is sent as the value that was entered. -/
def Stands (t : TypeRef) (w read : Value) : Prop :=
  t.mismatch? read = none ∧ read.toWire = .ok w

/-- A table of types in which no name has another meaning: no type hides the untyped object, and no
field the receiver of a call. -/
structure Ordinary (types : List RecordType) : Prop where
  well : WellNamed types
  undeclared : findType? types untypedObject = none
  unreceived : ∀ type ∈ types, receiverName ∉ type.fieldNames

/-- The JSON text of a value, read and converted, stands for the value. -/
theorem jsonText_stands (ordinary : Ordinary types) {t : TypeRef} {v w : Value}
    (enterable : v.everywhere (Value.isEnterable types) = true) (shaped : t.mismatch? v = none)
    (sent : v.toWire = .ok w) :
    v.jsonText ≠ "" ∧
      ∃ read, (Html.readJson v.jsonText).ofWire types t = .ok read ∧ Stands t w read := by
  obtain ⟨plain, short, back⟩ := toWire_isEnterable ordinary.well enterable sent
  have owned : v.belongsTo types = true :=
    Value.everywhere_imp isRecordOf_of_isEnterable v enterable
  have conforms : Conforms types t w :=
    toWire_conforms ordinary.well.names ordinary.undeclared v t w owned shaped sent plain
  obtain ⟨text, written⟩ := Json.exists_write ((Value.everywhere_and w).mp plain).1 short
  have isText : v.jsonText = text := by
    simp [Value.jsonText, sent, written, Except.toOption]
  have isRead : Html.readJson text = w := by
    rw [Html.readJson, Json.parse_write plain back written]
  rw [isText, isRead]
  constructor
  · rintro rfl
    obtain ⟨c, cs, front, -⟩ := Json.starts_writeAt (Json.write_eq_ok.mp written)
    cases front
  · obtain ⟨read, isRead, shaped, sent⟩ := acceptable_recodes ordinary.well ordinary.unreceived
      (conforms_acceptable ordinary.well conforms) plain
    rw [conforms_normalize ordinary.well conforms] at sent
    exact ⟨read, isRead, shaped, sent⟩

/-! ## Controls -/

/-- The types that may be framed inside records of the enclosing ones. -/
def typesOutside (types : List RecordType) (enclosing : List String) : List RecordType :=
  types.filter fun type => type.name ∉ enclosing

theorem withoutType_typesOutside (enclosing : List String) (name : String) :
    withoutType (typesOutside types enclosing) name = typesOutside types (name :: enclosing) := by
  rw [withoutType, typesOutside, typesOutside, List.filter_filter]
  congr 1
  funext type
  by_cases type.name = name <;> simp_all

theorem findType?_typesOutside_of_mem {enclosing : List String} {name : String}
    (inside : name ∈ enclosing) : findType? (typesOutside types enclosing) name = none := by
  simp only [findType?, typesOutside, List.find?_eq_none, List.mem_filter]
  rintro type ⟨-, outside⟩ same
  have named : type.name = name := by simpa using same
  simp [named, inside] at outside

theorem findType?_typesOutside {enclosing : List String} {name : String}
    (outside : name ∉ enclosing) :
    findType? (typesOutside types enclosing) name = findType? types name := by
  rw [findType?, findType?, typesOutside, List.find?_filter]
  congr 1
  funext type
  by_cases same : type.name = name
  · simp [same, outside]
  · simp [same]

/-- A declared type outside the enclosing ones is entered field by field. -/
theorem ofType_frame {enclosing : List String} {type : RecordType}
    (declared : findType? types type.name = some type) (outside : type.name ∉ enclosing) :
    Control.ofType (typesOutside types enclosing) (.named type.name) =
      .frame type (type.fields.map fun f =>
        (f.1, Control.ofType (typesOutside types (type.name :: enclosing)) f.2)) := by
  have found := (findType?_typesOutside outside).trans declared
  rw [Control.ofType]
  split
  · rename_i unframed
    rw [found] at unframed
    cases unframed
  · rename_i type' framed
    rw [found] at framed
    obtain rfl := Option.some.inj framed
    rw [withoutType_typesOutside]

section

variable {A : Type} {form : Submitted} {action : String → String} {s : CallForms A}

/-- The state after inputs were made. -/
def advance (s : CallForms A) (count : Nat) : CallForms A := { s with inputs := s.inputs + count }

/-- What is entered in an input that is not optional is parsed, unless it is empty. -/
theorem read_entered {key text fallback : String} {parse : String → Value}
    (entered : form.lookup key = some text) (nonempty : text ≠ "") :
    Html.read form key false parse fallback = parse text := by
  have notEmpty : text.isEmpty = false := by simpa using nonempty
  simp [Html.read, entered, notEmpty]

theorem build_primitive (kind : Primitive) (label : String) :
    (Control.primitive kind).build (Html.toolkit form action) types label false s =
      (((Html.input form (inputKey s.current (s.inputs + 1)) label false (.ofPrimitive kind)).1,
        .ok (Html.input form (inputKey s.current (s.inputs + 1)) label false
          (.ofPrimitive kind)).2), advance s 1) := rfl

theorem build_array (element : TypeRef) (label : String) :
    (Control.array element).build (Html.toolkit form action) types label false s =
      (((Html.arrayInput form (inputKey s.current (s.inputs + 1)) label element false).1,
        (Html.read form (inputKey s.current (s.inputs + 1)) false Html.readJson "[]").ofWire types
          (.array element)), advance s 1) := rfl

theorem build_object (name label : String) :
    (Control.object name).build (Html.toolkit form action) types label false s =
      (((Html.input form (inputKey s.current (s.inputs + 1)) label false .object).1,
        (Html.read form (inputKey s.current (s.inputs + 1)) false Html.readJson
          "\x7b\x7d").ofWire types (.named name)), advance s 1) := rfl

theorem buildFields_cons (name : String) (control : Control) (rest : List (String × Control)) :
    buildFields (Html.toolkit form action) types ((name, control) :: rest) s =
      let first := control.build (Html.toolkit form action) types (label name) false s
      let others := buildFields (Html.toolkit form action) types rest first.2
      ((first.1.1 :: others.1.1, first.1.2 :: others.1.2), others.2) := rfl

theorem allEntered_ok (reads : List Value) : allEntered (reads.map .ok) = .ok reads := by
  induction reads with
  | nil => rfl
  | cons read reads ih =>
    rw [List.map_cons, allEntered, ih]
    rfl

theorem build_frame {type : RecordType} {fields : List (String × Control)} {widgets : List Markup}
    {reads : List Value} {s' : CallForms A} (label : String)
    (built : buildFields (Html.toolkit form action) types fields s =
      ((widgets, reads.map .ok), s')) :
    (Control.frame type fields).build (Html.toolkit form action) types label false s =
      ((Html.frame label (Html.fieldset widgets), .ok (.record type reads)), s') := by
  have run : (Control.frame type fields).build (Html.toolkit form action) types label false s =
      let built := buildFields (Html.toolkit form action) types fields s
      ((Html.frame label (Html.fieldset built.1.1),
        (allEntered built.1.2).map (.record type ·)), built.2) := rfl
  simp only [run, built, allEntered_ok]
  rfl

/-- A value is read from the inputs it was entered in, by the control of its type. -/
def ReadBack (types : List RecordType) (form : Submitted) (action : String → String) (A : Type)
    (v : Value) : Prop :=
  ∀ (label : String) {t : TypeRef} {w : Value} {enclosing : List String} {s : CallForms A},
    v.everywhere (Value.isEnterable types) = true → t.mismatch? v = none → v.toWire = .ok w →
    FilledIn form s.current (s.inputs + 1) (v.inputTexts enclosing t) →
    ∃ widget read,
      (Control.ofType (typesOutside types enclosing) t).build (Html.toolkit form action) types
          label false s =
        ((widget, .ok read), advance s (v.inputTexts enclosing t).length) ∧ Stands t w read

theorem fields_readBack {fields : List (String × TypeRef)} {values : List Value}
    {out : List (String × Value)} {enclosing : List String} (s : CallForms A)
    (inside : ∀ v ∈ values, ReadBack types form action A v)
    (enterable : ∀ v ∈ values, v.everywhere (Value.isEnterable types) = true)
    (full : values.length = fields.length)
    (sent : List.Forall₂ FieldSent (fields.zip values) out)
    (filled : FilledIn form s.current (s.inputs + 1) (fieldInputTexts enclosing fields values)) :
    ∃ widgets reads,
      buildFields (Html.toolkit form action) types
          (fields.map fun f => (f.1, Control.ofType (typesOutside types enclosing) f.2)) s =
        ((widgets, reads.map .ok), advance s (fieldInputTexts enclosing fields values).length) ∧
      reads.length = fields.length ∧ List.Forall₂ FieldSent (fields.zip reads) out := by
  induction fields generalizing values out s with
  | nil =>
    obtain rfl : values = [] := by simpa using full
    cases sent
    exact ⟨[], [], rfl, rfl, .nil⟩
  | cons f fields ih =>
    cases values with
    | nil => simp at full
    | cons v values =>
      obtain ⟨hereInside, laterInside⟩ := List.forall_mem_cons.mp inside
      obtain ⟨hereEnterable, laterEnterable⟩ := List.forall_mem_cons.mp enterable
      cases sent with
      | @cons _ e _ out here others =>
        obtain ⟨sameKey, shaped, hereSent⟩ := here
        obtain ⟨hereFilled, laterFilled⟩ := filled_append filled
        obtain ⟨widget, read, built, stands⟩ := hereInside (label f.1) hereEnterable shaped
          hereSent hereFilled
        obtain ⟨widgets, reads, rest, count, restSent⟩ := ih
          (advance s (v.inputTexts enclosing f.2).length) laterInside laterEnterable
          (by simpa using full) others (by simpa [advance, Nat.add_right_comm] using laterFilled)
        refine ⟨widget :: widgets, read :: reads, ?_, by simp [count],
          .cons ⟨sameKey, stands⟩ restSent⟩
        simp only [List.map_cons, buildFields_cons, built, rest]
        simp [advance, fieldInputTexts, Nat.add_assoc]

theorem readNumber_integer {key : String} {n : Int} (short : Json.isShort (.int n) = true)
    (entered : form.lookup key = some (toString n)) :
    Html.read form key false Html.readNumber "" = .int n := by
  have fits : (Nat.toDigits 10 n.natAbs).length ≤ maxDigits := by simpa [Json.isShort] using short
  have isRead := integer?_toString fits
  have nonempty : toString n ≠ "" := by
    intro empty
    rw [empty] at isRead
    cases isRead
  rw [read_entered entered nonempty, Html.readNumber, isRead]

theorem readNumber_float {key : String} {x : Binary64}
    (back : (Value.float x).readsBack = true) (entered : form.lookup key = some x.text) :
    Html.read form key false Html.readNumber "" = .float x := by
  have isRead : floating? x.text = some x := by simpa [Value.readsBack] using back
  have nonempty : x.text ≠ "" := by
    intro empty
    rw [empty] at isRead
    cases isRead
  rw [read_entered entered nonempty, Html.readNumber, integer?_text, isRead]

/-- A number, a text or a truth value is read from the one input it was entered in. -/
theorem primitive_read {kind : Primitive} {v : Value} (enclosing : List String)
    (admitted : kind.admits v = true) (enterable : v.isEnterable types = true) :
    ∃ text?, v.inputTexts enclosing (.primitive kind) = [text?] ∧
      ∀ {form : Submitted} {key : String} (label : String), form.lookup key = text? →
        (Html.input form key label false (.ofPrimitive kind)).2 = v := by
  simp only [Value.isEnterable, Bool.and_eq_true] at enterable
  obtain ⟨⟨-, short⟩, back⟩ := enterable
  cases kind with
  | number =>
    cases v with
    | int n => exact ⟨_, rfl, fun _ entered => readNumber_integer short entered⟩
    | float x => exact ⟨_, rfl, fun _ entered => readNumber_float back entered⟩
    | _ => cases admitted
  | string =>
    cases v with
    | string text =>
      refine ⟨_, rfl, fun {form key} label entered => ?_⟩
      change Html.read form key false Value.string "" = _
      by_cases empty : text = ""
      · simp [Html.read, entered, empty]
      · rw [read_entered entered empty]
    | _ => cases admitted
  | boolean =>
    cases v with
    | bool b =>
      refine ⟨_, rfl, fun {form key} label entered => ?_⟩
      change Value.bool (form.lookup key).isSome = _
      rw [entered]
      cases b <;> rfl
    | _ => cases admitted

theorem array_readBack (ordinary : Ordinary types) {element : TypeRef} {v w : Value}
    {enclosing : List String} {label : String}
    (enterable : v.everywhere (Value.isEnterable types) = true)
    (shaped : (TypeRef.array element).mismatch? v = none) (sent : v.toWire = .ok w)
    (entered : form.lookup (inputKey s.current (s.inputs + 1)) = some v.jsonText) :
    ∃ widget read,
      (Control.ofType (typesOutside types enclosing) (.array element)).build
          (Html.toolkit form action) types label false s =
        ((widget, .ok read), advance s 1) ∧ Stands (.array element) w read := by
  obtain ⟨nonempty, read, isRead, stands⟩ := jsonText_stands ordinary enterable shaped sent
  exact ⟨_, read, by rw [Control.ofType, build_array, read_entered entered nonempty, isRead],
    stands⟩

theorem object_readBack (ordinary : Ordinary types) {name : String} {v w : Value}
    {enclosing : List String} {label : String}
    (unframed : findType? (typesOutside types enclosing) name = none)
    (enterable : v.everywhere (Value.isEnterable types) = true)
    (shaped : (TypeRef.named name).mismatch? v = none) (sent : v.toWire = .ok w)
    (entered : form.lookup (inputKey s.current (s.inputs + 1)) = some v.jsonText) :
    ∃ widget read,
      (Control.ofType (typesOutside types enclosing) (.named name)).build
          (Html.toolkit form action) types label false s =
        ((widget, .ok read), advance s 1) ∧ Stands (.named name) w read := by
  obtain ⟨nonempty, read, isRead, stands⟩ := jsonText_stands ordinary enterable shaped sent
  have control : Control.ofType (typesOutside types enclosing) (.named name) = .object name := by
    rw [Control.ofType]
    split
    · rfl
    · rename_i framed
      rw [unframed] at framed
      cases framed
  exact ⟨_, read, by rw [control, build_object, read_entered entered nonempty, isRead], stands⟩

/-- A record outside the enclosing ones is read field by field. -/
theorem record_readBack (ordinary : Ordinary types) {type : RecordType} {values : List Value}
    {w : Value} {enclosing : List String} {label : String} (outside : type.name ∉ enclosing)
    (inside : ∀ v ∈ values, ReadBack types form action A v)
    (enterable : (Value.record type values).everywhere (Value.isEnterable types) = true)
    (sent : (Value.record type values).toWire = .ok w)
    (filled : FilledIn form s.current (s.inputs + 1)
      (fieldInputTexts (type.name :: enclosing) type.fields values)) :
    ∃ widget read,
      (Control.ofType (typesOutside types enclosing) (.named type.name)).build
          (Html.toolkit form action) types label false s =
        ((widget, .ok read), advance s
          (fieldInputTexts (type.name :: enclosing) type.fields values).length) ∧
        Stands (.named type.name) w read := by
  obtain ⟨here, -⟩ := Value.everywhere_record.mp
    (Value.everywhere_imp isRecordOf_of_isEnterable _ enterable)
  obtain ⟨member, full⟩ := Value.isRecordOf_record.mp here
  obtain ⟨-, enterable⟩ := Value.everywhere_record.mp enterable
  obtain ⟨out, fieldsSent, rfl⟩ := toWire_record_eq_ok.mp sent
  obtain ⟨widgets, reads, built, count, readsSent⟩ :=
    fields_readBack s inside enterable full fieldsSent filled
  have control := ofType_frame (findType?_name ordinary.well.names member) outside
  exact ⟨_, .record type reads, by rw [control, build_frame label built],
    mismatch?_record_eq_none.mpr rfl, toWire_record_eq_ok.mpr ⟨out, readsSent, rfl⟩⟩

/-- Every value is read from the inputs it was entered in. -/
theorem readBack (ordinary : Ordinary types) (v : Value) : ReadBack types form action A v := by
  induction v using Value.partsInduction with
  | leaf v leaf =>
    intro label t w enclosing s enterable shaped sent filled
    obtain ⟨kind, rfl, admitted⟩ := (mismatch?_leaf_eq_none leaf).mp shaped
    obtain ⟨text?, entered, isRead⟩ :=
      primitive_read enclosing admitted (Value.everywhere_here enterable)
    rw [entered] at filled ⊢
    have isRead := isRead label (filled_cons filled).1
    exact ⟨_, v, by rw [Control.ofType, build_primitive, isRead]; rfl, shaped, sent⟩
  | list items ih =>
    intro label t w enclosing s enterable shaped sent filled
    obtain ⟨element, rfl, -⟩ := mismatch?_list_eq_none.mp shaped
    exact array_readBack ordinary enterable shaped sent (filled_cons filled).1
  | tuple items ih =>
    intro label t w enclosing s enterable shaped sent filled
    obtain ⟨element, rfl, -⟩ := mismatch?_tuple_eq_none.mp shaped
    exact array_readBack ordinary enterable shaped sent (filled_cons filled).1
  | object entries ih =>
    intro label t w enclosing s enterable shaped sent filled
    obtain rfl := mismatch?_object_eq_none.mp shaped
    have unframed : findType? (typesOutside types enclosing) untypedObject = none := by
      by_cases inside : untypedObject ∈ enclosing
      · exact findType?_typesOutside_of_mem inside
      · exact (findType?_typesOutside inside).trans ordinary.undeclared
    exact object_readBack ordinary unframed enterable shaped sent (filled_cons filled).1
  | record type values ih =>
    intro label t w enclosing s enterable shaped sent filled
    obtain rfl := mismatch?_record_eq_none.mp shaped
    by_cases inside : type.name ∈ enclosing
    · have texts : (Value.record type values).inputTexts enclosing (.named type.name) =
          [some (Value.record type values).jsonText] := by
        rw [Value.inputTexts, if_pos inside]
      rw [texts] at filled ⊢
      exact object_readBack ordinary (findType?_typesOutside_of_mem inside) enterable shaped sent
        (filled_cons filled).1
    · have texts : (Value.record type values).inputTexts enclosing (.named type.name) =
          fieldInputTexts (type.name :: enclosing) type.fields values := by
        rw [Value.inputTexts, if_neg inside]
      rw [texts] at filled ⊢
      exact record_readBack ordinary inside ih enterable sent filled

end

/-! ## Submitting -/

theorem typesOutside_nil : typesOutside types [] = types := by
  simp [typesOutside]

theorem buildParameters_eq {σ W A : Type} (toolkit : Toolkit σ W A Value) {params : List Parameter}
    (required : ∀ p ∈ params, p.optional = false) :
    buildParameters toolkit types params = buildFields toolkit types
      ((params.map fun p => (p.name, p.type)).map fun f => (f.1, Control.ofType types f.2)) := by
  induction params with
  | nil => rfl
  | cons p params ih =>
    obtain ⟨here, later⟩ := List.forall_mem_cons.mp required
    simp only [buildParameters, List.map_cons, buildFields, here, ih later]

/-- Without optional parameters every value is sent under the name of its own. -/
theorem requestParams_required {params : List Parameter} {values : List Value}
    {entries : List (String × Value)} (required : ∀ p ∈ params, p.optional = false) :
    Method.requestParams params values = .ok entries ↔
      List.Forall₂ FieldSent ((params.map fun p => (p.name, p.type)).zip values) entries := by
  induction params generalizing values entries with
  | nil => simp [Method.requestParams, eq_comm]
  | cons p params ih =>
    obtain ⟨here, later⟩ := List.forall_mem_cons.mp required
    cases values with
    | nil => simp [Method.requestParams, eq_comm]
    | cons v values =>
      simp only [requestParams_cons_eq_ok, here, Bool.false_and, Bool.false_eq_true, false_and,
        false_or, true_and, ih later, List.map_cons, List.zip_cons_cons,
        List.forall₂_cons_left_iff, FieldSent]
      constructor
      · rintro ⟨shaped, w, rest, sent, others, rfl⟩
        exact ⟨(p.name, w), rest, ⟨rfl, shaped, sent⟩, others, rfl⟩
      · rintro ⟨⟨key, w⟩, rest, ⟨rfl, shaped, sent⟩, others, rfl⟩
        exact ⟨shaped, w, rest, sent, others, rfl⟩

theorem buildForm_actions {A : Type} {m : Method} {form : Submitted} {action : String → String}
    {submit : Submission → A} :
    ((m.buildForm (Html.toolkit form action) types submit).run CallForms.start).2.actions =
      let built := buildParameters (Html.toolkit form action) types m.params ⟨m.name, 0, []⟩
      putEntry built.2.current (submit ⟨m, allEntered built.1.2⟩) built.2.actions := rfl

/-- The form of a method over the arguments entered in it reads values that are sent alike. -/
theorem buildForm_reads (ordinary : Ordinary types) {A : Type} {m : Method} {args : List Value}
    {entries : List (String × Value)} (action : String → String) (submit : Submission → A)
    (required : ∀ p ∈ m.params, p.optional = false) (full : args.length = m.params.length)
    (enterable : ∀ v ∈ args, v.everywhere (Value.isEnterable types) = true)
    (sent : Method.requestParams m.params args = .ok entries) :
    ∃ reads,
      ((m.buildForm (Html.toolkit (m.entered args) action) types submit).run
          CallForms.start).2.actions = [(m.name, submit ⟨m, .ok reads⟩)] ∧
      reads.length = m.params.length ∧ Method.requestParams m.params reads = .ok entries := by
  have inside : ∀ v ∈ args, ReadBack types (m.entered args) action A v := fun v _ =>
    readBack ordinary v
  have filled : FilledIn (m.entered args) m.name 1 (fieldInputTexts [] m.fields args) :=
    filled_numberedTexts m.name 1 _
  obtain ⟨widgets, reads, built, count, readsSent⟩ :=
    fields_readBack ⟨m.name, 0, []⟩ inside enterable (by simpa [Method.fields] using full)
      ((requestParams_required required).mp sent) filled
  refine ⟨reads, ?_, by simpa [Method.fields] using count,
    (requestParams_required required).mpr readsSent⟩
  rw [typesOutside_nil] at built
  rw [buildForm_actions, buildParameters_eq _ required]
  simp only [built, allEntered_ok, advance, putEntry]

end

/-- What is sent for a parameter was given. -/
theorem requestParams_given {params : List Parameter} {values : List Value}
    {entries : List (String × Value)} (required : ∀ p ∈ params, p.optional = false)
    (full : values.length = params.length)
    (sent : Method.requestParams params values = .ok entries) : ∀ v ∈ values, v ≠ .absent := by
  rintro v member rfl
  have full : values.length = (params.map fun p => (p.name, p.type)).length := by simpa using full
  obtain ⟨f, beside⟩ := exists_mem_zip full member
  obtain ⟨e, -, -, shaped, -⟩ := forall₂_mem_left ((requestParams_required required).mp sent) beside
  obtain ⟨kind, -, admitted⟩ := (mismatch?_leaf_eq_none rfl).mp shaped
  cases kind <;> cases admitted

/-- A request can be written when the values in it were entered in a form. -/
theorem exists_write_envelope {types : List RecordType} (well : WellNamed types) {id : Int}
    {name : String} {params : List Parameter} {values : List Value}
    {entries : List (String × Value)} (required : ∀ p ∈ params, p.optional = false)
    (enterable : ∀ v ∈ values, v.everywhere (Value.isEnterable types) = true)
    (short : Json.isShort (.int id) = true)
    (sent : Method.requestParams params values = .ok entries) :
    ∃ body, Json.write (envelope id name entries) = .ok body := by
  refine write_envelope short fun e entry => ?_
  obtain ⟨v, member, sent⟩ := fieldsSent_mem ((requestParams_required required).mp sent) entry
  obtain ⟨plain, short, -⟩ := toWire_isEnterable well (enterable v member) sent
  exact (Value.everywhere_and e.2).mpr ⟨((Value.everywhere_and e.2).mp plain).1, short⟩

/-- Submitting the form of a method with the arguments entered in it makes the call with these
arguments: it posts the same body. -/
theorem submit_entered {description request : Value} {endpoint name : String} {client : Client}
    {m : Method} {args : List Value} {link : Link} (regular : description.isRegular = true)
    (built : Client.build description endpoint = .ok client)
    (undeclared : findType? client.types untypedObject = none)
    (unreceived : ∀ type ∈ client.types, receiverName ∉ type.fieldNames)
    (stub : (name, m) ∈ client.methodList) (required : ∀ p ∈ m.params, p.optional = false)
    (enterable : ∀ v ∈ args, v.everywhere (Value.isEnterable client.types) = true)
    (short : Json.isShort (.int link.nextId) = true)
    (requested : (m.bind args [] >>= m.request (.int link.nextId)) = .ok request)
    (action : String → String) :
    ∃ submission body,
      ((m.buildForm (Html.toolkit (m.entered args) action) client.types id).run
          CallForms.start).2.actions.lookup name = some submission ∧
        Json.write request = .ok body ∧
        (client.call m args [] link).2.sent = link.sent ++ [⟨"POST", endpoint, some body⟩] ∧
        submission.run client link = client.call m args [] link := by
  obtain ⟨writtenIn, rfl⟩ := build_writtenIn built
  obtain rfl := (writtenIn.of_mem_methodList stub).1
  have ordinary : Ordinary client.types :=
    ⟨build_wellNamed regular built, undeclared, unreceived⟩
  obtain ⟨values, bound, requested⟩ := bind_eq_ok.mp requested
  obtain ⟨entries, sent, rfl⟩ := request_eq_ok.mp requested
  have full := bind_length bound
  obtain rfl := bind_given bound (requestParams_given required full sent)
  obtain ⟨reads, registered, readsFull, readsSent⟩ :=
    buildForm_reads ordinary action id required full enterable sent
  obtain ⟨body, written⟩ := exists_write_envelope ordinary.well required enterable short sent
  have posted : (m.request (.int link.nextId) args >>= Json.write) = .ok body := by
    rw [requested, ok_bind, written]
  have alike : m.request (.int link.nextId) reads = m.request (.int link.nextId) args := by
    rw [requested, request_eq_ok]
    exact ⟨entries, readsSent, rfl⟩
  refine ⟨⟨m, .ok reads⟩, body, by rw [registered]; simp, written, ?_, ?_⟩
  · rw [call_eq_send bound]
    simp [Client.send, Link.takeId, Client.post, posted, Link.post, Link.exchange]
  · rw [call_eq_send bound]
    change client.call m reads [] link = _
    rw [call_eq_send (bind_full readsFull)]
    simp only [Client.send, Link.takeId, alike]

/-- A node with a link to another: its label and its size have inputs of their own, and the link is
entered as JSON. -/
theorem submit_entered_node :
    let node : Value := .record sampleNode
      [.string "a", .int 3, .list [.record sampleNode [.string "b", .int 0, .list []]]]
    sampleMethod.entered [node] = [("graph.add:1", "a"), ("graph.add:2", "3"),
        ("graph.add:3", "[\x7b\"label\": \"b\", \"size\": 0, \"links\": []\x7d]")] ∧
      ∃ submission body,
        ((sampleMethod.buildForm (Html.toolkit (sampleMethod.entered [node]) Html.relativeAction)
            sampleClient.types id).run CallForms.start).2.actions.lookup "graph.add" =
          some submission ∧
        (submission.run sampleClient (.start 7 [])).2.sent =
          [⟨"POST", "http://0.0.0.0:8080/", some body⟩] := by
  intro node
  refine ⟨rfl, ?_⟩
  obtain ⟨request, requested⟩ : ∃ request, (sampleMethod.bind [node] [] >>=
      sampleMethod.request (.int (Link.start 7 []).nextId)) = .ok request := ⟨_, rfl⟩
  obtain ⟨submission, body, registered, -, posted, alike⟩ := submit_entered (by decide) sample_built
    (by decide) (by decide) (List.mem_singleton.mpr rfl) (by decide) (by decide) (by decide)
    requested Html.relativeAction
  exact ⟨submission, body, registered, alike ▸ posted⟩

end ServiceClient

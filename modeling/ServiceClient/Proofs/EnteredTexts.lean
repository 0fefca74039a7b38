import ServiceClient.Proofs.BlankEntries
import ServiceClient.Proofs.OrdinaryTexts

/-!
The texts of JSON in a form, and how deep the arguments are that are read from it. A frame is one
layer of an argument, and what stands in an input for JSON has as many as the brackets of its text,
with one more where records are made of it (`ownForm_depth_le`).
-/

namespace ServiceClient

/-! ## The inputs of a control -/

mutual

/-- The names of the inputs of a control that take JSON, if the first input has this number. -/
def Control.jsonKeys (call : String) (number : Nat) : Control → List String
  | .primitive _ => []
  | .array _ | .object _ => [inputKey call number]
  | .frame _ fields => jsonKeysOfFields call number fields

def jsonKeysOfFields (call : String) (number : Nat) : List (String × Control) → List String
  | [] => []
  | (_, control) :: rest =>
    control.jsonKeys call number ++ jsonKeysOfFields call (number + control.inputCount) rest

end

mutual

/-- How many frames of a control are around one another. -/
def Control.frames : Control → Nat
  | .frame _ fields => framesOfFields fields + 1
  | _ => 0

def framesOfFields : List (String × Control) → Nat
  | [] => 0
  | (_, control) :: rest => max control.frames (framesOfFields rest)

end

namespace Method

/-- The controls for the parameters of a method. -/
def controls (types : List RecordType) (m : Method) : List (String × Control) :=
  m.params.map fun p => (p.name, Control.ofType types p.type)

/-- The names of the inputs of a method that take JSON. -/
def jsonKeys (types : List RecordType) (m : Method) : List String :=
  jsonKeysOfFields m.name 1 (m.controls types)

/-- How many frames are around one another in the form of a method. -/
def frames (types : List RecordType) (m : Method) : Nat := framesOfFields (m.controls types)

end Method

/-! ## Records -/

theorem default_depth_le (t : TypeRef) : t.default.depth ≤ 1 := by
  cases t with
  | primitive kind => cases kind <;> exact Nat.zero_le 1
  | array element => exact Nat.le_refl 1
  | named name => exact Nat.zero_le 1

theorem make_depth_le {type : RecordType} {named : List (String × Value)} {made : Value}
    {bound : Nat} (inside : ∀ e ∈ named, e.2.depth ≤ bound) (room : 1 ≤ bound)
    (done : type.make [] named = .ok made) : made.depth ≤ bound + 1 := by
  obtain ⟨-, -, rfl⟩ := make_eq_ok.mp done
  refine Nat.succ_le_succ (depthOfItems_le_iff.mpr fun v member => ?_)
  obtain ⟨f, -, rfl⟩ := List.mem_map.mp member
  cases given : named.lookup f.1 with
  | none => exact Nat.le_trans (default_depth_le f.2) room
  | some v => exact inside (f.1, v) (mem_of_lookup given)

/-- Records that are made of a value are at most one layer deeper, where a field that is not given
is a list. -/
theorem ofWire_depth_le {types : List RecordType} (v : Value) :
    ∀ {t : TypeRef} {read : Value}, v.ofWire types t = .ok read → read.depth ≤ v.depth + 1 := by
  induction v using Value.insideInduction with
  | step v ih =>
    intro t read isRead
    rcases ofWire_cases isRead with
      rfl | ⟨element, items, reads, rfl, rfl, all⟩ | ⟨type, entries, given, rfl, made, all⟩
    · exact Nat.le_succ _
    · refine Nat.succ_le_succ (depthOfItems_le_iff.mpr fun r member => ?_)
      obtain ⟨v, item, isRead⟩ := forall₂_mem_right all member
      have inside := depthOfItems_le_iff.mp (Nat.le_refl _) v item
      exact Nat.le_trans (ih v item isRead) (Nat.succ_le_succ inside)
    · refine make_depth_le (fun r member => ?_) (Nat.succ_le_succ (Nat.zero_le _)) made
      obtain ⟨e, entry, -, read⟩ := forall₂_mem_right all member
      have inside := depthOfEntries_le_iff.mp (Nat.le_refl _) e entry
      rcases read with ⟨-, same⟩ | ⟨t, -, isRead⟩
      · rw [← same]
        exact Nat.le_succ_of_le inside
      · exact Nat.le_trans (ih e.2 (List.mem_map_of_mem entry) isRead) (Nat.succ_le_succ inside)

/-! ## What is entered -/

section

variable {A : Type} {types : List RecordType} {form : Submitted} {action : String → String}
  {bound : Nat}

/-- The texts under some names have no more brackets around one another than `bound`. -/
def EnteredWithin (form : Submitted) (bound : Nat) (keys : List String) : Prop :=
  ∀ key ∈ keys, ∀ text, form.lookup key = some text → Json.nesting text ≤ bound

theorem readJson_depth_le (text : String) : (Html.readJson text).depth ≤ Json.nesting text := by
  unfold Html.readJson
  split
  · exact Json.parse_depth_le ‹_›
  · exact Nat.zero_le _

/-- What is read as JSON is no deeper than the text, or than the one that an empty input means. -/
theorem read_depth_le {key fallback : String} {optional : Bool}
    (entered : EnteredWithin form bound [key]) (short : Json.nesting fallback ≤ bound) :
    (Html.read form key optional Html.readJson fallback).depth ≤ bound := by
  unfold Html.read
  dsimp only
  split
  · exact Nat.zero_le _
  refine Nat.le_trans (readJson_depth_le _) ?_
  split
  · exact short
  · rename_i nonempty
    cases found : form.lookup key with
    | none => simp [found] at nonempty
    | some text => exact entered key List.mem_cons_self text found

theorem nesting_emptyList : Json.nesting "[]" = 1 := by decide

theorem nesting_emptyObject : Json.nesting "\x7b\x7d" = 1 := by decide

/-- What is made of an input for JSON. -/
theorem jsonInput_depth_le {key fallback : String} {optional : Bool} {t : TypeRef} {v : Value}
    (within : EnteredWithin form bound [key]) (short : Json.nesting fallback ≤ bound)
    (entered : (Html.read form key optional Html.readJson fallback).ofWire types t = .ok v) :
    v.depth ≤ bound + 1 :=
  Nat.le_trans (ofWire_depth_le _ entered) (Nat.succ_le_succ (read_depth_le within short))

theorem read_depth {key fallback : String} {optional : Bool} {parse : String → Value}
    (flat : ∀ text, (parse text).depth = 0) :
    (Html.read form key optional parse fallback).depth = 0 := by
  unfold Html.read
  dsimp only
  split
  · rfl
  · exact flat _

theorem readNumber_depth (text : String) : (Html.readNumber text).depth = 0 := by
  unfold Html.readNumber
  split
  · rfl
  · split <;> rfl

theorem input_depth {key label : String} {optional : Bool} (kind : Primitive) :
    (Html.input form key label optional (.ofPrimitive kind)).2.depth = 0 := by
  cases kind with
  | number => exact read_depth readNumber_depth
  | string => exact read_depth fun _ => rfl
  | boolean => rfl

/-- What is entered is at most so deep, if it can be read. -/
def DepthAtMost (bound : Nat) (entered : Entered) : Prop := ∀ v, entered = .ok v → v.depth ≤ bound

theorem depthAtMost_cons {name : String} {control : Control} {rest : List (String × Control)}
    {first : Entered} {others : List Entered} (here : DepthAtMost (control.frames + bound) first)
    (later : ∀ e ∈ others, DepthAtMost (framesOfFields rest + bound) e) :
    ∀ e ∈ first :: others, DepthAtMost (framesOfFields ((name, control) :: rest) + bound) e := by
  rw [framesOfFields]
  refine List.forall_mem_cons.mpr ⟨fun v ok => ?_, fun e member v ok => ?_⟩
  · exact Nat.le_trans (here v ok) (Nat.add_le_add_right (Nat.le_max_left _ _) _)
  · exact Nat.le_trans (later e member v ok) (Nat.add_le_add_right (Nat.le_max_right _ _) _)

/-- The texts for the first of several controls, and those for the others behind its inputs. -/
theorem enteredWithin_cons {name : String} {control : Control} {rest : List (String × Control)}
    {s : CallForms A} :
    EnteredWithin form bound
        (jsonKeysOfFields s.current (s.inputs + 1) ((name, control) :: rest)) ↔
      EnteredWithin form bound (control.jsonKeys s.current (s.inputs + 1)) ∧
        EnteredWithin form bound (jsonKeysOfFields (advance s control.inputCount).current
          ((advance s control.inputCount).inputs + 1) rest) := by
  rw [jsonKeysOfFields, Nat.add_right_comm]
  exact List.forall_mem_append

mutual

theorem Control.build_depth_le (label : String) (optional : Bool) (room : 1 ≤ bound) :
    (control : Control) → (s : CallForms A) →
    EnteredWithin form bound (control.jsonKeys s.current (s.inputs + 1)) →
    DepthAtMost (control.frames + (bound + 1))
      (control.build (Html.toolkit form action) types label optional s).1.2
  | .primitive kind, s => by
    intro _ v entered
    obtain rfl := Except.ok.inj entered
    exact Nat.le_trans (Nat.le_of_eq (input_depth kind)) (Nat.zero_le _)
  | .object _, s => by
    intro within v entered
    have short := Nat.le_trans (Nat.le_of_eq nesting_emptyObject) room
    have deep : v.depth ≤ bound + 1 := jsonInput_depth_le within short entered
    exact Nat.le_trans deep (Nat.le_add_left _ _)
  | .array _, s => by
    intro within v entered
    have short := Nat.le_trans (Nat.le_of_eq nesting_emptyList) room
    have deep : v.depth ≤ bound + 1 := jsonInput_depth_le within short entered
    exact Nat.le_trans deep (Nat.le_add_left _ _)
  | .frame type fields, s => by
    intro within v entered
    have inside := buildFields_depth_le room fields s within
    change (allEntered (buildFields (Html.toolkit form action) types fields s).1.2).map
      (.record type ·) = .ok v at entered
    cases all : allEntered (buildFields (Html.toolkit form action) types fields s).1.2 with
    | error failure =>
      rw [all] at entered
      cases entered
    | ok values =>
      rw [all] at entered
      obtain rfl := Except.ok.inj entered
      have layers : depthOfItems values ≤ framesOfFields fields + (bound + 1) := by
        apply depthOfItems_le_iff.mpr
        intro v member
        rw [allEntered_eq_ok.mp all] at inside
        exact inside _ (List.mem_map_of_mem member) v rfl
      rw [Value.depth, Control.frames]
      omega

theorem buildFields_depth_le (room : 1 ≤ bound) : (fields : List (String × Control)) →
    (s : CallForms A) →
    EnteredWithin form bound (jsonKeysOfFields s.current (s.inputs + 1) fields) →
    ∀ e ∈ (buildFields (Html.toolkit form action) types fields s).1.2,
      DepthAtMost (framesOfFields fields + (bound + 1)) e
  | [], _ => fun _ => List.forall_mem_nil _
  | (name, control) :: rest, s => by
    intro within
    obtain ⟨here, later⟩ := enteredWithin_cons.mp within
    let make := control.build (Html.toolkit (A := A) form action) types (label name) false
    have makes : MakesInputs (fun x => [x.1]) control.inputCount make :=
      Control.build_makes (label name) false control
    have entered : (buildFields (Html.toolkit form action) types ((name, control) :: rest) s).1.2 =
        (make s).1.2 :: (buildFields (Html.toolkit form action) types rest
          (advance s control.inputCount)).1.2 := by
      rw [← makes.state s]
      rfl
    rw [entered]
    exact depthAtMost_cons (Control.build_depth_le (label name) false room control s here)
      (buildFields_depth_le room rest (advance s control.inputCount) later)

end

theorem enteredFor_depth_le (room : 1 ≤ bound) (params : List Parameter) (s : CallForms A) :
    let controls := params.map fun p => (p.name, Control.ofType types p.type)
    EnteredWithin form bound (jsonKeysOfFields s.current (s.inputs + 1) controls) →
    ∀ e ∈ enteredFor types form action params s,
      DepthAtMost (framesOfFields controls + (bound + 1)) e := by
  induction params generalizing s with
  | nil => exact fun _ => List.forall_mem_nil _
  | cons p params ih =>
    intro controls within
    obtain ⟨here, later⟩ := enteredWithin_cons.mp within
    rw [enteredFor_cons]
    exact depthAtMost_cons (Control.build_depth_le _ p.optional room _ s here)
      (ih (advance s _) later)

/-- The arguments in the form of a method are no deeper than its frames and the texts in them. -/
theorem ownForm_depth_le {submit : Submission → A} {m : Method} {args : List Value}
    (room : 1 ≤ bound) (within : EnteredWithin form bound (m.jsonKeys types))
    (entered : (m.ownForm types form action submit).2 = .ok args) :
    ∀ v ∈ args, v.depth ≤ m.frames types + (bound + 1) := by
  let fresh : CallForms A := ⟨m.name, 0, []⟩
  have deep := @enteredFor_depth_le A types form action bound room m.params fresh within
  have all : enteredFor types form action m.params fresh = args.map .ok :=
    allEntered_eq_ok.mp entered
  rw [all] at deep
  exact fun v member => deep _ (List.mem_map_of_mem member) v rfl

end

end ServiceClient

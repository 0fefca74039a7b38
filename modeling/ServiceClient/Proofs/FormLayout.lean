import Mathlib.Data.List.Perm.Subperm
import ServiceClient.Proofs.FormEntry

/-!
The layout of forms on the graph of the declared types, which may have any cycles. `LaidOut` says
which control stands for a type inside frames of some types, and there is always exactly one
(`laidOut_iff`). The types of frames that are nested in each other are all different, so there are
no more of them than there are declared types (`NestedFrames.distinct`).
-/

namespace ServiceClient

/-- A control stands for a type where frames of the enclosing types are around it. -/
inductive LaidOut (types : List RecordType) : List String → TypeRef → Control → Prop
  | primitive {enclosing : List String} (kind : Primitive) :
      LaidOut types enclosing (.primitive kind) (.primitive kind)
  | array {enclosing : List String} (element : TypeRef) :
      LaidOut types enclosing (.array element) (.array element)
  | untyped {enclosing : List String} {name : String}
      (undeclared : findType? types name = none) :
      LaidOut types enclosing (.named name) (.object name)
  | enclosed {enclosing : List String} {name : String} (inside : name ∈ enclosing) :
      LaidOut types enclosing (.named name) (.object name)
  | frame {enclosing : List String} {name : String} {type : RecordType}
      {fields : List (String × Control)} (declared : findType? types name = some type)
      (outside : name ∉ enclosing) (names : fields.map (·.1) = type.fieldNames)
      (each : ∀ p ∈ type.fields.zip fields, LaidOut types (name :: enclosing) p.1.2 p.2.2) :
      LaidOut types enclosing (.named name) (.frame type fields)

/-- Frames that stand one in the other, by their types, from the outermost frame of a control on. -/
inductive NestedFrames : Control → List RecordType → Prop
  | none (control : Control) : NestedFrames control []
  | one (type : RecordType) (fields : List (String × Control)) :
      NestedFrames (.frame type fields) [type]
  | inside {type : RecordType} {fields : List (String × Control)} {field : String × Control}
      {chain : List RecordType} (member : field ∈ fields) (deeper : NestedFrames field.2 chain) :
      NestedFrames (.frame type fields) (type :: chain)

section

variable {types : List RecordType}

theorem ofType_object {frames : List RecordType} {name : String}
    (unframed : findType? frames name = none) :
    Control.ofType frames (.named name) = .object name := by
  rw [Control.ofType]
  split
  · rfl
  · rename_i framed
    rw [unframed] at framed
    cases framed

theorem length_of_names {type : RecordType} {fields : List (String × Control)}
    (names : fields.map (·.1) = type.fieldNames) : fields.length = type.fields.length := by
  simpa [RecordType.fieldNames] using congrArg List.length names

/-- The types that are not enclosing become fewer in the frame of a type. -/
theorem typesOutside_lt {enclosing : List String} {type : RecordType}
    (declared : findType? types type.name = some type) (outside : type.name ∉ enclosing) :
    (typesOutside types (type.name :: enclosing)).length <
      (typesOutside types enclosing).length := by
  rw [← withoutType_typesOutside]
  exact length_withoutType_lt ((findType?_typesOutside outside).trans declared)

/-- Every type has a control inside any frames. -/
theorem ofType_laidOut (types : List RecordType) (enclosing : List String) : (t : TypeRef) →
    LaidOut types enclosing t (Control.ofType (typesOutside types enclosing) t)
  | .primitive kind => by
    rw [Control.ofType]
    exact .primitive kind
  | .array element => by
    rw [Control.ofType]
    exact .array element
  | .named name => by
    by_cases inside : name ∈ enclosing
    · rw [ofType_object (findType?_typesOutside_of_mem inside)]
      exact .enclosed inside
    · cases declared : findType? types name with
      | none =>
        rw [ofType_object ((findType?_typesOutside inside).trans declared)]
        exact .untyped declared
      | some type =>
        obtain ⟨-, rfl⟩ := mem_of_findType? declared
        rw [ofType_frame declared inside]
        apply LaidOut.frame declared inside
        · rw [List.map_map]
          rfl
        · intro p paired
          rw [← List.map_prod_left_eq_zip] at paired
          obtain ⟨f, -, rfl⟩ := List.mem_map.mp paired
          have fewer := typesOutside_lt declared inside
          exact ofType_laidOut types (type.name :: enclosing) f.2
termination_by (typesOutside types enclosing).length

/-- A type has one control inside some frames, the one that is made for it. -/
theorem laidOut_iff {enclosing : List String} {t : TypeRef} {control : Control} :
    LaidOut types enclosing t control ↔
      control = Control.ofType (typesOutside types enclosing) t := by
  constructor
  · intro laid
    induction laid with
    | primitive kind => rw [Control.ofType]
    | array element => rw [Control.ofType]
    | @untyped enclosing name undeclared =>
      by_cases inside : name ∈ enclosing
      · rw [ofType_object (findType?_typesOutside_of_mem inside)]
      · rw [ofType_object ((findType?_typesOutside inside).trans undeclared)]
    | enclosed inside => rw [ofType_object (findType?_typesOutside_of_mem inside)]
    | @frame enclosing name type fields declared outside names _ ih =>
      obtain ⟨-, rfl⟩ := mem_of_findType? declared
      rw [ofType_frame declared outside]
      refine congrArg _ (map_eq_of_zip (length_of_names names) fun p paired => ?_).symm
      exact Prod.ext (zip_keys names p paired) (ih p paired).symm
  · rintro rfl
    exact ofType_laidOut types enclosing t

/-- The frame of a declared type has the controls of a record of that type in it. -/
theorem ofType_eq_ofRecord {type : RecordType}
    (declared : findType? types type.name = some type) :
    Control.ofType types (.named type.name) = .frame type (Control.ofRecord types type) := by
  have outside : type.name ∉ ([] : List String) := List.not_mem_nil
  have framed := ofType_frame declared outside
  rw [← withoutType_typesOutside, typesOutside_nil] at framed
  exact framed

/-! ## Nested frames -/

/-- The types of frames in each other are different declared types, and none of them is that of a
frame around. -/
theorem NestedFrames.distinct {enclosing : List String} {t : TypeRef} {control : Control}
    {chain : List RecordType} (nested : NestedFrames control chain)
    (laid : LaidOut types enclosing t control) :
    (chain.map (·.name)).Nodup ∧ ∀ type ∈ chain, type ∈ types ∧ type.name ∉ enclosing := by
  induction nested generalizing enclosing t with
  | none => simp
  | one type fields =>
    cases laid with
    | frame declared outside =>
      obtain ⟨member, rfl⟩ := mem_of_findType? declared
      simpa using ⟨member, outside⟩
  | @inside type fields field chain member deeper ih =>
    cases laid with
    | frame declared outside names each =>
      obtain ⟨inTypes, rfl⟩ := mem_of_findType? declared
      obtain ⟨f, paired⟩ := exists_mem_zip (length_of_names names) member
      obtain ⟨distinct, apart⟩ := ih (each _ paired)
      constructor
      · refine List.nodup_cons.mpr ⟨fun again => ?_, distinct⟩
        obtain ⟨inner, further, same⟩ := List.mem_map.mp again
        exact (apart inner further).2 (same ▸ List.mem_cons_self)
      · refine List.forall_mem_cons.mpr ⟨⟨inTypes, outside⟩, fun inner further => ?_⟩
        obtain ⟨inTypes', apart'⟩ := apart inner further
        exact ⟨inTypes', fun around => apart' (List.mem_cons_of_mem _ around)⟩

/-- Frames are nested no deeper than there are declared types. -/
theorem NestedFrames.length_le {enclosing : List String} {t : TypeRef} {control : Control}
    {chain : List RecordType} (nested : NestedFrames control chain)
    (laid : LaidOut types enclosing t control) : chain.length ≤ types.length := by
  obtain ⟨distinct, declared⟩ := nested.distinct laid
  have distinct := distinct.of_map
  have among : chain ⊆ types := fun type member => (declared type member).1
  exact (List.subperm_of_subset distinct among).length_le

end

end ServiceClient

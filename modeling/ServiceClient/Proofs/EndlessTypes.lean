import ServiceClient.Proofs.Flattening
import ServiceClient.Proofs.WidgetOperations

/-!
Types whose records would have to go on forever. A record stands in every field of a record that has
a declared type, so what is sent for it goes down the graph of these fields, and ends (`sent_acc`).
A type on a cycle of the graph has no record that can be sent, though a client is built of it and
has forms for it (`endless_unsendable`). Arrays may be empty, and make no such cycle.
-/

namespace ServiceClient

open Relation (ReflTransGen TransGen)

/-- A type has a field of a declared type, which is not in an array. -/
def Nests (types : List RecordType) (type inner : RecordType) : Prop :=
  ∃ field name, (field, TypeRef.named name) ∈ type.fields ∧ findType? types name = some inner

/-- Whether a record has a value for each of its fields, and is of the declared type that has the
name of its own, if there is one. -/
def Value.isAsDeclared (types : List RecordType) : Value → Bool
  | record type values =>
    values.length == type.fields.length && (findType? types type.name).all (· = type)
  | _ => true

section

variable {types : List RecordType} {type inner : RecordType} {values : List Value}

theorem isAsDeclared_record :
    (Value.record type values).isAsDeclared types = true ↔
      values.length = type.fields.length ∧ ∀ t, findType? types type.name = some t → t = type := by
  simp [Value.isAsDeclared, Option.all_eq_true]

/-- Values of the declared types are as they are declared. -/
theorem isAsDeclared_of_belongsTo (names : (types.map (·.name)).Nodup) {v : Value}
    (owned : v.belongsTo types = true) : v.everywhere (Value.isAsDeclared types) = true := by
  refine Value.everywhere_imp (fun v here => ?_) v owned
  cases v with
  | record type values =>
    obtain ⟨member, full⟩ := Value.isRecordOf_record.mp here
    refine isAsDeclared_record.mpr ⟨full, fun t found => ?_⟩
    exact Option.some.inj (found.symm.trans (findType?_name names member))
  | _ => rfl

/-- Where a record can be sent, so can one in each of its fields of a declared type. -/
theorem sent_nests (undeclared : findType? types untypedObject = none)
    (here : (Value.record type values).isAsDeclared types = true)
    (inside : ∀ v ∈ values, v.isAsDeclared types = true)
    (sent : ∃ w, (Value.record type values).toWire = .ok w) (nests : Nests types type inner) :
    ∃ values', .record inner values' ∈ values ∧
      ∃ w, (Value.record inner values').toWire = .ok w := by
  obtain ⟨full, -⟩ := isAsDeclared_record.mp here
  obtain ⟨w, sent⟩ := sent
  obtain ⟨out, all, rfl⟩ := toWire_record_eq_ok.mp sent
  obtain ⟨field, name, member, declared⟩ := nests
  obtain ⟨v, paired⟩ := exists_mem_zip_left full member
  obtain ⟨e, -, -, shaped, sentInside⟩ := forall₂_mem_left all paired
  have is : IsOf isUntyped (.named name) v :=
    (hasShape_iff_isOf (by simp)).mp (mismatch?_eq_none_iff.mp shaped)
  cases is with
  | record type' values' =>
    have member' := (List.of_mem_zip paired).2
    obtain rfl := (isAsDeclared_record.mp (inside _ member')).2 inner declared
    exact ⟨values', member', e.2, sentInside⟩
  | mapping taken =>
    rw [taken, undeclared] at declared
    cases declared

/-- The fields of declared types lead from a record that can be sent down to records without any. -/
theorem sent_acc (undeclared : findType? types untypedObject = none) (v : Value) :
    ∀ {type values}, v = .record type values → v.everywhere (Value.isAsDeclared types) = true →
      (∃ w, v.toWire = .ok w) → Acc (fun inner outer => Nests types outer inner) type := by
  induction v using Value.insideInduction with
  | step v ih =>
    rintro type values rfl declared sent
    constructor
    intro inner nests
    have inside := everywhere_parts declared
    obtain ⟨values', member, sent'⟩ := sent_nests undeclared (Value.everywhere_here declared)
      (fun v member => Value.everywhere_here (inside v member)) sent nests
    exact ih _ member rfl (inside _ member) sent'

end

section

variable {α : Type} {r : α → α → Prop} {a b : α}

/-- Where all ways end there is none back. -/
theorem not_transGen_of_acc (ends : Acc (fun b a => r a b) a) : ¬TransGen r a a := by
  induction ends with
  | intro a _ ih =>
    intro cycle
    obtain ⟨b, step, back⟩ := TransGen.head'_iff.mp cycle
    exact ih b step (TransGen.tail' back step)

theorem acc_of_reflTransGen (ends : Acc (fun b a => r a b) a) (way : ReflTransGen r a b) :
    Acc (fun b a => r a b) b := by
  induction way with
  | refl => exact ends
  | tail _ step ih => exact ih.inv step

end

/-- From the type of a record that can be sent no cycle of types is reached. -/
theorem no_cycle_of_sent {types : List RecordType}
    (undeclared : findType? types untypedObject = none) {type inner : RecordType}
    {values : List Value} {w : Value}
    (declared : (Value.record type values).everywhere (Value.isAsDeclared types) = true)
    (sent : (Value.record type values).toWire = .ok w)
    (way : ReflTransGen (Nests types) type inner) : ¬TransGen (Nests types) inner inner := by
  have ends := sent_acc undeclared _ rfl declared ⟨w, sent⟩
  exact not_transGen_of_acc (acc_of_reflTransGen ends way)

/-- In every client without a declared type of the name `object`, a record that can be sent is of a
type from which no cycle of types is reached. Every record of a type on a cycle fails one of its
checks, though the client is built and has forms for all its types. A record of a foreign type with
the name of a declared one is left out: it would pass for one of the declared type. -/
theorem endless_unsendable {description : Value} {endpoint : String} {client : Client}
    (regular : description.isRegular = true)
    (built : Client.build description endpoint = .ok client)
    (undeclared : findType? client.types untypedObject = none) :
    (∀ type values w, (Value.record type values).everywhere
        (Value.isAsDeclared client.types) = true →
      (Value.record type values).toWire = .ok w →
      ∀ inner, ReflTransGen (Nests client.types) type inner →
        ¬TransGen (Nests client.types) inner inner) ∧
    (∀ type, TransGen (Nests client.types) type type → ∀ values,
      (Value.record type values).everywhere (Value.isAsDeclared client.types) = true →
      ∃ subject m, (Value.record type values).toWire = .error (.mismatch subject m)) ∧
    BuildsForms client.types := by
  refine ⟨?_, ?_, buildsForms_of_names (build_wellNamed regular built).names⟩
  · intro type values w declared sent inner way
    exact no_cycle_of_sent undeclared declared sent way
  · intro type cycle values declared
    cases sent : (Value.record type values).toWire with
    | ok w => exact absurd cycle (no_cycle_of_sent undeclared declared sent .refl)
    | error failure =>
      obtain ⟨-, c, -, -, failed, -⟩ := toWire_eq_error_iff.mp sent
      obtain ⟨m, -, rfl⟩ := Option.map_eq_some_iff.mp failed
      exact ⟨c.subject, m, rfl⟩

/-- A person has a team and a team a lead, so no person can be sent. -/
theorem endless_unsendable_staff :
    staffDescription.isRegular = true ∧ Client.build staffDescription "/rpc" = .ok staffClient ∧
      findType? staffClient.types untypedObject = none ∧
      TransGen (Nests staffClient.types) personType personType ∧
      ∀ lead : Value, lead.belongsTo staffClient.types = true →
        ∃ subject m, (Value.record personType [.string "Ann",
          .record teamType [lead, .object []], .list []]).toWire =
            .error (.mismatch subject m) := by
  have regular : staffDescription.isRegular = true := by decide
  have cycle : TransGen (Nests staffClient.types) personType personType := by
    have team : Nests staffClient.types personType teamType := ⟨"team", "Team", by decide, rfl⟩
    have lead : Nests staffClient.types teamType personType := ⟨"lead", "Person", by decide, rfl⟩
    exact .tail (.single team) lead
  obtain ⟨-, fails, -⟩ := endless_unsendable regular staff_built rfl
  refine ⟨regular, staff_built, rfl, cycle, fun lead owned => fails personType cycle _ ?_⟩
  have declared := isAsDeclared_of_belongsTo (build_wellNamed regular staff_built).names owned
  have team : (Value.record teamType [lead, .object []]).everywhere
      (Value.isAsDeclared staffClient.types) = true :=
    Value.everywhere_record.mpr ⟨rfl, List.forall_mem_cons.mpr
      ⟨declared, List.forall_mem_singleton.mpr rfl⟩⟩
  exact Value.everywhere_record.mpr ⟨rfl, List.forall_mem_cons.mpr ⟨rfl, List.forall_mem_cons.mpr
    ⟨team, List.forall_mem_singleton.mpr rfl⟩⟩⟩

end ServiceClient

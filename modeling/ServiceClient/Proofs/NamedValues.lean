import ServiceClient.Proofs.BlankEntries
import ServiceClient.Proofs.Decoding

/-!
Values given by name. Whatever names a description declares, values can be given for any of them by
name: to make a record, to read one, or to call a method. One name is not available, that of the
receiver: a description may declare it, but values for it are refused (`values_by_name`).
-/

namespace ServiceClient

/-- The names that values are given for. -/
def givenNames {α : Type} (named : List (String × α)) : List String := named.map (·.1)

/-- The value of a field that is read from a mapping: what its entry is read as, or the default
where there is none. -/
def FieldRead (types : List RecordType) (entries : List (String × Value)) (f : String × TypeRef)
    (value : Value) : Prop :=
  match entries.lookup f.1 with
  | some v => v.ofWire types f.2 = .ok value
  | none => value = f.2.default

theorem refuseReceiver_eq {α : Type} (named : List (String × α)) :
    refuseReceiver named =
      if receiverName ∈ givenNames named then .error (.misuse .receiverGiven) else .ok () := by
  rw [refuseReceiver, givenNames]
  cases found : named.lookup receiverName with
  | none =>
    rw [if_neg (lookup_eq_none_iff_not_mem.mp found)]
    rfl
  | some a =>
    rw [if_pos (List.mem_map_of_mem (mem_of_lookup found))]
    rfl

/-! ## Records -/

section

variable {types : List RecordType} {type : RecordType}

/-- A record is made of values for any of its fields, with defaults for the others. -/
theorem make_by_name {named : List (String × Value)}
    (declared : ∀ e ∈ named, e.1 ∈ type.fieldNames) :
    type.make [] named =
      if receiverName ∈ givenNames named then .error (.misuse .receiverGiven)
      else .ok (.record type (type.fields.map fun f => (named.lookup f.1).getD f.2.default)) := by
  have bound := bindArguments_named_eq_ok.mpr ⟨declared, rfl⟩
  rw [RecordType.make, refuseReceiver_eq]
  by_cases receiver : receiverName ∈ givenNames named
  · rw [if_pos receiver, if_pos receiver]
    rfl
  · rw [if_neg receiver, if_neg receiver, ok_bind, bound]
    exact congrArg (fun values => Except.ok (Value.record type values)) fill_named

/-- A record is read from a mapping whose keys are any of its fields, if the values can be read. -/
theorem ofWireForm_by_name (fields : type.fieldNames.Nodup) {entries : List (String × Value)}
    (declared : ∀ e ∈ entries, e.1 ∈ type.fieldNames)
    (readable : ∀ e ∈ entries, ∀ t, (e.1, t) ∈ type.fields → ∃ r, e.2.ofWire types t = .ok r) :
    ∃ values, List.Forall₂ (FieldRead types entries) type.fields values ∧
      type.ofWireForm types (.object entries) =
        if receiverName ∈ givenNames entries then .error (.misuse .receiverGiven)
        else .ok (.record type values) := by
  obtain ⟨read, all⟩ : ∃ read, List.Forall₂ (EntryRead types type.fields) entries read := by
    apply exists_forall₂
    intro e entry
    obtain ⟨f, isField, named⟩ := List.mem_map.mp (declared e entry)
    have field : (e.1, f.2) ∈ type.fields := named ▸ isField
    obtain ⟨r, isRead⟩ := readable e entry f.2 field
    exact ⟨(e.1, r), rfl, .inr ⟨f.2, (lookup_eq_some_iff_mem fields).mpr field, isRead⟩⟩
  have sameNames : givenNames entries = givenNames read :=
    forall₂_map_eq (all.imp fun e r here => here.1)
  have declared' : ∀ r ∈ read, r.1 ∈ type.fieldNames := by
    intro r listed
    obtain ⟨e, entry, same, -⟩ := forall₂_mem_right all listed
    exact same ▸ declared e entry
  refine ⟨type.fields.map fun f => (read.lookup f.1).getD f.2.default, ?_, ?_⟩
  · apply List.forall₂_map_right_iff.mpr
    apply List.forall₂_same.mpr
    intro f isField
    have found : type.fields.lookup f.1 = some f.2 := (lookup_eq_some_iff_mem fields).mpr isField
    unfold FieldRead
    rcases forall₂_lookup all (fun e r here => here.1) f.1 with
      ⟨absent, absent'⟩ | ⟨v, r, given, given', -, isRead⟩
    · rw [absent, absent']
      rfl
    · rw [given, given']
      rcases isRead with ⟨undeclared, -⟩ | ⟨t, same, isRead⟩
      · rw [found] at undeclared
        cases undeclared
      · rw [found] at same
        exact Option.some.inj same ▸ isRead
  · rw [RecordType.ofWireForm, ofWireEntries_eq_ok.mpr all, ok_bind, sameNames]
    exact make_by_name declared'

end

/-! ## Calls -/

/-- A call with values for any of the parameters sends each under its name. -/
theorem call_by_name {client : Client} {m : Method} {named : List (String × Value)}
    (declared : ∀ e ∈ named, e.1 ∈ m.params.map (·.name)) (link : Link) :
    client.call m [] named link =
      if receiverName ∈ givenNames named then (.error (.misuse .receiverGiven), link)
      else client.send m (m.params.map fun p => (named.lookup p.name).getD .absent) link := by
  have bound := bindArguments_named_eq_ok.mpr ⟨declared, rfl⟩
  have matched : m.bind [] named =
      .ok (m.params.map fun p => (named.lookup p.name).getD .absent) := by
    rw [Method.bind, Method.assign, bound]
    simp
  rw [Client.call, refuseReceiver_eq]
  by_cases receiver : receiverName ∈ givenNames named
  · rw [if_pos receiver, if_pos receiver]
    rfl
  · rw [if_neg receiver, if_neg receiver, ok_bind, matched]

/-! ## Declared names -/

/-- Any names that the description declares can be given values by name, but for that of the
receiver: the fields of a type to make or to read a record, and the parameters of a method to call
it. -/
theorem values_by_name {description : Value} {endpoint : String} {client : Client}
    (regular : description.isRegular = true)
    (built : Client.build description endpoint = .ok client) :
    client.WrittenIn description ∧
    (∀ type ∈ client.types, type.fieldNames.Nodup ∧
      ∀ named : List (String × Value), (∀ e ∈ named, e.1 ∈ type.fieldNames) →
        (type.make [] named =
          if receiverName ∈ givenNames named then .error (.misuse .receiverGiven)
          else .ok (.record type (type.fields.map fun f =>
            (named.lookup f.1).getD f.2.default))) ∧
        ((∀ e ∈ named, ∀ t, (e.1, t) ∈ type.fields →
            ∃ r, e.2.ofWire client.types t = .ok r) →
          ∃ values, List.Forall₂ (FieldRead client.types named) type.fields values ∧
            type.ofWireForm client.types (.object named) =
              if receiverName ∈ givenNames named then .error (.misuse .receiverGiven)
              else .ok (.record type values))) ∧
    ∀ stub ∈ client.methodList, (stub.2.params.map (·.name)).Nodup ∧
      ∀ named : List (String × Value), (∀ e ∈ named, e.1 ∈ stub.2.params.map (·.name)) →
        ∀ link : Link, client.call stub.2 [] named link =
          if receiverName ∈ givenNames named then (.error (.misuse .receiverGiven), link)
          else client.send stub.2
            (stub.2.params.map fun p => (named.lookup p.name).getD .absent) link := by
  have well := build_wellNamed regular built
  refine ⟨(build_writtenIn built).1, ?_, ?_⟩
  · intro type inTypes
    have fields := well.fields type inTypes
    refine ⟨fields, ?_⟩
    intro named declared
    exact ⟨make_by_name declared, ofWireForm_by_name fields declared⟩
  · intro stub inList
    refine ⟨build_params_nodup regular built inList, ?_⟩
    intro named declared link
    exact call_by_name declared link

/-- A description with a type and a method that have the name of the receiver among theirs, and a
method that has not. -/
def actorDescription : Value := .object [
  ("types", .object [("Actor", .object [("self", .string "string"), ("role", .string "string")])]),
  ("methods", .object [
    ("cast", .object [("params", .object [
      ("self", .object [("type", .string "string"), ("def_order", .int 1)])])]),
    ("pay", .object [("params", .object [
      ("fee", .object [("type", .string "number"), ("def_order", .int 1)])])])])]

def actorType : RecordType :=
  ⟨"Actor", [("self", .primitive .string), ("role", .primitive .string)]⟩

def actorMethod (name param : String) (kind : Primitive) : Method where
  name := name
  params := [{ name := param, type := .primitive kind, optional := false, docs := [] }]
  returns := none
  docs := []
  returnDocs := []
  docSource := .list []
  returnDocSource := .list []

def castMethod : Method := actorMethod "cast" "self" .string

def payMethod : Method := actorMethod "pay" "fee" .number

def actorClient : Client where
  serviceName := .string ""
  endpoint := "/rpc"
  types := [actorType]
  methods := [("cast", .leaf castMethod), ("pay", .leaf payMethod)]

theorem actor_built : Client.build actorDescription "/rpc" = .ok actorClient := by
  with_unfolding_all rfl

/-- An actor is made with a role, and a fee is paid. -/
theorem values_by_name_role :
    actorDescription.isRegular = true ∧
      Client.build actorDescription "/rpc" = .ok actorClient ∧
      actorType.make [] [("role", .string "king")] =
        .ok (.record actorType [.string "", .string "king"]) ∧
      ∀ link, actorClient.call payMethod [] [("fee", .int 2)] link =
        actorClient.send payMethod [.int 2] link := by
  obtain ⟨-, types, methods⟩ := values_by_name (by decide) actor_built
  obtain ⟨-, makes⟩ := types actorType (List.mem_singleton.mpr rfl)
  obtain ⟨-, calls⟩ := methods ("pay", payMethod) (List.mem_cons_of_mem _ List.mem_cons_self)
  exact ⟨by decide, actor_built, (makes [("role", .string "king")] (by decide)).1,
    calls [("fee", .int 2)] (by decide)⟩

/-- The name `self` is declared, but an actor cannot be made or read with a value for it, nor
cast. -/
theorem receiver_refused :
    let named : List (String × Value) := [("self", .string "Lear")]
    Client.build actorDescription "/rpc" = .ok actorClient ∧
      (∀ e ∈ named, e.1 ∈ actorType.fieldNames) ∧
      actorType.make [] named = .error (.misuse .receiverGiven) ∧
      actorType.ofWireForm actorClient.types (.object named) = .error (.misuse .receiverGiven) ∧
      (∀ e ∈ named, e.1 ∈ castMethod.params.map (·.name)) ∧
      ∀ link, actorClient.call castMethod [] named link =
        (.error (.misuse .receiverGiven), link) :=
  ⟨actor_built, by decide, rfl, rfl, by decide, fun _ => rfl⟩

end ServiceClient

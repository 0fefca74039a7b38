import ServiceClient.Proofs.CommandLineCalls
import ServiceClient.Proofs.Pages
import ServiceClient.Proofs.StandardJson

/-!
The bodies that calls post. A call with values for its parameters posts standard JSON if every
number in them is finite, and only then: nothing is checked of a number but that it is one. This
holds of every way to call a method (`bodies_areStandard_iff`), whether the values come from the
caller, from a form or from the command line.
-/

namespace ServiceClient

theorem isFull_passed : PassedByMaking Value.isFull where
  list _ := rfl
  record type values full := beq_iff_eq.mpr full
  default t := by
    cases t with
    | primitive kind => cases kind <;> rfl
    | array element | named name => rfl

theorem isFull_of_isPlain {v : Value} (plain : v.isPlain = true) :
    v.everywhere Value.isFull = true := by
  refine Value.everywhere_imp (fun v here => ?_) v plain
  cases v <;> first | rfl | cases here

/-! ## Numbers that are sent -/

/-- What is sent of finite numbers is finite numbers. -/
theorem toWire_isFinite {v w : Value} (finite : v.everywhere Value.isFinite = true)
    (sent : v.toWire = .ok w) : w.everywhere Value.isFinite = true :=
  toWire_everywhere_leaves (fun _ => rfl) (fun _ => rfl) (fun _ _ here => here) finite sent

/-- Every number in a value is sent, so they are finite if those that are sent are. -/
theorem isFinite_of_toWire (v : Value) : ∀ {w : Value}, v.everywhere Value.isFull = true →
    v.toWire = .ok w → w.everywhere Value.isFinite = true →
      v.everywhere Value.isFinite = true := by
  induction v using Value.partsInduction with
  | leaf v leaf =>
    intro w full sent finite
    obtain rfl := Except.ok.inj ((toWire_leaf leaf).symm.trans sent)
    exact finite
  | list items ih =>
    intro w full sent finite
    obtain ⟨ws, all, rfl⟩ := toWire_list_eq_ok.mp sent
    obtain ⟨-, full⟩ := Value.everywhere_list.mp full
    obtain ⟨-, finite⟩ := Value.everywhere_list.mp finite
    refine Value.everywhere_list.mpr ⟨rfl, ?_⟩
    intro v member
    obtain ⟨w, listed, sent⟩ := forall₂_mem_left all member
    exact ih v member (full v member) sent (finite w listed)
  | tuple items ih =>
    intro w full sent finite
    obtain ⟨ws, all, rfl⟩ := toWire_tuple_eq_ok.mp sent
    obtain ⟨-, full⟩ := Value.everywhere_tuple.mp full
    obtain ⟨-, finite⟩ := Value.everywhere_list.mp finite
    refine Value.everywhere_tuple.mpr ⟨rfl, ?_⟩
    intro v member
    obtain ⟨w, listed, sent⟩ := forall₂_mem_left all member
    exact ih v member (full v member) sent (finite w listed)
  | object entries ih =>
    intro w full sent finite
    obtain ⟨out, all, rfl⟩ := toWire_object_eq_ok.mp sent
    obtain ⟨-, full⟩ := Value.everywhere_object.mp full
    obtain ⟨-, finite⟩ := Value.everywhere_object.mp finite
    refine Value.everywhere_object.mpr ⟨rfl, ?_⟩
    intro e member
    obtain ⟨e', listed, -, sent⟩ := forall₂_mem_left all member
    exact ih e member (full e member) sent (finite e' listed)
  | record type values ih =>
    intro w full sent finite
    obtain ⟨out, all, rfl⟩ := toWire_record_eq_ok.mp sent
    obtain ⟨here, full⟩ := Value.everywhere_record.mp full
    obtain ⟨-, finite⟩ := Value.everywhere_object.mp finite
    have sized : values.length = type.fields.length := beq_iff_eq.mp here
    refine Value.everywhere_record.mpr ⟨rfl, ?_⟩
    intro v member
    obtain ⟨field, paired⟩ := exists_mem_zip sized member
    obtain ⟨e, listed, -, -, sent⟩ := forall₂_mem_left all paired
    exact ih v member (full v member) sent (finite e listed)

/-- The numbers in the entries of a request are those in the values for the parameters. -/
theorem requestParams_isFinite {params : List Parameter} {values : List Value}
    {entries : List (String × Value)} (matched : values.length = params.length)
    (sent : Method.requestParams params values = .ok entries) :
    ((∀ v ∈ values, v.everywhere Value.isFinite = true) →
      ∀ e ∈ entries, e.2.everywhere Value.isFinite = true) ∧
    ((∀ v ∈ values, v.everywhere Value.isFull = true) →
      (∀ e ∈ entries, e.2.everywhere Value.isFinite = true) →
        ∀ v ∈ values, v.everywhere Value.isFinite = true) := by
  induction params generalizing values entries with
  | nil =>
    obtain rfl := List.eq_nil_of_length_eq_zero matched
    obtain rfl : [] = entries := by simpa [Method.requestParams] using sent
    exact ⟨fun _ => List.forall_mem_nil _, fun _ _ => List.forall_mem_nil _⟩
  | cons p params ih =>
    cases values with
    | nil => simp at matched
    | cons v values =>
      have matched : values.length = params.length := by simpa using matched
      simp only [List.forall_mem_cons]
      rcases requestParams_cons_eq_ok.mp sent with
        ⟨omitted, others⟩ | ⟨-, -, w, rest, here, others, rfl⟩
      · obtain ⟨forth, back⟩ := ih matched others
        have noNumber : v.everywhere Value.isFinite = true := by
          obtain ⟨-, omitted⟩ := Bool.and_eq_true_iff.mp omitted
          cases v <;> first | rfl | cases omitted
        constructor
        · rintro ⟨-, finite⟩
          exact forth finite
        · rintro ⟨-, full⟩ finite
          exact ⟨noNumber, back full finite⟩
      · obtain ⟨forth, back⟩ := ih matched others
        simp only [List.forall_mem_cons]
        constructor
        · rintro ⟨finite, finiteLater⟩
          exact ⟨toWire_isFinite finite here, forth finiteLater⟩
        · rintro ⟨full, fullLater⟩ ⟨finite, finiteLater⟩
          exact ⟨isFinite_of_toWire v full here finite, back fullLater finiteLater⟩

theorem envelope_isFinite {id : Int} {name : String} {params : List (String × Value)} :
    (envelope id name params).everywhere Value.isFinite = true ↔
      ∀ e ∈ params, e.2.everywhere Value.isFinite = true := by
  rw [envelope, Value.everywhere_object]
  constructor
  · rintro ⟨-, finite⟩
    exact (Value.everywhere_object.mp (finite ("params", .object params) (by simp))).2
  · intro finite
    refine ⟨rfl, ?_⟩
    simp only [List.forall_mem_cons]
    exact ⟨rfl, rfl, rfl, Value.everywhere_object.mpr ⟨rfl, finite⟩, List.forall_mem_nil _⟩

/-! ## Calls -/

/-- A body is standard JSON if the numbers in the values for the parameters are finite, and only
then, if every record among the values has a value for each of its fields. -/
structure StandardIfFinite (values : List Value) (body : String) : Prop where
  standard : (∀ v ∈ values, v.everywhere Value.isFinite = true) → Json.IsStandard body
  finite : (∀ v ∈ values, v.everywhere Value.isFull = true) → Json.IsStandard body →
    ∀ v ∈ values, v.everywhere Value.isFinite = true

/-- Between two states of a link nothing was posted, or one request with values as they were given,
whose body is standard JSON if they are finite, and only then. -/
def PostsStandard (client : Client) (given : List Value → Prop) (before after : Link) : Prop :=
  after.sent = before.sent ∨ ∃ values body, given values ∧
    after.sent = before.sent ++ [⟨"POST", client.endpoint, some body⟩] ∧
    StandardIfFinite values body

section

variable {client : Client} {m : Method} {link : Link}

theorem request_isStandard {id : Int} {values : List Value} {body : String}
    (matched : values.length = m.params.length)
    (written : (m.request (.int id) values >>= Json.write) = .ok body) :
    StandardIfFinite values body := by
  obtain ⟨request, requested, written⟩ := bind_eq_ok.mp written
  obtain ⟨params, sent, rfl⟩ := request_eq_ok.mp requested
  have standard := (Json.write_isStandard_iff written).trans envelope_isFinite
  obtain ⟨forth, back⟩ := requestParams_isFinite matched sent
  constructor
  · intro finite
    exact standard.mpr (forth finite)
  · intro full isStandard
    exact back full (standard.mp isStandard)

/-- A call posts nothing, or a body with the values that its arguments are matched to. -/
theorem call_postsStandard (args : List Value) (named : List (String × Value)) :
    PostsStandard client (fun values => m.bind args named = .ok values) link
      (client.call m args named link).2 := by
  rcases call_cases client m args named link with
    ⟨failure, -, call⟩ | ⟨values, failure, -, -, call⟩ | ⟨values, body, bound, written, call⟩
  · exact .inl (by rw [call])
  · exact .inl (by rw [call])
  · exact .inr ⟨values, body, bound, by rw [call],
      request_isStandard (bind_length bound) written⟩

theorem PostsStandard.imp {given given' : List Value → Prop} {before after : Link}
    (posts : PostsStandard client given before after)
    (imp : ∀ values, given values → given' values) :
    PostsStandard client given' before after := by
  rcases posts with unsent | ⟨values, body, isGiven, sent, standard⟩
  · exact .inl unsent
  · exact .inr ⟨values, body, imp values isGiven, sent, standard⟩

/-- The submission of a form posts nothing, or a body with what was entered. -/
theorem run_postsStandard (s : Submission) :
    PostsStandard client (fun values => s.args >>= (s.method.bind · []) = .ok values) link
      (s.run client link).2 := by
  obtain ⟨m, args⟩ := s
  cases args with
  | error failure => exact .inl rfl
  | ok args => exact call_postsStandard args []

open CommandLine in
/-- A call from the command line posts nothing, or a body with what was read from the texts. -/
theorem callMethod_postsStandard (name : String) (texts : List String) :
    PostsStandard client (fun values => ∃ m given args, client.method? name = some m ∧
        List.Forall₂ (fun text v => Json.parse text = .ok v) texts given ∧
        convertArguments client.types m.params given = .ok args ∧
        m.bind args [] = .ok values ∧ ∀ v ∈ values, v.everywhere Value.isFull = true)
      link (callMethod client name texts link).2 := by
  cases found : client.method? name with
  | none => exact .inl (by rw [callMethod, found])
  | some m =>
    cases read : readArguments texts with
    | error message => exact .inl (by simp only [callMethod, found, read])
    | ok given =>
      cases converted : convertArguments client.types m.params given with
      | error failure => exact .inl (by simp only [callMethod, found, read, converted])
      | ok args =>
        rw [callMethod_eq found read converted]
        have read := readArguments_eq_ok.mp read
        have full : ∀ v ∈ args, v.everywhere Value.isFull = true := by
          apply convertArguments_everywhere isFull_passed converted
          intro v member
          obtain ⟨text, -, read⟩ := forall₂_mem_right read member
          exact isFull_of_isPlain (Json.parse_isPlain read)
        apply (call_postsStandard args []).imp
        intro values bound
        refine ⟨m, given, args, rfl, read, converted, bound, ?_⟩
        intro v member
        rcases bind_mem bound member with rfl | listed | ⟨key, named⟩
        · rfl
        · exact full v listed
        · cases named

end

open CommandLine in
/-- However a method is called, nothing is posted or a body with values for its parameters, and the
body is standard JSON if the numbers in the values are finite, and only then. -/
theorem bodies_areStandard_iff (client : Client) (link : Link) :
    (∀ (m : Method) (args : List Value) (named : List (String × Value)),
      PostsStandard client (fun values => m.bind args named = .ok values) link
        (client.call m args named link).2) ∧
    (∀ s : Submission,
      PostsStandard client (fun values => s.args >>= (s.method.bind · []) = .ok values) link
        (s.run client link).2) ∧
    ∀ (name : String) (texts : List String),
      PostsStandard client (fun values => ∃ m given args, client.method? name = some m ∧
          List.Forall₂ (fun text v => Json.parse text = .ok v) texts given ∧
          convertArguments client.types m.params given = .ok args ∧
          m.bind args [] = .ok values ∧ ∀ v ∈ values, v.everywhere Value.isFull = true)
        link (callMethod client name texts link).2 :=
  ⟨fun _ => call_postsStandard, run_postsStandard, callMethod_postsStandard⟩

open CommandLine in
/-- The level is set to seven by standard JSON. -/
theorem bodies_areStandard_iff_seven :
    ∃ body, (levelClient.call levelMethod [.int 7] [] (.start 0 [])).2.sent =
      [⟨"POST", Client.defaultBase, some body⟩] ∧ Json.IsStandard body := by
  rcases (bodies_areStandard_iff levelClient (.start 0 [])).1 levelMethod [.int 7] [] with
    unsent | ⟨values, body, bound, sent, standard, -⟩
  · have posted : (levelClient.call levelMethod [.int 7] [] (.start 0 [])).2.sent.length = 1 := by
      with_unfolding_all rfl
    rw [unsent] at posted
    cases posted
  · obtain rfl := Except.ok.inj bound
    exact ⟨body, sent, standard (by decide)⟩

open CommandLine in
/-- Not a number is taken for a level from everywhere, and what is posted is no JSON. -/
theorem nan_isPosted :
    let form : Submitted := [("level:1", "nan")]
    let entered := (Method.ownForm (A := Submission) [] form id id levelMethod).2
    Client.build levelDescription Client.defaultBase = .ok levelClient ∧
      ∃ body, ¬Json.IsStandard body ∧
        (levelClient.call levelMethod [.float .nan] [] (.start 0 [])).2.sent =
          [⟨"POST", Client.defaultBase, some body⟩] ∧
        (Submission.run levelClient ⟨levelMethod, entered⟩ (.start 0 [])).2.sent =
          [⟨"POST", Client.defaultBase, some body⟩] ∧
        (callMethod levelClient "level" ["NaN"] (.start 0 [])).2.sent =
          [⟨"POST", Client.defaultBase, some body⟩] := by
  intro form entered
  let body := "\x7b\"jsonrpc\": \"2.0\", \"id\": 0, \"method\": \"level\", \"params\": " ++
    "\x7b\"value\": NaN\x7d\x7d"
  have posted : (levelClient.call levelMethod [.float .nan] [] (.start 0 [])).2.sent =
      [⟨"POST", Client.defaultBase, some body⟩] := by
    with_unfolding_all rfl
  have fromForm : entered = .ok [.float .nan] := by
    have single : entered = .ok [Html.read form "level:1" false Html.readNumber ""] := by
      with_unfolding_all rfl
    have noInteger : integer? "nan" = none := by decide +kernel
    have isNumber : floating? "nan" = some .nan := by decide +kernel
    rw [single, read_entered rfl (by decide), Html.readNumber, noInteger, isNumber]
  have fromText : readArguments ["NaN"] = .ok [.float .nan] := by
    have named : Json.write (.float .nan) = .ok "NaN" := by with_unfolding_all rfl
    rw [readArguments, Json.parse_write (by decide) (by decide) named]
    rfl
  refine ⟨build_level, body, Json.not_isStandard (by decide), posted, ?_, ?_⟩
  · rw [fromForm]
    exact posted
  · rw [callMethod_eq (m := levelMethod) rfl fromText rfl]
    exact posted

end ServiceClient

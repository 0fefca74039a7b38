import Mathlib.Data.Nat.Digits.Defs
import ServiceClient.Form.Html
import ServiceClient.Proofs.Decoding
import ServiceClient.Proofs.JsonWriting
import ServiceClient.Proofs.Replies
import ServiceClient.Proofs.ShortestText

/-!
Values that were read from texts. Whatever is read from JSON or as a number can be written as JSON
again (`parse_isWritable`, `readNumber_isWritable`), as no integer with too many digits is read, and
then it is read once more as the same (`parse_isPlain`, `parse_readsBack`). What is sent for the
records that are made of it can be written too (`ofWire_isSubmittable`, `toWire_isWritable`), and so
can the request of a call (`requestParams_isWritable`).
-/

namespace ServiceClient

namespace Json

/-! ## Numbers -/

theorem digitsValue_lt {digits : List Char} (all : AllDigits digits) :
    digitsValue digits < 10 ^ digits.length := by
  have from_ (value : Nat) :
      digits.foldl (fun value c => 10 * value + (c.toNat - '0'.toNat)) value <
        (value + 1) * 10 ^ digits.length := by
    induction digits generalizing value with
    | nil => simp
    | cons c digits ih =>
      obtain ⟨digit, others⟩ := List.forall_mem_cons.mp all
      have bounds := isDigit_bounds digit
      have zero : '0'.toNat = 48 := rfl
      have one : 10 * value + (c.toNat - '0'.toNat) + 1 ≤ (value + 1) * 10 := by omega
      rw [List.foldl_cons, List.length_cons, Nat.pow_succ, Nat.mul_comm _ 10, ← Nat.mul_assoc]
      exact Nat.lt_of_lt_of_le (ih others _) (Nat.mul_le_mul_right _ one)
  simpa [digitsValue] using from_ 0

theorem signedInt_isWritable {digits : List Char} (negative : Bool) (all : AllDigits digits)
    (few : digits.length ≤ maxDigits) :
    isWritable (.int (signedInt negative (digitsValue digits))) = true := by
  have magnitude : (signedInt negative (digitsValue digits)).natAbs = digitsValue digits := by
    cases negative <;> simp [signedInt]
  have small : digitsValue digits < 10 ^ maxDigits :=
    Nat.lt_of_lt_of_le (digitsValue_lt all) (Nat.pow_le_pow_right (by decide) few)
  have short : (Nat.toDigits 10 (digitsValue digits)).length ≤ maxDigits :=
    Nat.toDigits_length 10 _ maxDigits (by decide) small
  simpa [isWritable, Value.isJsonKind, isShort, magnitude] using short

theorem takeDigits_allDigits (cs : List Char) : AllDigits (takeDigits cs).1 := by
  rw [takeDigits, List.span_eq_takeWhile_dropWhile]
  exact List.all_eq_true.mp List.all_takeWhile

theorem takeWhole_allDigits (cs : List Char) : AllDigits (takeWhole cs).1 := by
  unfold takeWhole
  split
  · exact List.forall_mem_singleton.mpr rfl
  · exact takeDigits_allDigits _

/-- A number that is read passes a test that integers of few digits and all floating point numbers
pass that digits are rounded to. -/
theorem readNumber_everywhere {test : Value → Bool}
    (whole : ∀ n, isWritable (.int n) = true → test (.int n) = true)
    (rounded : ∀ negative digits exponent,
      test (.float (.ofDecimal negative digits exponent)) = true)
    {cs rest : List Char} {v : Value} (read : readNumber cs = .ok (v, rest)) :
    v.everywhere test = true := by
  simp only [readNumber] at read
  split at read
  · cases read
  · split at read
    · split at read
      · cases read
      · rename_i few
        obtain ⟨rfl, -⟩ := Prod.mk.inj (Except.ok.inj read)
        exact whole _ (signedInt_isWritable _ (takeWhole_allDigits _) (Nat.not_lt.mp few))
    · obtain ⟨rfl, -⟩ := Prod.mk.inj (Except.ok.inj read)
      exact rounded _ _ _

/-! ## Values -/

theorem mem_putEntry {α : Type} {key : String} {a : α} {entries : List (String × α)}
    {e : String × α} (inside : e ∈ putEntry key a entries) : e = (key, a) ∨ e ∈ entries := by
  induction entries with
  | nil => exact .inl (List.mem_singleton.mp inside)
  | cons first rest ih =>
    rw [putEntry] at inside
    split at inside
    · exact (List.mem_cons.mp inside).imp_right (List.mem_cons_of_mem first)
    · rcases List.mem_cons.mp inside with rfl | later
      · exact .inr List.mem_cons_self
      · exact (ih later).imp_right (List.mem_cons_of_mem first)

theorem mem_entriesOfPairs {α : Type} {pairs : List (String × α)} {e : String × α}
    (inside : e ∈ entriesOfPairs pairs) : e ∈ pairs := by
  have from_ : ∀ known : List (String × α),
      e ∈ pairs.foldl (fun entries pair => putEntry pair.1 pair.2 entries) known →
        e ∈ known ∨ e ∈ pairs := by
    clear inside
    induction pairs with
    | nil => exact fun known inside => .inl inside
    | cons pair pairs ih =>
      intro known inside
      rcases ih _ inside with earlier | later
      · rcases mem_putEntry earlier with rfl | before
        · exact .inr List.mem_cons_self
        · exact .inl before
      · exact .inr (List.mem_cons_of_mem pair later)
  exact (from_ [] inside).resolve_left List.not_mem_nil

theorem putEntry_nodup {α : Type} {key : String} {a : α} {entries : List (String × α)}
    (distinct : (entries.map (·.1)).Nodup) : ((putEntry key a entries).map (·.1)).Nodup := by
  induction entries with
  | nil => simp [putEntry]
  | cons first rest ih =>
    obtain ⟨new, distinct⟩ := List.nodup_cons.mp distinct
    rw [putEntry]
    split
    · rename_i same
      exact List.nodup_cons.mpr ⟨same ▸ new, distinct⟩
    · rename_i other
      refine List.nodup_cons.mpr ⟨fun member => ?_, ih distinct⟩
      obtain ⟨e, inside, same⟩ := List.mem_map.mp member
      rcases mem_putEntry inside with rfl | before
      · exact other same.symm
      · exact new (same ▸ List.mem_map_of_mem before)

theorem entriesOfPairs_nodup {α : Type} (pairs : List (String × α)) :
    ((entriesOfPairs pairs).map (·.1)).Nodup := by
  have from_ : ∀ known : List (String × α), (known.map (·.1)).Nodup →
      ((pairs.foldl (fun entries pair => putEntry pair.1 pair.2 entries) known).map
        (·.1)).Nodup := by
    induction pairs with
    | nil => exact fun known distinct => distinct
    | cons pair pairs ih => exact fun known distinct => ih _ (putEntry_nodup distinct)
  exact from_ [] List.nodup_nil

/-- A test that every kind of value passes which is read from JSON. -/
structure PassedByReading (test : Value → Bool) : Prop where
  string : ∀ s, test (.string s) = true
  list : ∀ items, test (.list items) = true
  object : ∀ entries, (entries.map (·.1)).Nodup → test (.object entries) = true
  constant : ∀ e ∈ constants, e.2.everywhere test = true
  number : ∀ {cs rest v}, readNumber cs = .ok (v, rest) → v.everywhere test = true

/-- What is read with some fuel passes a test everywhere. -/
structure ReadsPassing (test : Value → Bool) (fuel : Nat) : Prop where
  value : ∀ {cs rest v}, readValue fuel cs = .ok (v, rest) → v.everywhere test = true
  items : ∀ {cs rest vs}, readItems fuel cs = .ok (vs, rest) → ∀ v ∈ vs, v.everywhere test = true
  entries : ∀ {cs rest entries}, readEntries fuel cs = .ok (entries, rest) →
    ∀ e ∈ entries, e.2.everywhere test = true

section

variable {test : Value → Bool} {fuel : Nat} {cs rest : List Char}

theorem takeConstant?_everywhere (passed : PassedByReading test) {v : Value}
    (found : takeConstant? cs = some (v, rest)) : v.everywhere test = true := by
  obtain ⟨⟨name, u⟩, listed, taken⟩ := List.exists_of_findSome?_eq_some found
  have here := passed.constant (name, u) listed
  simp only at taken
  split at taken
  · obtain ⟨rfl, -⟩ := Prod.mk.inj (Option.some.inj taken)
    exact here
  · cases taken

theorem ReadsPassing.nextValue (passed : PassedByReading test) (reads : ReadsPassing test fuel)
    {v : Value} (read : readValue (fuel + 1) cs = .ok (v, rest)) : v.everywhere test = true := by
  cases cs with
  | nil => simp [readValue, fail] at read
  | cons c cs =>
    unfold readValue at read
    split at read
    · obtain ⟨⟨s, behind⟩, -, done⟩ := bind_eq_ok.mp read
      obtain ⟨rfl, -⟩ := Prod.mk.inj (Except.ok.inj done)
      exact passed.string _
    split at read
    · split at read
      · obtain ⟨rfl, -⟩ := Prod.mk.inj (Except.ok.inj read)
        exact Value.everywhere_list.mpr ⟨passed.list [], fun _ member => nomatch member⟩
      · obtain ⟨⟨items, behind⟩, inside, done⟩ := bind_eq_ok.mp read
        obtain ⟨rfl, -⟩ := Prod.mk.inj (Except.ok.inj done)
        exact Value.everywhere_list.mpr ⟨passed.list items, reads.items inside⟩
    split at read
    · split at read
      · obtain ⟨rfl, -⟩ := Prod.mk.inj (Except.ok.inj read)
        exact Value.everywhere_object.mpr
          ⟨passed.object [] List.nodup_nil, fun _ member => nomatch member⟩
      · obtain ⟨⟨entries, behind⟩, inside, done⟩ := bind_eq_ok.mp read
        obtain ⟨rfl, -⟩ := Prod.mk.inj (Except.ok.inj done)
        exact Value.everywhere_object.mpr ⟨passed.object _ (entriesOfPairs_nodup entries),
          fun e entry => reads.entries inside e (mem_entriesOfPairs entry)⟩
    split at read
    · rename_i found named
      obtain rfl : found = (v, rest) := Except.ok.inj read
      exact takeConstant?_everywhere passed named
    · exact passed.number read

theorem ReadsPassing.nextItems (reads : ReadsPassing test fuel) {vs : List Value}
    (read : readItems (fuel + 1) cs = .ok (vs, rest)) : ∀ v ∈ vs, v.everywhere test = true := by
  obtain ⟨⟨v, behind⟩, first, read⟩ := bind_eq_ok.mp read
  have here := reads.value first
  dsimp only at read
  split at read
  · obtain ⟨rfl, -⟩ := Prod.mk.inj (Except.ok.inj read)
    exact List.forall_mem_singleton.mpr here
  · obtain ⟨⟨vs, behind⟩, others, done⟩ := bind_eq_ok.mp read
    obtain ⟨rfl, -⟩ := Prod.mk.inj (Except.ok.inj done)
    exact List.forall_mem_cons.mpr ⟨here, reads.items others⟩
  · cases read

theorem ReadsPassing.nextEntries (reads : ReadsPassing test fuel) {entries : List (String × Value)}
    (read : readEntries (fuel + 1) cs = .ok (entries, rest)) :
    ∀ e ∈ entries, e.2.everywhere test = true := by
  unfold readEntries at read
  split at read
  · rename_i less _ same
    obtain rfl : fuel = less := Nat.succ.inj same
    obtain ⟨⟨key, behind⟩, -, read⟩ := bind_eq_ok.mp read
    dsimp only at read
    split at read
    · obtain ⟨⟨v, behind⟩, first, read⟩ := bind_eq_ok.mp read
      have here := reads.value first
      dsimp only at read
      split at read
      · obtain ⟨rfl, -⟩ := Prod.mk.inj (Except.ok.inj read)
        exact List.forall_mem_singleton.mpr here
      · obtain ⟨⟨entries, behind⟩, others, done⟩ := bind_eq_ok.mp read
        obtain ⟨rfl, -⟩ := Prod.mk.inj (Except.ok.inj done)
        exact List.forall_mem_cons.mpr ⟨here, reads.entries others⟩
      · cases read
    · cases read
  · cases read

theorem readsPassing (passed : PassedByReading test) (fuel : Nat) : ReadsPassing test fuel := by
  induction fuel with
  | zero =>
    constructor
    · intro cs rest v read
      simp [readValue, fail] at read
    · intro cs rest vs read
      simp [readItems, fail] at read
    · intro cs rest entries read
      simp [readEntries, fail] at read
  | succ fuel ih => exact ⟨ih.nextValue passed, ih.nextItems, ih.nextEntries⟩

/-- Every value that is read from JSON passes such a test, and so does everything inside it. -/
theorem parse_everywhere (passed : PassedByReading test) {text : String} {v : Value}
    (read : parse text = .ok v) : v.everywhere test = true := by
  unfold parse readAll at read
  split at read
  · cases read
  · obtain ⟨⟨v', rest⟩, found, read⟩ := bind_eq_ok.mp read
    dsimp only at read
    split at read
    · obtain rfl : v' = v := Except.ok.inj read
      exact (readsPassing passed _).value found
    · cases read

end

section

variable {text : String} {v : Value}

/-- Every value that is read from JSON can be written. -/
theorem parse_isWritable (read : parse text = .ok v) : v.everywhere isWritable = true := by
  refine parse_everywhere ⟨fun _ => rfl, fun _ => rfl, fun _ _ => rfl, by decide, ?_⟩ read
  exact readNumber_everywhere (fun _ writable => writable) fun _ _ _ => rfl

/-- Every value that is read from JSON is plain. -/
theorem parse_isPlain (read : parse text = .ok v) : v.isPlain = true := by
  refine parse_everywhere
    ⟨fun _ => rfl, fun _ => rfl, fun entries distinct => ?_, by decide, ?_⟩ read
  · exact Value.isMapping_object.mpr distinct
  · exact readNumber_everywhere (fun _ _ => rfl) fun _ _ _ => rfl

/-- Every number that is read from JSON is read from its text. -/
theorem parse_readsBack (read : parse text = .ok v) : v.everywhere Value.readsBack = true := by
  refine parse_everywhere ⟨fun _ => rfl, fun _ => rfl, fun _ _ => rfl, by decide, ?_⟩ read
  refine readNumber_everywhere (fun _ _ => rfl) fun negative digits exponent => ?_
  rw [Value.readsBack, Binary64.floating?_text, beq_self_eq_true]

end

end Json

/-! ## Inputs -/

theorem integer?_isWritable {text : String} {n : Int} (read : integer? text = some n) :
    Json.isWritable (.int n) = true := by
  obtain ⟨cs, -, read⟩ := Option.bind_eq_some_iff.mp read
  dsimp only at read
  split at read
  · cases read
  · rename_i number
    obtain rfl := Option.some.inj read
    simp only [Bool.or_eq_true, Bool.not_eq_true', decide_eq_true_eq, not_or,
      Bool.not_eq_false] at number
    exact Json.signedInt_isWritable _ (List.all_eq_true.mp number.1.2) (Nat.not_lt.mp number.2)

theorem readNumber_isWritable (text : String) :
    (Html.readNumber text).everywhere Json.isWritable = true := by
  unfold Html.readNumber
  split
  · rename_i n whole
    exact Value.everywhere_leaf rfl (integer?_isWritable whole)
  · split <;> rfl

theorem readJson_isWritable (text : String) :
    (Html.readJson text).everywhere Json.isWritable = true := by
  unfold Html.readJson
  split
  · exact Json.parse_isWritable ‹_›
  · rfl

/-! ## Records -/

/-- A test that every list passes, every record with a value for each of its fields, and every
value of a field before it is assigned. -/
structure PassedByMaking (test : Value → Bool) : Prop where
  list : ∀ items, test (.list items) = true
  record : ∀ type values, values.length = type.fields.length → test (.record type values) = true
  default : ∀ t : TypeRef, t.default.everywhere test = true

section

variable {test : Value → Bool} (passed : PassedByMaking test)

include passed

/-- A record passes such a test everywhere if what it is made of does. -/
theorem make_everywhere {type : RecordType} {named : List (String × Value)} {made : Value}
    (inside : ∀ e ∈ named, e.2.everywhere test = true)
    (done : type.make [] named = .ok made) : made.everywhere test = true := by
  obtain ⟨-, -, rfl⟩ := make_eq_ok.mp done
  refine Value.everywhere_record.mpr ⟨passed.record _ _ (by simp), fun v member => ?_⟩
  obtain ⟨f, -, rfl⟩ := List.mem_map.mp member
  cases given : named.lookup f.1 with
  | none => exact passed.default f.2
  | some v => exact inside (f.1, v) (mem_of_lookup given)

/-- What a value is read as passes such a test everywhere if the value does. -/
theorem ofWire_everywhere {types : List RecordType} (v : Value) :
    ∀ {t : TypeRef} {read : Value}, v.everywhere test = true →
      v.ofWire types t = .ok read → read.everywhere test = true := by
  induction v using Value.insideInduction with
  | step v ih =>
    intro t read passes isRead
    have inside := everywhere_parts passes
    rcases ofWire_cases isRead with
      rfl | ⟨element, items, reads, rfl, rfl, all⟩ | ⟨type, entries, given, rfl, made, all⟩
    · exact passes
    · refine Value.everywhere_list.mpr ⟨passed.list _, fun r member => ?_⟩
      obtain ⟨v, item, isRead⟩ := forall₂_mem_right all member
      exact ih v item (inside v item) isRead
    · refine make_everywhere passed (fun r member => ?_) made
      obtain ⟨e, entry, -, read⟩ := forall₂_mem_right all member
      have part : e.2 ∈ (Value.object entries).parts := List.mem_map_of_mem entry
      rcases read with ⟨-, same⟩ | ⟨t, -, isRead⟩
      · exact same ▸ inside e.2 part
      · exact ih e.2 part (inside e.2 part) isRead

end

/-- Whether a value is, apart from the values inside it, one that can be written when it is sent. -/
def Value.isSubmittable (v : Value) : Bool := v.isSendable && Json.isShort v

theorem isSubmittable_of_isWritable (v : Value) (writable : Json.isWritable v = true) :
    v.isSubmittable = true := by
  cases v <;> first | exact writable | cases writable

theorem isSubmittable_passed : PassedByMaking Value.isSubmittable where
  list _ := rfl
  record _ _ _ := rfl
  default t := by
    cases t with
    | primitive kind => cases kind <;> rfl
    | array element | named name => rfl

/-- What a plain value is read as can be sent if the value can. -/
theorem ofWire_isSubmittable {types : List RecordType} (v : Value) {t : TypeRef} {read : Value}
    (submittable : v.everywhere Value.isSubmittable = true)
    (isRead : v.ofWire types t = .ok read) : read.everywhere Value.isSubmittable = true :=
  ofWire_everywhere isSubmittable_passed v submittable isRead

/-- What is sent for a value that can be sent can be written. -/
theorem toWire_isWritable {v w : Value} (submittable : v.everywhere Value.isSubmittable = true)
    (sent : v.toWire = .ok w) : w.everywhere Json.isWritable = true := by
  refine toWire_everywhere_leaves (fun _ => rfl) (fun _ => rfl) (fun v leaf here => ?_)
    submittable sent
  cases v <;> first | exact here | cases leaf

/-! ## Requests -/

theorem unsendable_isMismatch {params : List Parameter} {values : List Value} {failure : Failure}
    (unsendable : Unsendable params values failure) : failure.isMismatch = true := by
  induction unsendable with
  | mismatched => rfl
  | inside given shaped unsent => exact toWire_error _ unsent
  | later here rest ih => exact ih

/-- What is sent of arguments that can be sent can be written. One that was not given is left out,
or it does not have the type of its parameter. -/
theorem requestParams_isWritable {params : List Parameter} {args : List Value}
    {entries : List (String × Value)}
    (submittable : ∀ v ∈ args, v.everywhere Value.isSubmittable = true ∨ v = .absent)
    (sent : Method.requestParams params args = .ok entries) :
    ∀ e ∈ entries, e.2.everywhere Json.isWritable = true := by
  induction params generalizing args entries with
  | nil =>
    obtain rfl : [] = entries := by simpa [Method.requestParams] using sent
    exact List.forall_mem_nil _
  | cons p params ih =>
    cases args with
    | nil =>
      obtain rfl : [] = entries := by simpa [Method.requestParams] using sent
      exact List.forall_mem_nil _
    | cons v args =>
      obtain ⟨here, later⟩ := List.forall_mem_cons.mp submittable
      rcases requestParams_cons_eq_ok.mp sent with
        ⟨omitted, others⟩ | ⟨given, shaped, w, rest, hereSent, others, rfl⟩
      · exact ih later others
      · refine List.forall_mem_cons.mpr ⟨?_, ih later others⟩
        rcases here with submittable | rfl
        · exact toWire_isWritable submittable hereSent
        · obtain ⟨kind, -, admitted⟩ := (mismatch?_leaf_eq_none rfl).mp shaped
          cases kind <;> cases admitted

end ServiceClient

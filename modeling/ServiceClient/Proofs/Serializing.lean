import ServiceClient.Proofs.Described
import ServiceClient.Proofs.JsonReading

/-!
The text that is sent for a value. `isWritten` tells the characters that occur in JSON text as it is
written, which are printable ones of ASCII and line breaks. `serialize_parses` says of every value
that can be sent at all that it has a text, and that a reader of this text finds what was sent.
-/

namespace ServiceClient

namespace Json

/-! ## Characters -/

/-- A character of JSON text as it is written. -/
def isWritten (c : Char) : Bool := c == '\n' || (0x20 ≤ c.toNat && c.toNat < 0x7f)

theorem isWritten_of_isDigit {c : Char} (digit : c.isDigit = true) : isWritten c = true := by
  have bounds := isDigit_bounds digit
  simp only [isWritten, Bool.or_eq_true, Bool.and_eq_true, decide_eq_true_eq]
  omega

/-- Written characters are those of ASCII. -/
theorem toNat_lt_of_isWritten {c : Char} (written : isWritten c = true) : c.toNat < 0x80 := by
  simp only [isWritten, Bool.or_eq_true, Bool.and_eq_true, beq_iff_eq, decide_eq_true_eq] at written
  rcases written with rfl | bounds
  · decide
  · omega

theorem hexDigits_isWritten (width n : Nat) : ∀ c ∈ hexDigits width n, isWritten c = true :=
  forall_hexDigits (by decide) width n

theorem spell_isWritten (c : Char) : ∀ d ∈ spell c, isWritten d = true := by
  unfold spell
  iterate 7
    split
    · exact List.all_eq_true.mp (by decide)
  split
  · rename_i printable
    refine List.forall_mem_singleton.mpr ?_
    rw [isWritten, printable, Bool.or_true]
  · refine List.forall_mem_flatMap.mpr fun unit _ => ?_
    exact List.forall_mem_cons.mpr ⟨by decide,
      List.forall_mem_cons.mpr ⟨by decide, hexDigits_isWritten 4 unit⟩⟩

theorem writeString_isWritten (s : String) : ∀ c ∈ writeString s, isWritten c = true := by
  have inside : ∀ c ∈ s.toList.flatMap spell, isWritten c = true :=
    List.forall_mem_flatMap.mpr fun c _ => spell_isWritten c
  exact List.forall_mem_cons.mpr ⟨by decide,
    List.forall_mem_append.mpr ⟨inside, List.forall_mem_singleton.mpr (by decide)⟩⟩

theorem chars_isWritten {t : DecimalText} (proper : t.Proper) :
    ∀ c ∈ t.chars, isWritten c = true :=
  forall_chars (fun _ => isWritten_of_isDigit) (List.all_eq_true.mp (by decide)) proper

theorem writeFloat_isWritten (x : Binary64) : ∀ c ∈ writeFloat x, isWritten c = true := by
  cases finite : x.dyadic? with
  | some value =>
    obtain ⟨t, proper, -, same, -⟩ := writeFloat_chars finite
    exact same ▸ chars_isWritten proper
  | none =>
    cases x with
    | nan => exact List.all_eq_true.mp (by decide)
    | infinite negative => cases negative <;> exact List.all_eq_true.mp (by decide)
    | negativeZero | finite d => cases finite

section

variable {layout : Layout}

theorem gap_isWritten (depth : Nat) : ∀ c ∈ layout.gap depth, isWritten c = true := by
  cases layout with
  | oneLine => exact fun _ member => nomatch member
  | indented step =>
    refine List.forall_mem_cons.mpr ⟨by decide, fun c member => ?_⟩
    rw [List.eq_of_mem_replicate member]
    decide

theorem comma_isWritten (depth : Nat) : ∀ c ∈ layout.comma depth, isWritten c = true := by
  cases layout with
  | oneLine =>
    exact List.forall_mem_cons.mpr ⟨by decide, List.forall_mem_singleton.mpr (by decide)⟩
  | indented step => exact List.forall_mem_cons.mpr ⟨by decide, gap_isWritten depth⟩

theorem mem_intercalate {sep : List Char} {texts : List (List Char)} {c : Char}
    (member : c ∈ sep.intercalate texts) : c ∈ sep ∨ ∃ text ∈ texts, c ∈ text := by
  induction texts with
  | nil => exact absurd member (by simp)
  | cons text texts ih =>
    cases texts with
    | nil =>
      rw [List.intercalate_singleton] at member
      exact .inr ⟨text, List.mem_cons_self, member⟩
    | cons text' texts =>
      rw [List.intercalate_cons_of_ne_nil (List.cons_ne_nil _ _), List.mem_append,
        List.mem_append] at member
      rcases member with (here | between) | later
      · exact .inr ⟨text, List.mem_cons_self, here⟩
      · exact .inl between
      · rcases ih later with between | ⟨text, inside, here⟩
        · exact .inl between
        · exact .inr ⟨text, List.mem_cons_of_mem _ inside, here⟩

theorem enclose_isWritten {depth : Nat} {left right : Char} {texts : List (List Char)}
    (opens : isWritten left = true) (closes : isWritten right = true)
    (inside : ∀ text ∈ texts, ∀ c ∈ text, isWritten c = true) :
    ∀ c ∈ enclose layout depth left right texts, isWritten c = true := by
  cases texts with
  | nil => exact List.forall_mem_cons.mpr ⟨opens, List.forall_mem_singleton.mpr closes⟩
  | cons text texts =>
    rw [enclose_cons]
    refine List.forall_mem_cons.mpr ⟨opens, List.forall_mem_append.mpr ⟨gap_isWritten _,
      List.forall_mem_append.mpr ⟨fun c member => ?_, List.forall_mem_append.mpr
        ⟨gap_isWritten _, List.forall_mem_singleton.mpr closes⟩⟩⟩⟩
    rcases mem_intercalate member with between | ⟨text, listed, here⟩
    · exact comma_isWritten _ c between
    · exact inside text listed c here

/-- Every character of a written text is one of ASCII that is shown, or a line break. -/
theorem writeAt_isWritten (v : Value) : ∀ {depth : Nat} {text : List Char},
    writeAt layout depth v = .ok text → ∀ c ∈ text, isWritten c = true := by
  induction v using Value.partsInduction with
  | leaf v leaf =>
    intro depth text written
    cases v with
    | null =>
      obtain rfl := Except.ok.inj written
      exact List.all_eq_true.mp (by decide)
    | bool b =>
      obtain rfl := Except.ok.inj written
      cases b <;> exact List.all_eq_true.mp (by decide)
    | int n =>
      obtain ⟨rfl, -⟩ := writeInt_eq_ok written
      exact chars_isWritten (integerText_proper n)
    | float x =>
      obtain rfl := Except.ok.inj written
      exact writeFloat_isWritten x
    | string s =>
      obtain rfl := Except.ok.inj written
      exact writeString_isWritten s
    | absent | typeObject _ => cases written
    | list _ | tuple _ | object _ | record _ _ => cases leaf
  | list items ih =>
    intro depth text written
    obtain ⟨texts, all, rfl⟩ := writeAt_list_eq_ok.mp written
    refine enclose_isWritten (by decide) (by decide) fun text listed => ?_
    obtain ⟨v, item, here⟩ := forall₂_mem_right all listed
    exact ih v item here
  | tuple items ih =>
    intro depth text written
    obtain ⟨texts, all, rfl⟩ := writeAt_tuple_eq_ok.mp written
    refine enclose_isWritten (by decide) (by decide) fun text listed => ?_
    obtain ⟨v, item, here⟩ := forall₂_mem_right all listed
    exact ih v item here
  | object entries ih =>
    intro depth text written
    obtain ⟨texts, all, rfl⟩ := writeAt_object_eq_ok.mp written
    refine enclose_isWritten (by decide) (by decide) fun text listed => ?_
    obtain ⟨e, entry, value, here, rfl⟩ := forall₂_mem_right all listed
    exact List.forall_mem_append.mpr ⟨writeString_isWritten e.1, List.forall_mem_cons.mpr
      ⟨by decide, List.forall_mem_cons.mpr ⟨by decide, ih e entry here⟩⟩⟩
  | record type values ih =>
    intro depth text written
    cases written

end

end Json

/-! ## Values that can be sent -/

namespace Value

/-- Whether a record has a value of the right type for each of its fields, and a mapping each key
once. -/
def isSound : Value → Bool
  | record type values => keysDistinct type.fields && values.length == type.fields.length &&
      (type.fields.zip values).all fun p => (p.1.2.mismatch? p.2).isNone
  | v => v.isMapping

/-- Whether a value can be sent, apart from the values inside it: it is given and no type, a sound
record if it is one, and a number only if that is read from its text. -/
def isSerializable (v : Value) : Bool :=
  v.isSendable && v.isSound && Json.isShort v && v.readsBack

theorem isSound_record {type : RecordType} {values : List Value} :
    (record type values).isSound = true ↔ type.fieldNames.Nodup ∧
      values.length = type.fields.length ∧
      ∀ p ∈ type.fields.zip values, p.1.2.mismatch? p.2 = none := by
  simp only [isSound, keysDistinct, RecordType.fieldNames, Bool.and_eq_true, decide_eq_true_eq,
    beq_iff_eq, List.all_eq_true, Option.isNone_iff_eq_none, and_assoc]

theorem isMapping_of_isSound {v : Value} (sound : v.isSound = true) : v.isMapping = true := by
  cases v <;> first | exact sound | rfl

end Value

/-- A value is sent if all its records are sound. -/
theorem exists_toWire (v : Value) : v.everywhere Value.isSound = true → ∃ w, v.toWire = .ok w := by
  induction v using Value.partsInduction with
  | leaf v leaf => exact fun _ => ⟨v, toWire_leaf leaf⟩
  | list items ih =>
    intro sound
    obtain ⟨-, inside⟩ := Value.everywhere_list.mp sound
    obtain ⟨ws, sent⟩ := exists_forall₂ fun v member => ih v member (inside v member)
    exact ⟨_, toWire_list_eq_ok.mpr ⟨ws, sent, rfl⟩⟩
  | tuple items ih =>
    intro sound
    obtain ⟨-, inside⟩ := Value.everywhere_tuple.mp sound
    obtain ⟨ws, sent⟩ := exists_forall₂ fun v member => ih v member (inside v member)
    exact ⟨_, toWire_tuple_eq_ok.mpr ⟨ws, sent, rfl⟩⟩
  | object entries ih =>
    intro sound
    obtain ⟨-, inside⟩ := Value.everywhere_object.mp sound
    obtain ⟨out, sent⟩ : ∃ out : List (String × Value),
        List.Forall₂ (fun e e' => e.1 = e'.1 ∧ e.2.toWire = .ok e'.2) entries out := by
      refine exists_forall₂ fun e member => ?_
      obtain ⟨w, sent⟩ := ih e member (inside e member)
      exact ⟨(e.1, w), rfl, sent⟩
    exact ⟨_, toWire_object_eq_ok.mpr ⟨out, sent, rfl⟩⟩
  | record type values ih =>
    intro sound
    obtain ⟨here, inside⟩ := Value.everywhere_record.mp sound
    obtain ⟨-, -, typed⟩ := Value.isSound_record.mp here
    obtain ⟨out, sent⟩ : ∃ out, List.Forall₂ FieldSent (type.fields.zip values) out := by
      refine exists_forall₂ fun p member => ?_
      have value := (List.of_mem_zip member).2
      obtain ⟨w, sent⟩ := ih p.2 value (inside p.2 value)
      exact ⟨(p.1.1, w), rfl, typed p member, sent⟩
    exact ⟨_, toWire_record_eq_ok.mpr ⟨out, sent, rfl⟩⟩

/-- A value that can be sent has a text, in ASCII alone, and what is read from the text is what was
sent, with its keys in the same order. -/
theorem serialize_parses {v : Value} (serializable : v.everywhere Value.isSerializable = true) :
    ∃ sent text, v.toWire = .ok sent ∧ Json.write sent = .ok text ∧
      (∀ c ∈ text.toList, c.toNat < 0x80) ∧ Json.parse text = .ok sent := by
  obtain ⟨usable, back⟩ := (Value.everywhere_and v).mp serializable
  obtain ⟨usable, short⟩ := (Value.everywhere_and v).mp usable
  obtain ⟨sendable, sound⟩ := (Value.everywhere_and v).mp usable
  obtain ⟨sent, isSent⟩ := exists_toWire v sound
  have flat := toWire_isFlat (fun _ => Value.isMapping_of_isSound) (fun type values here => by
    obtain ⟨distinct, full, -⟩ := Value.isSound_record.mp here
    exact ⟨distinct, full⟩) sound isSent
  have plain : sent.isPlain = true :=
    Value.isPlain_iff.mpr ⟨flat, toWire_isSendable sendable isSent⟩
  have short : sent.everywhere Json.isShort = true :=
    toWire_everywhere_leaves (fun _ => rfl) (fun _ => rfl) (fun _ _ here => here) short isSent
  have back : sent.everywhere Value.readsBack = true :=
    toWire_everywhere_leaves (fun _ => rfl) (fun _ => rfl) (fun _ _ here => here) back isSent
  have json : sent.everywhere Value.isJsonKind = true := ((Value.everywhere_and sent).mp plain).1
  obtain ⟨text, written⟩ := Json.exists_write json short
  refine ⟨sent, text, isSent, written, fun c member => ?_, Json.parse_write plain back written⟩
  exact Json.toNat_lt_of_isWritten
    (Json.writeAt_isWritten sent (Json.write_eq_ok.mp written) c member)

theorem serialize_parses_node :
    let node (label : String) (links : List Value) : Value :=
      .record sampleNode [.string label, .int (-3), .tuple links]
    let v : Value := .object [("\"\\ü", node "😀\n" [node "" []]), ("", .bool true),
      ("none", .list [.null, .float .negativeZero])]
    v.everywhere Value.isSerializable = true ∧
      ∃ sent text, v.toWire = .ok sent ∧ Json.write sent = .ok text ∧
        (∀ c ∈ text.toList, c.toNat < 0x80) ∧ Json.parse text = .ok sent := by
  intro node v
  have serializable : v.everywhere Value.isSerializable = true := by decide +kernel
  exact ⟨serializable, serialize_parses serializable⟩

end ServiceClient

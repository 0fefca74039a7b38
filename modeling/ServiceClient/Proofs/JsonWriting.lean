import ServiceClient.Json.Writer
import ServiceClient.Proofs.Outcome
import ServiceClient.Proofs.Parts

/-!
What can be written as JSON text: the texts of the parts of a value, and that a value with a text
holds nothing that has no form on the wire.
-/

namespace ServiceClient.Json

variable {layout : Layout} {depth : Nat}

theorem writeItems_eq_ok {items : List Value} {texts : List (List Char)} :
    writeItems layout depth items = .ok texts ↔
      List.Forall₂ (fun v text => writeAt layout depth v = .ok text) items texts := by
  induction items generalizing texts with
  | nil => simp [writeItems, eq_comm]
  | cons v vs ih =>
    simp only [writeItems, bind_eq_ok, pure_eq_ok, ih, List.forall₂_cons_left_iff]
    constructor
    · rintro ⟨t, ht, ts, hts, rfl⟩
      exact ⟨t, ts, ht, hts, rfl⟩
    · rintro ⟨t, ts, ht, hts, rfl⟩
      exact ⟨t, ht, ts, hts, rfl⟩

/-- A text is that of an entry: the text of its key and that of its value. -/
def EntryWritten (layout : Layout) (depth : Nat) (e : String × Value) (text : List Char) : Prop :=
  ∃ value, writeAt layout depth e.2 = .ok value ∧ writeString e.1 ++ ':' :: ' ' :: value = text

theorem writeEntries_eq_ok {entries : List (String × Value)} {texts : List (List Char)} :
    writeEntries layout depth entries = .ok texts ↔
      List.Forall₂ (EntryWritten layout depth) entries texts := by
  induction entries generalizing texts with
  | nil => simp [writeEntries, eq_comm]
  | cons e rest ih =>
    obtain ⟨key, v⟩ := e
    simp only [writeEntries, bind_eq_ok, pure_eq_ok, ih, List.forall₂_cons_left_iff]
    constructor
    · rintro ⟨t, ht, ts, hts, rfl⟩
      exact ⟨_, ts, ⟨t, ht, rfl⟩, hts, rfl⟩
    · rintro ⟨_, ts, ⟨t, ht, rfl⟩, hts, rfl⟩
      exact ⟨t, ht, ts, hts, rfl⟩

theorem writeAt_list_eq_ok {items : List Value} {text : List Char} :
    writeAt layout depth (.list items) = .ok text ↔
      ∃ texts, List.Forall₂ (fun v text => writeAt layout (depth + 1) v = .ok text) items texts ∧
        enclose layout depth '[' ']' texts = text := by
  simp only [writeAt, bind_eq_ok, pure_eq_ok, writeItems_eq_ok]

theorem writeAt_tuple_eq_ok {items : List Value} {text : List Char} :
    writeAt layout depth (.tuple items) = .ok text ↔
      ∃ texts, List.Forall₂ (fun v text => writeAt layout (depth + 1) v = .ok text) items texts ∧
        enclose layout depth '[' ']' texts = text := by
  simp only [writeAt, bind_eq_ok, pure_eq_ok, writeItems_eq_ok]

theorem writeAt_object_eq_ok {entries : List (String × Value)} {text : List Char} :
    writeAt layout depth (.object entries) = .ok text ↔
      ∃ texts, List.Forall₂ (EntryWritten layout (depth + 1)) entries texts ∧
        enclose layout depth '\x7b' '\x7d' texts = text := by
  simp only [writeAt, bind_eq_ok, pure_eq_ok, writeEntries_eq_ok]

theorem ofList_map_eq_ok {x : Except Failure (List Char)} {text : String} :
    String.ofList <$> x = .ok text ↔ x = .ok text.toList := by
  cases x with
  | error failure => simp
  | ok cs => simp [String.ext_iff]

theorem write_eq_ok {v : Value} {text : String} :
    write v = .ok text ↔ writeAt .oneLine 0 v = .ok text.toList :=
  ofList_map_eq_ok

theorem writeIndented_eq_ok {v : Value} {text : String} :
    writeIndented v = .ok text ↔ writeAt (.indented 2) 0 v = .ok text.toList :=
  ofList_map_eq_ok

/-- What can be written holds no argument that was not given and no type. -/
theorem isSendable_of_writeAt (v : Value) :
    ∀ {depth : Nat} {text : List Char}, writeAt layout depth v = .ok text →
      v.everywhere Value.isSendable = true := by
  induction v using Value.partsInduction with
  | leaf v leaf =>
    intro depth text written
    apply Value.everywhere_leaf leaf
    cases v <;> first | rfl | simp [writeAt] at written
  | list items ih =>
    intro depth text written
    obtain ⟨texts, all, -⟩ := writeAt_list_eq_ok.mp written
    refine Value.everywhere_list.mpr ⟨rfl, fun v member => ?_⟩
    obtain ⟨t, -, written⟩ := forall₂_mem_left all member
    exact ih v member written
  | tuple items ih =>
    intro depth text written
    obtain ⟨texts, all, -⟩ := writeAt_tuple_eq_ok.mp written
    refine Value.everywhere_tuple.mpr ⟨rfl, fun v member => ?_⟩
    obtain ⟨t, -, written⟩ := forall₂_mem_left all member
    exact ih v member written
  | object entries ih =>
    intro depth text written
    obtain ⟨texts, all, -⟩ := writeAt_object_eq_ok.mp written
    refine Value.everywhere_object.mpr ⟨rfl, fun e member => ?_⟩
    obtain ⟨t, -, value, written, -⟩ := forall₂_mem_left all member
    exact ih e member written
  | record type values ih =>
    intro depth text written
    simp [writeAt] at written

/-- Whether a value is no integer with more digits than are written. -/
def isShort : Value → Bool
  | .int n => (Nat.toDigits 10 n.natAbs).length ≤ maxDigits
  | _ => true

/-- A value of JSON without such integers can be written. -/
theorem exists_writeAt (v : Value) : v.everywhere Value.isJsonKind = true →
    v.everywhere isShort = true → ∀ depth, ∃ text, writeAt layout depth v = .ok text := by
  induction v using Value.partsInduction with
  | leaf v leaf =>
    intro json short depth
    have json := Value.everywhere_here json
    have short := Value.everywhere_here short
    cases v with
    | int n =>
      have fits : ¬maxDigits < (Nat.toDigits 10 n.natAbs).length := by simpa [isShort] using short
      exact ⟨_, by rw [writeAt, writeInt, if_neg fits]⟩
    | null | bool _ | float _ | string _ => exact ⟨_, rfl⟩
    | absent | typeObject _ => cases json
    | list _ | tuple _ | object _ | record _ _ => cases leaf
  | list items ih =>
    intro json short depth
    obtain ⟨-, json⟩ := Value.everywhere_list.mp json
    obtain ⟨-, short⟩ := Value.everywhere_list.mp short
    obtain ⟨texts, written⟩ := exists_forall₂ fun v member =>
      ih v member (json v member) (short v member) (depth + 1)
    exact ⟨_, writeAt_list_eq_ok.mpr ⟨texts, written, rfl⟩⟩
  | object entries ih =>
    intro json short depth
    obtain ⟨-, json⟩ := Value.everywhere_object.mp json
    obtain ⟨-, short⟩ := Value.everywhere_object.mp short
    obtain ⟨texts, written⟩ : ∃ texts,
        List.Forall₂ (EntryWritten layout (depth + 1)) entries texts := by
      apply exists_forall₂
      intro e member
      obtain ⟨text, written⟩ := ih e member (json e member) (short e member) (depth + 1)
      exact ⟨_, text, written, rfl⟩
    exact ⟨_, writeAt_object_eq_ok.mpr ⟨texts, written, rfl⟩⟩
  | tuple items | record type values =>
    intro json
    exact absurd (Value.everywhere_here json) (by simp [Value.isJsonKind])

theorem exists_write {v : Value} (json : v.everywhere Value.isJsonKind = true)
    (short : v.everywhere isShort = true) : ∃ text, write v = .ok text := by
  obtain ⟨text, written⟩ : ∃ text, writeAt .oneLine 0 v = .ok text :=
    exists_writeAt v json short 0
  exact ⟨String.ofList text, write_eq_ok.mpr (by rw [String.toList_ofList, written])⟩

/-- Whether a value is, apart from the values inside it, one that can be written. -/
def isWritable (v : Value) : Bool := v.isJsonKind && isShort v

theorem exists_write_of_isWritable {v : Value} (writable : v.everywhere isWritable = true) :
    ∃ text, write v = .ok text := by
  obtain ⟨json, short⟩ := (Value.everywhere_and v).mp writable
  exact exists_write json short

end ServiceClient.Json

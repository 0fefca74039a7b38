import ServiceClient.Proofs.JsonWriting
import ServiceClient.Proofs.NumberText

/-!
JSON text that was written is read as the value it was written for. The reader goes through a text
with more text behind it and stops where the value ends; its fuel is enough as long as there are not
more characters than that.
-/

namespace ServiceClient.Json

/-! ## Strings -/

theorem hexDigit?_digitChar (d : Nat) (small : d < 16) : hexDigit? (Nat.digitChar d) = some d := by
  revert d
  decide

/-- The value of hexadecimal digits as they are written. -/
theorem hexValue?_hexDigits (width n : Nat) :
    hexValue? (hexDigits width n) = some (n % Nat.pow 16 width) := by
  induction width generalizing n with
  | zero => simp [hexDigits, hexValue?, Nat.mod_one]
  | succ width ih =>
    have digits := ih (n / 16)
    simp only [hexValue?] at digits
    simp only [hexDigits, hexValue?, List.foldlM_append, digits, List.foldlM_cons, List.foldlM_nil,
      hexDigit?_digitChar _ (Nat.mod_lt n (by decide))]
    simp only [Option.map_some, Option.bind_eq_bind, Option.bind_some, pure]
    change some (16 * (n / 16 % Nat.pow 16 width) + n % 16) = some (n % (Nat.pow 16 width * 16))
    rw [Nat.mul_comm (Nat.pow 16 width), Nat.mod_mul, Nat.add_comm]

theorem length_hexDigits (width n : Nat) : (hexDigits width n).length = width := by
  induction width generalizing n with
  | zero => rfl
  | succ width ih => simp [hexDigits, ih]

theorem forall_hexDigits {holds : Char → Prop} (digit : ∀ d < 16, holds (Nat.digitChar d))
    (width n : Nat) : ∀ c ∈ hexDigits width n, holds c := by
  induction width generalizing n with
  | zero => exact List.forall_mem_nil _
  | succ width ih =>
    exact List.forall_mem_append.mpr ⟨ih (n / 16),
      List.forall_mem_singleton.mpr (digit _ (Nat.mod_lt n (by decide)))⟩

/-- A unit is read from its escape. -/
theorem readUnit_hexDigits {unit : Nat} (small : unit < 0x10000) {rest : List Char}
    (more : rest ≠ []) : readUnit ('u' :: (hexDigits 4 unit ++ rest)) = .ok (unit, rest) := by
  have size : 0 < rest.length := List.length_pos_iff.mpr more
  have value := hexValue?_hexDigits 4 unit
  rw [Nat.mod_eq_of_lt (by simpa using small)] at value
  have width := length_hexDigits 4 unit
  have enough : ¬(hexDigits 4 unit ++ rest).length < 5 := by
    rw [List.length_append, width]
    omega
  simp only [readUnit, List.drop_one, List.tail_cons, if_neg enough, List.take_left' width,
    List.drop_left' width, value]

/-- The escapes of a character, after the backslash of the first, are read as the character. -/
theorem readUnicode_small {c : Char} (small : c.toNat < 0x10000) {rest : List Char}
    (more : rest ≠ []) : readUnicode ('u' :: (hexDigits 4 c.toNat ++ rest)) = .ok (c, rest) := by
  have valid : c.toNat < 0xd800 ∨ 0xdfff < c.toNat ∧ c.toNat < 0x110000 := c.valid
  have notHigh : ¬(0xd800 ≤ c.toNat ∧ c.toNat < 0xdc00) := by omega
  have notLow : ¬(0xdc00 ≤ c.toNat ∧ c.toNat < 0xe000) := by omega
  simp [readUnicode, readUnit_hexDigits small more, notHigh, notLow, Char.ofNat_toNat]

theorem readUnicode_pair {high low : Nat} (highRange : 0xd800 ≤ high ∧ high < 0xdc00)
    (lowRange : 0xdc00 ≤ low ∧ low < 0xe000) {rest : List Char} (more : rest ≠ []) :
    readUnicode ('u' :: (hexDigits 4 high ++ '\\' :: 'u' :: (hexDigits 4 low ++ rest))) =
      .ok (Char.ofNat (0x10000 + (high - 0xd800) * 0x400 + (low - 0xdc00)), rest) := by
  have size : 0 < rest.length := List.length_pos_iff.mpr more
  have enough : ¬(hexDigits 4 low ++ rest).length < 5 := by
    rw [List.length_append, length_hexDigits]
    omega
  rw [readUnicode, readUnit_hexDigits (by omega) (by simp)]
  simp only [ok_bind, if_neg enough, readUnit_hexDigits (Nat.lt_trans lowRange.2 (by decide)) more,
    highRange, lowRange, decide_true, Bool.and_self, if_true]
  rfl

theorem readString_unicode {opening cs rest : List Char} {fuel : Nat} {c : Char}
    (read : readUnicode ('u' :: cs) = .ok (c, rest)) :
    readString opening (fuel + 1) ('\\' :: 'u' :: cs) =
      readString opening fuel rest >>= fun more => .ok (c :: more.1, more.2) := by
  simp only [readString, read, ok_bind]
  rfl

/-- A spelled character is read as one character. -/
theorem readString_spell {opening rest : List Char} {fuel : Nat} {c : Char} (more : rest ≠ []) :
    readString opening (fuel + 1) (spell c ++ rest) =
      readString opening fuel rest >>= fun read => .ok (c :: read.1, read.2) := by
  unfold spell
  split
  · subst c; rfl
  split
  · subst c; rfl
  iterate 5
    split
    · subst c; rfl
  split
  · rename_i notQuote notBackslash _ _ _ _ _ printable
    have notControl : ¬c < ' ' := by
      rw [Char.lt_def, UInt32.lt_iff_toNat_lt]
      have : 0x20 ≤ c.toNat := by simp_all
      exact Nat.not_lt.mpr this
    simp only [List.singleton_append, readString, if_neg notQuote, if_neg notBackslash,
      if_neg notControl]
    rfl
  · by_cases small : c.toNat < 0x10000
    · simp only [utf16Units, if_pos small, List.flatMap_cons, List.flatMap_nil, List.append_nil,
        List.cons_append]
      exact readString_unicode (readUnicode_small small more)
    · have valid : c.toNat < 0xd800 ∨ 0xdfff < c.toNat ∧ c.toNat < 0x110000 := c.valid
      have whole : 0x10000 + (0xd800 + (c.toNat - 0x10000) / 0x400 - 0xd800) * 0x400 +
          (0xdc00 + (c.toNat - 0x10000) % 0x400 - 0xdc00) = c.toNat := by
        omega
      simp only [utf16Units, if_neg small, List.flatMap_cons, List.flatMap_nil, List.append_nil,
        List.cons_append, List.append_assoc]
      refine readString_unicode ((readUnicode_pair ?_ ?_ more).trans ?_)
      · omega
      · omega
      · rw [whole, Char.ofNat_toNat]

/-- A written string is read as its characters. -/
theorem readString_spelled {opening cs rest : List Char} {fuel : Nat} (enough : cs.length < fuel) :
    readString opening fuel (cs.flatMap spell ++ '"' :: rest) = .ok (cs, rest) := by
  induction cs generalizing fuel with
  | nil =>
    obtain ⟨fuel, rfl⟩ := Nat.exists_eq_add_of_lt enough
    simp [readString]
  | cons c cs ih =>
    obtain ⟨fuel, rfl⟩ : ∃ n, fuel = n + 1 := ⟨fuel - 1, by simp at enough; omega⟩
    rw [List.flatMap_cons, List.append_assoc, readString_spell (by simp),
      ih (by simpa using enough)]
    rfl

theorem spell_ne_nil (c : Char) : spell c ≠ [] := by
  unfold spell
  iterate 8
    split
    · simp
  unfold utf16Units
  split <;> simp

theorem length_le_flatMap_spell (cs : List Char) : cs.length ≤ (cs.flatMap spell).length := by
  induction cs with
  | nil => exact Nat.le_refl 0
  | cons c cs ih =>
    have some : 0 < (spell c).length := List.length_pos_iff.mpr (spell_ne_nil c)
    rw [List.flatMap_cons, List.length_append, List.length_cons]
    omega

/-! ## Numbers and names -/

theorem takeConstant?_eq_none {cs : List Char}
    (other : ∀ e ∈ constants, e.1.toList.isPrefixOf cs = false) : takeConstant? cs = none := by
  refine List.findSome?_eq_none_iff.mpr fun e member => ?_
  simp [other e member]

/-- A decimal text starts with a minus and a digit, or with a digit. -/
theorem chars_front {t : DecimalText} (proper : t.Proper) :
    (∃ d cs, d.isDigit = true ∧ t.chars = '-' :: d :: cs) ∨
      ∃ d cs, d.isDigit = true ∧ t.chars = d :: cs := by
  obtain ⟨d, ds, whole⟩ := List.exists_cons_of_ne_nil proper.nonempty
  have digit := proper.whole d (whole ▸ List.mem_cons_self)
  cases h : t.negative with
  | true => exact .inl ⟨d, ds ++ t.tailChars, digit, by
      simp [DecimalText.chars, DecimalText.signChars, h, whole]⟩
  | false => exact .inr ⟨d, ds ++ t.tailChars, digit, by
      simp [DecimalText.chars, DecimalText.signChars, h, whole]⟩

theorem isPrefixOf_eq_false {name cs xs : List Char} {c d : Char} (front : name = c :: xs)
    (letter : c.isDigit = false) (digit : d.isDigit = true) :
    name.isPrefixOf (d :: cs) = false := by
  have other : (c == d) = false := by
    apply beq_eq_false_iff_ne.mpr
    rintro rfl
    simp [digit] at letter
  rw [front, List.isPrefixOf, other, Bool.false_and]

theorem takeConstant?_chars {t : DecimalText} (proper : t.Proper) (rest : List Char) :
    takeConstant? (t.chars ++ rest) = none := by
  refine takeConstant?_eq_none ?_
  simp only [constants, List.forall_mem_cons]
  rcases chars_front proper with ⟨d, cs, digit, front⟩ | ⟨d, cs, digit, front⟩
  · rw [front]
    refine ⟨rfl, rfl, rfl, rfl, rfl, ?_, by simp⟩
    change "Infinity".toList.isPrefixOf (d :: (cs ++ rest)) = false
    exact isPrefixOf_eq_false rfl rfl digit
  · rw [front]
    exact ⟨isPrefixOf_eq_false rfl rfl digit, isPrefixOf_eq_false rfl rfl digit,
      isPrefixOf_eq_false rfl rfl digit, isPrefixOf_eq_false rfl rfl digit,
      isPrefixOf_eq_false rfl rfl digit, isPrefixOf_eq_false rfl rfl digit, by simp⟩

/-- A decimal text is read as a number. -/
theorem readValue_chars {t : DecimalText} (proper : t.Proper) (rest : List Char) (fuel : Nat) :
    readValue (fuel + 1) (t.chars ++ rest) = readNumber (t.chars ++ rest) := by
  have noName := takeConstant?_chars proper rest
  obtain ⟨c, cs, front, notQuote, notList, notObject⟩ : ∃ c cs, t.chars ++ rest = c :: cs ∧
      c ≠ '"' ∧ c ≠ '[' ∧ c ≠ '\x7b' := by
    rcases chars_front proper with ⟨d, cs, digit, front⟩ | ⟨d, cs, digit, front⟩
    · exact ⟨'-', d :: cs ++ rest, by rw [front]; rfl, by decide, by decide, by decide⟩
    · refine ⟨d, cs ++ rest, by rw [front]; rfl, ?_, ?_, ?_⟩ <;>
      · rintro rfl
        cases digit
  rw [front] at noName ⊢
  simp only [readValue, if_neg notQuote, if_neg notList, if_neg notObject, noName]

theorem writeInt_eq_ok {n : Int} {text : List Char} (written : writeInt n = .ok text) :
    (integerText n).chars = text ∧ (integerText n).whole.length ≤ maxDigits := by
  unfold writeInt at written
  split at written
  · cases written
  · rename_i short
    exact ⟨(integerText_chars n).trans (Except.ok.inj written), Nat.not_lt.mp short⟩

/-- A number that is finite is written as a decimal text, with a fraction or an exponent. -/
theorem writeFloat_chars {x : Binary64} {value : Dyadic} (finite : x.dyadic? = some value) :
    ∃ t : DecimalText, t.Proper ∧ t.isWhole = false ∧ t.chars = writeFloat x ∧
      x.text = String.ofList t.chars := by
  obtain ⟨t, proper, notWhole, same⟩ := Binary64.text_chars finite
  have asText : writeFloat x = x.text.toList := by
    cases x <;> first | rfl | cases finite
  exact ⟨t, proper, notWhole, same.trans asText.symm, by rw [same, String.ofList_toList]⟩

theorem readValue_int {n : Int} {text rest : List Char} (written : writeInt n = .ok text)
    (ends : StopsAt (fun c => !endsValue c) rest) (fuel : Nat) :
    readValue (fuel + 1) (text ++ rest) = .ok (.int n, rest) := by
  obtain ⟨rfl, short⟩ := writeInt_eq_ok written
  have proper := integerText_proper n
  rw [readValue_chars proper]
  apply (readNumber_whole proper ends short).trans
  exact congrArg (fun m => Except.ok (Value.int m, rest)) (integerText_value n)

theorem readValue_float {x : Binary64} (back : floating? x.text = some x) {rest : List Char}
    (ends : StopsAt (fun c => !endsValue c) rest) (fuel : Nat) :
    readValue (fuel + 1) (writeFloat x ++ rest) = .ok (.float x, rest) := by
  cases finite : x.dyadic? with
  | none =>
    cases x with
    | nan => rfl
    | infinite negative => cases negative <;> rfl
    | negativeZero | finite d => cases finite
  | some value =>
    obtain ⟨t, proper, notWhole, written, text⟩ := writeFloat_chars finite
    rw [text, floating?_chars proper] at back
    rw [← written, readValue_chars proper, readNumber_chars proper ends notWhole,
      Option.some.inj back]

/-! ## Layouts -/

/-- Nothing but blanks. -/
def AllBlank (cs : List Char) : Prop := ∀ c ∈ cs, isJsonBlank c = true

theorem skipBlanks_append {blanks : List Char} (all : AllBlank blanks) (cs : List Char) :
    skipBlanks (blanks ++ cs) = skipBlanks cs :=
  List.dropWhile_append_of_pos all

theorem allBlank_gap (layout : Layout) (depth : Nat) : AllBlank (layout.gap depth) := by
  cases layout with
  | oneLine => exact fun _ member => nomatch member
  | indented step =>
    refine List.forall_mem_cons.mpr ⟨rfl, fun c member => ?_⟩
    rw [List.eq_of_mem_replicate member]
    rfl

/-- Between two elements are a comma and blanks. -/
theorem comma_eq (layout : Layout) (depth : Nat) :
    ∃ blanks, layout.comma depth = ',' :: blanks ∧ AllBlank blanks := by
  cases layout with
  | oneLine => exact ⟨[' '], rfl, List.forall_mem_singleton.mpr rfl⟩
  | indented step => exact ⟨_, rfl, allBlank_gap (.indented step) depth⟩

theorem enclose_cons {layout : Layout} {depth : Nat} {left right : Char} {text : List Char}
    {texts : List (List Char)} :
    enclose layout depth left right (text :: texts) =
      left :: (layout.gap (depth + 1) ++
        ((layout.comma (depth + 1)).intercalate (text :: texts) ++
          (layout.gap depth ++ [right]))) := by
  simp [enclose]

/-- A value ends before blanks and a bracket, or a comma. -/
theorem stopsAt_blanks {blanks rest : List Char} {c : Char} (all : AllBlank blanks)
    (ends : endsValue c = true) : StopsAt (fun c => !endsValue c) (blanks ++ c :: rest) := by
  cases blanks with
  | nil =>
    rintro d ⟨⟩
    simp [ends]
  | cons d blanks =>
    rintro e ⟨⟩
    simp [endsValue, all d List.mem_cons_self]

/-! ## Values -/

/-- A value that was written is read, whatever follows it in a longer text. -/
def ReadFrom (layout : Layout) (v : Value) : Prop :=
  ∀ {depth fuel : Nat} {text rest : List Char}, writeAt layout depth v = .ok text →
    text.length ≤ fuel → StopsAt (fun c => !endsValue c) rest →
    readValue fuel (text ++ rest) = .ok (v, rest)

/-- A text starts with a character that no reader skips, and that neither closes an array nor marks
the order of bytes. -/
def Starts (cs : List Char) : Prop :=
  ∃ c rest, cs = c :: rest ∧ isJsonBlank c = false ∧ c ≠ ']' ∧ c ≠ '\ufeff'

theorem starts_chars {t : DecimalText} (proper : t.Proper) : Starts t.chars := by
  rcases chars_front proper with ⟨d, cs, digit, front⟩ | ⟨d, cs, digit, front⟩
  · exact ⟨'-', d :: cs, front, by decide, by decide, by decide⟩
  · refine ⟨d, cs, front, ?_, ?_, ?_⟩
    · have bounds := isDigit_bounds digit
      apply Bool.eq_false_iff.mpr
      intro blank
      simp only [isJsonBlank, Bool.or_eq_true, beq_iff_eq] at blank
      rcases blank with ((rfl | rfl) | rfl) | rfl <;> simp at bounds
    all_goals
      rintro rfl
      cases digit

section

variable {layout : Layout} {depth : Nat}

theorem starts_writeAt {v : Value} {text : List Char}
    (written : writeAt layout depth v = .ok text) : Starts text := by
  cases v with
  | null =>
    obtain rfl := Except.ok.inj written
    exact ⟨_, _, rfl, by decide, by decide, by decide⟩
  | bool b =>
    obtain rfl := Except.ok.inj written
    cases b <;> exact ⟨_, _, rfl, by decide, by decide, by decide⟩
  | int n =>
    obtain ⟨rfl, -⟩ := writeInt_eq_ok written
    exact starts_chars (integerText_proper n)
  | float x =>
    obtain rfl := Except.ok.inj written
    cases finite : x.dyadic? with
    | none =>
      cases x with
      | nan => exact ⟨_, _, rfl, by decide, by decide, by decide⟩
      | infinite negative => cases negative <;> exact ⟨_, _, rfl, by decide, by decide, by decide⟩
      | negativeZero | finite d => cases finite
    | some value =>
      obtain ⟨t, proper, -, same, -⟩ := writeFloat_chars finite
      exact same ▸ starts_chars proper
  | string s =>
    obtain rfl := Except.ok.inj written
    exact ⟨_, _, rfl, by decide, by decide, by decide⟩
  | list items | tuple items | object entries =>
    obtain ⟨texts, -, same⟩ := bind_eq_ok.mp written
    obtain rfl := pure_eq_ok.mp same
    unfold enclose
    split <;> exact ⟨_, _, rfl, by decide, by decide, by decide⟩
  | absent | typeObject _ | record _ _ => cases written

theorem skipBlanks_starts {cs : List Char} (starts : Starts cs) (rest : List Char) :
    skipBlanks (cs ++ rest) = cs ++ rest := by
  obtain ⟨c, cs, rfl, notBlank, -⟩ := starts
  simp [skipBlanks, notBlank]

theorem Starts.intercalate {text : List Char} (starts : Starts text) (sep : List Char)
    (texts : List (List Char)) : Starts (sep.intercalate (text :: texts)) := by
  obtain ⟨c, rest, rfl, front⟩ := starts
  exact ⟨c, _, List.intercalate_cons_cons_left, front⟩

/-- After a comma come the blanks that were written and the next element. -/
theorem skipBlanks_next {blanks cs rest : List Char} (all : AllBlank blanks) (starts : Starts cs) :
    skipBlanks (blanks ++ (cs ++ rest)) = cs ++ rest := by
  rw [skipBlanks_append all, skipBlanks_starts starts]

/-- After a colon come one blank and the value. -/
theorem skipBlanks_value {cs rest : List Char} (starts : Starts cs) :
    skipBlanks (' ' :: (cs ++ rest)) = cs ++ rest :=
  skipBlanks_starts starts rest

theorem readItems_written {items : List Value} {texts : List (List Char)}
    {blanks closing : List Char} (between : AllBlank blanks) (closes : AllBlank closing)
    (written : List.Forall₂ (fun v text => writeAt layout depth v = .ok text) items texts)
    (inside : ∀ v ∈ items, ReadFrom layout v) (nonempty : items ≠ []) {fuel : Nat}
    {rest : List Char} (enough : ((',' :: blanks).intercalate texts).length < fuel) :
    readItems fuel ((',' :: blanks).intercalate texts ++ (closing ++ ']' :: rest)) =
      .ok (items, rest) := by
  induction written generalizing fuel with
  | nil => exact absurd rfl nonempty
  | @cons v text items texts here others ih =>
    obtain ⟨fuel, rfl⟩ : ∃ n, fuel = n + 1 := ⟨fuel - 1, by omega⟩
    obtain ⟨hereRead, laterRead⟩ := List.forall_mem_cons.mp inside
    cases others with
    | nil =>
      rw [List.intercalate_singleton] at enough ⊢
      rw [readItems, hereRead here (Nat.le_of_lt_succ enough) (stopsAt_blanks closes rfl)]
      simp only [ok_bind, skipBlanks_append closes]
      rfl
    | @cons v' text' items texts here' others =>
      have more : text' :: texts ≠ [] := List.cons_ne_nil _ _
      rw [List.intercalate_cons_of_ne_nil more] at enough ⊢
      simp only [List.length_append, List.length_cons] at enough
      have split (after : List Char) :
          text ++ ',' :: blanks ++ (',' :: blanks).intercalate (text' :: texts) ++ after =
            text ++ ',' :: (blanks ++ ((',' :: blanks).intercalate (text' :: texts) ++ after)) := by
        simp
      have starts := (starts_writeAt here').intercalate (',' :: blanks) texts
      rw [split, readItems, hereRead here (by omega) (by rintro c ⟨⟩; rfl)]
      simp only [ok_bind]
      change (readItems fuel (skipBlanks (blanks ++ _)) >>= _) = _
      rw [skipBlanks_next between starts, ih laterRead (List.cons_ne_nil _ _) (by omega)]
      rfl

/-- A written string is read, and what follows it is left. -/
theorem readString_written (key : String) (rest : List Char) :
    ∃ more, writeString key ++ rest = '"' :: more ∧
      ∀ opening, readString opening more.length more = .ok (key.toList, rest) := by
  refine ⟨key.toList.flatMap spell ++ '"' :: rest, by simp [writeString], fun opening => ?_⟩
  apply readString_spelled
  have short := length_le_flatMap_spell key.toList
  simp only [List.length_append, List.length_cons]
  omega

section

variable {fuel : Nat} {e : String × Value} {text : List Char}

theorem readEntries_last (written : EntryWritten layout depth e text)
    (inside : ReadFrom layout e.2) (enough : text.length ≤ fuel) {closing : List Char}
    (closes : AllBlank closing) (rest : List Char) :
    readEntries (fuel + 1) (text ++ (closing ++ '\x7d' :: rest)) = .ok ([e], rest) := by
  obtain ⟨value, here, rfl⟩ := written
  simp only [List.length_append, List.length_cons] at enough
  obtain ⟨more, split, keyRead⟩ :=
    readString_written e.1 (':' :: ' ' :: (value ++ (closing ++ '\x7d' :: rest)))
  rw [List.append_assoc, List.cons_append, List.cons_append, split, readEntries, keyRead]
  change (readValue fuel (skipBlanks (' ' :: _)) >>= _) = _
  rw [skipBlanks_value (starts_writeAt here), inside here (by omega) (stopsAt_blanks closes rfl)]
  simp only [ok_bind, skipBlanks_append closes]
  change Except.ok ([(String.ofList e.1.toList, e.2)], rest) = _
  rw [String.ofList_toList]

theorem readEntries_next (written : EntryWritten layout depth e text)
    (inside : ReadFrom layout e.2) (enough : text.length ≤ fuel) {blanks cs : List Char}
    (between : AllBlank blanks) (starts : Starts cs) (rest : List Char) :
    readEntries (fuel + 1) (text ++ ',' :: (blanks ++ (cs ++ rest))) =
      readEntries fuel (cs ++ rest) >>= fun read => .ok (e :: read.1, read.2) := by
  obtain ⟨value, here, rfl⟩ := written
  simp only [List.length_append, List.length_cons] at enough
  obtain ⟨more, split, keyRead⟩ :=
    readString_written e.1 (':' :: ' ' :: (value ++ ',' :: (blanks ++ (cs ++ rest))))
  rw [List.append_assoc, List.cons_append, List.cons_append, split, readEntries, keyRead]
  change (readValue fuel (skipBlanks (' ' :: _)) >>= _) = _
  rw [skipBlanks_value (starts_writeAt here), inside here (by omega) (by rintro c ⟨⟩; rfl)]
  change (readEntries fuel (skipBlanks (blanks ++ _)) >>= _) = _
  rw [skipBlanks_next between starts, String.ofList_toList]
  rfl

end

theorem starts_entry {e : String × Value} {text : List Char}
    (written : EntryWritten layout depth e text) : Starts text := by
  obtain ⟨value, -, rfl⟩ := written
  exact ⟨_, _, rfl, by decide, by decide, by decide⟩

theorem readEntries_written {entries : List (String × Value)} {texts : List (List Char)}
    {blanks closing : List Char} (between : AllBlank blanks) (closes : AllBlank closing)
    (written : List.Forall₂ (EntryWritten layout depth) entries texts)
    (inside : ∀ e ∈ entries, ReadFrom layout e.2) (nonempty : entries ≠ []) {fuel : Nat}
    {rest : List Char} (enough : ((',' :: blanks).intercalate texts).length < fuel) :
    readEntries fuel ((',' :: blanks).intercalate texts ++ (closing ++ '\x7d' :: rest)) =
      .ok (entries, rest) := by
  induction written generalizing fuel with
  | nil => exact absurd rfl nonempty
  | @cons e text entries texts here others ih =>
    obtain ⟨fuel, rfl⟩ : ∃ n, fuel = n + 1 := ⟨fuel - 1, by omega⟩
    obtain ⟨hereRead, laterRead⟩ := List.forall_mem_cons.mp inside
    cases others with
    | nil =>
      rw [List.intercalate_singleton] at enough ⊢
      exact readEntries_last here hereRead (Nat.le_of_lt_succ enough) closes rest
    | @cons e' text' entries texts here' others =>
      have more : text' :: texts ≠ [] := List.cons_ne_nil _ _
      rw [List.intercalate_cons_of_ne_nil more] at enough ⊢
      simp only [List.length_append, List.length_cons] at enough
      have split (after : List Char) :
          text ++ ',' :: blanks ++ (',' :: blanks).intercalate (text' :: texts) ++ after =
            text ++ ',' :: (blanks ++ ((',' :: blanks).intercalate (text' :: texts) ++ after)) := by
        simp
      have starts := (starts_entry here').intercalate (',' :: blanks) texts
      rw [split, readEntries_next here hereRead (by omega) between starts,
        ih laterRead (List.cons_ne_nil _ _) (by omega)]
      rfl

theorem readValue_items {fuel : Nat} {blanks cs rest : List Char} (all : AllBlank blanks)
    (starts : Starts cs) :
    readValue (fuel + 1) ('[' :: (blanks ++ (cs ++ rest))) =
      readItems fuel (cs ++ rest) >>= fun read => .ok (.list read.1, read.2) := by
  have skipped : skipBlanks (blanks ++ (cs ++ rest)) = cs ++ rest := skipBlanks_next all starts
  obtain ⟨c, cs, rfl, -, inside, -⟩ := starts
  rw [readValue, if_neg (by decide), if_pos rfl, skipped]
  simp only [List.cons_append]
  split
  · rename_i same
    exact absurd (List.cons.inj same).1 inside
  · rfl

theorem readValue_entries {fuel : Nat} {blanks cs rest : List Char} (all : AllBlank blanks)
    (front : cs.head? = some '"') :
    readValue (fuel + 1) ('\x7b' :: (blanks ++ (cs ++ rest))) =
      readEntries fuel (cs ++ rest) >>= fun read =>
        .ok (.object (entriesOfPairs read.1), read.2) := by
  obtain ⟨cs, rfl⟩ : ∃ ds, cs = '"' :: ds := by
    cases cs with
    | nil => cases front
    | cons c cs => exact ⟨cs, by rw [Option.some.inj front]⟩
  rw [readValue, if_neg (by decide), if_neg (by decide), if_pos rfl, skipBlanks_append all]
  rfl

theorem readFrom_leaf {v : Value} (leaf : v.isLeaf = true) (back : v.readsBack = true) :
    ReadFrom layout v := by
  intro depth fuel text rest written enough ends
  obtain ⟨fuel, rfl⟩ : ∃ n, fuel = n + 1 := by
    obtain ⟨c, cs, rfl, -⟩ := starts_writeAt written
    exact ⟨fuel - 1, by simp at enough; omega⟩
  cases v with
  | null =>
    obtain rfl := Except.ok.inj written
    rfl
  | bool b =>
    obtain rfl := Except.ok.inj written
    cases b <;> rfl
  | int n => exact readValue_int written ends fuel
  | float x =>
    obtain rfl := Except.ok.inj written
    have back : floating? x.text = some x := by simpa [Value.readsBack] using back
    exact readValue_float back ends fuel
  | string s =>
    obtain rfl := Except.ok.inj written
    obtain ⟨more, split, stringRead⟩ := readString_written s rest
    rw [split, readValue, if_pos rfl, stringRead]
    change Except.ok (Value.string (String.ofList s.toList), rest) = _
    rw [String.ofList_toList]
  | absent | typeObject _ => cases written
  | list _ | tuple _ | object _ | record _ _ => cases leaf

theorem readFrom_list {items : List Value} (inside : ∀ v ∈ items, ReadFrom layout v) :
    ReadFrom layout (.list items) := by
  intro depth fuel text rest written enough ends
  obtain ⟨texts, itemsWritten, rfl⟩ := writeAt_list_eq_ok.mp written
  cases itemsWritten with
  | nil =>
    obtain ⟨fuel, rfl⟩ : ∃ n, fuel = n + 1 := ⟨fuel - 1, by simp [enclose] at enough; omega⟩
    rfl
  | @cons v text items texts here others =>
    obtain ⟨blanks, comma, between⟩ := comma_eq layout (depth + 1)
    have starts := (starts_writeAt here).intercalate (',' :: blanks) texts
    rw [enclose_cons, comma] at enough ⊢
    simp only [List.length_cons, List.length_append] at enough
    obtain ⟨fuel, rfl⟩ : ∃ n, fuel = n + 1 := ⟨fuel - 1, by omega⟩
    simp only [List.cons_append, List.append_assoc]
    rw [readValue_items (allBlank_gap layout (depth + 1)) starts, List.nil_append,
      readItems_written between (allBlank_gap layout depth) (.cons here others) inside
        (List.cons_ne_nil _ _) (by omega)]
    rfl

theorem readFrom_object {entries : List (String × Value)} (keys : (entries.map (·.1)).Nodup)
    (inside : ∀ e ∈ entries, ReadFrom layout e.2) : ReadFrom layout (.object entries) := by
  intro depth fuel text rest written enough ends
  obtain ⟨texts, entriesWritten, rfl⟩ := writeAt_object_eq_ok.mp written
  cases entriesWritten with
  | nil =>
    obtain ⟨fuel, rfl⟩ : ∃ n, fuel = n + 1 := ⟨fuel - 1, by simp [enclose] at enough; omega⟩
    rfl
  | @cons e text entries texts here others =>
    obtain ⟨blanks, comma, between⟩ := comma_eq layout (depth + 1)
    have front : ((',' :: blanks).intercalate (text :: texts)).head? = some '"' := by
      obtain ⟨value, -, rfl⟩ := here
      simp [writeString]
    rw [enclose_cons, comma] at enough ⊢
    simp only [List.length_cons, List.length_append] at enough
    obtain ⟨fuel, rfl⟩ : ∃ n, fuel = n + 1 := ⟨fuel - 1, by omega⟩
    simp only [List.cons_append, List.append_assoc]
    rw [readValue_entries (allBlank_gap layout (depth + 1)) front, List.nil_append,
      readEntries_written between (allBlank_gap layout depth) (.cons here others) inside
        (List.cons_ne_nil _ _) (by omega), ok_bind, entriesOfPairs_eq keys]

/-- A plain value is read from the text that was written for it. -/
theorem readFrom_written (v : Value) :
    v.isPlain = true → v.everywhere Value.readsBack = true → ReadFrom layout v := by
  induction v using Value.partsInduction with
  | leaf v leaf => exact fun _ back => readFrom_leaf leaf (Value.everywhere_here back)
  | list items ih =>
    intro plain back
    obtain ⟨-, plain⟩ := Value.everywhere_list.mp plain
    obtain ⟨-, back⟩ := Value.everywhere_list.mp back
    exact readFrom_list fun v member => ih v member (plain v member) (back v member)
  | object entries ih =>
    intro plain back
    obtain ⟨keys, plain⟩ := Value.isPlain_object.mp plain
    obtain ⟨-, back⟩ := Value.everywhere_object.mp back
    exact readFrom_object keys fun e member => ih e member (plain e member) (back e member)
  | tuple items | record type values =>
    intro plain
    exact absurd (Value.everywhere_here plain) (by simp [Value.isJsonKind])

/-- What is written for a plain value is read as that value, in every layout and with blanks behind
it. -/
theorem readAll_written {v : Value} {text blanks : List Char} (plain : v.isPlain = true)
    (back : v.everywhere Value.readsBack = true) (written : writeAt layout depth v = .ok text)
    (behind : AllBlank blanks) : readAll (text ++ blanks) = .ok v := by
  have starts := starts_writeAt written
  have ends : StopsAt (fun c => !endsValue c) blanks := by
    intro c front
    simp [endsValue, behind c (List.mem_of_mem_head? front)]
  have read : readValue (2 * (text ++ blanks).length + 1) (text ++ blanks) = .ok (v, blanks) := by
    refine readFrom_written v plain back written ?_ ends
    rw [List.length_append]
    omega
  have skipped : skipBlanks (text ++ blanks) = text ++ blanks := skipBlanks_starts starts blanks
  have rest : skipBlanks blanks = [] := by
    have dropped := skipBlanks_append behind []
    rw [List.append_nil] at dropped
    exact dropped.trans rfl
  obtain ⟨c, cs, front, -, -, noMark⟩ := starts
  have noMark : ∀ rest, text ++ blanks ≠ '\ufeff' :: rest := by
    intro rest marked
    rw [front] at marked
    exact noMark (List.cons.inj marked).1
  unfold readAll
  split
  · rename_i marked
    exact absurd marked (noMark _)
  · rw [skipped, read, ok_bind]
    dsimp only
    rw [rest]
    rfl

end

theorem parse_write {v : Value} {text : String} (plain : v.isPlain = true)
    (back : v.everywhere Value.readsBack = true) (written : write v = .ok text) :
    parse text = .ok v := by
  have read := readAll_written plain back (write_eq_ok.mp written) (List.forall_mem_nil _)
  rwa [List.append_nil] at read

/-- A text of several lines that ends in a line break is read as the value it was written for. -/
theorem parse_writeIndented {v : Value} {text : String} (plain : v.isPlain = true)
    (back : v.everywhere Value.readsBack = true) (written : writeIndented v = .ok text) :
    parse (text ++ "\n") = .ok v := by
  have lineBreak : AllBlank ['\n'] := List.forall_mem_singleton.mpr rfl
  have read := readAll_written plain back (writeIndented_eq_ok.mp written) lineBreak
  rw [parse, String.toList_append]
  exact read

end ServiceClient.Json

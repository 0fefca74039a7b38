import Mathlib.Data.List.TakeWhile
import ServiceClient.Form.Html
import ServiceClient.Proofs.JsonReading
import ServiceClient.Proofs.ReadValues

/-!
Texts that are JSON, entered where a number is asked for. A JSON number has the spelling of a
numeral (`readNumber_spells`), so the input reads the same number; any other JSON text is read as
none on either side (`readNumber_parse`).
-/

namespace ServiceClient

/-! ## Blanks -/

namespace Numeral

theorem isJsonBlank_bounds {c : Char} (blank : isJsonBlank c = true) :
    c.toNat < 0x7f ∧ isNumberBlank c = true := by
  simp only [isJsonBlank, Bool.or_eq_true, beq_iff_eq] at blank
  rcases blank with ((rfl | rfl) | rfl) | rfl <;> decide

theorem not_isNumberBlank {c : Char} (plain : isNumeralChar c = true) :
    isNumberBlank c = false := by
  simp only [isNumeralChar, Bool.and_eq_true, Bool.not_eq_true'] at plain
  exact plain.1.2

section

variable {before after cs : List Char}

theorem dropWhile_blanks (blanks : Json.AllBlank before) (cs : List Char) :
    (before ++ cs).dropWhile isNumberBlank = cs.dropWhile isNumberBlank :=
  List.dropWhile_append_of_pos fun c member => (isJsonBlank_bounds (blanks c member)).2

theorem trimEnd_blanks (blanks : Json.AllBlank after) (cs : List Char) :
    trimEnd isNumberBlank (cs ++ after) = trimEnd isNumberBlank cs := by
  have reversed : Json.AllBlank after.reverse := fun c member =>
    blanks c (List.mem_reverse.mp member)
  rw [trimEnd, List.reverse_append, dropWhile_blanks reversed, trimEnd]

theorem trimEnds_front {c : Char} (blanks : Json.AllBlank before)
    (notBlank : isNumberBlank c = false) (cs : List Char) :
    trimEnds isNumberBlank (before ++ c :: cs) = trimEnd isNumberBlank (c :: cs) := by
  rw [trimEnds, dropWhile_blanks blanks, List.dropWhile_cons_of_neg (by simp [notBlank])]

theorem trimEnd_cons {c : Char} (notBlank : isNumberBlank c = false) (cs : List Char) :
    ∃ more, trimEnd isNumberBlank (c :: cs) = c :: more := by
  rw [trimEnd, List.reverse_cons, List.dropWhile_append]
  split
  · exact ⟨[], by simp [notBlank]⟩
  · exact ⟨_, List.reverse_append⟩

/-- Blanks around a number count for nothing. -/
theorem plainText?_padded (front : Json.AllBlank before) (back : Json.AllBlank after)
    (all : ∀ c ∈ cs, isNumeralChar c = true) (nonempty : cs ≠ []) :
    plainText? (String.ofList (before ++ (cs ++ after))) = plainText? (String.ofList cs) := by
  have ascii : ∀ c ∈ before ++ (cs ++ after), c.toNat < 0x7f :=
    List.forall_mem_append.mpr ⟨fun c member => (isJsonBlank_bounds (front c member)).1,
      List.forall_mem_append.mpr ⟨fun c member => toNat_lt_of_isNumeralChar (all c member),
        fun c member => (isJsonBlank_bounds (back c member)).1⟩⟩
  have trimmed : trimEnds isNumberBlank (before ++ (cs ++ after)) = cs := by
    obtain ⟨c, cs, rfl⟩ := List.exists_cons_of_ne_nil nonempty
    have here := not_isNumberBlank (all c List.mem_cons_self)
    rw [List.cons_append, trimEnds_front front here, ← List.cons_append, trimEnd_blanks back,
      ← trimEnds_front (List.forall_mem_nil _) here, List.nil_append]
    exact trimEnds_eq all
  rw [plainText?_eq all]
  simp [plainText?, mapM_plain? ascii, trimmed, dropUnderscores?_eq all]

/-- The first character of a text that is no blank stays in front. -/
theorem plainText?_front {c : Char} {cs plain : List Char} (front : Json.AllBlank before)
    (here : isNumeralChar c = true)
    (isPlain : plainText? (String.ofList (before ++ c :: cs)) = some plain) :
    ∃ more, plain = c :: more := by
  have ascii : ∀ d ∈ before ++ [c], d.toNat < 0x7f := List.forall_mem_append.mpr
    ⟨fun d member => (isJsonBlank_bounds (front d member)).1,
      List.forall_mem_singleton.mpr (toNat_lt_of_isNumeralChar here)⟩
  have split : before ++ c :: cs = (before ++ [c]) ++ cs := by simp
  rw [plainText?, String.toList_ofList, split, List.mapM_append] at isPlain
  obtain ⟨all, mapped, isPlain⟩ := Option.bind_eq_some_iff.mp isPlain
  obtain ⟨front', frontRead, mapped⟩ := Option.bind_eq_some_iff.mp mapped
  obtain rfl := Option.some.inj ((mapM_plain? ascii).symm.trans frontRead)
  obtain ⟨cs', -, same⟩ := Option.bind_eq_some_iff.mp mapped
  obtain rfl : before ++ [c] ++ cs' = all := Option.some.inj same
  obtain ⟨more, trimmed⟩ := trimEnd_cons (not_isNumberBlank here) cs'
  have distinct : c ≠ '_' := by
    rintro rfl
    cases here
  rw [List.append_assoc, List.singleton_append, trimEnds_front front (not_isNumberBlank here),
    trimmed] at isPlain
  simp [dropUnderscores?, distinct] at isPlain
  obtain ⟨more', -, rfl⟩ := isPlain
  exact ⟨more', rfl⟩

end

end Numeral

theorem integer?_congr {text text' : String}
    (same : Numeral.plainText? text = Numeral.plainText? text') :
    integer? text = integer? text' := by
  simp only [integer?, same]

theorem floating?_congr {text text' : String}
    (same : Numeral.plainText? text = Numeral.plainText? text') :
    floating? text = floating? text' := by
  simp only [floating?, same]

namespace Json

/-! ## Numbers -/

section

variable {cs rest : List Char}

theorem takeDigits_append (cs : List Char) : cs = (takeDigits cs).1 ++ (takeDigits cs).2 := by
  rw [takeDigits, List.span_eq_takeWhile_dropWhile, List.takeWhile_append_dropWhile]

theorem takeWhole_append (cs : List Char) : cs = (takeWhole cs).1 ++ (takeWhole cs).2 := by
  unfold takeWhole
  split
  · rfl
  · exact takeDigits_append cs

theorem takeMinus_append (cs : List Char) :
    cs = DecimalText.signChars (takeMinus cs).1 ++ (takeMinus cs).2 := by
  unfold takeMinus
  split <;> rfl

/-- What is taken for a fraction is a point with digits behind it, or nothing. -/
theorem takeFraction_append (cs : List Char) :
    ∃ digits after, cs = DecimalText.fractionChars digits ++ after ∧ AllDigits digits ∧
      (takeFraction cs = none ∧ digits = [] ∧ after = cs ∨
        takeFraction cs = some (digits, after) ∧ digits ≠ []) := by
  cases taken : takeFraction cs with
  | none => exact ⟨[], cs, rfl, List.forall_mem_nil _, .inl ⟨rfl, rfl, rfl⟩⟩
  | some pointed =>
    obtain ⟨digits, after⟩ := pointed
    unfold takeFraction at taken
    split at taken
    · rename_i behind
      dsimp only at taken
      split at taken
      · cases taken
      · rename_i nonempty
        have nonempty : (takeDigits behind).1 ≠ [] := by simpa using nonempty
        obtain ⟨rfl, rfl⟩ := Prod.mk.inj (Option.some.inj taken)
        refine ⟨_, _, ?_, takeDigits_allDigits behind, .inr ⟨rfl, nonempty⟩⟩
        rw [fractionChars_eq nonempty, List.cons_append, ← takeDigits_append]
    · cases taken

/-- What is taken for an exponent spells one, or it is nothing. -/
theorem takeExponent_append (cs : List Char) :
    ∃ text after exponent, cs = text ++ after ∧ SpellsExponent text exponent ∧
      (takeExponent cs = none ∧ text = [] ∧ exponent = 0 ∧ after = cs ∨
        takeExponent cs = some (exponent, after) ∧ text ≠ []) := by
  cases taken : takeExponent cs with
  | none => exact ⟨[], cs, 0, rfl, .nothing, .inl ⟨rfl, rfl, rfl, rfl⟩⟩
  | some marked =>
    obtain ⟨exponent, after⟩ := marked
    unfold takeExponent at taken
    split at taken
    · rename_i mark behind
      split at taken
      · rename_i either
        have either : mark = 'e' ∨ mark = 'E' := by simpa using either
        dsimp only at taken
        split at taken
        · cases taken
        · rename_i nonempty
          obtain ⟨rfl, rfl⟩ := Prod.mk.inj (Option.some.inj taken)
          have all := takeDigits_allDigits (Numeral.takeSign behind).2
          obtain ⟨sign, -, same, signed⟩ := takeSign_append behind
          refine ⟨mark :: (sign ++ (takeDigits (Numeral.takeSign behind).2).1), _, _, ?_,
            .marked either (exponent?_eq_some.mpr ?_), .inr ⟨rfl, List.cons_ne_nil _ _⟩⟩
          · rw [List.cons_append, List.append_assoc, ← takeDigits_append, ← same]
          · rw [signed _ all]
            exact ⟨all, by simpa using nonempty, rfl⟩
      · cases taken
    · cases taken

/-- The value of a numeral with a text for its exponent. It is an integer if there are only
digits. -/
inductive Denotes : Numeral → List Char → Value → Prop
  | whole {n : Numeral} (noFraction : n.fraction = []) (short : n.whole.length ≤ maxDigits) :
      Denotes n [] (.int (signedInt n.negative (digitsValue n.whole)))
  | rounded {n : Numeral} {exponent : List Char} (notWhole : n.fraction ≠ [] ∨ exponent ≠ []) :
      Denotes n exponent (.float n.toBinary64)

/-- What is read as a number is the text of a numeral, and its value. -/
theorem readNumber_spells {v : Value} (read : readNumber cs = .ok (v, rest)) :
    ∃ (n : Numeral) (exponent : List Char), n.SpelledWith exponent ∧
      cs = n.chars exponent ++ rest ∧ Denotes n exponent v := by
  have sign := takeMinus_append cs
  have front := takeWhole_append (takeMinus cs).2
  have digits := takeWhole_allDigits (takeMinus cs).2
  simp only [readNumber] at read
  generalize takeMinus cs = minus at sign front digits read
  obtain ⟨negative, unsigned⟩ := minus
  dsimp only at sign front digits read
  generalize takeWhole unsigned = taken at front digits read
  obtain ⟨whole, behind⟩ := taken
  dsimp only at front digits read
  split at read
  · cases read
  · rename_i nonempty
    have nonempty : whole ≠ [] := by simpa using nonempty
    obtain ⟨fraction, pointed, isFraction, fractionDigits, fractionTaken⟩ :=
      takeFraction_append behind
    obtain ⟨text, after, exponent, isExponent, spelled, exponentTaken⟩ :=
      takeExponent_append pointed
    let n : Numeral := ⟨negative, whole, fraction, exponent⟩
    have chars : cs = n.chars text ++ after := by
      rw [sign, front, isFraction, isExponent]
      simp [n, Numeral.chars]
    have spells : n.SpelledWith text := ⟨digits, nonempty, fractionDigits, spelled⟩
    suffices after = rest ∧ Denotes n text v from
      ⟨n, text, spells, this.1 ▸ chars, this.2⟩
    rcases fractionTaken with ⟨noFraction, rfl, rfl⟩ | ⟨fractionTaken, someFraction⟩
    · rw [noFraction] at read
      dsimp only at read
      rcases exponentTaken with ⟨noExponent, rfl, rfl, rfl⟩ | ⟨exponentTaken, someExponent⟩
      · rw [noExponent] at read
        dsimp only at read
        split at read
        · cases read
        · rename_i few
          obtain ⟨rfl, rfl⟩ := Prod.mk.inj (Except.ok.inj read)
          exact ⟨rfl, .whole rfl (Nat.not_lt.mp few)⟩
      · rw [exponentTaken] at read
        obtain ⟨rfl, rfl⟩ := Prod.mk.inj (Except.ok.inj read)
        exact ⟨rfl, .rounded (.inr someExponent)⟩
    · rw [fractionTaken] at read
      dsimp only at read
      rcases exponentTaken with ⟨noExponent, rfl, rfl, rfl⟩ | ⟨exponentTaken, -⟩
      · rw [noExponent] at read
        obtain ⟨rfl, rfl⟩ := Prod.mk.inj (Except.ok.inj read)
        exact ⟨rfl, .rounded (.inl someFraction)⟩
      · rw [exponentTaken] at read
        obtain ⟨rfl, rfl⟩ := Prod.mk.inj (Except.ok.inj read)
        exact ⟨rfl, .rounded (.inl someFraction)⟩

end

/-! ## Texts -/

/-- A text that is read holds what a value is read from, with blanks around it. -/
theorem parse_parts {text : String} {v : Value} (read : parse text = .ok v) :
    ∃ before cs rest fuel, text = String.ofList (before ++ cs) ∧ AllBlank before ∧ AllBlank rest ∧
      readValue fuel cs = .ok (v, rest) := by
  have split : text = String.ofList
      (text.toList.takeWhile isJsonBlank ++ text.toList.dropWhile isJsonBlank) := by
    rw [List.takeWhile_append_dropWhile, String.ofList_toList]
  unfold parse readAll at read
  split at read
  · cases read
  · obtain ⟨⟨v', rest⟩, found, read⟩ := bind_eq_ok.mp read
    dsimp only at read
    split at read
    · rename_i finished
      obtain rfl : v' = v := Except.ok.inj read
      exact ⟨_, _, rest, _, split, List.all_eq_true.mp List.all_takeWhile,
        List.dropWhile_eq_nil_iff.mp finished, found⟩
    · cases read

/-- The characters that a JSON text other than a number or a name starts with. -/
def marks : List Char := ['"', '[', '\x7b']

/-- A value is read from a text with a mark in front, and is no number then, or from a name, or from
a number. -/
theorem readValue_cases {fuel : Nat} {cs rest : List Char} {v : Value}
    (read : readValue fuel cs = .ok (v, rest)) :
    (∃ c ds, cs = c :: ds ∧ c ∈ marks ∧ Primitive.number.admits v = false) ∨
      takeConstant? cs = some (v, rest) ∨ readNumber cs = .ok (v, rest) := by
  cases cs with
  | nil => cases fuel <;> simp [readValue, fail] at read
  | cons c cs =>
    cases fuel with
    | zero => simp [readValue, fail] at read
    | succ fuel =>
      unfold readValue at read
      split at read
      · rename_i quote
        obtain ⟨⟨s, behind⟩, -, done⟩ := bind_eq_ok.mp read
        obtain ⟨rfl, -⟩ := Prod.mk.inj (Except.ok.inj done)
        exact .inl ⟨c, cs, rfl, quote ▸ by decide, rfl⟩
      split at read
      · rename_i bracket
        refine .inl ⟨c, cs, rfl, bracket ▸ by decide, ?_⟩
        split at read
        · obtain ⟨rfl, -⟩ := Prod.mk.inj (Except.ok.inj read)
          rfl
        · obtain ⟨⟨items, behind⟩, -, done⟩ := bind_eq_ok.mp read
          obtain ⟨rfl, -⟩ := Prod.mk.inj (Except.ok.inj done)
          rfl
      split at read
      · rename_i brace
        refine .inl ⟨c, cs, rfl, brace ▸ by decide, ?_⟩
        split at read
        · obtain ⟨rfl, -⟩ := Prod.mk.inj (Except.ok.inj read)
          rfl
        · obtain ⟨⟨entries, behind⟩, -, done⟩ := bind_eq_ok.mp read
          obtain ⟨rfl, -⟩ := Prod.mk.inj (Except.ok.inj done)
          rfl
      split at read
      · rename_i found named
        exact .inr (.inl (named.trans (congrArg some (Except.ok.inj read))))
      · exact .inr (.inr read)

/-- The names of values are no integers, and floating point numbers only if their values are. -/
theorem constants_asNumbers : ∀ e ∈ constants, (∀ c ∈ e.1.toList, isNumeralChar c = true) ∧
    e.1.toList ≠ [] ∧ integer? e.1 = none ∧
      ((∃ x, floating? e.1 = some x ∧ e.2 = .float x) ∨
        floating? e.1 = none ∧ Primitive.number.admits e.2 = false) := by
  simp only [constants, List.forall_mem_cons]
  refine ⟨?_, ?_, ?_, ?_, ?_, ?_, List.forall_mem_nil _⟩
  · exact ⟨List.all_eq_true.mp (by decide), by decide, rfl, .inr ⟨rfl, rfl⟩⟩
  · exact ⟨List.all_eq_true.mp (by decide), by decide, rfl, .inr ⟨rfl, rfl⟩⟩
  · exact ⟨List.all_eq_true.mp (by decide), by decide, rfl, .inr ⟨rfl, rfl⟩⟩
  · exact ⟨List.all_eq_true.mp (by decide), by decide, rfl, .inl ⟨_, rfl, rfl⟩⟩
  · exact ⟨List.all_eq_true.mp (by decide), by decide, rfl, .inl ⟨_, rfl, rfl⟩⟩
  · exact ⟨List.all_eq_true.mp (by decide), by decide, rfl, .inl ⟨_, rfl, rfl⟩⟩

theorem takeConstant?_spells {cs rest : List Char} {v : Value}
    (found : takeConstant? cs = some (v, rest)) :
    ∃ name, (name, v) ∈ constants ∧ cs = name.toList ++ rest := by
  obtain ⟨⟨name, u⟩, listed, taken⟩ := List.exists_of_findSome?_eq_some found
  simp only at taken
  split at taken
  · rename_i front
    obtain ⟨rfl, rfl⟩ := Prod.mk.inj (Option.some.inj taken)
    obtain ⟨behind, rfl⟩ := List.isPrefixOf_iff_prefix.mp front
    exact ⟨name, listed, by rw [← String.length_toList, List.drop_left]⟩
  · cases taken

end Json

section

variable {before after cs : List Char}

theorem integer?_padded (front : Json.AllBlank before) (back : Json.AllBlank after)
    (all : ∀ c ∈ cs, isNumeralChar c = true) (nonempty : cs ≠ []) :
    integer? (String.ofList (before ++ (cs ++ after))) = integer? (String.ofList cs) :=
  integer?_congr (Numeral.plainText?_padded front back all nonempty)

theorem floating?_padded (front : Json.AllBlank before) (back : Json.AllBlank after)
    (all : ∀ c ∈ cs, isNumeralChar c = true) (nonempty : cs ≠ []) :
    floating? (String.ofList (before ++ (cs ++ after))) = floating? (String.ofList cs) :=
  floating?_congr (Numeral.plainText?_padded front back all nonempty)

theorem unsigned?_marked {c : Char} (mark : c ∈ Json.marks) (negative : Bool) (cs : List Char) :
    Numeral.unsigned? negative (c :: cs) = none := by
  have all : ∀ c ∈ Json.marks, c.isDigit = false ∧ c ≠ '.' := by simp [Json.marks]
  obtain ⟨letter, noPoint⟩ := all c mark
  have noDigits : (c :: cs).span Char.isDigit = ([], c :: cs) :=
    span_eq (List.forall_mem_nil _) fun d front => Option.some.inj front ▸ letter
  simp only [Numeral.unsigned?, noDigits]
  simp [noPoint]

theorem notNumber_marked {text : String} {c : Char} {cs : List Char} (mark : c ∈ Json.marks)
    (plain : Numeral.plainText? text = some (c :: cs)) :
    integer? text = none ∧ floating? text = none := by
  have all : ∀ c ∈ Json.marks, c.isDigit = false ∧ (c ≠ '-' ∧ c ≠ '+') ∧ c.toLower ≠ 'i' ∧
      c.toLower ≠ 'n' := by
    simp [Json.marks]
  obtain ⟨letter, noSign, notI, notN⟩ := all c mark
  have unsigned : Numeral.takeSign (c :: cs) = (false, c :: cs) :=
    takeSign_unsigned fun d front => Option.some.inj front ▸ noSign
  have lowered (name : String) (other : name.toList.head? ≠ some c.toLower) :
      String.ofList ((c :: cs).map Char.toLower) ≠ name := by
    rintro rfl
    simp at other
  have inf := lowered "inf" (by simpa [eq_comm] using notI)
  have infinity := lowered "infinity" (by simpa [eq_comm] using notI)
  have nan := lowered "nan" (by simpa [eq_comm] using notN)
  constructor
  · simp [integer?, plain, unsigned, letter]
  · simp only [floating?, plain, Option.bind_eq_bind, Option.bind_some, unsigned]
    rw [unsigned?_marked mark]
    rfl

/-- A text that starts with such a character is read as a text. -/
theorem readNumber_marked {c : Char} (front : Json.AllBlank before) (mark : c ∈ Json.marks) :
    Html.readNumber (String.ofList (before ++ c :: cs)) =
      .string (String.ofList (before ++ c :: cs)) := by
  have all : ∀ c ∈ Json.marks, isNumeralChar c = true := List.all_eq_true.mp (by decide)
  have notNumber : integer? (String.ofList (before ++ c :: cs)) = none ∧
      floating? (String.ofList (before ++ c :: cs)) = none := by
    cases plain : Numeral.plainText? (String.ofList (before ++ c :: cs)) with
    | none =>
      rw [integer?, floating?, plain]
      exact ⟨rfl, rfl⟩
    | some plainCs =>
      obtain ⟨more, rfl⟩ := Numeral.plainText?_front front (all c mark) plain
      exact notNumber_marked mark plain
  rw [Html.readNumber, notNumber.1, notNumber.2]

/-- A text that is JSON is entered as a number if it is one, and else it is no number for either. -/
theorem readNumber_parse {text : String} {v : Value} (read : Json.parse text = .ok v) :
    Html.readNumber text = v ∨
      Html.readNumber text = .string text ∧ Primitive.number.admits v = false := by
  obtain ⟨before, cs, rest, fuel, rfl, front, back, read⟩ := Json.parse_parts read
  rcases Json.readValue_cases read with ⟨c, cs, rfl, mark, other⟩ | named | number
  · exact .inr ⟨readNumber_marked front mark, other⟩
  · obtain ⟨name, listed, chars⟩ := Json.takeConstant?_spells named
    obtain ⟨all, nonempty, noInteger, float⟩ := Json.constants_asNumbers _ listed
    dsimp only at all nonempty noInteger float
    have integers := integer?_padded front back all nonempty
    have floats := floating?_padded front back all nonempty
    rw [String.ofList_toList] at integers floats
    rw [chars, Html.readNumber, integers, noInteger, floats]
    rcases float with ⟨x, isFloat, same⟩ | ⟨noFloat, other⟩
    · exact .inl (by rw [isFloat, same])
    · exact .inr ⟨by rw [noFloat], other⟩
  · obtain ⟨n, exponent, spelled, chars, denotes⟩ := Json.readNumber_spells number
    have all := chars_areNumeralChars spelled
    have nonempty : n.chars exponent ≠ [] := by simp [Numeral.chars, spelled.nonempty]
    rw [chars, Html.readNumber, integer?_padded front back all nonempty,
      floating?_padded front back all nonempty]
    cases denotes with
    | whole noFraction short => exact .inl (by rw [integer?_spelled spelled noFraction short])
    | rounded notWhole =>
      rw [integer?_spelled_notWhole spelled notWhole, floating?_spelled spelled]
      exact .inl rfl

end

end ServiceClient

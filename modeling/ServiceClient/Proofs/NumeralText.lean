import Mathlib.Algebra.Group.Nat.Defs
import Mathlib.Data.List.TakeDrop
import ServiceClient.Json.Reader

/-!
Decimal texts. `DecimalText` has the parts of a number as it is written in ASCII: a sign, digits, a
fraction and an exponent. Whoever reads such a text, with or without more text behind it, reads the
same number.
-/

namespace ServiceClient

/-- The parts of a decimal text. There is no point without digits behind it. -/
structure DecimalText where
  negative : Bool
  whole : List Char
  fraction : List Char
  exponent : Option (Bool × List Char)

/-- A text is empty or starts with a character that fails a test. -/
def StopsAt (test : Char → Bool) (cs : List Char) : Prop := ∀ c ∈ cs.head?, test c = false

/-- All characters are digits. -/
def AllDigits (cs : List Char) : Prop := ∀ c ∈ cs, c.isDigit = true

namespace DecimalText

/-- The sign, which only a negative number has. -/
def signChars (negative : Bool) : List Char := if negative then ['-'] else []

def fractionChars : List Char → List Char
  | [] => []
  | digits => '.' :: digits

def exponentChars : Option (Bool × List Char) → List Char
  | none => []
  | some (negative, digits) => 'e' :: (if negative then '-' else '+') :: digits

/-- What comes after the digits before the point. -/
def tailChars (t : DecimalText) : List Char := fractionChars t.fraction ++ exponentChars t.exponent

/-- The whole text. -/
def chars (t : DecimalText) : List Char := signChars t.negative ++ t.whole ++ t.tailChars

/-- Digits stand where they have to, and no zero stands before another digit in front. -/
structure Proper (t : DecimalText) : Prop where
  whole : AllDigits t.whole
  nonempty : t.whole ≠ []
  noLeadingZero : t.whole.head? = some '0' → t.whole = ['0']
  fraction : AllDigits t.fraction
  exponent : ∀ e ∈ t.exponent, AllDigits e.2 ∧ e.2 ≠ []

/-- Whether there are only digits in a text, and a sign. -/
def isWhole (t : DecimalText) : Bool := t.fraction.isEmpty && t.exponent.isNone

def toNumeral (t : DecimalText) : Numeral where
  negative := t.negative
  whole := t.whole
  fraction := t.fraction
  exponent := (t.exponent.map fun e => signedInt e.1 (digitsValue e.2)).getD 0

end DecimalText

/-- A decimal text has the sign and the digits of `0.digits * 10 ^ point`, and perhaps more zeros at
the ends. -/
structure DecimalText.Writes (t : DecimalText) (negative : Bool) (digits : List Char)
    (point : Int) : Prop where
  sign : t.negative = negative
  number : ∃ zeros : Nat, digitsValue (t.whole ++ t.fraction) = digitsValue digits * 10 ^ zeros ∧
    t.toNumeral.exponent - t.fraction.length = point - digits.length - zeros

/-- What may stand behind the digits of a number: nothing, or an exponent after a mark in either
case. -/
inductive SpellsExponent : List Char → Int → Prop
  | nothing : SpellsExponent [] 0
  | marked {mark : Char} {cs : List Char} {exponent : Int} (either : mark = 'e' ∨ mark = 'E')
      (read : Numeral.exponent? cs = some exponent) : SpellsExponent (mark :: cs) exponent

/-- The text of a numeral whose exponent is spelled in one of many ways. -/
def Numeral.chars (n : Numeral) (exponent : List Char) : List Char :=
  DecimalText.signChars n.negative ++
    (n.whole ++ (DecimalText.fractionChars n.fraction ++ exponent))

/-- A numeral has digits before the point, and this is a spelling of its exponent. -/
structure Numeral.SpelledWith (n : Numeral) (exponent : List Char) : Prop where
  whole : AllDigits n.whole
  nonempty : n.whole ≠ []
  fraction : AllDigits n.fraction
  exponent : SpellsExponent exponent n.exponent

/-! ## Digits -/

theorem span_eq {test : Char → Bool} {cs rest : List Char} (all : ∀ c ∈ cs, test c = true)
    (stops : StopsAt test rest) : (cs ++ rest).span test = (cs, rest) := by
  rw [List.span_eq_takeWhile_dropWhile]
  have stays : rest.takeWhile test = [] ∧ rest.dropWhile test = rest := by
    cases rest with
    | nil => exact ⟨rfl, rfl⟩
    | cons c rest => simp [stops c rfl]
  rw [List.takeWhile_append_of_pos all, List.dropWhile_append_of_pos all, stays.1, stays.2,
    List.append_nil]

theorem allDigits_toDigits (n : Nat) : AllDigits (Nat.toDigits 10 n) :=
  fun _ member => Nat.isDigit_of_mem_toDigits (by decide) (by decide) member

theorem digitsValue_toDigits (n : Nat) : digitsValue (Nat.toDigits 10 n) = n :=
  Nat.ofDigitChars_ten_toDigits

theorem digitsValue_append (ds es : List Char) :
    digitsValue (ds ++ es) = 10 ^ es.length * digitsValue ds + digitsValue es :=
  (Nat.ofDigitChars_append 0).trans Nat.ofDigitChars_eq_ofDigitChars_zero

theorem digitsValue_zeros (n : Nat) : digitsValue (List.replicate n '0') = 0 :=
  Nat.ofDigitChars_replicate_zero.trans (Nat.mul_zero _)

/-- The digits of a positive number do not start with a zero. -/
theorem head?_toDigits {n : Nat} (positive : 0 < n) : (Nat.toDigits 10 n).head? ≠ some '0' := by
  induction n using Nat.strongRecOn with
  | _ n ih =>
    by_cases small : n < 10
    · rw [Nat.toDigits_of_lt_base small]
      simp [Nat.pos_iff_ne_zero.mp positive]
    · obtain ⟨c, cs, digits⟩ := List.exists_cons_of_ne_nil (Nat.toDigits_ne_nil (n := n / 10))
      have front := ih (n / 10) (by omega) (by omega)
      rw [Nat.toDigits_of_base_le (by decide) (Nat.not_lt.mp small)]
      rw [digits] at front ⊢
      exact front

theorem isDigit_bounds {c : Char} (digit : c.isDigit = true) : 48 ≤ c.toNat ∧ c.toNat ≤ 57 := by
  simpa [Char.isDigit, UInt32.le_iff_toNat_le] using digit

/-! ## Numbers in inputs -/

/-- A character that stands for itself in a number. -/
def isNumeralChar (c : Char) : Bool := c.toNat < 0x7f && !isNumberBlank c && c != '_'

theorem isNumeralChar_of_isDigit {c : Char} (digit : c.isDigit = true) :
    isNumeralChar c = true := by
  have bounds := isDigit_bounds digit
  have distinct : c ≠ '_' := by
    rintro rfl
    simp at bounds
  simp [isNumeralChar, isNumberBlank, isBlank, distinct]
  omega

namespace Numeral

theorem mapM_plain? {cs : List Char} (ascii : ∀ c ∈ cs, c.toNat < 0x7f) :
    cs.mapM plain? = some cs := by
  induction cs with
  | nil => rfl
  | cons c cs ih =>
    obtain ⟨here, later⟩ := List.forall_mem_cons.mp ascii
    rw [List.mapM_cons, plain?, if_pos here, ih later]
    rfl

theorem dropUnderscores?_eq {cs : List Char} (all : ∀ c ∈ cs, isNumeralChar c = true)
    (afterDigit : Bool) : dropUnderscores? afterDigit cs = some cs := by
  induction cs generalizing afterDigit with
  | nil => cases afterDigit <;> rfl
  | cons c cs ih =>
    obtain ⟨here, later⟩ := List.forall_mem_cons.mp all
    have distinct : c ≠ '_' := by
      rintro rfl
      simp [isNumeralChar] at here
    cases afterDigit <;> simp [dropUnderscores?, distinct, ih later]

theorem trimEnds_eq {cs : List Char} (all : ∀ c ∈ cs, isNumeralChar c = true) :
    trimEnds isNumberBlank cs = cs := by
  have stays : ∀ ds : List Char, (∀ c ∈ ds, c ∈ cs) → ds.dropWhile isNumberBlank = ds := by
    intro ds inside
    cases ds with
    | nil => rfl
    | cons c ds =>
      have here := all c (inside c List.mem_cons_self)
      simp only [isNumeralChar, Bool.and_eq_true, Bool.not_eq_true'] at here
      simp [here.1.2]
  rw [trimEnds, trimEnd, stays cs fun _ => id, stays cs.reverse fun _ => List.mem_reverse.mp,
    List.reverse_reverse]

theorem toNat_lt_of_isNumeralChar {c : Char} (plain : isNumeralChar c = true) : c.toNat < 0x7f := by
  simp only [isNumeralChar, Bool.and_eq_true, decide_eq_true_eq] at plain
  exact plain.1.1

/-- A text of such characters is read as it stands. -/
theorem plainText?_eq {cs : List Char} (all : ∀ c ∈ cs, isNumeralChar c = true) :
    plainText? (String.ofList cs) = some cs := by
  have ascii : ∀ c ∈ cs, c.toNat < 0x7f := fun c member => toNat_lt_of_isNumeralChar (all c member)
  simp [plainText?, mapM_plain? ascii, trimEnds_eq all, dropUnderscores?_eq all]

end Numeral

section

variable {t : DecimalText}

theorem fractionChars_eq {digits : List Char} (nonempty : digits ≠ []) :
    DecimalText.fractionChars digits = '.' :: digits := by
  cases digits with
  | nil => exact absurd rfl nonempty
  | cons d ds => rfl

/-- What follows the digits before the point does not start with a digit. -/
theorem stopsAt_tailChars {rest : List Char} (stops : StopsAt Char.isDigit rest) :
    StopsAt Char.isDigit (t.tailChars ++ rest) := by
  unfold DecimalText.tailChars DecimalText.fractionChars DecimalText.exponentChars
  split <;> split <;> first | exact stops | (rintro c ⟨⟩; rfl)

theorem stopsAt_exponentChars (exponent : Option (Bool × List Char)) {rest : List Char}
    (stops : StopsAt Char.isDigit rest) :
    StopsAt Char.isDigit (DecimalText.exponentChars exponent ++ rest) := by
  unfold DecimalText.exponentChars
  split <;> first | exact stops | (rintro c ⟨⟩; rfl)

theorem takeSign_unsigned {cs : List Char} (unsigned : ∀ c ∈ cs.head?, c ≠ '-' ∧ c ≠ '+') :
    Numeral.takeSign cs = (false, cs) := by
  unfold Numeral.takeSign
  split
  · exact absurd rfl (unsigned '-' rfl).1
  · exact absurd rfl (unsigned '+' rfl).2
  · rfl

theorem takeSign_digits {cs : List Char} (digit : ∀ c ∈ cs.head?, c.isDigit = true) :
    Numeral.takeSign cs = (false, cs) := by
  refine takeSign_unsigned fun c front => ⟨?_, ?_⟩ <;>
  · rintro rfl
    cases digit _ front

theorem takeSign_signChars {negative : Bool} {cs : List Char}
    (digit : ∀ c ∈ cs.head?, c.isDigit = true) :
    Numeral.takeSign (DecimalText.signChars negative ++ cs) = (negative, cs) := by
  cases negative with
  | true => rfl
  | false => exact takeSign_digits digit

theorem AllDigits.head? {cs : List Char} (all : AllDigits cs) (nonempty : cs ≠ [])
    (rest : List Char) :
    ∀ c ∈ (cs ++ rest).head?, c.isDigit = true := by
  obtain ⟨c, cs, rfl⟩ := List.exists_cons_of_ne_nil nonempty
  rintro c ⟨⟩
  exact all c List.mem_cons_self

theorem exponent?_exponentChars {negative : Bool} {digits : List Char} (all : AllDigits digits)
    (nonempty : digits ≠ []) :
    Numeral.exponent? ((if negative then '-' else '+') :: digits) =
      some (signedInt negative (digitsValue digits)) := by
  have every : digits.all Char.isDigit = true := List.all_eq_true.mpr all
  cases negative <;> simp [Numeral.exponent?, Numeral.takeSign, nonempty, every]

end

/-! ## Numerals in inputs -/

/-- A number that starts with a digit has none of the names of numbers. -/
theorem lowered_ne {cs : List Char} (digit : ∀ c ∈ cs.head?, c.isDigit = true) (name : String)
    (letter : ∃ c ∈ name.toList.head?, c.isDigit = false) :
    String.ofList (cs.map Char.toLower) ≠ name := by
  rintro rfl
  obtain ⟨c, first, letter⟩ := letter
  rw [String.toList_ofList, List.head?_map] at first
  obtain ⟨d, front, rfl⟩ := Option.map_eq_some_iff.mp first
  have digit := digit d front
  have lower : d.toLower = d := by
    have bounds : d.val.toNat ≤ 57 := (isDigit_bounds digit).2
    have notUpper : ¬(d.val ≥ 'A'.val ∧ d.val ≤ 'Z'.val) := by
      rintro ⟨low, -⟩
      have low : 65 ≤ d.val.toNat := UInt32.le_iff_toNat_le.mp low
      omega
    exact dif_neg notUpper
  rw [lower, digit] at letter
  cases letter

/-- What is taken for a sign is one or nothing, and it is a sign in front of any digits. -/
theorem takeSign_append (cs : List Char) :
    ∃ sign : List Char, (∀ c ∈ sign, c ∈ ['-', '+']) ∧ cs = sign ++ (Numeral.takeSign cs).2 ∧
      ∀ digits, AllDigits digits →
        Numeral.takeSign (sign ++ digits) = ((Numeral.takeSign cs).1, digits) := by
  unfold Numeral.takeSign
  split
  · exact ⟨['-'], by simp, rfl, fun _ _ => rfl⟩
  · exact ⟨['+'], by simp, rfl, fun _ _ => rfl⟩
  · refine ⟨[], by simp, rfl, fun digits all => ?_⟩
    exact takeSign_digits fun c front => all c (List.mem_of_mem_head? front)

theorem exponent?_eq_some {cs : List Char} {exponent : Int} :
    Numeral.exponent? cs = some exponent ↔
      AllDigits (Numeral.takeSign cs).2 ∧ (Numeral.takeSign cs).2 ≠ [] ∧
        signedInt (Numeral.takeSign cs).1 (digitsValue (Numeral.takeSign cs).2) = exponent := by
  unfold Numeral.exponent?
  generalize Numeral.takeSign cs = taken
  obtain ⟨negative, digits⟩ := taken
  dsimp only
  split
  · rename_i other
    simp only [Bool.or_eq_true, List.isEmpty_iff, Bool.not_eq_true', List.all_eq_false] at other
    refine iff_of_false (by simp) fun ⟨all, nonempty, _⟩ => ?_
    rcases other with empty | ⟨c, member, letter⟩
    · exact nonempty empty
    · exact letter (all c member)
  · rename_i number
    simp only [Bool.or_eq_true, List.isEmpty_iff, Bool.not_eq_true', not_or,
      Bool.not_eq_false] at number
    have all : AllDigits digits := List.all_eq_true.mp number.2
    simp [all, number.1]

namespace SpellsExponent

variable {text : List Char} {exponent : Int}

theorem stopsAt (spelled : SpellsExponent text exponent) : StopsAt Char.isDigit text := by
  cases spelled with
  | nothing => exact fun _ front => nomatch front
  | marked either _ =>
    rintro c ⟨⟩
    rcases either with rfl | rfl <;> rfl

/-- What holds of digits and of the marks in a numeral holds of all characters of an exponent. -/
theorem forall_mem {holds : Char → Prop} (digit : ∀ c, c.isDigit = true → holds c)
    (mark : ∀ c ∈ ['-', '+', '.', 'e', 'E'], holds c) (spelled : SpellsExponent text exponent) :
    ∀ c ∈ text, holds c := by
  cases spelled with
  | nothing => exact fun _ member => nomatch member
  | @marked letter cs _ either read =>
    obtain ⟨digits, -, -⟩ := exponent?_eq_some.mp read
    obtain ⟨sign, signs, same, -⟩ := takeSign_append cs
    refine List.forall_mem_cons.mpr ⟨mark letter (by rcases either with rfl | rfl <;> simp), ?_⟩
    rw [same]
    exact List.forall_mem_append.mpr
      ⟨fun c member => mark c (List.mem_append_left ['.', 'e', 'E'] (signs c member)),
        fun c member => digit c (digits c member)⟩

theorem exists_letter (spelled : SpellsExponent text exponent) (nonempty : text ≠ []) :
    ∃ c ∈ text, c.isDigit = false := by
  cases spelled with
  | nothing => exact absurd rfl nonempty
  | marked either _ =>
    refine ⟨_, List.mem_cons_self, ?_⟩
    rcases either with rfl | rfl <;> rfl

end SpellsExponent

section

variable {n : Numeral} {exponent : List Char}

/-- A text without its sign is read as its numeral. -/
theorem unsigned?_spelled (spelled : n.SpelledWith exponent) :
    Numeral.unsigned? n.negative
      (n.whole ++ (DecimalText.fractionChars n.fraction ++ exponent)) = some n := by
  obtain ⟨negative, whole, fraction, value⟩ := n
  have stops := spelled.exponent.stopsAt
  have nonempty : whole ≠ [] := spelled.nonempty
  have behind : StopsAt Char.isDigit (DecimalText.fractionChars fraction ++ exponent) := by
    cases fraction with
    | nil => exact stops
    | cons d ds =>
      rintro c ⟨⟩
      rfl
  have wholeRead : (whole ++ (DecimalText.fractionChars fraction ++ exponent)).span Char.isDigit =
      (whole, DecimalText.fractionChars fraction ++ exponent) := span_eq spelled.whole behind
  have fractionRead : (fraction ++ exponent).span Char.isDigit = (fraction, exponent) :=
    span_eq spelled.fraction stops
  simp only [Numeral.unsigned?, wholeRead]
  cases fraction with
  | nil =>
    cases spelled.exponent with
    | nothing => simp [DecimalText.fractionChars, nonempty]
    | marked either read =>
      rcases either with rfl | rfl <;> simp [DecimalText.fractionChars, nonempty, read]
  | cons d ds =>
    simp only [DecimalText.fractionChars, List.cons_append] at fractionRead ⊢
    simp only [fractionRead]
    cases spelled.exponent with
    | nothing => simp
    | marked either read => rcases either with rfl | rfl <;> simp [read]

/-- What holds of digits and of the marks in a numeral holds of all characters of one. -/
theorem forall_mem_chars {holds : Char → Prop} (digit : ∀ c, c.isDigit = true → holds c)
    (mark : ∀ c ∈ ['-', '+', '.', 'e', 'E'], holds c) (spelled : n.SpelledWith exponent) :
    ∀ c ∈ n.chars exponent, holds c := by
  have digits {cs : List Char} (all : AllDigits cs) : ∀ c ∈ cs, holds c :=
    fun c member => digit c (all c member)
  refine List.forall_mem_append.mpr ⟨?_, List.forall_mem_append.mpr ⟨digits spelled.whole,
    List.forall_mem_append.mpr ⟨?_, ?_⟩⟩⟩
  · cases n.negative with
    | false => exact List.forall_mem_nil _
    | true => exact List.forall_mem_singleton.mpr (mark '-' (by simp))
  · unfold DecimalText.fractionChars
    split
    · exact fun _ member => nomatch member
    · exact List.forall_mem_cons.mpr ⟨mark '.' (by simp), digits spelled.fraction⟩
  · exact spelled.exponent.forall_mem digit mark

theorem chars_areNumeralChars (spelled : n.SpelledWith exponent) :
    ∀ c ∈ n.chars exponent, isNumeralChar c = true :=
  forall_mem_chars (fun _ => isNumeralChar_of_isDigit) (List.all_eq_true.mp (by decide)) spelled

theorem plainText?_spelled (spelled : n.SpelledWith exponent) :
    Numeral.plainText? (String.ofList (n.chars exponent)) = some (n.chars exponent) :=
  Numeral.plainText?_eq (chars_areNumeralChars spelled)

theorem takeSign_spelled (spelled : n.SpelledWith exponent) :
    Numeral.takeSign (n.chars exponent) =
      (n.negative, n.whole ++ (DecimalText.fractionChars n.fraction ++ exponent)) :=
  takeSign_signChars (spelled.whole.head? spelled.nonempty _)

/-- The text of a numeral is read as a floating point number. -/
theorem floating?_spelled (spelled : n.SpelledWith exponent) :
    floating? (String.ofList (n.chars exponent)) = some n.toBinary64 := by
  have digit := spelled.whole.head? spelled.nonempty
    (DecimalText.fractionChars n.fraction ++ exponent)
  have inf := lowered_ne digit "inf" ⟨'i', rfl, rfl⟩
  have infinity := lowered_ne digit "infinity" ⟨'i', rfl, rfl⟩
  have nan := lowered_ne digit "nan" ⟨'n', rfl, rfl⟩
  simp only [floating?, plainText?_spelled spelled, Option.bind_eq_bind, Option.bind_some,
    takeSign_spelled spelled]
  rw [unsigned?_spelled spelled, Option.map_some]

/-- A text of nothing but digits is read as a whole number. -/
theorem integer?_spelled (spelled : n.SpelledWith []) (noFraction : n.fraction = [])
    (short : n.whole.length ≤ maxDigits) :
    integer? (String.ofList (n.chars [])) =
      some (signedInt n.negative (digitsValue n.whole)) := by
  have digits : n.whole.all Char.isDigit = true := List.all_eq_true.mpr spelled.whole
  simp only [integer?, plainText?_spelled spelled, Option.bind_eq_bind, Option.bind_some,
    takeSign_spelled spelled, noFraction, DecimalText.fractionChars, List.append_nil]
  simp [spelled.nonempty, digits, Nat.not_lt.mpr short]

/-- A text with a fraction or an exponent is none of a whole number. -/
theorem integer?_spelled_notWhole (spelled : n.SpelledWith exponent)
    (notWhole : n.fraction ≠ [] ∨ exponent ≠ []) :
    integer? (String.ofList (n.chars exponent)) = none := by
  obtain ⟨c, inside, letter⟩ : ∃ c ∈ n.whole ++ (DecimalText.fractionChars n.fraction ++ exponent),
      c.isDigit = false := by
    rcases notWhole with fraction | marked
    · obtain ⟨d, ds, fraction⟩ := List.exists_cons_of_ne_nil fraction
      exact ⟨'.', by simp [fraction, DecimalText.fractionChars], rfl⟩
    · obtain ⟨c, member, letter⟩ := spelled.exponent.exists_letter marked
      exact ⟨c, by simp [member], letter⟩
  have mixed : (n.whole ++ (DecimalText.fractionChars n.fraction ++ exponent)).all Char.isDigit =
      false := List.all_eq_false.mpr ⟨c, inside, by simp [letter]⟩
  simp only [integer?, plainText?_spelled spelled, Option.bind_eq_bind, Option.bind_some,
    takeSign_spelled spelled, mixed]
  simp

end

/-! ## Decimal texts in inputs -/

section

variable {t : DecimalText}

theorem chars_eq (t : DecimalText) :
    t.chars = t.toNumeral.chars (DecimalText.exponentChars t.exponent) := by
  simp [DecimalText.chars, DecimalText.tailChars, Numeral.chars, DecimalText.toNumeral]

theorem DecimalText.Proper.spelledWith (proper : t.Proper) :
    t.toNumeral.SpelledWith (DecimalText.exponentChars t.exponent) where
  whole := proper.whole
  nonempty := proper.nonempty
  fraction := proper.fraction
  exponent := by
    obtain ⟨negative, whole, fraction, exponent⟩ := t
    cases exponent with
    | none => exact .nothing
    | some e =>
      obtain ⟨digits, some⟩ := proper.exponent e rfl
      exact .marked (.inl rfl) (exponent?_exponentChars digits some)

/-- A decimal text is read as a floating point number. -/
theorem floating?_chars (proper : t.Proper) :
    floating? (String.ofList t.chars) = some t.toNumeral.toBinary64 := by
  rw [chars_eq]
  exact floating?_spelled proper.spelledWith

theorem integer?_whole {negative : Bool} {whole : List Char}
    (proper : (⟨negative, whole, [], none⟩ : DecimalText).Proper)
    (short : whole.length ≤ maxDigits) :
    integer? (String.ofList (DecimalText.chars ⟨negative, whole, [], none⟩)) =
      some (signedInt negative (digitsValue whole)) := by
  rw [chars_eq]
  exact integer?_spelled proper.spelledWith rfl short

theorem integer?_notWhole (proper : t.Proper) (notWhole : t.isWhole = false) :
    integer? (String.ofList t.chars) = none := by
  rw [chars_eq]
  refine integer?_spelled_notWhole proper.spelledWith ?_
  obtain ⟨negative, whole, fraction, exponent⟩ := t
  cases fraction <;> cases exponent <;>
    simp_all [DecimalText.toNumeral, DecimalText.exponentChars, DecimalText.isWhole]

/-- What holds of digits and of the four marks holds of every character of a decimal text. -/
theorem forall_chars {P : Char → Prop} (digit : ∀ c : Char, c.isDigit = true → P c)
    (marks : ∀ c ∈ ['-', '+', '.', 'e'], P c) (proper : t.Proper) : ∀ c ∈ t.chars, P c := by
  have digits : ∀ {cs : List Char}, AllDigits cs → ∀ c ∈ cs, P c :=
    fun all c member => digit c (all c member)
  refine List.forall_mem_append.mpr ⟨List.forall_mem_append.mpr ⟨?_, digits proper.whole⟩,
    List.forall_mem_append.mpr ⟨?_, ?_⟩⟩
  · cases t.negative with
    | true => exact List.forall_mem_singleton.mpr (marks _ (by decide))
    | false => exact fun _ member => nomatch member
  · unfold DecimalText.fractionChars
    split
    · exact fun _ member => nomatch member
    · exact List.forall_mem_cons.mpr ⟨marks _ (by decide), digits proper.fraction⟩
  · unfold DecimalText.exponentChars
    split
    · exact fun _ member => nomatch member
    · rename_i negative ds given
      refine List.forall_mem_cons.mpr ⟨marks _ (by decide), List.forall_mem_cons.mpr ⟨?_, ?_⟩⟩
      · cases negative <;> exact marks _ (by decide)
      · exact digits (proper.exponent _ given).1

/-! ## Numbers in JSON -/

namespace Json

/-- What may follow a value inside another: nothing, a blank, a comma or a closing bracket. -/
def endsValue (c : Char) : Bool := isJsonBlank c || c == ',' || c == ']' || c == '\x7d'

theorem not_isDigit_of_endsValue {rest : List Char} (ends : StopsAt (fun c => !endsValue c) rest) :
    StopsAt Char.isDigit rest := by
  intro c front
  have here := ends c front
  simp only [endsValue, isJsonBlank, Bool.not_eq_false', Bool.or_eq_true, beq_iff_eq] at here
  rcases here with (((((rfl | rfl) | rfl) | rfl) | rfl) | rfl) | rfl <;> rfl

theorem takeFraction_end {rest : List Char} (ends : StopsAt (fun c => !endsValue c) rest) :
    takeFraction rest = none := by
  cases rest with
  | nil => rfl
  | cons c rest =>
    have here := ends c rfl
    unfold takeFraction
    split
    · rename_i same
      obtain ⟨rfl, -⟩ := List.cons.inj same
      cases here
    · rfl

theorem takeExponent_end {rest : List Char} (ends : StopsAt (fun c => !endsValue c) rest) :
    takeExponent rest = none := by
  cases rest with
  | nil => rfl
  | cons c rest =>
    have here := ends c rfl
    simp only [endsValue, isJsonBlank, Bool.not_eq_false', Bool.or_eq_true, beq_iff_eq] at here
    rcases here with (((((rfl | rfl) | rfl) | rfl) | rfl) | rfl) | rfl <;> rfl

theorem takeExponent_exponentChars {negative : Bool} {digits rest : List Char}
    (all : AllDigits digits) (nonempty : digits ≠ []) (stops : StopsAt Char.isDigit rest) :
    takeExponent (DecimalText.exponentChars (some (negative, digits)) ++ rest) =
      some (signedInt negative (digitsValue digits), rest) := by
  have read : takeDigits (digits ++ rest) = (digits, rest) := span_eq all stops
  cases negative <;>
    simp [DecimalText.exponentChars, takeExponent, Numeral.takeSign, read, nonempty]

theorem takeFraction_fractionChars {digits rest : List Char} (all : AllDigits digits)
    (nonempty : digits ≠ []) (stops : StopsAt Char.isDigit rest) :
    takeFraction (DecimalText.fractionChars digits ++ rest) = some (digits, rest) := by
  obtain ⟨d, ds, rfl⟩ := List.exists_cons_of_ne_nil nonempty
  have read : takeDigits (d :: (ds ++ rest)) = (d :: ds, rest) := span_eq all stops
  simp [DecimalText.fractionChars, takeFraction, read]

theorem takeWhole_eq {rest : List Char} (proper : t.Proper) (stops : StopsAt Char.isDigit rest) :
    takeWhole (t.whole ++ rest) = (t.whole, rest) := by
  unfold takeWhole
  split
  · rename_i rest' starts
    have front : t.whole.head? = some '0' := by
      obtain ⟨c, cs, whole⟩ := List.exists_cons_of_ne_nil proper.nonempty
      rw [whole] at starts ⊢
      exact congrArg some (List.cons.inj starts).1
    rw [proper.noLeadingZero front] at starts ⊢
    exact Prod.ext rfl (List.cons.inj starts).2.symm
  · exact span_eq proper.whole stops

theorem takeMinus_chars (proper : t.Proper) (rest : List Char) :
    takeMinus (t.chars ++ rest) = (t.negative, t.whole ++ (t.tailChars ++ rest)) := by
  obtain ⟨c, cs, whole⟩ := List.exists_cons_of_ne_nil proper.nonempty
  have digit := proper.whole c (whole ▸ List.mem_cons_self)
  obtain ⟨negative, _, fraction, exponent⟩ := t
  cases negative with
  | true => simp [DecimalText.chars, DecimalText.signChars, takeMinus]
  | false =>
    subst whole
    simp only [DecimalText.chars, DecimalText.signChars, Bool.false_eq_true, if_false,
      List.nil_append, List.append_assoc, List.cons_append]
    unfold takeMinus
    split
    · simp_all
    · rfl

/-- A decimal text with something behind it is read as its number, and no further. -/
theorem readNumber_chars (proper : t.Proper) {rest : List Char}
    (ends : StopsAt (fun c => !endsValue c) rest) (notWhole : t.isWhole = false) :
    readNumber (t.chars ++ rest) = .ok (.float t.toNumeral.toBinary64, rest) := by
  have stops := not_isDigit_of_endsValue ends
  have signed := takeMinus_chars proper rest
  have wholeRead := takeWhole_eq proper (stopsAt_tailChars (t := t) stops)
  have nonempty := proper.nonempty
  simp only [readNumber, signed, wholeRead]
  obtain ⟨negative, whole, fraction, exponent⟩ := t
  cases fraction with
  | nil =>
    cases exponent with
    | none => cases notWhole
    | some e =>
      obtain ⟨digits, some⟩ := proper.exponent e rfl
      have noFraction : takeFraction (DecimalText.exponentChars (.some e) ++ rest) = none := rfl
      simp_all [DecimalText.tailChars, DecimalText.fractionChars, DecimalText.toNumeral,
        takeExponent_exponentChars digits some stops]
  | cons d ds =>
    have fractionRead := takeFraction_fractionChars proper.fraction (List.cons_ne_nil d ds)
      (stopsAt_exponentChars exponent stops)
    cases exponent with
    | none =>
      simp_all [DecimalText.tailChars, DecimalText.exponentChars, DecimalText.toNumeral,
        takeExponent_end ends]
    | some e =>
      obtain ⟨digits, some⟩ := proper.exponent e rfl
      simp_all [DecimalText.tailChars, DecimalText.toNumeral,
        takeExponent_exponentChars digits some stops]

theorem readNumber_whole {negative : Bool} {whole rest : List Char}
    (proper : (⟨negative, whole, [], none⟩ : DecimalText).Proper)
    (ends : StopsAt (fun c => !endsValue c) rest) (short : whole.length ≤ maxDigits) :
    readNumber (DecimalText.chars ⟨negative, whole, [], none⟩ ++ rest) =
      .ok (.int (signedInt negative (digitsValue whole)), rest) := by
  have nonempty : whole ≠ [] := proper.nonempty
  have signed := takeMinus_chars proper rest
  have wholeRead := takeWhole_eq proper (stopsAt_tailChars (t := ⟨negative, whole, [], none⟩)
    (not_isDigit_of_endsValue ends))
  simp only [readNumber, signed, wholeRead]
  simp [DecimalText.tailChars, DecimalText.fractionChars, DecimalText.exponentChars, nonempty,
    takeFraction_end ends, takeExponent_end ends, Nat.not_lt.mpr short]

end Json

end

end ServiceClient

import ServiceClient.Proofs.JsonReading

/-!
JSON texts by the standard, RFC 8259. `IsStandard` has the rules of its grammar, one constructor for
each. Whatever is written on one line follows them as long as its numbers are finite: a number that
is not gets a name, and the names of numbers start with letters that the grammar does not have
outside of strings. So what is written is standard if and only if every number in it is finite
(`writeAt_isStandard_iff`).
-/

namespace ServiceClient

/-- Whether a value, if it is a number, is a finite one: neither infinite nor not a number. -/
def Value.isFinite : Value → Bool
  | float x => x.dyadic?.isSome
  | _ => true

namespace Json

/-! ## The grammar -/

/-- One digit or more. -/
def IsDigits (cs : List Char) : Prop := AllDigits cs ∧ cs ≠ []

/-- The digits before the point, among which no zero stands before another digit. -/
inductive IsWhole : List Char → Prop
  | zero : IsWhole ['0']
  | positive {d : Char} {ds : List Char} (digit : d.isDigit = true) (nonzero : d ≠ '0')
      (digits : AllDigits ds) : IsWhole (d :: ds)

inductive IsFraction : List Char → Prop
  | nothing : IsFraction []
  | digits {ds : List Char} (digits : IsDigits ds) : IsFraction ('.' :: ds)

inductive IsExponent : List Char → Prop
  | nothing : IsExponent []
  | marked {mark : Char} {sign ds : List Char} (either : mark = 'e' ∨ mark = 'E')
      (signed : sign = [] ∨ sign = ['-'] ∨ sign = ['+']) (digits : IsDigits ds) :
      IsExponent (mark :: (sign ++ ds))

inductive IsNumber : List Char → Prop
  | parts {sign whole fraction exponent : List Char} (signed : sign = [] ∨ sign = ['-'])
      (isWhole : IsWhole whole) (isFraction : IsFraction fraction)
      (isExponent : IsExponent exponent) : IsNumber (sign ++ (whole ++ (fraction ++ exponent)))

/-- The characters that may follow a backslash, apart from the mark of a unit. -/
def escapes : List Char := ['"', '\\', '/', 'b', 'f', 'n', 'r', 't']

/-- The text of a character in a string, or of half a surrogate pair. -/
inductive IsSpelled : List Char → Prop
  | plain {c : Char} (shown : 0x20 ≤ c.toNat) (noQuote : c ≠ '"') (noBackslash : c ≠ '\\') :
      IsSpelled [c]
  | escaped {c : Char} (listed : c ∈ escapes) : IsSpelled ['\\', c]
  | unit {ds : List Char} (four : ds.length = 4) (digits : ∀ d ∈ ds, (hexDigit? d).isSome) :
      IsSpelled ('\\' :: 'u' :: ds)

inductive IsString : List Char → Prop
  | quoted {spelled : List (List Char)} (all : ∀ cs ∈ spelled, IsSpelled cs) :
      IsString ('"' :: (spelled.flatten ++ ['"']))

def literals : List (List Char) := ["null".toList, "true".toList, "false".toList]

/-- What stands between the brackets of a text: a value, a value with blanks around it, or a member
of an object. -/
inductive Part
  | value
  | element
  | member

inductive IsPart : Part → List Char → Prop
  | literal {cs : List Char} (listed : cs ∈ literals) : IsPart .value cs
  | number {cs : List Char} (isNumber : IsNumber cs) : IsPart .value cs
  | string {cs : List Char} (isString : IsString cs) : IsPart .value cs
  | emptyArray {blanks : List Char} (blank : AllBlank blanks) :
      IsPart .value ('[' :: (blanks ++ [']']))
  | array {elements : List (List Char)} (some : elements ≠ [])
      (all : ∀ cs ∈ elements, IsPart .element cs) :
      IsPart .value ('[' :: ([','].intercalate elements ++ [']']))
  | emptyObject {blanks : List Char} (blank : AllBlank blanks) :
      IsPart .value ('\x7b' :: (blanks ++ ['\x7d']))
  | object {members : List (List Char)} (some : members ≠ [])
      (all : ∀ cs ∈ members, IsPart .member cs) :
      IsPart .value ('\x7b' :: ([','].intercalate members ++ ['\x7d']))
  | element {before cs after : List Char} (blankBefore : AllBlank before)
      (isValue : IsPart .value cs) (blankAfter : AllBlank after) :
      IsPart .element (before ++ (cs ++ after))
  | member {before key after cs : List Char} (blankBefore : AllBlank before)
      (isKey : IsString key) (blankAfter : AllBlank after) (isElement : IsPart .element cs) :
      IsPart .member (before ++ (key ++ (after ++ ':' :: cs)))

/-- A text is one value of JSON with blanks around it. -/
def IsStandard (text : String) : Prop := IsPart .element text.toList

/-! ## Writing -/

theorem allBlank_nil : AllBlank [] := List.forall_mem_nil _

theorem element_of_value {cs : List Char} (isValue : IsPart .value cs) : IsPart .element cs := by
  simpa using IsPart.element allBlank_nil isValue allBlank_nil

/-- A decimal text is a number of the grammar. -/
theorem chars_isNumber {t : DecimalText} (proper : t.Proper) : IsNumber t.chars := by
  have signed : DecimalText.signChars t.negative = [] ∨
      DecimalText.signChars t.negative = ['-'] := by
    cases t.negative
    · exact .inl rfl
    · exact .inr rfl
  have isWhole : IsWhole t.whole := by
    obtain ⟨d, ds, split⟩ := List.exists_cons_of_ne_nil proper.nonempty
    have digits := List.forall_mem_cons.mp (split ▸ proper.whole)
    by_cases zero : d = '0'
    · have single := proper.noLeadingZero (by rw [split, zero, List.head?_cons])
      exact single ▸ .zero
    · exact split ▸ .positive digits.1 zero digits.2
  have isFraction : IsFraction (DecimalText.fractionChars t.fraction) := by
    cases split : t.fraction with
    | nil => exact .nothing
    | cons d ds => exact .digits ⟨split ▸ proper.fraction, List.cons_ne_nil d ds⟩
  have isExponent : IsExponent (DecimalText.exponentChars t.exponent) := by
    cases power : t.exponent with
    | none => exact .nothing
    | some e =>
      obtain ⟨negative, ds⟩ := e
      have digits : IsDigits ds := proper.exponent (negative, ds) power
      cases negative with
      | true => exact .marked (.inl rfl) (.inr (.inl rfl)) digits
      | false => exact .marked (.inl rfl) (.inr (.inr rfl)) digits
  have number := IsNumber.parts signed isWhole isFraction isExponent
  rwa [← List.append_assoc] at number

/-- The spelling of a character is one escape or two, or the character itself. -/
theorem spell_isSpelled (c : Char) :
    ∃ spelled : List (List Char), spell c = spelled.flatten ∧ ∀ cs ∈ spelled, IsSpelled cs := by
  have single {cs : List Char} (isSpelled : IsSpelled cs) :
      ∃ spelled : List (List Char), cs = spelled.flatten ∧ ∀ cs ∈ spelled, IsSpelled cs :=
    ⟨[cs], by simp, List.forall_mem_singleton.mpr isSpelled⟩
  unfold spell
  split
  · exact single (.escaped (by decide))
  split
  · exact single (.escaped (by decide))
  iterate 5
    split
    · exact single (.escaped (by decide))
  split
  · rename_i noQuote noBackslash _ _ _ _ _ printable
    have shown : 0x20 ≤ c.toNat := by simp_all
    exact single (.plain shown noQuote noBackslash)
  · refine ⟨(utf16Units c.toNat).map fun unit => '\\' :: 'u' :: hexDigits 4 unit, ?_, ?_⟩
    · rw [List.flatMap_def]
    · refine List.forall_mem_map.mpr ?_
      intro unit _
      refine .unit (length_hexDigits 4 unit) (forall_hexDigits ?_ 4 unit)
      intro d small
      rw [hexDigit?_digitChar d small]
      rfl

theorem writeString_isString (s : String) : IsString (writeString s) := by
  obtain ⟨spelled, same, all⟩ : ∃ spelled : List (List Char),
      s.toList.flatMap spell = spelled.flatten ∧ ∀ cs ∈ spelled, IsSpelled cs := by
    induction s.toList with
    | nil => exact ⟨[], rfl, List.forall_mem_nil _⟩
    | cons c cs ih =>
      obtain ⟨first, sameFirst, allFirst⟩ := spell_isSpelled c
      obtain ⟨later, sameLater, allLater⟩ := ih
      refine ⟨first ++ later, ?_, List.forall_mem_append.mpr ⟨allFirst, allLater⟩⟩
      rw [List.flatMap_cons, sameFirst, sameLater, List.flatten_append]
  rw [writeString, same]
  exact .quoted all

/-- The blank behind a comma belongs to the element that follows. -/
theorem intercalate_comma (text : List Char) (texts : List (List Char)) :
    [',', ' '].intercalate (text :: texts) =
      [','].intercalate (text :: texts.map (' ' :: ·)) := by
  induction texts generalizing text with
  | nil => rfl
  | cons next texts ih =>
    rw [List.map_cons, List.intercalate_cons_of_ne_nil (List.cons_ne_nil _ _), ih,
      List.intercalate_cons_of_ne_nil (List.cons_ne_nil _ _)]
    cases texts <;> simp [List.intercalate_cons_of_ne_nil]

/-- Between brackets, too, the blank behind each comma belongs to the text that follows. -/
theorem enclose_eq {depth : Nat} {left right : Char} (text : List Char)
    (texts : List (List Char)) :
    enclose .oneLine depth left right (text :: texts) =
      left :: ([','].intercalate (text :: texts.map (' ' :: ·)) ++ [right]) := by
  rw [enclose_cons, ← intercalate_comma]
  rfl

theorem forall_spaced {part : Part} {text : List Char} {texts : List (List Char)}
    (spaced : ∀ {cs}, IsPart part cs → IsPart part (' ' :: cs))
    (all : ∀ cs ∈ text :: texts, IsPart part cs) :
    ∀ cs ∈ text :: texts.map (' ' :: ·), IsPart part cs := by
  obtain ⟨first, later⟩ := List.forall_mem_cons.mp all
  refine List.forall_mem_cons.mpr ⟨first, List.forall_mem_map.mpr ?_⟩
  intro cs member
  exact spaced (later cs member)

theorem element_spaced {cs : List Char} (isElement : IsPart .element cs) :
    IsPart .element (' ' :: cs) := by
  cases isElement with
  | element blankBefore isValue blankAfter =>
    exact .element (List.forall_mem_cons.mpr ⟨rfl, blankBefore⟩) isValue blankAfter

theorem member_spaced {cs : List Char} (isMember : IsPart .member cs) :
    IsPart .member (' ' :: cs) := by
  cases isMember with
  | member blankBefore isKey blankAfter isElement =>
    exact .member (List.forall_mem_cons.mpr ⟨rfl, blankBefore⟩) isKey blankAfter isElement

theorem enclosed_elements {depth : Nat} {texts : List (List Char)}
    (all : ∀ cs ∈ texts, IsPart .element cs) :
    IsPart .value (enclose .oneLine depth '[' ']' texts) := by
  cases texts with
  | nil => exact .emptyArray allBlank_nil
  | cons text texts =>
    rw [enclose_eq]
    exact .array (List.cons_ne_nil _ _) (forall_spaced element_spaced all)

theorem enclosed_members {depth : Nat} {texts : List (List Char)}
    (all : ∀ cs ∈ texts, IsPart .member cs) :
    IsPart .value (enclose .oneLine depth '\x7b' '\x7d' texts) := by
  cases texts with
  | nil => exact .emptyObject allBlank_nil
  | cons text texts =>
    rw [enclose_eq]
    exact .object (List.cons_ne_nil _ _) (forall_spaced member_spaced all)

/-- What is written of a value whose numbers are all finite is a value of JSON. -/
theorem writeAt_isValue (v : Value) : ∀ {depth : Nat} {text : List Char},
    v.everywhere Value.isFinite = true → writeAt .oneLine depth v = .ok text →
      IsPart .value text := by
  induction v using Value.partsInduction with
  | leaf v leaf =>
    intro depth text finite written
    cases v with
    | null =>
      obtain rfl := Except.ok.inj written
      exact .literal (by decide)
    | bool b =>
      obtain rfl := Except.ok.inj written
      cases b <;> exact .literal (by decide)
    | int n =>
      obtain ⟨rfl, -⟩ := writeInt_eq_ok written
      exact .number (chars_isNumber (integerText_proper n))
    | float x =>
      obtain rfl := Except.ok.inj written
      obtain ⟨value, exact⟩ := Option.isSome_iff_exists.mp (Value.everywhere_here finite)
      obtain ⟨t, proper, -, same, -⟩ := writeFloat_chars exact
      exact .number (same ▸ chars_isNumber proper)
    | string s =>
      obtain rfl := Except.ok.inj written
      exact .string (writeString_isString s)
    | absent | typeObject _ => cases written
    | list _ | tuple _ | object _ | record _ _ => cases leaf
  | list items ih =>
    intro depth text finite written
    obtain ⟨-, inside⟩ := Value.everywhere_list.mp finite
    obtain ⟨texts, all, rfl⟩ := writeAt_list_eq_ok.mp written
    apply enclosed_elements
    intro text listed
    obtain ⟨v, item, here⟩ := forall₂_mem_right all listed
    exact element_of_value (ih v item (inside v item) here)
  | tuple items ih =>
    intro depth text finite written
    obtain ⟨-, inside⟩ := Value.everywhere_tuple.mp finite
    obtain ⟨texts, all, rfl⟩ := writeAt_tuple_eq_ok.mp written
    apply enclosed_elements
    intro text listed
    obtain ⟨v, item, here⟩ := forall₂_mem_right all listed
    exact element_of_value (ih v item (inside v item) here)
  | object entries ih =>
    intro depth text finite written
    obtain ⟨-, inside⟩ := Value.everywhere_object.mp finite
    obtain ⟨texts, all, rfl⟩ := writeAt_object_eq_ok.mp written
    apply enclosed_members
    intro text listed
    obtain ⟨e, entry, value, here, rfl⟩ := forall₂_mem_right all listed
    have isValue := ih e entry (inside e entry) here
    exact .member allBlank_nil (writeString_isString e.1) allBlank_nil
      (element_spaced (element_of_value isValue))
  | record type values ih =>
    intro depth text finite written
    cases written

/-! ## Names of numbers -/

/-- Where a scan of a text stands: outside of its strings, inside one, or behind a backslash. -/
inductive Place
  | outside
  | inside
  | escaped

/-- Whether outside of the strings of a text there is a letter that the names of numbers start
with. -/
def namesNumber : Place → List Char → Bool
  | _, [] => false
  | .outside, c :: cs =>
    if c = '"' then namesNumber .inside cs
    else c == 'N' || c == 'I' || namesNumber .outside cs
  | .inside, c :: cs =>
    namesNumber (if c = '"' then .outside else if c = '\\' then .escaped else .inside) cs
  | .escaped, _ :: cs => namesNumber .inside cs

/-- A stretch of a text that starts and ends outside of strings, and whether there is such a letter
in it. -/
def Scans (cs : List Char) (named : Bool) : Prop :=
  ∀ rest, namesNumber .outside (cs ++ rest) = (named || namesNumber .outside rest)

theorem Scans.append {cs cs' : List Char} {named named' : Bool} (first : Scans cs named)
    (second : Scans cs' named') : Scans (cs ++ cs') (named || named') := by
  intro rest
  rw [List.append_assoc, first, second, Bool.or_assoc]

/-- A character that neither starts a string nor names a number. -/
def isPlain (c : Char) : Bool := c != '"' && c != 'N' && c != 'I'

theorem scans_plain {cs : List Char} (plain : ∀ c ∈ cs, isPlain c = true) : Scans cs false := by
  intro rest
  induction cs with
  | nil => rfl
  | cons c cs ih =>
    obtain ⟨here, later⟩ := List.forall_mem_cons.mp plain
    simp only [isPlain, Bool.and_eq_true, bne_iff_ne] at here
    obtain ⟨⟨noQuote, noN⟩, noI⟩ := here
    rw [List.cons_append, namesNumber, if_neg noQuote, ih later, beq_eq_false_iff_ne.mpr noN,
      beq_eq_false_iff_ne.mpr noI, Bool.false_or, Bool.false_or]

theorem isPlain_of_isDigit {c : Char} (digit : c.isDigit = true) : isPlain c = true := by
  simp only [isPlain, Bool.and_eq_true, bne_iff_ne]
  refine ⟨⟨?_, ?_⟩, ?_⟩ <;>
  · rintro rfl
    cases digit

theorem allBlank_plain {cs : List Char} (blank : AllBlank cs) : ∀ c ∈ cs, isPlain c = true := by
  intro c member
  have blank := blank c member
  simp only [isPlain, Bool.and_eq_true, bne_iff_ne]
  refine ⟨⟨?_, ?_⟩, ?_⟩ <;>
  · rintro rfl
    cases blank

theorem allDigits_plain {cs : List Char} (digits : AllDigits cs) : ∀ c ∈ cs, isPlain c = true :=
  fun c member => isPlain_of_isDigit (digits c member)

theorem isNumber_plain {cs : List Char} (isNumber : IsNumber cs) : ∀ c ∈ cs, isPlain c = true := by
  obtain ⟨signed, isWhole, isFraction, isExponent⟩ := isNumber
  refine List.forall_mem_append.mpr ⟨?_, List.forall_mem_append.mpr
    ⟨?_, List.forall_mem_append.mpr ⟨?_, ?_⟩⟩⟩
  · rcases signed with rfl | rfl <;> exact List.all_eq_true.mp (by decide)
  · cases isWhole with
    | zero => exact List.all_eq_true.mp (by decide)
    | positive digit _ digits =>
      exact List.forall_mem_cons.mpr ⟨isPlain_of_isDigit digit, allDigits_plain digits⟩
  · cases isFraction with
    | nothing => exact List.forall_mem_nil _
    | digits digits => exact List.forall_mem_cons.mpr ⟨rfl, allDigits_plain digits.1⟩
  · cases isExponent with
    | nothing => exact List.forall_mem_nil _
    | marked either signed digits =>
      refine List.forall_mem_cons.mpr ⟨?_, List.forall_mem_append.mpr
        ⟨?_, allDigits_plain digits.1⟩⟩
      · rcases either with rfl | rfl <;> rfl
      · rcases signed with rfl | rfl | rfl <;> exact List.all_eq_true.mp (by decide)

/-- A spelled character does not end its string. -/
theorem inside_isSpelled {cs : List Char} (isSpelled : IsSpelled cs) (rest : List Char) :
    namesNumber .inside (cs ++ rest) = namesNumber .inside rest := by
  cases isSpelled with
  | plain _ noQuote noBackslash =>
    rw [List.singleton_append, namesNumber, if_neg noQuote, if_neg noBackslash]
  | escaped _ => rfl
  | @unit ds four digits =>
    have behind : namesNumber .inside (ds ++ rest) = namesNumber .inside rest := by
      clear four
      induction ds with
      | nil => rfl
      | cons d ds ih =>
        obtain ⟨here, later⟩ := List.forall_mem_cons.mp digits
        have noQuote : d ≠ '"' := by
          rintro rfl
          cases here
        have noBackslash : d ≠ '\\' := by
          rintro rfl
          cases here
        rw [List.cons_append, namesNumber, if_neg noQuote, if_neg noBackslash, ih later]
    exact behind

theorem scans_string {cs : List Char} (isString : IsString cs) : Scans cs false := by
  obtain ⟨all⟩ := isString
  rename_i spelled
  intro rest
  have inside : namesNumber .inside (spelled.flatten ++ ('"' :: rest)) =
      namesNumber .outside rest := by
    induction spelled with
    | nil => rfl
    | cons cs spelled ih =>
      obtain ⟨here, later⟩ := List.forall_mem_cons.mp all
      rw [List.flatten_cons, List.append_assoc, inside_isSpelled here, ih later]
  rw [List.cons_append, List.append_assoc, namesNumber, if_pos rfl]
  exact inside

/-- Texts with plain characters between them have such a letter if one of them does. -/
theorem scans_intercalate {α : Type} {named : α → Bool} {sep : List Char} {items : List α}
    {texts : List (List Char)} (plain : ∀ c ∈ sep, isPlain c = true)
    (all : List.Forall₂ (fun a text => Scans text (named a)) items texts) :
    Scans (sep.intercalate texts) (items.any named) := by
  induction all with
  | nil => exact fun rest => rfl
  | @cons a text items texts here later ih =>
    cases later with
    | nil =>
      rw [List.intercalate_singleton, List.any_cons, List.any_nil, Bool.or_false]
      exact here
    | cons _ _ =>
      rw [List.intercalate_cons_of_ne_nil (List.cons_ne_nil _ _), List.any_cons]
      simpa using (here.append (scans_plain plain)).append ih

/-- The rules of the grammar have no such letter outside of strings. -/
theorem isPart_scans {part : Part} {cs : List Char} (isPart : IsPart part cs) :
    Scans cs false := by
  have between {left right : Char} {parts : List (List Char)} (opens : isPlain left = true)
      (closes : isPlain right = true) (all : ∀ cs ∈ parts, Scans cs false) :
      Scans (left :: ([','].intercalate parts ++ [right])) false := by
    have inside : Scans ([','].intercalate parts) (parts.any fun _ => false) :=
      scans_intercalate (List.forall_mem_singleton.mpr rfl) (List.forall₂_same.mpr all)
    rw [List.any_eq_false.mpr fun _ _ => Bool.false_ne_true] at inside
    exact (scans_plain (List.forall_mem_singleton.mpr opens)).append
      (inside.append (scans_plain (List.forall_mem_singleton.mpr closes)))
  induction isPart with
  | literal listed =>
    simp only [literals, List.mem_cons, List.not_mem_nil, or_false] at listed
    rcases listed with rfl | rfl | rfl <;> exact scans_plain (List.all_eq_true.mp (by decide))
  | number isNumber => exact scans_plain (isNumber_plain isNumber)
  | string isString => exact scans_string isString
  | emptyArray blank | emptyObject blank =>
    exact scans_plain (List.forall_mem_cons.mpr ⟨rfl, List.forall_mem_append.mpr
      ⟨allBlank_plain blank, List.forall_mem_singleton.mpr rfl⟩⟩)
  | array _ _ ih | object _ _ ih => exact between rfl rfl ih
  | element blankBefore _ blankAfter ih =>
    exact (scans_plain (allBlank_plain blankBefore)).append
      (ih.append (scans_plain (allBlank_plain blankAfter)))
  | member blankBefore isKey blankAfter _ ih =>
    have colon : Scans [':'] false := scans_plain (List.forall_mem_singleton.mpr rfl)
    exact (scans_plain (allBlank_plain blankBefore)).append ((scans_string isKey).append
      ((scans_plain (allBlank_plain blankAfter)).append (colon.append ih)))

theorem scans_enclose {α : Type} {named : α → Bool} {depth : Nat} {left right : Char}
    {items : List α} {texts : List (List Char)} (opens : isPlain left = true)
    (closes : isPlain right = true)
    (all : List.Forall₂ (fun a text => Scans text (named a)) items texts) :
    Scans (enclose .oneLine depth left right texts) (items.any named) := by
  have opening : Scans [left] false := scans_plain (List.forall_mem_singleton.mpr opens)
  have closing : Scans [right] false := scans_plain (List.forall_mem_singleton.mpr closes)
  cases all with
  | nil => exact opening.append closing
  | @cons a text items texts here later =>
    have inside : Scans ([',', ' '].intercalate (text :: texts)) ((a :: items).any named) :=
      scans_intercalate (List.all_eq_true.mp (by decide)) (.cons here later)
    have whole := opening.append (inside.append closing)
    rw [Bool.false_or, Bool.or_false] at whole
    rw [enclose_cons]
    exact whole

theorem everyItem_eq_all (test : Value → Bool) (items : List Value) :
    Value.everyItem test items = items.all (·.everywhere test) := by
  induction items with
  | nil => rfl
  | cons v vs ih => rw [Value.everyItem, List.all_cons, ih]

theorem everyEntry_eq_all (test : Value → Bool) (entries : List (String × Value)) :
    Value.everyEntry test entries = entries.all (·.2.everywhere test) := by
  induction entries with
  | nil => rfl
  | cons e rest ih => rw [Value.everyEntry, List.all_cons, ih]

/-- Whether a number in a value is not finite. -/
def hasNonFinite (v : Value) : Bool := !v.everywhere Value.isFinite

theorem hasNonFinite_items {v : Value} {items : List Value}
    (parts : v = .list items ∨ v = .tuple items) :
    hasNonFinite v = items.any hasNonFinite := by
  have every : v.everywhere Value.isFinite = Value.everyItem Value.isFinite items := by
    rcases parts with rfl | rfl
    · exact Bool.true_and _
    · exact Bool.true_and _
  rw [hasNonFinite, every, everyItem_eq_all, List.not_all_eq_any_not]
  rfl

theorem hasNonFinite_object (entries : List (String × Value)) :
    hasNonFinite (.object entries) = entries.any fun e => hasNonFinite e.2 := by
  have every : (Value.object entries).everywhere Value.isFinite =
      Value.everyEntry Value.isFinite entries := Bool.true_and _
  rw [hasNonFinite, every, everyEntry_eq_all, List.not_all_eq_any_not]
  rfl

/-- What is written of a value has such a letter outside of strings exactly if a number in it is not
finite. -/
theorem writeAt_scans (v : Value) : ∀ {depth : Nat} {text : List Char},
    writeAt .oneLine depth v = .ok text → Scans text (hasNonFinite v) := by
  induction v using Value.partsInduction with
  | leaf v leaf =>
    intro depth text written
    cases finite : v.everywhere Value.isFinite with
    | true =>
      rw [hasNonFinite, finite]
      exact isPart_scans (writeAt_isValue v finite written)
    | false =>
      rw [hasNonFinite, finite]
      cases v with
      | float x =>
        obtain rfl := Except.ok.inj written
        cases x with
        | nan => exact fun rest => rfl
        | infinite negative => cases negative <;> exact fun rest => rfl
        | negativeZero | finite d => cases finite
      | null | bool _ | int _ | string _ | absent | typeObject _ => cases finite
      | list _ | tuple _ | object _ | record _ _ => cases leaf
  | list items ih =>
    intro depth text written
    obtain ⟨texts, all, rfl⟩ := writeAt_list_eq_ok.mp written
    rw [hasNonFinite_items (.inl rfl)]
    apply scans_enclose rfl rfl
    apply forall₂_imp_mem all
    intro v member text here
    exact ih v member here
  | tuple items ih =>
    intro depth text written
    obtain ⟨texts, all, rfl⟩ := writeAt_tuple_eq_ok.mp written
    rw [hasNonFinite_items (.inr rfl)]
    apply scans_enclose rfl rfl
    apply forall₂_imp_mem all
    intro v member text here
    exact ih v member here
  | object entries ih =>
    intro depth text written
    obtain ⟨texts, all, rfl⟩ := writeAt_object_eq_ok.mp written
    rw [hasNonFinite_object]
    apply scans_enclose rfl rfl
    apply forall₂_imp_mem all
    rintro e member text ⟨value, here, rfl⟩
    have colon : Scans [':', ' '] false := scans_plain (List.all_eq_true.mp (by decide))
    exact (scans_string (writeString_isString e.1)).append (colon.append (ih e member here))
  | record type values ih =>
    intro depth text written
    cases written

/-! ## Both directions -/

/-- A text with such a letter outside of strings is not standard JSON. -/
theorem not_isStandard {text : String} (named : namesNumber .outside text.toList = true) :
    ¬IsStandard text := by
  intro standard
  have unnamed := isPart_scans standard []
  rw [List.append_nil, named] at unnamed
  cases unnamed

/-- A text written of a value is standard JSON if and only if every number in the value is
finite. -/
theorem write_isStandard_iff {v : Value} {text : String} (written : write v = .ok text) :
    IsStandard text ↔ v.everywhere Value.isFinite = true := by
  have written := write_eq_ok.mp written
  constructor
  · intro standard
    by_contra unbounded
    refine not_isStandard ?_ standard
    have named := writeAt_scans v written []
    rwa [List.append_nil, hasNonFinite, Bool.eq_false_iff.mpr unbounded] at named
  · intro finite
    exact element_of_value (writeAt_isValue v finite written)

end Json

end ServiceClient

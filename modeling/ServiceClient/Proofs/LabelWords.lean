import ServiceClient.Form.Label

/-!
Labels of names without underscores. Such a name consists of words that run into each other, and
`words` cuts it before every capital that starts one. Its label has these words one by one, those
that are acronyms as they stand and the others in lower case, and begins with a capital
(`label_eq_sentence`).
-/

namespace ServiceClient

namespace Label

/-- Whether a word starts with the character `c` of a name, by those around it. -/
def startsWord (before c : Char) (after? : Option Char) : Bool :=
  c.isUpper && (before.isLower || before.isUpper && after?.any Char.isLower)

/-- The words of a name with a first character. -/
def wordsFrom (c : Char) : List Char → List (List Char)
  | [] => [[c]]
  | d :: cs =>
    if startsWord c d cs.head? then [c] :: wordsFrom d cs
    else (wordsFrom d cs).modifyHead (c :: ·)

/-- The words of a name, which is cut wherever a word starts. -/
def words : List Char → List (List Char)
  | [] => []
  | c :: cs => wordsFrom c cs

/-- A word as it stands in a label: in lower case, unless it is an acronym. -/
def wordInLabel (word : List Char) : List Char :=
  if word.all Char.isUpper then word else word.map Char.toLower

/-- Words with blanks between them, beginning with a capital. -/
def sentence (words : List (List Char)) : List Char :=
  ([' '].intercalate (words.map wordInLabel)).modifyHead Char.toUpper

/-! ## Letters -/

theorem isUpper_iff {c : Char} : c.isUpper = true ↔ 65 ≤ c.toNat ∧ c.toNat ≤ 90 :=
  decide_eq_true_iff

theorem isLower_iff {c : Char} : c.isLower = true ↔ 97 ≤ c.toNat ∧ c.toNat ≤ 122 := by
  change (decide (97 ≤ c.toNat) && decide (c.toNat ≤ 122)) = true ↔ _
  rw [Bool.and_eq_true, decide_eq_true_iff, decide_eq_true_iff]

section

variable {c : Char}

theorem isUpper_or_isLower (letter : c.isAlpha = true) : c.isUpper = true ∨ c.isLower = true :=
  Bool.or_eq_true_iff.mp letter

theorem isUpper_eq_false (lower : c.isLower = true) : c.isUpper = false := by
  rw [isLower_iff] at lower
  rw [← Bool.not_eq_true, isUpper_iff]
  omega

theorem isLower_eq_false (upper : c.isUpper = true) : c.isLower = false := by
  rw [isUpper_iff] at upper
  rw [← Bool.not_eq_true, isLower_iff]
  omega

theorem not_isUpper (letter : c.isAlpha = true) : (!c.isUpper) = c.isLower := by
  rcases isUpper_or_isLower letter with upper | lower
  · rw [upper, isLower_eq_false upper, Bool.not_true]
  · rw [lower, isUpper_eq_false lower, Bool.not_false]

theorem toLower_of_isLower (lower : c.isLower = true) : c.toLower = c := by
  have upper := isUpper_eq_false lower
  exact dif_neg (of_decide_eq_false upper)

theorem toUpper_toLower (upper : c.isUpper = true) : c.toLower.toUpper = c.toUpper := by
  have capitals : ∀ n ≤ 90, 65 ≤ n → (Char.ofNat n).toLower.toUpper = (Char.ofNat n).toUpper := by
    decide
  obtain ⟨first, last⟩ := isUpper_iff.mp upper
  have same := capitals c.toNat last first
  rwa [Char.ofNat_toNat] at same

theorem toNat_lt_of_isAlpha (letter : c.isAlpha = true) : c.toNat < 0x80 := by
  rcases isUpper_or_isLower letter with upper | lower
  · have := isUpper_iff.mp upper
    omega
  · have := isLower_iff.mp lower
    omega

theorem isUpperCase_of_isAlpha (letter : c.isAlpha = true) : isUpperCase c = c.isUpper :=
  if_pos (toNat_lt_of_isAlpha letter)

/-! ## Single words -/

/-- What stands behind the first letter of a word, `second?` being the next letter of the name: it
is in lower case if one of these two letters is, and in upper case otherwise. -/
structure WordRest (c : Char) (second? : Option Char) (w : List Char) : Prop where
  lower (word : c.isLower = true ∨ second?.any Char.isLower = true) : w.all Char.isLower = true
  upper (acronym : c.isLower = false ∧ second?.any Char.isLower = false) :
    w.all Char.isUpper = true
  nonempty (second : second?.any Char.isLower = true) : w ≠ []

theorem wordRest_nil {second? : Option Char} (capital : second?.any Char.isLower = false) :
    WordRest c second? [] :=
  ⟨fun _ => rfl, fun _ => rfl, fun second => nomatch capital.symm.trans second⟩

/-- A small letter is followed by the rest of a word in lower case. -/
theorem WordRest.lower_cons {b : Char} {second? : Option Char} {w : List Char}
    (rest : WordRest c second? w) (lower : c.isLower = true) : WordRest b (some c) (c :: w) where
  lower _ := by rw [List.all_cons, lower, rest.lower (.inl lower), Bool.and_self]
  upper acronym := nomatch acronym.2.symm.trans lower
  nonempty _ := List.cons_ne_nil c w

/-- A capital that starts no word goes on with an acronym. -/
theorem WordRest.upper_cons {b : Char} {second? : Option Char} {w : List Char}
    (rest : WordRest c second? w) (first : b.isLower = false) (upper : c.isUpper = true)
    (capital : second?.any Char.isLower = false) : WordRest b (some c) (c :: w) where
  lower
    | .inl lower => nomatch first.symm.trans lower
    | .inr lower => nomatch (isLower_eq_false upper).symm.trans lower
  upper _ := by
    rw [List.all_cons, upper, rest.upper ⟨isLower_eq_false upper, capital⟩, Bool.and_self]
  nonempty _ := List.cons_ne_nil c w

theorem map_toLower {w : List Char} (lower : w.all Char.isLower = true) :
    w.map Char.toLower = w := by
  have same : w.map Char.toLower = w.map id := List.map_congr_left fun c member =>
    toLower_of_isLower (List.all_eq_true.mp lower c member)
  rw [same, List.map_id]

/-- Only the first letter of a word depends on the word in its label. -/
theorem wordInLabel_cons {second? : Option Char} {w : List Char} (letter : c.isAlpha = true)
    (rest : WordRest c second? w) :
    wordInLabel (c :: w) = (if second?.any Char.isLower then c.toLower else c) :: w := by
  rw [wordInLabel, List.all_cons, List.map_cons]
  rcases isUpper_or_isLower letter with upper | lower
  · rw [upper, Bool.true_and]
    cases second : second?.any Char.isLower with
    | false => rw [if_pos (rest.upper ⟨isLower_eq_false upper, second⟩), if_neg Bool.false_ne_true]
    | true =>
      have inLower := rest.lower (.inr second)
      have mixed : w.all Char.isUpper = false := by
        obtain ⟨d, w, rfl⟩ := List.exists_cons_of_ne_nil (rest.nonempty second)
        have first : d.isLower = true := List.all_eq_true.mp inLower d List.mem_cons_self
        rw [List.all_cons, isUpper_eq_false first, Bool.false_and]
      rw [mixed, if_neg Bool.false_ne_true, if_pos rfl, map_toLower inLower]
  · rw [isUpper_eq_false lower, Bool.false_and, if_neg Bool.false_ne_true,
      toLower_of_isLower lower, map_toLower (rest.lower (.inl lower)), ite_self]

/-! ## The words of a name -/

section

variable {before : Char} {cs : List Char} {after? : Option Char}

theorem startsWord_of_isLower (lower : c.isLower = true) : startsWord before c after? = false := by
  rw [startsWord, isUpper_eq_false lower, Bool.false_and]

/-- A capital starts a word unless it goes on with an acronym. -/
theorem startsWord_of_isUpper (letter : before.isAlpha = true) (upper : c.isUpper = true) :
    startsWord before c after? = (before.isLower || after?.any Char.isLower) := by
  rw [startsWord, upper, Bool.true_and]
  rcases isUpper_or_isLower letter with capital | small
  · rw [capital, Bool.true_and]
  · rw [small, Bool.true_or, Bool.true_or]

theorem ne_underscore (letter : c.isAlpha = true) : (c == '_') = false := by
  apply beq_eq_false_iff_ne.mpr
  rintro rfl
  cases letter

theorem rest_cons (before c : Char) (cs : List Char) :
    rest before (c :: cs) =
      if c == '_' then ' ' :: rest c cs
      else if isUpperCase c then
        let isFirst := cs.head?.any (!isUpperCase ·)
        (if isUpperCase before && !isFirst then [] else [' ']) ++
          (if isFirst then lowerCase c else [c]) ++ rest c cs
      else c :: rest c cs := by
  cases cs <;> rfl

theorem rest_lower (letter : c.isAlpha = true) (lower : c.isLower = true) :
    rest before (c :: cs) = c :: rest c cs := by
  simp [rest_cons, ne_underscore letter, isUpperCase_of_isAlpha letter, isUpper_eq_false lower]

theorem rest_upper (letter : before.isAlpha = true) (letters : ∀ d ∈ c :: cs, d.isAlpha = true)
    (upper : c.isUpper = true) :
    rest before (c :: cs) =
      (if startsWord before c cs.head? then [' '] else []) ++
        (if cs.head?.any Char.isLower then c.toLower else c) :: rest c cs := by
  obtain ⟨here, letters⟩ := List.forall_mem_cons.mp letters
  have lowerCase : lowerCase c = [c.toLower] := if_pos (toNat_lt_of_isAlpha here)
  have isFirst : cs.head?.any (!isUpperCase ·) = cs.head?.any Char.isLower := by
    cases cs with
    | nil => rfl
    | cons d cs =>
      have next := letters d List.mem_cons_self
      exact (congrArg (!·) (isUpperCase_of_isAlpha next)).trans (not_isUpper next)
  rw [rest_cons, ne_underscore here, isUpperCase_of_isAlpha here, isUpperCase_of_isAlpha letter,
    startsWord_of_isUpper letter upper, ← not_isUpper letter, upper, lowerCase, isFirst]
  cases before.isUpper <;> cases cs.head?.any Char.isLower <;> rfl

/-- The first letter of a name begins its first word, and in the label every other word stands
behind a blank. -/
theorem rest_eq_words (letters : ∀ d ∈ c :: cs, d.isAlpha = true) :
    ∃ w ws, wordsFrom c cs = (c :: w) :: ws ∧ WordRest c cs.head? w ∧
      rest c cs = w ++ ws.flatMap fun word => ' ' :: wordInLabel word := by
  induction cs generalizing c with
  | nil => exact ⟨[], [], rfl, wordRest_nil rfl, rfl⟩
  | cons d cs ih =>
    obtain ⟨letter, letters⟩ := List.forall_mem_cons.mp letters
    have next := letters d List.mem_cons_self
    obtain ⟨w, ws, cut, word, label⟩ := ih letters
    rw [wordsFrom, cut, List.head?_cons]
    rcases isUpper_or_isLower next with upper | lower
    · rw [rest_upper letter letters upper, label]
      cases starts : startsWord c d cs.head? with
      | true =>
        refine ⟨[], (d :: w) :: ws, rfl, wordRest_nil (isLower_eq_false upper), ?_⟩
        rw [if_pos rfl, List.flatMap_cons, wordInLabel_cons next word]
        rfl
      | false =>
        rw [startsWord_of_isUpper letter upper, Bool.or_eq_false_iff] at starts
        refine ⟨d :: w, ws, rfl, word.upper_cons starts.1 upper starts.2, ?_⟩
        rw [starts.2]
        rfl
    · rw [startsWord_of_isLower lower, rest_lower next lower, label]
      exact ⟨d :: w, ws, rfl, word.lower_cons lower, rfl⟩

end

end

end Label

theorem intercalate_cons {α : Type} (sep l : List α) (ls : List (List α)) :
    sep.intercalate (l :: ls) = l ++ ls.flatMap (sep ++ ·) := by
  induction ls generalizing l with
  | nil => simp
  | cons l' ls ih => simp [List.intercalate_cons_cons, ih]

/-- The label of a name of letters consists of its words. -/
theorem label_eq_sentence {name : String} (letters : ∀ c ∈ name.toList, c.isAlpha = true) :
    label name = String.ofList (Label.sentence (Label.words name.toList)) := by
  rw [label]
  congr 1
  cases split : name.toList with
  | nil => rfl
  | cons c cs =>
    rw [split] at letters
    obtain ⟨w, ws, cut, word, rest⟩ := Label.rest_eq_words letters
    have letter := letters c List.mem_cons_self
    have capital : upperCase c = [c.toUpper] := if_pos (Label.toNat_lt_of_isAlpha letter)
    have first : (if cs.head?.any Char.isLower then c.toLower else c).toUpper = c.toUpper := by
      rcases Label.isUpper_or_isLower letter with upper | lower
      · rw [apply_ite Char.toUpper, Label.toUpper_toLower upper, ite_self]
      · rw [Label.toLower_of_isLower lower, ite_self]
    rw [Label.chars, rest, capital, Label.sentence, Label.words, cut, List.map_cons,
      intercalate_cons, Label.wordInLabel_cons letter word, List.cons_append, List.cons_append,
      List.modifyHead_cons, first, List.flatMap_map]
    rfl

/-- An acronym stands behind a small letter, before another word, and at the end. -/
theorem label_eq_sentence_acronyms :
    Label.words "getHTTPServerURL".toList =
        ["get".toList, "HTTP".toList, "Server".toList, "URL".toList] ∧
      label "getHTTPServerURL" = "Get HTTP server URL" := by
  have letters : "getHTTPServerURL".toList.all Char.isAlpha = true := rfl
  have cut : Label.words "getHTTPServerURL".toList =
      ["get".toList, "HTTP".toList, "Server".toList, "URL".toList] := by decide
  refine ⟨cut, ?_⟩
  rw [label_eq_sentence (List.all_eq_true.mp letters), cut]
  rfl

end ServiceClient

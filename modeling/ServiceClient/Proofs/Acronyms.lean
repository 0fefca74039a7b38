import ServiceClient.Proofs.LabelWords

/-!
Acronyms in labels of identifiers. Two or more capitals in a row stand in the label exactly if they
stand in the identifier at its end or before another capital (`isInfix_chars_iff`). An acronym is
therefore whole only at the end: before an underscore or a digit, too, its last letter is taken for
the start of a word (`acronym_inLabel`).
-/

namespace ServiceClient

namespace Label

/-- Identifiers are made of letters, digits and underscores. -/
def isIdentifierChar (c : Char) : Bool := c.isAlphanum || c == '_'

/-- A run of two or more capitals in a name, with no other capital right before or behind it. -/
structure Acronym (name : List Char) where
  before : List Char
  run : List Char
  after : List Char
  split : before ++ run ++ after = name
  capitals : ∀ c ∈ run, c.isUpper = true
  several : 2 ≤ run.length
  starts : ∀ c ∈ before.getLast?, c.isUpper = false
  ends : ∀ c ∈ after.head?, c.isUpper = false

theorem Acronym.run_ne_nil {name : List Char} (a : Acronym name) : a.run ≠ [] :=
  List.ne_nil_of_length_pos (Nat.lt_of_lt_of_le Nat.two_pos a.several)

/-- The last letter of an acronym. -/
def Acronym.last {name : List Char} (a : Acronym name) : Char := a.run.getLast a.run_ne_nil

/-! ## One character of a label -/

section

variable {x c : Char} {cs : List Char}

theorem toNat_lt_of_isIdentifierChar (identifier : isIdentifierChar c = true) :
    c.toNat < 0x80 := by
  rw [isIdentifierChar, Char.isAlphanum, Bool.or_eq_true, Bool.or_eq_true] at identifier
  rcases identifier with (letter | digit) | underscore
  · exact toNat_lt_of_isAlpha letter
  · have bound : c.toNat ≤ 57 := of_decide_eq_true (Bool.and_eq_true_iff.mp digit).2
    omega
  · rw [eq_of_beq underscore]
    decide

theorem isUpperCase_of_isIdentifierChar (identifier : isIdentifierChar c = true) :
    isUpperCase c = c.isUpper :=
  if_pos (toNat_lt_of_isIdentifierChar identifier)

theorem isAlpha_of_isUpper (upper : c.isUpper = true) : c.isAlpha = true :=
  Bool.or_eq_true_iff.mpr (.inl upper)

theorem isUpperCase_of_isUpper (upper : c.isUpper = true) : isUpperCase c = true :=
  (isUpperCase_of_isAlpha (isAlpha_of_isUpper upper)).trans upper

theorem isUpper_eq_false_of_isUpperCase (small : isUpperCase c = false) : c.isUpper = false :=
  Bool.eq_false_iff.mpr fun upper => nomatch small.symm.trans (isUpperCase_of_isUpper upper)

theorem toUpper_of_isUpper (upper : c.isUpper = true) : c.toUpper = c := by
  have lower : ¬(97 ≤ c.toNat ∧ c.toNat ≤ 122) := by
    rw [← isLower_iff, isLower_eq_false upper]
    exact Bool.false_ne_true
  exact dif_neg lower

/-- Whether a name is over or goes on with a capital. -/
def capitalNext (cs : List Char) : Bool := cs.head?.all isUpperCase

theorem capitalNext_nil : capitalNext [] = true := rfl

theorem capitalNext_cons : capitalNext (c :: cs) = isUpperCase c := rfl

theorem capitalNext_append {w : List Char} (capitals : ∀ d ∈ w, d.isUpper = true)
    (next : capitalNext cs = true) : capitalNext (w ++ cs) = true := by
  cases w with
  | nil => exact next
  | cons c w => exact isUpperCase_of_isUpper (capitals c List.mem_cons_self)

theorem capitalNext_iff (identifier : ∀ d ∈ cs, isIdentifierChar d = true) :
    capitalNext cs = true ↔ ∀ d ∈ cs.head?, d.isUpper = true := by
  cases cs with
  | nil => simp [capitalNext_nil]
  | cons c cs =>
    simp [capitalNext_cons, isUpperCase_of_isIdentifierChar (identifier c List.mem_cons_self)]

/-- What is no capital stays, or becomes a blank. -/
theorem rest_small (small : isUpperCase c = false) :
    ∃ e, e.isUpper = false ∧ ∀ x cs, rest x (c :: cs) = e :: rest c cs := by
  cases underscore : c == '_' with
  | true => exact ⟨' ', rfl, fun x cs => by rw [rest_cons, underscore, if_pos rfl]⟩
  | false =>
    refine ⟨c, isUpper_eq_false_of_isUpperCase small, fun x cs => ?_⟩
    rw [rest_cons, underscore, small]
    rfl

/-- A capital goes on with an acronym or starts one if nothing but a capital follows, and otherwise
starts a word in lower case. -/
theorem rest_capital (upper : c.isUpper = true) :
    rest x (c :: cs) =
      if capitalNext cs then (if isUpperCase x then [] else [' ']) ++ c :: rest c cs
      else ' ' :: c.toLower :: rest c cs := by
  have lowerCase : lowerCase c = [c.toLower] :=
    if_pos (toNat_lt_of_isAlpha (isAlpha_of_isUpper upper))
  have isFirst : cs.head?.any (!isUpperCase ·) = !capitalNext cs := by cases cs <;> rfl
  rw [rest_cons, ne_underscore (isAlpha_of_isUpper upper), isUpperCase_of_isUpper upper, isFirst,
    lowerCase]
  cases isUpperCase x <;> cases capitalNext cs <;> rfl

end

/-! ## Capitals in a row -/

theorem exists_append_eq_cons {α : Type} {P : List α → Prop} {a : α} {w l : List α} :
    (∃ front back, front ++ w ++ back = a :: l ∧ P back) ↔
      (∃ back, w ++ back = a :: l ∧ P back) ∨ ∃ front back, front ++ w ++ back = l ∧ P back := by
  constructor
  · rintro ⟨front, back, same, holds⟩
    cases front with
    | nil => exact .inl ⟨back, same, holds⟩
    | cons b front => exact .inr ⟨front, back, (List.cons.inj same).2, holds⟩
  · rintro (⟨back, same, holds⟩ | ⟨front, back, same, holds⟩)
    · exact ⟨[], back, same, holds⟩
    · exact ⟨a :: front, back, congrArg (a :: ·) same, holds⟩

section

variable {x c : Char} {w l cs : List Char}

/-- What is no capital is passed over when capitals are looked for. -/
theorem not_isPrefix_small (upper : c.isUpper = true) {e : Char} (small : e.isUpper = false) :
    ¬c :: w <+: e :: l := by
  rw [List.cons_prefix_cons]
  rintro ⟨rfl, -⟩
  exact nomatch small.symm.trans upper

theorem isInfix_cons_small (upper : c.isUpper = true) {e : Char} (small : e.isUpper = false) :
    c :: w <:+: e :: l ↔ c :: w <:+: l := by
  rw [List.infix_cons_iff, or_iff_right (not_isPrefix_small upper small)]

/-- A label goes on with a capital where its name does so inside an acronym. -/
theorem cons_isPrefix_rest (identifier : ∀ d ∈ cs, isIdentifierChar d = true)
    (upper : c.isUpper = true) :
    c :: w <+: rest x cs ↔ isUpperCase x = true ∧
      ∃ ds, c :: ds = cs ∧ capitalNext ds = true ∧ w <+: rest c ds := by
  cases cs with
  | nil => simp [rest]
  | cons e cs =>
    cases first : isUpperCase e with
    | false =>
      obtain ⟨e, passed, label⟩ := rest_small first
      rw [label]
      refine iff_of_false (not_isPrefix_small upper passed) ?_
      rintro ⟨-, _, ⟨⟩, -⟩
      exact nomatch first.symm.trans (isUpperCase_of_isUpper upper)
    | true =>
      rw [isUpperCase_of_isIdentifierChar (identifier e List.mem_cons_self)] at first
      rw [rest_capital first]
      cases next : capitalNext cs with
      | false =>
        refine iff_of_false (not_isPrefix_small upper rfl) ?_
        rintro ⟨-, _, ⟨⟩, goesOn, -⟩
        exact nomatch next.symm.trans goesOn
      | true =>
        cases isUpperCase x with
        | false => exact iff_of_false (not_isPrefix_small upper rfl) fun goesOn => nomatch goesOn.1
        | true =>
          rw [if_pos rfl, if_pos rfl, List.nil_append, List.cons_prefix_cons]
          constructor
          · rintro ⟨rfl, goesOn⟩
            exact ⟨rfl, cs, rfl, next, goesOn⟩
          · rintro ⟨-, _, ⟨⟩, -, goesOn⟩
            exact ⟨rfl, goesOn⟩

/-- A label goes on with capitals where its name does so inside an acronym, and the name is over
behind them or goes on with another one. -/
theorem isPrefix_rest_iff (identifier : ∀ d ∈ cs, isIdentifierChar d = true)
    (capitals : ∀ d ∈ w, d.isUpper = true) (nonempty : w ≠ []) :
    w <+: rest x cs ↔
      isUpperCase x = true ∧ ∃ back, w ++ back = cs ∧ capitalNext back = true := by
  induction w generalizing x cs with
  | nil => exact absurd rfl nonempty
  | cons c w ih =>
    obtain ⟨upper, capitals⟩ := List.forall_mem_cons.mp capitals
    rw [cons_isPrefix_rest identifier upper]
    refine and_congr_right fun _ => ?_
    cases w with
    | nil => simp
    | cons e w =>
      constructor
      · rintro ⟨ds, rfl, -, goesOn⟩
        obtain ⟨-, back, rfl, next⟩ :=
          (ih (List.forall_mem_cons.mp identifier).2 capitals (List.cons_ne_nil e w)).mp goesOn
        exact ⟨back, rfl, next⟩
      · rintro ⟨back, rfl, next⟩
        have goesOn := (ih (List.forall_mem_cons.mp identifier).2 capitals
          (List.cons_ne_nil e w)).mpr ⟨isUpperCase_of_isUpper upper, back, rfl, next⟩
        exact ⟨e :: w ++ back, rfl, capitalNext_append capitals next, goesOn⟩

variable (upper : c.isUpper = true) (capitals : ∀ d ∈ w, d.isUpper = true) (several : w ≠ [])
include upper capitals several

/-- Two or more capitals in a row do not begin at a character that changes in the label. -/
theorem isInfix_rest_cons {b : Char} (identifier : ∀ d ∈ b :: cs, isIdentifierChar d = true) :
    c :: w <:+: rest x (b :: cs) ↔ c :: w <:+: b :: rest b cs := by
  obtain ⟨here, identifier⟩ := List.forall_mem_cons.mp identifier
  cases first : isUpperCase b with
  | false =>
    obtain ⟨e, passed, label⟩ := rest_small first
    rw [label, isInfix_cons_small upper passed,
      isInfix_cons_small upper (isUpper_eq_false_of_isUpperCase first)]
  | true =>
    rw [isUpperCase_of_isIdentifierChar here] at first
    rw [rest_capital first]
    cases next : capitalNext cs with
    | true =>
      cases isUpperCase x with
      | false => exact isInfix_cons_small upper rfl
      | true => rfl
    | false =>
      -- no capital follows, so that the capitals do not begin at `b` either
      have stops : ¬w <+: rest b cs := by
        rw [isPrefix_rest_iff identifier capitals several]
        rintro ⟨-, back, rfl, goesOn⟩
        exact nomatch next.symm.trans (capitalNext_append capitals goesOn)
      have passes (e : Char) : c :: w <:+: e :: rest b cs ↔ c :: w <:+: rest b cs := by
        rw [List.infix_cons_iff, List.cons_prefix_cons, or_iff_right fun goesOn => stops goesOn.2]
      rw [if_neg Bool.false_ne_true, isInfix_cons_small upper rfl, passes, passes]

theorem isPrefix_cons_rest_iff {b : Char} (identifier : ∀ d ∈ b :: cs, isIdentifierChar d = true) :
    c :: w <+: b :: rest b cs ↔ ∃ back, c :: w ++ back = b :: cs ∧ capitalNext back = true := by
  rw [List.cons_prefix_cons,
    isPrefix_rest_iff (List.forall_mem_cons.mp identifier).2 capitals several]
  constructor
  · rintro ⟨rfl, -, back, rfl, next⟩
    exact ⟨back, rfl, next⟩
  · rintro ⟨back, ⟨⟩, next⟩
    exact ⟨rfl, isUpperCase_of_isUpper upper, back, rfl, next⟩

theorem isInfix_rest_iff (identifier : ∀ d ∈ cs, isIdentifierChar d = true) :
    c :: w <:+: rest x cs ↔
      ∃ front back, front ++ (c :: w) ++ back = cs ∧ capitalNext back = true := by
  induction cs generalizing x with
  | nil => simp [rest]
  | cons b cs ih =>
    rw [isInfix_rest_cons upper capitals several identifier, List.infix_cons_iff,
      isPrefix_cons_rest_iff upper capitals several identifier,
      ih (List.forall_mem_cons.mp identifier).2, exists_append_eq_cons]

/-- Two or more capitals stand in the label in a row exactly if they do so in the name, and the name
is over behind them or goes on with another one. -/
theorem isInfix_chars_iff (identifier : ∀ d ∈ cs, isIdentifierChar d = true) :
    c :: w <:+: chars cs ↔
      ∃ front back, front ++ (c :: w) ++ back = cs ∧ capitalNext back = true := by
  cases cs with
  | nil => simp [chars]
  | cons b cs =>
    obtain ⟨here, behind⟩ := List.forall_mem_cons.mp identifier
    have first : chars (b :: cs) = b.toUpper :: rest b cs :=
      congrArg (· ++ rest b cs) (if_pos (toNat_lt_of_isIdentifierChar here))
    -- a small letter becomes a capital there, but a blank stands between it and the next one
    have goesOn : c :: w <+: b.toUpper :: rest b cs ↔ c :: w <+: b :: rest b cs := by
      rw [List.cons_prefix_cons, List.cons_prefix_cons]
      refine and_congr_left fun label => ?_
      have capital := ((isPrefix_rest_iff behind capitals several).mp label).1
      rw [isUpperCase_of_isIdentifierChar here] at capital
      rw [toUpper_of_isUpper capital]
    rw [first, List.infix_cons_iff, goesOn,
      isPrefix_cons_rest_iff upper capitals several identifier,
      isInfix_rest_iff upper capitals several behind, exists_append_eq_cons]

end

/-! ## What stands around an acronym -/

section

variable {x c : Char} {w cs ds : List Char}

/-- What stands before anything but a capital does not depend on what stands behind it. -/
theorem rest_append (small : ∀ c ∈ cs.getLast?, isUpperCase c = false) :
    rest x (cs ++ ds) = rest x cs ++ rest (cs.getLastD x) ds := by
  induction cs generalizing x with
  | nil => rfl
  | cons c cs ih =>
    cases cs with
    | nil =>
      obtain ⟨e, -, label⟩ := rest_small (small c rfl)
      exact (label x ds).trans (congrArg (· ++ rest c ds) (label x []).symm)
    | cons d cs =>
      have behind : (d :: cs ++ ds).head? = (d :: cs).head? := rfl
      rw [List.cons_append, rest_cons, ih small, rest_cons x c (d :: cs), behind]
      split
      · rfl
      · split
        · exact (List.append_assoc _ _ _).symm
        · rfl

/-- Inside an acronym capitals stand as they do in the name. -/
theorem rest_capitals (upper : isUpperCase x = true) (capitals : ∀ d ∈ w, d.isUpper = true)
    (next : capitalNext ds = true) :
    ∃ e, isUpperCase e = true ∧ rest x (w ++ ds) = w ++ rest e ds := by
  induction w generalizing x with
  | nil => exact ⟨x, upper, rfl⟩
  | cons c w ih =>
    obtain ⟨capital, capitals⟩ := List.forall_mem_cons.mp capitals
    obtain ⟨e, last, label⟩ := ih (isUpperCase_of_isUpper capital) capitals
    refine ⟨e, last, ?_⟩
    rw [List.cons_append, rest_capital capital, capitalNext_append capitals next, upper, label]
    rfl

/-- An acronym begins behind a blank, unless it begins the name. -/
theorem chars_acronym {before : List Char} (small : ∀ c ∈ before.getLast?, isUpperCase c = false)
    (upper : c.isUpper = true) (next : capitalNext cs = true) :
    chars (before ++ c :: cs) =
      chars before ++ (if before.isEmpty then [] else [' ']) ++ c :: rest c cs := by
  cases before with
  | nil =>
    have first : upperCase c = [c.toUpper] :=
      if_pos (toNat_lt_of_isAlpha (isAlpha_of_isUpper upper))
    rw [toUpper_of_isUpper upper] at first
    exact congrArg (· ++ rest c cs) first
  | cons b before =>
    rw [List.getLast?_cons] at small
    have last := small _ rfl
    have inner : ∀ d ∈ before.getLast?, isUpperCase d = false := by
      intro d behind
      rwa [Option.mem_def.mp behind] at last
    rw [List.cons_append, chars, chars, rest_append inner, rest_capital upper, next,
      List.getLastD_eq_getLast?, last, List.append_assoc, List.append_assoc]
    rfl

end

namespace Acronym

variable {name : List Char} (a : Acronym name)

/-- An acronym is made of its first letter, the letters inside, and its last letter. -/
theorem exists_run_eq : ∃ c w, a.run.dropLast = c :: w ∧ a.run = c :: (w ++ [a.last]) := by
  have inner : a.run.dropLast ≠ [] := by
    have several := a.several
    rw [← List.length_pos_iff, List.length_dropLast]
    omega
  obtain ⟨c, w, first⟩ := List.exists_cons_of_ne_nil inner
  refine ⟨c, w, first, ?_⟩
  rw [← List.cons_append, ← first]
  exact (List.dropLast_concat_getLast a.run_ne_nil).symm

theorem isUpper_last : a.last.isUpper = true := a.capitals a.last (List.getLast_mem a.run_ne_nil)

/-- The letters of an acronym but its last one stand in the label as they do in the name. -/
theorem chars_eq (identifier : ∀ c ∈ name, isIdentifierChar c = true) :
    ∃ e, isUpperCase e = true ∧ chars name =
      chars a.before ++ (if a.before.isEmpty then [] else [' ']) ++ a.run.dropLast ++
        rest e (a.last :: a.after) := by
  obtain ⟨c, w, inner, run⟩ := a.exists_run_eq
  have capitals := a.capitals
  rw [run, List.forall_mem_cons, List.forall_mem_append] at capitals
  obtain ⟨first, inside, -⟩ := capitals
  have starts : ∀ d ∈ a.before.getLast?, isUpperCase d = false := by
    intro d behind
    have member : d ∈ name := by
      rw [← a.split, List.append_assoc]
      exact List.mem_append_left _ (List.mem_of_mem_getLast? behind)
    rw [isUpperCase_of_isIdentifierChar (identifier d member), a.starts d behind]
  have lastNext : capitalNext (a.last :: a.after) = true := isUpperCase_of_isUpper a.isUpper_last
  obtain ⟨e, upper, label⟩ := rest_capitals (isUpperCase_of_isUpper first) inside lastNext
  have split : a.before ++ c :: (w ++ a.last :: a.after) = name := by
    have split := a.split
    rwa [run, List.append_assoc, List.cons_append, List.append_assoc] at split
  refine ⟨e, upper, ?_⟩
  calc
    chars name = chars (a.before ++ c :: (w ++ a.last :: a.after)) := congrArg chars split.symm
    _ = chars a.before ++ (if a.before.isEmpty then [] else [' ']) ++
          c :: (w ++ rest e (a.last :: a.after)) := by
      rw [chars_acronym starts first (capitalNext_append inside lastNext), label]
    _ = _ := by rw [inner, List.append_assoc _ (c :: w), List.cons_append]

/-- At the end of a name an acronym is whole. -/
theorem chars_whole (identifier : ∀ c ∈ name, isIdentifierChar c = true) (ends : a.after = []) :
    chars name = chars a.before ++ (if a.before.isEmpty then [] else [' ']) ++ a.run := by
  obtain ⟨e, upper, label⟩ := a.chars_eq identifier
  have last : rest e (a.last :: a.after) = [a.last] := by
    rw [ends, rest_capital a.isUpper_last, capitalNext_nil, upper]
    rfl
  rw [label, last, List.append_assoc]
  exact congrArg (_ ++ ·) (List.dropLast_concat_getLast a.run_ne_nil)

/-- Before the end of a name the last letter of an acronym starts a word. -/
theorem chars_cut (identifier : ∀ c ∈ name, isIdentifierChar c = true) (goesOn : a.after ≠ []) :
    chars name = chars a.before ++ (if a.before.isEmpty then [] else [' ']) ++ a.run.dropLast ++
      ' ' :: a.last.toLower :: rest a.last a.after := by
  obtain ⟨d, ds, after⟩ := List.exists_cons_of_ne_nil goesOn
  have behind : d ∈ a.after.head? := by rw [after]; rfl
  have member : d ∈ name := by
    rw [← a.split]
    exact List.mem_append_right _ (List.mem_of_mem_head? behind)
  have next : capitalNext a.after = false := by
    rw [after, capitalNext_cons, isUpperCase_of_isIdentifierChar (identifier d member),
      a.ends d behind]
  obtain ⟨e, -, label⟩ := a.chars_eq identifier
  rw [label, rest_capital a.isUpper_last, next]
  rfl

/-- The label has all letters of an acronym in a row exactly if the name has them at its end or
before another capital. -/
theorem isInfix_iff (identifier : ∀ c ∈ name, isIdentifierChar c = true) :
    a.run <:+: chars name ↔ ∃ front back, front ++ a.run ++ back = name ∧
      ∀ c ∈ back.head?, c.isUpper = true := by
  obtain ⟨c, w, -, run⟩ := a.exists_run_eq
  have capitals := a.capitals
  rw [run] at capitals ⊢
  obtain ⟨first, capitals⟩ := List.forall_mem_cons.mp capitals
  rw [isInfix_chars_iff first capitals (List.concat_ne_nil a.last w) identifier]
  refine exists_congr fun front => exists_congr fun back => and_congr_right fun split => ?_
  apply capitalNext_iff
  intro d member
  apply identifier
  rw [← split]
  exact List.mem_append_right _ member

end Acronym

end Label

/-- An acronym that ends an identifier is whole in the label, behind the label of what is before it.
Any other acronym is cut: before an underscore, a digit or a small letter its last letter stands
apart, in lower case. The label then has all its letters in a row only if the identifier has them
once more, at its end or inside a longer acronym. -/
theorem acronym_inLabel {name : String}
    (identifier : ∀ c ∈ name.toList, Label.isIdentifierChar c = true)
    (a : Label.Acronym name.toList) :
    (a.after = [] → (label name).toList =
        Label.chars a.before ++ (if a.before.isEmpty then [] else [' ']) ++ a.run) ∧
      (a.after ≠ [] → (label name).toList =
        Label.chars a.before ++ (if a.before.isEmpty then [] else [' ']) ++ a.run.dropLast ++
          ' ' :: a.last.toLower :: Label.rest a.last a.after) ∧
      (a.run <:+: (label name).toList ↔ ∃ front back, front ++ a.run ++ back = name.toList ∧
        ∀ c ∈ back.head?, c.isUpper = true) := by
  have written : (label name).toList = Label.chars name.toList := String.toList_ofList
  rw [written]
  exact ⟨a.chars_whole identifier, a.chars_cut identifier, a.isInfix_iff identifier⟩

/-- One acronym is cut before an underscore, and the other is whole. -/
theorem acronym_inLabel_url :
    "getHTTP_URL".toList.all Label.isIdentifierChar = true ∧
      ∃ cut whole : Label.Acronym "getHTTP_URL".toList,
        cut.run = "HTTP".toList ∧ cut.after ≠ [] ∧
          (label "getHTTP_URL").toList = "Get HTT p  URL".toList ∧
          whole.run = "URL".toList ∧ whole.after = [] ∧
          (label "getHTTP_URL").toList = Label.chars "getHTTP_".toList ++ [' '] ++ "URL".toList ∧
          whole.run <:+: (label "getHTTP_URL").toList := by
  have identifier : "getHTTP_URL".toList.all Label.isIdentifierChar = true := by decide
  have letters := List.all_eq_true.mp identifier
  let cut : Label.Acronym "getHTTP_URL".toList :=
    ⟨"get".toList, "HTTP".toList, "_URL".toList, rfl, List.all_eq_true.mp rfl, by decide,
      by rintro _ ⟨⟩; rfl, by rintro _ ⟨⟩; rfl⟩
  let whole : Label.Acronym "getHTTP_URL".toList :=
    ⟨"getHTTP_".toList, "URL".toList, [], rfl, List.all_eq_true.mp rfl, by decide,
      by rintro _ ⟨⟩; rfl, nofun⟩
  have goesOn : cut.after ≠ [] := List.cons_ne_nil _ _
  have standsIn := (acronym_inLabel letters whole).2.2.mpr ⟨whole.before, [], whole.split, nofun⟩
  exact ⟨identifier, cut, whole, rfl, goesOn, (acronym_inLabel letters cut).2.1 goesOn, rfl, rfl,
    (acronym_inLabel letters whole).1 rfl, standsIn⟩

/-- The acronyms before an underscore and before a digit are not in these labels. -/
theorem acronym_broken :
    (∃ a : Label.Acronym "HTTP_code".toList, a.run = "HTTP".toList ∧ a.after.head? = some '_' ∧
        label "HTTP_code" = "HTT p code" ∧ ¬a.run <:+: (label "HTTP_code").toList) ∧
      ∃ a : Label.Acronym "useHTTP2".toList, a.run = "HTTP".toList ∧ a.after = ['2'] ∧
        label "useHTTP2" = "Use HTT p2" ∧ ¬a.run <:+: (label "useHTTP2").toList :=
  ⟨⟨⟨[], "HTTP".toList, "_code".toList, rfl, List.all_eq_true.mp rfl, by decide, nofun,
        by rintro _ ⟨⟩; rfl⟩, rfl, rfl, rfl, by decide +kernel⟩,
    ⟨⟨"use".toList, "HTTP".toList, ['2'], rfl, List.all_eq_true.mp rfl, by decide,
        by rintro _ ⟨⟩; rfl, by rintro _ ⟨⟩; rfl⟩, rfl, rfl, rfl, by decide +kernel⟩⟩

end ServiceClient

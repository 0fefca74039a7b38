import ServiceClient.Number.Shortest
import ServiceClient.Proofs.NumeralText

/-!
The texts of integers and of floating point numbers are decimal texts. That of an integer is nothing
but digits; that of a finite floating point number has a fraction or an exponent, so it is never
taken for an integer.
-/

namespace ServiceClient

/-! ## Integers -/

/-- The decimal text of an integer. -/
def integerText (n : Int) : DecimalText := ⟨decide (n < 0), Nat.toDigits 10 n.natAbs, [], none⟩

theorem integerText_chars (n : Int) : (integerText n).chars = (toString n).toList := by
  simp only [integerText, DecimalText.chars, DecimalText.signChars, DecimalText.tailChars,
    DecimalText.fractionChars, DecimalText.exponentChars, List.append_nil]
  rw [Int.toString_eq_repr, Int.repr_eq_if]
  by_cases negative : n < 0
  · have magnitude : (-n).toNat = n.natAbs := by omega
    simp [negative, Int.not_le.mpr negative, magnitude]
  · have magnitude : n.toNat = n.natAbs := by omega
    simp [negative, Int.not_lt.mp negative, magnitude]

theorem integerText_proper (n : Int) : (integerText n).Proper where
  whole := allDigits_toDigits n.natAbs
  nonempty := Nat.toDigits_ne_nil
  noLeadingZero := by
    intro front
    by_cases positive : 0 < n.natAbs
    · exact absurd front (head?_toDigits positive)
    · rw [integerText, Nat.eq_zero_of_not_pos positive]
      rfl
  fraction := fun _ member => nomatch member
  exponent := fun _ given => nomatch given

theorem integerText_value (n : Int) :
    signedInt (integerText n).negative (digitsValue (integerText n).whole) = n := by
  simp only [integerText, digitsValue_toDigits, signedInt]
  by_cases negative : n < 0
  · rw [decide_eq_true negative, if_pos rfl]
    omega
  · rw [decide_eq_false negative, if_neg Bool.false_ne_true]
    omega

/-- The text of an integer is read as that integer. -/
theorem integer?_toString {n : Int} (short : (Nat.toDigits 10 n.natAbs).length ≤ maxDigits) :
    integer? (toString n) = some n := by
  have read : integer? (String.ofList (integerText n).chars) = _ :=
    integer?_whole (integerText_proper n) short
  rw [integerText_chars, String.ofList_toList] at read
  exact read.trans (congrArg some (integerText_value n))

/-! ## Floating point numbers -/

namespace Binary64

theorem powerRatio_pos {base : Nat} (positive : 0 < base) (exponent : Int) :
    0 < (powerRatio base exponent).1 ∧ 0 < (powerRatio base exponent).2 := by
  unfold powerRatio
  split
  · exact ⟨Nat.pow_pos positive, Nat.one_pos⟩
  · exact ⟨Nat.one_pos, Nat.pow_pos positive⟩

/-- Zero does not round to a positive number. -/
theorem Scaled.reads_zero {s : Scaled} (positive : 0 < s.mantissa) {den : Nat} (den_pos : 0 < den) :
    s.reads 0 den = false := by
  have unit : 0 < den * (powerRatio 2 (s.place - 2)).1 :=
    Nat.mul_pos den_pos (powerRatio_pos (by decide) _).1
  have low : 0 < (if s.mantissa = Nat.pow 2 52 && s.place ≠ minExponent then 4 * s.mantissa - 1
      else 4 * s.mantissa - 2) := by
    split <;> omega
  have above := Nat.mul_pos low unit
  simp only [Scaled.reads, Nat.zero_mul]
  split
  · rw [decide_eq_false (Nat.not_le.mpr above), Bool.false_and]
  · rw [decide_eq_false (Nat.not_lt_zero _), Bool.false_and]

theorem Scaled.onGrid?_pos {s : Scaled} (positive : 0 < s.mantissa) {point : Int} {count k : Nat}
    (found : s.onGrid? point count = some k) : 0 < k := by
  have gridDen : 0 < (powerRatio 10 (point - count)).2 := (powerRatio_pos (by decide) _).2
  unfold Scaled.onGrid? at found
  dsimp only at found
  split at found
  · rename_i below _
    split at found
    · obtain rfl := Option.some.inj found
      apply Nat.pos_of_ne_zero
      intro zero
      rw [zero, Nat.zero_mul, Scaled.reads_zero positive gridDen] at below
      cases below
    · obtain rfl := Option.some.inj found
      exact Nat.succ_pos _
  · rename_i below _
    obtain rfl := Option.some.inj found
    apply Nat.pos_of_ne_zero
    intro zero
    rw [zero, Nat.zero_mul, Scaled.reads_zero positive gridDen] at below
    cases below
  · obtain rfl := Option.some.inj found
    exact Nat.succ_pos _
  · cases found

theorem Scaled.search_pos {s : Scaled} (positive : 0 < s.mantissa) (point : Int)
    (tries count : Nat) : 0 < (s.search point tries count).1 := by
  induction tries generalizing count with
  | zero => exact positive
  | succ tries ih =>
    unfold Scaled.search
    split
    · rename_i digits found
      exact Scaled.onGrid?_pos positive found
    · exact ih (count + 1)

theorem Scaled.ofDyadic_pos {n : Nat} (positive : 0 < n) (k : Int) :
    0 < (Scaled.ofDyadic n k).mantissa :=
  Nat.mul_pos positive (Nat.pow_pos (by decide))

/-- Digits of which there are some, the first of them no zero. -/
structure Significant (ds : List Char) : Prop where
  all : AllDigits ds
  nonempty : ds ≠ []
  front : ds.head? ≠ some '0'

theorem dropZeros_significant {ds : List Char} (significant : Significant ds) :
    Significant (dropZeros ds) := by
  obtain ⟨c, cs, rfl⟩ := List.exists_cons_of_ne_nil significant.nonempty
  have front : (c == '0') = false := by simpa using significant.front
  obtain ⟨ds, dropped, inside⟩ : ∃ ds, dropZeros (c :: cs) = c :: ds ∧ ∀ d ∈ ds, d ∈ cs := by
    rw [dropZeros, List.reverse_cons, List.dropWhile_append]
    split
    · exact ⟨[], by simp [front], by simp⟩
    · refine ⟨(cs.reverse.dropWhile (· == '0')).reverse, by simp, fun d member => ?_⟩
      have sublist := List.dropWhile_sublist (l := cs.reverse) (· == '0')
      simpa using sublist.subset (List.mem_reverse.mp member)
  rw [dropped]
  refine ⟨fun d member => ?_, List.cons_ne_nil c ds, significant.front⟩
  rcases List.mem_cons.mp member with rfl | later
  · exact significant.all d List.mem_cons_self
  · exact significant.all d (List.mem_cons_of_mem c (inside d later))

theorem shortestDigits_significant {s : Scaled} (positive : 0 < s.mantissa) :
    Significant (shortestDigits s).1 :=
  dropZeros_significant
    ⟨allDigits_toDigits _, Nat.toDigits_ne_nil, head?_toDigits (Scaled.search_pos positive _ 17 1)⟩

theorem Significant.append {ds : List Char} (significant : Significant ds) {cs : List Char}
    (all : AllDigits cs) : Significant (ds ++ cs) := by
  obtain ⟨d, ds, rfl⟩ := List.exists_cons_of_ne_nil significant.nonempty
  exact ⟨List.forall_mem_append.mpr ⟨significant.all, all⟩, List.cons_ne_nil _ _,
    significant.front⟩

theorem Significant.take {ds : List Char} (significant : Significant ds) {n : Nat}
    (positive : 0 < n) : Significant (ds.take n) := by
  obtain ⟨d, ds, rfl⟩ := List.exists_cons_of_ne_nil significant.nonempty
  obtain ⟨n, rfl⟩ := Nat.exists_eq_add_of_lt positive
  refine ⟨fun c member => significant.all c (List.mem_of_mem_take member), ?_, ?_⟩
  · simp
  · simpa using significant.front

theorem proper_of_significant {negative : Bool} {whole fraction : List Char}
    {exponent : Option (Bool × List Char)} (significant : Significant whole)
    (digits : AllDigits fraction) (power : ∀ e ∈ exponent, AllDigits e.2 ∧ e.2 ≠ []) :
    (⟨negative, whole, fraction, exponent⟩ : DecimalText).Proper where
  whole := significant.all
  nonempty := significant.nonempty
  noLeadingZero := fun zero => absurd zero significant.front
  fraction := digits
  exponent := power

theorem proper_below_one {negative : Bool} {fraction : List Char} (digits : AllDigits fraction) :
    (⟨negative, ['0'], fraction, none⟩ : DecimalText).Proper where
  whole := by simp [AllDigits]
  nonempty := by simp
  noLeadingZero := fun _ => rfl
  fraction := digits
  exponent := fun _ given => nomatch given

theorem allDigits_zeros (n : Nat) : AllDigits (List.replicate n '0') := by
  intro c member
  obtain rfl := List.eq_of_mem_replicate member
  rfl

/-- An exponent is written with at least two digits. -/
theorem padded_digits {ds padded : List Char} {n : Nat} (all : AllDigits ds) (nonempty : ds ≠ [])
    (value : digitsValue ds = n) (same : (if ds.length < 2 then '0' :: ds else ds) = padded) :
    (AllDigits padded ∧ padded ≠ []) ∧ digitsValue padded = n := by
  subst same
  split
  · refine ⟨⟨List.forall_mem_cons.mpr ⟨rfl, all⟩, List.cons_ne_nil _ _⟩, ?_⟩
    exact (digitsValue_append ['0'] ds).trans ((Nat.zero_add _).trans value)
  · exact ⟨⟨all, nonempty⟩, value⟩

/-- Characters are, after a sign, a decimal text of the number `0.digits * 10 ^ point`, and not one
of an integer. -/
def LaidOut (negative : Bool) (ds : List Char) (point : Int) (cs : List Char) : Prop :=
  ∃ t : DecimalText, t.Proper ∧ t.isWhole = false ∧
    t.chars = DecimalText.signChars negative ++ cs ∧ t.Writes negative ds point

section

variable {ds : List Char} {point : Int} {negative : Bool}

theorem laidOut_below_one (significant : Significant ds) (low : point ≤ 0) :
    LaidOut negative ds point ('0' :: '.' :: List.replicate (-point).toNat '0' ++ ds) := by
  refine ⟨⟨negative, ['0'], List.replicate (-point).toNat '0' ++ ds, none⟩, ?_, ?_, ?_, rfl, 0,
    ?_, ?_⟩
  · exact proper_below_one (List.forall_mem_append.mpr ⟨allDigits_zeros _, significant.all⟩)
  · simp [DecimalText.isWhole, significant.nonempty]
  · obtain ⟨d, ds, rfl⟩ := List.exists_cons_of_ne_nil significant.nonempty
    cases h : (-point).toNat <;> simp [DecimalText.chars, DecimalText.tailChars,
      DecimalText.fractionChars, DecimalText.exponentChars, List.replicate_succ]
  · have front : digitsValue ['0'] = 0 := rfl
    simp only [digitsValue_append, digitsValue_zeros, front, Nat.mul_zero, Nat.zero_add,
      Nat.pow_zero, Nat.mul_one]
  · simp only [DecimalText.toNumeral, Option.map_none, Option.getD_none, List.length_append,
      List.length_replicate]
    omega

theorem laidOut_whole (significant : Significant ds) (short : ds.length ≤ point.toNat) :
    LaidOut negative ds point
      (ds ++ List.replicate (point.toNat - ds.length) '0' ++ ['.', '0']) := by
  refine ⟨⟨negative, ds ++ List.replicate (point.toNat - ds.length) '0', ['0'], none⟩,
    proper_of_significant (significant.append (allDigits_zeros _)) (allDigits_zeros 1)
      (fun _ given => nomatch given), rfl, ?_, rfl, point.toNat - ds.length + 1, ?_, ?_⟩
  · simp [DecimalText.chars, DecimalText.tailChars, DecimalText.fractionChars,
      DecimalText.exponentChars]
  · have last : digitsValue ['0'] = 0 := rfl
    rw [digitsValue_append, digitsValue_append, digitsValue_zeros, last, List.length_replicate,
      Nat.add_zero, Nat.add_zero, Nat.pow_succ, List.length_singleton, Nat.pow_one, Nat.mul_comm,
      Nat.mul_comm (10 ^ _), Nat.mul_assoc]
  · have some := List.length_pos_iff.mpr significant.nonempty
    simp only [DecimalText.toNumeral, Option.map_none, Option.getD_none, List.length_singleton]
    omega

theorem laidOut_among (significant : Significant ds) (positive : 0 < point)
    (long : point.toNat < ds.length) :
    LaidOut negative ds point (ds.take point.toNat ++ '.' :: ds.drop point.toNat) := by
  obtain ⟨c, cs, dropped⟩ := List.exists_cons_of_ne_nil (l := ds.drop point.toNat)
    (by simpa using long)
  refine ⟨⟨negative, ds.take point.toNat, ds.drop point.toNat, none⟩,
    proper_of_significant (significant.take (by omega))
      (fun c member => significant.all c (List.mem_of_mem_drop member))
      (fun _ given => nomatch given), ?_, ?_, rfl, 0, ?_, ?_⟩
  · simp [DecimalText.isWhole, dropped]
  · simp [DecimalText.chars, DecimalText.tailChars, DecimalText.fractionChars,
      DecimalText.exponentChars, dropped]
  · simp
  · simp only [DecimalText.toNumeral, Option.map_none, Option.getD_none, List.length_drop]
    omega

theorem laidOut_exponent (significant : Significant ds) {padded : List Char}
    (same : (if (Nat.toDigits 10 (point - 1).natAbs).length < 2 then
      '0' :: Nat.toDigits 10 (point - 1).natAbs else Nat.toDigits 10 (point - 1).natAbs) = padded) :
    LaidOut negative ds point
      (ds.take 1 ++ (if (ds.drop 1).isEmpty then [] else '.' :: ds.drop 1) ++
        'e' :: (if point - 1 < 0 then '-' else '+') :: padded) := by
  obtain ⟨paddedDigits, paddedValue⟩ := padded_digits (allDigits_toDigits _) Nat.toDigits_ne_nil
    (digitsValue_toDigits _) same
  refine ⟨⟨negative, ds.take 1, ds.drop 1, some (decide (point - 1 < 0), padded)⟩,
    proper_of_significant (significant.take Nat.one_pos)
      (fun c member => significant.all c (List.mem_of_mem_drop member)) ?_, ?_, ?_, rfl, 0, ?_, ?_⟩
  · rintro e ⟨⟩
    exact paddedDigits
  · simp [DecimalText.isWhole]
  · cases rest : ds.drop 1 <;> simp [DecimalText.chars, DecimalText.tailChars,
      DecimalText.fractionChars, DecimalText.exponentChars]
  · simp only [List.take_append_drop, Nat.pow_zero, Nat.mul_one]
  · have some := List.length_pos_iff.mpr significant.nonempty
    have exponent : signedInt (decide (point - 1 < 0)) (digitsValue padded) = point - 1 := by
      simp only [signedInt, paddedValue, decide_eq_true_eq]
      split <;> omega
    simp only [DecimalText.toNumeral, Option.map_some, Option.getD_some, exponent, List.length_drop]
    omega

/-- Digits that are laid out are a decimal text of their number. -/
theorem layOut_laidOut (significant : Significant ds) (point : Int) (negative : Bool) :
    LaidOut negative ds point (layOut ds point) := by
  unfold layOut
  split
  · split
    · exact laidOut_below_one significant ‹_›
    · split
      · exact laidOut_whole significant ‹_›
      · exact laidOut_among significant (by omega) (by omega)
  · exact laidOut_exponent significant rfl

end

/-- The text of a finite number has a fraction or an exponent. -/
theorem text_chars {x : Binary64} {value : Dyadic} (finite : x.dyadic? = some value) :
    ∃ t : DecimalText, t.Proper ∧ t.isWhole = false ∧ t.chars = x.text.toList := by
  cases x with
  | nan | infinite negative => cases finite
  | negativeZero => exact ⟨⟨true, _, _, _⟩, proper_below_one (allDigits_zeros 1), rfl, rfl⟩
  | finite d =>
    cases d with
    | zero => exact ⟨⟨false, _, _, _⟩, proper_below_one (allDigits_zeros 1), rfl, rfl⟩
    | ofOdd n k odd =>
      have positive : 0 < n.natAbs := by omega
      obtain ⟨t, proper, notWhole, same, -⟩ := layOut_laidOut
        (shortestDigits_significant (Scaled.ofDyadic_pos positive k))
        (shortestDigits (Scaled.ofDyadic n.natAbs k)).2 (decide (n < 0))
      refine ⟨t, proper, notWhole, same.trans ?_⟩
      simp only [text, String.toList_ofList, DecimalText.signChars, decide_eq_true_eq]

end Binary64

/-- The text of a floating point number is not read as an integer. -/
theorem integer?_text (x : Binary64) : integer? x.text = none := by
  cases finite : x.dyadic? with
  | none =>
    cases x with
    | nan => rfl
    | infinite negative => cases negative <;> rfl
    | negativeZero | finite d => cases finite
  | some value =>
    obtain ⟨t, proper, notWhole, same⟩ := Binary64.text_chars finite
    rw [← String.ofList_toList (s := x.text), ← same]
    exact integer?_notWhole proper notWhole

/-- Whether the text of a number is read as that number, if it is one of floating point. -/
def Value.readsBack : Value → Bool
  | float x => floating? x.text == some x
  | _ => true

end ServiceClient

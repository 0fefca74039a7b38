import ServiceClient.Proofs.NumberInput

/-!
Texts of JSON that are the same to every reader. A text may escape half a surrogate pair, which is
no character, and it may be nested deeper than a reader can follow that calls itself for what is
inside a value. In an ordinary text (`Json.IsOrdinary`) the halves come in pairs, so that every
string is read as the units it spells (`readString_units`), and the values in it are no deeper than
its brackets (`parse_depth_le`).
-/

namespace ServiceClient

/-- How many layers anything may have. A walk over a few times as many, with some calls for each,
has fewer than a thousand calls inside one another, which is where they are cut off. -/
def reach : Nat := 100

namespace Json

/-! ## What is ordinary -/

/-- Whether a unit is the first half of a surrogate pair. -/
def isHigh (unit? : Option Nat) : Bool := unit?.any fun unit => 0xd800 ≤ unit && unit < 0xdc00

/-- Whether a unit is the second half of a surrogate pair. -/
def isLow (unit? : Option Nat) : Bool := unit?.any fun unit => 0xdc00 ≤ unit && unit < 0xe000

/-- The units that are escaped in a text, with none for any other character or escape. -/
def units : List Char → List (Option Nat)
  | '\\' :: 'u' :: a :: b :: c :: d :: next :: rest =>
    hexValue? [a, b, c, d] :: units (next :: rest)
  | '\\' :: _ :: rest | _ :: rest => none :: units rest
  | [] => []

/-- The units that a string spells up to the quote that closes it: those of its characters and of
the escapes of one letter, and those it escapes, as they stand. -/
def spelledUnits : List Char → List Nat
  | '"' :: _ => []
  | '\\' :: 'u' :: a :: b :: c :: d :: rest => (hexValue? [a, b, c, d]).toList ++ spelledUnits rest
  | '\\' :: e :: rest =>
    (shortEscapes.lookup e).toList.flatMap (fun c => utf16Units c.toNat) ++ spelledUnits rest
  | c :: rest => utf16Units c.toNat ++ spelledUnits rest
  | [] => []

/-- Whether second halves stand right behind first halves, and nowhere else. -/
def halvesPaired : (afterHigh : Bool) → List (Option Nat) → Bool
  | afterHigh, [] => !afterHigh
  | afterHigh, unit? :: rest => afterHigh == isLow unit? && halvesPaired (isHigh unit?) rest

mutual

/-- How deep the brackets in a text go from where `depth` of them are open. -/
def nestingFrom : (depth : Nat) → List Char → Nat
  | depth, [] => depth
  | depth, c :: rest =>
    if c = '"' then nestingInString depth rest
    else if c = '[' ∨ c = '\x7b' then nestingFrom (depth + 1) rest
    else if c = ']' ∨ c = '\x7d' then max depth (nestingFrom (depth - 1) rest)
    else nestingFrom depth rest

/-- The same from inside a string, where brackets do not count. -/
def nestingInString : (depth : Nat) → List Char → Nat
  | depth, '"' :: rest => nestingFrom depth rest
  | depth, '\\' :: _ :: rest => nestingInString depth rest
  | depth, _ :: rest => nestingInString depth rest
  | depth, [] => depth

end

/-- How deep the brackets of a text are nested. -/
def nesting (text : String) : Nat := nestingFrom 0 text.toList

/-- A text is read the same by every reader, whatever that does with half a surrogate pair, and
without going deeper than it can. -/
structure IsOrdinary (text : String) : Prop where
  paired : halvesPaired false (units text.toList) = true
  shallow : nesting text ≤ reach

/-! ## Pairs -/

theorem hexDigit?_lt {c : Char} {d : Nat} (digit : hexDigit? c = some d) : d < 16 := by
  unfold hexDigit? at digit
  have zero : '0'.toNat = 48 := rfl
  have small : 'a'.toNat = 97 ∧ 'f'.toNat = 102 := ⟨rfl, rfl⟩
  have large : 'A'.toNat = 65 ∧ 'F'.toNat = 70 := ⟨rfl, rfl⟩
  split at digit
  · rename_i decimal
    have bounds := isDigit_bounds decimal
    obtain rfl := Option.some.inj digit
    omega
  split at digit
  · rename_i among
    simp only [Bool.and_eq_true, decide_eq_true_eq, Char.le_def, UInt32.le_iff_toNat_le] at among
    change 97 ≤ c.toNat ∧ c.toNat ≤ 102 at among
    obtain rfl := Option.some.inj digit
    omega
  split at digit
  · rename_i among
    simp only [Bool.and_eq_true, decide_eq_true_eq, Char.le_def, UInt32.le_iff_toNat_le] at among
    change 65 ≤ c.toNat ∧ c.toNat ≤ 70 at among
    obtain rfl := Option.some.inj digit
    omega
  · cases digit

/-- What has a value is hexadecimal digits, and the value has no more of them. -/
theorem hexValue?_eq_some {digits : List Char} {unit : Nat}
    (value : hexValue? digits = some unit) :
    (∀ c ∈ digits, (hexDigit? c).isSome) ∧ unit < 16 ^ digits.length := by
  have from_ : ∀ start, digits.foldlM (fun value c => (hexDigit? c).map (16 * value + ·)) start =
      some unit →
      (∀ c ∈ digits, (hexDigit? c).isSome) ∧ unit < (start + 1) * 16 ^ digits.length := by
    clear value
    induction digits with
    | nil =>
      intro start value
      obtain rfl := Option.some.inj value
      exact ⟨List.forall_mem_nil _, by simp⟩
    | cons c digits ih =>
      intro start value
      rw [List.foldlM_cons] at value
      obtain ⟨next, here, later⟩ := Option.bind_eq_some_iff.mp value
      obtain ⟨d, digit, rfl⟩ := Option.map_eq_some_iff.mp here
      obtain ⟨others, bound⟩ := ih _ later
      have one : 16 * start + d + 1 ≤ (start + 1) * 16 := by
        have := hexDigit?_lt digit
        omega
      refine ⟨List.forall_mem_cons.mpr ⟨by rw [digit]; rfl, others⟩, ?_⟩
      rw [List.length_cons, Nat.pow_succ, Nat.mul_comm _ 16, ← Nat.mul_assoc]
      exact Nat.lt_of_lt_of_le bound (Nat.mul_le_mul_right _ one)
  simpa using from_ 0 value

/-- A unit is read from four digits, with something behind them. -/
theorem readUnit_eq_ok {mark cs rest : List Char} {unit : Nat} (behind : mark.drop 1 = cs)
    (read : readUnit mark = .ok (unit, rest)) :
    ∃ a b c d next more, cs = a :: b :: c :: d :: next :: more ∧ rest = next :: more ∧
      hexValue? [a, b, c, d] = some unit := by
  simp only [readUnit, behind] at read
  split at read
  · cases read
  rename_i enough
  rcases cs with _ | ⟨a, _ | ⟨b, _ | ⟨c, _ | ⟨d, _ | ⟨next, more⟩⟩⟩⟩⟩
  iterate 5 exact absurd (by simp) enough
  split at read
  · rename_i unit' value
    obtain ⟨rfl, rfl⟩ := Prod.mk.inj (Except.ok.inj read)
    exact ⟨a, b, c, d, next, more, rfl, rfl, value⟩
  · cases read

/-- Behind a first half stands the escape of a second one. -/
theorem exists_low {cs : List Char} (paired : halvesPaired true (units cs) = true) :
    ∃ low a b c d next more, cs = '\\' :: 'u' :: a :: b :: c :: d :: next :: more ∧
      hexValue? [a, b, c, d] = some low ∧ (0xdc00 ≤ low ∧ low < 0xe000) ∧
      halvesPaired false (units (next :: more)) = true := by
  unfold units at paired
  split at paired
  · rename_i a b c d next more
    simp only [halvesPaired, Bool.and_eq_true, beq_iff_eq] at paired
    obtain ⟨isSecond, behind⟩ := paired
    cases value : hexValue? [a, b, c, d] with
    | none => simp [value, isLow] at isSecond
    | some low =>
      have range : 0xdc00 ≤ low ∧ low < 0xe000 := by simpa [value, isLow] using isSecond
      have notFirst : isHigh (some low) = false := by simp [isHigh]; omega
      rw [value, notFirst] at behind
      exact ⟨low, a, b, c, d, next, more, rfl, value, range, behind⟩
  all_goals simp [halvesPaired, isLow] at paired

theorem toNat_ofNat {n : Nat} (valid : n.isValidChar) : (Char.ofNat n).toNat = n :=
  congrArg Char.toNat (dif_pos valid)

/-- The units of the character that a pair spells are those of the pair. -/
theorem utf16Units_pair {high low : Nat} (first : 0xd800 ≤ high ∧ high < 0xdc00)
    (second : 0xdc00 ≤ low ∧ low < 0xe000) :
    utf16Units (Char.ofNat (0x10000 + (high - 0xd800) * 0x400 + (low - 0xdc00))).toNat =
      [high, low] := by
  let n := 0x10000 + (high - 0xd800) * 0x400 + (low - 0xdc00)
  have valid : n.isValidChar := by
    unfold Nat.isValidChar
    omega
  have large : ¬n < 0x10000 := by omega
  have quotient : 0xd800 + (n - 0x10000) / 0x400 = high := by omega
  have remainder : 0xdc00 + (n - 0x10000) % 0x400 = low := by omega
  rw [toNat_ofNat valid, utf16Units, if_neg large, quotient, remainder]

theorem units_other {c : Char} {cs : List Char} (other : c ≠ '\\') :
    units (c :: cs) = none :: units cs := by
  rw [units]
  · rintro a b x d next more rfl
    exact absurd rfl other
  · rintro e more rfl
    exact absurd rfl other

theorem units_escape {e : Char} {cs : List Char} (other : e ≠ 'u') :
    units ('\\' :: e :: cs) = none :: units cs := by
  rw [units]
  rintro a b x d next more rfl
  exact absurd rfl other

theorem spelledUnits_escape {e c : Char} {cs : List Char} (other : e ≠ 'u')
    (short : shortEscapes.lookup e = some c) :
    spelledUnits ('\\' :: e :: cs) = utf16Units c.toNat ++ spelledUnits cs := by
  rw [spelledUnits, short]
  · simp
  · rintro a b x d more rfl
    exact absurd rfl other

theorem spelledUnits_other {c : Char} {cs : List Char} (notQuote : c ≠ '"')
    (notBackslash : c ≠ '\\') :
    spelledUnits (c :: cs) = utf16Units c.toNat ++ spelledUnits cs := by
  rw [spelledUnits]
  · exact notQuote
  · rintro a b x d more rfl
    exact absurd rfl notBackslash
  · rintro e more rfl
    exact absurd rfl notBackslash

/-- What is no half does not come between the halves of a pair. -/
theorem halvesPaired_none {units : List (Option Nat)} :
    halvesPaired false (none :: units) = halvesPaired false units := by
  simp [halvesPaired, isHigh, isLow]

/-- In a text whose halves are paired, the character of an escape is the one that is spelled there:
its units are the unit that was read, or the two of them. -/
theorem readUnicode_units {cs rest : List Char} {c : Char}
    (paired : halvesPaired false (units ('\\' :: 'u' :: cs)) = true)
    (read : readUnicode ('u' :: cs) = .ok (c, rest)) :
    spelledUnits ('\\' :: 'u' :: cs) = utf16Units c.toNat ++ spelledUnits rest ∧
      halvesPaired false (units rest) = true := by
  obtain ⟨⟨unit, behind⟩, first, read⟩ := bind_eq_ok.mp read
  obtain ⟨a, b, x, d, next, more, rfl, rfl, value⟩ := readUnit_eq_ok rfl first
  have small : unit < 0x10000 := by simpa using (hexValue?_eq_some value).2
  simp only [units, value, halvesPaired, Bool.and_eq_true, beq_iff_eq] at paired
  obtain ⟨notLow, paired⟩ := paired
  rw [spelledUnits, value]
  dsimp only at read
  split at read
  · rename_i high
    have isFirst : isHigh (some unit) = true := high
    rw [isFirst] at paired
    obtain ⟨low, a', b', x', d', next', more', same, value', range, behind⟩ := exists_low paired
    obtain ⟨rfl, rfl⟩ := List.cons.inj same
    have second : readUnit ('u' :: a' :: b' :: x' :: d' :: next' :: more') =
        .ok (low, next' :: more') := by simp [readUnit, value']
    have long : ¬(a' :: b' :: x' :: d' :: next' :: more').length < 5 := by simp
    simp only [if_neg long, second, ok_bind, range, decide_true, Bool.and_self, if_true] at read
    obtain ⟨rfl, rfl⟩ := Prod.mk.inj (Except.ok.inj read)
    simp only [Bool.and_eq_true, decide_eq_true_eq] at high
    rw [spelledUnits, value', utf16Units_pair high range]
    exact ⟨rfl, behind⟩
  · rename_i notHigh
    have notFirst : isHigh (some unit) = false := by simpa [isHigh] using notHigh
    rw [notFirst] at paired
    have notLow' : ¬(0xdc00 ≤ unit && unit < 0xe000) = true := by
      rw [Bool.not_eq_true]
      exact notLow.symm
    rw [if_neg notLow'] at read
    obtain ⟨rfl, rfl⟩ := Prod.mk.inj (Except.ok.inj read)
    simp only [Bool.and_eq_true, decide_eq_true_eq] at notHigh notLow'
    have valid : unit.isValidChar := by
      unfold Nat.isValidChar
      omega
    rw [toNat_ofNat valid, utf16Units, if_pos small]
    exact ⟨rfl, paired⟩

/-- In a text whose halves are paired, a string is read as what is spelled there, and what follows
it is such a text again. -/
theorem readString_units {opening cs rest s : List Char} {fuel : Nat}
    (paired : halvesPaired false (units cs) = true)
    (read : readString opening fuel cs = .ok (s, rest)) :
    s.flatMap (fun c => utf16Units c.toNat) = spelledUnits cs ∧
      halvesPaired false (units rest) = true := by
  induction fuel generalizing cs s with
  | zero => simp [readString, fail] at read
  | succ fuel ih =>
    cases cs with
    | nil => simp [readString, fail] at read
    | cons c cs =>
      unfold readString at read
      split at read
      · rename_i quote
        obtain ⟨rfl, rfl⟩ := Prod.mk.inj (Except.ok.inj read)
        rw [quote, units_other (by decide), halvesPaired_none] at paired
        rw [quote, spelledUnits]
        exact ⟨rfl, paired⟩
      rename_i notQuote
      split at read
      · rename_i backslash
        rw [backslash] at paired ⊢
        split at read
        · cases read
        · obtain ⟨⟨e, behind⟩, escape, read⟩ := bind_eq_ok.mp read
          obtain ⟨⟨more, end'⟩, later, done⟩ := bind_eq_ok.mp read
          obtain ⟨rfl, rfl⟩ := Prod.mk.inj (Except.ok.inj done)
          obtain ⟨here, paired⟩ := readUnicode_units paired escape
          obtain ⟨same, paired⟩ := ih paired later
          rw [here, List.flatMap_cons, same]
          exact ⟨rfl, paired⟩
        · rename_i e cs notUnit
          split at read
          · rename_i short found
            simp only [ok_bind] at read
            obtain ⟨⟨more, end'⟩, later, done⟩ := bind_eq_ok.mp read
            obtain ⟨rfl, rfl⟩ := Prod.mk.inj (Except.ok.inj done)
            rw [units_escape notUnit, halvesPaired_none] at paired
            obtain ⟨same, paired⟩ := ih paired later
            rw [spelledUnits_escape notUnit found, List.flatMap_cons, same]
            exact ⟨rfl, paired⟩
          · cases read
      rename_i notBackslash
      split at read
      · cases read
      · obtain ⟨⟨more, end'⟩, later, done⟩ := bind_eq_ok.mp read
        obtain ⟨rfl, rfl⟩ := Prod.mk.inj (Except.ok.inj done)
        rw [units_other notBackslash, halvesPaired_none] at paired
        obtain ⟨same, paired⟩ := ih paired later
        rw [spelledUnits_other notQuote notBackslash, List.flatMap_cons, same]
        exact ⟨rfl, paired⟩

/-! ## Depth -/

section

variable {depth : Nat} {cs rest : List Char} {c : Char}

/-- Whether a character is neither a bracket nor a quote. -/
def isQuiet (c : Char) : Bool := !(['"', '[', ']', '\x7b', '\x7d'].contains c)

theorem nestingFrom_quiet (quiet : isQuiet c = true) :
    nestingFrom depth (c :: cs) = nestingFrom depth cs := by
  simp only [isQuiet, Bool.not_eq_true', List.contains_eq_mem, decide_eq_false_iff_not,
    List.mem_cons, List.not_mem_nil, or_false, not_or] at quiet
  simp [nestingFrom, quiet]

theorem nestingFrom_append (front : List Char) (quiet : ∀ c ∈ front, isQuiet c = true) :
    nestingFrom depth (front ++ rest) = nestingFrom depth rest := by
  induction front with
  | nil => rfl
  | cons c front ih =>
    obtain ⟨here, later⟩ := List.forall_mem_cons.mp quiet
    rw [List.cons_append, nestingFrom_quiet here, ih later]

theorem nestingInString_escape {e : Char} :
    nestingInString depth ('\\' :: e :: rest) = nestingInString depth rest := by
  rw [nestingInString]

theorem nestingInString_other (notQuote : c ≠ '"') (notBackslash : c ≠ '\\') :
    nestingInString depth (c :: rest) = nestingInString depth rest := by
  rw [nestingInString]
  · exact notQuote
  · rintro e rest' rfl
    exact absurd rfl notBackslash

theorem nestingInString_append (front : List Char) (other : ∀ c ∈ front, c ≠ '"' ∧ c ≠ '\\') :
    nestingInString depth (front ++ rest) = nestingInString depth rest := by
  induction front with
  | nil => rfl
  | cons c front ih =>
    obtain ⟨⟨notQuote, notBackslash⟩, later⟩ := List.forall_mem_cons.mp other
    rw [List.cons_append, nestingInString_other notQuote notBackslash, ih later]

mutual

/-- Brackets that are open are counted. -/
theorem le_nestingFrom (depth : Nat) : (cs : List Char) → depth ≤ nestingFrom depth cs
  | [] => by simp [nestingFrom]
  | c :: rest => by
    have inString := le_nestingInString depth rest
    have deeper := le_nestingFrom (depth + 1) rest
    have along := le_nestingFrom depth rest
    rw [nestingFrom]
    split
    · exact inString
    split
    · omega
    split
    · omega
    · exact along

theorem le_nestingInString (depth : Nat) : (cs : List Char) → depth ≤ nestingInString depth cs
  | [] => by simp [nestingInString]
  | [c] => by
    have closed := le_nestingFrom depth []
    unfold nestingInString
    split <;> simp_all [nestingInString]
  | c :: e :: rest => by
    have closed := le_nestingFrom depth (e :: rest)
    have skipped := le_nestingInString depth rest
    have along := le_nestingInString depth (e :: rest)
    by_cases quote : c = '"'
    · subst quote
      rwa [nestingInString]
    by_cases backslash : c = '\\'
    · subst backslash
      rwa [nestingInString_escape]
    · rwa [nestingInString_other quote backslash]

end

theorem isQuiet_of_isDigit {c : Char} (digit : c.isDigit = true) : isQuiet c = true := by
  have bounds := isDigit_bounds digit
  simp only [isQuiet, Bool.not_eq_true', List.contains_eq_mem, decide_eq_false_iff_not]
  intro listed
  simp only [List.mem_cons, List.not_mem_nil, or_false] at listed
  rcases listed with rfl | rfl | rfl | rfl | rfl <;> exact absurd bounds (by decide)

theorem isQuiet_of_isJsonBlank {c : Char} (blank : isJsonBlank c = true) : isQuiet c = true := by
  simp only [isJsonBlank, Bool.or_eq_true, beq_iff_eq] at blank
  rcases blank with ((rfl | rfl) | rfl) | rfl <;> rfl

theorem nestingFrom_skipBlanks : nestingFrom depth (skipBlanks cs) = nestingFrom depth cs := by
  have quiet : ∀ c ∈ cs.takeWhile isJsonBlank, isQuiet c = true := fun c member =>
    isQuiet_of_isJsonBlank (List.all_eq_true.mp List.all_takeWhile c member)
  have whole := @nestingFrom_append depth (skipBlanks cs) _ quiet
  rwa [skipBlanks, List.takeWhile_append_dropWhile, eq_comm] at whole

/-- In a number there are no brackets. -/
theorem nestingFrom_readNumber {v : Value} (read : readNumber cs = .ok (v, rest)) :
    nestingFrom depth cs = nestingFrom depth rest ∧ v.depth = 0 := by
  obtain ⟨n, exponent, spelled, rfl, denotes⟩ := readNumber_spells read
  have quiet := forall_mem_chars (fun _ => isQuiet_of_isDigit) (List.all_eq_true.mp rfl) spelled
  refine ⟨nestingFrom_append _ quiet, ?_⟩
  cases denotes <;> rfl

theorem constants_areQuiet :
    ∀ e ∈ constants, (∀ c ∈ e.1.toList, isQuiet c = true) ∧ e.2.depth = 0 := by
  simp only [constants, List.forall_mem_cons]
  refine ⟨⟨?_, rfl⟩, ⟨?_, rfl⟩, ⟨?_, rfl⟩, ⟨?_, rfl⟩, ⟨?_, rfl⟩, ⟨?_, rfl⟩, List.forall_mem_nil _⟩
  all_goals exact List.all_eq_true.mp (by decide)

theorem nestingFrom_takeConstant? {v : Value} (taken : takeConstant? cs = some (v, rest)) :
    nestingFrom depth cs = nestingFrom depth rest ∧ v.depth = 0 := by
  obtain ⟨name, listed, rfl⟩ := takeConstant?_spells taken
  obtain ⟨quiet, leaf⟩ := constants_areQuiet (name, v) listed
  exact ⟨nestingFrom_append _ quiet, leaf⟩

/-- The digits of a unit do not end the string. -/
theorem nestingInString_readUnit {unit : Nat} (read : readUnit ('u' :: cs) = .ok (unit, rest)) :
    nestingInString depth cs = nestingInString depth rest := by
  obtain ⟨a, b, x, d, next, more, rfl, rfl, value⟩ := readUnit_eq_ok rfl read
  refine nestingInString_append [a, b, x, d] fun c member => ?_
  have digit := (hexValue?_eq_some value).1 c member
  constructor <;>
  · rintro rfl
    cases digit

theorem nestingInString_readUnicode {c : Char} (read : readUnicode ('u' :: cs) = .ok (c, rest)) :
    nestingInString depth cs = nestingInString depth rest := by
  obtain ⟨⟨unit, behind⟩, first, read⟩ := bind_eq_ok.mp read
  rw [nestingInString_readUnit first]
  dsimp only at read
  split at read
  · split at read
    · rename_i more
      split at read
      · obtain ⟨-, rfl⟩ := Prod.mk.inj (Except.ok.inj read)
        rfl
      · obtain ⟨⟨low, behind'⟩, second, read⟩ := bind_eq_ok.mp read
        dsimp only at read
        split at read
        · obtain ⟨-, rfl⟩ := Prod.mk.inj (Except.ok.inj read)
          rw [nestingInString_escape, nestingInString_readUnit second]
        · obtain ⟨-, rfl⟩ := Prod.mk.inj (Except.ok.inj read)
          rfl
    · obtain ⟨-, rfl⟩ := Prod.mk.inj (Except.ok.inj read)
      rfl
  · split at read <;>
    · obtain ⟨-, rfl⟩ := Prod.mk.inj (Except.ok.inj read)
      rfl

theorem nestingInString_readString {opening s : List Char} {fuel : Nat}
    (read : readString opening fuel cs = .ok (s, rest)) :
    nestingInString depth cs = nestingFrom depth rest := by
  induction fuel generalizing cs s with
  | zero => simp [readString, fail] at read
  | succ fuel ih =>
    cases cs with
    | nil => simp [readString, fail] at read
    | cons c cs =>
      unfold readString at read
      split at read
      · rename_i quote
        obtain ⟨-, rfl⟩ := Prod.mk.inj (Except.ok.inj read)
        rw [quote, nestingInString]
      rename_i notQuote
      split at read
      · rename_i backslash
        rw [backslash]
        split at read
        · cases read
        · obtain ⟨⟨e, behind⟩, escape, read⟩ := bind_eq_ok.mp read
          obtain ⟨⟨more, end'⟩, later, done⟩ := bind_eq_ok.mp read
          obtain ⟨-, rfl⟩ := Prod.mk.inj (Except.ok.inj done)
          rw [nestingInString_escape, nestingInString_readUnicode escape, ih later]
        · split at read
          · simp only [ok_bind] at read
            obtain ⟨⟨more, end'⟩, later, done⟩ := bind_eq_ok.mp read
            obtain ⟨-, rfl⟩ := Prod.mk.inj (Except.ok.inj done)
            rw [nestingInString_escape, ih later]
          · cases read
      rename_i notBackslash
      split at read
      · cases read
      · obtain ⟨⟨more, end'⟩, later, done⟩ := bind_eq_ok.mp read
        obtain ⟨-, rfl⟩ := Prod.mk.inj (Except.ok.inj done)
        rw [nestingInString_other notQuote notBackslash, ih later]

/-- What is read with some fuel, where some brackets are open, is no deeper than the text goes, and
the text does not go deeper behind it. Elements and members are read up to the bracket that closes
them, which is one of those that are open. -/
structure ReadsWithinNesting (fuel : Nat) : Prop where
  value : ∀ depth {cs rest v}, readValue fuel cs = .ok (v, rest) →
    depth + v.depth ≤ nestingFrom depth cs ∧ nestingFrom depth rest ≤ nestingFrom depth cs
  items : ∀ depth {cs rest vs}, readItems fuel cs = .ok (vs, rest) →
    depth + 1 + depthOfItems vs ≤ nestingFrom (depth + 1) cs ∧
      nestingFrom depth rest ≤ nestingFrom (depth + 1) cs
  entries : ∀ depth {cs rest entries}, readEntries fuel cs = .ok (entries, rest) →
    depth + 1 + depthOfEntries entries ≤ nestingFrom (depth + 1) cs ∧
      nestingFrom depth rest ≤ nestingFrom (depth + 1) cs

theorem nestingFrom_open (opens : c = '[' ∨ c = '\x7b') :
    nestingFrom depth (c :: cs) = nestingFrom (depth + 1) cs := by
  rcases opens with rfl | rfl <;> simp [nestingFrom]

theorem nestingFrom_close (closes : c = ']' ∨ c = '\x7d') :
    nestingFrom (depth + 1) (c :: cs) = max (depth + 1) (nestingFrom depth cs) := by
  rcases closes with rfl | rfl <;> simp [nestingFrom]

theorem nestingFrom_quote : nestingFrom depth ('"' :: cs) = nestingInString depth cs := by
  simp [nestingFrom]

end

section

variable {fuel depth : Nat} {cs rest : List Char}

/-- What stands behind a value and blanks, up to where it ends the list or goes on. -/
theorem ReadsWithinNesting.next (reads : ReadsWithinNesting fuel) (depth : Nat) {v : Value}
    (read : readValue fuel cs = .ok (v, rest)) {behind : List Char}
    (blanks : skipBlanks rest = behind) :
    depth + v.depth ≤ nestingFrom depth cs ∧ nestingFrom depth behind ≤ nestingFrom depth cs := by
  rw [← blanks, nestingFrom_skipBlanks]
  exact reads.value depth read

theorem ReadsWithinNesting.nextValue (reads : ReadsWithinNesting fuel) (depth : Nat) {v : Value}
    (read : readValue (fuel + 1) cs = .ok (v, rest)) :
    depth + v.depth ≤ nestingFrom depth cs ∧ nestingFrom depth rest ≤ nestingFrom depth cs := by
  cases cs with
  | nil => simp [readValue, fail] at read
  | cons c cs =>
    have enough := le_nestingFrom depth (c :: cs)
    unfold readValue at read
    split at read
    · rename_i quote
      obtain ⟨⟨s, behind⟩, string, done⟩ := bind_eq_ok.mp read
      obtain ⟨rfl, rfl⟩ := Prod.mk.inj (Except.ok.inj done)
      rw [quote, nestingFrom_quote] at enough ⊢
      exact ⟨enough, Nat.le_of_eq (nestingInString_readString string).symm⟩
    split at read
    · rename_i bracket
      rw [nestingFrom_open (.inl bracket), ← @nestingFrom_skipBlanks _ cs]
      split at read
      · rename_i closed
        obtain ⟨rfl, rfl⟩ := Prod.mk.inj (Except.ok.inj read)
        rw [closed, nestingFrom_close (.inl rfl)]
        simp only [Value.depth, depthOfItems]
        omega
      · obtain ⟨⟨items, behind⟩, inside, done⟩ := bind_eq_ok.mp read
        obtain ⟨rfl, rfl⟩ := Prod.mk.inj (Except.ok.inj done)
        obtain ⟨deep, later⟩ := reads.items depth inside
        rw [Value.depth]
        omega
    split at read
    · rename_i bracket
      rw [nestingFrom_open (.inr bracket), ← @nestingFrom_skipBlanks _ cs]
      split at read
      · rename_i closed
        obtain ⟨rfl, rfl⟩ := Prod.mk.inj (Except.ok.inj read)
        rw [closed, nestingFrom_close (.inr rfl)]
        simp only [Value.depth, depthOfEntries]
        omega
      · obtain ⟨⟨entries, behind⟩, inside, done⟩ := bind_eq_ok.mp read
        obtain ⟨rfl, rfl⟩ := Prod.mk.inj (Except.ok.inj done)
        obtain ⟨deep, later⟩ := reads.entries depth inside
        have kept : depthOfEntries (entriesOfPairs entries) ≤ depthOfEntries entries := by
          apply depthOfEntries_le_iff.mpr
          intro e entry
          exact depthOfEntries_le_iff.mp (Nat.le_refl _) e (mem_entriesOfPairs entry)
        rw [Value.depth]
        omega
    split at read
    · rename_i found named
      obtain rfl : found = (v, rest) := Except.ok.inj read
      obtain ⟨same, leaf⟩ := @nestingFrom_takeConstant? depth _ _ _ named
      omega
    · obtain ⟨same, leaf⟩ := @nestingFrom_readNumber depth _ _ _ read
      omega

theorem ReadsWithinNesting.nextItems (reads : ReadsWithinNesting fuel) (depth : Nat)
    {vs : List Value} (read : readItems (fuel + 1) cs = .ok (vs, rest)) :
    depth + 1 + depthOfItems vs ≤ nestingFrom (depth + 1) cs ∧
      nestingFrom depth rest ≤ nestingFrom (depth + 1) cs := by
  obtain ⟨⟨v, behind⟩, first, read⟩ := bind_eq_ok.mp read
  dsimp only at read
  split at read
  · rename_i closed
    obtain ⟨rfl, rfl⟩ := Prod.mk.inj (Except.ok.inj read)
    obtain ⟨here, later⟩ := reads.next (depth + 1) first closed
    rw [nestingFrom_close (.inl rfl)] at later
    simp only [depthOfItems]
    omega
  · rename_i more comma
    obtain ⟨⟨vs, behind⟩, others, done⟩ := bind_eq_ok.mp read
    obtain ⟨rfl, rfl⟩ := Prod.mk.inj (Except.ok.inj done)
    obtain ⟨here, later⟩ := reads.next (depth + 1) first comma
    rw [nestingFrom_quiet rfl, ← nestingFrom_skipBlanks] at later
    obtain ⟨deep, end_⟩ := reads.items depth others
    simp only [depthOfItems]
    omega
  · cases read

theorem ReadsWithinNesting.nextEntries (reads : ReadsWithinNesting fuel) (depth : Nat)
    {entries : List (String × Value)} (read : readEntries (fuel + 1) cs = .ok (entries, rest)) :
    depth + 1 + depthOfEntries entries ≤ nestingFrom (depth + 1) cs ∧
      nestingFrom depth rest ≤ nestingFrom (depth + 1) cs := by
  unfold readEntries at read
  split at read
  · rename_i less front same
    obtain rfl : fuel = less := Nat.succ.inj same
    obtain ⟨⟨key, behind⟩, keyRead, read⟩ := bind_eq_ok.mp read
    rw [nestingFrom_quote, nestingInString_readString keyRead, ← nestingFrom_skipBlanks]
    dsimp only at read
    split at read
    · rename_i colon
      obtain ⟨⟨v, behind⟩, first, read⟩ := bind_eq_ok.mp read
      rw [colon, nestingFrom_quiet rfl, ← nestingFrom_skipBlanks]
      dsimp only at read
      split at read
      · rename_i closed
        obtain ⟨rfl, rfl⟩ := Prod.mk.inj (Except.ok.inj read)
        obtain ⟨here, later⟩ := reads.next (depth + 1) first closed
        rw [nestingFrom_close (.inr rfl)] at later
        simp only [depthOfEntries]
        omega
      · rename_i comma
        obtain ⟨⟨entries, behind⟩, others, done⟩ := bind_eq_ok.mp read
        obtain ⟨rfl, rfl⟩ := Prod.mk.inj (Except.ok.inj done)
        obtain ⟨here, later⟩ := reads.next (depth + 1) first comma
        rw [nestingFrom_quiet rfl, ← nestingFrom_skipBlanks] at later
        obtain ⟨deep, end_⟩ := reads.entries depth others
        simp only [depthOfEntries]
        omega
      · cases read
    · cases read
  · cases read

theorem readsWithinNesting (fuel : Nat) : ReadsWithinNesting fuel := by
  induction fuel with
  | zero =>
    constructor
    · intro depth cs rest v read
      simp [readValue, fail] at read
    · intro depth cs rest vs read
      simp [readItems, fail] at read
    · intro depth cs rest entries read
      simp [readEntries, fail] at read
  | succ fuel ih =>
    exact ⟨fun depth => ih.nextValue depth, fun depth => ih.nextItems depth,
      fun depth => ih.nextEntries depth⟩

/-- A value is no deeper than the brackets of the text it is read from. -/
theorem parse_depth_le {text : String} {v : Value} (read : parse text = .ok v) :
    v.depth ≤ nesting text := by
  unfold parse readAll at read
  split at read
  · cases read
  · obtain ⟨⟨v', rest⟩, found, read⟩ := bind_eq_ok.mp read
    dsimp only at read
    split at read
    · obtain rfl : v' = v := Except.ok.inj read
      have within := ((readsWithinNesting _).value 0 found).1
      rwa [nestingFrom_skipBlanks, Nat.zero_add] at within
    · cases read

end

end Json

end ServiceClient

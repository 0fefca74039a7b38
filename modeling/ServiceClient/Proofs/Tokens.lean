import ServiceClient.Markup

/-!
Reading markup back. `readTokens` knows nothing of how a page was made: it splits the characters at
`<` and `>` into tags and texts, and the inside of a tag at double quotes into attributes and their
values, and undoes the escapes in texts and values. From markup whose tags and attributes have plain
names it reads those tags and texts, whatever characters stand in the texts: `Spells` says so of any
piece of markup, and is put together along its elements.
-/

namespace ServiceClient

/-- A piece of a page. A tag that stands alone is an opening one. -/
inductive Token
  | opening (tag : String) (attributes : List Attribute)
  | closing (tag : String)
  | text (s : String)

namespace Token

/-- Puts a token in front of others. A text joins the one after it, and an empty one is none. -/
def onto : Token → List Token → List Token
  | text s, text t :: rest => text (s ++ t) :: rest
  | text s, ts => if s = "" then ts else text s :: ts
  | tag, ts => tag :: ts

/-- Tokens as they are read: with a text between two tags at most, which is not empty. -/
def joined (ts : List Token) : List Token := ts.foldr onto []

@[simp]
theorem onto_empty (ts : List Token) : (text "").onto ts = ts := by
  rcases ts with _ | ⟨_ | _ | t, rest⟩ <;> simp [onto]

@[simp]
theorem onto_opening (tag : String) (attributes : List Attribute) (ts : List Token) :
    (opening tag attributes).onto ts = opening tag attributes :: ts := by
  rw [onto] <;> simp

@[simp]
theorem onto_closing (tag : String) (ts : List Token) :
    (closing tag).onto ts = closing tag :: ts := by
  rw [onto] <;> simp

theorem onto_append (s t : String) (ts : List Token) :
    (text s).onto ((text t).onto ts) = (text (s ++ t)).onto ts := by
  by_cases empty : t = ""
  · simp [empty]
  · rcases ts with _ | ⟨_ | _ | u, rest⟩ <;> simp [onto, empty, String.append_assoc]

end Token

/-- Undoes the escapes in a text. -/
def unescape : List Char → List Char
  | '&' :: 'a' :: 'm' :: 'p' :: ';' :: cs => '&' :: unescape cs
  | '&' :: 'l' :: 't' :: ';' :: cs => '<' :: unescape cs
  | '&' :: 'g' :: 't' :: ';' :: cs => '>' :: unescape cs
  | '&' :: '#' :: '3' :: '9' :: ';' :: cs => '\'' :: unescape cs
  | '&' :: '#' :: '3' :: '4' :: ';' :: cs => '"' :: unescape cs
  | c :: cs => c :: unescape cs
  | [] => []

def readText (cs : List Char) : String := String.ofList (unescape cs)

/-- The words between blanks and equality signs. -/
def words (cs : List Char) : List String :=
  ((cs.splitOnP fun c => c = ' ' || c = '=').filter (· ≠ [])).map String.ofList

def flags (names : List String) : List Attribute := names.map (⟨·, none⟩)

/-- Attributes from what stands before the first quote in a tag, between the first two, and so on;
a value is that of the last name before it. -/
def readAttributes : List (List Char) → List Attribute
  | [] => []
  | [names] => flags (words names)
  | names :: value :: rest =>
    flags (words names).dropLast ++
      (words names).getLast?.toList.map (⟨·, some (readText value)⟩) ++ readAttributes rest

/-- A tag from what stands between `<` and `>`. -/
def readTag : List Char → Token
  | '/' :: name => .closing (String.ofList name)
  | inside =>
    match readAttributes (inside.splitOn '"') with
    | [] => .opening "" []
    | tag :: attributes => .opening tag.name attributes

/-- Reads what follows a `<`, up to the next one, in front of tokens. -/
def readPiece (piece : List Char) (ts : List Token) : List Token :=
  readTag (piece.takeWhile (· ≠ '>')) ::
    (Token.text (readText (piece.dropWhile (· ≠ '>')).tail)).onto ts

/-- The tags and texts of a page. -/
def readTokens (cs : List Char) : List Token :=
  match cs.splitOn '<' with
  | [] => []
  | first :: pieces => (Token.text (readText first)).onto (pieces.foldr readPiece [])

/-! ## Texts -/

/-- The characters that are not spelled as themselves. -/
def escapedChars : List Char := ['&', '<', '>', '\'', '"']

theorem escapeChar_of_not_mem {c : Char} (plain : c ∉ escapedChars) : escapeChar c = [c] := by
  simp only [escapedChars, List.mem_cons, not_or] at plain
  simp [escapeChar, plain]

theorem unescape_escapeChar (c : Char) (cs : List Char) :
    unescape (escapeChar c ++ cs) = c :: unescape cs := by
  by_cases escaped : c ∈ escapedChars
  · simp only [escapedChars, List.mem_cons, List.not_mem_nil, or_false] at escaped
    rcases escaped with rfl | rfl | rfl | rfl | rfl <;> rfl
  · -- An escape starts with an ampersand, so any other character stands for itself.
    have other : c ≠ '&' := fun amp => escaped (by simp [amp, escapedChars])
    rw [escapeChar_of_not_mem escaped]
    exact unescape.eq_6 c cs (by simp [other]) (by simp [other]) (by simp [other]) (by simp [other])
      (by simp [other])

theorem unescape_escapeText (s : String) (cs : List Char) :
    unescape (escapeText s ++ cs) = s.toList ++ unescape cs := by
  rw [escapeText]
  induction s.toList with
  | nil => rfl
  | cons c s ih =>
    rw [List.flatMap_cons, List.append_assoc, unescape_escapeChar, ih, List.cons_append]

theorem readText_escapeText (s : String) (cs : List Char) :
    readText (escapeText s ++ cs) = s ++ readText cs := by
  rw [readText, unescape_escapeText, String.ofList_append, String.ofList_toList, readText]

theorem not_mem_escapeText {sign : Char} (splits : sign ∈ ['<', '>', '"']) (s : String) :
    sign ∉ escapeText s := by
  intro inside
  obtain ⟨c, -, inside⟩ := List.mem_flatMap.mp inside
  by_cases escaped : c ∈ escapedChars
  · have spelled : ∀ sign ∈ ['<', '>', '"'], ∀ c ∈ escapedChars, sign ∉ escapeChar c := by
      simp [escapedChars, escapeChar]
    exact spelled sign splits c escaped inside
  · rw [escapeChar_of_not_mem escaped, List.mem_singleton] at inside
    subst inside
    have signs : ∀ sign ∈ ['<', '>', '"'], sign ∈ escapedChars := by simp [escapedChars]
    exact escaped (signs sign splits)

/-! ## Tags -/

theorem splitOn_append {sign : Char} {front : List Char} (absent : sign ∉ front)
    (cs : List Char) :
    (front ++ cs).splitOn sign = (cs.splitOn sign).modifyHead (front ++ ·) := by
  induction front with
  | nil =>
    rw [List.nil_append]
    cases cs.splitOn sign <;> rfl
  | cons c front ih =>
    obtain ⟨other, absent⟩ := not_or.mp (mt List.mem_cons.mpr absent)
    rw [List.cons_append, List.splitOn_cons_eq_if_modifyHead, if_neg (by simpa using Ne.symm other),
      ih absent, List.modifyHead_modifyHead]
    rfl

theorem splitOn_append_cons {sign : Char} {front : List Char} (absent : sign ∉ front)
    (cs : List Char) : (front ++ sign :: cs).splitOn sign = front :: cs.splitOn sign := by
  rw [splitOn_append absent, List.splitOn_cons_eq_if_modifyHead, if_pos (beq_self_eq_true sign)]
  simp

theorem readTokens_of_split {cs first : List Char} {pieces : List (List Char)}
    (split : cs.splitOn '<' = first :: pieces) :
    readTokens cs = (Token.text (readText first)).onto (pieces.foldr readPiece []) := by
  rw [readTokens, split]

theorem readTokens_text (s : String) (cs : List Char) :
    readTokens (escapeText s ++ cs) = (Token.text s).onto (readTokens cs) := by
  obtain ⟨first, pieces, split⟩ := List.exists_cons_of_ne_nil (List.splitOn_ne_nil '<' cs)
  have split' : (escapeText s ++ cs).splitOn '<' = (escapeText s ++ first) :: pieces := by
    rw [splitOn_append (not_mem_escapeText (by decide) s), split, List.modifyHead_cons]
  rw [readTokens_of_split split, readTokens_of_split split', readText_escapeText, Token.onto_append]

/-- What stands between `<` and `>` is read as a tag. -/
theorem readTokens_tag {inside : List Char} (noStart : '<' ∉ inside) (noEnd : '>' ∉ inside)
    (cs : List Char) :
    readTokens ('<' :: inside ++ '>' :: cs) = readTag inside :: readTokens cs := by
  obtain ⟨first, pieces, split⟩ := List.exists_cons_of_ne_nil (List.splitOn_ne_nil '<' cs)
  have split' : ('<' :: inside ++ '>' :: cs).splitOn '<' =
      [] :: (inside ++ '>' :: first) :: pieces := by
    have nowhere : '<' ∉ inside ++ ['>'] := by simp [noStart]
    have later : (inside ++ '>' :: cs).splitOn '<' = (inside ++ '>' :: first) :: pieces := by
      rw [List.append_cons, splitOn_append nowhere, split, List.modifyHead_cons, ← List.append_cons]
    rw [List.cons_append, List.splitOn_cons_eq_if_modifyHead, if_pos (beq_self_eq_true '<'), later]
  have before : ∀ c ∈ inside, (c ≠ '>' : Bool) = true := by
    intro c there
    have other : c ≠ '>' := fun same => noEnd (same ▸ there)
    simpa using other
  rw [readTokens_of_split split, readTokens_of_split split', List.foldr_cons, readPiece,
    List.takeWhile_append_of_pos before, List.dropWhile_append_of_pos before]
  simp [readText, unescape]

/-- The characters that pages are split at. -/
def signs : List Char := ['<', '>', '/', '"', '=', ' ']

/-- A name of a tag or an attribute that is read in one piece. -/
def isPlain (name : String) : Bool := name ≠ "" && name.toList.all (· ∉ signs)

theorem words_append_cons {sign : Char} (separates : sign = ' ' ∨ sign = '=')
    (front cs : List Char) : words (front ++ sign :: cs) = words front ++ words cs := by
  have split := List.splitOnP_append_cons (p := fun c => c = ' ' || c = '=') front cs
    (by simpa using separates)
  rw [words, split, List.filter_append, List.map_append, words, words]

theorem not_mem_plain {name : String} (plain : isPlain name = true) {sign : Char}
    (splits : sign ∈ signs) : sign ∉ name.toList := by
  simp only [isPlain, Bool.and_eq_true, List.all_eq_true, decide_eq_true_eq] at plain
  exact fun inside => plain.2 sign inside splits

theorem words_plain {name : String} (plain : isPlain name = true) : words name.toList = [name] := by
  have whole : name.toList.splitOnP (fun c => c = ' ' || c = '=') = [name.toList] := by
    refine List.splitOnP_eq_singleton fun c inside => ?_
    have noBlank : c ≠ ' ' := fun same => not_mem_plain plain (by decide) (same ▸ inside)
    have noEquals : c ≠ '=' := fun same => not_mem_plain plain (by decide) (same ▸ inside)
    simp [noBlank, noEquals]
  have nonempty : name ≠ "" := by
    simp only [isPlain, Bool.and_eq_true, decide_eq_true_eq] at plain
    exact plain.1
  simp [words, whole, nonempty]

/-- Attributes are read as they are, after the names of flags in front of them. -/
theorem readAttributes_render {attributes : List Attribute}
    (plain : (attributes.map (·.name)).all isPlain = true) {front : List Char}
    (noQuote : '"' ∉ front) :
    readAttributes ((front ++ attributes.flatMap Attribute.render).splitOn '"') =
      flags (words front) ++ attributes := by
  induction attributes generalizing front with
  | nil =>
    rw [List.flatMap_nil, List.append_nil, List.append_nil, List.splitOn_eq_singleton noQuote,
      readAttributes]
  | cons a attributes ih =>
    obtain ⟨name, value⟩ := a
    obtain ⟨plain, others⟩ := Bool.and_eq_true_iff.mp plain
    have named : words (front ++ ' ' :: name.toList) = words front ++ [name] := by
      rw [words_append_cons (.inl rfl), words_plain plain]
    have noQuote' : '"' ∉ front ++ ' ' :: name.toList := by
      have clear := not_mem_plain plain (by decide : '"' ∈ signs)
      simp [noQuote, clear]
    cases value with
    | none =>
      -- A flag is one more name before the next quote.
      rw [List.flatMap_cons, ← List.append_assoc]
      change readAttributes ((front ++ ' ' :: name.toList ++ _).splitOn '"') = _
      rw [ih others noQuote', named]
      simp [flags]
    | some v =>
      have unfolded : front ++ (⟨name, some v⟩ :: attributes).flatMap Attribute.render =
          (front ++ ' ' :: name.toList ++ ['=']) ++ '"' :: (escapeText v ++
            '"' :: ([] ++ attributes.flatMap Attribute.render)) := by
        simp [Attribute.render]
      have before : '"' ∉ front ++ ' ' :: name.toList ++ ['='] := by
        simpa using noQuote'
      have names : words (front ++ ' ' :: name.toList ++ ['=']) = words front ++ [name] := by
        rw [words_append_cons (.inr rfl), named]
        simp [words]
      rw [unfolded, splitOn_append_cons before,
        splitOn_append_cons (not_mem_escapeText (by decide) v), readAttributes, names, ih others
          List.not_mem_nil]
      have value : readText (escapeText v) = v := by
        simpa [readText, unescape] using readText_escapeText v []
      simp [value, words, flags]

theorem not_mem_render {attributes : List Attribute}
    (plain : (attributes.map (·.name)).all isPlain = true) {sign : Char}
    (splits : sign ∈ ['<', '>']) :
    sign ∉ attributes.flatMap Attribute.render := by
  have kinds : ∀ sign ∈ ['<', '>'],
      sign ∈ signs ∧ sign ∈ ['<', '>', '"'] ∧ sign ∉ [' ', '=', '"'] := by simp [signs]
  obtain ⟨inName, inValue, other⟩ := kinds sign splits
  intro inside
  obtain ⟨⟨name, value⟩, there, inside⟩ := List.mem_flatMap.mp inside
  have named : sign ∉ name.toList := by
    have plain : isPlain name = true :=
      List.all_eq_true.mp plain name (List.mem_map.mpr ⟨_, there, rfl⟩)
    exact not_mem_plain plain inName
  cases value with
  | none => simp_all [Attribute.render]
  | some v =>
    have escaped : sign ∉ escapeText v := not_mem_escapeText inValue v
    simp_all [Attribute.render]

/-- A tag and its attributes have plain names. -/
def isPlainTag (tag : String) (attributes : List Attribute) : Bool :=
  (tag :: attributes.map (·.name)).all isPlain

theorem readTag_opening {tag : String} {attributes : List Attribute}
    (plain : isPlainTag tag attributes = true) :
    readTag (tag.toList ++ attributes.flatMap Attribute.render) = .opening tag attributes := by
  obtain ⟨named, plain⟩ := Bool.and_eq_true_iff.mp plain
  have notClosing : ∀ name, tag.toList ++ attributes.flatMap Attribute.render = '/' :: name →
      False := by
    intro name same
    cases chars : tag.toList with
    | nil => simp_all [isPlain]
    | cons c cs =>
      obtain ⟨rfl, -⟩ := List.cons.inj ((congrArg (· ++ _) chars).symm.trans same)
      exact not_mem_plain named (by decide : '/' ∈ signs) (chars ▸ List.mem_cons_self)
  rw [readTag.eq_2 _ notClosing,
    readAttributes_render plain (not_mem_plain named (by decide)), words_plain named]
  rfl

theorem readTokens_openTag {tag : String} {attributes : List Attribute}
    (plain : isPlainTag tag attributes = true) (cs : List Char) :
    readTokens (Markup.openTag tag attributes ++ cs) =
      (Token.opening tag attributes).onto (readTokens cs) := by
  obtain ⟨named, plain'⟩ := Bool.and_eq_true_iff.mp plain
  have whole : ∀ sign ∈ ['<', '>'], sign ∉ tag.toList ++ attributes.flatMap Attribute.render := by
    intro sign splits
    have inName : ∀ sign ∈ ['<', '>'], sign ∈ signs := by simp [signs]
    rw [List.mem_append, not_or]
    exact ⟨not_mem_plain named (inName sign splits), not_mem_render plain' splits⟩
  have read := readTokens_tag (whole '<' (by decide)) (whole '>' (by decide)) cs
  rw [readTag_opening plain] at read
  simpa [Markup.openTag] using read

theorem readTokens_closeTag {tag : String} (plain : isPlain tag = true) (cs : List Char) :
    readTokens (Markup.closeTag tag ++ cs) = (Token.closing tag).onto (readTokens cs) := by
  have noStart : '<' ∉ '/' :: tag.toList := by
    simpa using not_mem_plain plain (by decide : '<' ∈ signs)
  have noEnd : '>' ∉ '/' :: tag.toList := by
    simpa using not_mem_plain plain (by decide : '>' ∈ signs)
  have read := readTokens_tag noStart noEnd cs
  rw [readTag, String.ofList_toList] at read
  simpa [Markup.closeTag] using read

/-! ## Markup -/

/-- The tokens of an element, with those of what is inside it. -/
def within (tag : String) (attributes : List Attribute) (inside : List Token) : List Token :=
  .opening tag attributes :: inside ++ [.closing tag]

/-- The tokens of a text between two tags. -/
def textIn (tag : String) (attributes : List Attribute) (s : String) : List Token :=
  within tag attributes [.text s]

theorem charsOfAll_append (ms ms' : List Markup) :
    Markup.charsOfAll (ms ++ ms') = Markup.charsOfAll ms ++ Markup.charsOfAll ms' := by
  induction ms with
  | nil => rfl
  | cons m ms ih =>
    rw [List.cons_append, Markup.charsOfAll, ih, Markup.charsOfAll, List.append_assoc]

/-- Pieces of markup, next to each other, are read back as tokens, in front of what is read from
whatever follows. -/
def Spells (ms : List Markup) (ts : List Token) : Prop :=
  ∀ cs, readTokens (Markup.charsOfAll ms ++ cs) = ts.foldr Token.onto (readTokens cs)

namespace Spells

variable {m : Markup} {ms ms' : List Markup} {ts ts' : List Token} {tag : String}
  {attributes : List Attribute}

theorem nil : Spells [] [] := fun _ => rfl

theorem append (front : Spells ms ts) (back : Spells ms' ts') :
    Spells (ms ++ ms') (ts ++ ts') := by
  intro cs
  rw [charsOfAll_append, List.append_assoc, front, back, List.foldr_append]

theorem cons (first : Spells [m] ts) (others : Spells ms ts') : Spells (m :: ms) (ts ++ ts') :=
  first.append others

theorem text (s : String) : Spells [.text s] [.text s] := by
  intro cs
  have read := readTokens_text s cs
  simpa [Markup.charsOfAll, Markup.chars] using read

/-- Texts next to each other are one. -/
theorem join {s t : String} (texts : Spells ms (.text s :: .text t :: ts)) :
    Spells ms (.text (s ++ t) :: ts) := by
  intro cs
  rw [texts cs, List.foldr_cons, List.foldr_cons, Token.onto_append, List.foldr_cons]

theorem void (plain : isPlainTag tag attributes = true) :
    Spells [.void tag attributes] [.opening tag attributes] := by
  intro cs
  have read := readTokens_openTag plain cs
  simpa [Markup.charsOfAll, Markup.chars] using read

theorem element (plain : isPlainTag tag attributes = true) (inside : Spells ms ts) :
    Spells [.element tag attributes ms] (within tag attributes ts) := by
  intro cs
  have named : isPlain tag = true := (Bool.and_eq_true_iff.mp plain).1
  have unfolded : Markup.charsOfAll [.element tag attributes ms] ++ cs =
      Markup.openTag tag attributes ++
        (Markup.charsOfAll ms ++ (Markup.closeTag tag ++ cs)) := by
    simp [Markup.charsOfAll, Markup.chars]
  rw [unfolded, readTokens_openTag plain, inside, readTokens_closeTag named, within]
  simp

theorem textIn (plain : isPlainTag tag attributes = true) (s : String) :
    Spells [.element tag attributes [.text s]] (textIn tag attributes s) :=
  .element plain (.text s)

/-- With nothing after it, markup is read back as its tokens. -/
theorem read (whole : Spells ms ts) : readTokens (Markup.charsOfAll ms) = Token.joined ts := by
  have nothing : readTokens [] = [] := by simp [readTokens, readText, unescape]
  have alone := whole []
  rwa [List.append_nil, nothing] at alone

example : readTokens (Markup.element "p" [⟨"title", some "a\"b"⟩] [.text "<i>&amp;"]).chars =
    [.opening "p" [⟨"title", some "a\"b"⟩], .text "<i>&amp;", .closing "p"] := by cbv

end Spells

end ServiceClient

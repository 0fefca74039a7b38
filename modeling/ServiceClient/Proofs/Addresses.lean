import Mathlib.Data.List.TakeDrop
import Mathlib.Data.List.TakeWhile
import ServiceClient.Explorer
import ServiceClient.Proofs.Outcome

/-!
The addresses of call forms. What is percent encoded is read back (`percentDecode_percentEncode`),
and a path that is encoded whole is asked for as it is (`requestPath_percentEncode`). From the
address of a method's form an explorer takes the name of the method (`arrive_call`), if that has a
path at all: the name is not empty, starts with no slash, and has no line break after its first
character.
-/

namespace ServiceClient

/-! ## Percent encoding -/

theorem hexDigit?_toUpper (d : Nat) (small : d < 16) :
    hexDigit? (Nat.digitChar d).toUpper = some d := by
  revert d
  decide

/-- An octet that is written out is read back. -/
theorem pathOctets_percentOctet (octet : UInt8) (rest : List Char) :
    pathOctets (percentOctet octet ++ rest) = octet :: pathOctets rest := by
  have small := octet.toNat_lt
  have spelled : percentOctet octet = ['%', (Nat.digitChar (octet.toNat / 16 % 16)).toUpper,
      (Nat.digitChar (octet.toNat % 16)).toUpper] := rfl
  have whole : 16 * (octet.toNat / 16 % 16) + octet.toNat % 16 = octet.toNat := by omega
  rw [spelled]
  simp only [List.cons_append, List.nil_append]
  rw [pathOctets, hexDigit?_toUpper _ (Nat.mod_lt _ (by decide)),
    hexDigit?_toUpper _ (Nat.mod_lt _ (by decide))]
  simp only [whole, UInt8.ofNat_toNat]

theorem pathOctets_percentOctets (octets : List UInt8) (rest : List Char) :
    pathOctets (octets.flatMap percentOctet ++ rest) = octets ++ pathOctets rest := by
  induction octets with
  | nil => rfl
  | cons octet octets ih =>
    rw [List.flatMap_cons, List.append_assoc, pathOctets_percentOctet, ih, List.cons_append]

theorem pathOctets_cons {c : Char} (other : c ≠ '%') (rest : List Char) :
    pathOctets (c :: rest) = String.utf8EncodeChar c ++ pathOctets rest := by
  rw [pathOctets]
  rintro a b cs same
  exact absurd same other

/-- The spelling of a character in a path. -/
def pathSpelling (c : Char) : List Char :=
  if isPathChar c then [c] else (String.utf8EncodeChar c).flatMap percentOctet

theorem toList_percentEncode (s : String) :
    (percentEncode s).toList = s.toList.flatMap pathSpelling := String.toList_ofList

theorem pathOctets_pathSpelling (c : Char) (rest : List Char) :
    pathOctets (pathSpelling c ++ rest) = String.utf8EncodeChar c ++ pathOctets rest := by
  unfold pathSpelling
  split
  · rename_i plain
    refine pathOctets_cons ?_ rest
    rintro rfl
    exact absurd plain (by decide)
  · exact pathOctets_percentOctets _ rest

/-- The octets of a character are read as that character, whatever follows. -/
theorem decodeOctets_append (c : Char) (octets : List UInt8) :
    decodeOctets (String.utf8EncodeChar c ++ octets) = c :: decodeOctets octets := by
  have size := String.length_utf8EncodeChar c
  have read : ((String.utf8EncodeChar c ++ octets).take 4).toByteArray.utf8DecodeChar? 0 =
      some c := by
    rw [List.take_append, List.take_of_length_le (size ▸ c.utf8Size_le_four),
      List.toByteArray_append]
    exact ByteArray.utf8DecodeChar?_utf8EncodeChar_append
  have left : (String.utf8EncodeChar c ++ octets).drop c.utf8Size = octets := by
    rw [← size, List.drop_left]
  obtain ⟨first, others, spelled⟩ :=
    List.exists_cons_of_ne_nil (String.utf8EncodeChar_ne_nil (c := c))
  rw [spelled, List.cons_append] at read left ⊢
  rw [decodeOctets, read]
  simp only [left]

/-- What is percent encoded is read back. -/
theorem percentDecode_percentEncode (s : String) :
    percentDecode (percentEncode s).toList = s.toList := by
  have octets (cs : List Char) :
      pathOctets (cs.flatMap pathSpelling) = cs.flatMap String.utf8EncodeChar := by
    induction cs with
    | nil => rfl
    | cons c cs ih => rw [List.flatMap_cons, pathOctets_pathSpelling, ih, List.flatMap_cons]
  have chars (cs : List Char) : decodeOctets (cs.flatMap String.utf8EncodeChar) = cs := by
    induction cs with
    | nil => rw [List.flatMap_nil, decodeOctets]
    | cons c cs ih => rw [List.flatMap_cons, decodeOctets_append, ih]
  rw [percentDecode, toList_percentEncode, octets, chars]

/-! ## Paths -/

/-- Whether a character stands in encoded paths. -/
def isEncodedChar (c : Char) : Bool := isPathChar c || c == '%'

/-- An encoded path that is neither empty nor looks like an authority. -/
structure IsEncodedPath (cs : List Char) : Prop where
  chars : ∀ c ∈ cs, isEncodedChar c = true
  front : ∃ c rest, cs = '/' :: c :: rest ∧ c ≠ '/'

theorem isEncodedChar_of_mem_pathSpelling {c d : Char} (inside : d ∈ pathSpelling c) :
    isEncodedChar d = true := by
  unfold pathSpelling at inside
  split at inside
  · obtain rfl := List.mem_singleton.mp inside
    simp [isEncodedChar, *]
  · obtain ⟨octet, -, spelled⟩ := List.mem_flatMap.mp inside
    have digit : ∀ n < 16, isEncodedChar (Nat.digitChar n).toUpper = true := by decide
    have digits : percentOctet octet = ['%', (Nat.digitChar (octet.toNat / 16 % 16)).toUpper,
        (Nat.digitChar (octet.toNat % 16)).toUpper] := rfl
    rw [digits] at spelled
    simp only [List.mem_cons, List.not_mem_nil, or_false] at spelled
    rcases spelled with rfl | rfl | rfl
    · rfl
    · exact digit _ (Nat.mod_lt _ (by decide))
    · exact digit _ (Nat.mod_lt _ (by decide))

/-- No mark of an address stands in an encoded path, and nothing that is left out of one. -/
theorem isEncodedChar_bounds {c : Char} (encoded : isEncodedChar c = true) :
    ' ' < c ∧ c ≠ '?' ∧ c ≠ '#' := by
  refine ⟨?_, ?_, ?_⟩
  · by_contra low
    have blanks : ∀ n < 33, isEncodedChar (Char.ofNat n) = false := by decide
    have small : c.toNat < 33 := by
      have blank : ' '.val.toNat = 32 := rfl
      rw [Char.lt_def, UInt32.lt_iff_toNat_lt, blank, Nat.not_lt] at low
      exact Nat.lt_succ_of_le low
    have unencoded := blanks c.toNat small
    rw [Char.ofNat_toNat, encoded] at unencoded
    cases unencoded
  · rintro rfl
    exact absurd encoded (by decide)
  · rintro rfl
    exact absurd encoded (by decide)

/-- An encoded path is read as an address that is nothing else. -/
theorem read_encodedPath {cs : List Char} (path : IsEncodedPath cs) :
    Address.read cs = .ok ⟨[], cs, []⟩ := by
  obtain ⟨chars, c, rest, rfl, single⟩ := path
  have bounds : ∀ d ∈ '/' :: c :: rest, ' ' < d ∧ d ≠ '?' ∧ d ≠ '#' :=
    fun d inside => isEncodedChar_bounds (chars d inside)
  have kept : (('/' :: c :: rest).dropWhile (· ≤ ' ')).filter
      (fun c => c ≠ '\t' && c ≠ '\n' && c ≠ '\r') = '/' :: c :: rest := by
    rw [List.dropWhile_cons_of_neg (by decide), List.filter_eq_self]
    intro d inside
    have above := (bounds d inside).1
    have other (e : Char) (low : ¬ ' ' < e) : d ≠ e := by
      rintro rfl
      exact low above
    simp [other '\t' (by decide), other '\n' (by decide), other '\r' (by decide)]
  have scheme : dropScheme ('/' :: c :: rest) = '/' :: c :: rest := by
    unfold dropScheme
    split
    · rename_i first before _ behind cut
      have before := congrArg Prod.fst cut
      rw [List.span_eq_takeWhile_dropWhile, List.takeWhile_cons_of_pos (by decide)] at before
      obtain rfl := (List.cons.inj before).1
      rfl
    · rfl
  have authority : splitAuthority ('/' :: c :: rest) = ([], '/' :: c :: rest) := by
    unfold splitAuthority
    split
    · rename_i same
      simp [single] at same
    · rfl
  have noFragment : ('/' :: c :: rest).takeWhile (· ≠ '#') = '/' :: c :: rest :=
    List.takeWhile_eq_self_iff.mpr fun d inside => by simp [(bounds d inside).2.2]
  have noQuery : Authority.cut '?' ('/' :: c :: rest) = ('/' :: c :: rest, []) := by
    have before : ('/' :: c :: rest).takeWhile (· ≠ '?') = '/' :: c :: rest :=
      List.takeWhile_eq_self_iff.mpr fun d inside => by simp [(bounds d inside).2.1]
    have behind : ('/' :: c :: rest).dropWhile (· ≠ '?') = [] :=
      List.dropWhile_eq_nil_iff.mpr fun d inside => by simp [(bounds d inside).2.1]
    rw [Authority.cut, before, behind, List.drop_nil]
  have empty : isAuthority [] = true := by decide
  simp only [Address.read, kept, scheme, authority, empty, noFragment, noQuery]
  rfl

theorem requestPath_encodedPath {cs : List Char} (path : IsEncodedPath cs) :
    requestPath cs = .ok (rooted (percentDecode cs)) := by
  have host : (Authority.read []).checkHost = .ok () := rfl
  have read := read_encodedPath path
  simp only [requestPath, normalPath, read, Address.target, Address.checkHost, host, ok_bind,
    List.isEmpty_nil, if_true]
  rfl

/-- A path asks for what it was encoded from. -/
theorem requestPath_percentEncode {s : String} {c : Char} {rest : List Char}
    (front : s.toList = '/' :: c :: rest) (single : c ≠ '/') (plain : isPathChar c = true) :
    requestPath (percentEncode s).toList = .ok s.toList := by
  have path : IsEncodedPath (percentEncode s).toList := by
    rw [toList_percentEncode]
    constructor
    · intro d inside
      obtain ⟨c, -, spelled⟩ := List.mem_flatMap.mp inside
      exact isEncodedChar_of_mem_pathSpelling spelled
    · have slash : pathSpelling '/' = ['/'] := by decide
      have first : pathSpelling c = [c] := if_pos plain
      rw [front, List.flatMap_cons, List.flatMap_cons, slash, first]
      exact ⟨c, _, rfl, single⟩
  have same : rooted s.toList = s.toList := by
    rw [front]
    simp [rooted, single]
  rw [requestPath_encodedPath path, percentDecode_percentEncode, same]

/-! ## Routes -/

/-- The part of a pattern that takes all that is left of a path. -/
def pathPart : Part := .fitting [.hole .path] true false [0, -1, 200]

def fileRoute : Route Place :=
  ⟨⟨[.fixed [], .fixed "static".toList, pathPart], [("filename", .path)]⟩, .get, .file⟩

def indexRoute : Route Place := ⟨⟨[.fixed [], .fixed []], []⟩, .get, .index⟩

def callRoute : Route Place :=
  ⟨⟨[.fixed [], .fixed "call".toList, pathPart], [("method", .path)]⟩, .post, .call⟩

/-- The explorer of a service under no address. -/
def Explorer.ofClient (client : Client) : Explorer where
  client
  root := ""
  routes := [fileRoute, indexRoute, callRoute]

theorem mount_ofClient (client : Client) :
    Explorer.mount client "" = .ok (.ofClient client) := by
  have routes : Explorer.routesBelow "" = .ok [fileRoute, indexRoute, callRoute] := by rfl
  have root : trimEnd (· == '/') "".toList = [] := rfl
  simp only [Explorer.mount, root, String.ofList_nil, routes]
  rfl

theorem atEnd?_of_ne_nil {before : Option Char} {cs : List Char} (more : cs ≠ []) :
    Pattern.atEnd? false before cs = none := by
  unfold Pattern.atEnd?
  split
  · exact absurd rfl more
  · rfl
  · rfl

/-- A hole for a path takes all of a line that starts with no slash. -/
theorem fit?_path {c : Char} {rest : List Char} (start : c ≠ '/') (oneLine : '\n' ∉ rest) :
    Pattern.fit? false none [.hole .path] (c :: rest) =
      some ([String.ofList (c :: rest)], false) := by
  have line : rest.takeWhile (· ≠ '\n') = rest :=
    List.takeWhile_eq_self_iff.mpr fun d inside =>
      decide_eq_true (ne_of_mem_of_not_mem inside oneLine)
  -- What leaves something of the line comes first, and fits nothing.
  have less (before : Option Char) {n : Nat} (short : n ∈ List.range rest.length) :
      Pattern.fit? false before [] ((c :: rest).drop (n + 1)) = none := by
    have more : rest.drop n ≠ [] := by
      rw [Ne, List.drop_eq_nil_iff, Nat.not_le]
      exact List.mem_range.mp short
    rw [Pattern.fit?, List.drop_succ_cons, atEnd?_of_ne_nil more]
    rfl
  have all (before : Option Char) :
      Pattern.fit? false before [] ((c :: rest).drop (rest.length + 1)) = some ([], false) := by
    rw [List.drop_succ_cons, List.drop_length]
    rfl
  have whole : (c :: rest).take (rest.length + 1) = c :: rest := @List.take_length _ (c :: rest)
  rw [Pattern.fit?, HoleKind.takes, if_neg start, line, HoleKind.cutsAt, List.map_map,
    List.findSome?_map, List.range_succ, List.findSome?_append, List.findSome?_eq_none_iff.mpr]
  · simp only [Option.none_or, List.findSome?_singleton, Function.comp_apply, all, whole]
    rfl
  · intro n short
    simp only [Function.comp_apply, less _ short]
    rfl

section

variable {P : Type} {candidates : List (Route.Candidate P)}

/-- Where no part with a hole comes next, the next part is the fixed one. -/
theorem findings_fixed (fixed : Route.nextFitting candidates = []) (verb : Verb) (fuel : Nat)
    (taken : List String) (part : List Char) (path : List (List Char)) :
    Route.findings verb (fuel + 1) taken candidates (part :: path) =
      Route.findings verb fuel taken (Route.after (.fixed part) candidates) path := by
  rw [Route.findings, fixed, List.flatMap_nil, List.append_nil]

theorem findings_nil (verb : Verb) (fuel : Nat) (taken : List String) (path : List (List Char)) :
    Route.findings verb fuel taken ([] : List (Route.Candidate P)) path = [] := by
  induction fuel generalizing path with
  | zero => rw [Route.findings]
  | succ fuel ih =>
    cases path with
    | nil => rfl
    | cons part path =>
      rw [findings_fixed (by simp [Route.nextFitting])]
      exact ih path

end

theorem splitOn_call (name : List Char) :
    ("/call/".toList ++ name).splitOn '/' = [] :: "call".toList :: name.splitOn '/' := by
  have spelled : "/call/".toList ++ name = '/' :: 'c' :: 'a' :: 'l' :: 'l' :: '/' :: name := rfl
  rw [spelled]
  simp [List.splitOn_cons_eq_if_modifyHead]

/-- A path that ends with a name is taken whole by the part for it. -/
theorem findings_name {c : Char} {rest : List Char} (start : c ≠ '/') (oneLine : '\n' ∉ rest)
    (fuel : Nat) :
    Route.findings .post (fuel + 2) [] [([pathPart], callRoute)] ((c :: rest).splitOn '/') =
      [.fits callRoute [String.ofList (c :: rest)]] := by
  obtain ⟨part, parts, split⟩ := List.exists_cons_of_ne_nil (List.splitOn_ne_nil '/' (c :: rest))
  have taken : Route.takeParts? pathPart (part :: parts) =
      some ([String.ofList (c :: rest)], []) := by
    have whole : ['/'].intercalate (part :: parts) = c :: rest := by
      rw [← split, List.intercalate_splitOn]
    rw [pathPart, Route.takeParts?, whole, fit?_path start oneLine]
    rfl
  have hole : Route.nextFitting [([pathPart], callRoute)] = [pathPart] := by
    simp [Route.nextFitting, pathPart, List.eraseDups_cons]
  have sound : Route.isSound pathPart = true := rfl
  have nothing : Route.after (.fixed part) [([pathPart], callRoute)] = [] := rfl
  rw [split, Route.findings, hole, nothing, findings_nil]
  simp only [List.flatMap_singleton, sound, taken]
  rfl

/-- The path of a call comes to the route of calls, which takes the name from it. -/
theorem arrive_call {c : Char} {rest : List Char} (start : c ≠ '/') (oneLine : '\n' ∉ rest) :
    Route.arrive [fileRoute, indexRoute, callRoute] .post ("/call/".toList ++ c :: rest) =
      .at callRoute [String.ofList (c :: rest)] := by
  let candidates : List (Route.Candidate Place) :=
    [fileRoute, indexRoute, callRoute].map fun route => (route.pattern.parts, route)
  have front : Route.nextFitting candidates = [] := by
    simp [Route.nextFitting, candidates, fileRoute, indexRoute, callRoute]
  have behind : Route.nextFitting (Route.after (.fixed []) candidates) = [] := by
    simp [Route.nextFitting, Route.after, candidates, fileRoute, indexRoute, callRoute]
  have calls : Route.after (.fixed "call".toList) (Route.after (.fixed []) candidates) =
      [([pathPart], callRoute)] := rfl
  have found : Route.search [fileRoute, indexRoute, callRoute] .post
      ("/call/".toList ++ c :: rest) = [.fits callRoute [String.ofList (c :: rest)]] := by
    have length : Route.length [fileRoute, indexRoute, callRoute] = 3 := rfl
    rw [Route.search, splitOn_call, length, findings_fixed front, findings_fixed behind, calls]
    exact findings_name start oneLine 0
  rw [Route.arrive, found]
  rfl

/-- Whether the name of a method stands in a path as it is: it starts with a character other than a
slash, after which no line ends. -/
def isRoutable (name : String) : Bool :=
  match name.toList with
  | [] => false
  | c :: rest => c ≠ '/' && !rest.contains '\n'

/-- A form that is posted to the address of a method is submitted to the method. -/
theorem respond_actionUrl {client : Client} {name : String} (routable : isRoutable name = true)
    (form : Submitted) (link : Link) :
    (Explorer.ofClient client).respond
        (.post ((Explorer.ofClient client).actionUrl name) form) link =
      .ok ((Explorer.ofClient client).submit name form link) := by
  cases spelled : name.toList with
  | nil => simp [isRoutable, spelled] at routable
  | cons c rest =>
    obtain ⟨start, oneLine⟩ : c ≠ '/' ∧ '\n' ∉ rest := by
      simpa [isRoutable, spelled] using routable
    have chars : ("" ++ "/call/" ++ name).toList = "/call/".toList ++ c :: rest := by
      rw [String.toList_append, String.toList_append, spelled]
      rfl
    have asked : requestPath ((Explorer.ofClient client).actionUrl name).toList =
        .ok ("/call/".toList ++ c :: rest) := by
      rw [← chars]
      exact requestPath_percentEncode chars (by decide) (by decide)
    have arrived : Route.arrive (Explorer.ofClient client).routes .post
        ("/call/".toList ++ c :: rest) = .at callRoute [name] := by
      rw [← String.ofList_toList (s := name), spelled]
      exact arrive_call start oneLine
    simp only [Explorer.respond, Explorer.Request.address, Explorer.Request.verb, asked, arrived]
    rfl

end ServiceClient

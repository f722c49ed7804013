import RealtimePlatform.Proof.JsonTokens
import RealtimePlatform.Library.Reading

namespace RealtimePlatform.Proof.JsonSoundness
open Library Sdk.MinimalJson JsonTokens

variable {δ : Type} (round : Bool → ℚ → δ)

def BadEscape (text : Utf16) : Prop :=
  ∃ inside value four rest, text = inside ++ (0x5C :: 0x75 :: (four ++ rest)) ∧
    Json.Chars (lexicon round) inside value ∧ four.length = 4 ∧ toInt16 four = none

inductive Chokes : Utf16 → Prop
  | number {token rest : Utf16} (nonempty : token ≠ []) (legal : ∀ u ∈ token, inNumber u = true)
      (stop : ∀ u ∈ rest.head?, inNumber u = false) (refused : toDouble round token = none) : Chokes (token ++ rest)
  | string {rest : Utf16} (bad : BadEscape round rest) : Chokes (0x22 :: rest)
  | array (init : List (Json.Element δ)) (spaced : ∀ e ∈ init, e.Spaced (lexicon round))
      (read : ∀ e ∈ init, Json.Value (lexicon round) e.text e.value) {before rest : Utf16}
      (blank : (lexicon round).Spaces before) (next : Chokes rest) :
      Chokes (0x5B :: (Json.separated (init.map Json.Element.whole) ++ (before ++ rest)))
  | name (init : List (Json.Member δ)) (labelled : ∀ m ∈ init, m.label.Valid (lexicon round))
      (spaced : ∀ m ∈ init, m.element.Spaced (lexicon round))
      (read : ∀ m ∈ init, Json.Value (lexicon round) m.element.text m.element.value) {before rest : Utf16}
      (blank : (lexicon round).Spaces before) (bad : BadEscape round rest) :
      Chokes (0x7B :: (Json.separated (init.map Json.Member.whole) ++ (before ++ (0x22 :: rest))))
  | member (init : List (Json.Member δ)) (labelled : ∀ m ∈ init, m.label.Valid (lexicon round))
      (spaced : ∀ m ∈ init, m.element.Spaced (lexicon round))
      (read : ∀ m ∈ init, Json.Value (lexicon round) m.element.text m.element.value) {label : Json.Label}
      (valid : label.Valid (lexicon round)) {before rest : Utf16} (blank : (lexicon round).Spaces before)
      (next : Chokes rest) :
      Chokes (0x7B :: (Json.separated (init.map Json.Member.whole) ++ (label.whole ++ (before ++ rest))))

def Fails (chokes short : Prop) : Failure → Prop
  | .illegalState _ => True
  | .numberFormat => chokes
  | .indexOutOfBounds => False
  | .outOfFuel => short

theorem Fails.mono {chokes chokes' short short' : Prop} (onChokes : chokes → chokes') (onShort : short → short')
    (failure : Failure) (fails : Fails chokes short failure) : Fails chokes' short' failure := by
  cases failure with
  | illegalState => trivial
  | numberFormat => exact onChokes fails
  | indexOutOfBounds => exact fails
  | outOfFuel => exact onShort fails

section Steps

theorem ok_bind {α β : Type} (a : α) (next : α → Except Failure β) : Except.ok a >>= next = next a := rfl

variable {s : Utf16} {α : Type} {done : α → Nat → Prop} {chokes short : Prop} {i : Nat}

theorem charAt_eq {c : UInt16} (here : s[i]? = some c) : charAt s i = .ok c := by
  rw [charAt, here]

theorem check_pos {condition : Prop} [Decidable condition] {reason : Reason} (holds : condition) :
    check condition reason = .ok () := if_pos holds

theorem ends_check {condition : Prop} [Decidable condition] {reason : Reason} {next : Except Failure (α × Nat)}
    (later : condition → Ends next done (Fails chokes short)) :
    Ends (check condition reason >>= fun _ => next) done (Fails chokes short) := by
  by_cases holds : condition
  · rw [check_pos holds]
    exact later holds
  · rw [check, if_neg holds]
    trivial

theorem ends_charAt {next : UInt16 → Except Failure (α × Nat)} (bound : i < s.length)
    (later : ∀ c, s[i]? = some c → Ends (next c) done (Fails chokes short)) :
    Ends (charAt s i >>= next) done (Fails chokes short) := by
  have here := List.getElem?_eq_getElem bound
  rw [charAt_eq here]
  exact later _ here

theorem ends_expect {c : UInt16} {next : Nat → Except Failure (α × Nat)}
    (later : s[i]? = some c → Ends (next (i + 1)) done (Fails chokes short)) :
    Ends (expect s c i >>= next) done (Fails chokes short) := by
  by_cases here : s[i]? = some c
  · rw [expect, check, if_pos here]
    exact later here
  · rw [expect, check, if_neg here]
    trivial

theorem skipWhitespace_reads : Reads s i ((s.drop i).takeWhile isWhitespace) (skipWhitespace s i) :=
  Reads.takeWhile isWhitespace

theorem spaces_takeWhile : (lexicon round).Spaces ((s.drop i).takeWhile isWhitespace) :=
  fun _ member => List.mem_takeWhile_imp (p := isWhitespace) member

theorem skipWhitespace_eq {ws : Utf16} {j : Nat} (read : Reads s i ws j) (blank : ∀ u ∈ ws, isWhitespace u = true)
    (stop : ∀ u ∈ s[j]?, isWhitespace u = false) : skipWhitespace s i = j := by
  rw [skipWhitespace, skipWhile, read.takeWhile_eq blank stop, read.2]

theorem skipWhitespace_to {ws : Utf16} {j : Nat} {c : UInt16} (read : Reads s i ws j)
    (blank : ∀ u ∈ ws, isWhitespace u = true) (here : s[j]? = some c) (visible : isWhitespace c = false) :
    skipWhitespace s i = j := by
  refine skipWhitespace_eq read blank ?_
  rw [here]
  rintro _ ⟨⟩
  exact visible

theorem skipWhitespace_skipWhitespace : skipWhitespace s (skipWhitespace s i) = skipWhitespace s i :=
  skipWhitespace_eq Reads.nil (fun _ member => absurd member List.not_mem_nil)
    (Reads.not_at_takeWhile isWhitespace)

theorem substring_eq {w : Utf16} {j : Nat} (read : Reads s i w j) (bound : j ≤ s.length) : substring s i j = .ok w := by
  rw [substring, if_pos ⟨read.le, bound⟩, List.drop_take, read.1, read.2, Nat.add_sub_cancel_left, List.take_left]

end Steps

section Strings

variable {s : Utf16}

theorem BadEscape.extend {item u rest : Utf16} (read : Json.Chars (lexicon round) item u) (bad : BadEscape round rest) :
    BadEscape round (item ++ rest) := by
  obtain ⟨inside, value, four, after, rfl, chars, length, refused⟩ := bad
  exact ⟨item ++ inside, u ++ value, four, after, by simp, read.append chars, length, refused⟩

def StringRead (sb : Utf16) (i : Nat) (s : Utf16) (value : Utf16) (j : Nat) : Prop :=
  ∃ inside more, value = sb ++ more ∧ Json.Chars (lexicon round) inside more ∧ Reads s i (inside ++ [0x22]) j

theorem ends_turn {fuel i j : Nat} {sb item : Utf16} {u : UInt16} (read : Reads s i item j) (here : i < s.length)
    (onward : i < j) (chars : Json.Chars (lexicon round) item [u])
    (next : Ends (stringLoop s fuel (sb ++ [u]) j) (StringRead round (sb ++ [u]) j s)
      (Fails (BadEscape round (s.drop j)) (fuel ≤ s.length - j))) :
    Ends (stringLoop s fuel (sb ++ [u]) j) (StringRead round sb i s)
      (Fails (BadEscape round (s.drop i)) (fuel + 1 ≤ s.length - i)) := by
  refine next.mono ?_ (Fails.mono ?_ (by omega))
  · rintro value k ⟨inside, more, rfl, rest, later⟩
    refine ⟨item ++ inside, u :: more, by simp, chars.append rest, ?_⟩
    rw [List.append_assoc]
    exact read.append later
  · intro bad
    rw [read.1]
    exact bad.extend round chars

theorem stringLoop_ends (fuel : Nat) (sb : Utf16) (i : Nat) :
    Ends (stringLoop s fuel sb i) (StringRead round sb i s)
      (Fails (BadEscape round (s.drop i)) (fuel ≤ s.length - i)) := by
  induction fuel generalizing sb i with
  | zero => exact Nat.zero_le _
  | succ fuel ih =>
    rw [stringLoop]
    refine ends_check fun bound => ends_charAt bound fun c here => ?_
    have first := Reads.of_getElem? here
    split_ifs with quote backslash
    · subst quote
      exact ⟨[], [], by simp, .nil, first⟩
    · subst backslash
      refine ends_check fun bound' => ends_charAt bound' fun e next => ?_
      have two := first.append (Reads.of_getElem? next)
      cases known : Json.simpleEscape e with
      | some meant => exact ends_turn round two bound (by omega) (.escape known .nil) (ih _ _)
      | none =>
        dsimp only
        split_ifs with unicode
        · subst unicode
          refine ends_check fun enough => ?_
          have length : ((s.drop (i + 1 + 1)).take 4).length = 4 := by
            rw [List.length_take, List.length_drop]
            omega
          have four := (Reads.of_drop (s := s) (i := i + 1 + 1) (List.take_append_drop 4 _).symm).1
          rw [length] at four
          rw [substring_eq four (by omega), ok_bind]
          cases parsed : toInt16 ((s.drop (i + 1 + 1)).take 4) with
          | some n =>
            have item : Json.Chars (lexicon round) (0x5C :: 0x75 :: ((s.drop (i + 1 + 1)).take 4 ++ [])) [toChar n] :=
              .unicode length (by simp [lexicon, parsed]) .nil
            rw [List.append_nil] at item
            exact ends_turn round (two.append four) bound (by omega) item (ih _ _)
          | none =>
            refine ⟨[], [], (s.drop (i + 1 + 1)).take 4, s.drop (i + 1 + 5), ?_, .nil, length, parsed⟩
            rw [(two.append four).1]
            rfl
        · trivial
    · have plain : (lexicon round).raw c = true := decide_eq_true ⟨quote, backslash⟩
      exact ends_turn round first bound (by omega) (.raw plain .nil) (ih _ _)

theorem parseString_ends (i : Nat) :
    Ends (parseString s i)
      (fun value j => ∃ inside, Json.Chars (lexicon round) inside value ∧ Reads s i (Json.quoted inside) j)
      (Fails (∃ rest, s.drop i = 0x22 :: rest ∧ BadEscape round rest) False) := by
  refine ends_expect fun here => ?_
  have quote := Reads.of_getElem? here
  refine (stringLoop_ends round (s.length + 1) [] (i + 1)).mono ?_ (Fails.mono ?_ (by omega))
  · rintro value j ⟨inside, more, rfl, chars, read⟩
    exact ⟨inside, chars, quote.append read⟩
  · intro bad
    exact ⟨s.drop (i + 1), quote.1, bad⟩

end Strings

variable {s : Utf16}

theorem parseNumber_eq (i : Nat) : parseNumber round s i =
    if (s.drop i).takeWhile inNumber = [] then .error (.illegalState (.unexpectedValue i))
    else (toDouble round ((s.drop i).takeWhile inNumber)).elim (.error .numberFormat)
      fun x => .ok (x, i + ((s.drop i).takeWhile inNumber).length) := by
  have read := Reads.takeWhile (s := s) (i := i) inNumber
  have short := (List.takeWhile_prefix inNumber (l := s.drop i)).length_le
  rw [List.length_drop] at short
  by_cases empty : (s.drop i).takeWhile inNumber = []
  · simp [parseNumber, skipWhile, empty, check]
    rfl
  · have some' := List.length_pos_iff.mpr empty
    have onward : i < skipWhile s inNumber i := Nat.lt_add_of_pos_right some'
    have bound : skipWhile s inNumber i ≤ s.length := by
      rw [skipWhile]
      omega
    have cut : substring s i (skipWhile s inNumber i) = .ok ((s.drop i).takeWhile inNumber) := substring_eq read bound
    rw [if_neg empty, parseNumber, check_pos onward, ok_bind, cut, ok_bind]
    cases toDouble round ((s.drop i).takeWhile inNumber) <;> rfl

theorem parseNumber_ends (i : Nat) :
    Ends (parseNumber round s i) (fun x j => ∃ token, (lexicon round).number token x ∧ Reads s i token j)
      (Fails (Chokes round (s.drop i)) False) := by
  have read := Reads.takeWhile (s := s) (i := i) inNumber
  have legal : ∀ u ∈ (s.drop i).takeWhile inNumber, inNumber u = true :=
    fun _ member => List.mem_takeWhile_imp member
  rw [parseNumber_eq]
  by_cases empty : (s.drop i).takeWhile inNumber = []
  · rw [if_pos empty]
    trivial
  · rw [if_neg empty]
    cases parsed : toDouble round ((s.drop i).takeWhile inNumber) with
    | some x => exact ⟨_, ⟨legal, parsed⟩, read⟩
    | none =>
      have stop := Reads.not_at_takeWhile (s := s) (i := i) inNumber
      rw [← List.head?_drop] at stop
      change Chokes round (s.drop i)
      rw [read.1]
      exact .number empty legal stop parsed

def ValueRead (s : Utf16) (i : Nat) (v : Json δ) (j : Nat) : Prop :=
  ∃ before inner, (lexicon round).Spaces before ∧ Json.Value (lexicon round) inner v ∧ Reads s i (before ++ inner) j

def Falls (text : Utf16) : Prop := ∃ before rest, (lexicon round).Spaces before ∧ Chokes round rest ∧ text = before ++ rest

section Loops

variable {parseValue : Nat → Except Failure (Json δ × Nat)} {limit : Nat}

def ArrayRead (s : Utf16) (list : List (Json δ)) (i : Nat) (v : Json δ) (j : Nat) : Prop :=
  ∃ (init : List (Json.Element δ)) (last : Json.Element δ), (∀ e ∈ init ++ [last], e.Spaced (lexicon round)) ∧
    (∀ e ∈ init ++ [last], Json.Value (lexicon round) e.text e.value) ∧
    v = .array (list ++ (init ++ [last]).map Json.Element.value) ∧
    Reads s i (Json.separated (init.map Json.Element.whole) ++ (last.whole ++ [0x5D])) j

def ArrayFalls (text : Utf16) : Prop :=
  ∃ init : List (Json.Element δ), (∀ e ∈ init, e.Spaced (lexicon round)) ∧
    (∀ e ∈ init, Json.Value (lexicon round) e.text e.value) ∧
    ∃ rest, Falls round rest ∧ text = Json.separated (init.map Json.Element.whole) ++ rest

theorem arrayLoop_ends (value : ∀ i, Ends (parseValue i) (ValueRead round s i)
      (Fails (Falls round (s.drop i)) (limit ≤ s.length - i))) (fuel : Nat) (list : List (Json δ)) (i : Nat) :
    Ends (arrayLoop s parseValue fuel list i) (ArrayRead round s list i)
      (Fails (ArrayFalls round (s.drop i)) (min fuel limit ≤ s.length - i)) := by
  induction fuel generalizing list i with
  | zero => exact Nat.zero_min limit ▸ Nat.zero_le _
  | succ fuel ih =>
    rw [arrayLoop]
    refine (value i).bind (Fails.mono ?_ (by omega)) ?_
    · exact fun falls => ⟨[], by simp, by simp, s.drop i, falls, rfl⟩
    rintro v j ⟨before, inner, blank, read, span⟩
    let e : Json.Element δ := ⟨before, inner, v, (s.drop j).takeWhile isWhitespace⟩
    have spaced : e.Spaced (lexicon round) := ⟨blank, spaces_takeWhile round⟩
    have whole : Reads s i e.whole (skipWhitespace s j) := by
      have both := span.append skipWhitespace_reads
      rwa [List.append_assoc] at both
    have onward := whole.le
    refine ends_check fun bound => ends_charAt bound fun c here => ?_
    have sign := Reads.of_getElem? here
    split_ifs with comma close
    · subst comma
      have item := whole.append sign
      refine (ih _ _).mono ?_ (Fails.mono ?_ (by omega))
      · rintro w k ⟨init, last, allSpaced, allRead, rfl, rest⟩
        refine ⟨e :: init, last, List.forall_mem_cons.mpr ⟨spaced, allSpaced⟩,
          List.forall_mem_cons.mpr ⟨read, allRead⟩, by simp [e], ?_⟩
        simpa [Json.separated] using item.append rest
      · rintro ⟨init, allSpaced, allRead, rest, falls, shape⟩
        refine ⟨e :: init, List.forall_mem_cons.mpr ⟨spaced, allSpaced⟩,
          List.forall_mem_cons.mpr ⟨read, allRead⟩, rest, falls, ?_⟩
        rw [item.1, shape]
        simp [Json.separated]
    · subst close
      refine ⟨[], e, ?_, ?_, rfl, ?_⟩
      · simpa using spaced
      · simpa using read
      · exact whole.append sign
    · trivial

def ObjectRead (s : Utf16) (before : List (Json.Member δ)) (i : Nat) (v : Json δ) (j : Nat) : Prop :=
  ∃ (init : List (Json.Member δ)) (last : Json.Member δ), (∀ m ∈ init ++ [last], m.label.Valid (lexicon round)) ∧
    (∀ m ∈ init ++ [last], m.element.Spaced (lexicon round)) ∧
    (∀ m ∈ init ++ [last], Json.Value (lexicon round) m.element.text m.element.value) ∧
    v = .object (Json.entries (before ++ (init ++ [last]))) ∧
    Reads s i (Json.separated (init.map Json.Member.whole) ++ (last.whole ++ [0x7D])) j

def MemberFalls (text : Utf16) : Prop :=
  (∃ before rest, (lexicon round).Spaces before ∧ BadEscape round rest ∧ text = before ++ (0x22 :: rest)) ∨
    ∃ (label : Json.Label) (rest : Utf16), label.Valid (lexicon round) ∧ Falls round rest ∧ text = label.whole ++ rest

def ObjectFalls (text : Utf16) : Prop :=
  ∃ init : List (Json.Member δ), (∀ m ∈ init, m.label.Valid (lexicon round)) ∧
    (∀ m ∈ init, m.element.Spaced (lexicon round)) ∧
    (∀ m ∈ init, Json.Value (lexicon round) m.element.text m.element.value) ∧
    ∃ rest, MemberFalls round rest ∧ text = Json.separated (init.map Json.Member.whole) ++ rest

theorem objectLoop_ends (value : ∀ i, Ends (parseValue i) (ValueRead round s i)
      (Fails (Falls round (s.drop i)) (limit ≤ s.length - i))) (fuel : Nat) (past : List (Json.Member δ)) (i : Nat) :
    Ends (objectLoop s parseValue fuel (Json.entries past) i) (ObjectRead round s past i)
      (Fails (ObjectFalls round (s.drop i)) (min fuel limit ≤ s.length - i)) := by
  induction fuel generalizing past i with
  | zero => exact Nat.zero_min limit ▸ Nat.zero_le _
  | succ fuel ih =>
    rw [objectLoop]
    have margin := skipWhitespace_reads (s := s) (i := i)
    refine (parseString_ends round _).bind (Fails.mono ?_ False.elim) ?_
    · rintro ⟨rest, shape, bad⟩
      refine ⟨[], by simp, by simp, by simp, s.drop i,
        .inl ⟨_, rest, spaces_takeWhile round (s := s) (i := i), bad, ?_⟩, rfl⟩
      exact shape ▸ margin.1
    rintro key j ⟨inside, chars, name⟩
    have gap := skipWhitespace_reads (s := s) (i := j)
    refine ends_expect fun colon => ?_
    let label : Json.Label := ⟨(s.drop i).takeWhile isWhitespace, inside, key, (s.drop j).takeWhile isWhitespace⟩
    have valid : label.Valid (lexicon round) := ⟨spaces_takeWhile round, chars, spaces_takeWhile round⟩
    have labelled : Reads s i label.whole (skipWhitespace s j + 1) :=
      margin.append (name.append (gap.append (Reads.of_getElem? colon)))
    have onward := labelled.le
    refine (value _).bind (Fails.mono ?_ (by omega)) ?_
    · exact fun falls => ⟨[], by simp, by simp, by simp, s.drop i, .inr ⟨label, _, valid, falls, labelled.1⟩, rfl⟩
    rintro v k ⟨before, inner, blank, read, span⟩
    let m : Json.Member δ := ⟨label, ⟨before, inner, v, (s.drop k).takeWhile isWhitespace⟩⟩
    have spaced : m.element.Spaced (lexicon round) := ⟨blank, spaces_takeWhile round⟩
    have whole : Reads s i m.whole (skipWhitespace s k) := by
      have both := labelled.append (span.append skipWhitespace_reads)
      rwa [List.append_assoc before] at both
    have later := whole.le
    have grown : Json.put key v (Json.entries past) = Json.entries (past ++ [m]) := by
      rw [Json.entries, Json.entries, List.foldl_concat]
    refine ends_check fun bound => ends_charAt bound fun c here => ?_
    have sign := Reads.of_getElem? here
    rw [grown]
    split_ifs with comma close
    · subst comma
      have item := whole.append sign
      refine (ih _ _).mono ?_ (Fails.mono ?_ (by omega))
      · rintro w l ⟨init, last, allValid, allSpaced, allRead, rfl, rest⟩
        refine ⟨m :: init, last, List.forall_mem_cons.mpr ⟨valid, allValid⟩,
          List.forall_mem_cons.mpr ⟨spaced, allSpaced⟩, List.forall_mem_cons.mpr ⟨read, allRead⟩, by simp, ?_⟩
        simpa [Json.separated] using item.append rest
      · rintro ⟨init, allValid, allSpaced, allRead, rest, falls, shape⟩
        refine ⟨m :: init, List.forall_mem_cons.mpr ⟨valid, allValid⟩, List.forall_mem_cons.mpr ⟨spaced, allSpaced⟩,
          List.forall_mem_cons.mpr ⟨read, allRead⟩, rest, falls, ?_⟩
        rw [item.1, shape]
        simp [Json.separated]
    · subst close
      refine ⟨[], m, ?_, ?_, ?_, rfl, ?_⟩
      · simpa using valid
      · simpa using spaced
      · simpa using read
      · exact whole.append sign
    · trivial

theorem arrayLoop_skipWhitespace (blind : ∀ i, parseValue (skipWhitespace s i) = parseValue i) (fuel : Nat)
    (list : List (Json δ)) (i : Nat) :
    arrayLoop s parseValue fuel list (skipWhitespace s i) = arrayLoop s parseValue fuel list i := by
  cases fuel with
  | zero => rfl
  | succ fuel => simp only [arrayLoop, blind]

theorem objectLoop_skipWhitespace (fuel : Nat) (map : List (Utf16 × Json δ)) (i : Nat) :
    objectLoop s parseValue fuel map (skipWhitespace s i) = objectLoop s parseValue fuel map i := by
  cases fuel with
  | zero => rfl
  | succ fuel => simp only [objectLoop, skipWhitespace_skipWhitespace]

variable (value : ∀ i, Ends (parseValue i) (ValueRead round s i)
  (Fails (Falls round (s.drop i)) (limit ≤ s.length - i)))
include value

def ReadHere (s : Utf16) (i : Nat) (v : Json δ) (j : Nat) : Prop :=
  ∃ inner, Json.Value (lexicon round) inner v ∧ Reads s i inner j

theorem parseArray_ends (blind : ∀ i, parseValue (skipWhitespace s i) = parseValue i) (i : Nat) :
    Ends (parseArray s parseValue limit i) (ReadHere round s i)
      (Fails (Chokes round (s.drop i)) (limit + 1 ≤ s.length - i)) := by
  refine ends_expect fun here => ?_
  have sign := Reads.of_getElem? here
  have bound := sign.lt_length
  have margin := skipWhitespace_reads (s := s) (i := i + 1)
  dsimp only
  split_ifs with close
  · exact ⟨_, .emptyArray (spaces_takeWhile round), sign.append (margin.append (Reads.of_getElem? close))⟩
  · rw [arrayLoop_skipWhitespace blind]
    refine (arrayLoop_ends round value limit [] (i + 1)).mono ?_ (Fails.mono ?_ (by omega))
    · rintro v j ⟨init, last, spaced, read, rfl, rest⟩
      exact ⟨_, .array init last spaced read, sign.append rest⟩
    · rintro ⟨init, spaced, read, _, ⟨before, rest, blank, next, rfl⟩, shape⟩
      rw [sign.1, shape]
      exact .array init spaced read blank next

theorem parseObject_ends (i : Nat) :
    Ends (parseObject s parseValue limit i) (ReadHere round s i)
      (Fails (Chokes round (s.drop i)) (limit + 1 ≤ s.length - i)) := by
  refine ends_expect fun here => ?_
  have sign := Reads.of_getElem? here
  have bound := sign.lt_length
  have margin := skipWhitespace_reads (s := s) (i := i + 1)
  dsimp only
  split_ifs with close
  · exact ⟨_, .emptyObject (spaces_takeWhile round), sign.append (margin.append (Reads.of_getElem? close))⟩
  · rw [objectLoop_skipWhitespace]
    refine (objectLoop_ends round value limit [] (i + 1)).mono ?_ (Fails.mono ?_ (by omega))
    · rintro v j ⟨init, last, valid, spaced, read, rfl, rest⟩
      exact ⟨_, .object init last valid spaced read, sign.append rest⟩
    · rintro ⟨init, valid, spaced, read, _, falls, shape⟩
      rw [sign.1, shape]
      obtain ⟨before, rest, blank, bad, rfl⟩ | ⟨label, _, named, ⟨before, rest, blank, next, rfl⟩, rfl⟩ := falls
      · exact .name init valid spaced read blank bad
      · exact .member init valid spaced read named blank next

end Loops

theorem parseValue_skipWhitespace (fuel i : Nat) :
    parseValue round s fuel (skipWhitespace s i) = parseValue round s fuel i := by
  cases fuel with
  | zero => rfl
  | succ fuel => simp only [parseValue, skipWhitespace_skipWhitespace]

theorem reads_of_startsWith {word : Utf16} {i : Nat} (found : startsWith s word i = true) :
    Reads s i word (i + word.length) := by
  obtain ⟨rest, shape⟩ := List.isPrefixOf_iff_prefix.mp found
  exact (Reads.of_drop shape.symm).1

theorem readHere_ends {step : Except Failure (Json δ × Nat)} {i : Nat} (short : Prop) {short' : Prop}
    (ends : Ends step (ReadHere round s (skipWhitespace s i)) (Fails (Chokes round (s.drop (skipWhitespace s i))) short))
    (onShort : short → short') :
    Ends step (ValueRead round s i) (Fails (Falls round (s.drop i)) short') := by
  have margin := skipWhitespace_reads (s := s) (i := i)
  refine ends.mono ?_ (Fails.mono ?_ onShort)
  · rintro v j ⟨inner, read, span⟩
    exact ⟨_, inner, spaces_takeWhile round, read, margin.append span⟩
  · exact fun chokes => ⟨_, _, spaces_takeWhile round, chokes, margin.1⟩

theorem parseValue_ends (fuel i : Nat) :
    Ends (parseValue round s fuel i) (ValueRead round s i)
      (Fails (Falls round (s.drop i)) (fuel ≤ s.length - i)) := by
  induction fuel generalizing i with
  | zero => exact Nat.zero_le _
  | succ fuel ih =>
    have onward := (skipWhitespace_reads (s := s) (i := i)).le
    rw [parseValue]
    refine ends_check fun bound => ends_charAt bound fun c here => ?_
    split_ifs with brace bracket quote yes no null
    · exact readHere_ends round _ (parseObject_ends round ih _) (by omega)
    · exact readHere_ends round _ (parseArray_ends round ih (parseValue_skipWhitespace round fuel) _) (by omega)
    · refine readHere_ends round False ?_ False.elim
      refine (parseString_ends round _).bind (Fails.mono ?_ id) ?_
      · rintro ⟨rest, shape, bad⟩
        exact shape ▸ .string bad
      · rintro value j ⟨inside, chars, span⟩
        exact ⟨_, .string chars, span⟩
    · exact readHere_ends round False ⟨_, .true, reads_of_startsWith yes⟩ False.elim
    · exact readHere_ends round False ⟨_, .false, reads_of_startsWith no⟩ False.elim
    · exact readHere_ends round False ⟨_, .null, reads_of_startsWith null⟩ False.elim
    · refine readHere_ends round False ?_ False.elim
      refine (parseNumber_ends round _).bind (fun _ => id) ?_
      rintro x j ⟨token, read, span⟩
      exact ⟨token, .number read, span⟩

end RealtimePlatform.Proof.JsonSoundness

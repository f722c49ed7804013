import RealtimePlatform.Library.PaddedText
import RealtimePlatform.Library.Glob

/-!
# Texts as UTF-16 code units

Some languages keep a text as any sequence of 16-bit units and read scalar values from it when they
have to; a surrogate without its partner then reads as U+FFFD.
-/

namespace RealtimePlatform.Library

abbrev Utf16 := List UInt16

instance : LawfulBEq Utf16 := inferInstanceAs (LawfulBEq (List UInt16))

namespace Utf16

def isHigh (u : UInt16) : Bool := 0xD800 ≤ u.toNat && u.toNat < 0xDC00
def isLow (u : UInt16) : Bool := 0xDC00 ≤ u.toNat && u.toNat < 0xE000

def encodeChar (c : Char) : Utf16 :=
  if c.toNat < 0x10000 then [UInt16.ofNat c.toNat]
  else [UInt16.ofNat (0xD800 + (c.toNat - 0x10000) / 0x400),
    UInt16.ofNat (0xDC00 + (c.toNat - 0x10000) % 0x400)]

def ofString (s : String) : Utf16 := s.toList.flatMap encodeChar

def replacement : Char := '\uFFFD'

def single (u : UInt16) : Char := if isHigh u || isLow u then replacement else Char.ofNat u.toNat

def pair (high low : UInt16) : Char :=
  Char.ofNat (0x10000 + (high.toNat - 0xD800) * 0x400 + (low.toNat - 0xDC00))

/-- The scalar values of a text. -/
def scalars : Utf16 → List Char
  | [] => []
  | [u] => [single u]
  | u :: v :: rest =>
    if isHigh u && isLow v then pair u v :: scalars rest else single u :: scalars (v :: rest)

def toUsv (s : Utf16) : String := String.ofList (scalars s)

def utf8ByteLength (s : Utf16) : Nat := (utf8 (toUsv s)).length

def WellFormed (s : Utf16) : Prop := ofString (toUsv s) = s

theorem not_surrogate (c : Char) : ¬ (0xD800 ≤ c.toNat ∧ c.toNat < 0xE000) := by
  rcases c.valid with below | ⟨above, _⟩
  · have short := below
    simp only [Char.toNat] at *
    omega
  · simp only [Char.toNat] at *
    omega

theorem toNat_lt (c : Char) : c.toNat < 0x110000 := by
  rcases c.valid with below | ⟨_, above⟩
  · have short := below
    simp only [Char.toNat] at *
    omega
  · exact above

theorem utf8Size_eq_four_iff {c : Char} : c.utf8Size = 4 ↔ 0x10000 ≤ c.toNat := by
  rw [Char.utf8Size_eq_four_iff, UInt32.lt_iff_toNat_lt]
  rfl

theorem encodeChar_short {c : Char} (short : c.toNat < 0x10000) :
    encodeChar c = [UInt16.ofNat c.toNat] := if_pos short

theorem encodeChar_long {c : Char} (long : 0x10000 ≤ c.toNat) :
    ∃ high low, encodeChar c = [high, low] ∧ isHigh high = true ∧ isLow low = true ∧
      pair high low = c := by
  have bound := toNat_lt c
  refine ⟨UInt16.ofNat (0xD800 + (c.toNat - 0x10000) / 0x400),
    UInt16.ofNat (0xDC00 + (c.toNat - 0x10000) % 0x400), if_neg (by omega), ?_, ?_, ?_⟩
  · simp only [isHigh, UInt16.toNat_ofNat', Bool.and_eq_true, decide_eq_true_eq]
    omega
  · simp only [isLow, UInt16.toNat_ofNat', Bool.and_eq_true, decide_eq_true_eq]
    omega
  · have value : 0x10000 + ((UInt16.ofNat (0xD800 + (c.toNat - 0x10000) / 0x400)).toNat - 0xD800) * 0x400 +
        ((UInt16.ofNat (0xDC00 + (c.toNat - 0x10000) % 0x400)).toNat - 0xDC00) = c.toNat := by
      simp only [UInt16.toNat_ofNat']
      omega
    rw [pair, value, Char.ofNat_toNat]

theorem single_ofNat {c : Char} (short : c.toNat < 0x10000) :
    single (UInt16.ofNat c.toNat) = c ∧ isHigh (UInt16.ofNat c.toNat) = false := by
  have value : (UInt16.ofNat c.toNat).toNat = c.toNat := by
    rw [UInt16.toNat_ofNat']
    omega
  have plain := not_surrogate c
  have high : isHigh (UInt16.ofNat c.toNat) = false := by
    rw [isHigh, value, Bool.and_eq_false_iff, decide_eq_false_iff_not, decide_eq_false_iff_not]
    omega
  have low : isLow (UInt16.ofNat c.toNat) = false := by
    rw [isLow, value, Bool.and_eq_false_iff, decide_eq_false_iff_not, decide_eq_false_iff_not]
    omega
  constructor
  · rw [single, high, low, value, Char.ofNat_toNat]
    rfl
  · exact high

theorem scalars_cons_of_not_high {u : UInt16} (plain : isHigh u = false) (rest : Utf16) :
    scalars (u :: rest) = single u :: scalars rest := by
  cases rest with
  | nil => rfl
  | cons v rest => simp [scalars, plain]

@[simp] theorem scalars_encodeChar_append (c : Char) (rest : Utf16) :
    scalars (encodeChar c ++ rest) = c :: scalars rest := by
  by_cases short : c.toNat < 0x10000
  · obtain ⟨same, plain⟩ := single_ofNat short
    rw [encodeChar_short short, List.singleton_append, scalars_cons_of_not_high plain, same]
  · obtain ⟨high, low, encoded, isHigh, isLow, paired⟩ := encodeChar_long (by omega : 0x10000 ≤ c.toNat)
    simp [encoded, scalars, isHigh, isLow, paired]

@[simp] theorem ofString_ofList_cons (c : Char) (cs : List Char) :
    ofString (String.ofList (c :: cs)) = encodeChar c ++ ofString (String.ofList cs) := by
  simp [ofString]

theorem scalars_flatMap_append (cs : List Char) (rest : Utf16) :
    scalars (cs.flatMap encodeChar ++ rest) = cs ++ scalars rest := by
  induction cs with
  | nil => rfl
  | cons c cs ih => rw [List.flatMap_cons, List.append_assoc, scalars_encodeChar_append, ih,
      List.cons_append]

@[simp] theorem toUsv_ofString (s : String) : toUsv (ofString s) = s := by
  have units := scalars_flatMap_append s.toList []
  rw [List.append_nil, show scalars [] = [] from rfl, List.append_nil] at units
  rw [toUsv, ofString, units, String.ofList_toList]

theorem ofString_injective : Function.Injective ofString :=
  Function.LeftInverse.injective toUsv_ofString

theorem wellFormed_ofString (s : String) : WellFormed (ofString s) := by
  rw [WellFormed, toUsv_ofString]

theorem toNat_ofNat {n : Nat} (valid : n.isValidChar) : (Char.ofNat n).toNat = n := by
  rw [Char.ofNat, dif_pos valid]
  exact UInt32.toNat_ofNatLT ..

theorem toNat_single_lt (u : UInt16) : (single u).toNat < 0x10000 := by
  have bound := u.toNat_lt
  unfold single
  split
  · decide
  · rename_i plain
    simp only [isHigh, isLow, Bool.or_eq_true, Bool.and_eq_true, decide_eq_true_eq] at plain
    have valid : u.toNat.isValidChar := by
      unfold Nat.isValidChar
      omega
    rw [toNat_ofNat valid]
    exact bound

theorem le_toNat_pair {u v : UInt16} (high : isHigh u = true) (low : isLow v = true) :
    0x10000 ≤ (pair u v).toNat := by
  simp only [isHigh, isLow, Bool.and_eq_true, decide_eq_true_eq] at high low
  have valid : (0x10000 + (u.toNat - 0xD800) * 0x400 + (v.toNat - 0xDC00)).isValidChar := by
    unfold Nat.isValidChar
    omega
  rw [pair, toNat_ofNat valid]
  omega

theorem length_encodeChar_single (u : UInt16) : (encodeChar (single u)).length = 1 := by
  rw [encodeChar_short (toNat_single_lt u), List.length_singleton]

theorem length_encodeChar_pair {u v : UInt16} (high : isHigh u = true) (low : isLow v = true) :
    (encodeChar (pair u v)).length = 2 := by
  obtain ⟨_, _, encoded, _⟩ := encodeChar_long (le_toNat_pair high low)
  rw [encoded]
  rfl

theorem length_ofString_toUsv (s : Utf16) : (ofString (toUsv s)).length = s.length := by
  have units : ((scalars s).flatMap encodeChar).length = s.length := by
    induction s using scalars.induct with
    | case1 => rfl
    | case2 u => simp [scalars, length_encodeChar_single]
    | case3 u v rest both ih =>
        have kinds : isHigh u = true ∧ isLow v = true := by simpa using both
        rw [scalars, if_pos both, List.flatMap_cons, List.length_append, ih,
          length_encodeChar_pair kinds.1 kinds.2, List.length_cons, List.length_cons]
        omega
    | case4 u v rest apart ih =>
        rw [scalars, if_neg apart, List.flatMap_cons, List.length_append, ih,
          length_encodeChar_single, Nat.add_comm, ← List.length_cons]
  rw [ofString, toUsv, String.toList_ofList, units]

def isPlain (u : UInt16) : Bool := !isHigh u && !isLow u

theorem toNat_single {u : UInt16} (plain : isPlain u = true) : (single u).toNat = u.toNat := by
  have bound := u.toNat_lt
  simp only [isPlain, Bool.and_eq_true, Bool.not_eq_true'] at plain
  have valid : u.toNat.isValidChar := by
    have high := plain.1
    have low := plain.2
    simp only [isHigh, isLow, Bool.and_eq_false_iff, decide_eq_false_iff_not] at high low
    unfold Nat.isValidChar
    omega
  rw [single, plain.1, plain.2, Bool.or_false, if_neg Bool.false_ne_true, toNat_ofNat valid]

theorem single_of_not_plain {u : UInt16} (surrogate : isPlain u = false) : single u = replacement := by
  refine if_pos ?_
  rw [isPlain] at surrogate
  cases high : isHigh u with
  | true => rfl
  | false => simpa [high] using surrogate

theorem mem_scalars_iff {u : UInt16} (plain : isPlain u = true) (known : single u ≠ replacement)
    {s : Utf16} : single u ∈ scalars s ↔ u ∈ s := by
  have one : ∀ v, single u = single v ↔ u = v := by
    intro v
    constructor
    · intro same
      cases other : isPlain v with
      | false => exact absurd (same.trans (single_of_not_plain other)) known
      | true =>
          apply UInt16.toNat_inj.mp
          rw [← toNat_single plain, ← toNat_single other, same]
    · intro same
      rw [same]
  induction s using scalars.induct with
  | case1 => simp [scalars]
  | case2 v => rw [scalars, List.mem_singleton, List.mem_singleton, one]
  | case3 v w rest both ih =>
      have kinds : isHigh v = true ∧ isLow w = true := by simpa using both
      have apart : single u ≠ pair v w := by
        intro same
        have large := le_toNat_pair kinds.1 kinds.2
        have small := toNat_single_lt u
        rw [same] at small
        omega
      have first : u ≠ v := by
        rintro rfl
        simp [isPlain, kinds.1] at plain
      have second : u ≠ w := by
        rintro rfl
        simp [isPlain, kinds.2] at plain
      have tail : single u ∈ scalars rest ↔ u ∈ rest := ih
      rw [scalars, if_pos both]
      simp [apart, first, second, tail]
  | case4 v w rest apart ih =>
      have tail : single u ∈ scalars (w :: rest) ↔ u ∈ w :: rest := ih
      rw [scalars, if_neg apart, List.mem_cons, tail, one, ← List.mem_cons]

theorem eq_single_of_mem_encodeChar {u : UInt16} (plain : isPlain u = true) {c : Char}
    (member : u ∈ encodeChar c) : c = single u := by
  by_cases short : c.toNat < 0x10000
  · rw [encodeChar_short short, List.mem_singleton] at member
    rw [member]
    exact (single_ofNat short).1.symm
  · obtain ⟨high, low, encoded, isHigh, isLow, _⟩ := encodeChar_long (by omega : 0x10000 ≤ c.toNat)
    rw [encoded] at member
    rcases List.mem_cons.mp member with rfl | last
    · simp [isPlain, isHigh] at plain
    · rw [List.mem_singleton.mp last] at plain
      simp [isPlain, isLow] at plain

theorem single_zero : single 0 = '\x00' := by decide

theorem zero_mem_of_scalars {s : Utf16} (nul : '\x00' ∈ scalars s) : 0 ∈ s := by
  rw [← single_zero] at nul
  exact (mem_scalars_iff (by decide) (by decide)).mp nul

theorem nul_mem_of_encodeChar {c : Char} (zero : 0 ∈ encodeChar c) : c = '\x00' :=
  (eq_single_of_mem_encodeChar (by decide) zero).trans single_zero

theorem selfSynchronizing_encodeChar : SelfSynchronizing encodeChar fun u => isLow u = false where
  first c := by
    by_cases short : c.toNat < 0x10000
    · refine ⟨_, [], encodeChar_short short, ?_, by simp⟩
      rw [isLow, UInt16.toNat_ofNat', Bool.and_eq_false_iff, decide_eq_false_iff_not,
        decide_eq_false_iff_not]
      have plain := not_surrogate c
      omega
    · obtain ⟨high, low, encoded, first, second, _⟩ :=
        encodeChar_long (by omega : 0x10000 ≤ c.toNat)
      refine ⟨high, [low], encoded, ?_, by simp [second]⟩
      rw [isHigh, Bool.and_eq_true, decide_eq_true_eq, decide_eq_true_eq] at first
      rw [isLow, Bool.and_eq_false_iff, decide_eq_false_iff_not, decide_eq_false_iff_not]
      omega
  decodable c d v w same := by
    have scalar := congrArg scalars same
    rw [scalars_encodeChar_append, scalars_encodeChar_append] at scalar
    exact (List.cons.inj scalar).1

def utf8Length (cs : List Char) : Nat := (cs.flatMap String.utf8EncodeChar).length

@[simp] theorem utf8Length_nil : utf8Length [] = 0 := rfl

@[simp] theorem utf8Length_cons (c : Char) (cs : List Char) :
    utf8Length (c :: cs) = c.utf8Size + utf8Length cs := by
  simp [utf8Length]

@[simp] theorem utf8Length_append (cs ds : List Char) :
    utf8Length (cs ++ ds) = utf8Length cs + utf8Length ds := by
  simp [utf8Length]

theorem utf8Length_replicate (n : Nat) (c : Char) : utf8Length (List.replicate n c) = n * c.utf8Size := by
  induction n with
  | zero => simp
  | succ n ih => rw [List.replicate_succ, utf8Length_cons, ih, Nat.succ_mul, Nat.add_comm]

theorem utf8ByteLength_eq (s : Utf16) : utf8ByteLength s = utf8Length (scalars s) := by
  rw [utf8ByteLength, toUsv, utf8_ofList, utf8Length]

theorem utf8Size_single_le (u : UInt16) : (single u).utf8Size ≤ 3 := by
  have small := toNat_single_lt u
  have bound := Char.utf8Size_le_four (single u)
  have short : (single u).utf8Size ≠ 4 := by
    intro four
    rw [utf8Size_eq_four_iff] at four
    omega
  omega

theorem utf8Length_scalars_concat (s : Utf16) (u : UInt16) :
    utf8Length (scalars s) ≤ utf8Length (scalars (s ++ [u])) := by
  induction s using scalars.induct with
  | case1 => simp [scalars]
  | case2 v =>
      by_cases both : (isHigh v && isLow u) = true
      · have kinds : isHigh v = true ∧ isLow u = true := by simpa using both
        have four := utf8Size_eq_four_iff.mpr (le_toNat_pair kinds.1 kinds.2)
        have three := utf8Size_single_le v
        simp only [List.singleton_append, scalars, both, if_true, utf8Length_cons, utf8Length_nil, four]
        omega
      · simp [scalars, both]
  | case3 v w rest both ih =>
      simpa [scalars, both] using ih
  | case4 v w rest apart ih =>
      simpa [scalars, apart] using ih

theorem utf8ByteLength_take_mono (s : Utf16) {i j : Nat} (le : i ≤ j) :
    utf8ByteLength (s.take i) ≤ utf8ByteLength (s.take j) := by
  induction j, le using Nat.le_induction with
  | base => exact Nat.le_refl _
  | succ j _ ih =>
      refine Nat.le_trans ih ?_
      rw [List.take_add_one]
      cases s[j]? with
      | none => simp
      | some u =>
          rw [utf8ByteLength_eq, utf8ByteLength_eq]
          exact utf8Length_scalars_concat _ u

def fitting (width : Nat) : List Char → List Char
  | [] => []
  | c :: cs => if c.utf8Size ≤ width then c :: fitting (width - c.utf8Size) cs else []

theorem utf8Length_fitting_le (width : Nat) (cs : List Char) : utf8Length (fitting width cs) ≤ width := by
  induction cs generalizing width with
  | nil => exact Nat.zero_le _
  | cons c cs ih =>
      unfold fitting
      split
      · have tail := ih (width - c.utf8Size)
        rw [utf8Length_cons]
        omega
      · exact Nat.zero_le _

theorem fitting_append (width : Nat) (cs : List Char) :
    ∃ rest, cs = fitting width cs ++ rest ∧
      ∀ c ∈ rest.head?, width < utf8Length (fitting width cs) + c.utf8Size := by
  induction cs generalizing width with
  | nil => exact ⟨[], rfl, by simp⟩
  | cons c cs ih =>
      unfold fitting
      split
      · obtain ⟨rest, split, full⟩ := ih (width - c.utf8Size)
        refine ⟨rest, congrArg (c :: ·) split, ?_⟩
        intro d first
        have last := full d first
        rw [utf8Length_cons]
        omega
      · rename_i wide
        refine ⟨c :: cs, rfl, ?_⟩
        intro d first
        cases first
        rw [utf8Length_nil]
        omega

theorem fitting_eq_self {width : Nat} {cs : List Char} (fits : utf8Length cs ≤ width) :
    fitting width cs = cs := by
  induction cs generalizing width with
  | nil => rfl
  | cons c cs ih =>
      rw [utf8Length_cons] at fits
      rw [fitting, if_pos (by omega), ih (by omega)]

theorem writePadded_fitting (width : Nat) (s : String) :
    Library.writePadded width s =
      Library.writePadded width (String.ofList (fitting width s.toList)) := by
  have fits : (utf8 (String.ofList (fitting width s.toList))).length ≤ width := by
    rw [utf8_ofList]
    exact utf8Length_fitting_le width s.toList
  by_cases whole : (utf8 s).length ≤ width
  · have same : fitting width s.toList = s.toList := by
      apply fitting_eq_self
      rwa [utf8Length, ← utf8_ofList, String.ofList_toList]
    rw [same, String.ofList_toList]
  obtain ⟨rest, split, full⟩ := fitting_append width s.toList
  cases rest with
  | nil =>
      rw [List.append_nil] at split
      rw [← split, String.ofList_toList] at fits
      exact absurd fits whole
  | cons c rest =>
      obtain ⟨x, more, encoded, leads, follow⟩ := utf8EncodeChar_lead c
      have wide := full c rfl
      have bytes : utf8 s = (fitting width s.toList).flatMap String.utf8EncodeChar ++
          (x :: more ++ rest.flatMap String.utf8EncodeChar) := by
        rw [← encoded, ← List.flatMap_cons, ← List.flatMap_append, ← split, ← utf8_ofList,
          String.ofList_toList]
      have size : more.length + 1 = c.utf8Size := by
        rw [← String.length_utf8EncodeChar, encoded, List.length_cons]
      have start : isCharBoundary s (utf8Length (fitting width s.toList)) = true := by
        unfold isCharBoundary
        split
        · rfl
        · have first : (utf8 s)[utf8Length (fitting width s.toList)]? = some x := by
            rw [bytes, utf8Length, List.getElem?_append_right (Nat.le_refl _), Nat.sub_self]
            rfl
          rw [first]
          exact leads
      have within : ∀ j, utf8Length (fitting width s.toList) < j → j ≤ width →
          isCharBoundary s j = false := by
        intro j above small
        have inside : j - utf8Length (fitting width s.toList) - 1 < more.length := by omega
        obtain ⟨i, here⟩ : ∃ i, j - utf8Length (fitting width s.toList) = i + 1 :=
          ⟨j - utf8Length (fitting width s.toList) - 1, by omega⟩
        rw [here, Nat.add_sub_cancel] at inside
        have byte : (utf8 s)[j]? = some more[i] := by
          rw [bytes, List.getElem?_append_right (Nat.le_of_lt above)]
          change (x :: more ++ _)[j - utf8Length (fitting width s.toList)]? = _
          rw [here, List.cons_append, List.getElem?_cons_succ, List.getElem?_append_left inside,
            List.getElem?_eq_getElem inside]
        have inner := follow _ (List.getElem_mem inside)
        unfold isCharBoundary
        rw [if_neg (by omega), byte]
        exact inner
      have short : utf8Length (fitting width s.toList) ≤ width := utf8Length_fitting_le _ _
      have taken : charBoundaryUpTo s width = utf8Length (fitting width s.toList) :=
        charBoundaryUpTo_eq start within short
      rw [writePadded_of_le fits]
      simp only [Library.writePadded, if_pos (Nat.lt_of_not_le whole), taken, utf8_ofList]
      rw [bytes, utf8Length, List.take_left]

end Utf16
end RealtimePlatform.Library

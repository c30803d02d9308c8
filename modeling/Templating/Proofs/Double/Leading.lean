import Templating.Proofs.Double.Numeral
import Templating.Proofs.Text.Position

/-!
# The number at the beginning of a text

The number that a text begins with can be found in the bytes of its encoding, by one scan that never
decodes a character: all that it looks for are characters of one byte, and no byte of a longer
character is like one of these. So the scan stops only where a character begins, and it stops behind
the longest numeral.

* `Text.utf8`, `Text.head?_utf8`, `Text.length_takeWhile_utf8` — an encoding, and what its first
  bytes say of the text;
* `signEnd`, `mantissaEnd`, `exponentEnd`, `scanEnd` — the scan over bytes, and where it stops;
* `Leads` — the number that a text begins with, and where the scan stops in it;
* `ofLeading_leads` — it is the one that is read.
-/

namespace Templating

namespace Text

-- ---------------------------------------------------------------------------
-- The encoding
-- ---------------------------------------------------------------------------

/-- The bytes of the UTF-8 encoding. -/
def utf8 (t : Text) : List UInt8 := t.flatMap String.utf8EncodeChar

theorem utf8_cons (c : Char) (t : Text) : utf8 (c :: t) = String.utf8EncodeChar c ++ utf8 t :=
  List.flatMap_cons

theorem utf8_append (a b : Text) : utf8 (a ++ b) = utf8 a ++ utf8 b := List.flatMap_append

theorem length_utf8 : ∀ t : Text, (utf8 t).length = byteSize t
  | [] => rfl
  | c :: t => by
    rw [utf8_cons, List.length_append, String.length_utf8EncodeChar, length_utf8 t, byteSize]

/-- From the byte where a part of the text stands, its bytes follow. -/
theorem At.drop_utf8 {t rest : Text} {i : Nat} (h : At t i rest) : (utf8 t).drop i = utf8 rest := by
  obtain ⟨before, rfl, rfl⟩ := h
  rw [utf8_append, ← length_utf8, List.drop_left]

/-- Behind what a text goes on with stands the rest of it. -/
theorem At.behind {t rest found : Text} {i : Nat} (h : At t i rest) (hstart : found <+: rest) :
    At t (i + Text.byteSize found) (rest.drop found.length) := by
  obtain ⟨after, rfl⟩ := hstart
  rw [List.drop_left]
  exact h.append

/-- A character of one byte is that byte; any other begins with a byte that is no such character. -/
theorem utf8EncodeChar_cases (c : Char) :
    (c.toNat < 128 ∧ String.utf8EncodeChar c = [c.toUInt8]) ∨
      (128 ≤ c.toNat ∧ ∃ b bytes, String.utf8EncodeChar c = b :: bytes ∧ 128 ≤ b.toNat) := by
  by_cases hc : c.toNat < 128
  · refine .inl ⟨hc, String.utf8EncodeChar_eq_singleton (Char.utf8Size_eq_one_iff.mpr ?_)⟩
    exact UInt32.le_iff_toNat_le.mpr (Nat.le_of_lt_succ hc)
  · refine .inr ⟨by omega, ?_⟩
    have hc' : ¬ c.val.toNat ≤ 127 := fun hle => hc (Nat.lt_succ_of_le hle)
    unfold String.utf8EncodeChar
    simp only [if_neg hc']
    split
    · refine ⟨_, _, rfl, ?_⟩
      rw [UInt8.toNat_ofNat']
      omega
    · split
      · refine ⟨_, _, rfl, ?_⟩
        rw [UInt8.toNat_ofNat']
        omega
      · refine ⟨_, _, rfl, ?_⟩
        rw [UInt8.toNat_ofNat']
        omega

theorem toNat_toUInt8 {c : Char} (h : c.toNat < 128) : c.toUInt8.toNat = c.toNat := by
  show c.toNat % 2 ^ 8 = c.toNat
  omega

/-- The first byte of a text is that of a character of one byte exactly if the text begins with this
character. -/
theorem head?_utf8 {c : Char} (hc : c.toNat < 128) (t : Text) :
    (utf8 t).head? = some c.toUInt8 ↔ t.head? = some c := by
  cases t with
  | nil => exact ⟨nofun, nofun⟩
  | cons d t =>
    rw [utf8_cons, List.head?_cons, Option.some.injEq]
    rcases utf8EncodeChar_cases d with ⟨hd, hbyte⟩ | ⟨hd, b, bytes, hbytes, hb⟩
    · rw [hbyte, List.singleton_append, List.head?_cons, Option.some.injEq]
      constructor
      · intro heq
        have hnat := congrArg UInt8.toNat heq
        rw [toNat_toUInt8 hc, toNat_toUInt8 hd] at hnat
        exact Char.toNat_inj.mp hnat
      · rintro rfl
        rfl
    · rw [hbytes, List.cons_append, List.head?_cons, Option.some.injEq]
      constructor
      · rintro rfl
        rw [toNat_toUInt8 hc] at hb
        omega
      · rintro rfl
        omega

/-- Whether a byte is one of `0` to `9`. -/
def isDigitByte (b : UInt8) : Bool := '0'.toUInt8 ≤ b && b ≤ '9'.toUInt8

theorem isDigitByte_iff (b : UInt8) : isDigitByte b = true ↔ 48 ≤ b.toNat ∧ b.toNat ≤ 57 := by
  rw [isDigitByte, Bool.and_eq_true, decide_eq_true_eq, decide_eq_true_eq, UInt8.le_iff_toNat_le,
    UInt8.le_iff_toNat_le]
  rfl

theorem isDigit_iff (c : Char) : isDigit c = true ↔ 48 ≤ c.toNat ∧ c.toNat ≤ 57 := by
  rw [isDigit, Bool.and_eq_true, decide_eq_true_eq, decide_eq_true_eq, Char.le_def, Char.le_def,
    UInt32.le_iff_toNat_le, UInt32.le_iff_toNat_le]
  rfl

/-- The bytes of a text begin with as many digits as the text. -/
theorem length_takeWhile_utf8 : ∀ t : Text,
    ((utf8 t).takeWhile isDigitByte).length = byteSize (t.takeWhile isDigit)
  | [] => rfl
  | c :: t => by
    rw [utf8_cons]
    rcases utf8EncodeChar_cases c with ⟨hc, hbyte⟩ | ⟨hc, b, bytes, hbytes, hb⟩
    · have hsame : isDigitByte c.toUInt8 = isDigit c := by
        rw [Bool.eq_iff_iff, isDigitByte_iff, isDigit_iff, toNat_toUInt8 hc]
      have hsize : c.utf8Size = 1 := by
        rw [← String.length_utf8EncodeChar, hbyte]
        rfl
      rw [hbyte, List.singleton_append, List.takeWhile_cons, List.takeWhile_cons, hsame]
      cases isDigit c with
      | true =>
        rw [if_pos rfl, if_pos rfl, List.length_cons, byteSize, length_takeWhile_utf8 t, hsize,
          Nat.add_comm]
      | false => rfl
    · have hbyte : isDigitByte b ≠ true := by
        rw [Ne, isDigitByte_iff]
        omega
      have hdigit : isDigit c ≠ true := by
        rw [Ne, isDigit_iff]
        omega
      rw [hbytes, List.cons_append, List.takeWhile_cons_of_neg hbyte,
        List.takeWhile_cons_of_neg hdigit]
      rfl

end Text

namespace Double

open Text (At utf8 byteSize isDigit)

-- ---------------------------------------------------------------------------
-- The scan over bytes
-- ---------------------------------------------------------------------------

/-- Where the digits that stand at a byte end. -/
def digitsEnd (bytes : List UInt8) (i : Nat) : Nat :=
  i + ((bytes.drop i).takeWhile Text.isDigitByte).length

/-- Where the sign that stands at a byte ends, if there is one. -/
def signEnd (bytes : List UInt8) (i : Nat) : Nat :=
  if bytes[i]? = some '+'.toUInt8 ∨ bytes[i]? = some '-'.toUInt8 then i + 1 else i

/-- Where the digits that stand at a byte end, those behind a point included. -/
def mantissaEnd (bytes : List UInt8) (i : Nat) : Nat :=
  let whole := digitsEnd bytes i
  if bytes[whole]? = some '.'.toUInt8 then digitsEnd bytes (whole + 1) else whole

/-- Where the exponent that stands at a byte ends; without a digit it is no exponent. -/
def exponentEnd (bytes : List UInt8) (i : Nat) : Nat :=
  if bytes[i]? = some 'e'.toUInt8 ∨ bytes[i]? = some 'E'.toUInt8 then
    let digits := signEnd bytes (i + 1)
    let stop := digitsEnd bytes digits
    if digits < stop then stop else i
  else i

/-- Where the scan ends. -/
def scanEnd (bytes : List UInt8) : Nat :=
  exponentEnd bytes (mantissaEnd bytes (signEnd bytes 0))

section Positions

variable {t rest : Text} {i : Nat} (h : At t i rest)

include h

theorem getElem?_utf8 : (utf8 t)[i]? = (utf8 rest).head? := by
  rw [← h.drop_utf8, List.head?_drop]

/-- A character of one byte is seen at a byte exactly if it stands there. -/
theorem getElem?_utf8_eq_iff {c : Char} (hc : c.toNat < 128) :
    (utf8 t)[i]? = some c.toUInt8 ↔ rest.head? = some c := by
  rw [getElem?_utf8 h, Text.head?_utf8 hc]

theorem digitsEnd_eq : digitsEnd (utf8 t) i = i + byteSize (rest.takeWhile isDigit) := by
  rw [digitsEnd, h.drop_utf8, Text.length_takeWhile_utf8]

theorem signEnd_eq : signEnd (utf8 t) i = i + byteSize (signAt rest) := by
  have hsign : (utf8 t)[i]? = some '+'.toUInt8 ∨ (utf8 t)[i]? = some '-'.toUInt8 ↔
      rest.head? = some '+' ∨ rest.head? = some '-' :=
    or_congr (getElem?_utf8_eq_iff h (by decide)) (getElem?_utf8_eq_iff h (by decide))
  by_cases hhead : rest.head? = some '+' ∨ rest.head? = some '-'
  · rw [signEnd, if_pos (hsign.mpr hhead)]
    rcases hhead with hplus | hminus
    · obtain ⟨after, rfl⟩ := List.head?_eq_some_iff.mp hplus
      rfl
    · obtain ⟨after, rfl⟩ := List.head?_eq_some_iff.mp hminus
      rfl
  · have hnone : signAt rest = [] := signAt_append (.inl rfl) (not_or.mp hhead)
    rw [signEnd, if_neg (mt hsign.mp hhead), hnone]
    rfl

theorem mantissaEnd_eq : mantissaEnd (utf8 t) i = i + byteSize (mantissaAt rest) := by
  obtain ⟨digits, hdigits, ⟨after, rfl⟩ | ⟨after, rfl, hafter, hpoint⟩⟩ := mantissaAt_cases rest
  · have hwhole : digitsEnd (utf8 t) i = i + byteSize digits := by
      rw [digitsEnd_eq h, takeWhile_digits hdigits (noDigit_cons not_isDigit_point after)]
    have hpoint : At t (i + byteSize digits) (['.'] ++ after) := h.append
    have hbehind : At t (i + byteSize digits + 1) after := hpoint.append
    rw [mantissaEnd, hwhole, if_pos ((getElem?_utf8_eq_iff hpoint (by decide)).mpr rfl),
      digitsEnd_eq hbehind, mantissaAt_pointed hdigits, Text.byteSize_append, byteSize]
    simp only [Nat.add_assoc]
    rfl
  · have hwhole : digitsEnd (utf8 t) i = i + byteSize digits := by
      rw [digitsEnd_eq h, takeWhile_digits hdigits hafter]
    rw [mantissaEnd, hwhole, mantissaAt_whole hdigits hafter hpoint]
    exact if_neg (mt (getElem?_utf8_eq_iff h.append (by decide)).mp hpoint)

theorem exponentEnd_eq : exponentEnd (utf8 t) i = i + byteSize (exponentAt rest) := by
  have hmark : (utf8 t)[i]? = some 'e'.toUInt8 ∨ (utf8 t)[i]? = some 'E'.toUInt8 ↔
      rest.head? = some 'e' ∨ rest.head? = some 'E' :=
    or_congr (getElem?_utf8_eq_iff h (by decide)) (getElem?_utf8_eq_iff h (by decide))
  cases rest with
  | nil => exact if_neg (mt hmark.mp (by simp))
  | cons c rest =>
    by_cases hc : c = 'e' ∨ c = 'E'
    · have hbehind : At t (i + 1) rest := by
        rcases hc with rfl | rfl
        · exact At.append (a := ['e']) h
        · exact At.append (a := ['E']) h
      have hone : c.utf8Size = 1 := by
        rcases hc with rfl | rfl
        · rfl
        · rfl
      have hdigits := hbehind.behind (signAt_begins rest)
      simp only [exponentEnd, if_pos (hmark.mpr (by simpa using hc)), signEnd_eq hbehind,
        digitsEnd_eq hdigits, exponentAt_cons hc]
      generalize (rest.drop (signAt rest).length).takeWhile isDigit = digits
      by_cases hnone : digits = []
      · subst hnone
        rw [if_pos rfl]
        exact if_neg (Nat.lt_irrefl _)
      · obtain ⟨d, more, rfl⟩ := List.exists_cons_of_ne_nil hnone
        have hpos := Text.byteSize_cons_pos d more
        have hsize : byteSize (c :: (signAt rest ++ d :: more)) =
            1 + (byteSize (signAt rest) + byteSize (d :: more)) := by
          rw [byteSize, Text.byteSize_append, hone]
        rw [if_neg hnone, if_pos (by omega), hsize]
        omega
    · rw [exponentAt_of_ne hc]
      exact if_neg (mt hmark.mp (by simpa using hc))

theorem at_signEnd : At t (signEnd (utf8 t) i) (rest.drop (signAt rest).length) := by
  rw [signEnd_eq h]
  exact h.behind (signAt_begins rest)

theorem at_mantissaEnd : At t (mantissaEnd (utf8 t) i) (rest.drop (mantissaAt rest).length) := by
  rw [mantissaEnd_eq h]
  exact h.behind (mantissaAt_begins rest)

theorem at_exponentEnd : At t (exponentEnd (utf8 t) i) (rest.drop (exponentAt rest).length) := by
  rw [exponentEnd_eq h]
  exact h.behind (exponentAt_begins rest)

end Positions

theorem at_zero (t : Text) : At t 0 t := Text.at_append [] t

/-- The scan stops behind the numeral that is found. -/
theorem scanEnd_eq {t n : Text} (h : numeralAt? t = some n) : scanEnd (utf8 t) = byteSize n := by
  have hsign := at_signEnd (at_zero t)
  rw [scanEnd, exponentEnd_eq (at_mantissaEnd hsign), mantissaEnd_eq hsign,
    signEnd_eq (at_zero t)]
  rw [numeralAt?_eq rfl] at h
  split at h
  · cases h
  · cases h
    rw [Text.byteSize_append, Text.byteSize_append, Nat.zero_add, Nat.add_assoc]

-- ---------------------------------------------------------------------------
-- The number at the beginning
-- ---------------------------------------------------------------------------

/-- The text begins with an infinity: a sign or nothing, and the word. -/
def BeginsInfinite (t : Text) (negative : Bool) : Prop :=
  ∃ sign after, Sign sign ∧ t = sign ++ ("Infinity".toList ++ after) ∧
    negative = decide (sign = ['-'])

/-- The text begins with the number, and the scan of its bytes with a numeral. -/
structure Leads (t : Text) (x : Double) : Prop where
  /-- The scan stops three times, and each time a character begins there or the text ends. -/
  boundaries : let bytes := utf8 t
    let sign := signEnd bytes 0
    let mantissa := mantissaEnd bytes sign
    (∃ rest, At t sign rest) ∧ (∃ rest, At t mantissa rest) ∧ ∃ rest, At t (scanEnd bytes) rest
  infinity : ∀ negative, BeginsInfinite t negative → x = .infinite negative
  /-- The longest numeral goes up to the end of the scan, and to read it gives the number. -/
  numeral : (∀ negative, ¬ BeginsInfinite t negative) → (∃ m, Numeral m ∧ m <+: t) →
    ∃ n, LongestNumeral t n ∧ byteSize n = scanEnd (utf8 t) ∧ ofText? n = some x
  nan : (∀ negative, ¬ BeginsInfinite t negative) →
    (x = nan ↔ ¬ ∃ m, Numeral m ∧ m <+: t)

theorem noSign_infinity (after : Text) : NoSign ("Infinity".toList ++ after) :=
  ⟨by simp, by simp⟩

theorem beginsInfinite_iff {t : Text} {negative : Bool} : BeginsInfinite t negative ↔
    Text.startsWith "Infinity".toList (splitSign t).2 = true ∧ negative = (splitSign t).1 := by
  rw [Text.startsWith_iff]
  constructor
  · rintro ⟨sign, after, hsign, rfl, hnegative⟩
    rw [splitSign_append hsign (noSign_infinity after)]
    exact ⟨List.prefix_append .., hnegative⟩
  · rintro ⟨hstart, hnegative⟩
    rw [splitSign_eq] at hstart hnegative
    obtain ⟨after, hafter⟩ := hstart
    refine ⟨signAt t, after, sign_signAt t, ?_, hnegative⟩
    rw [hafter]
    exact (List.prefix_iff_eq_append.mp (signAt_begins t)).symm

theorem not_beginsInfinite_iff {t : Text} : (∀ negative, ¬ BeginsInfinite t negative) ↔
    Text.startsWith "Infinity".toList (splitSign t).2 = false := by
  simp [beginsInfinite_iff]

/-- The number that a text without white space in front of it is read as. -/
theorem ofLeading_eq {t rest : Text} (h : Text.trimStart t = rest) : ofLeading t =
    if Text.startsWith "Infinity".toList (splitSign rest).2 then infinite (splitSign rest).1
    else ((numeralAt? rest).bind ofText?).getD nan := by
  rw [ofLeading, h]
  cases numeralAt? rest with
  | none => rfl
  | some n => rfl

/-- Either a numeral is found, and it is read as a number, or there is none. -/
theorem found_or_none (t : Text) :
    (∃ n x, numeralAt? t = some n ∧ LongestNumeral t n ∧ ofText? n = some x ∧ x ≠ nan) ∨
      (numeralAt? t = none ∧ ¬ ∃ m, Numeral m ∧ m <+: t) := by
  cases hfound : numeralAt? t with
  | none =>
    refine .inr ⟨rfl, ?_⟩
    rintro ⟨m, hm, hstart⟩
    exact numeralAt?_eq_none_iff.mp hfound m hm hstart
  | some n =>
    have hlongest := numeralAt?_eq_some_iff.mp hfound
    obtain ⟨x, hx, hne⟩ := ofText?_of_numeral hlongest.numeral
    exact .inl ⟨n, x, rfl, hlongest, hx, hne⟩

/-- **The number at the beginning of a text is read**, behind the white space. -/
theorem ofLeading_leads (t : Text) : ∃ blank rest, t = blank ++ rest ∧
    (∀ c ∈ blank, Text.isWhiteSpace c = true) ∧
    (∀ c ∈ rest.head?, Text.isWhiteSpace c = false) ∧ Leads rest (ofLeading t) := by
  refine ⟨t.takeWhile Text.isWhiteSpace, Text.trimStart t,
    List.takeWhile_append_dropWhile.symm, fun c hc => List.mem_takeWhile_imp hc,
    Text.head?_dropWhile _ t, ?_⟩
  rw [ofLeading_eq rfl]
  generalize Text.trimStart t = t
  have hsign := at_signEnd (at_zero t)
  have hmantissa := at_mantissaEnd hsign
  refine ⟨⟨⟨_, hsign⟩, ⟨_, hmantissa⟩, ⟨_, at_exponentEnd hmantissa⟩⟩, ?_, ?_, ?_⟩
  · intro negative hinfinite
    obtain ⟨hword, rfl⟩ := beginsInfinite_iff.mp hinfinite
    exact if_pos hword
  · intro hno hbegins
    rw [not_beginsInfinite_iff.mp hno, if_neg Bool.false_ne_true]
    obtain ⟨n, x, hfound, hlongest, hx, -⟩ | ⟨-, hnone⟩ := found_or_none t
    · refine ⟨n, hlongest, (scanEnd_eq hfound).symm, ?_⟩
      rw [hfound, Option.bind_some, hx, Option.getD_some]
    · exact absurd hbegins hnone
  · intro hno
    rw [not_beginsInfinite_iff.mp hno, if_neg Bool.false_ne_true]
    obtain ⟨n, x, hfound, hlongest, hx, hne⟩ | ⟨hfound, hnone⟩ := found_or_none t
    · rw [hfound, Option.bind_some, hx, Option.getD_some]
      exact ⟨fun hnan => absurd hnan hne,
        fun hnone => absurd ⟨n, hlongest.numeral, hlongest.isPrefix⟩ hnone⟩
    · rw [hfound]
      exact ⟨fun _ => hnone, fun _ => rfl⟩

end Double

end Templating

import Mathlib.Data.Nat.Digits.Defs
import Mathlib.Data.Rat.Defs
import Mathlib.Algebra.Order.Ring.Rat
import Mathlib.Tactic.IntervalCases

/-!
# Numbers in C texts

`strtol`, `strtoul` and `strtod` of the C library, in the "C" locale with a 64-bit `long`. A text
is a list of bytes up to the terminating NUL. Each function answers with the value and with the
rest of the text from `*endptr` on; where nothing could be converted, that rest is the whole text.

Floating point values are exact: `strtod` answers with the rational number the text denotes, and
only the decision whether that number overflows to infinity is taken as the format takes it.

## Main results

* `scanInteger_of_digits` — a row of digits is read as the number they are
* `strtol_decimalInt` — decimal numbers through `strtol`
* `strtoul_hexText` — hexadecimal numbers through `strtoul`
-/

namespace CNumber

/-! ### Characters and digits -/

/-- `isspace` -/
def isSpace (c : UInt8) : Bool := (9 ≤ c && c ≤ 13) || c == 32

/-- The value of a letter or digit as a digit. -/
def digitValue (c : UInt8) : Option ℕ :=
  if 48 ≤ c ∧ c ≤ 57 then some (c.toNat - 48)
  else if 97 ≤ c ∧ c ≤ 122 then some (c.toNat - 87)
  else if 65 ≤ c ∧ c ≤ 90 then some (c.toNat - 55)
  else none

/-- The value of a character that is a digit in the given base. -/
def digit (base : ℕ) (c : UInt8) : Option ℕ := (digitValue c).filter (· < base)

/-- The digits at the front of a text, and what follows them. -/
def takeDigits (base : ℕ) : List UInt8 → List ℕ × List UInt8
  | [] => ([], [])
  | c :: cs =>
    match digit base c with
    | some d => (d :: (takeDigits base cs).1, (takeDigits base cs).2)
    | none => ([], c :: cs)

/-- An optional sign, `true` for minus, and what follows it. -/
def takeSign : List UInt8 → Bool × List UInt8
  | [] => (false, [])
  | c :: cs => if c = 45 then (true, cs) else if c = 43 then (false, cs) else (false, c :: cs)

/-- `tolower` -/
def lower (c : UInt8) : UInt8 := if 65 ≤ c ∧ c ≤ 90 then c + 32 else c

/-! ### Integers -/

/-- In base 16 a `0x` may come before the first digit. -/
def skipHexMark (base : ℕ) : List UInt8 → List UInt8
  | 48 :: x :: c :: cs =>
    if base = 16 ∧ lower x = 120 ∧ (digit 16 c).isSome then c :: cs else 48 :: x :: c :: cs
  | text => text

/-- White space, a sign, digits: the sign, the magnitude and the rest of the text. -/
def scanInteger (base : ℕ) (text : List UInt8) : Option (Bool × ℕ × List UInt8) :=
  let signed := takeSign (text.dropWhile isSpace)
  let digits := takeDigits base (skipHexMark base signed.2)
  if digits.1 = [] then none
  else some (signed.1, Nat.ofDigits base digits.1.reverse, digits.2)

/-- `strtol`. Values outside the range of `long` are moved to its nearer end. -/
def strtol (base : ℕ) (text : List UInt8) : ℤ × List UInt8 :=
  match scanInteger base text with
  | none => (0, text)
  | some (negative, magnitude, rest) =>
    (max (-2 ^ 63) (min (2 ^ 63 - 1) (if negative then -magnitude else magnitude)), rest)

/-- `strtoul`. A magnitude outside the range of `unsigned long` becomes its largest value, and a
minus sign negates modulo `2 ^ 64`. -/
def strtoul (base : ℕ) (text : List UInt8) : ℕ × List UInt8 :=
  match scanInteger base text with
  | none => (0, text)
  | some (negative, magnitude, rest) =>
    (if 2 ^ 64 ≤ magnitude then 2 ^ 64 - 1
      else if negative then (2 ^ 64 - magnitude) % 2 ^ 64 else magnitude, rest)

/-! ### Floating point numbers -/

/-- A `double`, with exact finite values. -/
inductive Double where
  | finite (value : ℚ)
  | infinite (negative : Bool)
  | nan
  deriving DecidableEq, Repr

/-- The number, where there is one: `isfinite`. -/
def Double.toRat : Double → Option ℚ
  | .finite value => some value
  | .infinite _ => none
  | .nan => none

/-- Numbers from the middle between the largest `double` and the next power of two on round to
infinity. -/
def Double.ofRat (value : ℚ) : Double :=
  if |value| < 2 ^ 1024 - 2 ^ 970 then .finite value else .infinite (value < 0)

/-- Does the text start with the word, which is in lower case? -/
def startsWithWord (word text : List UInt8) : Bool := (text.take word.length).map lower == word

/-- An optional exponent behind a marker; without digits it is not there. -/
def takeExponent (marker : UInt8) : List UInt8 → ℤ × List UInt8
  | [] => (0, [])
  | c :: cs =>
    let signed := takeSign cs
    let digits := takeDigits 10 signed.2
    if lower c = marker ∧ digits.1 ≠ [] then
      let magnitude := Nat.ofDigits 10 digits.1.reverse
      (if signed.1 then -magnitude else magnitude, digits.2)
    else (0, c :: cs)

/-- Digits with an optional point: their value without the point, the number of digits behind the
point, and the rest of the text. -/
def takeMantissa (base : ℕ) (text : List UInt8) : Option (ℕ × ℕ × List UInt8) :=
  let whole := takeDigits base text
  let fraction := match whole.2 with
    | 46 :: rest => takeDigits base rest
    | rest => ([], rest)
  if whole.1 = [] ∧ fraction.1 = [] then none
  else some (Nat.ofDigits base (whole.1 ++ fraction.1).reverse, fraction.1.length, fraction.2)

/-- A decimal number with an optional power of ten. -/
def takeDecimal (text : List UInt8) : Option (ℚ × List UInt8) :=
  (takeMantissa 10 text).map fun (mantissa, places, rest) =>
    let exponent := takeExponent 101 rest
    (mantissa * 10 ^ (exponent.1 - places), exponent.2)

/-- A hexadecimal number with an optional power of two. -/
def takeHexadecimal : List UInt8 → Option (ℚ × List UInt8)
  | 48 :: x :: text =>
    if lower x = 120 then
      (takeMantissa 16 text).map fun (mantissa, places, rest) =>
        let exponent := takeExponent 112 rest
        (mantissa * 2 ^ (exponent.1 - 4 * places), exponent.2)
    else none
  | _ => none

/-- What may follow `nan`: letters, digits and underscores in parentheses. -/
def dropNanTag : List UInt8 → List UInt8
  | 40 :: text =>
    match text.dropWhile fun c => (digitValue c).isSome || c == 95 with
    | 41 :: rest => rest
    | _ => 40 :: text
  | text => text

/-- `strtod` -/
def strtod (text : List UInt8) : Double × List UInt8 :=
  let signed := takeSign (text.dropWhile isSpace)
  let body := signed.2
  let sign (value : ℚ) : ℚ := if signed.1 then -value else value
  if startsWithWord [105, 110, 102, 105, 110, 105, 116, 121] body then
    (.infinite signed.1, body.drop 8)
  else if startsWithWord [105, 110, 102] body then (.infinite signed.1, body.drop 3)
  else if startsWithWord [110, 97, 110] body then (.nan, dropNanTag (body.drop 3))
  else
    match takeHexadecimal body, takeDecimal body with
    | some (value, rest), _ => (.ofRat (sign value), rest)
    | none, some (value, rest) => (.ofRat (sign value), rest)
    | none, none => (.finite 0, text)

/-! ### Numbers written out -/

/-- A number written out in a base, with small letters. -/
def digitsText (base n : ℕ) : List UInt8 :=
  (Nat.toDigits base n).map fun c => UInt8.ofNat c.toNat

/-- `std::to_string` of an unsigned number. -/
def decimal (n : ℕ) : List UInt8 := digitsText 10 n

/-- `std::to_string` of a signed number. -/
def decimalInt (n : ℤ) : List UInt8 := if n < 0 then 45 :: decimal n.natAbs else decimal n.natAbs

/-- The nearest integer, and the even one of two that are equally near. -/
def roundHalfEven (q : ℚ) : ℤ :=
  if q - q.floor < 1 / 2 ∨ q - q.floor = 1 / 2 ∧ q.floor % 2 = 0 then q.floor else q.floor + 1

/-- A number written with `std::fixed` and a precision. What rounds to zero keeps its sign. -/
def fixedText (places : ℕ) (q : ℚ) : List UInt8 :=
  let units := (roundHalfEven (|q| * 10 ^ places)).toNat
  (if q < 0 then [45] else []) ++ decimal (units / 10 ^ places) ++
    46 :: (decimal (units % 10 ^ places)).leftpad places 48

theorem point_mem_fixedText (places : ℕ) (q : ℚ) : 46 ∈ fixedText places q :=
  List.mem_append_right _ List.mem_cons_self

theorem digit_digitChar {base d : ℕ} (hbase : base ≤ 16) (hd : d < base) :
    digit base (UInt8.ofNat (Nat.digitChar d).toNat) = some d := by
  have hvalue : digitValue (UInt8.ofNat (Nat.digitChar d).toNat) = some d := by
    have : d < 16 := by omega
    interval_cases d <;> rfl
  rw [digit, hvalue, Option.filter_some]
  simp [hd]

/-- The last digit comes off the end. -/
theorem digitsText_eq {base : ℕ} (hbase : 1 < base) (n : ℕ) :
    digitsText base n = (if n < base then [] else digitsText base (n / base)) ++
      [UInt8.ofNat (Nat.digitChar (n % base)).toNat] := by
  rw [digitsText, Nat.toDigits_eq_if hbase]
  split
  · rename_i hlt
    rw [Nat.mod_eq_of_lt hlt]
    rfl
  · rw [List.map_append]
    rfl

/-- The characters of a written number are its digits. -/
theorem exists_digits {base : ℕ} (hbase : 1 < base) (hbase' : base ≤ 16) (n : ℕ) :
    ∃ ds, (digitsText base n).map (digit base) = ds.map some ∧
      Nat.ofDigits base ds.reverse = n ∧ ds ≠ [] := by
  induction n using Nat.strong_induction_on with
  | _ n ih =>
    have hlast := digit_digitChar hbase' (Nat.mod_lt n (by omega : 0 < base))
    rw [digitsText_eq hbase]
    by_cases hlt : n < base
    · refine ⟨[n % base], ?_, ?_, by simp⟩
      · rw [if_pos hlt, List.nil_append, List.map_singleton, hlast, List.map_singleton]
      · simp [Nat.mod_eq_of_lt hlt]
    · obtain ⟨ds, htext, hvalue, -⟩ := ih (n / base) (Nat.div_lt_self (by omega) hbase)
      refine ⟨ds ++ [n % base], ?_, ?_, by simp⟩
      · rw [if_neg hlt, List.map_append, htext, List.map_singleton, hlast, List.map_append,
          List.map_singleton]
      · rw [List.reverse_append, List.reverse_singleton, List.singleton_append, Nat.ofDigits_cons,
          hvalue]
        exact Nat.mod_add_div n base

theorem takeDigits_append {base : ℕ} {text : List UInt8} {ds : List ℕ} (rest : List UInt8)
    (htext : text.map (digit base) = ds.map some) (hrest : ∀ c ∈ rest.head?, digit base c = none) :
    takeDigits base (text ++ rest) = (ds, rest) := by
  induction text generalizing ds with
  | nil =>
    have hds : ds = [] := by simpa using htext.symm
    subst hds
    cases rest with
    | nil => rfl
    | cons c cs => rw [List.nil_append, takeDigits, hrest c rfl]
  | cons c cs ih =>
    obtain ⟨d, ds, rfl⟩ : ∃ d ds', ds = d :: ds' := by
      cases ds with
      | nil => simp at htext
      | cons d ds => exact ⟨d, ds, rfl⟩
    rw [List.map_cons, List.map_cons, List.cons.injEq] at htext
    rw [List.cons_append, takeDigits, htext.1, ih htext.2]

/-- Digits taken to the end of a text are all of it. -/
theorem map_digit_of_takeDigits {base : ℕ} {text : List UInt8}
    (h : (takeDigits base text).2 = []) :
    text.map (digit base) = (takeDigits base text).1.map some := by
  induction text with
  | nil => rfl
  | cons c cs ih =>
    rw [takeDigits] at h ⊢
    cases hc : digit base c with
    | none => simp [hc] at h
    | some d =>
      simp only [hc] at h
      rw [List.map_cons, hc, ih h]
      rfl

theorem isDigit_of_mem_digitsText {base n : ℕ} (hbase : 1 < base) (hbase' : base ≤ 16) {c : UInt8}
    (hc : c ∈ digitsText base n) : ∃ d < base, digit base c = some d := by
  obtain ⟨ds, htext, -⟩ := exists_digits hbase hbase' n
  have hmem : digit base c ∈ ds.map some := htext ▸ List.mem_map_of_mem hc
  obtain ⟨d, -, hd⟩ := List.mem_map.mp hmem
  refine ⟨d, ?_, hd.symm⟩
  rw [digit, eq_comm, Option.filter_eq_some_iff] at hd
  simpa using hd.2

/-! ### Reading written numbers back -/

/-- Digits are letters and digits. -/
theorem toNat_of_digitValue {c : UInt8} {d : ℕ} (h : digitValue c = some d) :
    48 ≤ c.toNat ∧ c.toNat ≤ 57 ∨ 97 ≤ c.toNat ∧ c.toNat ≤ 122 ∨
      65 ≤ c.toNat ∧ c.toNat ≤ 90 := by
  rw [digitValue] at h
  split at h
  · rename_i hc
    exact .inl ⟨UInt8.le_iff_toNat_le.mp hc.1, UInt8.le_iff_toNat_le.mp hc.2⟩
  · split at h
    · rename_i hc
      exact .inr (.inl ⟨UInt8.le_iff_toNat_le.mp hc.1, UInt8.le_iff_toNat_le.mp hc.2⟩)
    · split at h
      · rename_i hc
        exact .inr (.inr ⟨UInt8.le_iff_toNat_le.mp hc.1, UInt8.le_iff_toNat_le.mp hc.2⟩)
      · simp at h

theorem digitValue_of_digit {base : ℕ} {c : UInt8} {d : ℕ} (h : digit base c = some d) :
    digitValue c = some d := by
  rw [digit, Option.filter_eq_some_iff] at h
  exact h.1

theorem isSpace_of_digit {base : ℕ} {c : UInt8} {d : ℕ} (h : digit base c = some d) :
    isSpace c = false := by
  have hc := toNat_of_digitValue (digitValue_of_digit h)
  have h13 : ¬ c ≤ 13 := by
    rw [UInt8.le_iff_toNat_le]
    change ¬ c.toNat ≤ 13
    omega
  have h32 : c ≠ 32 := by
    rintro rfl
    exact absurd hc (by decide)
  simp [isSpace, h13, h32]

/-- A character that is no letter and no digit does not occur in a written number. -/
theorem notMem_digitsText {base n : ℕ} (hbase : 1 < base) (hbase' : base ≤ 16) {c : UInt8}
    (hc : digitValue c = none) : c ∉ digitsText base n := by
  intro hmem
  obtain ⟨d, -, hd⟩ := isDigit_of_mem_digitsText hbase hbase' hmem
  simp [digitValue_of_digit hd] at hc

theorem digitsText_ne_nil {base : ℕ} (hbase : 1 < base) (n : ℕ) : digitsText base n ≠ [] := by
  rw [digitsText_eq hbase]
  simp

/-- The `x` of a hexadecimal mark is no digit. -/
theorem digit_of_lower_x {base : ℕ} (hbase : base ≤ 16) {x : UInt8} (hx : lower x = 120) :
    digit base x = none := by
  rw [digit, Option.filter_eq_none_iff]
  intro d hvalue
  rw [decide_eq_true_eq]
  rw [lower] at hx
  split at hx
  · have hx' : x = 88 := by
      have h := congrArg UInt8.toNat hx
      have hlt := x.toNat_lt
      rw [UInt8.toNat_add] at h
      apply UInt8.toNat_inj.mp
      change (x.toNat + 32) % 2 ^ 8 = 120 at h
      change x.toNat = 88
      omega
    subst hx'
    simp [digitValue] at hvalue
    omega
  · subst hx
    simp [digitValue] at hvalue
    omega

/-- There is nothing to skip in front of digits. -/
theorem skipHexMark_of_digits {base : ℕ} (hbase : base ≤ 16) {text : List UInt8} {ds : List ℕ}
    (h : text.map (digit base) = ds.map some) : skipHexMark base text = text := by
  unfold skipHexMark
  split
  · rename_i x c cs
    rw [if_neg]
    rintro ⟨-, hx, -⟩
    have hmem : digit base x ∈ ds.map some := by
      rw [← h]
      simp
    obtain ⟨d, -, hd⟩ := List.mem_map.mp hmem
    rw [digit_of_lower_x hbase hx] at hd
    exact absurd hd nofun
  · rfl

/-- A text that begins with a digit is taken without a sign. -/
theorem takeSign_of_digit {base d : ℕ} {c : UInt8} (cs : List UInt8) (h : digit base c = some d) :
    takeSign ((c :: cs).dropWhile isSpace) = (false, c :: cs) := by
  have h45 : c ≠ 45 := by
    rintro rfl
    exact absurd (digitValue_of_digit h) (by simp [digitValue])
  have h43 : c ≠ 43 := by
    rintro rfl
    exact absurd (digitValue_of_digit h) (by simp [digitValue])
  rw [List.dropWhile_cons_of_neg (by simp [isSpace_of_digit h]), takeSign, if_neg h45, if_neg h43]

/-- A row of digits is taken without a sign, whatever follows it. -/
theorem takeSign_of_digits {base : ℕ} {text : List UInt8} {ds : List ℕ} (rest : List UInt8)
    (h : text.map (digit base) = ds.map some) (hne : ds ≠ []) :
    takeSign ((text ++ rest).dropWhile isSpace) = (false, text ++ rest) := by
  obtain ⟨d, ds, rfl⟩ := List.exists_cons_of_ne_nil hne
  cases text with
  | nil => cases h
  | cons c cs =>
    rw [List.map_cons, List.map_cons, List.cons.injEq] at h
    exact takeSign_of_digit (cs ++ rest) h.1

/-- **A row of digits is read** as the number they are, behind a minus sign or without one. -/
theorem scanInteger_of_digits {base : ℕ} (hbase : base ≤ 16) {text : List UInt8} {ds : List ℕ}
    (h : text.map (digit base) = ds.map some) (hne : ds ≠ []) :
    scanInteger base text = some (false, Nat.ofDigits base ds.reverse, []) ∧
      scanInteger base (45 :: text) = some (true, Nat.ofDigits base ds.reverse, []) := by
  have htake : takeDigits base (skipHexMark base text) = (ds, []) := by
    have h' := takeDigits_append [] h (by simp)
    rwa [List.append_nil, ← skipHexMark_of_digits hbase h] at h'
  have hsign : takeSign ((45 :: text).dropWhile isSpace) = (true, text) := rfl
  have hplain := takeSign_of_digits [] h hne
  rw [List.append_nil] at hplain
  constructor
  · simp only [scanInteger, hplain, htake, if_neg hne]
  · simp only [scanInteger, hsign, htake, if_neg hne]

/-- **A written number is read back**, behind a minus sign or without one. -/
theorem scanInteger_digitsText {base : ℕ} (hbase : 1 < base) (hbase' : base ≤ 16) (n : ℕ) :
    scanInteger base (digitsText base n) = some (false, n, []) ∧
      scanInteger base (45 :: digitsText base n) = some (true, n, []) := by
  obtain ⟨ds, htext, hvalue, hne⟩ := exists_digits hbase hbase' n
  have hscan := scanInteger_of_digits hbase' htext hne
  rwa [hvalue] at hscan

/-- **Numbers in front of other characters** can be told apart. -/
theorem eq_of_decimal_append {p q : ℕ} {s t : List UInt8}
    (hs : ∀ c ∈ s.head?, digit 10 c = none) (ht : ∀ c ∈ t.head?, digit 10 c = none)
    (h : decimal p ++ s = decimal q ++ t) : p = q ∧ s = t := by
  obtain ⟨ds, htext, hvalue, -⟩ := exists_digits (by decide : 1 < 10) (by decide) p
  obtain ⟨ds', htext', hvalue', -⟩ := exists_digits (by decide : 1 < 10) (by decide) q
  have hp := takeDigits_append s htext hs
  have hq := takeDigits_append t htext' ht
  rw [decimal, decimal] at h
  rw [h, hq, Prod.mk.injEq] at hp
  exact ⟨by rw [← hvalue, ← hvalue', hp.1], hp.2.symm⟩

/-- A zero behind a number makes it ten times as large. -/
theorem decimal_mul_ten {p : ℕ} (hp : 0 < p) : decimal (10 * p) = decimal p ++ [48] := by
  rw [decimal, digitsText_eq (by decide), if_neg (by omega), Nat.mul_div_cancel_left p (by decide),
    Nat.mul_mod_right]
  rfl

theorem eq_mul_ten_of_decimal {p q : ℕ} (h : decimal q = decimal p ++ [48]) :
    0 < p ∧ q = 10 * p := by
  have hp : 0 < p := by
    refine Nat.pos_of_ne_zero ?_
    rintro rfl
    -- No number is written `00`.
    by_cases hq : q = 0
    · subst hq
      exact absurd h (by decide)
    · rw [decimal, digitsText_eq (by decide)] at h
      split at h
      · exact absurd (congrArg List.length h) (by simp [decimal, digitsText])
      · obtain ⟨hfront, -⟩ := List.append_inj' h rfl
        have hdigit : digitsText 10 (q / 10) ++ [] = decimal 0 ++ [] := by
          rw [hfront]
        obtain ⟨hzero, -⟩ := eq_of_decimal_append (by simp) (by simp) hdigit
        omega
  rw [← decimal_mul_ten hp] at h
  have happend : decimal q ++ [] = decimal (10 * p) ++ [] := by rw [h]
  exact ⟨hp, (eq_of_decimal_append (by simp) (by simp) happend).1⟩

theorem strtol_decimalInt {n : ℤ} (h : -2 ^ 63 ≤ n) (h' : n < 2 ^ 63) :
    strtol 10 (decimalInt n) = (n, []) := by
  have hscan := scanInteger_digitsText (by decide : 1 < 10) (by decide) n.natAbs
  rw [decimalInt, decimal]
  split
  · rw [strtol, hscan.2]
    simp only [if_true, Prod.mk.injEq, and_true]
    omega
  · rw [strtol, hscan.1]
    simp only [Bool.false_eq_true, if_false, Prod.mk.injEq, and_true]
    omega

/-! ### Hexadecimal numbers -/

/-- `toupper` -/
def upper (c : UInt8) : UInt8 := if 97 ≤ c ∧ c ≤ 122 then c - 32 else c

/-- How `printf` writes a number in hexadecimal: `%x`, `%X`, `%08x`, `0x%04X`. -/
structure HexFormat where
  marked : Bool
  width : ℕ
  capitals : Bool

/-- The digits of a number in hexadecimal, with zeros in front of them up to the width. -/
def hexDigits (format : HexFormat) (n : ℕ) : List UInt8 :=
  (if format.capitals then (digitsText 16 n).map upper else digitsText 16 n).leftpad format.width 48

/-- A number written in hexadecimal. -/
def hexText (format : HexFormat) (n : ℕ) : List UInt8 :=
  if format.marked then 48 :: 120 :: hexDigits format n else hexDigits format n

/-- A digit keeps its value as a capital. -/
theorem digit_upper (base : ℕ) (c : UInt8) : digit base (upper c) = digit base c := by
  by_cases hc : 97 ≤ c ∧ c ≤ 122
  · have h97 : 97 ≤ c.toNat := UInt8.le_iff_toNat_le.mp hc.1
    have h122 : c.toNat ≤ 122 := UInt8.le_iff_toNat_le.mp hc.2
    have hsub : (c - 32).toNat = c.toNat - 32 := by
      rw [UInt8.toNat_sub]
      change (2 ^ 8 - 32 + c.toNat) % 2 ^ 8 = c.toNat - 32
      omega
    have hlow : ¬ (48 ≤ c ∧ c ≤ 57) := by
      simp only [UInt8.le_iff_toNat_le]
      change ¬ (48 ≤ c.toNat ∧ c.toNat ≤ 57)
      omega
    have hlow' : ¬ (48 ≤ c - 32 ∧ c - 32 ≤ 57) := by
      simp only [UInt8.le_iff_toNat_le, hsub]
      change ¬ (48 ≤ c.toNat - 32 ∧ c.toNat - 32 ≤ 57)
      omega
    have hsmall : ¬ (97 ≤ c - 32 ∧ c - 32 ≤ 122) := by
      simp only [UInt8.le_iff_toNat_le, hsub]
      change ¬ (97 ≤ c.toNat - 32 ∧ c.toNat - 32 ≤ 122)
      omega
    have hcapital : 65 ≤ c - 32 ∧ c - 32 ≤ 90 := by
      simp only [UInt8.le_iff_toNat_le, hsub]
      change 65 ≤ c.toNat - 32 ∧ c.toNat - 32 ≤ 90
      omega
    have hvalue : c.toNat - 32 - 55 = c.toNat - 87 := by omega
    rw [upper, if_pos hc, digit, digit, digitValue, digitValue, if_neg hlow', if_neg hsmall,
      if_pos hcapital, if_neg hlow, if_pos hc, hsub, hvalue]
  · rw [upper, if_neg hc]

/-- The characters of a number in hexadecimal are its digits. -/
theorem exists_hexDigits (format : HexFormat) (n : ℕ) :
    ∃ ds, (hexDigits format n).map (digit 16) = ds.map some ∧
      Nat.ofDigits 16 ds.reverse = n ∧ ds ≠ [] := by
  obtain ⟨ds, htext, hvalue, hne⟩ := exists_digits (by decide : 1 < 16) le_rfl n
  have hcapitals : (if format.capitals then (digitsText 16 n).map upper
      else digitsText 16 n).map (digit 16) = ds.map some := by
    split
    · rw [List.map_map, ← htext]
      exact List.map_congr_left fun c _ => digit_upper 16 c
    · exact htext
  obtain ⟨zeros, hpad⟩ : ∃ zeros, hexDigits format n = List.replicate zeros 48 ++
      if format.capitals then (digitsText 16 n).map upper else digitsText 16 n := ⟨_, rfl⟩
  refine ⟨List.replicate zeros 0 ++ ds, ?_, ?_, by simp [hne]⟩
  · rw [hpad, List.map_append, hcapitals, List.map_replicate, List.map_append, List.map_replicate]
    rfl
  · rw [List.reverse_append, List.reverse_replicate, Nat.ofDigits_append_replicate_zero, hvalue]

/-- **A number in hexadecimal is read back**, however it is written. -/
theorem scanInteger_hexText (format : HexFormat) (n : ℕ) :
    scanInteger 16 (hexText format n) = some (false, n, []) := by
  obtain ⟨ds, htext, hvalue, hne⟩ := exists_hexDigits format n
  rw [hexText]
  split
  · obtain ⟨c, cs, hc⟩ : ∃ c cs, hexDigits format n = c :: cs := by
      cases hdigits : hexDigits format n with
      | nil =>
        rw [hdigits, List.map_nil, eq_comm, List.map_eq_nil_iff] at htext
        exact absurd htext hne
      | cons c cs => exact ⟨c, cs, rfl⟩
    have hfirst : (digit 16 c).isSome := by
      have hmem : digit 16 c ∈ ds.map some := by
        rw [← htext, hc]
        exact List.mem_cons_self
      obtain ⟨d, -, hd⟩ := List.mem_map.mp hmem
      rw [← hd, Option.isSome_some]
    have hsign : takeSign ((48 :: 120 :: hexDigits format n).dropWhile isSpace) =
        (false, 48 :: 120 :: hexDigits format n) := rfl
    have hskip : skipHexMark 16 (48 :: 120 :: hexDigits format n) = hexDigits format n := by
      rw [hc, skipHexMark, if_pos ⟨rfl, rfl, hfirst⟩]
    have htake : takeDigits 16 (hexDigits format n) = (ds, []) := by
      have h := takeDigits_append [] htext (by simp)
      rwa [List.append_nil] at h
    simp only [scanInteger, hsign, hskip, htake, if_neg hne, hvalue]
  · have hscan := (scanInteger_of_digits le_rfl htext hne).1
    rwa [hvalue] at hscan

theorem strtoul_hexText (format : HexFormat) {n : ℕ} (h : n < 2 ^ 64) :
    strtoul 16 (hexText format n) = (n, []) := by
  rw [strtoul, scanInteger_hexText]
  simp only [if_neg (Nat.not_le.mpr h), Bool.false_eq_true, if_false]

/-- Every character of a number in hexadecimal is a letter or a digit. -/
theorem digitValue_of_mem_hexText {format : HexFormat} {n : ℕ} {c : UInt8}
    (hc : c ∈ hexText format n) : digitValue c ≠ none := by
  obtain ⟨ds, htext, -, -⟩ := exists_hexDigits format n
  have hdigit : c ∈ hexDigits format n → digitValue c ≠ none := by
    intro hmem
    have hmem' : digit 16 c ∈ ds.map some := htext ▸ List.mem_map_of_mem hmem
    obtain ⟨d, -, hd⟩ := List.mem_map.mp hmem'
    rw [digitValue_of_digit hd.symm]
    exact Option.some_ne_none d
  rw [hexText] at hc
  split at hc
  · rw [List.mem_cons, List.mem_cons] at hc
    rcases hc with rfl | rfl | hc
    · decide
    · decide
    · exact hdigit hc
  · exact hdigit hc

end CNumber

import Mathlib.Data.List.DropRight
import UnicoreGnss.Lib.WholeText

/-!
# Numbers in Python texts

`int` and `float` of Python, for texts of ASCII characters and of characters that are neither white
space nor digits. They are laxer than `strtol` and `strtod` in two ways: white space may follow the
number, and single underscores may stand between digits. In decimal texts without such a blank or
underscore they read what the C functions read to the end.

## Main definitions

* `int`, `float` — the number a text denotes, if it denotes one

## Main results

* `int_of_scanInteger` — what `strtol` or `strtoul` reads to the end of a text, `int` reads
* `int_eq`, `float_eq` — what `int` and `float` read where only `strtol` and `strtod` could, too
-/

namespace PyNumber

open CNumber

/-- White space on either side of a number is passed over. -/
def strip (text : List UInt8) : List UInt8 := (text.dropWhile isSpace).rdropWhile isSpace

/-- Digits up to the end of the text, with single underscores between them. -/
def underscored (base : ℕ) : List UInt8 → Option (List ℕ)
  | [] => none
  | c :: cs =>
    match digit base c with
    | none => none
    | some d =>
      match cs with
      | [] => some [d]
      | c' :: cs =>
        if c' = 95 then (underscored base cs).map (d :: ·)
        else (underscored base (c' :: cs)).map (d :: ·)

/-- In base 16 a `0x` may come before the digits, and an underscore behind it. -/
def skipPrefix (base : ℕ) : List UInt8 → List UInt8
  | 48 :: x :: cs =>
    if base = 16 ∧ lower x = 120 then if cs.head? = some 95 then cs.tail else cs
    else 48 :: x :: cs
  | text => text

/-- The limit on the digits of a decimal number, `sys.get_int_max_str_digits()`. -/
def maxStrDigits : ℕ := 4300

/-- `int(text, base)`, for the bases 10 and 16. -/
def int (base : ℕ) (text : List UInt8) : Option ℤ :=
  let signed := takeSign (strip text)
  match underscored base (skipPrefix base signed.2) with
  | none => none
  | some ds =>
    if base = 10 ∧ maxStrDigits < ds.length then none
    else
      let magnitude : ℕ := Nat.ofDigits base ds.reverse
      some (if signed.1 then -(magnitude : ℤ) else magnitude)

/-- Single underscores between digits are taken out; any other makes the text invalid. The flag says
whether a digit stands in front of the text. -/
def joinDigits (afterDigit : Bool) : List UInt8 → Option (List UInt8)
  | [] => some []
  | c :: cs =>
    if c = 95 then
      if afterDigit && cs.head?.any fun c => (digit 10 c).isSome then joinDigits false cs else none
    else (joinDigits (digit 10 c).isSome cs).map (c :: ·)

/-- `float(text)` -/
def float (text : List UInt8) : Option Double :=
  match joinDigits false (strip text) with
  | none => none
  | some number =>
    let signed := takeSign number
    let word := signed.2.map lower
    if word = [105, 110, 102] ∨ word = [105, 110, 102, 105, 110, 105, 116, 121] then
      some (.infinite signed.1)
    else if word = [110, 97, 110] then some .nan
    else
      match takeDecimal signed.2 with
      | some (value, []) => some (.ofRat (if signed.1 then -value else value))
      | _ => none

/-! ### Rows of digits -/

theorem ne_underscore_of_digit {base : ℕ} {c : UInt8} {d : ℕ} (h : digit base c = some d) :
    c ≠ 95 := by
  rintro rfl
  exact absurd (digitValue_of_digit h) (by simp [digitValue])

/-- A row of digits has no underscores to pass over. -/
theorem underscored_of_digits {base : ℕ} {text : List UInt8} {ds : List ℕ}
    (h : text.map (digit base) = ds.map some) (hne : ds ≠ []) :
    underscored base text = some ds := by
  induction text generalizing ds with
  | nil =>
    rw [List.map_nil, eq_comm, List.map_eq_nil_iff] at h
    exact absurd h hne
  | cons c cs ih =>
    obtain ⟨d, ds, rfl⟩ := List.exists_cons_of_ne_nil hne
    rw [List.map_cons, List.map_cons, List.cons.injEq] at h
    obtain ⟨hc, hcs⟩ := h
    cases cs with
    | nil =>
      obtain rfl : ds = [] := by simpa using hcs.symm
      simp [underscored, hc]
    | cons c' cs =>
      obtain ⟨d', ds, rfl⟩ : ∃ d' ds', ds = d' :: ds' :=
        List.exists_cons_of_ne_nil fun hnil => by simp [hnil] at hcs
      have hc' : digit base c' = some d' := by
        rw [List.map_cons, List.map_cons, List.cons.injEq] at hcs
        exact hcs.1
      rw [underscored, hc]
      simp only [if_neg (ne_underscore_of_digit hc'), ih hcs (List.cons_ne_nil d' ds),
        Option.map_some]

/-! ### `int` against `strtol` -/

section Strtol

variable {base : ℕ} {text : List UInt8} {ds : List ℕ}

/-- Both skip the same mark in front of digits. -/
theorem skipPrefix_eq (hbase : base ≤ 16)
    (h : (skipHexMark base text).map (digit base) = ds.map some) :
    skipPrefix base text = skipHexMark base text := by
  unfold skipPrefix
  split
  · rename_i x cs
    by_cases hmark : base = 16 ∧ lower x = 120
    · rw [if_pos hmark]
      have hcs : ∃ c cs', cs = c :: cs' ∧ (digit 16 c).isSome := by
        by_contra hno
        -- Nothing is skipped, and then the mark itself would be a digit.
        have hstay : skipHexMark base (48 :: x :: cs) = 48 :: x :: cs := by
          cases cs with
          | nil => rfl
          | cons c cs =>
            rw [skipHexMark, if_neg]
            rintro ⟨-, -, hc⟩
            exact hno ⟨c, cs, rfl, hc⟩
        rw [hstay, List.map_cons, List.map_cons, digit_of_lower_x hbase hmark.2] at h
        have hmem : (none : Option ℕ) ∈ ds.map some := by
          rw [← h]
          simp
        simp at hmem
      obtain ⟨c, cs, rfl, hc⟩ := hcs
      obtain ⟨d, hd⟩ := Option.isSome_iff_exists.mp hc
      rw [List.head?_cons, if_neg (fun h => ne_underscore_of_digit hd (Option.some.inj h)),
        skipHexMark, if_pos ⟨hmark.1, hmark.2, hc⟩]
    · rw [if_neg hmark]
      cases cs with
      | nil => rfl
      | cons c cs =>
        rw [skipHexMark, if_neg]
        rintro ⟨hbase', hx, -⟩
        exact hmark ⟨hbase', hx⟩
  · rename_i hshape
    unfold skipHexMark
    split
    · rename_i x c cs
      exact absurd rfl (hshape x (c :: cs))
    · rfl

/-- The text a number makes up but for white space in front of it. -/
theorem strip_eq
    (h : (skipHexMark base (takeSign (text.dropWhile isSpace)).2).map (digit base) = ds.map some)
    (hne : ds ≠ []) : strip text = text.dropWhile isSpace := by
  rw [strip]
  generalize text.dropWhile isSpace = number at h
  rw [List.rdropWhile_eq_self_iff]
  intro hnumber
  -- The last character is the last digit.
  obtain ⟨front, hsuffix⟩ := (skipHexMark_suffix base _).trans (takeSign_suffix number)
  generalize skipHexMark base (takeSign number).2 = digits at h hsuffix
  have hdigits : digits ≠ [] := by
    rintro rfl
    exact hne (by simpa using h.symm)
  have hlast : number.getLast hnumber = digits.getLast hdigits := by
    subst hsuffix
    exact List.getLast_append_of_ne_nil _ hdigits
  have hmem : digit base (digits.getLast hdigits) ∈ ds.map some := by
    rw [← h]
    exact List.mem_map_of_mem (List.getLast_mem hdigits)
  obtain ⟨d, -, hd⟩ := List.mem_map.mp hmem
  rw [hlast, isSpace_of_digit hd.symm]
  exact Bool.false_ne_true

/-- **What `strtol` reads to its end, `int` reads as the same number.** -/
theorem int_of_scanInteger (hbase : base ≤ 16) {negative : Bool} {magnitude : ℕ}
    (h : scanInteger base text = some (negative, magnitude, []))
    (hlimit : base ≠ 10 ∨ text.length ≤ maxStrDigits) :
    int base text = some (if negative then -(magnitude : ℤ) else magnitude) := by
  obtain ⟨ds, hdigits, hne, rfl, rfl⟩ := exists_digits_of_scanInteger h
  have hlength := length_digits_le hdigits
  rw [int]
  simp only [strip_eq hdigits hne, skipPrefix_eq hbase hdigits, underscored_of_digits hdigits hne]
  rw [if_neg]
  rintro ⟨hten, hmany⟩
  rcases hlimit with hbase' | hshort
  · exact hbase' hten
  · omega

end Strtol

/-! ### Plain texts -/

/-- Without underscores there are only digits. -/
theorem map_digit_of_underscored {base : ℕ} {text : List UInt8} {ds : List ℕ}
    (hunderscore : (95 : UInt8) ∉ text) (h : underscored base text = some ds) :
    text.map (digit base) = ds.map some ∧ ds ≠ [] := by
  induction text generalizing ds with
  | nil => cases h
  | cons c cs ih =>
    rw [List.mem_cons, not_or] at hunderscore
    rw [underscored] at h
    cases hdigit : digit base c with
    | none => simp [hdigit] at h
    | some d =>
      cases cs with
      | nil =>
        simp only [hdigit, Option.some.injEq] at h
        subst h
        exact ⟨by rw [List.map_singleton, hdigit]; rfl, List.cons_ne_nil _ _⟩
      | cons c' cs =>
        have hne : c' ≠ 95 := fun h => hunderscore.2 (h ▸ List.mem_cons_self)
        simp only [hdigit, if_neg hne, Option.map_eq_some_iff] at h
        obtain ⟨ds', hds', rfl⟩ := h
        refine ⟨?_, List.cons_ne_nil _ _⟩
        rw [List.map_cons, hdigit, (ih hunderscore.2 hds').1, List.map_cons]

theorem joinDigits_eq {text : List UInt8} (h : (95 : UInt8) ∉ text) (afterDigit : Bool) :
    joinDigits afterDigit text = some text := by
  induction text generalizing afterDigit with
  | nil => rfl
  | cons c cs ih =>
    rw [List.mem_cons, not_or] at h
    rw [joinDigits, if_neg (Ne.symm h.1), ih h.2, Option.map_some]

/-- An underscore, or white space at the end, such as only Python takes in a number. -/
def Loose (text : List UInt8) : Prop := 95 ∈ text ∨ text.getLast?.any isSpace = true

instance (text : List UInt8) : Decidable (Loose text) := by
  unfold Loose
  infer_instance

theorem not_loose_of_isDecimal {text : List UInt8} (hne : text.dropWhile isSpace ≠ [])
    (h : ∀ c ∈ text.dropWhile isSpace, IsDecimalCharacter c) : ¬ Loose text := by
  rintro (hmem | hlast)
  · exact underscore_notMem_of_isDecimal h hmem
  · obtain ⟨c, hc, hspace⟩ := (Option.any_eq_true _ _).mp hlast
    rw [isSpace_getLast?_of_isDecimal h hne c hc] at hspace
    cases hspace

/-- Nothing is stripped off the end. -/
theorem strip_of_not_loose {text : List UInt8} (h : ¬ Loose text) :
    strip text = text.dropWhile isSpace := by
  rw [strip, List.rdropWhile_eq_self_iff]
  intro hne hspace
  have hlast : text.getLast? = some ((text.dropWhile isSpace).getLast hne) := by
    conv_lhs => rw [← @List.takeWhile_append_dropWhile _ isSpace text]
    rw [List.getLast?_append_of_ne_nil _ hne, List.getLast?_eq_getLast_of_ne_nil hne]
  exact h (.inr (by rw [hlast, Option.any_some, hspace]))

/-- **`int` reads an integer** up to the end of the text unless there are underscores, white space
at the end or too many digits. -/
theorem int_eq {text : List UInt8} (hloose : ¬ Loose text)
    (hlimit : ∀ n ∈ integerNumber 10 text, text.length ≤ maxStrDigits) :
    int 10 text = integerNumber 10 text := by
  have hsuffix : (takeSign (text.dropWhile isSpace)).2 <:+ text :=
    (takeSign_suffix _).trans (List.dropWhile_suffix _)
  have hskip : ∀ number, skipPrefix 10 number = number := by
    intro number
    unfold skipPrefix
    split
    · exact if_neg fun h => absurd h.1 (by decide)
    · rfl
  cases hint : int 10 text with
  | some n =>
    -- The digits that `int` has read are those that `strtol` reads.
    rw [int] at hint
    simp only [strip_of_not_loose hloose, hskip] at hint
    split at hint
    · cases hint
    · rename_i ds hds
      obtain ⟨hdigits, hne⟩ :=
        map_digit_of_underscored (fun h => hloose (.inl (hsuffix.subset h))) hds
      have htake := takeDigits_append [] hdigits (by simp)
      rw [List.append_nil] at htake
      rw [Option.ite_none_left_eq_some] at hint
      obtain ⟨-, hvalue⟩ := hint
      rw [integerNumber, scanInteger]
      simp only [skipHexMark_of_digits (by decide : 10 ≤ 16) hdigits, htake, if_neg hne]
      exact hvalue.symm
  | none =>
    rw [eq_comm, Option.eq_none_iff_forall_ne_some]
    intro n hn
    have hshort := hlimit n hn
    rw [integerNumber] at hn
    split at hn
    · rename_i negative magnitude hscan
      rw [int_of_scanInteger (by decide) hscan (.inr hshort)] at hint
      cases hint
    · cases hn

/-- What is not dropped is still there. -/
theorem mem_dropWhile {p : UInt8 → Bool} {text : List UInt8} {c : UInt8} (hc : p c = false)
    (h : c ∈ text) : c ∈ text.dropWhile p := by
  rw [← @List.takeWhile_append_dropWhile _ p text, List.mem_append] at h
  rcases h with h | h
  · rw [List.mem_takeWhile_imp h] at hc
    cases hc
  · exact h

/-- **`float` reads a decimal number**, or something that is no number, unless there are underscores
or white space at the end. -/
theorem float_eq {text : List UInt8} (hloose : ¬ Loose text) :
    (float text).bind Double.toRat = decimalNumber text := by
  have hjoin :=
    joinDigits_eq (fun h => hloose (.inl ((List.dropWhile_suffix isSpace).subset h))) false
  have hword : ∀ {l} {ls : List UInt8}, (takeSign (text.dropWhile isSpace)).2.map lower = l :: ls →
      l ∈ ([105, 110] : List UInt8) → takeDecimal (takeSign (text.dropWhile isSpace)).2 = none := by
    intro l ls h hmem
    cases hbody : (takeSign (text.dropWhile isSpace)).2 with
    | nil => rfl
    | cons c cs =>
      rw [hbody] at h
      exact takeDecimal_of_lower (List.cons.inj h).1 hmem
  rw [float, strip_of_not_loose hloose, hjoin, decimalNumber]
  simp only
  split
  · rename_i h
    have hnone : takeDecimal (takeSign (text.dropWhile isSpace)).2 = none := by
      rcases h with h | h
      · exact hword h (by decide)
      · exact hword h (by decide)
    rw [hnone]
    rfl
  · split
    · rename_i h
      rw [hword h (by decide)]
      rfl
    · cases takeDecimal (takeSign (text.dropWhile isSpace)).2 with
      | none => rfl
      | some read =>
        obtain ⟨value, rest⟩ := read
        cases rest with
        | nil => rfl
        | cons c cs => rfl

theorem mem_joinDigits {afterDigit : Bool} {text number : List UInt8} {c : UInt8}
    (h : joinDigits afterDigit text = some number) (hc : c ∈ text) : c = 95 ∨ c ∈ number := by
  induction text generalizing afterDigit number with
  | nil => exact absurd hc List.not_mem_nil
  | cons c' cs ih =>
    rw [joinDigits] at h
    split at h
    · rename_i hunderscore
      rw [Option.ite_none_right_eq_some] at h
      rcases List.mem_cons.mp hc with rfl | hc
      · exact .inl hunderscore
      · exact ih h.2 hc
    · obtain ⟨number, hjoin, rfl⟩ := Option.map_eq_some_iff.mp h
      rcases List.mem_cons.mp hc with rfl | hc
      · exact .inr List.mem_cons_self
      · exact (ih hjoin hc).imp_right (List.mem_cons_of_mem c')

/-- **`float` reads no hexadecimal numbers.** -/
theorem float_of_mark {text : List UInt8} {x : UInt8} (hmem : x ∈ text) (hx : lower x = 120) :
    (float text).bind Double.toRat = none := by
  have hspace : isSpace x = false := by
    rcases eq_or_eq_of_lower hx with rfl | rfl <;> decide
  have hstrip : x ∈ strip text := by
    rw [strip, List.rdropWhile, List.mem_reverse]
    have hmem' := mem_dropWhile hspace hmem
    exact mem_dropWhile hspace (List.mem_reverse.mpr hmem')
  rw [float]
  split
  · rfl
  rename_i number hjoin
  have hnumber : x ∈ number := by
    rcases mem_joinDigits hjoin hstrip with rfl | h
    · exact absurd hx (by decide)
    · exact h
  have hdecimal : ∀ value, takeDecimal (takeSign number).2 ≠ some (value, []) := by
    intro value h
    exact (isDecimal_takeSign (isDecimal_of_takeDecimal h) x hnumber).lower_ne_mark hx
  simp only
  split
  · rfl
  · split
    · rfl
    · -- What is left is no decimal number.
      rfl

end PyNumber

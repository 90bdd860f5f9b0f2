import UnicoreGnss.Parser.Integers

/-!
# The checksum gate

`parse_line` hands a `$` line to `validate_nmea_checksum` and a `#` line to `validate_unicore_crc`.
Both read the characters behind the first `*` with `strtoul` and compare the number with the check
value of what stands before it. A line that is sealed with the digits of its check value passes. But
`strtoul` reads more than digits: white space, a sign, a `0x` or a NUL in the check field do not
stop it, so that a line with a damaged check field may pass as well.

## Main definitions

* `ChecksumKind.Sealed` — the check field consists of digits that are the check value
* `ChecksumKind.LooselySealed` — it does not, but `strtoul` reads the check value in it

## Main results

* `ChecksumKind.validate_iff` — what the two tests accept
* `checksum_gate_iff` — the lines that pass are sealed unless they are loosely sealed
-/

namespace UnicoreGnss

open CNumber Checked

/-! ### What a line is sealed with -/

/-- The two kinds of check fields. -/
inductive ChecksumKind where
  | nmea
  | unicore
  deriving DecidableEq, Repr

namespace ChecksumKind

/-- What the line begins with. -/
def first : ChecksumKind → UInt8
  | nmea => dollar
  | unicore => hash

/-- How many digits the check field has. -/
def width : ChecksumKind → ℕ
  | nmea => 2
  | unicore => 8

/-- A shorter line is refused. -/
def minLength : ChecksumKind → ℕ
  | nmea => 4
  | unicore => 11

/-- The XOR or the CRC of a body. -/
def checkValue : ChecksumKind → Bytes → ℕ
  | nmea, body => (body.foldl (· ^^^ ·) 0).toNat
  | unicore, body => (crc32Unicore body).toNat

/-- The test that the parser makes. -/
def validate : ChecksumKind → Bytes → Checked Bool
  | nmea => UnicoreParser.validateNmeaChecksum
  | unicore => UnicoreParser.validateUnicoreCrc

/-- The counters after a line that did not pass. -/
def countError : ChecksumKind → ParserCounters → ParserCounters
  | nmea, counters => { counters with nmeaChecksumErrors := counters.nmeaChecksumErrors + 1 }
  | unicore, counters => { counters with unicoreCrcErrors := counters.unicoreCrcErrors + 1 }

end ChecksumKind

/-- The bytes between the first character and the first `*`. -/
def sealedBody (line : Bytes) : Bytes := (line.take (line.idxOf star)).drop 1

/-- So many characters behind the first `*`, if there are as many. -/
def sealField (width : ℕ) (line : Bytes) : Bytes := (line.drop (line.idxOf star + 1)).take width

/-- The text consists of hexadecimal digits, and this is their number. -/
def HexDigits (text : Bytes) (n : ℕ) : Prop :=
  (∀ c ∈ text, digit 16 c ≠ none) ∧ Nat.ofDigits 16 (text.filterMap (digit 16)).reverse = n

namespace ChecksumKind

variable (kind : ChecksumKind) (line : Bytes)

/-- The line has its character in front, a `*`, and a check field behind it. -/
structure HasSeal : Prop where
  head : line.head? = some kind.first
  star_mem : star ∈ line
  length_field : (sealField kind.width line).length = kind.width

/-- The check field consists of digits that are the check value of the body. -/
def Sealed : Prop :=
  kind.HasSeal line ∧ HexDigits (sealField kind.width line) (kind.checkValue (sealedBody line))

/-- `strtoul` reads the check value in the check field. -/
def Reads : Prop :=
  ∃ n ∈ readToNul 16 (sealField kind.width line),
    toUnsignedLong n % 16 ^ kind.width = kind.checkValue (sealedBody line)

/-- The check field does not consist of digits, but `strtoul` reads the check value in it. -/
def LooselySealed : Prop :=
  kind.HasSeal line ∧ kind.minLength ≤ line.length ∧ kind.Reads line ∧
    ∃ c ∈ sealField kind.width line, digit 16 c = none

/-- What the tests accept. -/
def Passes : Prop := kind.HasSeal line ∧ kind.minLength ≤ line.length ∧ kind.Reads line

/-! ### Reading the check field -/

/-- A row of digits is the list of their values. -/
theorem map_digit_of_digits {text : Bytes} (h : ∀ c ∈ text, digit 16 c ≠ none) :
    text.map (digit 16) = (text.filterMap (digit 16)).map some := by
  induction text with
  | nil => rfl
  | cons c text ih =>
    obtain ⟨d, hd⟩ := Option.ne_none_iff_exists'.mp (h c List.mem_cons_self)
    rw [List.map_cons, List.filterMap_cons_some hd, List.map_cons, hd,
      ih fun c' hc' => h c' (List.mem_cons_of_mem c hc')]

/-- **`strtoul` reads a row of digits** as the number they are. -/
theorem readToNul_of_digits {text : Bytes} (hne : text ≠ []) (hlength : text.length ≤ 8)
    (h : ∀ c ∈ text, digit 16 c ≠ none) :
    ∃ n : ℕ, n < 16 ^ text.length ∧ readToNul 16 text = some (n : ℤ) ∧
      Nat.ofDigits 16 (text.filterMap (digit 16)).reverse = n ∧ toUnsignedLong n = n := by
  have hdigits := map_digit_of_digits h
  have hne' : text.filterMap (digit 16) ≠ [] := by
    intro hnil
    rw [hnil, List.map_nil, List.map_eq_nil_iff] at hdigits
    exact hne hdigits
  have hscan := (scanInteger_of_digits le_rfl hdigits hne').1
  have hlt := magnitude_lt (by decide) hscan
  have hnumber : integerNumber 16 text =
      some ((Nat.ofDigits 16 (text.filterMap (digit 16)).reverse : ℕ) : ℤ) := by
    rw [integerNumber, hscan]
    rfl
  refine ⟨_, hlt, ?_, rfl, ?_⟩
  · rw [readToNul_of_notMem (zero_notMem_of_integerNumber hnumber), hnumber]
  · have hpow : 16 ^ text.length ≤ 16 ^ 8 := Nat.pow_le_pow_right (by decide) hlength
    rw [toUnsignedLong]
    split <;> omega

theorem width_pos : 0 < kind.width := by cases kind <;> decide

theorem width_le : kind.width ≤ 8 := by cases kind <;> decide

variable {kind line}

/-- **A field of digits** is read as the check value exactly if that is their number. -/
theorem reads_iff_of_digits (hseal : kind.HasSeal line)
    (h : ∀ c ∈ sealField kind.width line, digit 16 c ≠ none) :
    kind.Reads line ↔
      HexDigits (sealField kind.width line) (kind.checkValue (sealedBody line)) := by
  have hlength := hseal.length_field
  have hpos := kind.width_pos
  obtain ⟨n, hlt, hread, hvalue, hlong⟩ := readToNul_of_digits
    (List.ne_nil_of_length_pos (by omega)) (by rw [hlength]; exact kind.width_le) h
  rw [hlength] at hlt
  rw [Reads, HexDigits, hread, hvalue, and_iff_right h]
  simp only [Option.mem_def, Option.some.injEq, exists_eq_left', hlong, Nat.mod_eq_of_lt hlt]

/-- **What passes is sealed**, if only loosely. -/
theorem passes_iff : kind.Passes line ↔
    kind.minLength ≤ line.length ∧ kind.Sealed line ∨ kind.LooselySealed line := by
  by_cases h : ∀ c ∈ sealField kind.width line, digit 16 c ≠ none
  · have hno : ¬ ∃ c ∈ sealField kind.width line, digit 16 c = none :=
      fun ⟨c, hc, hnone⟩ => h c hc hnone
    constructor
    · rintro ⟨hseal, hlength, hreads⟩
      exact .inl ⟨hlength, hseal, (reads_iff_of_digits hseal h).mp hreads⟩
    · rintro (⟨hlength, hseal, hdigits⟩ | hloose)
      · exact ⟨hseal, hlength, (reads_iff_of_digits hseal h).mpr hdigits⟩
      · exact absurd hloose.2.2.2 hno
  · have hsome : ∃ c ∈ sealField kind.width line, digit 16 c = none := by
      simpa using h
    constructor
    · rintro ⟨hseal, hlength, hreads⟩
      exact .inr ⟨hseal, hlength, hreads, hsome⟩
    · rintro (⟨-, -, hdigits⟩ | ⟨hseal, hlength, hreads, -⟩)
      · exact absurd hdigits.1 h
      · exact ⟨hseal, hlength, hreads⟩

/-- What passes is sealed exactly if it is not loosely sealed. -/
theorem sealed_of_passes_iff :
    (kind.Passes line → kind.Sealed line) ↔ ¬ kind.LooselySealed line := by
  rw [passes_iff]
  constructor
  · intro h hloose
    obtain ⟨c, hc, hnone⟩ := hloose.2.2.2
    exact (h (.inr hloose)).2.1 c hc hnone
  · rintro h (⟨-, hsealed⟩ | hloose)
    · exact hsealed
    · exact absurd hloose h

/-! ### The two tests -/

/-- What the two tests do before they look at the check field. -/
def testBehindStar (kind : ChecksumKind) (atStar : ℕ → Checked Bool) (line : Bytes) :
    Checked Bool :=
  if line.length < kind.minLength ∨ line.head? ≠ some kind.first then value false
  else
    match line.idxOf? star with
    | none => value false
    | some i => if line.length ≤ i + kind.width then value false else atStar i

theorem testBehindStar_iff {atStar : ℕ → Checked Bool}
    (h : line.idxOf star + kind.width < line.length →
      ∃ verdict, atStar (line.idxOf star) = value verdict ∧ (verdict = true ↔ kind.Reads line)) :
    ∃ verdict, testBehindStar kind atStar line = value verdict ∧
      (verdict = true ↔ kind.Passes line) := by
  rw [testBehindStar]
  by_cases hfront : line.length < kind.minLength ∨ line.head? ≠ some kind.first
  · rw [if_pos hfront]
    refine ⟨false, rfl, iff_of_false Bool.false_ne_true ?_⟩
    rintro ⟨⟨hhead, -, -⟩, hlength, -⟩
    exact hfront.elim (Nat.not_lt.mpr hlength) fun hne => hne hhead
  rw [if_neg hfront]
  rw [not_or, not_not, Nat.not_lt] at hfront
  obtain ⟨hlength, hhead⟩ := hfront
  cases hstar : line.idxOf? star with
  | none =>
    refine ⟨false, rfl, iff_of_false Bool.false_ne_true ?_⟩
    rintro ⟨⟨-, hmem, -⟩, -⟩
    exact List.idxOf?_eq_none_iff.mp hstar hmem
  | some i =>
    obtain ⟨hmem, rfl⟩ := idxOf?_eq_some_iff_idxOf.mp hstar
    have hfield : (sealField kind.width line).length = kind.width ↔
        line.idxOf star + kind.width < line.length := by
      have hpos := kind.width_pos
      rw [sealField, List.length_take, List.length_drop]
      omega
    by_cases hend : line.length ≤ line.idxOf star + kind.width
    · refine ⟨false, by simp only [if_pos hend], iff_of_false Bool.false_ne_true ?_⟩
      rintro ⟨⟨-, -, hlen⟩, -⟩
      exact Nat.not_lt.mpr hend (hfield.mp hlen)
    · obtain ⟨verdict, hatStar, hverdict⟩ := h (Nat.not_le.mp hend)
      refine ⟨verdict, by simp only [if_neg hend, hatStar], hverdict.trans ?_⟩
      have hseal : kind.HasSeal line := ⟨hhead, hmem, hfield.mpr (Nat.not_le.mp hend)⟩
      rw [Passes, and_iff_right hseal, and_iff_right hlength]

/-- `strtoul` in a check field. -/
theorem reads_iff (hend : line.idxOf star + kind.width < line.length) :
    kind.Reads line ↔
      (strtoul 16 (cStr (sealField kind.width line))).2 = [] ∧
        kind.checkValue (sealedBody line) =
          (strtoul 16 (cStr (sealField kind.width line))).1 % 16 ^ kind.width := by
  have hne : sealField kind.width line ≠ [] := by
    have hpos := kind.width_pos
    apply List.ne_nil_of_length_pos
    rw [sealField, List.length_take, List.length_drop]
    omega
  have hread := @strtoul_cStr 16 _ hne
  rw [Reads]
  cases hnumber : readToNul 16 (sealField kind.width line) with
  | none =>
    rw [hnumber, Option.map_none, ite_eq_right_iff] at hread
    simp only [Option.mem_def, reduceCtorEq, false_and, exists_false, false_iff, not_and]
    exact fun hrest => absurd (hread hrest) (Option.some_ne_none _)
  | some n =>
    rw [hnumber, Option.map_some, Option.ite_none_right_eq_some, Option.some.injEq] at hread
    simp only [Option.mem_def, Option.some.injEq, exists_eq_left', hread.1, hread.2, true_and]
    exact eq_comm

/-- **What the tests accept.** -/
theorem validate_iff (kind : ChecksumKind) (line : Bytes) :
    ∃ verdict, kind.validate line = value verdict ∧ (verdict = true ↔ kind.Passes line) := by
  cases kind with
  | nmea =>
    refine @testBehindStar_iff .nmea line _ fun hend => ?_
    rw [substr, if_pos (by omega)]
    refine ⟨_, rfl, ?_⟩
    rw [reads_iff hend, decide_eq_true_iff, ← UInt8.toNat_inj]
    exact Iff.rfl
  | unicore =>
    refine @testBehindStar_iff .unicore line _ fun hend => ?_
    rw [substr, if_pos (by omega), substr, if_pos (by omega)]
    refine ⟨_, rfl, ?_⟩
    rw [reads_iff hend, decide_eq_true_iff, ← UInt32.toNat_inj, sealedBody, List.drop_take]
    exact Iff.rfl

/-! ### Sealing a line -/

section Sealing

variable {body field : Bytes}

theorem first_ne_star : kind.first ≠ star := by cases kind <;> decide

theorem isSpace_first : isSpace kind.first = false := by cases kind <;> decide

theorem idxOf_star (hbody : star ∉ body) (field : Bytes) :
    (kind.first :: body ++ star :: field).idxOf star = body.length + 1 := by
  have hfront : star ∉ kind.first :: body := by
    rw [List.mem_cons, not_or]
    exact ⟨first_ne_star.symm, hbody⟩
  rw [List.idxOf_append_of_notMem hfront, List.idxOf_cons_self]
  rfl

/-- The body and the check field that a line is made of are found again. -/
theorem sealed_parts (hbody : star ∉ body) (hfield : field.length = kind.width) :
    sealedBody (kind.first :: body ++ star :: field) = body ∧
      sealField kind.width (kind.first :: body ++ star :: field) = field := by
  rw [sealedBody, sealField, idxOf_star hbody]
  constructor
  · rw [List.take_left' (by rw [List.length_cons]), List.drop_one, List.tail_cons]
  · have hdrop : (kind.first :: body ++ star :: field).drop (body.length + 1 + 1) = field := by
      rw [List.append_cons, List.drop_left' (by simp)]
    rw [hdrop, ← hfield, List.take_length]

/-- **A line that is sealed with the digits of its check value passes.** -/
theorem passes_of_digits (hne : body ≠ []) (hbody : star ∉ body)
    (hfield : field.length = kind.width) (hdigits : HexDigits field (kind.checkValue body)) :
    kind.Passes (kind.first :: body ++ star :: field) := by
  obtain ⟨hbodyOf, hfieldOf⟩ := sealed_parts hbody hfield
  have hlength : kind.minLength ≤ (kind.first :: body ++ star :: field).length := by
    have hpos := List.length_pos_of_ne_nil hne
    rw [List.length_append, List.length_cons, List.length_cons, hfield]
    cases kind <;> simp only [minLength, width] <;> omega
  refine passes_iff.mpr (.inl ⟨hlength, ⟨rfl, ?_, by rw [hfieldOf, hfield]⟩, ?_⟩)
  · simp
  · rwa [hbodyOf, hfieldOf]

/-- There is nothing to trim. -/
theorem trim_sealed (hfield : field.length = kind.width)
    (hdigits : ∀ c ∈ field, digit 16 c ≠ none) :
    UnicoreParser.trim (kind.first :: body ++ star :: field) =
      kind.first :: body ++ star :: field := by
  have hne : field ≠ [] := List.ne_nil_of_length_pos (hfield ▸ kind.width_pos)
  rw [UnicoreParser.trim, List.cons_append, List.dropWhile_cons_of_neg (by simp [isSpace_first]),
    List.rdropWhile_eq_self_iff]
  intro hline
  have hlast : (kind.first :: (body ++ star :: field)).getLast hline = field.getLast hne := by
    rw [List.getLast_cons (by simp), List.getLast_append_of_ne_nil _ (List.cons_ne_nil _ _),
      List.getLast_cons hne]
  obtain ⟨d, hd⟩ := Option.ne_none_iff_exists'.mp (hdigits _ (List.getLast_mem hne))
  rw [hlast, isSpace_of_digit hd]
  exact Bool.false_ne_true

end Sealing

/-! ### Lines -/

theorem validate_eq_true_iff (kind : ChecksumKind) (line : Bytes) :
    kind.validate line = value true ↔ kind.Passes line := by
  obtain ⟨verdict, hvalidate, hverdict⟩ := kind.validate_iff line
  rw [hvalidate, ← hverdict, value.injEq]

/-- The parser that a line which has passed is handed to. -/
def parser : ChecksumKind → MathFunctions → List Bytes → Option (Checked ParsedSentence)
  | nmea, _, fields => fields.head?.bind fun first => UnicoreParser.nmeaParser first fields
  | unicore, math, fields => fields.head?.bind fun first =>
    UnicoreParser.unicoreParser math first fields

/-- **`parse_line`** on a line of either kind. -/
theorem parseLine_eq (math : MathFunctions) (counters : ParserCounters)
    (hhead : (UnicoreParser.trim line).head? = some kind.first) :
    UnicoreParser.parseLine math line counters = (do
      if ← kind.validate (UnicoreParser.trim line) then
        let fields ← UnicoreParser.lineFields (UnicoreParser.trim line)
        UnicoreParser.countParsed (kind.parser math fields) counters
      else return (none, kind.countError counters)) := by
  rw [UnicoreParser.parseLine]
  cases kind with
  | nmea =>
    rw [first] at hhead
    rw [if_pos hhead]
    rfl
  | unicore =>
    rw [first] at hhead
    rw [if_neg (by rw [hhead]; decide), if_pos hhead]
    rfl

/-- **A line that does not pass** yields no sentence, and one error is counted. -/
theorem parseLine_of_not_passes (math : MathFunctions) (counters : ParserCounters)
    (hhead : (UnicoreParser.trim line).head? = some kind.first)
    (h : kind.validate (UnicoreParser.trim line) ≠ value true) :
    UnicoreParser.parseLine math line counters = value (none, kind.countError counters) := by
  obtain ⟨verdict, hvalidate, -⟩ := kind.validate_iff (UnicoreParser.trim line)
  obtain rfl : verdict = false := by
    rw [hvalidate, Ne, value.injEq, Bool.not_eq_true] at h
    exact h
  rw [parseLine_eq math counters hhead, hvalidate]
  rfl

end ChecksumKind

/-- **The checksum gate.** What passes is sealed with the digits of its check value, unless it is
loosely sealed; what is sealed so passes; and what does not pass yields no sentence and is counted
as one error of its kind, and as nothing else. -/
theorem checksum_gate_iff (math : MathFunctions) (kind : ChecksumKind) :
    (∀ line, (kind.validate (UnicoreParser.trim line) = value true →
        kind.Sealed (UnicoreParser.trim line)) ↔
      ¬ kind.LooselySealed (UnicoreParser.trim line)) ∧
    (∀ body field, body ≠ [] → star ∉ body → field.length = kind.width →
      HexDigits field (kind.checkValue body) →
      kind.validate (UnicoreParser.trim (kind.first :: body ++ star :: field)) = value true) ∧
    ∀ line counters, (UnicoreParser.trim line).head? = some kind.first →
      kind.validate (UnicoreParser.trim line) ≠ value true →
      UnicoreParser.parseLine math line counters = value (none, kind.countError counters) := by
  refine ⟨fun line => ?_, fun body field hne hbody hfield hdigits => ?_, fun line counters => ?_⟩
  · rw [kind.validate_eq_true_iff, ChecksumKind.sealed_of_passes_iff]
  · rw [ChecksumKind.trim_sealed hfield hdigits.1, kind.validate_eq_true_iff]
    exact ChecksumKind.passes_of_digits hne hbody hfield hdigits
  · exact ChecksumKind.parseLine_of_not_passes math counters

/-- The checksum of this sentence is `04`. It passes, and with `05` in its place it does not. -/
theorem checksum_gate_hdt :
    ChecksumKind.nmea.validate (UnicoreParser.trim (dollar :: ascii "GNHDT,10,T" ++
      star :: ascii "04")) = value true ∧
    ChecksumKind.nmea.Sealed (UnicoreParser.trim (ascii "$GNHDT,10,T*04")) ∧
    UnicoreParser.parseLine ⟨fun _ => 0, fun _ => 1⟩ (ascii "$GNHDT,10,T*05") {} =
      value (none, { nmeaChecksumErrors := 1 }) := by
  obtain ⟨hsealed, hpasses, hfails⟩ := checksum_gate_iff ⟨fun _ => 0, fun _ => 1⟩ .nmea
  refine ⟨hpasses (ascii "GNHDT,10,T") (ascii "04") (by decide) (by decide) rfl
    ⟨by decide +kernel, by decide⟩, (hsealed _).mpr ?_ (by decide),
    hfails _ {} (by decide) (by decide)⟩
  rintro ⟨-, -, -, hloose⟩
  exact absurd hloose (by decide +kernel)

/-- **A blank in the check field**: with its `0` turned into a blank the checksum is still accepted,
and the sentence comes through. -/
theorem blank_in_check_field_passes :
    ChecksumKind.nmea.validate (UnicoreParser.trim (ascii "$GNHDT,10,T* 4")) = value true ∧
    ¬ ChecksumKind.nmea.Sealed (UnicoreParser.trim (ascii "$GNHDT,10,T* 4")) ∧
    ((UnicoreParser.parseLine ⟨fun _ => 0, fun _ => 1⟩ (ascii "$GNHDT,10,T* 4")
      {}).toOption.bind Prod.fst).isSome = true := by
  refine ⟨by decide, ?_, by decide +kernel⟩
  rintro ⟨-, hdigits, -⟩
  exact hdigits 0x20 (by decide) (by decide)

end UnicoreGnss

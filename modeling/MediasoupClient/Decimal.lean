import MediasoupClient.Parameters

namespace MediasoupClient

/-!
# Numbers as text

The source writes numbers into text in three ways: `std::to_string` of a
count or of a `uint8_t` (a localId, a payload type), and
`std::ostringstream <<` of an `int64_t` or of a `float` (an `fmtp` value).
Every natural number prints as decimal digits that read back as the number.
A `float` prints as glibc's `printf("%g")` prints it: six significant
digits, rounded to nearest with ties to even, in fixed form when the
decimal exponent is from `-4` to `5` and in scientific form otherwise,
trailing zeros dropped.  None of these texts holds a `;`.
-/

/-! ## Decimal digits -/

/-- The value of a run of decimal digits. -/
def decimalValue (digits : List Char) : Nat :=
  digits.foldl (fun value digit => 10 * value + (digit.toNat - '0'.toNat)) 0

theorem decimalValue_append_digit (digits : List Char) (digit : Char) :
    decimalValue (digits ++ [digit]) =
      10 * decimalValue digits + (digit.toNat - '0'.toNat) := by
  simp [decimalValue]

/-- A digit `Nat.digitChar` writes is a decimal digit of its value. -/
theorem digitChar_decimal {digit : Nat} (small : digit < 10) :
    (Nat.digitChar digit).isDigit ∧ (Nat.digitChar digit).toNat - '0'.toNat = digit := by
  interval_cases digit <;> decide

/-- `Nat.toDigitsCore` with enough fuel puts the decimal digits of `n` before `rest`. -/
theorem toDigitsCore_decimal :
    ∀ {fuel n : Nat} (rest : List Char), n < fuel →
      ∃ digits, Nat.toDigitsCore 10 fuel n rest = digits ++ rest ∧ digits ≠ [] ∧
        (∀ digit ∈ digits, digit.isDigit) ∧ decimalValue digits = n
  | 0, _, _, small => absurd small (Nat.not_lt_zero _)
  | fuel + 1, n, rest, small => by
      obtain ⟨isDigit, value⟩ := digitChar_decimal (Nat.mod_lt n (by omega : 10 > 0))
      unfold Nat.toDigitsCore
      dsimp only
      split
      · refine ⟨[Nat.digitChar (n % 10)], rfl, List.cons_ne_nil _ _,
          by simpa using isDigit, ?_⟩
        simp only [decimalValue, List.foldl_cons, List.foldl_nil, value]
        omega
      · obtain ⟨digits, written, -, allDigits, read⟩ :=
          toDigitsCore_decimal (Nat.digitChar (n % 10) :: rest) (by omega : n / 10 < fuel)
        refine ⟨digits ++ [Nat.digitChar (n % 10)], by simp [written], by simp, ?_, ?_⟩
        · intro digit member
          rcases List.mem_append.mp member with early | last
          · exact allDigits digit early
          · exact List.mem_singleton.mp last ▸ isDigit
        · rw [decimalValue_append_digit, read, value]
          omega

/-- A natural number prints as decimal digits that read back as the number. -/
theorem toString_decimal (n : Nat) :
    (toString n).data ≠ [] ∧ (∀ digit ∈ (toString n).data, digit.isDigit) ∧
      decimalValue (toString n).data = n := by
  obtain ⟨digits, written, nonempty, allDigits, read⟩ :=
    toDigitsCore_decimal [] (Nat.lt_succ_self n)
  have printed : (toString n).data = digits :=
    (written.trans (List.append_nil digits) : Nat.toDigitsCore 10 (n + 1) n [] = digits)
  rw [printed]
  exact ⟨nonempty, allDigits, read⟩

@[simp] theorem decimalValue_toString (n : Nat) : decimalValue (toString n).data = n :=
  (toString_decimal n).2.2

/-- `std::to_string` of distinct numbers gives distinct strings. -/
theorem natToString_injective {first second : Nat}
    (same : toString first = toString second) : first = second := by
  rw [← decimalValue_toString first, same, decimalValue_toString]

/-- A string differs from every numeral when it differs from the numeral of its digits' value. -/
theorem natToString_ne {text : String} (differs : toString (decimalValue text.data) ≠ text)
    (n : Nat) : toString n ≠ text := by
  rintro rfl
  exact differs (by rw [decimalValue_toString])

/-- An integer prints as digits after an optional `-`. -/
theorem mem_toString_int {c : Char} {value : Int} (member : c ∈ (toString value).data) :
    c = '-' ∨ c.isDigit := by
  cases value with
  | ofNat n => exact .inr ((toString_decimal n).2.1 c member)
  | negSucc n =>
      change c ∈ '-' :: (toString (n + 1)).data at member
      rcases List.mem_cons.mp member with dash | digit
      · exact .inl dash
      · exact .inr ((toString_decimal (n + 1)).2.1 c digit)

theorem semicolon_not_mem_toString_int (value : Int) : ';' ∉ (toString value).data := by
  intro member
  rcases mem_toString_int member with dash | digit
  · exact absurd dash (by decide)
  · exact absurd digit (by decide)

theorem semicolon_not_mem_toString (n : Nat) : ';' ∉ (toString n).data :=
  semicolon_not_mem_toString_int n

/-! ## A `float` written by `operator<<` -/

/-- `n / d` rounded to the nearest natural number, a tie to the even one. -/
def roundHalfEven (n d : Nat) : Nat :=
  if 2 * (n % d) < d then n / d
  else if d < 2 * (n % d) then n / d + 1
  else n / d + n / d % 2

/-- The number of digits `n` prints with in base `base`. -/
def digitCount (base n : Nat) : Nat :=
  (Nat.toDigits base n).length

/-- A finite binary number, `significand * 2 ^ exponent`. -/
structure Binary where
  significand : Nat
  exponent : Int
  deriving Repr, DecidableEq

namespace Binary

/-- The number as a fraction `numerator / denominator`. -/
def numerator (x : Binary) : Nat :=
  if 0 ≤ x.exponent then x.significand * 2 ^ x.exponent.toNat else x.significand

def denominator (x : Binary) : Nat :=
  if 0 ≤ x.exponent then 1 else 2 ^ (-x.exponent).toNat

/--
`static_cast<float>`: the nearest `float`, a tie to the one with an even
significand, `none` when it is `2 ^ 128` or more.  A `float` has 24
significant bits, and its subnormal step is `2 ^ -149`.
-/
def toFloat (x : Binary) : Option Binary :=
  let quantum : Int := max (digitCount 2 x.significand + x.exponent - 24) (-149)
  let rounded :=
    if x.exponent ≤ quantum then roundHalfEven x.significand (2 ^ (quantum - x.exponent).toNat)
    else x.significand * 2 ^ (x.exponent - quantum).toNat
  if (digitCount 2 rounded : Int) + quantum ≤ 128 then some ⟨rounded, quantum⟩ else none

end Binary

namespace Double

/-- The sign bit. -/
def negative (x : Double) : Bool :=
  x.bits.toNat / 2 ^ 63 = 1

/-- The biased exponent field. -/
def exponentField (x : Double) : Nat :=
  x.bits.toNat / 2 ^ 52 % 2 ^ 11

/-- The fraction field. -/
def fraction (x : Double) : Nat :=
  x.bits.toNat % 2 ^ 52

/-- The magnitude of a finite `double`. -/
def magnitude (x : Double) : Binary :=
  if x.exponentField = 0 then ⟨x.fraction, -1074⟩
  else ⟨2 ^ 52 + x.fraction, x.exponentField - 1075⟩

end Double

/--
The decimal exponent and the six significant digits of the positive
fraction `n / d`, rounded: the digits are from `10 ^ 5` to `10 ^ 6`, and a
carry to `10 ^ 6` moves to the next exponent.  The exponent is found as the
digit count of `n / d` scaled by `10 ^ 50`, past the smallest `float`.
-/
def significantDigits (n d : Nat) : Int × Nat :=
  let exponent : Int := digitCount 10 (n * 10 ^ 50 / d) - 51
  let digits :=
    if exponent ≤ 5 then roundHalfEven (n * 10 ^ (5 - exponent).toNat) d
    else roundHalfEven n (d * 10 ^ (exponent - 5).toNat)
  if digits = 10 ^ 6 then (exponent + 1, 10 ^ 5) else (exponent, digits)

/-- The fraction digits without trailing zeros, after a point if one is left. -/
def fractionPart (digits : List Char) : String :=
  let kept := (digits.reverse.dropWhile (· = '0')).reverse
  if kept = [] then "" else "." ++ String.mk kept

/--
`%g` of the positive fraction `n / d`: fixed form when the decimal exponent
`X` has `-4 ≤ X < 6`, with `5 - X` digits after the point, and otherwise
`d.ddddde±XX`.
-/
def formatGeneral (n d : Nat) : String :=
  let (exponent, digits) := significantDigits n d
  let written := (toString digits).data
  if -4 ≤ exponent ∧ exponent < 6 then
    if 0 ≤ exponent then
      String.mk (written.take (exponent.toNat + 1)) ++
        fractionPart (written.drop (exponent.toNat + 1))
    else "0" ++ fractionPart (List.replicate ((-exponent).toNat - 1) '0' ++ written)
  else
    String.mk (written.take 1) ++ fractionPart (written.drop 1) ++ "e" ++
      (if exponent < 0 then "-" else "+") ++
      (if exponent.natAbs < 10 then "0" else "") ++ toString exponent.natAbs

/-- `config << item.value().get<float>()` for a JSON number holding the `double` `x`. -/
def formatFloat (x : Double) : String :=
  (if x.negative then "-" else "") ++
    if x.exponentField = 2 ^ 11 - 1 then (if x.fraction = 0 then "inf" else "nan")
    else
      match x.magnitude.toFloat with
      | none => "inf"
      | some value =>
          if value.significand = 0 then "0"
          else formatGeneral value.numerator value.denominator

theorem semicolon_not_mem_fractionPart {digits : List Char} (safe : ';' ∉ digits) :
    ';' ∉ (fractionPart digits).data := by
  unfold fractionPart
  dsimp only
  split_ifs
  · exact List.not_mem_nil _
  · rintro (_ | ⟨_, member⟩)
    exact safe (List.mem_reverse.mp
      ((List.dropWhile_suffix _).subset (List.mem_reverse.mp member)))

theorem semicolon_not_mem_formatGeneral (n d : Nat) : ';' ∉ (formatGeneral n d).data := by
  unfold formatGeneral
  generalize significantDigits n d = result
  obtain ⟨exponent, digits⟩ := result
  have written := semicolon_not_mem_toString digits
  have taken (k : Nat) : ';' ∉ (toString digits).data.take k :=
    fun member => written (List.mem_of_mem_take member)
  have dropped (k : Nat) : ';' ∉ (fractionPart ((toString digits).data.drop k)).data :=
    semicolon_not_mem_fractionPart fun member => written (List.mem_of_mem_drop member)
  have padded (k : Nat) :
      ';' ∉ (fractionPart (List.replicate k '0' ++ (toString digits).data)).data :=
    semicolon_not_mem_fractionPart (by simp [List.mem_replicate, written])
  dsimp only
  split_ifs <;> simp [taken, dropped, padded, semicolon_not_mem_toString, -List.drop_one]

/-- A `float` prints without a `;`. -/
theorem semicolon_not_mem_formatFloat (x : Double) : ';' ∉ (formatFloat x).data := by
  unfold formatFloat
  split_ifs <;> try split
  all_goals try split_ifs
  all_goals simp [semicolon_not_mem_formatGeneral]

example : formatFloat ⟨0x3FF8000000000000⟩ = "1.5" := by decide
example : formatFloat ⟨0x3FB999999999999A⟩ = "0.1" := by decide
example : formatFloat ⟨0x412E848000000000⟩ = "1e+06" := by decide

end MediasoupClient

/-!
# Numbers and bytes as text

Decimal numbers, and behind the marker `0x` bytes as two hexadecimal digits each and
numbers as the digits they need. All are read back as they were written
(`parseDecimal_toString`, `hexDecode_hexEncode`, `ofQuantity_quantity`); a reader takes
more than a writer makes, leading zeros and a plus sign in one, capital letters in the
others.
-/

namespace BlockBuilder.Lib

/-- A text without the plus sign before it. -/
def withoutSign : List Char → List Char
  | '+' :: digits => digits
  | digits => digits

/-- The number that a text stands for: decimal digits, one plus sign before them at most. -/
def parseDecimal (s : String) : Option Nat :=
  let digits := withoutSign s.toList
  if digits ≠ [] ∧ digits.all Char.isDigit then some (Nat.ofDigitChars 10 digits 0) else none

theorem withoutSign_of_digits {digits : List Char} (h : ∀ c ∈ digits, c.isDigit = true) :
    withoutSign digits = digits := by
  unfold withoutSign
  split
  next rest =>
    have hsign : '+'.isDigit = true := h '+' (List.mem_cons_self ..)
    cases hsign
  next => rfl

/-- **A number comes back from its digits.** -/
theorem parseDecimal_toString (n : Nat) : parseDecimal (toString n) = some n := by
  have hdigits : ∀ c ∈ Nat.toDigits 10 n, c.isDigit = true := fun c hc =>
    Nat.isDigit_of_mem_toDigits (by omega) (by omega) hc
  have hlist : (toString n).toList = Nat.toDigits 10 n := Nat.toList_repr
  unfold parseDecimal
  simp only [hlist, withoutSign_of_digits hdigits]
  rw [if_pos ⟨Nat.toDigits_ne_nil, List.all_eq_true.mpr hdigits⟩, Nat.ofDigitChars_ten_toDigits]

/-- The value of a hexadecimal digit. -/
def hexValue (c : Char) : Option Nat :=
  if '0' ≤ c ∧ c ≤ '9' then some (c.toNat - 48)
  else if 'a' ≤ c ∧ c ≤ 'f' then some (c.toNat - 87)
  else if 'A' ≤ c ∧ c ≤ 'F' then some (c.toNat - 55)
  else none

def hexDigits (bytes : List UInt8) : List Char :=
  bytes.flatMap fun byte => [Nat.digitChar (byte.toNat / 16), Nat.digitChar (byte.toNat % 16)]

def ofHexDigits : List Char → Option (List UInt8)
  | [] => some []
  | [_] => none
  | c :: d :: digits => do
    let high ← hexValue c
    let low ← hexValue d
    let bytes ← ofHexDigits digits
    return UInt8.ofNat (16 * high + low) :: bytes

def hexEncode (bytes : List UInt8) : String := String.ofList ('0' :: 'x' :: hexDigits bytes)

/-- The number that hexadecimal digits stand for. -/
def ofHexNumber : Nat → List Char → Option Nat
  | n, [] => some n
  | n, c :: digits => do
    let digit ← hexValue c
    ofHexNumber (16 * n + digit) digits

def quantity (n : Nat) : String := String.ofList ('0' :: 'x' :: Nat.toDigits 16 n)

def ofQuantity (s : String) : Option Nat :=
  match s.toList with
  | '0' :: 'x' :: digits => if digits = [] then none else ofHexNumber 0 digits
  | _ => none

def hexDecode (s : String) : Option (List UInt8) :=
  match s.toList with
  | '0' :: 'x' :: digits => ofHexDigits digits
  | _ => none

theorem hexValue_digitChar : ∀ n < 16, hexValue (Nat.digitChar n) = some n := by
  decide

theorem ofHexDigits_hexDigits (bytes : List UInt8) : ofHexDigits (hexDigits bytes) = some bytes := by
  induction bytes with
  | nil => rfl
  | cons byte bytes ih =>
    have hbyte : byte.toNat < 256 := byte.toNat_lt
    have hhigh := hexValue_digitChar (byte.toNat / 16) (by omega)
    have hlow := hexValue_digitChar (byte.toNat % 16) (by omega)
    have hsum : 16 * (byte.toNat / 16) + byte.toNat % 16 = byte.toNat := Nat.div_add_mod _ _
    show ofHexDigits (_ :: _ :: hexDigits bytes) = _
    unfold ofHexDigits
    rw [hhigh, hlow, ih]
    show some (UInt8.ofNat (16 * (byte.toNat / 16) + byte.toNat % 16) :: bytes) = _
    rw [hsum, UInt8.ofNat_toNat]

/-- **Bytes come back from their digits.** -/
theorem hexDecode_hexEncode (bytes : List UInt8) : hexDecode (hexEncode bytes) = some bytes := by
  unfold hexDecode hexEncode
  rw [String.toList_ofList]
  exact ofHexDigits_hexDigits bytes

theorem ofHexNumber_append (digits digits' : List Char) : ∀ n,
    ofHexNumber n (digits ++ digits') = (ofHexNumber n digits).bind (ofHexNumber · digits') := by
  induction digits with
  | nil => exact fun _ => rfl
  | cons c digits ih =>
    intro n
    show (hexValue c).bind (fun digit => ofHexNumber (16 * n + digit) (digits ++ digits')) =
      ((hexValue c).bind fun digit => ofHexNumber (16 * n + digit) digits).bind _
    cases hexValue c with
    | none => rfl
    | some digit => exact ih _

theorem ofHexNumber_toDigits (n : Nat) : ofHexNumber 0 (Nat.toDigits 16 n) = some n := by
  induction n using Nat.strongRecOn with
  | ind n ih =>
    by_cases hsmall : n < 16
    · rw [Nat.toDigits_of_lt_base hsmall]
      unfold ofHexNumber
      rw [hexValue_digitChar n hsmall]
      show some (16 * 0 + n) = _
      rw [Nat.mul_zero, Nat.zero_add]
    · have hdigit := hexValue_digitChar (n % 16) (Nat.mod_lt _ (by omega))
      rw [Nat.toDigits_of_base_le (by omega) (by omega), ofHexNumber_append, ih (n / 16) (by omega)]
      show (hexValue _).bind _ = _
      rw [hdigit]
      show some (16 * (n / 16) + n % 16) = _
      rw [Nat.div_add_mod]

/-- **A number comes back from its quantity.** -/
theorem ofQuantity_quantity (n : Nat) : ofQuantity (quantity n) = some n := by
  unfold ofQuantity quantity
  rw [String.toList_ofList]
  show (if Nat.toDigits 16 n = [] then none else _) = _
  rw [if_neg Nat.toDigits_ne_nil, ofHexNumber_toDigits]

/-- No decimal number is a quantity. -/
theorem ofQuantity_toString (n : Nat) : ofQuantity (toString n) = none := by
  have hlist : (toString n).toList = Nat.toDigits 10 n := Nat.toList_repr
  unfold ofQuantity
  rw [hlist]
  split
  next digits hmarker =>
    have hmem : 'x' ∈ Nat.toDigits 10 n := by
      rw [hmarker]
      exact List.mem_cons_of_mem _ (List.mem_cons_self ..)
    have hx : 'x'.isDigit = true := Nat.isDigit_of_mem_toDigits (by omega) (by omega) hmem
    cases hx
  next => rfl

end BlockBuilder.Lib

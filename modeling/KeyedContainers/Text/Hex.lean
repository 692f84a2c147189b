/-!
# Hexadecimal words

A word is written with a fixed number of lower-case hexadecimal digits, the most
significant first. Any digits that spell a number of the width are read, in either case of
letters. What was written is read back, so two words have the same text only if they are
the same word.
-/

namespace KeyedContainers.Text

/-- The value of one hexadecimal digit. -/
def hexValue? (c : Char) : Option Nat :=
  if c.isDigit then some (c.toNat - '0'.toNat)
  else if 'a' ≤ c ∧ c ≤ 'f' then some (c.toNat - 'a'.toNat + 10)
  else if 'A' ≤ c ∧ c ≤ 'F' then some (c.toNat - 'A'.toNat + 10)
  else none

/-- The last `width` hexadecimal digits of a number. -/
def hexDigits : Nat → Nat → List Char
  | 0, _ => []
  | width + 1, n => hexDigits width (n / 16) ++ [Nat.digitChar (n % 16)]

/-- The number that hexadecimal digits spell, continuing from the digits already read. -/
def readHexFrom : Nat → List Char → Option Nat
  | acc, [] => some acc
  | acc, c :: cs => (hexValue? c).bind fun d => readHexFrom (acc * 16 + d) cs

/-- The number that one or more hexadecimal digits spell. -/
def readHex? : List Char → Option Nat
  | [] => none
  | c :: cs => readHexFrom 0 (c :: cs)

/-- A 64-bit word in sixteen digits. -/
def hexWord (w : UInt64) : String :=
  String.ofList (hexDigits 16 w.toNat)

/-- The word that a text of hexadecimal digits spells, where it fits 64 bits. -/
def word? (s : String) : Option UInt64 :=
  (readHex? s.toList).bind fun n => if n < UInt64.size then some (UInt64.ofNat n) else none

@[simp] theorem length_hexDigits (width n : Nat) : (hexDigits width n).length = width := by
  induction width generalizing n with
  | zero => rfl
  | succ width ih => simp [hexDigits, ih]

/-- Each digit is read back. -/
private theorem hexValue?_digitChar {d : Nat} (h : d < 16) :
    hexValue? (Nat.digitChar d) = some d := by
  revert d
  decide

private theorem readHexFrom_append (acc : Nat) (cs ds : List Char) :
    readHexFrom acc (cs ++ ds) = (readHexFrom acc cs).bind fun n => readHexFrom n ds := by
  induction cs generalizing acc with
  | nil => rfl
  | cons c cs ih =>
    cases h : hexValue? c with
    | none => simp [readHexFrom, h]
    | some d => simp [readHexFrom, h, ih]

/-- The digits of a number that fits the width shift the number read so far and add to it. -/
theorem readHexFrom_hexDigits (width : Nat) {acc n : Nat} (h : n < Nat.pow 16 width) :
    readHexFrom acc (hexDigits width n) = some (acc * Nat.pow 16 width + n) := by
  induction width generalizing n with
  | zero =>
    have hn : n = 0 := Nat.lt_one_iff.mp h
    simp [hexDigits, readHexFrom, hn]
  | succ width ih =>
    have hpow : Nat.pow 16 (width + 1) = Nat.pow 16 width * 16 := rfl
    have hdiv : n / 16 < Nat.pow 16 width := Nat.div_lt_of_lt_mul (by omega)
    have hmod : n % 16 < 16 := Nat.mod_lt n (by decide)
    rw [hexDigits, readHexFrom_append, ih hdiv, hpow, ← Nat.mul_assoc]
    simp only [Option.bind_some, readHexFrom, hexValue?_digitChar hmod, Option.some.injEq]
    omega

/-- A number that fits the width is read back from its digits, if there are any. -/
theorem readHex?_hexDigits {width n : Nat} (hwidth : 0 < width) (h : n < Nat.pow 16 width) :
    readHex? (hexDigits width n) = some n := by
  have hread : readHexFrom 0 (hexDigits width n) = some (0 * Nat.pow 16 width + n) :=
    readHexFrom_hexDigits width h
  cases hdigits : hexDigits width n with
  | nil =>
    have hlength := length_hexDigits width n
    rw [hdigits, List.length_nil] at hlength
    omega
  | cons c cs =>
    rw [hdigits] at hread
    simpa only [readHex?, Nat.zero_mul, Nat.zero_add] using hread

/-- A word is read back from its sixteen digits. -/
@[simp] theorem word?_hexWord (w : UInt64) : word? (hexWord w) = some w := by
  have hw : w.toNat < UInt64.size := w.toNat_lt_size
  have hread : readHex? (hexDigits 16 w.toNat) = some w.toNat := readHex?_hexDigits (by decide) hw
  rw [word?, hexWord, String.toList_ofList, hread, Option.bind_some, if_pos hw,
    UInt64.ofNat_toNat]

/-- The digits are lower-case. -/
theorem mem_hexDigits {width n : Nat} {c : Char} (h : c ∈ hexDigits width n) :
    c ∈ "0123456789abcdef".toList := by
  have hdigit : ∀ d < 16, Nat.digitChar d ∈ "0123456789abcdef".toList := by decide
  induction width generalizing n with
  | zero => cases h
  | succ width ih =>
    rcases List.mem_append.mp h with hfront | hlast
    · exact ih hfront
    · rw [List.mem_singleton.mp hlast]
      exact hdigit _ (Nat.mod_lt n (by decide))

/-- Filling up in front begins with a filler that stands there already. -/
private theorem leftpad_cons_self {α : Type} {width : Nat} {a : α} {as : List α}
    (h : as.length < width) : (a :: as).leftpad width a = as.leftpad width a := by
  have hwidth : width - as.length = width - (as.length + 1) + 1 := by omega
  simp [List.leftpad, hwidth, List.replicate_succ']

/-- Filling up in front leaves the last place as it is. -/
private theorem leftpad_concat {α : Type} (width : Nat) (a b : α) (as : List α) :
    (as ++ [b]).leftpad (width + 1) a = as.leftpad width a ++ [b] := by
  simp [List.leftpad]

/-- A number that fits the width has its own digits, with zeros before them. -/
theorem hexDigits_eq_leftpad {width n : Nat} (h : n < Nat.pow 16 (width + 1)) :
    hexDigits (width + 1) n = (Nat.toDigits 16 n).leftpad (width + 1) '0' := by
  induction width generalizing n with
  | zero =>
    have hn : n < 16 := h
    rw [hexDigits, Nat.mod_eq_of_lt hn, Nat.toDigits_of_lt_base hn]
    rfl
  | succ width ih =>
    have hpow : Nat.pow 16 (width + 1 + 1) = Nat.pow 16 (width + 1) * 16 := rfl
    have hdiv : n / 16 < Nat.pow 16 (width + 1) := Nat.div_lt_of_lt_mul (by omega)
    rw [hexDigits, ih hdiv, ← leftpad_concat]
    by_cases hn : n < 16
    · -- The digits of zero are not none but one, which takes the place of a filler.
      have hzero : Nat.toDigits 16 (n / 16) = ['0'] := by
        rw [Nat.div_eq_of_lt hn]
        rfl
      rw [hzero, Nat.toDigits_of_lt_base hn, Nat.mod_eq_of_lt hn]
      exact leftpad_cons_self (Nat.succ_lt_succ (Nat.succ_pos width))
    · rw [Nat.toDigits_of_base_le (by decide) (Nat.le_of_not_lt hn)]

end KeyedContainers.Text

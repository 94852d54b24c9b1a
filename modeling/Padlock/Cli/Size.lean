/-
This file models how the program reads a size: `padlock_parse_size`, on the C
library's `strtoull` and `strcasecmp`, and the `allocate` command that hands
the size on.

`strtoull` skips white space, takes one sign and reads digits as far as they
go. A minus is not an error to it: it negates the number modulo 2^64. So the
texts are told apart by their sign. Without a minus the parser takes exactly
the sizes one would write; with one it takes some texts it should not, and which
ones is a question about the digits and the suffix.
-/

import Padlock.Library.Numeral
import Padlock.Cli.Password

namespace Padlock

open Interaction Program

/-! ### The C library -/

def plusSign : UInt8 := 0x2b

def minusSign : UInt8 := 0x2d

def isDigit (byte : UInt8) : Bool := 0x30 ≤ byte ∧ byte ≤ 0x39

def digitValue (byte : UInt8) : Nat := byte.toNat - 0x30

/-- The number that decimal digits stand for. -/
def decimal (digits : List UInt8) : Nat := Numeral.value 10 (digits.map digitValue)

/-- What `strtoull` gives: the number, whether it has set `ERANGE`, and where it has stopped. -/
structure Converted where
  number : UInt64
  outOfRange : Bool
  rest : List UInt8

/-- The number for a sign and digits: `ULLONG_MAX` when the digits stand for more. -/
def convert (negative : Bool) (digits rest : List UInt8) : Converted :=
  if 2 ^ 64 ≤ decimal digits then
    { number := 0xffffffffffffffff, outOfRange := true, rest }
  else
    { number := if negative then -UInt64.ofNat (decimal digits) else UInt64.ofNat (decimal digits)
      outOfRange := false
      rest }

/-- Whether a minus stands first, and what comes behind the sign if there is one. -/
def takeSign : List UInt8 → Bool × List UInt8
  | [] => (false, [])
  | first :: rest =>
    if first = minusSign then (true, rest)
    else if first = plusSign then (false, rest)
    else (false, first :: rest)

/-- `strtoull(text, &end, 10)`; `none` when there was nothing to convert, and `end` is `text`. -/
def strtoull (text : List UInt8) : Option Converted :=
  let (negative, body) := takeSign (text.dropWhile isSpace)
  if body.takeWhile isDigit = [] then none
  else some (convert negative (body.takeWhile isDigit) (body.dropWhile isDigit))

/-- `tolower` of the C locale. -/
def toLower (byte : UInt8) : UInt8 := if 0x41 ≤ byte ∧ byte ≤ 0x5a then byte + 0x20 else byte

/-- `strcasecmp(first, second) == 0` -/
def strcasecmpIsZero (first second : List UInt8) : Bool := first.map toLower = second.map toLower

/-! ### Parsing a size -/

/-- The multiplier a suffix stands for; `none` is the result -1. -/
def sizeMultiplier (suffix : List UInt8) : Option UInt64 :=
  if strcasecmpIsZero suffix (ascii "KB") || strcasecmpIsZero suffix (ascii "K") then
    some 1024
  else if strcasecmpIsZero suffix (ascii "MB") || strcasecmpIsZero suffix (ascii "M") then
    some (1024 * 1024)
  else if strcasecmpIsZero suffix (ascii "GB") || strcasecmpIsZero suffix (ascii "G") then
    some (1024 * 1024 * 1024)
  else if !strcasecmpIsZero suffix (ascii "B") && suffix ≠ [] then
    none
  else
    some 1

/-- The result, and what the place for the size holds afterwards. A null pointer for either
argument is `none`. -/
def padlockParseSize (value : Option CString) (bytes : Option UInt64) : Int × Option UInt64 :=
  match value, bytes with
  | some value, some stored =>
    if value.bytes = [] then (-1, some stored)
    else
      match strtoull value.bytes with
      | none => (-1, some stored)
      | some converted =>
        if converted.outOfRange then (-1, some stored)
        else
          match sizeMultiplier converted.rest with
          | none => (-1, some stored)
          | some multiplier =>
            if converted.number > 0xffffffffffffffff / multiplier then (-1, some stored)
            else (0, some (converted.number * multiplier))
  | _, bytes => (-1, bytes)

/-! ### The texts of a number -/

/-- A text split as `strtoull` reads it: white space, a sign, digits, and what comes behind. -/
structure Splits (text spaces sign digits rest : List UInt8) : Prop where
  whole : text = spaces ++ (sign ++ (digits ++ rest))
  blank : ∀ byte ∈ spaces, isSpace byte = true
  signs : sign = [] ∨ sign = [plusSign] ∨ sign = [minusSign]
  nonempty : digits ≠ []
  numeric : ∀ byte ∈ digits, isDigit byte = true
  ends : ∀ byte ∈ rest.head?, isDigit byte = false

theorem isDigit_bounds {byte : UInt8} (digit : isDigit byte = true) :
    48 ≤ byte.toNat ∧ byte.toNat ≤ 57 := by
  unfold isDigit at digit
  rw [decide_eq_true_iff, UInt8.le_iff_toNat_le, UInt8.le_iff_toNat_le] at digit
  exact digit

theorem isSpace_of_isDigit {byte : UInt8} (digit : isDigit byte = true) :
    isSpace byte = false := by
  have bounds := isDigit_bounds digit
  unfold isSpace
  rw [decide_eq_false_iff_not, ← UInt8.toNat_inj, UInt8.le_iff_toNat_le, UInt8.le_iff_toNat_le]
  simp only [UInt8.reduceToNat]
  omega

theorem ne_sign_of_isDigit {byte : UInt8} (digit : isDigit byte = true) :
    byte ≠ minusSign ∧ byte ≠ plusSign := by
  have bounds := isDigit_bounds digit
  rw [← UInt8.toNat_inj.ne, ← UInt8.toNat_inj.ne]
  have minus : minusSign.toNat = 45 := rfl
  have plus : plusSign.toNat = 43 := rfl
  omega

theorem takeSign_append {sign body : List UInt8}
    (signs : sign = [] ∨ sign = [plusSign] ∨ sign = [minusSign])
    (plain : ∀ byte ∈ body.head?, isDigit byte = true) :
    takeSign (sign ++ body) = (decide (sign = [minusSign]), body) := by
  obtain rfl | rfl | rfl := signs
  · cases body with
    | nil => rfl
    | cons first rest =>
      have notSign := ne_sign_of_isDigit (plain first rfl)
      rw [List.nil_append, takeSign, if_neg notSign.1, if_neg notSign.2]
      rfl
  · rfl
  · rfl

theorem takeSign_eq (text : List UInt8) :
    ∃ sign, text = sign ++ (takeSign text).2 ∧
      (sign = [] ∨ sign = [plusSign] ∨ sign = [minusSign]) := by
  cases text with
  | nil => exact ⟨[], rfl, .inl rfl⟩
  | cons first rest =>
    rw [takeSign]
    split
    · rename_i minus
      exact ⟨[minusSign], by rw [minus]; rfl, .inr (.inr rfl)⟩
    · split
      · rename_i plus
        exact ⟨[plusSign], by rw [plus]; rfl, .inr (.inl rfl)⟩
      · exact ⟨[], rfl, .inl rfl⟩

/-- The sign and the digits of a text are what `strtoull` converts. -/
theorem Splits.strtoull {text spaces sign digits rest : List UInt8}
    (splits : Splits text spaces sign digits rest) :
    strtoull text = some (convert (sign = [minusSign]) digits rest) := by
  obtain ⟨rfl, blank, signs, nonempty, numeric, ends⟩ := splits
  have plain : ∀ byte ∈ (digits ++ rest).head?, isDigit byte = true := by
    obtain ⟨first, others, rfl⟩ := List.exists_cons_of_ne_nil nonempty
    rintro byte ⟨⟩
    exact numeric first List.mem_cons_self
  have start : (spaces ++ (sign ++ (digits ++ rest))).dropWhile isSpace =
      sign ++ (digits ++ rest) := by
    refine Lines.dropWhile_append_of_stop blank ?_
    obtain rfl | rfl | rfl := signs
    · exact fun byte first => isSpace_of_isDigit (plain byte first)
    · rintro byte ⟨⟩
      decide
    · rintro byte ⟨⟩
      decide
  simp only [Padlock.strtoull, start, takeSign_append signs plain,
    Lines.takeWhile_append_of_stop numeric ends, Lines.dropWhile_append_of_stop numeric ends,
    if_neg nonempty]

/-- A text from which `strtoull` takes a number can be split. -/
theorem exists_splits {text : List UInt8} {converted : Converted}
    (conversion : strtoull text = some converted) :
    ∃ spaces sign digits rest, Splits text spaces sign digits rest := by
  obtain ⟨sign, signed, signs⟩ := takeSign_eq (text.dropWhile isSpace)
  unfold strtoull at conversion
  dsimp only at conversion
  split at conversion
  · cases conversion
  · rename_i nonempty
    refine ⟨text.takeWhile isSpace, sign, (takeSign (text.dropWhile isSpace)).2.takeWhile isDigit,
      (takeSign (text.dropWhile isSpace)).2.dropWhile isDigit, ?_, ?_, signs, nonempty, ?_,
      Lines.head?_dropWhile⟩
    · rw [List.takeWhile_append_dropWhile, ← signed, List.takeWhile_append_dropWhile]
    · exact fun byte member => List.mem_takeWhile_imp member
    · exact fun byte member => List.mem_takeWhile_imp member

/-! ### The suffixes -/

/-- The suffixes of a size, and what each multiplies by. -/
def sizeSuffixes : List (List UInt8 × Nat) :=
  [(ascii "", 1), (ascii "B", 1), (ascii "K", 2 ^ 10), (ascii "KB", 2 ^ 10), (ascii "M", 2 ^ 20),
    (ascii "MB", 2 ^ 20), (ascii "G", 2 ^ 30), (ascii "GB", 2 ^ 30)]

/-- A suffix, in upper or lower case, stands for a multiplier. -/
def Multiplies (suffix : List UInt8) (multiplier : Nat) : Prop :=
  ∃ name, (name, multiplier) ∈ sizeSuffixes ∧ suffix.map toLower = name.map toLower

theorem sizeMultiplier_of_multiplies {suffix : List UInt8} {multiplier : Nat}
    (multiplies : Multiplies suffix multiplier) :
    sizeMultiplier suffix = some (UInt64.ofNat multiplier) := by
  obtain ⟨name, listed, same⟩ := multiplies
  have empty : suffix = [] ↔ suffix.map toLower = [] := List.map_eq_nil_iff.symm
  simp only [sizeMultiplier, strcasecmpIsZero, same, empty, ne_eq]
  simp only [sizeSuffixes, List.mem_cons, Prod.mk.injEq, List.not_mem_nil, or_false] at listed
  rcases listed with ⟨rfl, rfl⟩ | ⟨rfl, rfl⟩ | ⟨rfl, rfl⟩ | ⟨rfl, rfl⟩ | ⟨rfl, rfl⟩ | ⟨rfl, rfl⟩ |
    ⟨rfl, rfl⟩ | ⟨rfl, rfl⟩ <;> decide

theorem multiplies_of_sizeMultiplier {suffix : List UInt8} {multiplier : UInt64}
    (taken : sizeMultiplier suffix = some multiplier) : Multiplies suffix multiplier.toNat := by
  unfold sizeMultiplier at taken
  simp only [strcasecmpIsZero, Bool.or_eq_true, Bool.and_eq_true, Bool.not_eq_true',
    decide_eq_true_iff, decide_eq_false_iff_not] at taken
  split at taken
  · rename_i same
    obtain rfl := Option.some.inj taken
    rcases same with same | same
    · exact ⟨ascii "KB", by decide, same⟩
    · exact ⟨ascii "K", by decide, same⟩
  split at taken
  · rename_i same
    obtain rfl := Option.some.inj taken
    rcases same with same | same
    · exact ⟨ascii "MB", by decide, same⟩
    · exact ⟨ascii "M", by decide, same⟩
  split at taken
  · rename_i same
    obtain rfl := Option.some.inj taken
    rcases same with same | same
    · exact ⟨ascii "GB", by decide, same⟩
    · exact ⟨ascii "G", by decide, same⟩
  split at taken
  · cases taken
  · rename_i same
    obtain rfl := Option.some.inj taken
    by_cases empty : suffix = []
    · exact ⟨ascii "", by decide, by rw [empty]; rfl⟩
    · refine ⟨ascii "B", by decide, ?_⟩
      by_contra different
      exact same ⟨different, empty⟩

theorem Multiplies.pos {suffix : List UInt8} {multiplier : Nat}
    (multiplies : Multiplies suffix multiplier) : 0 < multiplier ∧ multiplier < 2 ^ 64 := by
  obtain ⟨name, listed, -⟩ := multiplies
  have all : ∀ entry ∈ sizeSuffixes, 0 < entry.2 ∧ entry.2 < 2 ^ 64 := by decide
  exact all _ listed

/-- No suffix begins with a digit. -/
theorem Multiplies.ends {suffix : List UInt8} {multiplier : Nat}
    (multiplies : Multiplies suffix multiplier) :
    ∀ byte ∈ suffix.head?, isDigit byte = false := by
  obtain ⟨name, listed, same⟩ := multiplies
  have all : ∀ entry ∈ sizeSuffixes, ∀ byte ∈ entry.1.map toLower, isDigit byte = false := by
    decide +kernel
  rintro byte first
  have member : toLower byte ∈ suffix.map toLower :=
    List.mem_map_of_mem (List.mem_of_mem_head? first)
  rw [same] at member
  have letter := all _ listed _ member
  by_contra digit
  rw [Bool.not_eq_false] at digit
  have bounds := isDigit_bounds digit
  have kept : toLower byte = byte := by
    unfold toLower
    rw [if_neg]
    rw [UInt8.le_iff_toNat_le, UInt8.le_iff_toNat_le]
    simp only [UInt8.reduceToNat]
    omega
  rw [kept, digit] at letter
  cases letter

/-! ### What the parser takes -/

/-- The number that `strtoull` makes of digits behind a sign: a minus negates modulo 2^64. -/
def signedValue (sign digits : List UInt8) : Nat :=
  if sign = [minusSign] then (2 ^ 64 - decimal digits) % 2 ^ 64 else decimal digits

theorem convert_of_lt {sign digits : List UInt8} (rest : List UInt8)
    (inRange : decimal digits < 2 ^ 64) :
    convert (sign = [minusSign]) digits rest =
      { number := UInt64.ofNat (signedValue sign digits), outOfRange := false, rest } := by
  rw [convert, if_neg (by omega), signedValue]
  congr 1
  by_cases minus : sign = [minusSign]
  · rw [decide_eq_true minus, if_pos rfl, if_pos minus]
    apply UInt64.toNat_inj.mp
    rw [UInt64.toNat_neg, UInt64.toNat_ofNat', UInt64.toNat_ofNat', Nat.mod_eq_of_lt inRange,
      Nat.mod_mod]
    rfl
  · rw [decide_eq_false minus, if_neg Bool.false_ne_true, if_neg minus]

theorem signedValue_lt (sign : List UInt8) {digits : List UInt8}
    (inRange : decimal digits < 2 ^ 64) :
    signedValue sign digits < 2 ^ 64 := by
  unfold signedValue
  split
  · exact Nat.mod_lt _ (by decide)
  · exact inRange

/-- The check before the multiplication refuses exactly the products that do not fit. -/
theorem scaled_iff {number multiplier : Nat} (numberLt : number < 2 ^ 64)
    (positive : 0 < multiplier) (multiplierLt : multiplier < 2 ^ 64) :
    UInt64.ofNat number > 0xffffffffffffffff / UInt64.ofNat multiplier ↔
      2 ^ 64 ≤ number * multiplier := by
  have most : UInt64.toNat 0xffffffffffffffff = 2 ^ 64 - 1 := rfl
  rw [gt_iff_lt, UInt64.lt_iff_toNat_lt, UInt64.toNat_div, UInt64.toNat_ofNat',
    UInt64.toNat_ofNat', Nat.mod_eq_of_lt numberLt, Nat.mod_eq_of_lt multiplierLt, most,
    Nat.div_lt_iff_lt_mul positive]
  omega

section Parse

variable {text : CString} {spaces sign digits rest : List UInt8} {stored : UInt64}

theorem Splits.text_ne_nil (splits : Splits text.bytes spaces sign digits rest) :
    text.bytes ≠ [] := by
  intro none
  have whole := splits.whole
  rw [none, eq_comm, List.append_eq_nil_iff, List.append_eq_nil_iff, List.append_eq_nil_iff]
    at whole
  exact splits.nonempty whole.2.2.1

/-- A text with a known suffix is taken when its number, and its number times the multiplier, fit
64 bits. -/
theorem Splits.parseSize (splits : Splits text.bytes spaces sign digits rest) {multiplier : Nat}
    (multiplies : Multiplies rest multiplier) :
    padlockParseSize (some text) (some stored) =
      if decimal digits < 2 ^ 64 ∧ signedValue sign digits * multiplier < 2 ^ 64 then
        (0, some (UInt64.ofNat (signedValue sign digits * multiplier)))
      else (-1, some stored) := by
  obtain ⟨positive, multiplierLt⟩ := multiplies.pos
  simp only [padlockParseSize, if_neg splits.text_ne_nil, splits.strtoull]
  by_cases inRange : decimal digits < 2 ^ 64
  · have fits := scaled_iff (signedValue_lt sign inRange) positive multiplierLt
    rw [convert_of_lt rest inRange]
    simp only [Bool.false_eq_true, if_false, sizeMultiplier_of_multiplies multiplies]
    by_cases large : 2 ^ 64 ≤ signedValue sign digits * multiplier
    · rw [if_pos (fits.mpr large), if_neg (by omega)]
    · rw [if_neg (fits.not.mpr large), if_pos ⟨inRange, by omega⟩, UInt64.ofNat_mul]
  · rw [convert, if_pos (Nat.not_lt.mp inRange), if_pos rfl,
      if_neg (fun holds => inRange holds.1)]

/-- A text with an unknown suffix is refused. -/
theorem Splits.parseSize_of_unknown (splits : Splits text.bytes spaces sign digits rest)
    (unknown : sizeMultiplier rest = none) (stored : UInt64) :
    padlockParseSize (some text) (some stored) = (-1, some stored) := by
  have restEq : (convert (sign = [minusSign]) digits rest).rest = rest := by
    unfold convert
    split <;> rfl
  simp only [padlockParseSize, if_neg splits.text_ne_nil, splits.strtoull, restEq, unknown,
    ite_self]

/-- What the parser does not take it leaves alone. -/
theorem parseSize_or (text : CString) (stored : UInt64) :
    padlockParseSize (some text) (some stored) = (-1, some stored) ∨
      ∃ spaces sign digits rest multiplier, Splits text.bytes spaces sign digits rest ∧
        Multiplies rest multiplier := by
  cases conversion : strtoull text.bytes with
  | none =>
    left
    simp only [padlockParseSize, conversion, ite_self]
  | some converted =>
    obtain ⟨spaces, sign, digits, rest, splits⟩ := exists_splits conversion
    cases known : sizeMultiplier rest with
    | none => exact .inl (splits.parseSize_of_unknown known stored)
    | some multiplier =>
      exact .inr ⟨spaces, sign, digits, rest, _, splits, multiplies_of_sizeMultiplier known⟩

end Parse

/-! ### Texts without a minus -/

/-- A text names an amount of bytes: white space, a plus if one likes, decimal digits and a suffix,
and the amount is the number times what the suffix stands for. It has to fit 64 bits. -/
def Denotes (text : List UInt8) (amount : Nat) : Prop :=
  ∃ spaces sign digits suffix multiplier,
    text = spaces ++ (sign ++ (digits ++ suffix)) ∧ (∀ byte ∈ spaces, isSpace byte = true) ∧
      (sign = [] ∨ sign = [plusSign]) ∧ digits ≠ [] ∧ (∀ byte ∈ digits, isDigit byte = true) ∧
      Multiplies suffix multiplier ∧ amount = decimal digits * multiplier ∧ amount < 2 ^ 64

theorem signedValue_of_ne {sign digits : List UInt8} (plain : sign ≠ [minusSign]) :
    signedValue sign digits = decimal digits := if_neg plain

/-- The first byte behind the white space, when there is a sign. -/
theorem Splits.head?_of_minus {text spaces digits rest : List UInt8}
    (splits : Splits text spaces [minusSign] digits rest) :
    (text.dropWhile isSpace).head? = some minusSign := by
  rw [splits.whole, Lines.dropWhile_append_of_stop splits.blank]
  · rfl
  · rintro byte ⟨⟩
    decide

theorem Splits.minus_of_head? {text spaces sign digits rest : List UInt8}
    (splits : Splits text spaces sign digits rest)
    (negative : (text.dropWhile isSpace).head? = some minusSign) : sign = [minusSign] := by
  obtain ⟨first, others, rfl⟩ := List.exists_cons_of_ne_nil splits.nonempty
  have firstDigit := splits.numeric first List.mem_cons_self
  obtain rfl | rfl | minus := splits.signs
  · rw [splits.whole, List.nil_append, List.cons_append, Lines.dropWhile_append_of_stop splits.blank
      (by rintro _ ⟨⟩; exact isSpace_of_isDigit firstDigit)] at negative
    exact absurd (Option.some.inj negative) (ne_sign_of_isDigit firstDigit).1
  · rw [splits.whole, Lines.dropWhile_append_of_stop splits.blank (by rintro _ ⟨⟩; decide)]
      at negative
    cases negative
  · exact minus

/-- The parser is exact on texts without a minus: a text that names an amount is taken and the
amount is stored, and every other text is refused and nothing is stored. -/
theorem parse_size_exact (text : CString) (stored : UInt64)
    (plain : (text.bytes.dropWhile isSpace).head? ≠ some minusSign) :
    (∀ amount, Denotes text.bytes amount →
      padlockParseSize (some text) (some stored) = (0, some (UInt64.ofNat amount))) ∧
    ((¬ ∃ amount, Denotes text.bytes amount) →
      padlockParseSize (some text) (some stored) = (-1, some stored)) := by
  constructor
  · rintro _ ⟨spaces, sign, digits, suffix, multiplier, whole, blank, signs, nonempty, numeric,
      multiplies, rfl, fits⟩
    have splits : Splits text.bytes spaces sign digits suffix :=
      ⟨whole, blank, signs.imp_right .inl, nonempty, numeric, multiplies.ends⟩
    have positive := multiplies.pos.1
    have notMinus : sign ≠ [minusSign] := by
      rintro rfl
      exact plain splits.head?_of_minus
    have inRange : decimal digits < 2 ^ 64 :=
      (Nat.le_mul_of_pos_right _ positive).trans_lt fits
    rw [splits.parseSize multiplies, signedValue_of_ne notMinus, if_pos ⟨inRange, fits⟩]
  · intro unnamed
    obtain refused | ⟨spaces, sign, digits, rest, multiplier, splits, multiplies⟩ :=
      parseSize_or text stored
    · exact refused
    · have notMinus : sign ≠ [minusSign] := by
        rintro rfl
        exact plain splits.head?_of_minus
      rw [splits.parseSize multiplies, signedValue_of_ne notMinus, if_neg]
      rintro ⟨-, fits⟩
      have signs : sign = [] ∨ sign = [plusSign] := by
        obtain none | plus | minus := splits.signs
        · exact .inl none
        · exact .inr plus
        · exact absurd minus notMinus
      exact unnamed ⟨_, spaces, sign, digits, rest, multiplier, splits.whole, splits.blank, signs,
        splits.nonempty, splits.numeric, multiplies, rfl, fits⟩

theorem parse_size_exact_sample :
    ((ascii " +3kB").dropWhile isSpace).head? ≠ some minusSign ∧
      padlockParseSize (some ⟨ascii " +3kB", by decide⟩) (some 7) = (0, some 3072) ∧
      padlockParseSize (some ⟨ascii "3kBx", by decide⟩) (some 7) = (-1, some 7) := by
  refine ⟨by decide, ?_, by decide⟩
  refine (parse_size_exact ⟨ascii " +3kB", by decide⟩ 7 (by decide)).1 3072 ?_
  exact ⟨ascii " ", ascii "+", ascii "3", ascii "kB", 1024, by decide, by decide +kernel,
    .inr (by decide), by decide, by decide +kernel, ⟨ascii "KB", by decide, by decide⟩, by decide,
    by decide⟩

/-! ### The allocate command -/

/-- What the command asks: the environment, the calls behind the header password, the allocation,
and what it prints. -/
inductive ToolRequest where
  | getenv (name : List UInt8)
  | cli (call : CliCall)
  | padlockAllocate (path : CString) (size : UInt64) (headerPassword : CString)
  | usage
  | complain (message : List UInt8)
  | reportFailure (action detail : List UInt8)
  | print (message : List UInt8)

abbrev ToolResponse : ToolRequest → Type
  | .getenv _ => Option CString
  | .cli call => CliReply call
  | .padlockAllocate _ _ _ => Int
  | .usage => Unit
  | .complain _ => Unit
  | .reportFailure _ _ => Unit
  | .print _ => Unit

abbrev Tool (Result : Type) := Program ToolRequest ToolResponse Result

/-- `sizeof(path)` in `main`. -/
def pathSize : Nat := 4096

def padlockDefaultStorePath : Tool (Option CString) := do
  let home : Option CString ← request (ToolRequest.getenv (ascii "HOME"))
  let storeRoot : Option CString ← request (ToolRequest.getenv (ascii "PADLOCK_STORE_ROOT"))
  let fitting (text : List UInt8) (nulFree : 0 ∉ text) : Option CString :=
    if text.length < pathSize then some ⟨text, nulFree⟩ else none
  match storeRoot, home with
  | some root, home =>
    if root.bytes = [] then
      return home.bind fun home => fitting (home.bytes ++ ascii "/.padlock/store.plk")
        (List.not_mem_append home.nulFree (by decide))
    else
      return fitting (root.bytes ++ ascii "/store.plk")
        (List.not_mem_append root.nulFree (by decide))
  | none, home =>
    return home.bind fun home => fitting (home.bytes ++ ascii "/.padlock/store.plk")
      (List.not_mem_append home.nulFree (by decide))

/-- The path of an argument, cut to the buffer without a word, or the default path. -/
def resolvePath (argv : List CString) (index : Nat) : Tool (Option CString) :=
  match argv[index]? with
  | some given =>
    return if given.bytes = [] then none
      else some ⟨given.bytes.take (pathSize - 1), fun member =>
        given.nulFree (List.mem_of_mem_take member)⟩
  | none => padlockDefaultStorePath

/-- The `allocate` branch of `main`. -/
def allocateCommand (strerror : Nat → List UInt8) (username : CString) (argv : List CString) :
    Tool Int := do
  let (parsed, size) := padlockParseSize argv[2]? (some 0)
  if argv.length < 3 ∨ argv.length > 4 ∨ parsed ≠ 0 then
    request ToolRequest.usage
    return 2
  let some path ← resolvePath argv 3
    | do
      request (ToolRequest.complain (ascii "padlock: could not resolve store path"))
      return 1
  match ← (deriveHeaderPassword strerror username).relay fun call =>
      request (ToolRequest.cli call) with
  | .error failure =>
    request (ToolRequest.reportFailure (ascii "authentication") failure.reason)
    return 1
  | .ok headerPassword =>
    let allocated : Int ←
      request (ToolRequest.padlockAllocate path (size.getD 0) headerPassword)
    if allocated ≠ 0 then
      request (ToolRequest.reportFailure (ascii "allocation") [])
      return 1
    request (ToolRequest.print (ascii "allocated " ++ path.bytes))
    return 0

/-! ### Texts with a minus -/

/-- A text with a minus is refused: the parser returns -1, and no `allocate` command with this text
for a size comes to the allocation. -/
structure NegativeRefused (text : CString) : Prop where
  parser : ∀ stored, (padlockParseSize (some text) (some stored)).1 = -1
  command : ∀ strerror username argv, argv[2]? = some text →
    (allocateCommand strerror username argv).Asks fun asked =>
      ∀ path size headerPassword, asked ≠ .padlockAllocate path size headerPassword

/-- A text with a minus whose number, negated modulo 2^64, passes for a size: digits below 2^64 and
a known suffix, and what they wrap to times the multiplier fits 64 bits. -/
def WrapsToSize (text : List UInt8) : Prop :=
  ∃ spaces digits suffix multiplier,
    text = spaces ++ (minusSign :: (digits ++ suffix)) ∧ (∀ byte ∈ spaces, isSpace byte = true) ∧
      digits ≠ [] ∧ (∀ byte ∈ digits, isDigit byte = true) ∧ Multiplies suffix multiplier ∧
      decimal digits < 2 ^ 64 ∧ (2 ^ 64 - decimal digits) % 2 ^ 64 * multiplier < 2 ^ 64

theorem WrapsToSize.parseSize {text : CString} (wraps : WrapsToSize text.bytes) (stored : UInt64) :
    (padlockParseSize (some text) (some stored)).1 = 0 := by
  obtain ⟨spaces, digits, suffix, multiplier, whole, blank, nonempty, numeric, multiplies, inRange,
    fits⟩ := wraps
  have splits : Splits text.bytes spaces [minusSign] digits suffix :=
    ⟨whole, blank, .inr (.inr rfl), nonempty, numeric, multiplies.ends⟩
  rw [splits.parseSize multiplies, signedValue, if_pos rfl, if_pos ⟨inRange, fits⟩]

/-- A text with a minus that passes for no size is refused. -/
theorem parseSize_of_not_wraps {text : CString}
    (negative : (text.bytes.dropWhile isSpace).head? = some minusSign)
    (safe : ¬ WrapsToSize text.bytes) (stored : UInt64) :
    (padlockParseSize (some text) (some stored)).1 = -1 := by
  obtain refused | ⟨spaces, sign, digits, rest, multiplier, splits, multiplies⟩ :=
    parseSize_or text stored
  · rw [refused]
  · have minus : sign = [minusSign] := splits.minus_of_head? negative
    subst minus
    rw [splits.parseSize multiplies, if_neg]
    rintro ⟨inRange, fits⟩
    rw [signedValue, if_pos rfl] at fits
    exact safe ⟨spaces, digits, rest, multiplier, splits.whole, splits.blank, splits.nonempty,
      splits.numeric, multiplies, inRange, fits⟩

/-- A refused size ends the command before anything is asked. -/
theorem asks_allocateCommand {strerror : Nat → List UInt8} {username : CString}
    {argv : List CString} (refused : (padlockParseSize argv[2]? (some 0)).1 = -1) :
    (allocateCommand strerror username argv).Asks fun asked =>
      ∀ path size headerPassword, asked ≠ .padlockAllocate path size headerPassword := by
  have bad : argv.length < 3 ∨ argv.length > 4 ∨
      (padlockParseSize argv[2]? (some 0)).1 ≠ 0 := by
    rw [refused]
    exact .inr (.inr (by decide))
  unfold allocateCommand
  dsimp only
  rw [if_pos bad]
  exact ⟨fun _ _ _ => nofun, fun _ => trivial⟩

/-- A text with a minus is refused exactly when it does not wrap to a size. -/
theorem negative_refused_iff {text : CString}
    (negative : (text.bytes.dropWhile isSpace).head? = some minusSign) :
    NegativeRefused text ↔ ¬ WrapsToSize text.bytes := by
  constructor
  · intro refused wraps
    have returned := refused.parser 0
    rw [wraps.parseSize] at returned
    cases returned
  · intro safe
    refine ⟨parseSize_of_not_wraps negative safe, fun strerror username argv given => ?_⟩
    refine asks_allocateCommand ?_
    rw [given]
    exact parseSize_of_not_wraps negative safe 0

theorem negative_refused_sample :
    ((ascii "-1KB").dropWhile isSpace).head? = some minusSign ∧
      NegativeRefused ⟨ascii "-1KB", by decide⟩ := by
  refine ⟨by decide, (negative_refused_iff (by decide)).mpr fun wraps => ?_⟩
  have taken : (padlockParseSize (some ⟨ascii "-1KB", by decide⟩) (some 0)).1 = 0 :=
    WrapsToSize.parseSize wraps 0
  revert taken
  decide

/-- `padlock allocate -1` takes the size 2^64 - 1. -/
theorem minus_one_accepted :
    padlockParseSize (some ⟨ascii "-1", by decide⟩) (some 0) = (0, some 0xffffffffffffffff) ∧
      ¬ NegativeRefused ⟨ascii "-1", by decide⟩ := by
  refine ⟨by decide, fun refused => ?_⟩
  have returned := refused.parser 0
  revert returned
  decide

end Padlock

/-
This file models how the installer reads a size, and compares it with the
program. The installer computes the size of the disk image from the same text
that it hands to `padlock allocate` afterwards, so the two readings should
agree.

The installer's reading is that of the shell: a number with a leading zero is
octal, and numbers and products wrap as signed 64-bit integers. It also knows a
suffix that the program does not.
-/

import Padlock.Cli.Size

namespace Padlock

/-! ### The installer -/

/-- An arithmetic result of the shell: a signed 64-bit integer. -/
def shellWord (number : Int) : Int := number.bmod (2 ^ 64)

/-- The shell's reading of digits in a base. -/
def shellDigits (base : Nat) (digits : List UInt8) : Int :=
  (digits.map digitValue).foldl
    (fun (number : Int) (digit : Nat) => shellWord (number * base + digit)) 0

/-- The shell's reading of a number: octal behind a leading zero, where 8 and 9 are an error. -/
def shellNumber (digits : List UInt8) : Option Int :=
  if digits.head? = some 0x30 ∧ 1 < digits.length then
    if digits.any fun byte => 8 ≤ digitValue byte then none else some (shellDigits 8 digits)
  else some (shellDigits 10 digits)

/-- `([BbKkMmGgTt]?[Bb]?)?$` -/
def matchesSuffix : List UInt8 → Bool
  | [] => true
  | [first] => first ∈ ascii "BbKkMmGgTt"
  | [first, second] => first ∈ ascii "BbKkMmGgTt" ∧ second ∈ ascii "Bb"
  | _ => false

/-- `${suffix^^}`, byte by byte. -/
def toUpper (byte : UInt8) : UInt8 := if 0x61 ≤ byte ∧ byte ≤ 0x7a then byte - 0x20 else byte

/-- The multiplier for a suffix in upper case. -/
def installerMultiplier (suffix : List UInt8) : Option Int :=
  if suffix = ascii "" ∨ suffix = ascii "B" then some 1
  else if suffix = ascii "K" ∨ suffix = ascii "KB" then some 1024
  else if suffix = ascii "M" ∨ suffix = ascii "MB" then some (1024 * 1024)
  else if suffix = ascii "G" ∨ suffix = ascii "GB" then some (1024 * 1024 * 1024)
  else if suffix = ascii "T" ∨ suffix = ascii "TB" then some (1024 * 1024 * 1024 * 1024)
  else none

/-- `size_to_bytes`: the number it prints, or `none` when it fails. -/
def sizeToBytes (input : CString) : Option Int :=
  let number := input.bytes.takeWhile isDigit
  let suffix := input.bytes.dropWhile isDigit
  if number = [] ∨ matchesSuffix suffix = false then none
  else
    (installerMultiplier (suffix.map toUpper)).bind fun multiplier =>
      (shellNumber number).map fun number => shellWord (number * multiplier)

/-- `DISK_IMAGE_MARGIN_BYTES` -/
def diskImageMarginBytes : Int := 64 * 1024 * 1024

/-- `image_size_bytes` in `create_disk_image`. -/
def imageSizeBytes (storeSizeBytes : Int) : Int := shellWord (storeSizeBytes + diskImageMarginBytes)

/-! ### The suffixes of the installer -/

/-- The suffixes of the installer: those of the program, and two more. -/
def installerSuffixes : List (List UInt8 × Nat) :=
  sizeSuffixes ++ [(ascii "T", 2 ^ 40), (ascii "TB", 2 ^ 40)]

/-- A suffix, in upper or lower case, stands for a multiplier in the installer. -/
def InstallerMultiplies (suffix : List UInt8) (multiplier : Nat) : Prop :=
  ∃ name, (name, multiplier) ∈ installerSuffixes ∧ suffix.map toLower = name.map toLower

theorem toLower_eq {byte low : UInt8} (lowered : toLower byte = low) :
    byte = low ∨ byte = low - 0x20 := by
  unfold toLower at lowered
  split at lowered
  · right
    rw [← lowered, UInt8.add_sub_cancel]
  · exact .inl lowered

/-- The bytes of a suffix are among ten letters. -/
theorem InstallerMultiplies.letters {suffix : List UInt8} {multiplier : Nat}
    (multiplies : InstallerMultiplies suffix multiplier) :
    suffix.length ≤ 2 ∧ ∀ byte ∈ suffix, byte ∈ ascii "BbKkMmGgTt" := by
  obtain ⟨name, listed, same⟩ := multiplies
  have names : ∀ entry ∈ installerSuffixes, entry.1.length ≤ 2 ∧
      ∀ low ∈ entry.1.map toLower, low ∈ ascii "BbKkMmGgTt" ∧ low - 0x20 ∈ ascii "BbKkMmGgTt" := by
    decide +kernel
  obtain ⟨short, letters⟩ : name.length ≤ 2 ∧ _ := names _ listed
  have length := congrArg List.length same
  rw [List.length_map, List.length_map] at length
  refine ⟨by omega, fun byte member => ?_⟩
  have lowered : toLower byte ∈ name.map toLower := by
    rw [← same]
    exact List.mem_map_of_mem member
  obtain ⟨lower, upper⟩ := letters _ lowered
  obtain same | same := toLower_eq (rfl : toLower byte = toLower byte)
  · rw [same]
    exact lower
  · rw [same]
    exact upper

/-- A property of the texts of at most two of the ten letters. -/
theorem forall_letters (holds : List UInt8 → Prop) (none : holds [])
    (one : ∀ first ∈ ascii "BbKkMmGgTt", holds [first])
    (two : ∀ first ∈ ascii "BbKkMmGgTt", ∀ second ∈ ascii "BbKkMmGgTt", holds [first, second])
    {suffix : List UInt8} (short : suffix.length ≤ 2)
    (letters : ∀ byte ∈ suffix, byte ∈ ascii "BbKkMmGgTt") : holds suffix := by
  match suffix with
  | [] => exact none
  | [first] => exact one first (letters first (by simp))
  | [first, second] => exact two first (letters first (by simp)) second (letters second (by simp))
  | _ :: _ :: _ :: _ => simp at short

/-- The installer takes a suffix it knows, with its multiplier. -/
theorem InstallerMultiplies.taken {suffix : List UInt8} {multiplier : Nat}
    (multiplies : InstallerMultiplies suffix multiplier) :
    matchesSuffix suffix = true ∧
      installerMultiplier (suffix.map toUpper) = some (multiplier : Int) := by
  obtain ⟨short, letters⟩ := multiplies.letters
  obtain ⟨name, listed, same⟩ := multiplies
  have all := forall_letters (fun suffix =>
      ∀ entry ∈ installerSuffixes, suffix.map toLower = entry.1.map toLower →
        matchesSuffix suffix = true ∧
          installerMultiplier (suffix.map toUpper) = some (entry.2 : Int))
    (by decide) (by decide +kernel) (by decide +kernel) short letters
  exact all _ listed same

/-- What the installer takes for a suffix is one it knows. -/
theorem installerMultiplies_of_taken {suffix : List UInt8} {multiplier : Int}
    (shape : matchesSuffix suffix = true)
    (taken : installerMultiplier (suffix.map toUpper) = some multiplier) :
    ∃ number : Nat, multiplier = number ∧ InstallerMultiplies suffix number := by
  have letters : suffix.length ≤ 2 ∧ ∀ byte ∈ suffix, byte ∈ ascii "BbKkMmGgTt" := by
    match suffix with
    | [] => exact ⟨by decide, by simp⟩
    | [first] =>
      rw [matchesSuffix, decide_eq_true_iff] at shape
      exact ⟨by simp, by simpa using shape⟩
    | [first, second] =>
      rw [matchesSuffix, decide_eq_true_iff] at shape
      have mark : ∀ byte ∈ ascii "Bb", byte ∈ ascii "BbKkMmGgTt" := by decide +kernel
      exact ⟨by simp, by simpa using ⟨shape.1, mark second shape.2⟩⟩
    | _ :: _ :: _ :: _ => cases shape
  have all := forall_letters (fun suffix =>
      ∀ multiplier ∈ installerMultiplier (suffix.map toUpper),
        ∃ entry ∈ installerSuffixes, multiplier = (entry.2 : Int) ∧
          suffix.map toLower = entry.1.map toLower)
    (by decide) (by decide +kernel) (by decide +kernel) letters.1 letters.2
  obtain ⟨entry, listed, rfl, same⟩ := all multiplier taken
  exact ⟨entry.2, rfl, entry.1, listed, same⟩

theorem InstallerMultiplies.ends {suffix : List UInt8} {multiplier : Nat}
    (multiplies : InstallerMultiplies suffix multiplier) :
    ∀ byte ∈ suffix.head?, isDigit byte = false := by
  have letters : ∀ byte ∈ ascii "BbKkMmGgTt", isDigit byte = false := by decide +kernel
  exact fun byte first => letters byte (multiplies.letters.2 byte (List.mem_of_mem_head? first))

/-- A suffix of the program has one multiplier in both readings, and the other two are unknown to
it. -/
theorem InstallerMultiplies.multiplies_or {suffix : List UInt8} {multiplier : Nat}
    (multiplies : InstallerMultiplies suffix multiplier) :
    Multiplies suffix multiplier ∨
      sizeMultiplier suffix = none ∧ ¬ Multiplies suffix multiplier := by
  by_cases known : Multiplies suffix multiplier
  · exact .inl known
  · refine .inr ⟨?_, known⟩
    obtain ⟨name, listed, same⟩ := multiplies
    obtain shared | extra := List.mem_append.mp listed
    · exact absurd ⟨name, shared, same⟩ known
    · have empty : suffix = [] ↔ suffix.map toLower = [] := List.map_eq_nil_iff.symm
      simp only [sizeMultiplier, strcasecmpIsZero, same, empty, ne_eq]
      simp only [List.mem_cons, Prod.mk.injEq, List.not_mem_nil, or_false] at extra
      rcases extra with ⟨rfl, rfl⟩ | ⟨rfl, rfl⟩ <;> decide

/-! ### The numbers of the shell -/

theorem shellWord_of_lt {number : Int} (nonnegative : 0 ≤ number) (small : number < 2 ^ 63) :
    shellWord number = number := by
  rw [shellWord, Int.bmod_def]
  omega

theorem shellWord_of_ge {number : Int} (large : 2 ^ 63 ≤ number) (small : number < 2 ^ 64) :
    shellWord number = number - 2 ^ 64 := by
  rw [shellWord, Int.bmod_def]
  omega

theorem shellDigits_eq (base : Nat) (digits : List UInt8) :
    shellDigits base digits = shellWord (Numeral.value base (digits.map digitValue)) :=
  Numeral.foldl_bmod base (2 ^ 64) _

/-- The number the shell means by digits: octal behind a leading zero. -/
def shellValue (digits : List UInt8) : Nat :=
  Numeral.value (if digits.head? = some 0x30 then 8 else 10) (digits.map digitValue)

theorem shellNumber_eq (digits : List UInt8) :
    shellNumber digits =
      if digits.head? = some 0x30 ∧ ∃ byte ∈ digits, 8 ≤ digitValue byte then none
      else some (shellWord (shellValue digits)) := by
  unfold shellNumber shellValue
  by_cases zero : digits.head? = some 0x30
  · obtain ⟨rest, rfl⟩ := List.head?_eq_some_iff.mp zero
    by_cases long : 1 < (0x30 :: rest : List UInt8).length
    · rw [if_pos ⟨zero, long⟩, if_pos zero, shellDigits_eq]
      simp only [zero, true_and, List.any_eq_true, decide_eq_true_iff]
    · obtain rfl : rest = [] := by
        rw [List.length_cons] at long
        exact List.length_eq_zero_iff.mp (by omega)
      decide
  · rw [if_neg (fun holds => zero holds.1), if_neg (fun holds => zero holds.1), if_neg zero,
      shellDigits_eq]

theorem shellValue_le (digits : List UInt8) : shellValue digits ≤ decimal digits := by
  unfold shellValue decimal
  split
  · exact Numeral.value_mono (by decide) _
  · exact le_rfl

/-- The shell means the decimal number exactly when there is no leading zero, or zeros stand before
the last digit only. -/
theorem shellValue_eq_iff {digits : List UInt8}
    (numeric : ∀ byte ∈ digits, isDigit byte = true) :
    shellValue digits = decimal digits ↔
      (digits.head? = some 0x30 → ∀ byte ∈ digits.dropLast, byte = 0x30) := by
  have zero {byte : UInt8} (digit : isDigit byte = true) : digitValue byte = 0 ↔ byte = 0x30 := by
    have bounds := isDigit_bounds digit
    rw [← UInt8.toNat_inj, digitValue]
    simp only [UInt8.reduceToNat]
    omega
  unfold shellValue decimal
  by_cases leading : digits.head? = some 0x30
  · rw [if_pos leading, Numeral.value_eq_value_iff (by decide) (by decide), ← List.map_dropLast,
      List.forall_mem_map]
    have each (byte : UInt8) (member : byte ∈ digits.dropLast) :=
      zero (numeric byte (List.dropLast_subset _ member))
    constructor
    · exact fun same _ byte member => (each byte member).mp (same byte member)
    · exact fun same byte member => (each byte member).mpr (same leading byte member)
  · rw [if_neg leading]
    exact ⟨fun _ holds => absurd holds leading, fun _ => rfl⟩

/-! ### The two readings -/

/-- A text that the installer takes: digits and a suffix. -/
structure Sized (text digits suffix : List UInt8) (multiplier : Nat) : Prop where
  whole : text = digits ++ suffix
  nonempty : digits ≠ []
  numeric : ∀ byte ∈ digits, isDigit byte = true
  multiplies : InstallerMultiplies suffix multiplier

theorem Sized.splits {text digits suffix : List UInt8} {multiplier : Nat}
    (sized : Sized text digits suffix multiplier) : Splits text [] [] digits suffix :=
  ⟨sized.whole, nofun, .inl rfl, sized.nonempty, sized.numeric, sized.multiplies.ends⟩

/-- What the installer prints for such a text. -/
theorem Sized.sizeToBytes {text : CString} {digits suffix : List UInt8} {multiplier : Nat}
    (sized : Sized text.bytes digits suffix multiplier) :
    sizeToBytes text =
      if digits.head? = some 0x30 ∧ ∃ byte ∈ digits, 8 ≤ digitValue byte then none
      else some (shellWord (shellValue digits * multiplier)) := by
  obtain ⟨shape, taken⟩ := sized.multiplies.taken
  have number : text.bytes.takeWhile isDigit = digits := by
    rw [sized.whole, Lines.takeWhile_append_of_stop sized.numeric sized.multiplies.ends]
  have rest : text.bytes.dropWhile isDigit = suffix := by
    rw [sized.whole, Lines.dropWhile_append_of_stop sized.numeric sized.multiplies.ends]
  have accepted : ¬ (digits = [] ∨ matchesSuffix suffix = false) := by
    rw [shape]
    exact not_or.mpr ⟨sized.nonempty, nofun⟩
  simp only [Padlock.sizeToBytes, number, rest, if_neg accepted, taken, Option.bind_some,
    shellNumber_eq]
  split
  · rfl
  · rw [Option.map_some, shellWord, shellWord, shellWord, Int.bmod_mul_bmod]

theorem exists_sized {text : CString} {printed : Int} (prints : sizeToBytes text = some printed) :
    ∃ digits suffix multiplier, Sized text.bytes digits suffix multiplier := by
  unfold sizeToBytes at prints
  dsimp only at prints
  split at prints
  · cases prints
  · rename_i accepted
    obtain ⟨nonempty, shape⟩ := not_or.mp accepted
    obtain ⟨multiplier, taken, -⟩ := Option.bind_eq_some_iff.mp prints
    obtain ⟨number, -, multiplies⟩ :=
      installerMultiplies_of_taken (Bool.not_eq_false _ ▸ shape) taken
    exact ⟨_, _, number, List.takeWhile_append_dropWhile.symm, nonempty,
      fun byte member => List.mem_takeWhile_imp member, multiplies⟩

/-- The program reads the text as the installer does: whenever the installer prints a number, the
program stores that number, and the disk image made for it is no smaller. -/
def SizesAgree (text : CString) : Prop :=
  ∀ printed, sizeToBytes text = some printed → ∀ before, ∃ stored,
    padlockParseSize (some text) (some before) = (0, some stored) ∧ (stored.toNat : Int) = printed ∧
      (stored.toNat : Int) ≤ imageSizeBytes printed

/-- Digits and a suffix that both read alike: the shell takes the digits for an error, or the
program knows the suffix, the shell's number is the decimal one, and the amount with the margin of
the disk image fits a signed word. -/
def ReadAlike (digits suffix : List UInt8) (multiplier : Nat) : Prop :=
  (digits.head? = some 0x30 ∧ ∃ byte ∈ digits, 8 ≤ digitValue byte) ∨
    (Multiplies suffix multiplier ∧
      (digits.head? = some 0x30 → ∀ byte ∈ digits.dropLast, byte = 0x30) ∧
      decimal digits * multiplier + 64 * 1024 * 1024 < 2 ^ 63)

/-- The amounts of the two readings, and the size of the image for them. -/
theorem stored_eq_printed_iff {number amount : Nat} (le : number ≤ amount)
    (fits : amount < 2 ^ 64) :
    ((amount : Int) = shellWord number ∧
        (amount : Int) ≤ imageSizeBytes (shellWord number)) ↔
      number = amount ∧ amount + 64 * 1024 * 1024 < 2 ^ 63 := by
  have margin : diskImageMarginBytes = 64 * 1024 * 1024 := rfl
  unfold imageSizeBytes
  rw [margin]
  constructor
  · rintro ⟨same, large⟩
    rw [← same] at large
    by_cases high : (2 : Int) ^ 63 ≤ number
    · rw [shellWord_of_ge high (by omega)] at same
      omega
    · rw [shellWord_of_lt (by omega) (by omega)] at same
      by_cases beyond : (2 : Int) ^ 63 ≤ amount + 64 * 1024 * 1024
      · rw [shellWord_of_ge beyond (by omega)] at large
        omega
      · omega
  · rintro ⟨rfl, room⟩
    have word : shellWord number = number := shellWord_of_lt (by omega) (by omega)
    rw [word]
    refine ⟨rfl, ?_⟩
    rw [shellWord_of_lt (by omega) (by omega)]
    omega

theorem Sized.agree_iff {text : CString} {digits suffix : List UInt8} {multiplier : Nat}
    (sized : Sized text.bytes digits suffix multiplier) :
    SizesAgree text ↔ ReadAlike digits suffix multiplier := by
  unfold SizesAgree ReadAlike
  rw [sized.sizeToBytes]
  by_cases error : digits.head? = some 0x30 ∧ ∃ byte ∈ digits, 8 ≤ digitValue byte
  · rw [if_pos error]
    exact ⟨fun _ => .inl error, fun _ => nofun⟩
  rw [if_neg error, or_iff_right error, ← shellValue_eq_iff sized.numeric]
  simp only [Option.some.injEq, forall_eq']
  obtain known | ⟨unknown, other⟩ := sized.multiplies.multiplies_or
  · -- the program scales the decimal number by the same multiplier
    have parsed (before : UInt64) : padlockParseSize (some text) (some before) = _ :=
      sized.splits.parseSize known
    obtain ⟨positive, -⟩ := known.pos
    have product :
        (shellValue digits * multiplier : Int) = (shellValue digits * multiplier : Nat) :=
      (Nat.cast_mul ..).symm
    have le := Nat.mul_le_mul_right multiplier (shellValue_le digits)
    have inRange : decimal digits ≤ decimal digits * multiplier :=
      Nat.le_mul_of_pos_right _ positive
    have plain : signedValue [] digits = decimal digits := signedValue_of_ne nofun
    simp only [parsed, plain, product]
    constructor
    · intro agrees
      obtain ⟨stored, storedEq, same, room⟩ := agrees 0
      split at storedEq
      · rename_i fits
        rw [Prod.mk.injEq, Option.some.injEq] at storedEq
        rw [← storedEq.2, UInt64.toNat_ofNat', Nat.mod_eq_of_lt fits.2] at same room
        obtain ⟨equal, small⟩ := (stored_eq_printed_iff le fits.2).mp ⟨same, room⟩
        exact ⟨known, Nat.eq_of_mul_eq_mul_right positive equal, small⟩
      · cases (Prod.mk.inj storedEq).1
    · rintro ⟨-, equal, small⟩ before
      have fits : decimal digits * multiplier < 2 ^ 64 := by omega
      refine ⟨UInt64.ofNat (decimal digits * multiplier), if_pos ⟨by omega, fits⟩, ?_⟩
      rw [UInt64.toNat_ofNat', Nat.mod_eq_of_lt fits]
      exact (stored_eq_printed_iff le fits).mpr ⟨by rw [equal], small⟩
  · constructor
    · intro agrees
      obtain ⟨stored, storedEq, -⟩ := agrees 0
      rw [sized.splits.parseSize_of_unknown unknown] at storedEq
      cases (Prod.mk.inj storedEq).1
    · rintro ⟨known, -⟩
      exact absurd known other

/-- The installer and the program agree on a text exactly when, however the text is read as digits
and a suffix of the installer, the two read them alike. -/
theorem sizes_agree_iff (text : CString) :
    SizesAgree text ↔
      ∀ digits suffix multiplier, text.bytes = digits ++ suffix → digits ≠ [] →
        (∀ byte ∈ digits, isDigit byte = true) → InstallerMultiplies suffix multiplier →
        ReadAlike digits suffix multiplier := by
  constructor
  · intro agrees digits suffix multiplier whole nonempty numeric multiplies
    have sized : Sized text.bytes digits suffix multiplier := ⟨whole, nonempty, numeric, multiplies⟩
    exact sized.agree_iff.mp agrees
  · intro alike printed prints
    obtain ⟨digits, suffix, multiplier, sized⟩ := exists_sized prints
    exact sized.agree_iff.mpr
      (alike digits suffix multiplier sized.whole sized.nonempty sized.numeric sized.multiplies)
      printed prints

/-- The installer takes `010K` for 8192 bytes and the program for 10240; it takes `1T` where the
program takes nothing. -/
theorem octal_size_disagrees :
    sizeToBytes ⟨ascii "010K", by decide⟩ = some 8192 ∧
      padlockParseSize (some ⟨ascii "010K", by decide⟩) (some 0) = (0, some 10240) ∧
      sizeToBytes ⟨ascii "1T", by decide⟩ = some (2 ^ 40) ∧
      padlockParseSize (some ⟨ascii "1T", by decide⟩) (some 0) = (-1, some 0) ∧
      ¬ SizesAgree ⟨ascii "010K", by decide⟩ := by
  have printed : sizeToBytes ⟨ascii "010K", by decide⟩ = some 8192 := by decide
  have parsed : padlockParseSize (some ⟨ascii "010K", by decide⟩) (some 0) = (0, some 10240) := by
    decide
  refine ⟨printed, parsed, by decide, by decide, fun agrees => ?_⟩
  obtain ⟨stored, storedEq, same, -⟩ := agrees 8192 printed 0
  rw [parsed, Prod.mk.injEq, Option.some.injEq] at storedEq
  rw [← storedEq.2] at same
  revert same
  decide

end Padlock

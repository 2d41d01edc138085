import AroundMuseo.Core.DartString
import AroundMuseo.Core.RegExp

/-!
# The validators of the forms

`MAppValidator`: a validator answers with the error to show under a field, or with `null`.
-/

namespace AroundMuseo

open RegularExpression

namespace MAppValidator

/-- `\d` -/
def digits : List Char := "0123456789".toList

/-- `\w` -/
def wordCharacters : List Char :=
  "ABCDEFGHIJKLMNOPQRSTUVWXYZabcdefghijklmnopqrstuvwxyz0123456789_".toList

/-- `[A-Z]` -/
def uppercaseLetters : List Char := "ABCDEFGHIJKLMNOPQRSTUVWXYZ".toList

/-- `[!@#$%^&*(),.?":{}|<>]` -/
def specialCharacters : List Char := "!@#$%^&*(),.?\":\x7b\x7d|<>".toList

/-- `^[\w-\.]+@([\w-]+\.)+[\w-]{2,4}$` -/
def emailRegExp : RegularExpression Char :=
  (oneOf ('-' :: '.' :: wordCharacters)).many1 * char '@' *
    ((oneOf ('-' :: wordCharacters)).many1 * char '.').many1 *
      (oneOf ('-' :: wordCharacters) ^ 2 * optional (oneOf ('-' :: wordCharacters)) *
        optional (oneOf ('-' :: wordCharacters)))

/-- `^\d{4}$` -/
def birthYearRegExp : RegularExpression Char := oneOf digits ^ 4

def validateEmptyText (fieldName value : Option String) : Option String :=
  if value = none ∨ value = some "" then some (fieldName.getD "null" ++ " is required.")
  else none

def validateEmail : Option String → Option String
  | none => some "Email is required."
  | some value =>
    if value = "" then some "Email is required."
    else if emailRegExp.rmatch value.toList = false then some "Invalid email address."
    else none

/-- The current year is that of `DateTime.now()`. -/
def validateBirthYear (currentYear : Nat) : Option String → Option String
  | none => none
  | some value =>
    if value = "" then none
    else if birthYearRegExp.rmatch value.toList = false then
      some "Invalid birth year format (use 4 digits)."
    else if Dart.parseDigits value = currentYear then some "Please enter a valid birth year."
    else none

def validatePassword : Option String → Option String
  | none => some "Password is required."
  | some value =>
    if value = "" then some "Password is required."
    else if Dart.length value < 6 then some "Password must be at least 6 characters long."
    else if value.toList.all (· ∉ uppercaseLetters) then
      some "Password must contain at least one uppercase letter."
    else if value.toList.all (· ∉ digits) then some "Password must contain at least one number."
    else if value.toList.all (· ∉ specialCharacters) then
      some "Password must contain at least one special character."
    else none

section Trim

variable {value : String}

/-- A text that is required may be one of white space, but not when it is trimmed. -/
theorem validateEmptyText_trim (fieldName : Option String) :
    validateEmptyText fieldName (some (Dart.trim value)) = none ↔ ¬ Dart.Blank value := by
  simp [validateEmptyText, Dart.trim_eq_empty_iff]

/-- What matches an expression without white space is not changed by trimming. -/
theorem trim_eq_self_of_rmatch {P : RegularExpression Char}
    (hP : ∀ c ∈ P.alphabet, Dart.isWhitespace c = false) (h : P.rmatch value.toList = true) :
    Dart.trim value = value := by
  apply Dart.trim_eq_self
  intro c hc
  exact hP c (mem_alphabet_of_rmatch h hc)

theorem trim_of_validateEmail (h : validateEmail (some value) = none) :
    Dart.trim value = value := by
  have halphabet : ∀ c ∈ emailRegExp.alphabet, Dart.isWhitespace c = false :=
    Dart.not_isWhitespace_of_all (by decide +kernel)
  cases hmatch : emailRegExp.rmatch value.toList with
  | true => exact trim_eq_self_of_rmatch halphabet hmatch
  | false =>
    rw [validateEmail, hmatch] at h
    split at h <;> simp at h

theorem trim_of_validateBirthYear {currentYear : Nat}
    (h : validateBirthYear currentYear (some value) = none) : Dart.trim value = value := by
  have halphabet : ∀ c ∈ birthYearRegExp.alphabet, Dart.isWhitespace c = false :=
    Dart.not_isWhitespace_of_all (by decide +kernel)
  by_cases hempty : value = ""
  · rw [hempty]
    rfl
  cases hmatch : birthYearRegExp.rmatch value.toList with
  | true => exact trim_eq_self_of_rmatch halphabet hmatch
  | false =>
    rw [validateBirthYear, if_neg hempty, hmatch] at h
    simp at h

/-- What a password needs. -/
theorem validatePassword_eq_none : validatePassword (some value) = none ↔
    6 ≤ Dart.length value ∧ (∃ c ∈ value.toList, c ∈ uppercaseLetters) ∧
      (∃ c ∈ value.toList, c ∈ digits) ∧ ∃ c ∈ value.toList, c ∈ specialCharacters := by
  have hnone (cs : List Char) :
      (value.toList.all fun c => decide (c ∉ cs)) = true ↔ ¬ ∃ c ∈ value.toList, c ∈ cs := by
    simp
  rw [validatePassword]
  by_cases hempty : value = ""
  · simp [hempty, Dart.length]
  by_cases hlength : Dart.length value < 6
  · simp [hempty, hlength]
  rw [if_neg hempty, if_neg hlength]
  simp only [hnone]
  by_cases hupper : ∃ c ∈ value.toList, c ∈ uppercaseLetters
  · by_cases hdigit : ∃ c ∈ value.toList, c ∈ digits
    · by_cases hspecial : ∃ c ∈ value.toList, c ∈ specialCharacters
      · simp [hupper, hdigit, hspecial, Nat.not_lt.mp hlength]
      · simp [hupper, hdigit, hspecial]
    · simp [hupper, hdigit]
  · simp [hupper]

/-- Of an accepted password trimming can only take away the length. -/
theorem validatePassword_trim (h : validatePassword (some value) = none) :
    validatePassword (some (Dart.trim value)) = none ↔ 6 ≤ Dart.length (Dart.trim value) := by
  have hkept {cs : List Char} (hcs : (cs.all fun c => !Dart.isWhitespace c) = true)
      (hsome : ∃ c ∈ value.toList, c ∈ cs) : ∃ c ∈ (Dart.trim value).toList, c ∈ cs := by
    obtain ⟨c, hc, hmem⟩ := hsome
    exact ⟨c, (Dart.mem_trim (Dart.not_isWhitespace_of_all hcs c hmem)).mpr hc, hmem⟩
  obtain ⟨-, hupper, hdigit, hspecial⟩ := validatePassword_eq_none.mp h
  rw [validatePassword_eq_none]
  constructor
  · intro htrim
    exact htrim.1
  · intro hlength
    exact ⟨hlength, hkept (by decide +kernel) hupper, hkept (by decide +kernel) hdigit,
      hkept (by decide +kernel) hspecial⟩

end Trim

end MAppValidator

end AroundMuseo

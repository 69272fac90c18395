import Mathlib.Data.List.DropRight

/-!
# Usernames and their safe form (users/models.rs:71–162)

`Username<T>` holds a display name. Its checker `T` (`Ascii` or `Unicode`) is a phantom type
that only `from_str` consults. `safe_name` lowercases the ASCII letters and writes `_` for
each space. Spec §4.1 calls the registry's `Username` query a safe-form string; the
registry itself is not in src, and the model of it (`UserStore`) keys that index by the
stored username, as `session_is_target` compares it. On a name already in safe form the
two keys agree, which is what `safe_name_normal_form` gives for every result of
`safe_name`.

- `safeName_data`: the safe form maps each character on its own (`safeChar`).
- `safeChar_isUpper`, `safeChar_ne_space`, `safeChar_safeChar`: the character it maps to is
  no ASCII capital and no space, and maps to itself.
- **`safe_name_normal_form`**: for every string and either checker, the safe form is a fixed
  point of `safe_name`, has no ASCII uppercase letter and no space, and has as many
  characters as the name.
- `fromStr_eq_ok`: `from_str` accepts what its checker accepts and stores the trimmed text.
- `trim_trim`, `mem_trim`: trimming is idempotent and keeps only characters of its input.
- **`username_from_str_round_trip`**: a stored name is trimmed, and `from_str` of it gives
  back the same name under the same checker.
-/

namespace Peace

/-- The checkers a `Username` is typed by (models.rs:71–96). -/
inductive Checker where
  | ascii
  | unicode
  deriving DecidableEq, Repr

/-- `UsernameError`. -/
structure UsernameError where
  deriving DecidableEq, Repr

/-- `Checker::check`: `Ascii` accepts an ASCII string, `Unicode` every string. -/
def Checker.check : Checker → String → Except UsernameError Unit
  | .ascii, s => if s.data.all (·.toNat < 128) then .ok () else .error ⟨⟩
  | .unicode, _ => .ok ()

/-- `UsernameSafe` (models.rs:98–99). -/
structure UsernameSafe where
  val : String
  deriving DecidableEq, Repr

/-- `Username<T>` (models.rs:140–141), the name for the checker `t`. -/
structure Username (t : Checker) where
  val : String
  deriving DecidableEq, Repr

namespace Users

/-- `char::is_whitespace`: the Unicode `White_Space` characters. -/
def isWhitespace (c : Char) : Bool :=
  let n := c.toNat
  (9 ≤ n ∧ n ≤ 13) ∨ n = 0x20 ∨ n = 0x85 ∨ n = 0xA0 ∨ n = 0x1680 ∨ (0x2000 ≤ n ∧ n ≤ 0x200A) ∨
    n = 0x2028 ∨ n = 0x2029 ∨ n = 0x202F ∨ n = 0x205F ∨ n = 0x3000

/-- `str::trim`: without the white space at either end. -/
def trim (s : String) : String :=
  ⟨((s.data.dropWhile isWhitespace).reverse.dropWhile isWhitespace).reverse⟩

/-- `str::to_ascii_lowercase`: `Char.toLower` changes exactly `A`–`Z`. -/
def toAsciiLowercase (s : String) : String := ⟨s.data.map Char.toLower⟩

/-- `str::replace` of a character by a string. -/
def replaceChar (s : String) (p : Char) (r : String) : String :=
  ⟨s.data.flatMap fun c => if c = p then r.data else [c]⟩

/-! ## Trimming -/

theorem trim_data (s : String) :
    (trim s).data = (s.data.dropWhile isWhitespace).rdropWhile isWhitespace := rfl

/-- Text without white space is its own trimmed form. -/
theorem trim_of_not_whitespace {s : String} (h : ∀ c ∈ s.data, isWhitespace c = false) :
    trim s = s := by
  have hd : ∀ l : List Char, (∀ c ∈ l, isWhitespace c = false) → l.dropWhile isWhitespace = l
    | [], _ => rfl
    | c :: _, h => by simp [List.dropWhile_cons, h c (List.mem_cons_self _ _)]
  refine String.ext ?_
  rw [trim_data, hd _ h, List.rdropWhile, hd _ fun c hc => h c (List.mem_reverse.mp hc),
    List.reverse_reverse]

/-- A prefix of a text that starts with no white space starts with none either. -/
theorem dropWhile_eq_self_of_prefix {l₁ l₂ : List Char} (hp : l₁ <+: l₂)
    (h : l₂.dropWhile isWhitespace = l₂) : l₁.dropWhile isWhitespace = l₁ := by
  obtain ⟨t, rfl⟩ := hp
  cases l₁ with
  | nil => rfl
  | cons c l₁ =>
    have hc : isWhitespace c = false := by
      simpa using List.dropWhile_eq_self_iff.mp h (by simp)
    simp [List.dropWhile_cons, hc]

theorem trim_trim (s : String) : trim (trim s) = trim s := by
  refine String.ext ?_
  have hd := List.dropWhile_idempotent isWhitespace s.data
  rw [trim_data, trim_data,
    dropWhile_eq_self_of_prefix (List.rdropWhile_prefix _ _) hd, List.rdropWhile_idempotent]

/-- Trimming keeps only characters of its input. -/
theorem mem_trim {s : String} {c : Char} (h : c ∈ (trim s).data) : c ∈ s.data :=
  (List.dropWhile_suffix _).subset ((List.rdropWhile_prefix _ _).subset h)

end Users

open Users

namespace Username

variable {t : Checker}

/-- `Username::from_str` (models.rs:152–156). -/
def fromStr (t : Checker) (s : String) : Except UsernameError (Username t) :=
  match t.check s with
  | .error e => .error e
  | .ok () => .ok ⟨trim s⟩

/-- `Username::safe_name` (models.rs:158–161). -/
def safeName (u : Username t) : UsernameSafe :=
  ⟨replaceChar (toAsciiLowercase u.val) ' ' "_"⟩

theorem fromStr_eq_ok (s : String) (u : Username t) :
    fromStr t s = .ok u ↔ (t = .ascii → ∀ c ∈ s.data, c.toNat < 128) ∧ u.val = trim s := by
  have hmk : (Except.ok ⟨trim s⟩ : Except UsernameError (Username t)) = .ok u ↔ u.val = trim s :=
    ⟨fun h => by cases h; rfl, fun h => by cases u; cases h; rfl⟩
  cases t with
  | unicode => simpa [fromStr, Checker.check] using hmk
  | ascii =>
    simp only [fromStr, Checker.check, true_implies]
    by_cases h : ∀ c ∈ s.data, c.toNat < 128
    · rw [if_pos (List.all_eq_true.mpr fun c hc => decide_eq_true (h c hc))]
      simp only [and_iff_right h]; exact hmk
    · rw [if_neg fun ha => h fun c hc => of_decide_eq_true (List.all_eq_true.mp ha c hc)]
      simp [h]

/-! ## One character -/

theorem isUpper_iff (c : Char) : c.isUpper = true ↔ 65 ≤ c.toNat ∧ c.toNat ≤ 90 := by
  simp [Char.isUpper, Char.toNat, UInt32.le_def, BitVec.le_def, UInt32.toNat]

theorem toNat_ofNat_of_lt {n : Nat} (h : n < 0xd800) : (Char.ofNat n).toNat = n := by
  rw [Char.ofNat, dif_pos (Or.inl h)]; rfl

theorem toLower_isUpper (c : Char) : c.toLower.isUpper = false := by
  rw [Bool.eq_false_iff, ne_eq, isUpper_iff, Char.toLower]
  split
  · rw [toNat_ofNat_of_lt (by omega)]; omega
  · omega

theorem toLower_of_isUpper_eq_false {c : Char} (h : c.isUpper = false) : c.toLower = c := by
  rw [Char.toLower, if_neg]
  rw [← isUpper_iff, h]; simp

/-- What `safe_name` makes of one character. -/
def safeChar (c : Char) : Char := if c.toLower = ' ' then '_' else c.toLower

theorem safeChar_isUpper (c : Char) : (safeChar c).isUpper = false := by
  unfold safeChar; split
  · rfl
  · exact toLower_isUpper c

theorem safeChar_ne_space (c : Char) : safeChar c ≠ ' ' := by
  unfold safeChar; split
  · decide
  · assumption

theorem safeChar_safeChar (c : Char) : safeChar (safeChar c) = safeChar c := by
  rw [safeChar, toLower_of_isUpper_eq_false (safeChar_isUpper c), if_neg (safeChar_ne_space c)]

theorem safeName_data (u : Username t) : u.safeName.val.data = u.val.data.map safeChar := by
  obtain ⟨⟨cs⟩⟩ := u
  simp only [safeName, replaceChar, toAsciiLowercase]
  induction cs with
  | nil => rfl
  | cons c cs ih =>
    simp only [List.map_cons, List.flatMap_cons, ih, safeChar]
    split <;> rfl

/-! ## The safe form -/

/-- **The safe form is a normal form.** For every string `s` and any checkers, the safe
form of `Username(s)` is its own safe form, holds no ASCII capital and no space, and has as
many characters as `s`. -/
theorem safe_name_normal_form (t t' : Checker) (s : String) :
    let safe := (mk s : Username t).safeName.val
    (mk safe : Username t').safeName.val = safe ∧
      (∀ c ∈ safe.data, c.isUpper = false ∧ c ≠ ' ') ∧ safe.length = s.length := by
  intro safe
  have hsafe : safe.data = s.data.map safeChar := safeName_data _
  refine ⟨String.ext ?_, fun c hc => ?_, ?_⟩
  · rw [safeName_data, hsafe, List.map_map]
    exact List.map_congr_left fun c _ => by rw [Function.comp_apply, safeChar_safeChar]
  · obtain ⟨c, -, rfl⟩ := List.mem_map.mp (hsafe ▸ hc)
    exact ⟨safeChar_isUpper c, safeChar_ne_space c⟩
  · show safe.data.length = s.data.length
    rw [hsafe, List.length_map]

example : (mk "Peace Bot" : Username .unicode).safeName = ⟨"peace_bot"⟩ := by decide

/-! ## Parsing back -/

/-- **A stored name parses back to itself.** What `from_str` stores is trimmed, and
`from_str` of it, under the same checker, gives back the same name: the ASCII check passes
again, since trimming keeps only characters of the input. -/
theorem username_from_str_round_trip (t : Checker) (s : String) (u : Username t)
    (h : fromStr t s = .ok u) : trim u.val = u.val ∧ fromStr t u.val = .ok u := by
  obtain ⟨hascii, hv⟩ := (fromStr_eq_ok s u).mp h
  have htrim : trim u.val = u.val := by rw [hv, trim_trim]
  exact ⟨htrim, (fromStr_eq_ok _ u).mpr
    ⟨fun ht c hc => hascii ht c (mem_trim (hv ▸ hc)), htrim.symm⟩⟩

theorem username_from_str_round_trip_padded :
    fromStr .ascii " Peace Bot\t" = .ok (⟨"Peace Bot"⟩ : Username .ascii) ∧
      trim "Peace Bot" = "Peace Bot" ∧
      fromStr .ascii "Peace Bot" = .ok (⟨"Peace Bot"⟩ : Username .ascii) :=
  have h : fromStr .ascii " Peace Bot\t" = .ok (⟨"Peace Bot"⟩ : Username .ascii) := by rfl
  ⟨h, username_from_str_round_trip .ascii _ _ h⟩

end Username

end Peace

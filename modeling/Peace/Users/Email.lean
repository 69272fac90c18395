import Mathlib.Data.List.Forall2
import Peace.Users.Username

/-!
# E-mail addresses (users/models.rs:19–40)

`Email::from_str` trims its input, lowercases the ASCII letters and accepts the result when
it matches `Email::regex`, `^[^@\s]{1,200}@[^@\s\.]{1,30}\.[^@\.\s]{2,24}$`.

The regular expression is data: a list of `Piece`s, each a literal character or a negated
class under a bounded repetition. `fullMatch` is what `Regex::is_match` computes for such a
pattern between `^` and `$`. `\s` is Unicode white space, the same set `str::trim` strips.

- `fullMatch_cons`, `fullMatch_iff`: the pieces match a text exactly when the text cuts into
  one chunk per piece, each chunk matched by its own piece.
- `regex_iff`: an address is a local part, `@`, a domain, `.` and a top-level domain, of
  the lengths the pattern bounds. None of the three parts holds white space or `@`, and the
  last two hold no dot.
- **`email_from_str_normal_form`**: `from_str` stores the trimmed, lowercased input. That
  text holds no white space and no ASCII capital, has one `@` and 6 to 256 characters, and
  `from_str` of it gives back the same `Email`.
- **`email_from_str_canonical`**: `from_str` sees neither the ASCII case of its input nor
  white space around it.
-/

namespace Peace

/-- One piece of an anchored regular expression: a literal character, or a negated class
`[^…]` repeated `{lo,hi}` times, where `excluded c` says that `c` stands in the brackets. -/
inductive Piece where
  | lit (c : Char)
  | rep (excluded : Char → Bool) (lo hi : Nat)

namespace Piece

/-- The chunks of text one piece matches. -/
def Matches : Piece → List Char → Prop
  | lit c, w => w = [c]
  | rep excluded lo hi, w => lo ≤ w.length ∧ w.length ≤ hi ∧ ∀ c ∈ w, excluded c = false

end Piece

/-- `Regex::is_match` for `^p₁p₂…pₙ$`: whether the pieces match the whole text, a
repetition trying each of its counts. -/
def fullMatch : List Piece → List Char → Bool
  | [], w => w.isEmpty
  | .lit _ :: _, [] => false
  | .lit c :: ps, d :: w => d == c && fullMatch ps w
  | .rep excluded lo hi :: ps, w =>
    (List.range (hi + 1)).any fun n =>
      lo ≤ n && n ≤ w.length && (w.take n).all (fun c => !excluded c) && fullMatch ps (w.drop n)

theorem fullMatch_nil (w : List Char) : fullMatch [] w = true ↔ w = [] := by
  simp [fullMatch]

theorem fullMatch_lit (c : Char) (ps : List Piece) (w : List Char) :
    fullMatch (.lit c :: ps) w = true ↔ ∃ v, w = c :: v ∧ fullMatch ps v = true := by
  cases w <;> simp [fullMatch, and_assoc]

theorem fullMatch_rep (excluded : Char → Bool) (lo hi : Nat) (ps : List Piece)
    (w : List Char) :
    fullMatch (.rep excluded lo hi :: ps) w = true ↔
      ∃ u v, w = u ++ v ∧ (Piece.rep excluded lo hi).Matches u ∧ fullMatch ps v = true := by
  simp only [fullMatch, List.any_eq_true, List.mem_range, Bool.and_eq_true, decide_eq_true_eq,
    List.all_eq_true, Bool.not_eq_true', Piece.Matches]
  constructor
  · rintro ⟨n, hhi, ⟨⟨hlo, hn⟩, hall⟩, hm⟩
    have hlen : (w.take n).length = n := by rw [List.length_take]; omega
    exact ⟨w.take n, w.drop n, (List.take_append_drop n w).symm, ⟨by omega, by omega, hall⟩, hm⟩
  · rintro ⟨u, v, rfl, ⟨hlo, hhi, hall⟩, hm⟩
    refine ⟨u.length, by omega, ⟨⟨hlo, by simp⟩, ?_⟩, ?_⟩
    · rwa [List.take_left' rfl]
    · rwa [List.drop_left' rfl]

/-- The first piece matches a first chunk of the text and the other pieces the rest. -/
theorem fullMatch_cons (p : Piece) (ps : List Piece) (w : List Char) :
    fullMatch (p :: ps) w = true ↔ ∃ u v, w = u ++ v ∧ p.Matches u ∧ fullMatch ps v = true := by
  cases p with
  | lit c =>
    rw [fullMatch_lit]
    exact ⟨fun ⟨v, hw, hm⟩ => ⟨[c], v, hw, rfl, hm⟩,
      fun ⟨_, v, hw, hu, hm⟩ => ⟨v, by rw [hw, hu]; rfl, hm⟩⟩
  | rep excluded lo hi => exact fullMatch_rep excluded lo hi ps w

/-- **The matcher is the pattern's meaning.** The pieces match a text exactly when the text
cuts into one chunk per piece, each matched by its own piece. -/
theorem fullMatch_iff : ∀ (ps : List Piece) (w : List Char),
    fullMatch ps w = true ↔ ∃ ws, List.Forall₂ Piece.Matches ps ws ∧ w = ws.flatten
  | [], w => by simp [fullMatch_nil]
  | p :: ps, w => by
    simp only [fullMatch_cons, fullMatch_iff ps, List.forall₂_cons_left_iff]
    constructor
    · rintro ⟨u, v, rfl, hu, ws, hws, rfl⟩
      exact ⟨u :: ws, ⟨u, ws, hu, hws, rfl⟩, rfl⟩
    · rintro ⟨_, ⟨u, ws, hu, hws, rfl⟩, rfl⟩
      exact ⟨u, ws.flatten, rfl, hu, ws, hws, rfl⟩

open Users

/-- A negated class `[^…\s]`: white space and the listed characters stand in the brackets. -/
def excludes (chars : List Char) (c : Char) : Bool := isWhitespace c || chars.contains c

/-- `EmailError`. -/
structure EmailError where
  deriving DecidableEq, Repr

/-- `Email` (models.rs:19–20). -/
structure Email where
  val : String
  deriving DecidableEq, Repr

namespace Email

/-- `Email::regex` (models.rs:23–29), `^[^@\s]{1,200}@[^@\s\.]{1,30}\.[^@\.\s]{2,24}$`. -/
def regex : List Piece :=
  [.rep (excludes ['@']) 1 200, .lit '@', .rep (excludes ['@', '.']) 1 30, .lit '.',
    .rep (excludes ['@', '.']) 2 24]

/-- `Email::from_str` (models.rs:31–39). -/
def fromStr (s : String) : Except EmailError Email :=
  let s := toAsciiLowercase (trim s)
  if fullMatch regex s.data then .ok ⟨s⟩ else .error ⟨⟩

/-- The texts `Email::regex` matches: a local part, `@`, a domain, `.` and a top-level
domain. -/
theorem regex_iff (w : List Char) :
    fullMatch regex w = true ↔ ∃ loc dom tld, w = loc ++ '@' :: (dom ++ '.' :: tld) ∧
      (1 ≤ loc.length ∧ loc.length ≤ 200 ∧ ∀ c ∈ loc, excludes ['@'] c = false) ∧
      (1 ≤ dom.length ∧ dom.length ≤ 30 ∧ ∀ c ∈ dom, excludes ['@', '.'] c = false) ∧
      (2 ≤ tld.length ∧ tld.length ≤ 24 ∧ ∀ c ∈ tld, excludes ['@', '.'] c = false) := by
  simp only [regex, fullMatch_rep, fullMatch_lit, fullMatch_nil, Piece.Matches]
  constructor
  · rintro ⟨loc, _, rfl, hl, _, rfl, dom, _, rfl, hd, _, rfl, tld, _, rfl, ht, rfl⟩
    exact ⟨loc, dom, tld, by simp, hl, hd, ht⟩
  · rintro ⟨loc, dom, tld, rfl, hl, hd, ht⟩
    exact ⟨loc, _, rfl, hl, _, rfl, dom, _, rfl, hd, _, rfl, tld, [], (List.append_nil _).symm,
      ht, rfl⟩

theorem fromStr_eq_ok (s : String) (e : Email) :
    fromStr s = .ok e ↔
      e.val = toAsciiLowercase (trim s) ∧ fullMatch regex (toAsciiLowercase (trim s)).data := by
  dsimp only [fromStr]
  split
  · exact ⟨fun h => (by cases h; exact ⟨rfl, ‹_›⟩), fun ⟨h, _⟩ => (by cases e; cases h; rfl)⟩
  · exact ⟨fun h => (nomatch h), fun ⟨_, h⟩ => absurd h ‹_›⟩

end Email

/-! ## What an accepted address looks like -/

theorem excludes_eq_false {chars : List Char} {c : Char} (h : excludes chars c = false) :
    isWhitespace c = false ∧ c ∉ chars := by
  simpa [excludes] using h

namespace Email

/-- Every character of an accepted address is no white space. -/
theorem not_whitespace_of_regex {w : List Char} (h : fullMatch regex w = true) :
    ∀ c ∈ w, isWhitespace c = false := by
  obtain ⟨loc, dom, tld, rfl, hl, hd, ht⟩ := (regex_iff w).mp h
  intro c hc
  simp only [List.mem_append, List.mem_cons] at hc
  rcases hc with hc | rfl | hc | rfl | hc
  · exact (excludes_eq_false (hl.2.2 c hc)).1
  · rfl
  · exact (excludes_eq_false (hd.2.2 c hc)).1
  · rfl
  · exact (excludes_eq_false (ht.2.2 c hc)).1

/-- An accepted address holds one `@` and has 6 to 256 characters. -/
theorem count_at_length_of_regex {w : List Char} (h : fullMatch regex w = true) :
    w.count '@' = 1 ∧ 6 ≤ w.length ∧ w.length ≤ 256 := by
  obtain ⟨loc, dom, tld, rfl, hl, hd, ht⟩ := (regex_iff w).mp h
  have hloc : loc.count '@' = 0 :=
    List.count_eq_zero.mpr fun hm => by simpa using (excludes_eq_false (hl.2.2 _ hm)).2
  have hdom : dom.count '@' = 0 :=
    List.count_eq_zero.mpr fun hm => by simpa using (excludes_eq_false (hd.2.2 _ hm)).2
  have htld : tld.count '@' = 0 :=
    List.count_eq_zero.mpr fun hm => by simpa using (excludes_eq_false (ht.2.2 _ hm)).2
  simp only [List.count_append, List.count_cons, hloc, hdom, htld, List.length_append,
    List.length_cons, beq_self_eq_true, if_true]
  refine ⟨by decide, by omega, by omega⟩

end Email

/-! ## The canonical form -/

namespace Users

theorem isWhitespace_toLower (c : Char) : isWhitespace c.toLower = isWhitespace c := by
  dsimp only [Char.toLower]
  split
  · rename_i h
    simp only [isWhitespace, Username.toNat_ofNat_of_lt (show c.toNat + 32 < 0xd800 by omega),
      decide_eq_decide]
    omega
  · rfl

theorem trim_toAsciiLowercase (s : String) :
    trim (toAsciiLowercase s) = toAsciiLowercase (trim s) := by
  have hp : (isWhitespace ∘ Char.toLower) = isWhitespace := funext isWhitespace_toLower
  refine String.ext ?_
  simp only [trim_data, toAsciiLowercase, List.rdropWhile, List.dropWhile_map, hp,
    ← List.map_reverse]

theorem toAsciiLowercase_toAsciiLowercase (s : String) :
    toAsciiLowercase (toAsciiLowercase s) = toAsciiLowercase s := by
  refine String.ext ?_
  simp only [toAsciiLowercase, List.map_map]
  exact List.map_congr_left fun c _ =>
    Username.toLower_of_isUpper_eq_false (Username.toLower_isUpper c)

/-- Text with no ASCII capital is its own lowercase form. -/
theorem toAsciiLowercase_of_not_isUpper {s : String} (h : ∀ c ∈ s.data, c.isUpper = false) :
    toAsciiLowercase s = s := by
  refine String.ext ?_
  simp only [toAsciiLowercase]
  exact (List.map_congr_left fun c hc => Username.toLower_of_isUpper_eq_false (h c hc)).trans
    (List.map_id _)

end Users

namespace Email

/-- **The stored form of an address.** What `from_str` accepts is stored trimmed and
lowercased. That text holds no white space and no ASCII capital, has one `@` and 6 to 256
characters, and `from_str` of it gives back the same `Email`. -/
theorem email_from_str_normal_form (s : String) (e : Email) (h : fromStr s = .ok e) :
    e.val = toAsciiLowercase (trim s) ∧
      (∀ c ∈ e.val.data, c.isUpper = false ∧ isWhitespace c = false) ∧
      e.val.data.count '@' = 1 ∧ 6 ≤ e.val.length ∧ e.val.length ≤ 256 ∧
      fromStr e.val = .ok e := by
  obtain ⟨hv, hm⟩ := (fromStr_eq_ok s e).mp h
  rw [← hv] at hm
  have hupper : ∀ c ∈ e.val.data, c.isUpper = false := by
    rw [hv]
    intro c hc
    obtain ⟨d, -, rfl⟩ := List.mem_map.mp hc
    exact Username.toLower_isUpper d
  have hws := not_whitespace_of_regex hm
  obtain ⟨hat, hlo, hhi⟩ := count_at_length_of_regex hm
  refine ⟨hv, fun c hc => ⟨hupper c hc, hws c hc⟩, hat, hlo, hhi, ?_⟩
  rw [fromStr_eq_ok, trim_of_not_whitespace hws, toAsciiLowercase_of_not_isUpper hupper]
  exact ⟨rfl, hm⟩

theorem email_from_str_normal_form_padded :
    fromStr " Peace@Example.COM\t" = .ok ⟨"peace@example.com"⟩ ∧
      ((∀ c ∈ "peace@example.com".data, c.isUpper = false ∧ isWhitespace c = false) ∧
        "peace@example.com".data.count '@' = 1 ∧ 6 ≤ "peace@example.com".length ∧
        "peace@example.com".length ≤ 256 ∧
        fromStr "peace@example.com" = .ok ⟨"peace@example.com"⟩) :=
  have h : fromStr " Peace@Example.COM\t" = .ok ⟨"peace@example.com"⟩ := by rfl
  ⟨h, (email_from_str_normal_form _ _ h).2⟩

/-- **`from_str` is blind to case and padding.** Lowercasing the ASCII letters of the input
or trimming it first changes nothing. -/
theorem email_from_str_canonical (s : String) :
    fromStr (toAsciiLowercase s) = fromStr s ∧ fromStr (trim s) = fromStr s := by
  constructor
  · simp only [fromStr, trim_toAsciiLowercase, toAsciiLowercase_toAsciiLowercase]
  · simp only [fromStr, trim_trim]

end Email

end Peace

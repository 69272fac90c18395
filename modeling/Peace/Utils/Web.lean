import Peace.Packet

/-!
# Multipart forms and the submit token check (peace-utils web.rs:15–140)

`get_mutipart_data` and `simple_get_form_data` read an `ntex_multipart::Multipart` stream,
and `osu_sumit_token_checker` checks the `Token` header of a score submission.

A stream is modelled as the list of its fields, and a field's body as the list of its
chunks. Both loops are `while let Some(Ok(..))`, which stops at an error just as at the end
of the stream, so a stream that yields an error reads as the list before the error.
`crate::common::ContentDisposition` is not in src, and the two functions read the header
with two of its functions: `get_mutipart_data` with `ContentDisposition::parse` and its
`name` and `filename`, `simple_get_form_data` with `ContentDisposition::get_name`. A field
carries what each of them gives, and `none` stands for each failure `unwrap_or_continue!`
skips (no header, a header that is not visible ASCII, one they do not read). `serde_qs::from_str` is a parameter. `HashMap`s are
functions from keys. `String::from_utf8` is `fromUtf8`, the strict decoder of the Unicode
standard's Table 3-7.

- **`get_mutipart_data_last_chunk`**: `files[k]` is the last chunk of the file fields named
  `k`, and `forms[k]` the decoding of the last chunk of the other fields named `k`; every
  earlier chunk is overwritten.
- `simpleFormQuery_eq`: the query string is the `key=value` pairs of every chunk, joined by
  `&`, unescaped. So **`simple_form_query_ambiguous`**: two streams of distinct text fields
  give one query string, and no decoder can answer both.
- **`token_checker_outcomes`**: with the warn level enabled (the default), the token check
  panics exactly on a visible-ASCII value without `|`, because its warning reads
  `token[1]`; at every level it is true exactly on a visible-ASCII value of two parts with
  the lengths it checks.
-/

namespace Peace

namespace Web

/-! ## `String::from_utf8` -/

/-- The sequence length a first byte starts, with the range of the byte after it
(Table 3-7); `none` for a byte no sequence starts with. -/
def utf8Lead (b : Nat) : Option (Nat × Nat × Nat) :=
  if 0xC2 ≤ b ∧ b ≤ 0xDF then some (2, 0x80, 0xBF)
  else if b = 0xE0 then some (3, 0xA0, 0xBF)
  else if 0xE1 ≤ b ∧ b ≤ 0xEC ∨ 0xEE ≤ b ∧ b ≤ 0xEF then some (3, 0x80, 0xBF)
  else if b = 0xED then some (3, 0x80, 0x9F)
  else if b = 0xF0 then some (4, 0x90, 0xBF)
  else if 0xF1 ≤ b ∧ b ≤ 0xF3 then some (4, 0x80, 0xBF)
  else if b = 0xF4 then some (4, 0x80, 0x8F)
  else none

/-- A continuation byte, `10xxxxxx`. -/
def isCont (b : UInt8) : Bool := 0x80 ≤ b.toNat ∧ b.toNat ≤ 0xBF

/-- The characters of well-formed UTF-8 bytes, or `none`. -/
def fromUtf8Chars : Bytes → Option (List Char)
  | [] => some []
  | b0 :: bs =>
    if b0.toNat < 0x80 then (fromUtf8Chars bs).map (Char.ofNat b0.toNat :: ·)
    else match utf8Lead b0.toNat, bs with
      | some (2, lo, hi), b1 :: bs =>
        if lo ≤ b1.toNat ∧ b1.toNat ≤ hi then
          (fromUtf8Chars bs).map (Char.ofNat (b0.toNat % 0x20 * 0x40 + b1.toNat % 0x40) :: ·)
        else none
      | some (3, lo, hi), b1 :: b2 :: bs =>
        if lo ≤ b1.toNat ∧ b1.toNat ≤ hi ∧ isCont b2 then
          (fromUtf8Chars bs).map (Char.ofNat
            ((b0.toNat % 0x10 * 0x40 + b1.toNat % 0x40) * 0x40 + b2.toNat % 0x40) :: ·)
        else none
      | some (4, lo, hi), b1 :: b2 :: b3 :: bs =>
        if lo ≤ b1.toNat ∧ b1.toNat ≤ hi ∧ isCont b2 ∧ isCont b3 then
          (fromUtf8Chars bs).map (Char.ofNat
            (((b0.toNat % 0x08 * 0x40 + b1.toNat % 0x40) * 0x40 + b2.toNat % 0x40) * 0x40 +
              b3.toNat % 0x40) :: ·)
        else none
      | _, _ => none

/-- `String::from_utf8`. -/
def fromUtf8 (bytes : Bytes) : Option String := (fromUtf8Chars bytes).map String.mk

/-- `é` split between two chunks: neither half decodes. -/
example : fromUtf8 [0xC3, 0xA9] = some "é" ∧ fromUtf8 [0xC3] = none ∧ fromUtf8 [0xA9] = none :=
  by decide

/-! ## Multipart streams -/

/-- Modelled from the multipart standard: the `name` and `filename` parameters of a parsed
Content-Disposition header. -/
structure ContentDisposition where
  name : Option String
  filename : Option String
  deriving DecidableEq, Repr

/-- One field of a stream: its Content-Disposition header as `ContentDisposition::parse`
reads it, the name `ContentDisposition::get_name` reads from it (`none` where either
skips the field before its body), and its body chunks. -/
structure MultipartField where
  disposition : Option ContentDisposition
  getName : Option String
  chunks : List Bytes
  deriving DecidableEq, Repr

/-- `insert` on a `HashMap`. -/
def insert {α : Type} (k : String) (v : α) (m : String → Option α) : String → Option α :=
  fun k' => if k' = k then some v else m k'

/-- `MultipartData` (web.rs:15–19). -/
structure MultipartData where
  forms : String → Option String
  files : String → Option Bytes

/-- One chunk of the field named `key` (web.rs:49–57): a file field's chunk is stored as it
is, another field's as its decoding, or `""` when it does not decode. -/
def storeChunk (key : String) (hasFilename : Bool) (acc : MultipartData) (chunk : Bytes) :
    MultipartData :=
  if hasFilename then { acc with files := insert key chunk acc.files }
  else { acc with forms := insert key ((fromUtf8 chunk).getD "") acc.forms }

/-- One field of `get_mutipart_data` (web.rs:43–58). -/
def storeField (acc : MultipartData) (field : MultipartField) : MultipartData :=
  match field.disposition with
  | none => acc
  | some dis => match dis.name with
    | none => acc
    | some key => field.chunks.foldl (storeChunk key dis.filename.isSome) acc

/-- `get_mutipart_data` (web.rs:37–61). -/
def getMutipartData (stream : List MultipartField) : MultipartData :=
  stream.foldl storeField ⟨fun _ => none, fun _ => none⟩

/-- Whether a field is named `k`, with (`file`) or without a filename. -/
def MultipartField.isNamed (k : String) (file : Bool) (field : MultipartField) : Bool :=
  match field.disposition with
  | some ⟨some key, filename⟩ => key = k && filename.isSome == file
  | _ => false

/-- Every chunk of the fields named `k`, with or without a filename, in stream order. -/
def namedChunks (k : String) (file : Bool) (stream : List MultipartField) : List Bytes :=
  (stream.filter (·.isNamed k file)).flatMap (·.chunks)

theorem storeChunk_files (key k : String) (file : Bool) (acc : MultipartData) (c : Bytes) :
    (storeChunk key file acc c).files k = if key = k ∧ file then some c else acc.files k := by
  cases file <;> simp [storeChunk, insert, eq_comm]

theorem storeChunk_forms (key k : String) (file : Bool) (acc : MultipartData) (c : Bytes) :
    (storeChunk key file acc c).forms k =
      if key = k ∧ !file then some ((fromUtf8 c).getD "") else acc.forms k := by
  cases file <;> simp [storeChunk, insert, eq_comm]

theorem storeChunks_files (key k : String) (file : Bool) (acc : MultipartData)
    (chunks : List Bytes) :
    (chunks.foldl (storeChunk key file) acc).files k =
      (if key = k ∧ file then chunks.getLast? else none).or (acc.files k) := by
  induction chunks generalizing acc with
  | nil => by_cases h : key = k ∧ file <;> simp [h]
  | cons c cs ih =>
    rw [List.foldl_cons, ih, storeChunk_files, List.getLast?_cons]
    by_cases h : key = k ∧ file <;> simp only [h, if_true, if_false, Option.none_or]
    cases cs.getLast? <;> rfl

theorem storeChunks_forms (key k : String) (file : Bool) (acc : MultipartData)
    (chunks : List Bytes) :
    (chunks.foldl (storeChunk key file) acc).forms k =
      (if key = k ∧ !file then chunks.getLast?.map fun c => (fromUtf8 c).getD "" else none).or
        (acc.forms k) := by
  induction chunks generalizing acc with
  | nil => by_cases h : key = k ∧ !file <;> simp [h]
  | cons c cs ih =>
    rw [List.foldl_cons, ih, storeChunk_forms, List.getLast?_cons]
    by_cases h : key = k ∧ !file <;> simp only [h, if_true, if_false, Option.none_or]
    cases cs.getLast? <;> rfl

/-- **What `get_mutipart_data` keeps.** For every stream, `files[k]` is the last chunk of
the file fields named `k`, and `forms[k]` the decoding (or `""`) of the last chunk of the
other fields named `k`: each chunk overwrites the one before, also within one field. -/
theorem get_mutipart_data_last_chunk (stream : List MultipartField) (k : String) :
    (getMutipartData stream).files k = (namedChunks k true stream).getLast? ∧
    (getMutipartData stream).forms k =
      (namedChunks k false stream).getLast?.map fun c => (fromUtf8 c).getD "" := by
  suffices h : ∀ acc : MultipartData,
      (stream.foldl storeField acc).files k =
        (namedChunks k true stream).getLast?.or (acc.files k) ∧
      (stream.foldl storeField acc).forms k =
        ((namedChunks k false stream).getLast?.map fun c => (fromUtf8 c).getD "").or
          (acc.forms k) by
    simpa using h ⟨fun _ => none, fun _ => none⟩
  induction stream with
  | nil => simp [namedChunks]
  | cons field fs ih =>
    intro acc
    obtain ⟨hfiles, hforms⟩ := ih (storeField acc field)
    rw [List.foldl_cons, hfiles, hforms]
    match hd : field.disposition with
    | none | some ⟨none, _⟩ => simp [storeField, namedChunks, MultipartField.isNamed, hd]
    | some ⟨some key, filename⟩ =>
      simp only [storeField, hd, storeChunks_files, storeChunks_forms, namedChunks,
        List.filter_cons, MultipartField.isNamed]
      by_cases hk : key = k <;> cases filename <;>
        simp [hk, List.getLast?_append, Option.or_assoc, Option.map_or']

/-- One file field whose body comes in two chunks keeps only the second. -/
example : (getMutipartData [⟨some ⟨some "score", some "replay"⟩, some "score", [[1, 2], [3]]⟩]).files
    "score" = some [3] := by decide

/-! ## `simple_get_form_data` -/

/-- One pair of the query (web.rs:77–80): `&` first unless the query is still empty. -/
def pushPair (temp pair : String) : String :=
  (if temp.length > 0 then temp.push '&' else temp) ++ pair

/-- One field of `simple_get_form_data` (web.rs:72–81): a `key=value` pair for each chunk,
its value the chunk's decoding or `""`. -/
def pushField (temp : String) (field : MultipartField) : String :=
  match field.getName with
  | none => temp
  | some key => field.chunks.foldl (fun temp chunk =>
      pushPair temp (key ++ "=" ++ (fromUtf8 chunk).getD "")) temp

/-- The query string `simple_get_form_data` builds (web.rs:70–82). -/
def simpleFormQuery (stream : List MultipartField) : String :=
  stream.foldl pushField ""

/-- `simple_get_form_data` (web.rs:63–84), with `serde_qs::from_str` as `fromStr`. -/
def simpleGetFormData {τ ε : Type} (fromStr : String → Except ε τ)
    (stream : List MultipartField) : Except ε τ :=
  fromStr (simpleFormQuery stream)

/-- The `key=value` pairs of a field, one per chunk. -/
def fieldPairs (field : MultipartField) : List String :=
  match field.getName with
  | none => []
  | some key => field.chunks.map fun chunk => key ++ "=" ++ (fromUtf8 chunk).getD ""

theorem foldl_pushField (fields : List MultipartField) (temp : String) :
    fields.foldl pushField temp = (fields.flatMap fieldPairs).foldl pushPair temp := by
  induction fields generalizing temp with
  | nil => rfl
  | cons field fields ih =>
    rw [List.foldl_cons, ih, List.flatMap_cons, List.foldl_append]
    congr 1
    simp only [pushField, fieldPairs]
    split <;> simp [List.foldl_map]

theorem eq_empty_of_not_length_pos {s : String} (h : ¬s.length > 0) : s = "" :=
  String.ext (List.length_eq_zero.mp (Nat.eq_zero_of_not_pos h))

theorem push_amp (s : String) : s.push '&' = s ++ "&" := rfl

theorem intercalate_cons_cons (a b : String) (l : List String) :
    "&".intercalate (a :: b :: l) = "&".intercalate ((a ++ "&" ++ b) :: l) := rfl

/-- Pairs that are not empty, pushed one after another, are joined by `&`. -/
theorem foldl_pushPair : ∀ (pairs : List String) (temp : String), (∀ p ∈ pairs, 0 < p.length) →
    pairs.foldl pushPair temp = "&".intercalate (if temp.length > 0 then temp :: pairs else pairs)
  | [], temp, _ => by
    by_cases ht : temp.length > 0
    · simp [ht, String.intercalate, String.intercalate.go]
    · simp only [ht, if_false, List.foldl_nil, eq_empty_of_not_length_pos ht]; rfl
  | p :: pairs, temp, hp => by
    have hpos : 0 < (pushPair temp p).length := by
      simp only [pushPair, String.length_append]; have := hp p (.head _); omega
    rw [List.foldl_cons, foldl_pushPair pairs _ fun q hq => hp q (.tail _ hq), if_pos hpos]
    by_cases ht : temp.length > 0
    · rw [if_pos ht, intercalate_cons_cons, pushPair, if_pos ht, push_amp]
    · rw [if_neg ht, pushPair, if_neg ht, eq_empty_of_not_length_pos ht, String.empty_append]

/-- **The query string is every chunk's `key=value` pair, joined by `&`**, with nothing
escaped. -/
theorem simpleFormQuery_eq (stream : List MultipartField) :
    simpleFormQuery stream = "&".intercalate (stream.flatMap fieldPairs) := by
  have hpos : ∀ p ∈ stream.flatMap fieldPairs, 0 < p.length := by
    intro p hp
    obtain ⟨field, -, hf⟩ := List.mem_flatMap.mp hp
    simp only [fieldPairs] at hf
    split at hf
    · cases hf
    · obtain ⟨chunk, -, rfl⟩ := List.mem_map.mp hf
      have : "=".length = 1 := rfl
      simp only [String.length_append]; omega
  rw [simpleFormQuery, foldl_pushField, foldl_pushPair _ _ hpos]
  rfl

/-- A stream of text fields: each a name with its chunks, and no filename. -/
def textFields (fields : List (String × List Bytes)) : List MultipartField :=
  fields.map fun (name, chunks) => ⟨some ⟨some name, none⟩, some name, chunks⟩

/-- **No decoder reads the query back.** No `fromStr` maps the query string of every stream
of text fields with distinct names to a table whose entry at each field's name is the
decoding of all its chunks: the value `x&b=y` of `a` gives the query of the two fields
`a = x` and `b = y`. -/
theorem simple_form_query_ambiguous :
    ¬ ∃ fromStr : String → String → Option String,
      ∀ fields : List (String × List Bytes), (fields.map Prod.fst).Nodup →
        ∀ name chunks value, (name, chunks) ∈ fields → fromUtf8 chunks.flatten = some value →
          fromStr (simpleFormQuery (textFields fields)) name = some value := by
  rintro ⟨fromStr, h⟩
  have hone := h [("a", [[120, 38, 98, 61, 121]])] (by decide) "a" _ "x&b=y"
    (List.mem_singleton_self _) (by decide)
  have htwo := h [("a", [[120]]), ("b", [[121]])] (by decide) "a" _ "x"
    (List.mem_cons_self _ _) (by decide)
  have hsame : simpleFormQuery (textFields [("a", [[120, 38, 98, 61, 121]])]) =
      simpleFormQuery (textFields [("a", [[120]]), ("b", [[121]])]) := by decide
  rw [hsame, htwo] at hone
  exact absurd (Option.some.inj hone) (by decide)

/-- A value in two chunks gives two pairs of one name. -/
example : simpleFormQuery (textFields [("a", [[120], [121]])]) = "a=x&a=y" := by decide

/-! ## `osu_sumit_token_checker` -/

/-- Modelled from the http crate: a visible ASCII byte, or a tab, which `HeaderValue::to_str`
accepts. -/
def isVisibleAscii (b : UInt8) : Bool := b = 9 ∨ (32 ≤ b ∧ b < 127)

/-- `HeaderValue::to_str`: the value as text when every byte is visible ASCII. -/
def headerToStr (v : Bytes) : Option Bytes := if v.all isVisibleAscii then some v else none

/-- The check on the parts of the token (web.rs:128–136): `true` for two parts of the
lengths it wants. Otherwise `warn!` runs, and it evaluates its arguments only when the warn
level is enabled (`warnEnabled`): then it reads `token[0]` and `token[1]` and panics
(`none`) when there is no second part; else the check is `false` at once. -/
def checkParts (warnEnabled : Bool) (token : List Bytes) : Option Bool :=
  if token.length = 2 ∧ (token.getD 0 []).length > 4000 ∧ (token.getD 1 []).length = 32 then
    some true
  else if warnEnabled then (token[0]?).bind fun _ => (token[1]?).map fun _ => false
  else some false

/-- `osu_sumit_token_checker` (web.rs:123–140) on the value of the request's `Token` header,
if any. The text is split at the byte of `|`, which is its split at the character, since no
other character's UTF-8 holds that byte. The server's default `logger.level` is `info`
(settings/logger.rs:9), at which `warnEnabled` is `true`. -/
def osuSumitTokenChecker (warnEnabled : Bool) (header : Option Bytes) : Option Bool :=
  match header.bind headerToStr with
  | none => some false
  | some token => checkParts warnEnabled (token.splitOn 124)

theorem length_splitOn (a : UInt8) (l : Bytes) : (l.splitOn a).length = l.count a + 1 := by
  induction l with
  | nil => rfl
  | cons x xs ih =>
    simp only [List.splitOn, List.splitOnP_cons, List.count_cons] at ih ⊢
    split <;> simp_all [List.length_modifyHead]

theorem checkParts_eq_none (warnEnabled : Bool) (token : List Bytes) (h : 0 < token.length) :
    checkParts warnEnabled token = none ↔ warnEnabled = true ∧ token.length < 2 := by
  match token, h with
  | [_], _ => cases warnEnabled <;> simp [checkParts]
  | _ :: _ :: _, _ => cases warnEnabled <;> simp only [checkParts] <;> split <;> simp

theorem checkParts_eq_true (warnEnabled : Bool) (token : List Bytes) :
    checkParts warnEnabled token = some true ↔
      ∃ p₀ p₁, token = [p₀, p₁] ∧ 4000 < p₀.length ∧ p₁.length = 32 := by
  match token with
  | [] | [_] => cases warnEnabled <;> simp [checkParts]
  | [p, q] => exact ⟨fun h => ⟨p, q, rfl, by cases warnEnabled <;> simpa [checkParts] using h⟩,
      fun ⟨_, _, he, h⟩ => by cases he; simpa [checkParts] using h⟩
  | _ :: _ :: _ :: _ => cases warnEnabled <;> simp [checkParts]

/-- **What the token check does, for every header and logger level.** It panics exactly
when the warn level is enabled and the value is visible ASCII without `|` (its warning
reads the missing `token[1]`). It is `true` exactly on a visible-ASCII value that splits
into two parts, the first longer than 4000 bytes and the second 32 bytes long; on every
other value it is `false`. -/
theorem token_checker_outcomes (warnEnabled : Bool) (header : Option Bytes) :
    (osuSumitTokenChecker warnEnabled header = none ↔
      warnEnabled = true ∧ ∃ v, header = some v ∧ v.all isVisibleAscii ∧ 124 ∉ v) ∧
    (osuSumitTokenChecker warnEnabled header = some true ↔
      ∃ v, header = some v ∧ v.all isVisibleAscii ∧
        ∃ p₀ p₁, v.splitOn 124 = [p₀, p₁] ∧ 4000 < p₀.length ∧ p₁.length = 32) := by
  cases header with
  | none => simp [osuSumitTokenChecker]
  | some v =>
    by_cases hv : v.all isVisibleAscii
    · have htext : (some v).bind headerToStr = some v := if_pos hv
      have hpos : 0 < (v.splitOn 124).length := by rw [length_splitOn]; omega
      simp only [osuSumitTokenChecker, htext, checkParts_eq_none _ _ hpos, checkParts_eq_true,
        length_splitOn, Option.some.injEq, exists_eq_left', hv, true_and]
      refine ⟨and_congr_right fun _ => ?_, trivial⟩
      rw [← List.count_eq_zero]; omega
    · have htext : (some v).bind headerToStr = none := if_neg hv
      simp only [osuSumitTokenChecker, htext, Option.some.injEq, exists_eq_left', hv,
        Bool.false_eq_true, false_and, and_false, iff_false, Option.some_ne_none,
        not_false_eq_true, and_self]

/-- A header without `|` panics at the default level, and is `false` with warn disabled. -/
example : osuSumitTokenChecker true (some [97, 98, 99]) = none ∧
    osuSumitTokenChecker false (some [97, 98, 99]) = some false := by decide

end Web

end Peace

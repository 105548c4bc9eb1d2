import Mathlib.Data.List.TakeWhile

set_option autoImplicit false

/-! # URLs

Percent-encoding, and the part of a URL behind its host, as `net/url` of Go parses and writes it:
`parse` takes a text apart, `Url.text` writes it again and `Url.requestUri` is what a client puts into
the request line. A server reads the path of a request line with `readPath`.

Whatever a URL has gone through, the server reads the path it had after it was first parsed
(`parse_text_path`, `readPath_requestUri`): the part of the text before the first of its marks `?` and
`#`, decoded (`parse_path`).

Texts are lists of bytes. -/

namespace HnbCloud

open List Option

abbrev Bytes := List UInt8

/-- The bytes of a text of ASCII characters. -/
def ascii (s : String) : Bytes := s.toList.map fun c => UInt8.ofNat c.toNat

namespace Url

def slash : UInt8 := 47

def percent : UInt8 := 37

def question : UInt8 := 63

def hash : UInt8 := 35

/-! ## Percent-encoding -/

def hexValue (b : UInt8) : Option UInt8 :=
  if 48 ≤ b ∧ b ≤ 57 then some (b - 48)
  else if 65 ≤ b ∧ b ≤ 70 then some (b - 55)
  else if 97 ≤ b ∧ b ≤ 102 then some (b - 87)
  else none

def hexDigit (n : UInt8) : UInt8 := if n < 10 then n + 48 else n + 55

/-- Decoding; `none` if an escape is not made of two digits. -/
def unescape : Bytes → Option Bytes
  | [] => some []
  | b :: rest =>
    if b = percent then
      match rest with
      | high :: low :: rest =>
        match hexValue high, hexValue low, unescape rest with
        | some h, some l, some decoded => some ((16 * h + l) :: decoded)
        | _, _, _ => none
      | _ => none
    else (unescape rest).map (b :: ·)

/-- Encoding; the bytes that are kept as they are are given by a function. -/
def escape (keep : UInt8 → Bool) (bs : Bytes) : Bytes :=
  bs.flatMap fun b =>
    if keep b then [b] else [percent, hexDigit (b / 16), hexDigit (b % 16)]

theorem unescape_cons {b : UInt8} (h : b ≠ percent) (rest : Bytes) :
    unescape (b :: rest) = (unescape rest).map (b :: ·) := by
  rcases rest with _ | ⟨high, _ | ⟨low, rest⟩⟩
  all_goals rw [unescape.eq_def]; exact if_neg h

theorem unescape_percent (high low : UInt8) (rest : Bytes) :
    unescape (percent :: high :: low :: rest)
      = match hexValue high, hexValue low, unescape rest with
        | some h, some l, some decoded => some ((16 * h + l) :: decoded)
        | _, _, _ => none := by
  rw [unescape, if_pos rfl]

theorem hex_roundtrip (n : Fin 256) :
    hexValue (hexDigit (UInt8.ofFin n / 16)) = some (UInt8.ofFin n / 16)
      ∧ hexValue (hexDigit (UInt8.ofFin n % 16)) = some (UInt8.ofFin n % 16)
      ∧ 16 * (UInt8.ofFin n / 16) + UInt8.ofFin n % 16 = UInt8.ofFin n := by
  revert n
  decide +kernel

theorem unescape_escaped (b : UInt8) (rest : Bytes) :
    unescape (percent :: hexDigit (b / 16) :: hexDigit (b % 16) :: rest)
      = (unescape rest).map (b :: ·) := by
  obtain ⟨hhigh, hlow, hbyte⟩ := hex_roundtrip b.toFin
  simp only [UInt8.ofFin_toFin] at hhigh hlow hbyte
  rw [unescape_percent, hhigh, hlow]
  cases unescape rest with
  | none => rfl
  | some =>
    dsimp only [map_some]
    rw [hbyte]

/-- Decoding undoes encoding, if the escape byte itself is encoded. -/
theorem unescape_escape {keep : UInt8 → Bool} (hkeep : keep percent = false) (bs : Bytes) :
    unescape (escape keep bs) = some bs := by
  induction bs with
  | nil => rfl
  | cons b rest ih =>
    have hrest : unescape (escape keep (b :: rest)) = (unescape (escape keep rest)).map (b :: ·) := by
      unfold escape
      rw [flatMap_cons]
      by_cases hb : keep b = true
      · have hne : b ≠ percent := by
          rintro rfl
          rw [hkeep] at hb
          simp at hb
        rw [if_pos hb]
        exact unescape_cons hne _
      · rw [if_neg hb]
        exact unescape_escaped b _
    rw [hrest, ih]
    rfl

theorem unescape_percent_isSome {high low : UInt8} {rest : Bytes} :
    (unescape (percent :: high :: low :: rest)).isSome
      ↔ (hexValue high).isSome ∧ (hexValue low).isSome ∧ (unescape rest).isSome := by
  rw [unescape_percent]
  cases hexValue high <;> cases hexValue low <;> cases unescape rest <;> simp

variable {a : Bytes}

/-- What has been decoded up to some place is not changed by what follows. -/
theorem unescape_append {b decoded : Bytes} (h : unescape a = some decoded) :
    unescape (a ++ b) = (unescape b).map (decoded ++ ·) := by
  fun_induction unescape a generalizing decoded with
  | case1 =>
    cases h
    simp
  | case2 high low rest hval lval tail htail hlow hhigh ih =>
    cases h
    rw [cons_append, cons_append, cons_append, unescape_percent, hhigh, hlow, ih htail]
    cases unescape b <;> rfl
  | case3 | case4 => simp at h
  | case5 _ _ hbyte ih =>
    obtain ⟨tail, htail, rfl⟩ := map_eq_some_iff.1 h
    rw [List.cons_append, unescape_cons hbyte, ih htail, Option.map_map]
    rfl

variable {m : UInt8}

/-- A byte that is not a digit stands in no escape: what is before it and what is behind it can be
    decoded separately. -/
theorem isSome_unescape_cut (hm : hexValue m = none) (hm' : m ≠ percent) {b : Bytes} :
    ∀ {a : Bytes}, (unescape (a ++ m :: b)).isSome → (unescape a).isSome ∧ (unescape b).isSome
  | [], h => by
      rw [nil_append, unescape_cons hm', isSome_map] at h
      exact ⟨rfl, h⟩
  | byte :: rest, h => by
      by_cases hbyte : byte = percent
      · subst hbyte
        rcases rest with _ | ⟨high, _ | ⟨low, rest⟩⟩
        · -- The escape would need the byte as its first digit.
          rcases b with _ | ⟨b, rest⟩
          · simp [unescape] at h
          · have hdigits := unescape_percent_isSome.1 h
            rw [hm] at hdigits
            exact absurd hdigits.1 (by simp)
        · have hdigits := unescape_percent_isSome.1 h
          rw [hm] at hdigits
          exact absurd hdigits.2.1 (by simp)
        · have hdigits := unescape_percent_isSome.1 h
          have hrest := isSome_unescape_cut hm hm' hdigits.2.2
          exact ⟨unescape_percent_isSome.2 ⟨hdigits.1, hdigits.2.1, hrest.1⟩, hrest.2⟩
      · rw [cons_append, unescape_cons hbyte, isSome_map] at h
        have hrest := isSome_unescape_cut hm hm' h
        rw [unescape_cons hbyte, isSome_map]
        exact hrest

theorem isSome_unescape_append_cons (hm : hexValue m = none) (hm' : m ≠ percent) {b : Bytes} :
    (unescape (a ++ m :: b)).isSome ↔ (unescape a).isSome ∧ (unescape b).isSome := by
  refine ⟨isSome_unescape_cut hm hm', ?_⟩
  rintro ⟨ha, hb⟩
  obtain ⟨decoded, hdecoded⟩ := isSome_iff_exists.1 ha
  rw [unescape_append hdecoded, isSome_map, unescape_cons hm', isSome_map]
  exact hb

/-! ## Parts of a text -/

/-- What is before the first occurrence of a byte. -/
def before (m : UInt8) (text : Bytes) : Bytes := text.takeWhile (· != m)

/-- What is behind the first occurrence of a byte. -/
def after (m : UInt8) (text : Bytes) : Bytes := (text.dropWhile (· != m)).tail

theorem before_append (ha : m ∉ a) (b : Bytes) : before m (a ++ b) = a ++ before m b := by
  refine takeWhile_append_of_pos ?_
  intro x hx
  simp only [bne_iff_ne, ne_eq]
  rintro rfl
  exact ha hx

theorem after_append (ha : m ∉ a) (b : Bytes) : after m (a ++ b) = after m b := by
  unfold after
  rw [dropWhile_append_of_pos]
  intro x hx
  simp only [bne_iff_ne, ne_eq]
  rintro rfl
  exact ha hx

@[simp] theorem before_cons_self (m : UInt8) (b : Bytes) : before m (m :: b) = [] := by
  simp [before]

@[simp] theorem after_cons_self (m : UInt8) (b : Bytes) : after m (m :: b) = b := by
  simp [after]

theorem before_of_notMem (ha : m ∉ a) : before m a = a := by
  have h := before_append ha []
  rwa [append_nil, show before m [] = [] from rfl, append_nil] at h

theorem after_of_notMem (ha : m ∉ a) : after m a = [] := by
  have h := after_append ha []
  rwa [append_nil] at h

/-- A text in which the byte occurs is cut there. -/
theorem eq_before_append {text : Bytes} (h : m ∈ text) :
    text = before m text ++ m :: after m text := by
  induction text with
  | nil => simp at h
  | cons b rest ih =>
    by_cases hb : b = m
    · subst hb
      simp
    have hrest : m ∈ rest := (mem_cons.1 h).resolve_left (Ne.symm hb)
    have hcut := ih hrest
    unfold before after at hcut ⊢
    rw [takeWhile_cons_of_pos (by simpa using hb), dropWhile_cons_of_pos (by simpa using hb),
      cons_append, ← hcut]

theorem notMem_before (m : UInt8) (text : Bytes) : m ∉ before m text := by
  intro h
  exact absurd (mem_takeWhile_imp h) (by simp)

theorem before_append_of_mem (ha : m ∈ a) (b : Bytes) : before m (a ++ b) = before m a := by
  conv => lhs; rw [eq_before_append ha]
  rw [append_assoc, cons_append, before_append (notMem_before m a), before_cons_self, append_nil]

/-! ## Parsing and writing -/

/-- `stringContainsCTLByte`. -/
def hasControl (text : Bytes) : Bool := text.any fun b => b < 32 || b == 127

/-- Letters, digits and what is never reserved. -/
def unreserved (b : UInt8) : Bool :=
  (48 ≤ b && b ≤ 57) || (65 ≤ b && b ≤ 90) || (97 ≤ b && b ≤ 122) || (ascii "-_.~").contains b

/-- What is not escaped in a path. -/
def keepsPath (b : UInt8) : Bool := unreserved b || (ascii "$&+,/:;=@").contains b

/-- What is not escaped in a fragment. -/
def keepsFragment (b : UInt8) : Bool := unreserved b || (ascii "$&+,/:;=?@!()*").contains b

/-- A part of a URL: what it says, and how it was written if that is not the usual way. -/
structure Component where
  (plain raw : Bytes)

open Component

/-- `setPath`, `setFragment`. -/
def Component.decode (keep : UInt8 → Bool) (text : Bytes) : Option Component :=
  (unescape text).map fun plain =>
    { plain, raw := if text = escape keep plain then [] else text }

/-- `validEncoded`, of one byte. -/
def validByte (keep : UInt8 → Bool) (b : UInt8) : Bool :=
  (ascii "!$&'()*+,;=:@[]%").contains b || keep b

/-- `EscapedPath`, `EscapedFragment`. -/
def Component.text (keep : UInt8 → Bool) (c : Component) : Bytes :=
  if c.raw ≠ [] ∧ c.raw.all (validByte keep) = true ∧ unescape c.raw = some c.plain then c.raw
  else escape keep c.plain

/-- A URL behind its host. -/
structure Parsed where
  path : Component
  forceQuery : Bool
  rawQuery : Bytes
  fragment : Component

open Parsed

/-- `Parse`; the text in front of the path, which ends with the host, is left out. The fragment is cut
    off before control characters are looked for. -/
def parse (text : Bytes) : Except String Parsed :=
  let rest := before hash text
  if hasControl rest then .error "net/url: invalid control character in URL"
  else
  match decode keepsPath (before question rest), decode keepsFragment (after hash text) with
  | some path, some fragment => .ok
      { path, fragment
        forceQuery := rest.contains question && after question rest == []
        rawQuery := after question rest }
  | _, _ => .error "invalid URL escape"

namespace Parsed

variable (u : Parsed)

/-- The query, with its mark. -/
def query : Bytes := if u.forceQuery ∨ u.rawQuery ≠ [] then question :: u.rawQuery else []

/-- `String`, without the text in front of the path. -/
def text : Bytes :=
  u.path.text keepsPath ++ (u.query
    ++ if u.fragment.plain ≠ [] then hash :: u.fragment.text keepsFragment else [])

def requestUri : Bytes :=
  (if u.path.text keepsPath = [] then [slash] else u.path.text keepsPath) ++ u.query

end Parsed

/-- The path that a server reads in a request line. -/
def readPath (requestUri : Bytes) : Option Bytes := unescape (before question requestUri)

/-! ## What is written is read -/

section Component

variable {keep : UInt8 → Bool}

theorem Component.unescape_text (hkeep : keep percent = false) (c : Component) :
    unescape (c.text keep) = some c.plain := by
  unfold text
  split_ifs with h
  · exact h.2.2
  · exact unescape_escape hkeep c.plain

theorem hexDigit_unreserved (n : Fin 256) : unreserved (hexDigit (UInt8.ofFin n / 16)) = true
      ∧ unreserved (hexDigit (UInt8.ofFin n % 16)) = true := by
  revert n
  decide +kernel

/-- Only bytes that may stand there are written. -/
theorem Component.validByte_of_mem_text (hkeep : ∀ b, unreserved b = true → keep b = true)
    {c : Component} {b : UInt8} (h : b ∈ c.text keep) : validByte keep b = true := by
  unfold text at h
  split_ifs at h with hraw
  · exact all_eq_true.1 hraw.2.1 b h
  obtain ⟨x, -, hx⟩ := mem_flatMap.1 h
  by_cases hkept : keep x = true
  · rw [if_pos hkept, mem_singleton] at hx
    subst hx
    simp [validByte, hkept]
  rw [if_neg hkept] at hx
  obtain ⟨hhigh, hlow⟩ := hexDigit_unreserved x.toFin
  simp only [UInt8.ofFin_toFin] at hhigh hlow
  simp only [mem_cons, not_mem_nil, or_false] at hx
  rcases hx with rfl | rfl | rfl
  · rfl
  · simp [validByte, hkeep _ hhigh]
  · simp [validByte, hkeep _ hlow]

end Component

theorem keepsPath_of_unreserved (b : UInt8) (h : unreserved b = true) : keepsPath b = true := by
  simp [keepsPath, h]

section Path

variable {u : Parsed} {b : UInt8}

theorem question_notMem_path : question ∉ u.path.text keepsPath :=
  fun h => absurd (validByte_of_mem_text keepsPath_of_unreserved h) (by decide)

theorem hash_notMem_path : hash ∉ u.path.text keepsPath :=
  fun h => absurd (validByte_of_mem_text keepsPath_of_unreserved h) (by decide)

end Path

/-- The path is what stands before the first mark. -/
theorem parse_path {text : Bytes} {u : Parsed} (h : parse text = .ok u) :
    unescape (before question (before hash text)) = some u.path.plain := by
  unfold parse at h
  dsimp only at h
  split_ifs at h
  split at h
  · next path fragment hpath hfragment =>
    cases h
    obtain ⟨plain, hplain, rfl⟩ := map_eq_some_iff.1 hpath
    exact hplain
  · simp at h

/-- The path of a written URL ends before its first mark. -/
theorem Parsed.before_text (u : Parsed) :
    before question (before hash u.text) = u.path.text keepsPath := by
  unfold text query
  rw [before_append hash_notMem_path, before_append question_notMem_path]
  split_ifs <;> simp [before, question, hash]

/-- Writing a URL and parsing it again leaves its path. -/
theorem parse_text_path {u u' : Parsed} (h : parse u.text = .ok u') :
    u'.path.plain = u.path.plain := by
  have hread := parse_path h
  rw [u.before_text, unescape_text (by decide)] at hread
  exact (Option.some.inj hread).symm

/-- A server reads the path of the URL. -/
theorem readPath_requestUri {u : Parsed} (h : u.path.plain ≠ []) :
    readPath u.requestUri = some u.path.plain := by
  have hpath : unescape (u.path.text keepsPath) = some u.path.plain :=
    unescape_text (by decide) u.path
  have hne : u.path.text keepsPath ≠ [] := by
    intro hnil
    rw [hnil] at hpath
    exact h (Option.some.inj hpath).symm
  have hcut : before question u.requestUri = u.path.text keepsPath := by
    unfold requestUri query
    rw [if_neg hne, before_append question_notMem_path]
    split_ifs <;> simp [before]
  unfold readPath
  rw [hcut, hpath]

/-! ## When a text is parsed -/

theorem exists_parse_iff (text : Bytes) : (∃ u, parse text = .ok u) ↔ hasControl (before hash text) = false
      ∧ (unescape (before question (before hash text))).isSome
      ∧ (unescape (after hash text)).isSome := by
  unfold parse decode
  by_cases hcontrol : hasControl (before hash text) = true
  · simp [hcontrol]
  · rw [if_neg hcontrol]
    cases unescape (before question (before hash text)) <;> cases unescape (after hash text)
    all_goals simp_all

theorem hasControl_append (a b : Bytes) :
    hasControl (a ++ b) = (hasControl a || hasControl b) := any_append

theorem Component.hasControl_text {keep : UInt8 → Bool}
    (hkeep : ∀ b, unreserved b = true → keep b = true)
    (hclean : ∀ b : Fin 256, validByte keep (UInt8.ofFin b) = true →
      hasControl [UInt8.ofFin b] = false) (c : Component) : hasControl (c.text keep) = false := by
  refine any_eq_false.2 ?_
  intro b hb
  have hvalid := validByte_of_mem_text hkeep hb
  have hbyte := hclean b.toFin (by simpa only [UInt8.ofFin_toFin] using hvalid)
  simpa [hasControl] using hbyte

namespace Parsed

variable (u : Parsed)

theorem hasControl_query :
    hasControl (before hash u.query) = hasControl (before hash u.rawQuery) := by
  unfold query
  split_ifs with h
  · rw [show question :: u.rawQuery = [question] ++ u.rawQuery from rfl, before_append (by decide)]
    rfl
  · rw [not_or, not_not] at h
    rw [h.2]

theorem after_hash_query : after hash u.query = after hash u.rawQuery := by
  unfold query
  split_ifs with h
  · exact after_append (a := [question]) (by decide) u.rawQuery
  · rw [not_or, not_not] at h
    rw [h.2]

theorem hash_mem_query : hash ∈ u.query ↔ hash ∈ u.rawQuery := by
  unfold query
  split_ifs with h
  · simp [hash, question]
  · rw [not_or, not_not] at h
    rw [h.2]

/-- The fragment is cut off, which may begin in the query. -/
theorem before_hash_text :
    before hash u.text = u.path.text keepsPath ++ before hash u.query := by
  unfold text
  rw [before_append hash_notMem_path]
  by_cases hmem : hash ∈ u.query
  · rw [before_append_of_mem hmem]
  · rw [before_append hmem, before_of_notMem hmem]
    split_ifs <;> simp [before]

theorem hasControl_text : hasControl (before hash u.text) = hasControl (before hash u.rawQuery) := by
  have hpath := u.path.hasControl_text keepsPath_of_unreserved (by decide +kernel)
  rw [before_hash_text, hasControl_append, hpath, hasControl_query, Bool.false_or]

/-- The escapes behind the first `#` of a written URL are those of its query, and those it has
    written itself. -/
theorem isSome_unescape_after_text :
    (unescape (after hash u.text)).isSome ↔ (unescape (after hash u.rawQuery)).isSome := by
  have hfragment : (unescape (u.fragment.text keepsFragment)).isSome := by
    rw [unescape_text (by decide)]
    rfl
  unfold text
  rw [after_append hash_notMem_path]
  by_cases hmem : hash ∈ u.query
  · have hcut := eq_before_append hmem
    rw [hcut, append_assoc, cons_append,
      after_append (notMem_before hash u.query), after_cons_self, after_hash_query]
    split_ifs
    · rw [isSome_unescape_append_cons (by decide) (by decide)]
      simp [hfragment]
    · rw [append_nil]
  · have hraw : hash ∉ u.rawQuery := fun h => hmem (u.hash_mem_query.2 h)
    rw [after_append hmem, after_of_notMem hraw]
    split_ifs
    · rw [after_cons_self]
      simp [hfragment, unescape]
    · exact Iff.rfl

/-- A written URL is parsed again unless its query stands in the way. -/
theorem exists_parse_text_iff : (∃ u', parse u.text = .ok u')
      ↔ hasControl (before hash u.rawQuery) = false ∧ (unescape (after hash u.rawQuery)).isSome := by
  rw [exists_parse_iff, u.hasControl_text, u.before_text, u.isSome_unescape_after_text,
    unescape_text (by decide)]
  simp

end Parsed

end Url

end HnbCloud

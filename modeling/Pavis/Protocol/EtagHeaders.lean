/-
The entity tags that relay and runtime exchange.

The relay writes a tag into `ETag` and reads one from `If-None-Match`; the
runtime reads the first and writes the second. A canonical tag is `sha256:` with
64 lowercase hexadecimal digits.
-/

import Pavis.Relay.LongPoll

namespace Pavis.Protocol

open ByteText Pavis.Pvs Pavis.Relay

/-- The value that `fetch_once` sends for a tag it has. -/
def ifNoneMatchHeader (etag : Text) : Text := [34] ++ etag ++ [34]

def parseEtagHeader (value : Text) : Except Text Text :=
  let trimmed := trim value
  if startsWith trimmed (literal "W/") || startsWith trimmed (literal "w/") then
    .error (literal "weak ETags not supported: " ++ value)
  else
    let unquoted :=
      if startsWith trimmed [34] && endsWith trimmed [34] && 2 ≤ trimmed.length then
        (trimmed.take (trimmed.length - 1)).drop 1
      else trimmed
    match stripPrefix unquoted (literal "sha256:") with
    | none => .error (literal "invalid etag format (expected sha256:...): " ++ value)
    | some hex =>
      if hex.length ≠ 64 || !hex.all isHexDigit then
        .error (literal "invalid etag format (expected 64 hex chars): " ++ value)
      else .ok (literal "sha256:" ++ hex.map toAsciiLowercase)

def isLowerHex (byte : UInt8) : Bool := (48 ≤ byte && byte ≤ 57) || (97 ≤ byte && byte ≤ 102)

private theorem toAsciiLowercase_of_isLowerHex : ∀ byte : UInt8,
    isLowerHex byte = true → toAsciiLowercase byte = byte := by
  refine forall_byte ?_
  decide +kernel

private theorem isHexDigit_of_isLowerHex : ∀ byte : UInt8,
    isLowerHex byte = true → isHexDigit byte = true := by
  refine forall_byte ?_
  decide +kernel

private theorem isLowerHex_toAsciiLowercase : ∀ byte : UInt8,
    isHexDigit byte = true → isLowerHex (toAsciiLowercase byte) = true := by
  refine forall_byte ?_
  decide +kernel

private theorem visible_of_isHexDigit : ∀ byte : UInt8,
    isHexDigit byte = true → ((32 ≤ byte && byte < 127) || byte == 9) = true := by
  refine forall_byte ?_
  decide +kernel

theorem visible_of_isBlankByte : ∀ byte : UInt8,
    isBlankByte byte = true → ((32 ≤ byte && byte < 127) || byte == 9) = true := by
  refine forall_byte ?_
  decide +kernel

variable {digest : Text}

theorem map_toAsciiLowercase_of_lower (lower : digest.all isLowerHex = true) :
    digest.map toAsciiLowercase = digest := by
  rw [List.all_eq_true] at lower
  exact (List.map_congr_left
    (fun byte listed => toAsciiLowercase_of_isLowerHex byte (lower byte listed))).trans
    (List.map_id digest)

def CanonicalEtag (etag : Text) : Prop :=
  ∃ digest : Text, etag = literal "sha256:" ++ digest ∧ digest.length = 64 ∧
    digest.all isLowerHex = true

private theorem hexDigit_lower : ∀ value : Fin 16, isLowerHex (hexDigit value.val) = true := by
  decide

private theorem toHex_length (bytes : Bytes) : (toHex bytes).length = 2 * bytes.length := by
  induction bytes with
  | nil => rfl
  | cons byte rest =>
    change (toHex rest).length + 1 + 1 = 2 * (rest.length + 1)
    omega

private theorem toHex_lower (bytes : Bytes) : (toHex bytes).all isLowerHex = true := by
  rw [List.all_eq_true, toHex, List.forall_mem_flatMap]
  intro byte _
  have small := byte.toNat_lt
  have high := hexDigit_lower ⟨byte.toNat / 16, by omega⟩
  have low := hexDigit_lower ⟨byte.toNat % 16, by omega⟩
  simp [high, low]

theorem canonical_checksumForBytes {primitives : Primitives}
    (digests : ∀ bytes, (primitives.sha256 bytes).length = 32) (bytes : Bytes) :
    CanonicalEtag (checksumForBytes primitives bytes) :=
  ⟨toHex (primitives.sha256 bytes), rfl, by rw [toHex_length, digests], toHex_lower _⟩

theorem canonical_of_digits (length : digest.length = 64) (hex : digest.all isHexDigit = true) :
    CanonicalEtag (literal "sha256:" ++ digest.map toAsciiLowercase) := by
  refine ⟨_, rfl, by rw [List.length_map, length], ?_⟩
  rw [List.all_map, List.all_eq_true]
  rw [List.all_eq_true] at hex
  exact fun byte listed => isLowerHex_toAsciiLowercase byte (hex byte listed)

variable {etag : Text}

theorem etagFromChecksum_of_canonical (canonical : CanonicalEtag etag) :
    etagFromChecksum etag = etag := by
  obtain ⟨digest, rfl, _, lower⟩ := canonical
  have lowered : (literal "sha256:" ++ digest).map toAsciiLowercase =
      literal "sha256:" ++ digest := by
    rw [List.map_append, map_toAsciiLowercase_of_lower lower]
    rfl
  have starts : startsWith (literal "sha256:" ++ digest) (literal "sha256:") = true :=
    List.isPrefixOf_iff_prefix.mpr (List.prefix_append _ _)
  rw [etagFromChecksum, lowered, if_pos starts]

private theorem trim_split (text : Text) :
    ∃ before after : Text, text = before ++ trim text ++ after ∧
      before.all isBlankByte = true ∧ after.all isBlankByte = true := by
  refine ⟨text.takeWhile isBlankByte,
    ((text.dropWhile isBlankByte).reverse.takeWhile isBlankByte).reverse, ?_, ?_, ?_⟩
  · have front : text.takeWhile isBlankByte ++ text.dropWhile isBlankByte = text :=
      List.takeWhile_append_dropWhile
    have whole := congrArg List.reverse
      (List.takeWhile_append_dropWhile (p := isBlankByte)
        (l := (text.dropWhile isBlankByte).reverse))
    rw [List.reverse_append, List.reverse_reverse] at whole
    rw [trim, List.append_assoc, whole, front]
  · exact List.all_takeWhile
  · rw [List.all_reverse]
    exact List.all_takeWhile

private theorem trim_quoted {before after : Text} (inner : Text)
    (blankBefore : before.all isBlankByte = true) (blankAfter : after.all isBlankByte = true) :
    trim (before ++ quoteEtag inner ++ after) = quoteEtag inner := by
  have blankReverse : ∀ byte ∈ after.reverse, isBlankByte byte = true := by
    intro byte listed
    exact List.all_eq_true.mp blankAfter byte (List.mem_reverse.mp listed)
  have front : (before ++ quoteEtag inner ++ after).dropWhile isBlankByte =
      quoteEtag inner ++ after := by
    rw [List.append_assoc, List.dropWhile_append_of_pos (List.all_eq_true.mp blankBefore)]
    rfl
  rw [trim, front, List.reverse_append, List.dropWhile_append_of_pos blankReverse, quoteEtag,
    List.reverse_append]
  change ([34] ++ ([34] ++ inner).reverse).reverse = _
  rw [List.reverse_append, List.reverse_reverse]
  rfl

private theorem quoteEtag_length (inner : Text) : (quoteEtag inner).length = inner.length + 2 := by
  simp [quoteEtag]

private theorem quoteEtag_inner (inner : Text) :
    ((quoteEtag inner).take ((quoteEtag inner).length - 1)).drop 1 = inner := by
  have cut : (quoteEtag inner).length - 1 = ([34] ++ inner).length := by
    simp [quoteEtag]
  rw [cut, quoteEtag, List.take_left]
  rfl

private theorem quoteEtag_starts (inner : Text) : startsWith (quoteEtag inner) [34] = true :=
  List.isPrefixOf_iff_prefix.mpr ⟨inner ++ [34], by simp [quoteEtag]⟩

private theorem quoteEtag_ends (inner : Text) : endsWith (quoteEtag inner) [34] = true :=
  List.isSuffixOf_iff_suffix.mpr ⟨[34] ++ inner, rfl⟩

private theorem quoteEtag_strong (inner : Text) :
    (startsWith (quoteEtag inner) (literal "W/") || startsWith (quoteEtag inner) (literal "w/")) =
      false := rfl

private theorem eq_quoteEtag {trimmed : Text} (starts : startsWith trimmed [34] = true)
    (ends : endsWith trimmed [34] = true) (long : 2 ≤ trimmed.length) :
    trimmed = quoteEtag ((trimmed.take (trimmed.length - 1)).drop 1) := by
  obtain ⟨rest, rfl⟩ := List.isPrefixOf_iff_prefix.mp starts
  obtain ⟨front, same⟩ := List.isSuffixOf_iff_suffix.mp ends
  cases front with
  | nil =>
    rw [List.nil_append] at same
    rw [← same] at long
    exact absurd long (by decide)
  | cons head inner =>
    rw [List.cons_append, List.singleton_append, List.cons.injEq] at same
    obtain ⟨rfl, rfl⟩ := same
    have again := quoteEtag_inner inner
    rw [quoteEtag, List.append_assoc] at again
    rw [again]
    simp [quoteEtag]

private theorem unquoteStrong_eq_some {trimmed inner : Text} :
    unquoteStrong trimmed = some inner ↔
      trimmed = quoteEtag inner ∧ contains inner (ascii ',') = false ∧
        contains inner 34 = false := by
  constructor
  · intro unquoted
    simp only [unquoteStrong, Option.ite_none_left_eq_some, Option.some.injEq] at unquoted
    obtain ⟨_, _, noComma, quotes, noQuote, rfl⟩ := unquoted
    simp only [Bool.or_eq_true, Bool.not_eq_true', decide_eq_true_eq, not_or,
      Bool.not_eq_false, Nat.not_lt] at quotes
    have whole := eq_quoteEtag quotes.1.1 quotes.1.2 quotes.2
    refine ⟨whole, ?_, Bool.not_eq_true _ ▸ noQuote⟩
    rw [whole] at noComma
    rw [quoteEtag, contains_append, contains_append] at noComma
    simp only [Bool.or_eq_true, not_or, Bool.not_eq_true] at noComma
    exact noComma.1.2
  · rintro ⟨rfl, noComma, noQuote⟩
    have distinct : ¬quoteEtag inner = literal "*" := by
      intro same
      have length := congrArg List.length same
      rw [quoteEtag_length] at length
      change inner.length + 2 = 1 at length
      omega
    have outerComma : contains (quoteEtag inner) (ascii ',') = false := by
      rw [quoteEtag, contains_append, contains_append, noComma]
      rfl
    have long : ¬(quoteEtag inner).length < 2 := by
      rw [quoteEtag_length]
      omega
    rw [unquoteStrong, if_neg distinct, quoteEtag_strong, outerComma, quoteEtag_starts,
      quoteEtag_ends, quoteEtag_inner]
    simp [long, noQuote]

/-! ### What the readers accept -/

/-- One strong tag with 64 digits, and nothing but blanks around it. -/
structure OneStrongTag (value digest : Text) : Prop where
  surrounded : ∃ before after : Text,
    value = before ++ quoteEtag (literal "sha256:" ++ digest) ++ after ∧
      before.all isBlankByte = true ∧ after.all isBlankByte = true
  length : digest.length = 64
  hex : digest.all isHexDigit = true

private theorem tag_without (hex : digest.all isHexDigit = true) (byte : UInt8)
    (unlisted : contains (literal "sha256:") byte = false) (notHex : isHexDigit byte = false) :
    contains (literal "sha256:" ++ digest) byte = false := by
  have inner : contains digest byte = false := by
    rw [contains_eq_false]
    intro listed
    rw [List.all_eq_true.mp hex byte listed] at notHex
    exact Bool.noConfusion notHex
  rw [contains_append, unlisted, inner]
  rfl

variable {value : Text}

theorem OneStrongTag.visible (tag : OneStrongTag value digest) :
    visibleText value = some value := by
  obtain ⟨⟨before, after, rfl, blankBefore, blankAfter⟩, _, hex⟩ := tag
  have blank : ∀ text : Text, text.all isBlankByte = true →
      (text.all fun byte => (32 ≤ byte && byte < 127) || byte == 9) = true := by
    intro text blank
    rw [List.all_eq_true] at blank ⊢
    exact fun byte listed => visible_of_isBlankByte byte (blank byte listed)
  have digits : (digest.all fun byte => (32 ≤ byte && byte < 127) || byte == 9) = true := by
    rw [List.all_eq_true] at hex ⊢
    exact fun byte listed => visible_of_isHexDigit byte (hex byte listed)
  have scheme : ((literal "sha256:").all fun byte => (32 ≤ byte && byte < 127) || byte == 9) =
      true := by
    decide
  rw [visibleText, if_pos]
  simp only [quoteEtag, List.all_append, blank before blankBefore, blank after blankAfter, digits,
    scheme]
  decide

theorem OneStrongTag.trimmed (tag : OneStrongTag value digest) :
    trim value = quoteEtag (literal "sha256:" ++ digest) := by
  obtain ⟨before, after, rfl, blankBefore, blankAfter⟩ := tag.surrounded
  exact trim_quoted _ blankBefore blankAfter

/-- The relay's reader returns the tag of a header that is one strong tag, in
lower case, and accepts no other header. -/
theorem parseIfNoneMatch_eq_some_iff :
    parseIfNoneMatch (some value) = some etag ↔
      ∃ digest, OneStrongTag value digest ∧
        etag = literal "sha256:" ++ digest.map toAsciiLowercase := by
  constructor
  · intro parsed
    simp only [parseIfNoneMatch, Option.bind_eq_bind, Option.bind_some,
      Option.bind_eq_some_iff] at parsed
    obtain ⟨text, visible, unquoted, strong, digest, stripped, checked⟩ := parsed
    have sameText : value = text := by
      rw [visibleText] at visible
      split at visible
      · exact Option.some.inj visible
      · cases visible
    subst sameText
    split at checked
    · cases checked
    · rename_i length
      split at checked
      · cases checked
      · rename_i hex
        obtain ⟨before, after, whole, blankBefore, blankAfter⟩ := trim_split value
        have quoted := (unquoteStrong_eq_some.mp strong).1
        rw [eq_append_of_stripPrefix stripped] at quoted
        rw [quoted] at whole
        exact ⟨digest, ⟨⟨before, after, whole, blankBefore, blankAfter⟩,
          Decidable.not_not.mp length, by simpa using hex⟩, (Option.some.inj checked).symm⟩
  · rintro ⟨digest, tag, rfl⟩
    have noComma := tag_without tag.hex (ascii ',') (by decide) (by decide)
    have noQuote := tag_without tag.hex 34 (by decide) (by decide)
    have unquoted := unquoteStrong_eq_some.mpr
      (And.intro (rfl : quoteEtag (literal "sha256:" ++ digest) = _) ⟨noComma, noQuote⟩)
    simp only [parseIfNoneMatch, Option.bind_eq_bind, Option.bind_some, tag.visible, tag.trimmed,
      unquoted, stripPrefix_append, tag.length, tag.hex, ne_eq, not_true, if_false,
      Bool.not_true, Bool.false_eq_true]

theorem parseEtagHeader_of_strong (tag : OneStrongTag value digest) :
    parseEtagHeader value = .ok (literal "sha256:" ++ digest.map toAsciiLowercase) := by
  have long : 2 ≤ (quoteEtag (literal "sha256:" ++ digest)).length := by
    rw [quoteEtag_length]
    omega
  simp only [parseEtagHeader, tag.trimmed, quoteEtag_strong, quoteEtag_starts, quoteEtag_ends,
    long, quoteEtag_inner, stripPrefix_append, tag.length, tag.hex, ne_eq, not_true, decide_true,
    decide_false, Bool.and_true, Bool.or_false, Bool.not_true, Bool.false_eq_true, if_false,
    if_true]

theorem canonical_of_parseEtagHeader (parsed : parseEtagHeader value = .ok etag) :
    CanonicalEtag etag := by
  unfold parseEtagHeader at parsed
  dsimp only at parsed
  split at parsed
  · cases parsed
  · split at parsed
    · cases parsed
    · split at parsed
      · cases parsed
      · rename_i digest _ malformed
        cases parsed
        simp only [Bool.or_eq_true, decide_eq_true_eq, Bool.not_eq_true', not_or, ne_eq,
          Decidable.not_not, Bool.not_eq_false] at malformed
        exact canonical_of_digits malformed.1 malformed.2

theorem CanonicalEtag.strong (canonical : CanonicalEtag etag) :
    ∃ digest, OneStrongTag (quoteEtag etag) digest ∧
      etag = literal "sha256:" ++ digest.map toAsciiLowercase := by
  obtain ⟨digest, rfl, length, lower⟩ := canonical
  have hex : digest.all isHexDigit = true := by
    rw [List.all_eq_true] at lower ⊢
    exact fun byte listed => isHexDigit_of_isLowerHex byte (lower byte listed)
  refine ⟨digest, ⟨⟨[], [], ?_, rfl, rfl⟩, length, hex⟩, ?_⟩
  · rw [List.nil_append, List.append_nil]
  · rw [map_toAsciiLowercase_of_lower lower]

theorem CanonicalEtag.read_by_relay (canonical : CanonicalEtag etag) :
    parseIfNoneMatch (some (ifNoneMatchHeader etag)) = some etag :=
  parseIfNoneMatch_eq_some_iff.mpr canonical.strong

theorem CanonicalEtag.read_by_runtime (canonical : CanonicalEtag etag) :
    parseEtagHeader (quoteEtag (etagFromChecksum etag)) = .ok etag := by
  rw [etagFromChecksum_of_canonical canonical]
  obtain ⟨digest, tag, same⟩ := canonical.strong
  rw [parseEtagHeader_of_strong tag, ← same]

end Pavis.Protocol

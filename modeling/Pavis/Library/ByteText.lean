/-
String slices as their UTF-8 bytes.

Prefix and suffix tests, byte indexing and length are byte operations on the
encoded text. A separator that is an ASCII character occupies one byte and
never occurs inside a longer code point, so searching for it is a byte search.
-/

import Mathlib.Data.List.Basic

namespace ByteText

abbrev Bytes := List UInt8

abbrev Text := List UInt8

def ascii (character : Char) : UInt8 := character.toUInt8

def literal (text : String) : Text := text.toList.map ascii

def startsWith (text pattern : Text) : Bool := pattern.isPrefixOf text

def endsWith (text pattern : Text) : Bool := pattern.isSuffixOf text

def stripPrefix (text pattern : Text) : Option Text :=
  if startsWith text pattern then some (text.drop pattern.length) else none

def stripSuffix (text pattern : Text) : Option Text :=
  if endsWith text pattern then some (text.take (text.length - pattern.length)) else none

def contains (text : Text) (byte : UInt8) : Bool := text.any (fun item => item == byte)

def splitOnce (separator : UInt8) : Text → Option (Text × Text)
  | [] => none
  | head :: tail =>
    if head == separator then some ([], tail)
    else (splitOnce separator tail).map (fun parts => (head :: parts.1, parts.2))

def splitOnceAt (pattern : Text) : Text → Option (Text × Text)
  | [] => if pattern = [] then some ([], []) else none
  | head :: tail =>
    match stripPrefix (head :: tail) pattern with
    | some rest => some ([], rest)
    | none => (splitOnceAt pattern tail).map (fun parts => (head :: parts.1, parts.2))

def toAsciiLowercase (byte : UInt8) : UInt8 :=
  if 65 ≤ byte ∧ byte ≤ 90 then byte + 32 else byte

def eqIgnoreAsciiCase (left right : Text) : Bool :=
  left.map toAsciiLowercase == right.map toAsciiLowercase

def isAsciiAlphanumeric (byte : UInt8) : Bool :=
  (48 ≤ byte && byte ≤ 57) || (65 ≤ byte && byte ≤ 90) || (97 ≤ byte && byte ≤ 122)

/-- Tested along the text, not over all bytes. -/
instance (priority := 2000) (text : Text) (test : UInt8 → Prop) [DecidablePred test] :
    Decidable (∀ byte ∈ text, test byte) :=
  List.decidableBAll test text

theorem stripPrefix_append (start rest : Text) : stripPrefix (start ++ rest) start = some rest := by
  simp [stripPrefix, startsWith]

theorem forall_byte {property : UInt8 → Prop}
    (all : ∀ index : Fin 256, property (UInt8.ofFin index)) (byte : UInt8) : property byte :=
  all byte.toFin

variable {text front : Text} {separator : UInt8}

theorem eq_append_of_stripPrefix {start rest : Text}
    (stripped : stripPrefix text start = some rest) : text = start ++ rest := by
  unfold stripPrefix at stripped
  split at stripped
  · rename_i starts
    cases stripped
    exact (List.prefix_iff_eq_append.mp (List.isPrefixOf_iff_prefix.mp starts)).symm
  · cases stripped

theorem stripSuffix_append (front rest : Text) : stripSuffix (front ++ rest) rest = some front := by
  simp [stripSuffix, endsWith]

theorem eq_append_of_stripSuffix {rest : Text} (stripped : stripSuffix text rest = some front) :
    text = front ++ rest := by
  unfold stripSuffix at stripped
  split at stripped
  · rename_i ends
    cases stripped
    exact (List.suffix_iff_eq_append.mp (List.isSuffixOf_iff_suffix.mp ends)).symm
  · cases stripped

theorem splitOnce_append (absent : contains front separator = false) (back : Text) :
    splitOnce separator (front ++ separator :: back) = some (front, back) := by
  induction front with
  | nil => simp [splitOnce]
  | cons head tail ih =>
    simp only [contains, List.any_cons, Bool.or_eq_false_iff] at absent
    rw [List.cons_append, splitOnce, absent.1, ih absent.2]
    rfl

theorem splitOnce_absent (absent : contains text separator = false) :
    splitOnce separator text = none := by
  induction text with
  | nil => rfl
  | cons head tail ih =>
    simp only [contains, List.any_cons, Bool.or_eq_false_iff] at absent
    rw [splitOnce, absent.1, ih absent.2]
    rfl

theorem splitOnce_eq_none (missing : splitOnce separator text = none) :
    contains text separator = false := by
  induction text with
  | nil => rfl
  | cons head tail ih =>
    unfold splitOnce at missing
    cases same : head == separator with
    | true =>
      rw [same] at missing
      cases missing
    | false =>
      rw [same] at missing
      have later := ih (Option.map_eq_none_iff.mp missing)
      rw [contains] at later ⊢
      rw [List.any_cons, same, later]
      rfl

theorem splitOnce_eq_some {back : Text} :
    splitOnce separator text = some (front, back) ↔
      contains front separator = false ∧ text = front ++ separator :: back := by
  constructor
  · intro found
    induction text generalizing front with
    | nil => cases found
    | cons head tail ih =>
      unfold splitOnce at found
      cases same : head == separator with
      | true =>
        rw [same] at found
        cases found
        exact ⟨rfl, by rw [eq_of_beq same]; rfl⟩
      | false =>
        rw [same] at found
        obtain ⟨⟨later, rest⟩, foundLater, joined⟩ := Option.map_eq_some_iff.mp found
        cases joined
        obtain ⟨absent, rfl⟩ := ih foundLater
        refine ⟨?_, rfl⟩
        rw [contains, List.any_cons, same, Bool.false_or]
        exact absent
  · rintro ⟨absent, rfl⟩
    exact splitOnce_append absent back

theorem contains_eq_false {byte : UInt8} : contains text byte = false ↔ byte ∉ text := by
  unfold contains
  rw [List.any_eq_false]
  constructor
  · intro none member
    exact none byte member (beq_self_eq_true byte)
  · intro missing item member same
    rw [eq_of_beq same] at member
    exact missing member

theorem contains_append (front back : Text) (byte : UInt8) :
    contains (front ++ back) byte = (contains front byte || contains back byte) :=
  List.any_append

theorem toAsciiLowercase_idempotent : ∀ byte : UInt8,
    toAsciiLowercase (toAsciiLowercase byte) = toAsciiLowercase byte := by
  refine forall_byte ?_
  decide +kernel

theorem lowercase_lowercase (name : Text) :
    (name.map toAsciiLowercase).map toAsciiLowercase = name.map toAsciiLowercase := by
  rw [List.map_map]
  apply List.map_congr_left
  intro byte _
  exact toAsciiLowercase_idempotent byte

def isContinuation (byte : UInt8) : Bool := 0x80 ≤ byte && byte ≤ 0xBF

/-- Whether a lead byte of three or four bytes allows the byte after it. Shorter
spellings, surrogates and numbers beyond the last code point are excluded. -/
def allowsSecond (lead second : UInt8) : Bool :=
  if lead = 0xE0 then 0xA0 ≤ second && second ≤ 0xBF
  else if lead = 0xED then 0x80 ≤ second && second ≤ 0x9F
  else if lead = 0xF0 then 0x90 ≤ second && second ≤ 0xBF
  else if lead = 0xF4 then 0x80 ≤ second && second ≤ 0x8F
  else isContinuation second

def decodeUtf8 : Bytes → Option (List Nat)
  | [] => some []
  | lead :: rest =>
    if lead < 0x80 then (decodeUtf8 rest).map (List.cons lead.toNat)
    else
      match rest with
      | [] => none
      | second :: rest =>
        if 0xC2 ≤ lead && lead ≤ 0xDF && isContinuation second then
          (decodeUtf8 rest).map
            (List.cons ((lead.toNat - 0xC0) * 64 + (second.toNat - 0x80)))
        else
          match rest with
          | [] => none
          | third :: rest =>
            if 0xE0 ≤ lead && lead ≤ 0xEF && allowsSecond lead second &&
                isContinuation third then
              (decodeUtf8 rest).map
                (List.cons ((lead.toNat - 0xE0) * 4096 + (second.toNat - 0x80) * 64 +
                  (third.toNat - 0x80)))
            else
              match rest with
              | [] => none
              | fourth :: rest =>
                if 0xF0 ≤ lead && lead ≤ 0xF4 && allowsSecond lead second &&
                    isContinuation third && isContinuation fourth then
                  (decodeUtf8 rest).map
                    (List.cons ((lead.toNat - 0xF0) * 262144 +
                      (second.toNat - 0x80) * 4096 + (third.toNat - 0x80) * 64 +
                      (fourth.toNat - 0x80)))
                else none

theorem decodeUtf8_ascii {text : Bytes} (ascii : ∀ byte ∈ text, byte < 0x80) :
    decodeUtf8 text = some (text.map UInt8.toNat) := by
  induction text with
  | nil => rfl
  | cons byte rest ih =>
    rw [decodeUtf8.eq_def]
    simp only [if_pos (ascii byte List.mem_cons_self),
      ih fun later member => ascii later (List.mem_cons_of_mem byte member)]
    rfl

/-- The code points with the property White_Space. -/
def isWhitespace (point : Nat) : Bool :=
  (9 ≤ point && point ≤ 13) || point == 0x20 || point == 0x85 || point == 0xA0 ||
    point == 0x1680 || (0x2000 ≤ point && point ≤ 0x200A) || point == 0x2028 ||
    point == 0x2029 || point == 0x202F || point == 0x205F || point == 0x3000

def isBlank (text : Text) : Bool :=
  match decodeUtf8 text with
  | none => false
  | some points => points.all isWhitespace

example : decodeUtf8 [0x61, 0xC2, 0xA0, 0xE2, 0x82, 0xAC, 0xF0, 0x9F, 0x98, 0x80] =
    some [0x61, 0xA0, 0x20AC, 0x1F600] := by decide

example : decodeUtf8 [0xED, 0xA0, 0x80] = none := by decide

end ByteText

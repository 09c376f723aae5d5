/-
The id of a request.

An id is a buffer of fixed size with the number of bytes in use. The bytes are pushed one
by one or a slice at a time, and a push that does not fit is dropped without a word.
-/

import Pavis.Library.DigitText

namespace Pavis.Proxy

open ByteText DigitText

def requestIdMaxLen : Nat := 48

structure RequestId where
  buf : List UInt8
  len : Nat
  size : buf.length = requestIdMaxLen
  bounded : len ≤ requestIdMaxLen
  deriving DecidableEq

structure RequestIdParseError where
  deriving DecidableEq

namespace RequestId

def asStr (id : RequestId) : Text := id.buf.take id.len

def empty : RequestId where
  buf := List.replicate requestIdMaxLen 0
  len := 0
  size := List.length_replicate
  bounded := Nat.zero_le _

def pushByte (id : RequestId) (value : UInt8) : RequestId :=
  if room : id.len < requestIdMaxLen then
    { buf := id.buf.set id.len value
      len := id.len + 1
      size := by rw [List.length_set, id.size]
      bounded := room }
  else id

theorem copied_size (id : RequestId) {bytes : Bytes}
    (room : id.len + bytes.length ≤ requestIdMaxLen) :
    (id.buf.take id.len ++ bytes ++ id.buf.drop (id.len + bytes.length)).length =
      requestIdMaxLen := by
  have size := id.size
  simp only [List.length_append, List.length_take, List.length_drop]
  omega

def pushBytes (id : RequestId) (bytes : Bytes) : RequestId :=
  if room : id.len + bytes.length ≤ requestIdMaxLen then
    { buf := id.buf.take id.len ++ bytes ++ id.buf.drop (id.len + bytes.length)
      len := id.len + bytes.length
      size := id.copied_size room
      bounded := room }
  else id

/-- The digits of a number, last one first, behind those already written. The array for
them has as much room left as given, and a digit beyond it is an access out of bounds. -/
def digitLoop : Nat → Nat → Bytes → Option Bytes
  | _, 0, written => some written
  | 0, _ + 1, _ => none
  | room + 1, value + 1, written =>
    digitLoop room ((value + 1) / 10) (written ++ [ascii '0' + UInt8.ofNat ((value + 1) % 10)])

def pushU128 (id : RequestId) (value : Nat) : Option RequestId :=
  if value = 0 then some (id.pushByte (ascii '0'))
  else (digitLoop 39 value []).map fun digits => digits.reverse.foldl pushByte id

def fromParts (nanos random : Nat) : Option RequestId := do
  let id := empty.pushBytes (literal "req-")
  let id ← id.pushU128 nanos
  let id := id.pushByte (ascii '-')
  id.pushU128 random

def fromStr (value : Text) : Except RequestIdParseError RequestId :=
  if requestIdMaxLen < value.length then .error {}
  else .ok (empty.pushBytes value)

theorem asStr_length (id : RequestId) : id.asStr.length = id.len := by
  have size := id.size
  have bounded := id.bounded
  rw [asStr, List.length_take]
  omega

theorem asStr_pushByte (id : RequestId) (value : UInt8) :
    (id.pushByte value).asStr = (id.asStr ++ [value]).take requestIdMaxLen := by
  have length := id.asStr_length
  unfold pushByte
  split
  · rename_i room
    have inside : id.len < id.buf.length := by rw [id.size]; exact room
    rw [List.take_of_length_le (by rw [List.length_append, length]; exact room)]
    simp [asStr, List.take_add_one, List.take_set_of_le, inside]
  · rename_i full
    have bounded := id.bounded
    have whole : requestIdMaxLen = id.asStr.length := by omega
    rw [whole, List.take_left]

theorem asStr_pushBytes {id : RequestId} {bytes : Bytes}
    (room : id.len + bytes.length ≤ requestIdMaxLen) :
    (id.pushBytes bytes).asStr = id.asStr ++ bytes := by
  have length : (id.buf.take id.len ++ bytes).length = id.len + bytes.length := by
    rw [List.length_append]
    exact congrArg (· + bytes.length) id.asStr_length
  unfold pushBytes
  rw [dif_pos room]
  exact List.take_left' length

theorem take_take_append {α : Type} (most : Nat) (front back : List α) :
    (front.take most ++ back).take most = (front ++ back).take most := by
  rw [List.take_append, List.take_append, List.take_take, Nat.min_self, List.length_take]
  rcases Nat.le_total front.length most with short | long
  · rw [Nat.min_eq_right short]
  · rw [Nat.min_eq_left long, Nat.sub_self, Nat.sub_eq_zero_of_le long]

private theorem asStr_foldl_pushByte (bytes : Bytes) (id : RequestId) :
    (bytes.foldl pushByte id).asStr = (id.asStr ++ bytes).take requestIdMaxLen := by
  induction bytes generalizing id with
  | nil =>
    have bounded := id.bounded
    rw [List.foldl_nil, List.append_nil, List.take_of_length_le]
    rw [asStr_length]
    exact bounded
  | cons byte rest ih =>
    rw [List.foldl_cons, ih, asStr_pushByte, take_take_append, List.append_assoc,
      List.singleton_append]

private theorem digit_byte : ∀ digit : Fin 10,
    ascii '0' + UInt8.ofNat digit = ascii (Nat.digitChar digit) := by
  decide

private theorem digitLoop_spell {room value : Nat} (positive : 0 < value) (fits : value < 10 ^ room)
    (written : Bytes) :
    digitLoop room value written = some (written ++ (spell 10 value).reverse) := by
  induction room generalizing value written with
  | zero => omega
  | succ room ih =>
    obtain ⟨before, rfl⟩ : ∃ before, value = before + 1 :=
      Nat.exists_eq_succ_of_ne_zero (by omega)
    have digit := digit_byte ⟨(before + 1) % 10, Nat.mod_lt _ (by decide)⟩
    simp only at digit
    rw [digitLoop, digit]
    rcases Nat.lt_or_ge (before + 1) 10 with single | longer
    · rw [Nat.div_eq_of_lt single, Nat.mod_eq_of_lt single, spell_of_lt single]
      cases room <;> rfl
    · have shorter : (before + 1) / 10 < 10 ^ room := by
        rw [Nat.pow_succ] at fits
        exact Nat.div_lt_of_lt_mul (by rw [Nat.mul_comm]; exact fits)
      rw [ih (Nat.div_pos longer (by decide)) shorter, spell_of_le (by decide) longer,
        List.reverse_append, List.append_assoc]
      rfl

private theorem pushU128_spell (id : RequestId) {value : Nat} (fits : value < 2 ^ 128) :
    ∃ pushed, id.pushU128 value = some pushed ∧
      pushed.asStr = (id.asStr ++ spell 10 value).take requestIdMaxLen := by
  unfold pushU128
  split
  · rename_i zero
    subst zero
    exact ⟨_, rfl, id.asStr_pushByte _⟩
  · rename_i nonzero
    have small : value < 10 ^ 39 := Nat.lt_of_lt_of_le fits (by decide)
    rw [digitLoop_spell (Nat.pos_of_ne_zero nonzero) small []]
    refine ⟨_, rfl, ?_⟩
    rw [asStr_foldl_pushByte, List.nil_append, List.reverse_reverse]

end RequestId

def requestIdText (nanos random : Nat) : Text :=
  literal "req-" ++ spell 10 nanos ++ [ascii '-'] ++ spell 10 random

variable {nanos random : Nat}

private theorem fromParts_text (nanosFit : nanos < 2 ^ 128) (randomFits : random < 2 ^ 32) :
    ∃ id, RequestId.fromParts nanos random = some id ∧
      id.asStr = (requestIdText nanos random).take requestIdMaxLen := by
  have started : (RequestId.empty.pushBytes (literal "req-")).asStr = literal "req-" :=
    RequestId.asStr_pushBytes (by decide)
  obtain ⟨first, nanosPushed, firstText⟩ :=
    (RequestId.empty.pushBytes (literal "req-")).pushU128_spell nanosFit
  obtain ⟨last, randomPushed, lastText⟩ :=
    (first.pushByte (ascii '-')).pushU128_spell (Nat.lt_trans randomFits (by decide))
  refine ⟨last, ?_, ?_⟩
  · unfold RequestId.fromParts
    simp only [nanosPushed, randomPushed, Option.bind_eq_bind, Option.bind_some]
  · rw [lastText, RequestId.asStr_pushByte, RequestId.take_take_append, firstText, started,
      List.append_assoc, RequestId.take_take_append, ← List.append_assoc]
    rfl

private theorem isDigit_ascii : ∀ byte : UInt8, isDigit 10 byte = true → byte < 0x80 :=
  forall_byte (by decide +kernel)

private theorem requestIdText_ascii (nanos random : Nat) :
    ∀ byte ∈ requestIdText nanos random, byte < 0x80 := by
  have numeral : ∀ number, ∀ byte ∈ spell 10 number, byte < 0x80 :=
    fun number byte member =>
      isDigit_ascii byte (spell_digits (by decide) (by decide) number byte member)
  intro byte member
  unfold requestIdText at member
  simp only [List.mem_append, List.mem_singleton] at member
  rcases member with ((start | nanosDigit) | rfl) | randomDigit
  · revert byte
    decide
  · exact numeral nanos byte nanosDigit
  · decide
  · exact numeral random byte randomDigit

private theorem requestIdText_length (nanosSmall : nanos < 10 ^ 33) (randomFits : random < 2 ^ 32) :
    (requestIdText nanos random).length ≤ requestIdMaxLen := by
  have nanosDigits : (spell 10 nanos).length ≤ 33 :=
    spell_length_le (by decide) (by decide) nanosSmall
  have randomDigits : (spell 10 random).length ≤ 10 :=
    spell_length_le (by decide) (by decide) (Nat.lt_trans randomFits (by decide))
  have start : (literal "req-").length = 4 := by decide
  unfold requestIdText requestIdMaxLen
  simp only [List.length_append, List.length_singleton]
  omega

private theorem requestIdText_inj {otherNanos otherRandom : Nat}
    (same : requestIdText nanos random = requestIdText otherNanos otherRandom) :
    nanos = otherNanos ∧ random = otherRandom := by
  unfold requestIdText at same
  simp only [List.append_assoc, List.append_cancel_left_eq, List.singleton_append] at same
  have ended : ∀ rest, EndsNumber 10 (ascii '-' :: rest) :=
    fun rest => EndsNumber.cons (by decide)
  have decimal : ∀ number, valueOf 10 (spell 10 number) = number :=
    valueOf_spell (by decide) (by decide)
  obtain ⟨digits, rest⟩ := takeWhile_digits
    (spell_digits (by decide) (by decide) nanos) (ended (spell 10 random))
  obtain ⟨otherDigits, otherRest⟩ := takeWhile_digits
    (spell_digits (by decide) (by decide) otherNanos) (ended (spell 10 otherRandom))
  constructor
  · rw [← decimal nanos, ← digits, same, otherDigits, decimal]
  · have randoms : spell 10 random = spell 10 otherRandom := by
      rw [same, otherRest] at rest
      exact (List.cons.inj rest).2.symm
    rw [← decimal random, randoms, decimal]

structure FaithfulId (nanos random : Nat) (id : RequestId) : Prop where
  bounded : id.asStr.length ≤ requestIdMaxLen
  ascii : ∀ byte ∈ id.asStr, byte < 0x80
  sound : (decodeUtf8 id.asStr).isSome = true
  start : id.asStr <+: requestIdText nanos random
  whole : (requestIdText nanos random).length ≤ requestIdMaxLen →
    id.asStr = requestIdText nanos random

theorem faithfulId_of_text {id : RequestId}
    (text : id.asStr = (requestIdText nanos random).take requestIdMaxLen) :
    FaithfulId nanos random id := by
  have ascii : ∀ byte ∈ id.asStr, byte < 0x80 := by
    intro byte member
    rw [text] at member
    exact requestIdText_ascii nanos random byte (List.mem_of_mem_take member)
  refine
    { bounded := ?_
      ascii := ascii
      sound := ?_
      start := ?_
      whole := fun short => ?_ }
  · rw [id.asStr_length]
    exact id.bounded
  · rw [decodeUtf8_ascii ascii]
    rfl
  · rw [text]
    exact List.take_prefix _ _
  · rw [text, List.take_of_length_le short]

private theorem fromStr_ok_iff {value : Text} {id : RequestId} :
    RequestId.fromStr value = .ok id ↔
      value.length ≤ requestIdMaxLen ∧ id = RequestId.empty.pushBytes value := by
  unfold RequestId.fromStr
  split
  · rename_i long
    constructor
    · intro accepted
      cases accepted
    · rintro ⟨short, _⟩
      omega
  · rename_i short
    constructor
    · intro accepted
      exact ⟨Nat.le_of_not_lt short, (Except.ok.inj accepted).symm⟩
    · rintro ⟨_, rfl⟩
      rfl

/-- Every pair of numbers has an id, the ids of two pairs differ while the first numbers
have at most 33 digits, and reading takes what fits and nothing else. -/
theorem requestIds_faithful :
    (∀ nanos < 2 ^ 128, ∀ random < 2 ^ 32,
      ∃ id, RequestId.fromParts nanos random = some id ∧ FaithfulId nanos random id) ∧
    (∀ nanos < 10 ^ 33, ∀ random < 2 ^ 32, ∀ otherNanos < 10 ^ 33, ∀ otherRandom < 2 ^ 32,
      ∀ id other, RequestId.fromParts nanos random = some id →
        RequestId.fromParts otherNanos otherRandom = some other →
        id.asStr = other.asStr → (nanos, random) = (otherNanos, otherRandom)) ∧
    (∀ value, (∃ id, RequestId.fromStr value = .ok id) ↔ value.length ≤ requestIdMaxLen) ∧
    ∀ value id, RequestId.fromStr value = .ok id → id.asStr = value := by
  have made : ∀ nanos < 10 ^ 33, ∀ random < 2 ^ 32, ∀ id,
      RequestId.fromParts nanos random = some id → id.asStr = requestIdText nanos random := by
    intro nanos nanosSmall random randomFits id parts
    obtain ⟨same, sameParts, text⟩ :=
      fromParts_text (Nat.lt_trans nanosSmall (by decide)) randomFits
    obtain rfl : same = id := Option.some.inj (sameParts.symm.trans parts)
    exact (faithfulId_of_text text).whole (requestIdText_length nanosSmall randomFits)
  refine ⟨?_, ?_, ?_, ?_⟩
  · intro nanos nanosFit random randomFits
    obtain ⟨id, parts, text⟩ := fromParts_text nanosFit randomFits
    exact ⟨id, parts, faithfulId_of_text text⟩
  · intro nanos nanosSmall random randomFits otherNanos otherSmall otherRandom otherFits
      id other parts otherParts same
    rw [made nanos nanosSmall random randomFits id parts,
      made otherNanos otherSmall otherRandom otherFits other otherParts] at same
    obtain ⟨sameNanos, sameRandom⟩ := requestIdText_inj same
    rw [sameNanos, sameRandom]
  · intro value
    constructor
    · rintro ⟨id, accepted⟩
      exact (fromStr_ok_iff.mp accepted).1
    · intro short
      exact ⟨_, fromStr_ok_iff.mpr ⟨short, rfl⟩⟩
  · intro value id accepted
    obtain ⟨short, rfl⟩ := fromStr_ok_iff.mp accepted
    rw [RequestId.asStr_pushBytes (by rw [RequestId.empty, Nat.zero_add]; exact short)]
    rfl

/-- The largest numbers: the numeral of the first leaves room for four digits of the second. -/
theorem longest_requestId_cut :
    (RequestId.fromParts (2 ^ 128 - 1) (2 ^ 32 - 1)).map RequestId.asStr =
        some (literal "req-340282366920938463463374607431768211455-4294") ∧
      ∃ id, RequestId.fromParts (2 ^ 128 - 1) (2 ^ 32 - 1) = some id ∧
        FaithfulId (2 ^ 128 - 1) (2 ^ 32 - 1) id :=
  ⟨by decide +kernel, requestIds_faithful.1 _ (by decide) _ (by decide)⟩

end Pavis.Proxy

/-
The authority of a URL.

An authority stands between two slashes after the scheme and the next slash,
question mark or number sign. It holds a host and, after a colon, a port of
digits. A host without brackets is a registered name: letters, digits, some
marks and percent-encoded bytes.
-/

import Pavis.Library.DigitText

namespace UrlAuthority

open ByteText DigitText

inductive Host where
  | literal (address : Text)
  | name (text : Text)
  deriving DecidableEq

structure Authority where
  host : Host
  port : Option Text
  deriving DecidableEq

def isColon (byte : UInt8) : Bool := byte == ascii ':'

def endsAuthority (byte : UInt8) : Bool :=
  byte == ascii '/' || byte == ascii '?' || byte == ascii '#'

def readPort : Text → Option (Option Text)
  | [] => some none
  | byte :: digits =>
    if isColon byte && digits.all (isDigit 10) then some (some digits) else none

/-- The bytes of a registered name that stand for themselves. -/
def isNameByte (byte : UInt8) : Bool :=
  isAsciiAlphanumeric byte || contains (literal "-._~!$&'()*+,;=") byte

def isRegName : Text → Bool
  | [] => true
  | byte :: rest =>
    if byte == ascii '%' then
      match rest with
      | high :: low :: later => isDigit 16 high && isDigit 16 low && isRegName later
      | _ => false
    else isNameByte byte && isRegName rest

/-- The generic grammar lets a name be empty, the schemes of the web do not. -/
def readNamedHost (text : Text) : Option Authority :=
  let host := text.takeWhile fun byte => !isColon byte
  if host = [] ∨ isRegName host = false then none
  else (readPort (text.dropWhile fun byte => !isColon byte)).map fun port =>
    { host := .name host, port := port }

def readHostPort : Text → Option Authority
  | [] => none
  | byte :: rest =>
    if byte == ascii '[' then
      match splitOnce (ascii ']') rest with
      | none => none
      | some (address, later) => (readPort later).map fun port =>
        { host := .literal address, port := port }
    else readNamedHost (byte :: rest)

def afterUserinfo (authority : Text) : Text :=
  match splitOnce (ascii '@') authority with
  | none => authority
  | some (_, rest) => rest

def readUrl (url : Text) : Option Authority :=
  match splitOnce (ascii ':') url with
  | none => none
  | some (_, later) =>
    match stripPrefix later (literal "//") with
    | none => none
    | some rest => readHostPort (afterUserinfo (rest.takeWhile fun byte => !endsAuthority byte))

/-- The bytes of an authority without user information. -/
def IsAuthority (text : Text) : Prop :=
  contains text (ascii '@') = false ∧ ∀ byte ∈ text, endsAuthority byte = false

/-- The rest of a URL, which begins where the authority ends. -/
def EndsUrl (rest : Text) : Prop := ∀ byte ∈ rest.head?, endsAuthority byte = true

theorem IsAuthority.append {front rest : Text} (own : IsAuthority front)
    (later : IsAuthority rest) : IsAuthority (front ++ rest) := by
  constructor
  · rw [contains_append, own.1, later.1]
    rfl
  · intro byte member
    rcases List.mem_append.mp member with inside | after
    · exact own.2 byte inside
    · exact later.2 byte after

theorem takeWhile_authority {authority rest : Text} (own : IsAuthority authority)
    (ended : EndsUrl rest) :
    (authority ++ rest).takeWhile (fun byte => !endsAuthority byte) = authority := by
  rw [List.takeWhile_append_of_pos fun byte member => by rw [own.2 byte member]; rfl]
  cases rest with
  | nil => rw [List.takeWhile_nil, List.append_nil]
  | cons byte =>
    have stops : endsAuthority byte = true := ended byte rfl
    rw [List.takeWhile_cons_of_neg (by rw [stops]; decide), List.append_nil]

theorem readUrl_authority {scheme authority rest : Text}
    (named : contains scheme (ascii ':') = false) (own : IsAuthority authority)
    (ended : EndsUrl rest) :
    readUrl (scheme ++ literal "://" ++ authority ++ rest) = readHostPort authority := by
  have apart : scheme ++ literal "://" ++ authority ++ rest =
      scheme ++ ascii ':' :: (literal "//" ++ (authority ++ rest)) := by
    simp [literal]
  unfold readUrl
  rw [apart, splitOnce_append named]
  dsimp only
  rw [stripPrefix_append]
  dsimp only
  rw [takeWhile_authority own ended, afterUserinfo, splitOnce_absent own.1]

theorem readHostPort_unbracketed {text : Text} (plain : text.head? ≠ some (ascii '[')) :
    readHostPort text = readNamedHost text := by
  cases text with
  | nil => rfl
  | cons byte =>
    have different : (byte == ascii '[') = false :=
      beq_eq_false_iff_ne.mpr fun same => plain (congrArg some same)
    rw [readHostPort, different]
    rfl

theorem isRegName_of_nameBytes {text : Text} (bytes : ∀ byte ∈ text, isNameByte byte = true) :
    isRegName text = true := by
  induction text with
  | nil => rfl
  | cons byte rest ih =>
    have own := bytes byte List.mem_cons_self
    have plain : (byte == ascii '%') = false := by
      rw [beq_eq_false_iff_ne]
      rintro rfl
      revert own
      decide
    have later := ih fun other member => bytes other (List.mem_cons_of_mem byte member)
    unfold isRegName
    rw [plain, own, later]
    rfl

private theorem plain_of_nameByte : ∀ byte : UInt8,
    isNameByte byte = true ∨ isDigit 16 byte = true ∨ byte = ascii '%' →
      isColon byte = false ∧ endsAuthority byte = false ∧ byte ≠ ascii '@' := by
  refine forall_byte ?_
  decide +kernel

theorem isRegName_bytes {name : Text} (written : isRegName name = true) :
    ∀ byte ∈ name, isNameByte byte = true ∨ isDigit 16 byte = true ∨ byte = ascii '%' := by
  induction name using isRegName.induct with
  | case1 => exact List.forall_mem_nil _
  | case2 byte percent high low later ih =>
    rw [isRegName, if_pos percent, Bool.and_eq_true, Bool.and_eq_true] at written
    simp only [List.forall_mem_cons]
    exact ⟨.inr (.inr (eq_of_beq percent)), .inr (.inl written.1.1), .inr (.inl written.1.2),
      ih written.2⟩
  | case3 byte rest percent short =>
    rw [isRegName, if_pos percent] at written
    · cases written
    · exact short
  | case4 byte rest plain ih =>
    unfold isRegName at written
    rw [if_neg plain, Bool.and_eq_true] at written
    exact List.forall_mem_cons.mpr ⟨.inl written.1, ih written.2⟩

/-- A registered name has none of the bytes that structure a URL. -/
theorem isAuthority_of_isRegName {name : Text} (written : isRegName name = true) :
    IsAuthority name ∧ ∀ byte ∈ name, isColon byte = false := by
  have plain : ∀ byte ∈ name, _ := fun byte member =>
    plain_of_nameByte byte (isRegName_bytes written byte member)
  refine ⟨⟨contains_eq_false.mpr ?_, fun byte member => (plain byte member).2.1⟩,
    fun byte member => (plain byte member).1⟩
  intro member
  exact (plain _ member).2.2 rfl

private theorem isRegName_of_readNamedHost {text name : Text} {port : Option Text}
    (read : readNamedHost text = some { host := .name name, port := port }) :
    name ≠ [] ∧ isRegName name = true := by
  unfold readNamedHost at read
  dsimp only at read
  split at read
  · cases read
  · rename_i written
    obtain ⟨_, _, same⟩ := Option.map_eq_some_iff.mp read
    cases same
    rw [not_or, Bool.not_eq_false] at written
    exact written

private theorem isRegName_of_readHostPort {text name : Text} {port : Option Text}
    (read : readHostPort text = some { host := .name name, port := port }) :
    name ≠ [] ∧ isRegName name = true := by
  cases text with
  | nil => cases read
  | cons byte rest =>
    rw [readHostPort] at read
    by_cases bracket : (byte == ascii '[') = true
    · -- what stands in brackets is no name
      rw [if_pos bracket] at read
      split at read
      · cases read
      · obtain ⟨_, _, same⟩ := Option.map_eq_some_iff.mp read
        cases same
    · rw [if_neg bracket] at read
      exact isRegName_of_readNamedHost read

theorem isRegName_of_readUrl {url name : Text} {port : Option Text}
    (read : readUrl url = some { host := .name name, port := port }) :
    name ≠ [] ∧ isRegName name = true := by
  unfold readUrl at read
  split at read
  · cases read
  · split at read
    · cases read
    · exact isRegName_of_readHostPort read

theorem readHostPort_append {name digits : Text} (nonempty : name ≠ [])
    (written : isRegName name = true) (port : ∀ byte ∈ digits, isDigit 10 byte = true) :
    readHostPort (name ++ ascii ':' :: digits) =
      some { host := .name name, port := some digits } := by
  have notColon : ∀ byte ∈ name, (!isColon byte) = true := by
    intro byte member
    rw [(isAuthority_of_isRegName written).2 byte member]
    rfl
  have plain : (name ++ ascii ':' :: digits).head? ≠ some (ascii '[') := by
    rw [List.head?_append_of_ne_nil _ nonempty]
    intro bracket
    have known := isRegName_bytes written _ (List.mem_of_mem_head? bracket)
    revert known
    decide +kernel
  rw [readHostPort_unbracketed plain]
  unfold readNamedHost
  dsimp only
  rw [List.takeWhile_append_of_pos notColon, List.dropWhile_append_of_pos notColon,
    List.takeWhile_cons_of_neg (by decide), List.dropWhile_cons_of_neg (by decide),
    List.append_nil, if_neg (by simp [nonempty, written]), readPort, List.all_eq_true.mpr port]
  rfl

theorem readNamedHost_colons {text : Text} (many : 2 ≤ text.countP isColon) :
    readNamedHost text = none := by
  unfold readNamedHost
  dsimp only
  split
  · rfl
  · have parted := List.takeWhile_append_dropWhile (p := fun byte => !isColon byte) (l := text)
    have before : (text.takeWhile fun byte => !isColon byte).countP isColon = 0 := by
      rw [List.countP_eq_zero]
      intro byte member colon
      have kept := List.mem_takeWhile_imp member
      rw [colon] at kept
      cases kept
    rw [← parted, List.countP_append, before, Nat.zero_add] at many
    cases later : text.dropWhile fun byte => !isColon byte with
    | nil =>
      rw [later] at many
      cases many
    | cons byte rest =>
      rw [later, List.countP_cons] at many
      have again : 0 < rest.countP isColon := by
        split at many <;> omega
      obtain ⟨colon, member, isColon⟩ := List.countP_pos_iff.mp again
      have notDigits : rest.all (isDigit 10) = false := by
        rw [List.all_eq_false]
        refine ⟨colon, member, ?_⟩
        rw [show colon = ascii ':' from eq_of_beq isColon]
        decide
      rw [readPort, notDigits, Bool.and_false]
      rfl

end UrlAuthority

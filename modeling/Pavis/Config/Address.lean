/-
Addresses as text.

The reader is the standard library's.
-/

import Pavis.Config.Upstream
import Pavis.Library.DigitText

namespace Pavis.Config

open ByteText DigitText

def readGivenChar (given : UInt8) : Text → Option Text
  | [] => none
  | byte :: rest => if byte = given then some rest else none

/-- A separator stands before every item but the first. -/
def readSeparator {α : Type} (separator : UInt8) (index : Nat)
    (inner : Text → Option (α × Text)) (text : Text) : Option (α × Text) :=
  if index > 0 then (readGivenChar separator text).bind inner else inner text

structure Octets where
  one : Nat
  two : Nat
  three : Nat
  four : Nat
  deriving DecidableEq

def readOctet : Text → Option (Nat × Text) := readNumber 10 (some 3) false (2 ^ 8)

def readIpv4Addr (text : Text) : Option (Octets × Text) := do
  let (one, text) ← readSeparator (ascii '.') 0 readOctet text
  let (two, text) ← readSeparator (ascii '.') 1 readOctet text
  let (three, text) ← readSeparator (ascii '.') 2 readOctet text
  let (four, text) ← readSeparator (ascii '.') 3 readOctet text
  return ({ one := one, two := two, three := three, four := four }, text)

def readGroup : Text → Option (Nat × Text) := readNumber 16 (some 4) true (2 ^ 16)

structure ReadGroups where
  groups : List Nat
  embedded : Bool
  rest : Text
  deriving DecidableEq

/-- An embedded address of version four takes the place of two groups. -/
def readGroups : Nat → Nat → Text → ReadGroups
  | 0, _, text => { groups := [], embedded := false, rest := text }
  | remaining + 1, index, text =>
    let ipv4 :=
      if 0 < remaining then readSeparator (ascii ':') index readIpv4Addr text else none
    match ipv4 with
    | some (octets, rest) =>
      { groups := [octets.one * 256 + octets.two, octets.three * 256 + octets.four]
        embedded := true
        rest := rest }
    | none =>
      match readSeparator (ascii ':') index readGroup text with
      | none => { groups := [], embedded := false, rest := text }
      | some (group, rest) =>
        let later := readGroups remaining (index + 1) rest
        { later with groups := group :: later.groups }

def readIpv6Addr (text : Text) : Option (List Nat × Text) :=
  let head := readGroups 8 0 text
  if head.groups.length = 8 then some (head.groups, head.rest)
  else if head.embedded then none
  else do
    let rest ← readGivenChar (ascii ':') head.rest
    let rest ← readGivenChar (ascii ':') rest
    let tail := readGroups (8 - (head.groups.length + 1)) 0 rest
    let zeroes := List.replicate (8 - head.groups.length - tail.groups.length) 0
    return (head.groups ++ zeroes ++ tail.groups, tail.rest)

def Octets.toIpAddr (octets : Octets) : IpAddr :=
  .v4 octets.one.toUInt8 octets.two.toUInt8 octets.three.toUInt8 octets.four.toUInt8

def ofSegments (segments : List Nat) : IpAddr :=
  let segment (index : Nat) : UInt16 := (segments.getD index 0).toUInt16
  .v6 (segment 0) (segment 1) (segment 2) (segment 3) (segment 4) (segment 5) (segment 6)
    (segment 7)

def readIpAddr (text : Text) : Option (IpAddr × Text) :=
  match readIpv4Addr text with
  | some (octets, rest) => some (octets.toIpAddr, rest)
  | none => (readIpv6Addr text).map (fun read => (ofSegments read.1, read.2))

def readPort (text : Text) : Option (Nat × Text) :=
  (readGivenChar (ascii ':') text).bind (readNumber 10 none true (2 ^ 16))

def readScopeId (text : Text) : Option (Nat × Text) :=
  (readGivenChar (ascii '%') text).bind (readNumber 10 none true (2 ^ 32))

def readSocketAddrV4 (text : Text) : Option (SocketAddr × Text) := do
  let (octets, text) ← readIpv4Addr text
  let (port, text) ← readPort text
  return ({ ip := octets.toIpAddr, port := port }, text)

def readSocketAddrV6 (text : Text) : Option (SocketAddr × Text) := do
  let text ← readGivenChar (ascii '[') text
  let (segments, text) ← readIpv6Addr text
  let (scopeId, text) := (readScopeId text).getD (0, text)
  let text ← readGivenChar (ascii ']') text
  let (port, text) ← readPort text
  return ({ ip := ofSegments segments, port := port, scopeId := scopeId }, text)

def readSocketAddr (text : Text) : Option (SocketAddr × Text) :=
  (readSocketAddrV4 text).or (readSocketAddrV6 text)

def parseWith {α : Type} (inner : Text → Option (α × Text)) (text : Text) : Option α :=
  match inner text with
  | some (value, []) => some value
  | _ => none

def IpAddr.parse : Text → Option IpAddr := parseWith readIpAddr

def SocketAddr.parse : Text → Option SocketAddr := parseWith readSocketAddr

def SocketAddr.display (address : SocketAddr) : Text :=
  match address.ip with
  | .v4 _ _ _ _ => address.ip.display ++ literal ":" ++ decimal address.port
  | .v6 _ _ _ _ _ _ _ _ =>
    let zone := if address.scopeId = 0 then [] else literal "%" ++ decimal address.scopeId
    literal "[" ++ address.ip.display ++ zone ++ literal "]:" ++ decimal address.port

example : SocketAddr.parse (literal "[fe80::1%7]:8080") =
    some { ip := .v6 65152 0 0 0 0 0 0 1, port := 8080, scopeId := 7 } := by
  decide +kernel

section

variable {rest : Text}

variable {text : Text} {α : Type} {separator : UInt8} {inner : Text → Option (α × Text)}

private theorem readGivenChar_eq_some {given : UInt8} :
    readGivenChar given text = some rest ↔ text = given :: rest := by
  cases text with
  | nil | cons => simp [readGivenChar]

private theorem readSeparator_zero : readSeparator separator 0 inner text = inner text := rfl

theorem readSeparator_succ {index : Nat} :
    readSeparator separator (index + 1) inner (separator :: text) = inner text := by
  simp [readSeparator, readGivenChar]

theorem readSeparator_eq_some {index : Nat} {read : α × Text}
    (found : readSeparator separator (index + 1) inner text = some read) :
    ∃ later, text = separator :: later ∧ inner later = some read := by
  unfold readSeparator at found
  rw [if_pos (Nat.succ_pos index)] at found
  obtain ⟨later, given, ran⟩ := Option.bind_eq_some_iff.mp found
  exact ⟨later, readGivenChar_eq_some.mp given, ran⟩

private theorem readOctet_decimal (octet : UInt8) (ended : EndsNumber 10 rest) :
    readOctet (decimal octet.toNat ++ rest) = some (octet.toNat, rest) := by
  have below : octet.toNat < 2 ^ 8 := octet.toNat_lt
  apply readNumber_spell (by decide) (by decide) below _ ended
  intro most same
  cases same
  exact ⟨by decide, by omega⟩

theorem displayIpv4_append (a b c d : UInt8) (rest : Text) :
    displayIpv4 a b c d ++ rest =
      decimal a.toNat ++ (ascii '.' :: (decimal b.toNat ++ (ascii '.' ::
        (decimal c.toNat ++ (ascii '.' :: (decimal d.toNat ++ rest)))))) := by
  simp [displayIpv4, List.intercalate, List.intersperse, literal]

private theorem isDigit_dot : isDigit 10 (ascii '.') = false := by decide

theorem readIpv4Addr_display (a b c d : UInt8) (ended : EndsNumber 10 rest) :
    readIpv4Addr (displayIpv4 a b c d ++ rest) =
      some ({ one := a.toNat, two := b.toNat, three := c.toNat, four := d.toNat }, rest) := by
  rw [displayIpv4_append]
  unfold readIpv4Addr
  simp only [readSeparator_zero, readSeparator_succ, Option.bind_eq_bind, Option.bind_some,
    readOctet_decimal _ (EndsNumber.cons isDigit_dot), readOctet_decimal d ended]
  rfl

end

variable {text rest : Text}

private theorem readIpv4Addr_dot {read : Octets × Text} (found : readIpv4Addr text = some read) :
    (text.dropWhile (isDigit 10)).head? = some (ascii '.') := by
  unfold readIpv4Addr at found
  obtain ⟨⟨one, left⟩, first, found⟩ := Option.bind_eq_some_iff.mp found
  obtain ⟨second, separated, _⟩ := Option.bind_eq_some_iff.mp found
  rw [readSeparator_zero] at first
  obtain ⟨later, same, _⟩ := readSeparator_eq_some separated
  rw [← readNumber_rest first, same]
  rfl

theorem dropWhile_digits_head {digits : Text} (all : ∀ byte ∈ digits, isDigit 16 byte = true)
    (notDot : rest.head? ≠ some (ascii '.')) (ended : EndsNumber 16 rest) :
    ((digits ++ rest).dropWhile (isDigit 10)).head? ≠ some (ascii '.') := by
  induction digits with
  | nil =>
    cases rest with
    | nil => simp
    | cons byte later =>
      have decimalEnd : EndsNumber 10 (byte :: later) := ended.mono (by decide)
      have stops := decimalEnd byte rfl
      simpa [stops] using notDot
  | cons byte later ih =>
    rw [List.forall_mem_cons] at all
    rw [List.cons_append, List.dropWhile_cons]
    split
    · exact ih all.2
    · intro same
      cases same
      exact absurd all.1 (by decide)

theorem readIpv4Addr_hexadecimal (group : Nat) (notDot : rest.head? ≠ some (ascii '.'))
    (ended : EndsNumber 16 rest) : readIpv4Addr (hexadecimal group ++ rest) = none := by
  rw [Option.eq_none_iff_forall_not_mem]
  intro read found
  have all : ∀ byte ∈ hexadecimal group, isDigit 16 byte = true :=
    spell_digits (by decide) (by decide) group
  exact dropWhile_digits_head all notDot ended (readIpv4Addr_dot found)

theorem readIpv4Addr_endsNumber (ended : EndsNumber 10 text) : readIpv4Addr text = none := by
  have none : readOctet text = none := readNumber_endsNumber ended
  simp [readIpv4Addr, readSeparator_zero, none]

/-! ### Groups -/

/-- No group follows, and no octets that would take the place of groups. -/
structure StopsGroups (rest : Text) : Prop where
  notDigit : EndsNumber 16 rest
  notDot : rest.head? ≠ some (ascii '.')
  notGroup : ∀ later, rest = ascii ':' :: later → EndsNumber 16 later

theorem readGroup_hexadecimal {group : Nat} (below : group < 2 ^ 16) (ended : EndsNumber 16 rest) :
    readGroup (hexadecimal group ++ rest) = some (group, rest) := by
  apply readNumber_spell (by decide) (by decide) below _ ended
  intro most same
  cases same
  exact ⟨by decide, by omega⟩

def spelledGroups : Nat → List Nat → Text
  | _, [] => []
  | 0, group :: later => hexadecimal group ++ spelledGroups 1 later
  | index + 1, group :: later =>
    ascii ':' :: (hexadecimal group ++ spelledGroups (index + 2) later)

theorem spelledGroups_stops (index : Nat) (groups : List Nat) (stops : StopsGroups rest) :
    EndsNumber 16 (spelledGroups (index + 1) groups ++ rest) ∧
      (spelledGroups (index + 1) groups ++ rest).head? ≠ some (ascii '.') := by
  cases groups with
  | nil => exact ⟨stops.notDigit, stops.notDot⟩
  | cons => exact ⟨EndsNumber.cons (by decide), by simp [spelledGroups]; decide⟩

theorem readGroups_stops (remaining index : Nat) (stops : StopsGroups rest) :
    readGroups remaining index rest = { groups := [], embedded := false, rest := rest } := by
  have noOctets : readSeparator (ascii ':') index readIpv4Addr rest = none := by
    cases index with
    | zero => exact readIpv4Addr_endsNumber (stops.notDigit.mono (by decide))
    | succ =>
      rw [Option.eq_none_iff_forall_not_mem]
      intro read found
      obtain ⟨later, same, ran⟩ := readSeparator_eq_some found
      have ended : EndsNumber 10 later := (stops.notGroup later same).mono (by decide)
      rw [readIpv4Addr_endsNumber ended] at ran
      cases ran
  have noGroup : readSeparator (ascii ':') index readGroup rest = none := by
    cases index with
    | zero => exact readNumber_endsNumber stops.notDigit
    | succ =>
      rw [Option.eq_none_iff_forall_not_mem]
      intro read found
      obtain ⟨later, same, ran⟩ := readSeparator_eq_some found
      have none : readGroup later = none := readNumber_endsNumber (stops.notGroup later same)
      rw [none] at ran
      cases ran
  cases remaining with
  | zero => rfl
  | succ => simp [readGroups, noOctets, noGroup]

private theorem readGroups_spelled {groups : List Nat} {remaining index : Nat}
    (below : ∀ group ∈ groups, group < 2 ^ 16) (short : groups.length ≤ remaining)
    (stops : StopsGroups rest) :
    readGroups remaining index (spelledGroups index groups ++ rest) =
      { groups := groups, embedded := false, rest := rest } := by
  induction groups generalizing remaining index with
  | nil => exact readGroups_stops remaining index stops
  | cons group later ih =>
    rw [List.forall_mem_cons] at below
    obtain ⟨remaining, rfl⟩ : ∃ fewer, remaining = fewer + 1 :=
      Nat.exists_eq_succ_of_ne_zero (by simp at short; omega)
    obtain ⟨ended, notDot⟩ := spelledGroups_stops index later stops
    have noOctets :
        readSeparator (ascii ':') index readIpv4Addr
          (spelledGroups index (group :: later) ++ rest) = none := by
      cases index with
      | zero =>
        rw [spelledGroups, List.append_assoc]
        exact readIpv4Addr_hexadecimal group notDot ended
      | succ =>
        rw [spelledGroups, List.cons_append, List.append_assoc, readSeparator_succ]
        exact readIpv4Addr_hexadecimal group notDot ended
    have oneGroup :
        readSeparator (ascii ':') index readGroup
          (spelledGroups index (group :: later) ++ rest) =
            some (group, spelledGroups (index + 1) later ++ rest) := by
      cases index with
      | zero =>
        rw [spelledGroups, List.append_assoc]
        exact readGroup_hexadecimal below.1 ended
      | succ =>
        rw [spelledGroups, List.cons_append, List.append_assoc, readSeparator_succ]
        exact readGroup_hexadecimal below.1 ended
    have others :
        readGroups remaining (index + 1) (spelledGroups (index + 1) later ++ rest) =
          { groups := later, embedded := false, rest := rest } :=
      ih below.2 (Nat.le_of_succ_le_succ short)
    rw [readGroups, noOctets, oneGroup, ite_self]
    simp only [others]

theorem spelledGroups_succ (index : Nat) (groups : List Nat) :
    spelledGroups (index + 1) groups =
      groups.flatMap (fun group => ascii ':' :: hexadecimal group) := by
  induction groups generalizing index with
  | nil => rfl
  | cons group later ih => simp [spelledGroups, ih]

theorem displaySegments_eq_spelledGroups (segments : List Nat) :
    displaySegments segments = spelledGroups 0 segments := by
  cases segments with
  | nil => rfl
  | cons segment later =>
    rw [spelledGroups, spelledGroups_succ]
    induction later generalizing segment with
    | nil => simp [displaySegments, List.intercalate]
    | cons next later ih =>
      have shorter := ih next
      simp only [displaySegments, List.intercalate, List.map_cons, List.intersperse_cons_cons,
        List.flatten_cons, List.flatMap_cons] at shorter ⊢
      rw [shorter]
      simp [literal]

variable {segments : List Nat}

theorem readGroups_displaySegments {remaining : Nat}
    (below : ∀ segment ∈ segments, segment < 2 ^ 16) (short : segments.length ≤ remaining)
    (stops : StopsGroups rest) :
    readGroups remaining 0 (displaySegments segments ++ rest) =
      { groups := segments, embedded := false, rest := rest } := by
  rw [displaySegments_eq_spelledGroups]
  exact readGroups_spelled below short stops

def ZeroSpan (segments : List Nat) (span : Span) : Prop :=
  ∀ index, span.start ≤ index → index < span.start + span.len → segments[index]? = some 0

structure Scanned (segments : List Nat) (spans : Span × Span) : Prop where
  longest : ZeroSpan segments spans.1
  current : ZeroSpan segments spans.2
  adjacent : spans.2.len ≠ 0 → spans.2.start + spans.2.len = segments.length

variable {span : Span}

theorem ZeroSpan.append (zeros : ZeroSpan segments span) (later : List Nat) :
    ZeroSpan (segments ++ later) span := by
  intro index first last
  have found := zeros index first last
  rw [List.getElem?_append_left (List.getElem?_eq_some_iff.mp found).1]
  exact found

theorem ZeroSpan.empty (segments : List Nat) (start : Nat) :
    ZeroSpan segments { start := start, len := 0 } := by
  intro index first last
  exact absurd (Nat.lt_of_lt_of_le last first) (Nat.lt_irrefl _)

theorem ZeroSpan.ite {one other : Span} {condition : Prop} [Decidable condition]
    (first : ZeroSpan segments one) (second : ZeroSpan segments other) :
    ZeroSpan segments (if condition then one else other) := by
  split
  · exact first
  · exact second

theorem ZeroSpan.extend {start len : Nat} (zeros : ZeroSpan segments { start := start, len := len })
    (adjacent : start + len = segments.length) :
    ZeroSpan (segments ++ [0]) { start := start, len := len + 1 } := by
  intro index first last
  rcases Nat.lt_or_ge index (start + len) with inside | new
  · exact (zeros.append [0]) index first inside
  · have same : index = segments.length := by
      change index < start + (len + 1) at last
      omega
    rw [same, List.getElem?_append_right (Nat.le_refl _), Nat.sub_self]
    rfl

theorem Scanned.step {spans : Span × Span} (scanned : Scanned segments spans) (segment : Nat) :
    Scanned (segments ++ [segment]) (scanSegment spans (segment, segments.length)) := by
  unfold scanSegment
  split
  · rename_i zero
    cases zero
    have current :
        ZeroSpan (segments ++ [0])
          { start := if spans.2.len = 0 then segments.length else spans.2.start
            len := spans.2.len + 1 } := by
      split
      · rename_i fresh
        rw [fresh]
        exact ZeroSpan.extend (ZeroSpan.empty segments _) rfl
      · rename_i running
        exact ZeroSpan.extend scanned.current (scanned.adjacent running)
    refine ⟨?_, current, ?_⟩
    · exact ZeroSpan.ite current (scanned.longest.append [0])
    · intro _
      rw [List.length_append]
      change (if spans.2.len = 0 then segments.length else spans.2.start) + (spans.2.len + 1) =
        segments.length + 1
      split
      · rename_i fresh
        rw [fresh]
      · rename_i running
        have adjacent := scanned.adjacent running
        omega
  · exact ⟨scanned.longest.append _, ZeroSpan.empty _ 0, fun nonzero => absurd rfl nonzero⟩

theorem Scanned.run {before later : List Nat} {spans : Span × Span}
    (scanned : Scanned before spans) :
    Scanned (before ++ later) ((later.zipIdx before.length).foldl scanSegment spans) := by
  induction later generalizing before spans with
  | nil =>
    rw [List.append_nil]
    exact scanned
  | cons segment later ih =>
    have after := ih (scanned.step segment)
    rw [List.length_append] at after
    rw [List.zipIdx_cons, List.foldl_cons, List.append_cons]
    exact after

theorem longestZeros_zeroSpan (segments : List Nat) :
    ZeroSpan segments (longestZeros segments) := by
  have start : Scanned [] (({ start := 0, len := 0 } : Span), ({ start := 0, len := 0 } : Span)) :=
    ⟨ZeroSpan.empty [] 0, ZeroSpan.empty [] 0, fun nonzero => absurd rfl nonzero⟩
  have scanned : Scanned segments ((segments.zipIdx 0).foldl scanSegment _) := start.run
  exact scanned.longest

private theorem segments_around_zeros (zeros : ZeroSpan segments span) :
    segments.take span.start ++ List.replicate span.len 0 ++
      segments.drop (span.start + span.len) = segments := by
  have middle : (segments.drop span.start).take span.len = List.replicate span.len 0 := by
    apply List.ext_getElem?
    intro index
    rcases Nat.lt_or_ge index span.len with inside | outside
    · rw [List.getElem?_take_of_lt inside, List.getElem?_drop,
        zeros _ (Nat.le_add_right _ _) (Nat.add_lt_add_left inside _),
        List.getElem?_replicate_of_lt inside]
    · rw [List.getElem?_eq_none (by rw [List.length_take]; omega),
        List.getElem?_eq_none (by rw [List.length_replicate]; exact outside)]
  rw [← middle, List.append_assoc, ← List.drop_drop, List.take_append_drop,
    List.take_append_drop]

theorem ZeroSpan.within (zeros : ZeroSpan segments span) (nonempty : 0 < span.len) :
    span.start + span.len ≤ segments.length := by
  have last := zeros (span.start + span.len - 1) (by omega) (by omega)
  have bound := (List.getElem?_eq_some_iff.mp last).1
  omega

/-! ### Addresses -/

theorem stopsGroups_colons (rest : Text) : StopsGroups (ascii ':' :: ascii ':' :: rest) where
  notDigit := EndsNumber.cons (by decide)
  notDot := by
    intro same
    exact absurd (Option.some.inj same) (by decide)
  notGroup := by
    intro later same
    cases same
    exact EndsNumber.cons (by decide)

private theorem readIpv6Addr_elided {first last : List Nat} (short : first.length + last.length ≤ 7)
    (belowFirst : ∀ segment ∈ first, segment < 2 ^ 16)
    (belowLast : ∀ segment ∈ last, segment < 2 ^ 16) (stops : StopsGroups rest) :
    readIpv6Addr (displaySegments first ++ literal "::" ++ displaySegments last ++ rest) =
      some (first ++ List.replicate (8 - first.length - last.length) 0 ++ last, rest) := by
  have shape :
      displaySegments first ++ literal "::" ++ displaySegments last ++ rest =
        displaySegments first ++ (ascii ':' :: ascii ':' :: (displaySegments last ++ rest)) := by
    simp [literal]
  have readFirst :
      readGroups 8 0 (displaySegments first ++
          (ascii ':' :: ascii ':' :: (displaySegments last ++ rest))) =
        { groups := first
          embedded := false
          rest := ascii ':' :: ascii ':' :: (displaySegments last ++ rest) } :=
    readGroups_displaySegments belowFirst (by omega) (stopsGroups_colons _)
  have readLast :
      readGroups (8 - (first.length + 1)) 0 (displaySegments last ++ rest) =
        { groups := last, embedded := false, rest := rest } :=
    readGroups_displaySegments belowLast (by omega) stops
  rw [shape]
  unfold readIpv6Addr
  simp only [readFirst, readGivenChar, if_true, Option.bind_eq_bind, Option.bind_some, readLast]
  rw [if_neg (by omega)]
  rfl

private theorem readIpv6Addr_display (eight : segments.length = 8)
    (below : ∀ segment ∈ segments, segment < 2 ^ 16) (stops : StopsGroups rest) :
    readIpv6Addr (displayIpv6 segments ++ rest) = some (segments, rest) := by
  have zeros := longestZeros_zeroSpan segments
  unfold displayIpv6
  generalize longestZeros segments = span at zeros
  dsimp only
  split
  · rename_i several
    have within := zeros.within (by omega)
    have firstLength : (segments.take span.start).length = span.start := by
      rw [List.length_take]
      omega
    have lastLength :
        (segments.drop (span.start + span.len)).length = 8 - (span.start + span.len) := by
      rw [List.length_drop, eight]
    have filled : 8 - span.start - (8 - (span.start + span.len)) = span.len := by omega
    rw [readIpv6Addr_elided (by omega)
      (fun segment member => below segment (List.mem_of_mem_take member))
      (fun segment member => below segment (List.mem_of_mem_drop member)) stops,
      firstLength, lastLength, filled, segments_around_zeros zeros]
  · have readAll :
        readGroups 8 0 (displaySegments segments ++ rest) =
          { groups := segments, embedded := false, rest := rest } :=
      readGroups_displaySegments below (by omega) stops
    unfold readIpv6Addr
    simp only [readAll]
    rw [if_pos eight]

private theorem readIpv6Addr_mapped (g h : UInt16) (ended : EndsNumber 10 rest) :
    readIpv6Addr (literal "::ffff:" ++
        displayIpv4 (g / 256).toUInt8 g.toUInt8 (h / 256).toUInt8 h.toUInt8 ++ rest) =
      some ([0, 0, 0, 0, 0, 65535, g.toNat, h.toNat], rest) := by
  let octets := displayIpv4 (g / 256).toUInt8 g.toUInt8 (h / 256).toUInt8 h.toUInt8 ++ rest
  have shape :
      literal "::ffff:" ++
          displayIpv4 (g / 256).toUInt8 g.toUInt8 (h / 256).toUInt8 h.toUInt8 ++ rest =
        ascii ':' :: ascii ':' :: (hexadecimal 65535 ++ (ascii ':' :: octets)) := by
    rw [List.append_assoc]
    rfl
  have readColons := readGroups_stops 8 0 (stopsGroups_colons (hexadecimal 65535 ++
    (ascii ':' :: octets)))
  have colonEnds : EndsNumber 16 (ascii ':' :: octets) := EndsNumber.cons (by decide)
  have noOctets : readIpv4Addr (hexadecimal 65535 ++ (ascii ':' :: octets)) = none :=
    readIpv4Addr_hexadecimal 65535 (fun same => absurd (Option.some.inj same) (by decide)) colonEnds
  have small : 65535 < 2 ^ 16 := by decide
  have oneGroup := readGroup_hexadecimal small colonEnds
  have readOctets := readIpv4Addr_display (g / 256).toUInt8 g.toUInt8 (h / 256).toUInt8 h.toUInt8
    ended
  have joined : ∀ segment : UInt16,
      (segment / 256).toUInt8.toNat * 256 + segment.toUInt8.toNat = segment.toNat := by
    intro segment
    have bound := segment.toNat_lt
    simp only [UInt16.toNat_toUInt8, UInt16.toNat_div, UInt16.reduceToNat]
    omega
  have readEmbedded :
      readGroups 6 1 (ascii ':' :: octets) =
        { groups := [g.toNat, h.toNat], embedded := true, rest := rest } := by
    rw [readGroups]
    simp only [Nat.zero_lt_succ, if_true, readSeparator_succ, octets, readOctets, joined]
  have readTail :
      readGroups 7 0 (hexadecimal 65535 ++ (ascii ':' :: octets)) =
        { groups := [65535, g.toNat, h.toNat], embedded := true, rest := rest } := by
    rw [readGroups]
    simp [readSeparator_zero, noOctets, oneGroup, readEmbedded]
  rw [shape]
  unfold readIpv6Addr
  simp only [readColons]
  simp [readGivenChar, readTail]

theorem readIpv6Addr_v6 (a b c d e f g h : UInt16) (stops : StopsGroups rest) :
    readIpv6Addr ((IpAddr.v6 a b c d e f g h).display ++ rest) =
      some ([a.toNat, b.toNat, c.toNat, d.toNat, e.toNat, f.toNat, g.toNat, h.toNat], rest) := by
  unfold IpAddr.display
  split
  · rename_i same
    cases same
  · rename_i same
    cases same
    exact readIpv6Addr_mapped g h (stops.notDigit.mono (by decide))
  · rename_i same
    cases same
    apply readIpv6Addr_display rfl _ stops
    have below : ∀ segment : UInt16, segment.toNat < 2 ^ 16 := UInt16.toNat_lt
    simp only [List.forall_mem_cons, below, List.not_mem_nil, false_imp_iff, implies_true, and_self]

private theorem readIpv4Addr_displaySegments (segments : List Nat) (stops : StopsGroups rest) :
    readIpv4Addr (displaySegments segments ++ rest) = none := by
  rw [displaySegments_eq_spelledGroups]
  cases segments with
  | nil => exact readIpv4Addr_endsNumber (stops.notDigit.mono (by decide))
  | cons segment later =>
    obtain ⟨ended, notDot⟩ := spelledGroups_stops 0 later stops
    rw [spelledGroups, List.append_assoc]
    exact readIpv4Addr_hexadecimal segment notDot ended

theorem stopsGroups_nil : StopsGroups [] where
  notDigit := by
    intro byte leading
    cases leading
  notDot := by
    intro same
    cases same
  notGroup := by
    intro later same
    cases same

private theorem readIpv4Addr_v6 (a b c d e f g h : UInt16) :
    readIpv4Addr (IpAddr.v6 a b c d e f g h).display = none := by
  unfold IpAddr.display
  split
  · rename_i same
    cases same
  · exact readIpv4Addr_endsNumber (EndsNumber.cons (by decide))
  · unfold displayIpv6
    dsimp only
    split
    · rw [List.append_assoc]
      exact readIpv4Addr_displaySegments _ (stopsGroups_colons _)
    · rw [← List.append_nil (displaySegments _)]
      exact readIpv4Addr_displaySegments _ stopsGroups_nil

theorem Octets.toIpAddr_toNat (a b c d : UInt8) :
    toIpAddr { one := a.toNat, two := b.toNat, three := c.toNat, four := d.toNat } =
      .v4 a b c d := by
  simp [toIpAddr]

theorem ofSegments_toNat (a b c d e f g h : UInt16) :
    ofSegments [a.toNat, b.toNat, c.toNat, d.toNat, e.toNat, f.toNat, g.toNat, h.toNat] =
      .v6 a b c d e f g h := by
  simp [ofSegments]

theorem parseWith_eq_some {α : Type} {inner : Text → Option (α × Text)} {value : α} :
    parseWith inner text = some value ↔ inner text = some (value, []) := by
  unfold parseWith
  constructor
  · intro parsed
    split at parsed
    · rename_i read same
      cases parsed
      exact same
    · cases parsed
  · intro same
    rw [same]

theorem endsNumber_nil (radix : Nat) : EndsNumber radix [] := by
  intro byte leading
  cases leading

theorem IpAddr.parse_display (address : IpAddr) : parse address.display = some address := by
  apply parseWith_eq_some.mpr
  unfold readIpAddr
  cases address with
  | v4 a b c d =>
    have read := readIpv4Addr_display a b c d (endsNumber_nil 10)
    rw [List.append_nil] at read
    simp only [display, read, Octets.toIpAddr_toNat]
  | v6 a b c d e f g h =>
    have read := readIpv6Addr_v6 a b c d e f g h stopsGroups_nil
    rw [List.append_nil] at read
    simp only [readIpv4Addr_v6, read, Option.map_some, ofSegments_toNat]

/-! ### Socket addresses -/

/-- What fits the fields of a socket address. -/
structure SocketAddr.WellFormed (address : SocketAddr) : Prop where
  port : address.port < 2 ^ 16
  scopeId : address.scopeId < 2 ^ 32
  unscoped : ∀ a b c d, address.ip = .v4 a b c d → address.scopeId = 0

variable {port : Nat}

theorem readPort_decimal (below : port < 2 ^ 16) :
    readPort (literal ":" ++ decimal port) = some (port, []) := by
  have read :
      readNumber 10 none true (2 ^ 16) (spell 10 port ++ []) = some (port, []) :=
    readNumber_spell (by decide) (by decide) below (fun _ limited => nomatch limited)
      (endsNumber_nil 10)
  rw [List.append_nil] at read
  exact read

private theorem readScopeId_decimal {scopeId : Nat} (below : scopeId < 2 ^ 32)
    (ended : EndsNumber 10 rest) :
    readScopeId (literal "%" ++ decimal scopeId ++ rest) = some (scopeId, rest) :=
  readNumber_spell (by decide) (by decide) below (fun _ limited => nomatch limited) ended

private theorem stopsGroups_cons {byte : UInt8} (notDigit : isDigit 16 byte = false)
    (notDot : byte ≠ ascii '.') (notColon : byte ≠ ascii ':') :
    StopsGroups (byte :: rest) where
  notDigit := EndsNumber.cons notDigit
  notDot := fun same => notDot (Option.some.inj same)
  notGroup := fun _ same => absurd (List.cons.inj same).1 notColon

private theorem readSocketAddrV4_display (a b c d : UInt8) (below : port < 2 ^ 16) :
    readSocketAddrV4 (displayIpv4 a b c d ++ literal ":" ++ decimal port) =
      some ({ ip := .v4 a b c d, port := port }, []) := by
  have ended : EndsNumber 10 (literal ":" ++ decimal port) := EndsNumber.cons (by decide)
  have readOctets := readIpv4Addr_display a b c d ended
  unfold readSocketAddrV4
  rw [List.append_assoc, readOctets]
  simp only [Option.bind_eq_bind, Option.bind_some, readPort_decimal below, Octets.toIpAddr_toNat]
  rfl

theorem readSocketAddrV6_display (a b c d e f g h : UInt16) {scopeId : Nat} (below : port < 2 ^ 16)
    (belowScope : scopeId < 2 ^ 32) : let address : SocketAddr :=
      { ip := .v6 a b c d e f g h, port := port, scopeId := scopeId }
    readSocketAddrV6 address.display = some (address, []) := by
  intro address
  let closing := literal "]:" ++ decimal port
  let zone := if scopeId = 0 then [] else literal "%" ++ decimal scopeId
  have shape :
      address.display = ascii '[' :: (address.ip.display ++ (zone ++ closing)) := by
    change literal "[" ++ address.ip.display ++ zone ++ literal "]:" ++ decimal port = _
    simp [closing, literal]
  have closes : readGivenChar (ascii ']') closing = some (literal ":" ++ decimal port) := rfl
  have stops : StopsGroups (zone ++ closing) := by
    dsimp only [zone]
    split <;> exact stopsGroups_cons (by decide) (by decide) (by decide)
  have readZone :
      (readScopeId (zone ++ closing)).getD (0, zone ++ closing) = (scopeId, closing) := by
    dsimp only [zone]
    split
    · rename_i unscoped
      rw [unscoped]
      rfl
    · have ended : EndsNumber 10 closing := EndsNumber.cons (by decide)
      rw [readScopeId_decimal belowScope ended]
      rfl
  have readIp := readIpv6Addr_v6 a b c d e f g h stops
  unfold readSocketAddrV6
  rw [shape]
  change (readIpv6Addr (address.ip.display ++ (zone ++ closing))).bind _ = _
  rw [readIp]
  simp only [Option.bind_some, readZone, closes, Option.bind_eq_bind, readPort_decimal below,
    ofSegments_toNat]
  rfl

theorem SocketAddr.parse_display {address : SocketAddr} (wellFormed : address.WellFormed) :
    parse address.display = some address := by
  obtain ⟨ip, port, scopeId⟩ := address
  obtain ⟨below, belowScope, unscoped⟩ := wellFormed
  apply parseWith_eq_some.mpr
  apply Option.or_eq_some_iff.mpr
  cases ip with
  | v4 a b c d =>
    cases unscoped a b c d rfl
    exact .inl (readSocketAddrV4_display a b c d below)
  | v6 a b c d e f g h =>
    refine .inr ⟨?_, readSocketAddrV6_display a b c d e f g h below belowScope⟩
    have bracket :
        EndsNumber 10
          (display { ip := .v6 a b c d e f g h, port := port, scopeId := scopeId }) :=
      EndsNumber.cons (by decide)
    unfold readSocketAddrV4
    rw [readIpv4Addr_endsNumber bracket]
    rfl

private theorem readPort_lt (read : readPort text = some (port, rest)) : port < 2 ^ 16 := by
  obtain ⟨_, _, ran⟩ := Option.bind_eq_some_iff.mp read
  exact readNumber_lt ran

theorem SocketAddr.parse_wellFormed {address : SocketAddr}
    (parsed : parse text = some address) : address.WellFormed := by
  rcases Option.or_eq_some_iff.mp (parseWith_eq_some.mp parsed) with version4 | ⟨_, version6⟩
  · obtain ⟨⟨octets, left⟩, _, later⟩ := Option.bind_eq_some_iff.mp version4
    obtain ⟨⟨port, left⟩, readPort, built⟩ := Option.bind_eq_some_iff.mp later
    cases built
    exact ⟨readPort_lt readPort, Nat.two_pow_pos 32, fun _ _ _ _ _ => rfl⟩
  · obtain ⟨opened, _, later⟩ := Option.bind_eq_some_iff.mp version6
    obtain ⟨⟨segments, left⟩, _, later⟩ := Option.bind_eq_some_iff.mp later
    obtain ⟨closed, _, later⟩ := Option.bind_eq_some_iff.mp later
    obtain ⟨⟨port, last⟩, readPort, built⟩ := Option.bind_eq_some_iff.mp later
    cases built
    refine ⟨readPort_lt readPort, ?_, fun _ _ _ _ version => nomatch version⟩
    change ((readScopeId left).getD (0, left)).1 < 2 ^ 32
    cases zone : readScopeId left with
    | none => exact Nat.two_pow_pos 32
    | some =>
      obtain ⟨_, _, ran⟩ := Option.bind_eq_some_iff.mp zone
      exact readNumber_lt ran

def isAddressByte (byte : UInt8) : Bool :=
  isDigit 16 byte || byte == ascii '.' || byte == ascii ':'

theorem isAddressByte_of_digit {radix : Nat} (small : radix ≤ 16) {byte : UInt8}
    (digit : isDigit radix byte = true) : isAddressByte byte = true := by
  unfold isAddressByte
  rw [isDigit_mono small digit]
  rfl

theorem decimal_digits (number : Nat) : ∀ byte ∈ decimal number, isDigit 10 byte = true :=
  spell_digits (by decide) (by decide) number

theorem hexadecimal_digits (number : Nat) : ∀ byte ∈ hexadecimal number, isDigit 16 byte = true :=
  spell_digits (by decide) (by decide) number

theorem displayIpv4_bytes (a b c d : UInt8) :
    ∀ byte ∈ displayIpv4 a b c d, isDigit 10 byte = true ∨ byte = ascii '.' := by
  intro byte member
  rw [← List.append_nil (displayIpv4 a b c d), displayIpv4_append] at member
  simp only [List.mem_append, List.mem_cons, List.not_mem_nil, or_false] at member
  rcases member with digit | dot | digit | dot | digit | dot | digit
  · exact Or.inl (decimal_digits _ byte digit)
  · exact Or.inr dot
  · exact Or.inl (decimal_digits _ byte digit)
  · exact Or.inr dot
  · exact Or.inl (decimal_digits _ byte digit)
  · exact Or.inr dot
  · exact Or.inl (decimal_digits _ byte digit)

private theorem displayIpv4_addressBytes (a b c d : UInt8) :
    ∀ byte ∈ displayIpv4 a b c d, isAddressByte byte = true := by
  intro byte member
  rcases displayIpv4_bytes a b c d byte member with digit | rfl
  · exact isAddressByte_of_digit (by decide) digit
  · rfl

private theorem displaySegments_addressBytes (segments : List Nat) :
    ∀ byte ∈ displaySegments segments, isAddressByte byte = true := by
  intro byte member
  rw [displaySegments_eq_spelledGroups] at member
  cases segments with
  | nil => cases member
  | cons =>
    rw [spelledGroups, spelledGroups_succ, List.mem_append, List.mem_flatMap] at member
    rcases member with digit | ⟨group, _, colon | ⟨_, digit⟩⟩
    · exact isAddressByte_of_digit (by decide) (hexadecimal_digits _ byte digit)
    · rfl
    · exact isAddressByte_of_digit (by decide) (hexadecimal_digits _ byte digit)

private theorem displayIpv6_addressBytes (segments : List Nat) :
    ∀ byte ∈ displayIpv6 segments, isAddressByte byte = true := by
  unfold displayIpv6
  dsimp only
  split
  · have elided : (literal "::").all isAddressByte = true := by decide
    intro byte member
    rw [List.mem_append, List.mem_append] at member
    rcases member with (front | colons) | back
    · exact displaySegments_addressBytes _ byte front
    · exact List.all_eq_true.mp elided byte colons
    · exact displaySegments_addressBytes _ byte back
  · exact displaySegments_addressBytes segments

theorem display_addressBytes (address : IpAddr) :
    ∀ byte ∈ address.display, isAddressByte byte = true := by
  unfold IpAddr.display
  split
  · exact displayIpv4_addressBytes _ _ _ _
  · have mapped : (literal "::ffff:").all isAddressByte = true := by decide
    intro byte member
    rcases List.mem_append.mp member with front | octets
    · exact List.all_eq_true.mp mapped byte front
    · exact displayIpv4_addressBytes _ _ _ _ byte octets
  · exact displayIpv6_addressBytes _

end Pavis.Config

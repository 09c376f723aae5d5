/-
The header policy of a route, applied to a request or a response.

A rule whose name or value the HTTP library does not take is passed over.
-/

import Pavis.Config.Accepted
import Pavis.Library.Multimap

namespace Pavis.Proxy

open ByteText Config Fallible Multimap

private theorem isTokenByte_lowercase : ∀ byte : UInt8,
    isTokenByte byte = true → isTokenByte (toAsciiLowercase byte) = true := by
  refine forall_byte ?_
  decide +kernel

theorem isHeaderName_lowercase {name : Text} (token : isHeaderName name = true) :
    isHeaderName (name.map toAsciiLowercase) = true := by
  simp only [isHeaderName, bne_iff_ne, ne_eq, Bool.and_eq_true, decide_eq_true_eq,
    List.map_eq_nil_iff, List.length_map, List.all_map, List.all_eq_true] at token ⊢
  exact ⟨token.1, fun byte member => isTokenByte_lowercase byte (token.2 byte member)⟩

/-- Header names are kept in lower case. -/
structure HeaderName where
  bytes : Text
  token : isHeaderName bytes = true
  lower : bytes.map toAsciiLowercase = bytes
  deriving DecidableEq

def HeaderName.fromStr (text : Text) : Option HeaderName :=
  if token : isHeaderName text = true then
    some ⟨text.map toAsciiLowercase, isHeaderName_lowercase token, lowercase_lowercase text⟩
  else none

structure HeaderValue where
  bytes : Bytes
  allowed : isHeaderValue bytes = true
  deriving DecidableEq

def HeaderValue.fromBytes (bytes : Bytes) : Option HeaderValue :=
  if allowed : isHeaderValue bytes = true then some ⟨bytes, allowed⟩ else none

def HeaderValue.fromStr (text : Text) : Option HeaderValue := fromBytes text

abbrev HeaderMap := Entries HeaderName HeaderValue

/-- A name that is no header name is not in the map. -/
def HeaderMap.get (headers : HeaderMap) (name : Text) : Option HeaderValue :=
  (HeaderName.fromStr name).bind fun key => (getAll headers key).head?

def HeaderMap.removeHeader (headers : HeaderMap) (name : Text) : HeaderMap :=
  match HeaderName.fromStr name with
  | some key => remove headers key
  | none => headers

def nonJoinableHeaders : List Text := [literal "set-cookie"]

def isNonJoinable (name : Text) : Bool :=
  nonJoinableHeaders.any fun header => eqIgnoreAsciiCase name header

/-- One value of the loop: what has been joined so far, and whether there was a value. -/
def joinStep (joined : Bytes × Bool) (value : HeaderValue) : Bytes × Bool :=
  ((if joined.2 then joined.1 ++ literal ", " else joined.1) ++ value.bytes, true)

def buildJoinedValue (values : List HeaderValue) (appended : HeaderValue) : Option Bytes :=
  let joined := values.foldl joinStep ([], false)
  if joined.2 then some (joined.1 ++ literal ", " ++ appended.bytes) else none

def applySet (headers : HeaderMap) (header : Text × Text) : HeaderMap :=
  match HeaderName.fromStr header.1, HeaderValue.fromStr header.2 with
  | some key, some value => insert headers key value
  | _, _ => headers

def applyAppend (headers : HeaderMap) (header : Text × Text) : HeaderMap :=
  match HeaderName.fromStr header.1, HeaderValue.fromStr header.2 with
  | some name, some value =>
    if isNonJoinable header.1 then append headers name value
    else if (getAll headers name).isEmpty then insert headers name value
    else
      match buildJoinedValue (getAll headers name) value with
      | some buffer =>
        match HeaderValue.fromBytes buffer with
        | some joined => insert (remove headers name) name joined
        | none => headers
      | none => insert headers name value
  | _, _ => headers

def applyAdd (headers : HeaderMap) (header : Text × Text) : HeaderMap :=
  if (headers.get header.1).isNone then applySet headers header else headers

def proxyBy : HeaderName := ⟨literal "x-proxy-by", by decide, by decide⟩

def pavis : HeaderValue := ⟨literal "Pavis", by decide⟩

def applyHeaders (headers : HeaderMap) (policy : HeadersPolicy) : HeaderMap :=
  let headers := insert headers proxyBy pavis
  match policy with
  | .disabled => headers
  | .enabled rules =>
    let headers := rules.setHeaders.foldl applySet headers
    let headers := rules.appendHeaders.foldl applyAppend headers
    let headers := rules.addHeaders.foldl applyAdd headers
    rules.removeHeaders.foldl HeaderMap.removeHeader headers

/-- The same passes as for a response; only the scope in the warnings differs. -/
def applyRequestHeaders (headers : HeaderMap) (policy : HeadersPolicy) : HeaderMap :=
  applyHeaders headers policy

def applyResponseHeaders (headers : HeaderMap) (policy : HeadersPolicy) : HeaderMap :=
  applyHeaders headers policy

section

variable (rules : Headers) (name : HeaderName)

/-- The values that a list of rules has for the name, however the name is spelled. -/
def named (entries : List (Text × Text)) : List Text :=
  (entries.filter fun entry => eqIgnoreAsciiCase entry.1 name.bytes).map Prod.snd

def joinValues (values : List Bytes) : Bytes := (literal ", ").intercalate values

def startValues (existing : List Bytes) : List Bytes :=
  if name = proxyBy then [literal "Pavis"] else existing

def setValues (existing : List Bytes) : List Bytes :=
  match (named name rules.setHeaders).getLast? with
  | some last => [last]
  | none => existing

def appendValues (existing : List Bytes) : List Bytes :=
  let appended := named name rules.appendHeaders
  if appended.isEmpty then existing
  else if name.bytes = literal "set-cookie" then existing ++ appended
  else [joinValues (existing ++ appended)]

def addValues (existing : List Bytes) : List Bytes :=
  if existing.isEmpty then (named name rules.addHeaders).head?.toList else existing

def removeValues (existing : List Bytes) : List Bytes :=
  if rules.removeHeaders.any fun removed => eqIgnoreAsciiCase removed name.bytes then []
  else existing

def referenceValues (existing : List Bytes) : List Bytes :=
  removeValues rules name (addValues rules name (appendValues rules name
    (setValues rules name (startValues name existing))))

def Mentions : Prop :=
  (∃ entry ∈ rules.setHeaders ++ rules.appendHeaders ++ rules.addHeaders,
      eqIgnoreAsciiCase entry.1 name.bytes = true) ∨
    ∃ removed ∈ rules.removeHeaders, eqIgnoreAsciiCase removed name.bytes = true

end

structure ValidEntry (entry : Text × Text) : Prop where
  name : (HeaderName.fromStr entry.1).isSome = true
  value : (HeaderValue.fromStr entry.2).isSome = true

instance (entry : Text × Text) : Decidable (ValidEntry entry) :=
  decidable_of_iff
    ((HeaderName.fromStr entry.1).isSome = true ∧ (HeaderValue.fromStr entry.2).isSome = true)
    ⟨fun both => ⟨both.1, both.2⟩, fun valid => ⟨valid.name, valid.value⟩⟩

structure ValidRules (rules : Headers) : Prop where
  set : ∀ entry ∈ rules.setHeaders, ValidEntry entry
  append : ∀ entry ∈ rules.appendHeaders, ValidEntry entry
  add : ∀ entry ∈ rules.addHeaders, ValidEntry entry
  remove : ∀ name ∈ rules.removeHeaders, (HeaderName.fromStr name).isSome = true

def HeaderMap.values (headers : HeaderMap) (name : HeaderName) : List Bytes :=
  (getAll headers name).map HeaderValue.bytes

/-! ### Names and values that are taken -/

variable {name : HeaderName}

theorem HeaderName.fromStr_eq_some {text : Text} :
    fromStr text = some name ↔
      isHeaderName text = true ∧ text.map toAsciiLowercase = name.bytes := by
  obtain ⟨bytes, token, lower⟩ := name
  unfold fromStr
  split
  · rename_i taken
    simp [taken]
  · rename_i refused
    simp [refused]

theorem HeaderValue.fromBytes_eq_some {bytes : Bytes} {value : HeaderValue} :
    fromBytes bytes = some value ↔ bytes = value.bytes := by
  obtain ⟨kept, allowed⟩ := value
  unfold fromBytes
  split
  · simp
  · rename_i refused
    constructor
    · intro impossible
      cases impossible
    · rintro rfl
      exact absurd allowed refused

theorem HeaderName.fromStr_eq_some_iff {text : Text}
    (taken : (fromStr text).isSome = true) :
    fromStr text = some name ↔ eqIgnoreAsciiCase text name.bytes = true := by
  obtain ⟨found, known⟩ := Option.isSome_iff_exists.mp taken
  rw [fromStr_eq_some, eqIgnoreAsciiCase, beq_iff_eq, name.lower]
  exact and_iff_right (fromStr_eq_some.mp known).1

/-- Validation and application ask the HTTP library the same questions. -/
theorem validRules_of_validateHeaders {rules : Headers} {context : Text}
    (accepted : validateHeaders (.enabled rules) context = .ok ()) : ValidRules rules := by
  have nameTaken : ∀ name, validateHeaderName context name = .ok () →
      (HeaderName.fromStr name).isSome = true := by
    intro name passed
    obtain ⟨_, _, token⟩ := bind_eq_ok.mp passed
    have isName : isHeaderName name = true := by simpa using reject_eq_ok.mp token
    exact Option.isSome_iff_exists.mpr
      ⟨⟨_, isHeaderName_lowercase isName, lowercase_lowercase name⟩,
        HeaderName.fromStr_eq_some.mpr ⟨isName, rfl⟩⟩
  have pairTaken : ∀ entry, validatePair context entry = .ok () → ValidEntry entry := by
    intro entry passed
    obtain ⟨_, namePassed, valuePassed⟩ := bind_eq_ok.mp passed
    have allowed : isHeaderValue entry.2 = true := by simpa using reject_eq_ok.mp valuePassed
    exact ⟨nameTaken entry.1 namePassed, Option.isSome_iff_exists.mpr
      ⟨⟨entry.2, allowed⟩, HeaderValue.fromBytes_eq_some.mpr rfl⟩⟩
  simp only [validateHeaders, bind_eq_ok] at accepted
  obtain ⟨_, setPassed, _, appendPassed, _, addPassed, removePassed⟩ := accepted
  exact
    { set := fun entry member => pairTaken entry (forM_eq_ok.mp setPassed entry member)
      append := fun entry member => pairTaken entry (forM_eq_ok.mp appendPassed entry member)
      add := fun entry member => pairTaken entry (forM_eq_ok.mp addPassed entry member)
      remove := fun name member => nameTaken name (forM_eq_ok.mp removePassed name member) }

@[simp] theorem joinValues_singleton (value : Bytes) : joinValues [value] = value := by
  simp [joinValues]

theorem joinValues_append {front : List Bytes} (present : front ≠ []) (value : Bytes)
    (rest : List Bytes) :
    joinValues (front ++ value :: rest) =
      joinValues front ++ literal ", " ++ joinValues (value :: rest) := by
  unfold joinValues
  induction front with
  | nil => exact absurd rfl present
  | cons head front ih =>
    cases front with
    | nil => simp
    | cons =>
      have later := ih (List.cons_ne_nil _ _)
      simp only [List.cons_append, List.intercalate_cons_cons] at later ⊢
      rw [later]
      simp only [List.append_assoc]

private theorem joinValues_joined {front : List Bytes} (present : front ≠ []) (rest : List Bytes) :
    joinValues (joinValues front :: rest) = joinValues (front ++ rest) := by
  cases rest with
  | nil => rw [joinValues_singleton, List.append_nil]
  | cons value rest =>
    have split := joinValues_append (List.cons_ne_nil (joinValues front) []) value rest
    rw [joinValues_singleton] at split
    rw [joinValues_append present]
    exact split

private theorem isHeaderValue_append (front rest : Bytes) :
    isHeaderValue (front ++ rest) = (isHeaderValue front && isHeaderValue rest) :=
  List.all_append

private theorem joinValues_allowed (values : List HeaderValue) :
    isHeaderValue (joinValues (values.map HeaderValue.bytes)) = true := by
  induction values with
  | nil => rfl
  | cons head rest ih =>
    cases rest with
    | nil => simpa [joinValues] using head.allowed
    | cons second others =>
      have separator : isHeaderValue (literal ", ") = true := by decide
      have split := joinValues_append (List.cons_ne_nil head.bytes []) second.bytes
        (others.map HeaderValue.bytes)
      rw [joinValues_singleton] at split
      have joined : joinValues ((head :: second :: others).map HeaderValue.bytes) =
          head.bytes ++ literal ", " ++
            joinValues ((second :: others).map HeaderValue.bytes) := split
      rw [joined, isHeaderValue_append, isHeaderValue_append, head.allowed, separator, ih]
      rfl

private theorem joinStep_foldl (values : List HeaderValue) (front : List Bytes) :
    values.foldl joinStep (joinValues front, !front.isEmpty) =
      (joinValues (front ++ values.map HeaderValue.bytes),
        !(front ++ values.map HeaderValue.bytes).isEmpty) := by
  induction values generalizing front with
  | nil => simp
  | cons head rest ih =>
    have stepped : joinStep (joinValues front, !front.isEmpty) head =
        (joinValues (front ++ [head.bytes]), !(front ++ [head.bytes]).isEmpty) := by
      cases front with
      | nil => simp [joinStep, joinValues]
      | cons =>
        rw [joinValues_append (List.cons_ne_nil _ _)]
        simp [joinStep, joinValues]
    rw [List.foldl_cons, stepped, ih (front ++ [head.bytes])]
    simp

private theorem buildJoinedValue_eq {values : List HeaderValue} (present : values ≠ [])
    (appended : HeaderValue) :
    buildJoinedValue values appended =
      some (joinValues (values.map HeaderValue.bytes ++ [appended.bytes])) := by
  have looped := joinStep_foldl values []
  have mapped : values.map HeaderValue.bytes ≠ [] := by simpa using present
  have filled : (!(values.map HeaderValue.bytes).isEmpty) = true := by simpa using present
  rw [List.nil_append, filled] at looped
  have start : (joinValues [], !([] : List Bytes).isEmpty) = (([] : Bytes), false) := rfl
  rw [start] at looped
  rw [buildJoinedValue, looped, joinValues_append mapped]
  simp [joinValues]

section

variable {headers : HeaderMap} {name : HeaderName} {entry : Text × Text}

theorem values_insert (headers : HeaderMap) (name : HeaderName) (value : HeaderValue) :
    HeaderMap.values (insert headers name value) name = [value.bytes] := by
  rw [HeaderMap.values, getAll_insert]
  rfl

theorem values_insert_ne (headers : HeaderMap) {name other : HeaderName} (value : HeaderValue)
    (different : other ≠ name) :
    HeaderMap.values (insert headers name value) other = headers.values other := by
  rw [HeaderMap.values, getAll_insert_ne headers value different]
  rfl

theorem values_applySet (spelled : HeaderName.fromStr entry.1 = some name)
    (valid : ValidEntry entry) : (applySet headers entry).values name = [entry.2] := by
  obtain ⟨value, taken⟩ := Option.isSome_iff_exists.mp valid.value
  rw [applySet, spelled, taken, values_insert, ← HeaderValue.fromBytes_eq_some.mp taken]

theorem values_applySet_ne (other : HeaderName.fromStr entry.1 ≠ some name) :
    (applySet headers entry).values name = headers.values name := by
  unfold applySet
  split
  · rename_i key value spelled taken
    rw [spelled] at other
    exact values_insert_ne headers value fun same => other (congrArg some same.symm)
  · rfl

/-- What an append rule makes of the values it finds. -/
def appendedTo (entry : Text × Text) (existing : List Bytes) : List Bytes :=
  if isNonJoinable entry.1 then existing ++ [entry.2] else [joinValues (existing ++ [entry.2])]

private theorem values_applyAppend (spelled : HeaderName.fromStr entry.1 = some name)
    (valid : ValidEntry entry) :
    (applyAppend headers entry).values name = appendedTo entry (headers.values name) := by
  obtain ⟨value, taken⟩ := Option.isSome_iff_exists.mp valid.value
  have same : entry.2 = value.bytes := HeaderValue.fromBytes_eq_some.mp taken
  rw [applyAppend, spelled, taken, appendedTo, same]
  cases joinable : isNonJoinable entry.1 with
  | true =>
    simp only [if_true]
    rw [HeaderMap.values, getAll_append, List.map_append]
    rfl
  | false =>
    simp only [Bool.false_eq_true, if_false]
    by_cases absent : getAll headers name = []
    · rw [if_pos (by simpa using absent), values_insert, HeaderMap.values, absent]
      simp [joinValues]
    · -- the joined value is made of allowed bytes, so the library takes it
      have joined := joinValues_allowed (getAll headers name ++ [value])
      rw [List.map_append] at joined
      have made : HeaderValue.fromBytes
          (joinValues ((getAll headers name).map HeaderValue.bytes ++ [value.bytes])) =
            some ⟨_, joined⟩ := HeaderValue.fromBytes_eq_some.mpr rfl
      rw [if_neg (by simpa using absent), buildJoinedValue_eq absent]
      simp only [made]
      rw [values_insert]
      rfl

private theorem values_applyAppend_ne (other : HeaderName.fromStr entry.1 ≠ some name) :
    (applyAppend headers entry).values name = headers.values name := by
  unfold applyAppend
  split
  · rename_i key value spelled taken
    rw [spelled] at other
    have different : name ≠ key := fun same => other (congrArg some same.symm)
    split
    · rw [HeaderMap.values, getAll_append_ne headers value different]
      rfl
    · split
      · exact values_insert_ne headers value different
      · split
        · split
          · rw [values_insert_ne _ _ different, HeaderMap.values,
              getAll_remove_ne headers different]
            rfl
          · rfl
        · exact values_insert_ne headers value different
  · rfl

private theorem values_applyAdd (spelled : HeaderName.fromStr entry.1 = some name)
    (valid : ValidEntry entry) :
    (applyAdd headers entry).values name =
      if (headers.values name).isEmpty then [entry.2] else headers.values name := by
  rw [applyAdd, HeaderMap.get, spelled, Option.bind_some]
  cases held : getAll headers name with
  | nil =>
    have absent : headers.values name = [] := by rw [HeaderMap.values, held]; rfl
    rw [absent]
    exact values_applySet spelled valid
  | cons first others =>
    have present : headers.values name = first.bytes :: others.map HeaderValue.bytes := by
      rw [HeaderMap.values, held]
      rfl
    rw [present]
    exact present

private theorem values_applyAdd_ne (other : HeaderName.fromStr entry.1 ≠ some name) :
    (applyAdd headers entry).values name = headers.values name := by
  unfold applyAdd
  split
  · exact values_applySet_ne other
  · rfl

theorem values_removeHeader {removed : Text} (spelled : HeaderName.fromStr removed = some name) :
    (headers.removeHeader removed).values name = [] := by
  rw [HeaderMap.removeHeader, spelled, HeaderMap.values, getAll_remove]
  rfl

theorem values_removeHeader_ne {removed : Text} (other : HeaderName.fromStr removed ≠ some name) :
    (headers.removeHeader removed).values name = headers.values name := by
  unfold HeaderMap.removeHeader
  split
  · rename_i key spelled
    rw [spelled] at other
    have different : name ≠ key := fun same => other (congrArg some same.symm)
    rw [HeaderMap.values, getAll_remove_ne headers different]
    rfl
  · rfl

end

/-! ### The four passes at one name -/

section

variable {rules : Headers} {name : HeaderName}

private theorem filter_spelled {entries : List (Text × Text)}
    (valid : ∀ entry ∈ entries, ValidEntry entry) :
    (entries.filter fun entry => HeaderName.fromStr entry.1 = some name) =
      entries.filter fun entry => eqIgnoreAsciiCase entry.1 name.bytes := by
  apply List.filter_congr
  intro entry member
  rw [Bool.eq_iff_iff, decide_eq_true_iff]
  exact HeaderName.fromStr_eq_some_iff (valid entry member).name

theorem values_pass {entries : List (Text × Text)} {step : HeaderMap → Text × Text → HeaderMap}
    (change : Text × Text → List Bytes → List Bytes) (valid : ∀ entry ∈ entries, ValidEntry entry)
    (own : ∀ (headers : HeaderMap) (entry : Text × Text),
      HeaderName.fromStr entry.1 = some name → ValidEntry entry →
        (step headers entry).values name = change entry (headers.values name))
    (others : ∀ (headers : HeaderMap) (entry : Text × Text),
      HeaderName.fromStr entry.1 ≠ some name →
        (step headers entry).values name = headers.values name) (headers : HeaderMap) :
    HeaderMap.values (entries.foldl step headers) name =
      (entries.filter fun entry => eqIgnoreAsciiCase entry.1 name.bytes).foldl
        (fun seen entry => change entry seen) (headers.values name) := by
  rw [← filter_spelled valid]
  exact view_foldl HeaderMap.values (fun entry => HeaderName.fromStr entry.1) change
    (fun headers entry member spelled => own headers entry spelled (valid entry member))
    (fun headers entry _ other => others headers entry other) headers

private theorem values_setPass (valid : ∀ entry ∈ rules.setHeaders, ValidEntry entry)
    (headers : HeaderMap) :
    HeaderMap.values (rules.setHeaders.foldl applySet headers) name =
      setValues rules name (headers.values name) := by
  rw [values_pass (fun entry _ => [entry.2]) valid
    (fun _ _ spelled valid => values_applySet spelled valid)
    (fun _ _ other => values_applySet_ne other) headers]
  have replaced := foldl_replace (named name rules.setHeaders) (headers.values name)
  rw [named, List.foldl_map] at replaced
  rw [replaced, setValues, named]
  cases List.getLast? _ <;> rfl

theorem isNonJoinable_eq {text : Text} (spelled : eqIgnoreAsciiCase text name.bytes = true) :
    isNonJoinable text = decide (name.bytes = literal "set-cookie") := by
  have same : text.map toAsciiLowercase = name.bytes := by
    rw [eqIgnoreAsciiCase, beq_iff_eq, name.lower] at spelled
    exact spelled
  have lowered : (literal "set-cookie").map toAsciiLowercase = literal "set-cookie" := by decide
  simp only [isNonJoinable, nonJoinableHeaders, List.any_cons, List.any_nil, Bool.or_false,
    eqIgnoreAsciiCase, same, lowered]
  rw [Bool.eq_iff_iff, beq_iff_eq, decide_eq_true_iff]

theorem foldl_joined (values existing : List Bytes) :
    values.foldl (fun seen value => [joinValues (seen ++ [value])]) existing =
      if values.isEmpty then existing else [joinValues (existing ++ values)] := by
  induction values generalizing existing with
  | nil => rfl
  | cons head rest ih =>
    rw [List.foldl_cons, ih]
    cases rest with
    | nil => rfl
    | cons second others =>
      have joined := joinValues_joined (List.append_ne_nil_of_right_ne_nil existing
        (List.cons_ne_nil head [])) (second :: others)
      rw [List.append_assoc] at joined
      exact congrArg (fun value => [value]) joined

private theorem values_appendPass (valid : ∀ entry ∈ rules.appendHeaders, ValidEntry entry)
    (headers : HeaderMap) :
    HeaderMap.values (rules.appendHeaders.foldl applyAppend headers) name =
      appendValues rules name (headers.values name) := by
  rw [values_pass appendedTo valid (fun _ _ spelled valid => values_applyAppend spelled valid)
    (fun _ _ other => values_applyAppend_ne other) headers]
  have kind : ∀ entry ∈ rules.appendHeaders.filter fun entry =>
      eqIgnoreAsciiCase entry.1 name.bytes,
      isNonJoinable entry.1 = decide (name.bytes = literal "set-cookie") := by
    intro entry member
    exact isNonJoinable_eq (List.mem_filter.mp member).2
  have reference : appendValues rules name (headers.values name) =
      if (named name rules.appendHeaders).isEmpty then headers.values name
      else if name.bytes = literal "set-cookie" then
        headers.values name ++ named name rules.appendHeaders
      else [joinValues (headers.values name ++ named name rules.appendHeaders)] := rfl
  rw [reference]
  by_cases cookie : name.bytes = literal "set-cookie"
  · have extended := foldl_extend (named name rules.appendHeaders) (headers.values name)
    rw [named, List.foldl_map, ← named] at extended
    rw [if_pos cookie, List.foldl_ext _ (fun seen entry => seen ++ [entry.2]) _
      (fun seen entry member => by simp [appendedTo, kind entry member, cookie]), extended]
    cases named name rules.appendHeaders with
    | nil => simp
    | cons => rfl
  · have joined := foldl_joined (named name rules.appendHeaders) (headers.values name)
    rw [named, List.foldl_map, ← named] at joined
    rw [if_neg cookie, List.foldl_ext _ (fun seen entry => [joinValues (seen ++ [entry.2])]) _
      (fun seen entry member => by simp [appendedTo, kind entry member, cookie]), joined]

private theorem values_addPass (valid : ∀ entry ∈ rules.addHeaders, ValidEntry entry)
    (headers : HeaderMap) :
    HeaderMap.values (rules.addHeaders.foldl applyAdd headers) name =
      addValues rules name (headers.values name) := by
  rw [values_pass (fun entry seen => if seen.isEmpty then [entry.2] else seen) valid
    (fun _ _ spelled valid => values_applyAdd spelled valid)
    (fun _ _ other => values_applyAdd_ne other) headers]
  have first := foldl_absent (named name rules.addHeaders) (headers.values name)
  rw [named, List.foldl_map] at first
  exact first

private theorem values_removePass
    (valid : ∀ removed ∈ rules.removeHeaders, (HeaderName.fromStr removed).isSome = true)
    (headers : HeaderMap) :
    HeaderMap.values (rules.removeHeaders.foldl HeaderMap.removeHeader headers) name =
      removeValues rules name (headers.values name) := by
  rw [view_foldl HeaderMap.values HeaderName.fromStr (fun _ _ => [])
    (fun _ _ _ spelled => values_removeHeader spelled)
    (fun _ _ _ other => values_removeHeader_ne other) headers]
  have same : (rules.removeHeaders.filter fun removed => HeaderName.fromStr removed = some name) =
      rules.removeHeaders.filter fun removed => eqIgnoreAsciiCase removed name.bytes := by
    apply List.filter_congr
    intro removed member
    rw [Bool.eq_iff_iff, decide_eq_true_iff]
    exact HeaderName.fromStr_eq_some_iff (valid removed member)
  rw [same, foldl_clear, removeValues]
  cases found : rules.removeHeaders.any fun removed => eqIgnoreAsciiCase removed name.bytes with
  | true =>
    obtain ⟨removed, member, spelled⟩ := List.any_eq_true.mp found
    have kept : removed ∈ rules.removeHeaders.filter fun removed =>
        eqIgnoreAsciiCase removed name.bytes := List.mem_filter.mpr ⟨member, spelled⟩
    rw [if_neg fun empty => List.ne_nil_of_mem kept (List.isEmpty_iff.mp empty)]
    rfl
  | false =>
    have none := List.filter_eq_nil_iff.mpr fun removed member =>
      List.any_eq_false.mp found removed member
    rw [none]
    rfl

private theorem values_start (headers : HeaderMap) :
    HeaderMap.values (insert headers proxyBy pavis) name =
      startValues name (headers.values name) := by
  unfold startValues
  by_cases same : name = proxyBy
  · subst same
    rw [if_pos rfl]
    exact values_insert headers proxyBy pavis
  · rw [if_neg same]
    exact values_insert_ne headers pavis same

private theorem values_applyHeaders (valid : ValidRules rules) (headers : HeaderMap) :
    (applyHeaders headers (.enabled rules)).values name =
      referenceValues rules name (headers.values name) := by
  unfold applyHeaders referenceValues
  simp only
  rw [values_removePass valid.remove, values_addPass valid.add, values_appendPass valid.append,
    values_setPass valid.set, values_start]

end

private theorem named_eq_nil {entries : List (Text × Text)}
    (silent : ∀ entry ∈ entries, eqIgnoreAsciiCase entry.1 name.bytes ≠ true) :
    named name entries = [] := by
  rw [named, List.filter_eq_nil_iff.mpr silent]
  rfl

private theorem referenceValues_of_not_mentions {rules : Headers} (silent : ¬ Mentions rules name)
    (existing : List Bytes) : referenceValues rules name existing = startValues name existing := by
  have quiet : ∀ entry ∈ rules.setHeaders ++ rules.appendHeaders ++ rules.addHeaders,
      eqIgnoreAsciiCase entry.1 name.bytes ≠ true :=
    fun entry member spelled => silent (.inl ⟨entry, member, spelled⟩)
  have noSet : named name rules.setHeaders = [] :=
    named_eq_nil fun entry member => quiet entry (by simp [member])
  have noAppend : named name rules.appendHeaders = [] :=
    named_eq_nil fun entry member => quiet entry (by simp [member])
  have noAdd : named name rules.addHeaders = [] :=
    named_eq_nil fun entry member => quiet entry (by simp [member])
  have noRemove : (rules.removeHeaders.any fun removed =>
      eqIgnoreAsciiCase removed name.bytes) = false :=
    List.any_eq_false.mpr fun removed member spelled => silent (.inr ⟨removed, member, spelled⟩)
  rw [referenceValues, removeValues, noRemove, addValues, noAdd, appendValues, noAppend,
    setValues, noSet]
  cases startValues name existing <;> rfl

/-- What is left under every name is what the reference says, a name that no rule
mentions keeps the values it starts with, and responses are treated like requests. -/
theorem applyRequestHeaders_reference (headers : HeaderMap) (rules : Headers)
    (valid : ValidRules rules) :
    (∀ name, (applyRequestHeaders headers (.enabled rules)).values name =
        referenceValues rules name (headers.values name)) ∧
      (∀ name, ¬ Mentions rules name →
        (applyRequestHeaders headers (.enabled rules)).values name =
          startValues name (headers.values name)) ∧
      (∀ name, ¬ Mentions rules name → name ≠ proxyBy →
        (applyRequestHeaders headers (.enabled rules)).values name = headers.values name) ∧
      applyResponseHeaders headers (.enabled rules) =
        applyRequestHeaders headers (.enabled rules) := by
  have reference : ∀ name, (applyRequestHeaders headers (.enabled rules)).values name =
      referenceValues rules name (headers.values name) :=
    fun name => values_applyHeaders valid headers
  have kept : ∀ name, ¬ Mentions rules name →
      (applyRequestHeaders headers (.enabled rules)).values name =
        startValues name (headers.values name) := by
    intro name silent
    rw [reference name, referenceValues_of_not_mentions silent]
  refine ⟨reference, kept, fun name silent other => ?_, rfl⟩
  rw [kept name silent, startValues, if_neg other]

def sampleRules : Headers where
  setHeaders := [(literal "X-Mode", literal "a"), (literal "x-mode", literal "b")]
  appendHeaders := [(literal "Accept", literal "c"), (literal "ACCEPT", literal "d")]
  addHeaders := [(literal "X-Mode", literal "e"), (literal "X-New", literal "f")]
  removeHeaders := [literal "X-Gone"]

def acceptName : HeaderName := ⟨literal "accept", by decide, by decide⟩

theorem sampleRules_reference :
    ValidRules sampleRules ∧
      (applyRequestHeaders [(acceptName, ⟨literal "a", by decide⟩),
        (acceptName, ⟨literal "b", by decide⟩)] (.enabled sampleRules)).values acceptName =
          [literal "a, b, c, d"] := by
  have accepted : validateHeaders (.enabled sampleRules) (literal "route") = .ok () := by decide
  have valid := validRules_of_validateHeaders accepted
  refine ⟨valid, ?_⟩
  rw [(applyRequestHeaders_reference _ sampleRules valid).1 acceptName]
  decide

end Pavis.Proxy

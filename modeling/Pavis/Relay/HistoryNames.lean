/-
The file names of the history.

A version is written in at least ten digits and read back from exactly ten. The
scan of the directory goes over whatever names are there.
-/

import Pavis.Library.DigitText
import Pavis.Library.SortedRuns
import Pavis.Relay.Startup

namespace Pavis.Relay

open ByteText DigitText FaultyDisk SortedRuns

def versionWidth : Nat := 10

def artifactSuffix : Text := literal ".pvs"

def metadataSuffix : Text := literal ".meta.json"

def versionArtifactName (version : Nat) : Text := padded 10 versionWidth version ++ artifactSuffix

def versionMetadataName (version : Nat) : Text := padded 10 versionWidth version ++ metadataSuffix

def parseVersion (name suffix : Text) : Option Nat :=
  if endsWith name suffix = false then none
  else
    match stripSuffix name suffix with
    | none => none
    | some stem =>
      if stem.length ≠ versionWidth ∨ stem.all (isDigit 10) = false then none
      else parseU64 stem

/-- The entries of the directory, unless there is none. -/
structure HistoryDirectory where
  entries : Option (List Text)

structure HistorySets where
  artifactVersions : List Nat
  metaVersions : List Nat

def HistorySets.scan (sets : HistorySets) (name : Text) : HistorySets :=
  match parseVersion name artifactSuffix with
  | some version => { sets with artifactVersions := sets.artifactVersions.insert version }
  | none =>
    match parseVersion name metadataSuffix with
    | some version => { sets with metaVersions := sets.metaVersions.insert version }
    | none => sets

namespace HistoryDirectory

def scanHistorySets (directory : HistoryDirectory) : HistorySets :=
  (directory.entries.getD []).foldl HistorySets.scan { artifactVersions := [], metaVersions := [] }

def listHistoryVersions (directory : HistoryDirectory) : List Nat :=
  let sets := directory.scanHistorySets
  sortByKey id (sets.artifactVersions.filter fun version => version ∈ sets.metaVersions)

end HistoryDirectory

variable {name : Text} {version : Nat}

theorem parseVersion_eq_some_iff {suffix : Text} :
    parseVersion name suffix = some version ↔
      version < 10 ^ versionWidth ∧ name = padded 10 versionWidth version ++ suffix := by
  constructor
  · intro parsed
    unfold parseVersion at parsed
    split at parsed
    · cases parsed
    · split at parsed
      · cases parsed
      · rename_i stem stripped
        split at parsed
        · cases parsed
        · rename_i accepted
          obtain ⟨wide, digits⟩ := not_or.mp accepted
          replace wide := Decidable.not_not.mp wide
          have nonempty : stem ≠ [] := List.ne_nil_of_length_pos (by rw [wide]; decide)
          rw [parseU64_digits nonempty (Bool.not_eq_false _ ▸ digits)] at parsed
          replace digits := List.all_eq_true.mp (Bool.not_eq_false _ ▸ digits)
          obtain ⟨_, read⟩ := Option.ite_none_right_eq_some.mp parsed
          cases read
          have spelled := padded_valueOf (by decide) (Nat.le_refl 10) nonempty digits
          have small := valueOf_lt digits
          rw [wide] at spelled small
          rw [spelled]
          exact ⟨small, eq_append_of_stripSuffix stripped⟩
  · rintro ⟨small, rfl⟩
    have ends : endsWith (padded 10 versionWidth version ++ suffix) suffix = true := by
      simp [endsWith]
    have wide := (padded_length_eq_iff (by decide) (by decide) version).mpr small
    have digits : (padded 10 versionWidth version).all (isDigit 10) = true :=
      List.all_eq_true.mpr (padded_digits (by decide) (by decide) versionWidth version)
    have nonempty : padded 10 versionWidth version ≠ [] :=
      List.ne_nil_of_length_pos (by rw [wide]; decide)
    have fits : version < 2 ^ 64 := Nat.lt_trans small (by decide)
    simpa [parseVersion, ends, stripSuffix_append, wide, digits, parseU64_digits nonempty digits,
      valueOf_padded (show 1 < 10 by decide) (show 10 ≤ 16 by decide)] using fits

private theorem getLast?_of_parseVersion {suffix : Text} (some : suffix ≠ [])
    (parsed : parseVersion name suffix = Option.some version) :
    name.getLast? = suffix.getLast? := by
  rw [(parseVersion_eq_some_iff.mp parsed).2]
  exact List.getLast?_append_of_ne_nil _ some

theorem versionArtifactName_inj {left right : Nat}
    (same : versionArtifactName left = versionArtifactName right) : left = right :=
  padded_inj (by decide) (by decide) (List.append_cancel_right same)

theorem versionMetadataName_inj {left right : Nat}
    (same : versionMetadataName left = versionMetadataName right) : left = right :=
  padded_inj (by decide) (by decide) (List.append_cancel_right same)

theorem getLast?_versionArtifactName (version : Nat) :
    (versionArtifactName version).getLast? = some (ascii 's') :=
  List.getLast?_append_of_ne_nil _ (by decide)

theorem getLast?_versionMetadataName (version : Nat) :
    (versionMetadataName version).getLast? = some (ascii 'n') :=
  List.getLast?_append_of_ne_nil _ (by decide)

private theorem scan_artifacts (names : List Text) (sets : HistorySets) (version : Nat) :
    version ∈ (names.foldl HistorySets.scan sets).artifactVersions ↔
      version ∈ sets.artifactVersions ∨
        ∃ name ∈ names, parseVersion name artifactSuffix = some version := by
  induction names generalizing sets with
  | nil => simp
  | cons name rest ih =>
    rw [List.foldl_cons, ih]
    unfold HistorySets.scan
    cases parsed : parseVersion name artifactSuffix with
    | some =>
      simp only [List.mem_insert_iff, List.mem_cons, exists_eq_or_imp, parsed,
        Option.some.injEq]
      rw [or_assoc, or_left_comm, eq_comm]
    | none =>
      cases parseVersion name metadataSuffix with
      | some | none => simp [parsed]

private theorem scan_metadata (names : List Text) (sets : HistorySets) (version : Nat) :
    version ∈ (names.foldl HistorySets.scan sets).metaVersions ↔
      version ∈ sets.metaVersions ∨
        ∃ name ∈ names, parseVersion name metadataSuffix = some version := by
  induction names generalizing sets with
  | nil => simp
  | cons name rest ih =>
    rw [List.foldl_cons, ih]
    unfold HistorySets.scan
    cases parsed : parseVersion name artifactSuffix with
    | some =>
      -- A name that ends as an artifact does not end as metadata.
      have other : parseVersion name metadataSuffix = none := by
        cases again : parseVersion name metadataSuffix with
        | none => rfl
        | some =>
          have first := getLast?_of_parseVersion (by decide) parsed
          have second := getLast?_of_parseVersion (by decide) again
          rw [first] at second
          exact absurd second (by decide)
      simp [other]
    | none =>
      cases read : parseVersion name metadataSuffix with
      | some =>
        simp only [List.mem_insert_iff, List.mem_cons, exists_eq_or_imp, read,
          Option.some.injEq]
        rw [or_assoc, or_left_comm, eq_comm]
      | none => simp [read]

namespace HistoryDirectory

private theorem mem_listHistoryVersions {directory : HistoryDirectory} {version : Nat} :
    version ∈ directory.listHistoryVersions ↔
      version < 10 ^ versionWidth ∧ versionArtifactName version ∈ directory.entries.getD [] ∧
        versionMetadataName version ∈ directory.entries.getD [] := by
  unfold listHistoryVersions scanHistorySets
  simp only [mem_sortByKey, List.mem_filter, decide_eq_true_eq, scan_artifacts, scan_metadata,
    List.not_mem_nil, false_or, parseVersion_eq_some_iff]
  constructor
  · rintro ⟨⟨_, listed, small, rfl⟩, _, alsoListed, _, rfl⟩
    exact ⟨small, listed, alsoListed⟩
  · rintro ⟨small, listed, alsoListed⟩
    exact ⟨⟨_, listed, small, rfl⟩, _, alsoListed, small, rfl⟩

end HistoryDirectory

/-! ### The directory of the storage -/

def StoragePath.historyName : StoragePath → Option Text
  | .historyArtifact version => some (versionArtifactName version)
  | .historyMetadata version => some (versionMetadataName version)
  | .tmp (.historyArtifact version) => some (versionArtifactName version ++ literal ".tmp")
  | .tmp (.historyMetadata version) => some (versionMetadataName version ++ literal ".tmp")
  | _ => none

def historyDirectory (files : Files) : HistoryDirectory :=
  { entries := some (files.keys.filterMap StoragePath.historyName) }

private theorem getLast?_tmp (name : Text) : (name ++ literal ".tmp").getLast? = some (ascii 'p') :=
  List.getLast?_append_of_ne_nil _ (by decide)

variable {path : StoragePath}

theorem historyName_artifact (named : path.historyName = some (versionArtifactName version)) :
    path = .historyArtifact version := by
  have ended := getLast?_versionArtifactName version
  unfold StoragePath.historyName at named
  split at named
  · rw [versionArtifactName_inj (Option.some.inj named)]
  · rw [← Option.some.inj named, getLast?_versionMetadataName] at ended
    exact absurd ended (by decide)
  · rw [← Option.some.inj named, getLast?_tmp] at ended
    exact absurd ended (by decide)
  · rw [← Option.some.inj named, getLast?_tmp] at ended
    exact absurd ended (by decide)
  · cases named

theorem historyName_metadata (named : path.historyName = some (versionMetadataName version)) :
    path = .historyMetadata version := by
  have ended := getLast?_versionMetadataName version
  unfold StoragePath.historyName at named
  split at named
  · rw [← Option.some.inj named, getLast?_versionArtifactName] at ended
    exact absurd ended (by decide)
  · rw [versionMetadataName_inj (Option.some.inj named)]
  · rw [← Option.some.inj named, getLast?_tmp] at ended
    exact absurd ended (by decide)
  · rw [← Option.some.inj named, getLast?_tmp] at ended
    exact absurd ended (by decide)
  · cases named

private theorem mem_entries {files : Files} (named : path.historyName = some name)
    (only : ∀ other : StoragePath, other.historyName = some name → other = path) :
    name ∈ (historyDirectory files).entries.getD [] ↔ (files.read path).isSome = true := by
  change name ∈ files.keys.filterMap StoragePath.historyName ↔ _
  rw [List.mem_filterMap]
  constructor
  · rintro ⟨other, listed, same⟩
    rw [only other same] at listed
    exact AList.lookup_isSome.mpr (AList.mem_keys.mpr listed)
  · intro stored
    exact ⟨path, AList.mem_keys.mp (AList.lookup_isSome.mp stored), named⟩

theorem mem_listHistoryVersions_iff (files : Files) (version : Nat) :
    version ∈ (historyDirectory files).listHistoryVersions ↔
      version ∈ listHistoryVersions files := by
  unfold Relay.listHistoryVersions
  rw [HistoryDirectory.mem_listHistoryVersions, List.mem_filter, mem_scanArtifacts,
    mem_entries rfl fun _ => historyName_artifact, mem_entries rfl fun _ => historyName_metadata,
    and_assoc]
  exact and_congr_left' (decide_eq_true_iff).symm

structure AppendCall where
  plan : PairPlan
  version : Nat
  artifact : Bytes
  metadata : ArtifactMetadata

/-- One call after the other, up to the first that does not succeed. -/
def appendAll (serde : Serde) : List AppendCall → Files → Result Files StorageError Unit
  | [], files => .ok files ()
  | call :: rest, files =>
    (appendToHistory serde call.plan call.version call.artifact call.metadata files).andThen
      fun files _ => appendAll serde rest files

section

variable {serde : Serde}

private theorem listed_appendToHistory (call : AppendCall) (files : Files) (version : Nat)
    (succeeds : (appendToHistory serde call.plan call.version call.artifact call.metadata
      files).isOk = true) :
    version ∈ listHistoryVersions (appendToHistory serde call.plan call.version call.artifact
        call.metadata files).state ↔
      parsesBack version = true ∧ version = call.version ∨
        version ∈ listHistoryVersions files := by
  unfold appendToHistory at succeeds ⊢
  rw [writePair_isOk] at succeeds
  obtain ⟨artifactStored, metadataStored⟩ := PairPlan.stored_of_clean succeeds
  unfold listHistoryVersions
  simp only [List.mem_filter, mem_scanArtifacts]
  by_cases same : version = call.version
  · subst same
    rw [writePair_artifact _ _ _ _ (.history _), writePair_metadata _ _ _ _ (.history _),
      if_pos artifactStored, if_pos metadataStored]
    simp only [Option.isSome_some, and_true]
    exact ⟨Or.inl, fun either => either.elim id fun listed => listed.1.1⟩
  · have kept := writePair_sameExcept call.plan (.historyArtifact call.version)
      (.historyMetadata call.version) call.artifact (serde.metadataToVec call.metadata) files
    rw [kept (.historyArtifact version) (by simp [same]),
      kept (.historyMetadata version) (by simp [same])]
    simp [same]

private theorem listed_appendAll {calls : List AppendCall} {files : Files} (version : Nat)
    (succeeds : (appendAll serde calls files).isOk = true) :
    version ∈ listHistoryVersions (appendAll serde calls files).state ↔
      parsesBack version = true ∧ version ∈ calls.map AppendCall.version ∨
        version ∈ listHistoryVersions files := by
  induction calls generalizing files with
  | nil => simp [appendAll]
  | cons call rest ih =>
    unfold appendAll at succeeds ⊢
    rw [Result.andThen_isOk, Bool.and_eq_true] at succeeds
    rw [Result.andThen_state, if_pos succeeds.1, ih succeeds.2,
      listed_appendToHistory call files version succeeds.1, List.map_cons, List.mem_cons]
    simp only [and_or_left, or_assoc, or_left_comm]

end

/-- The names of a version are read back as it, no other version has them, and no
other name is read as it. -/
structure NamesRoundTrip (version : Nat) : Prop where
  artifact : parseVersion (versionArtifactName version) artifactSuffix = some version
  metadata : parseVersion (versionMetadataName version) metadataSuffix = some version
  distinct : ∀ other, other ≠ version →
    versionArtifactName other ≠ versionArtifactName version ∧
      versionMetadataName other ≠ versionMetadataName version
  only : ∀ name,
    (parseVersion name artifactSuffix = some version → name = versionArtifactName version) ∧
      (parseVersion name metadataSuffix = some version → name = versionMetadataName version)

private theorem namesRoundTrip_iff (version : Nat) :
    NamesRoundTrip version ↔ version < 10 ^ versionWidth := by
  constructor
  · intro roundTrip
    exact (parseVersion_eq_some_iff.mp roundTrip.artifact).1
  · intro small
    refine ⟨parseVersion_eq_some_iff.mpr ⟨small, rfl⟩, parseVersion_eq_some_iff.mpr ⟨small, rfl⟩,
      ?_, ?_⟩
    · intro other different
      exact ⟨fun same => different (versionArtifactName_inj same),
        fun same => different (versionMetadataName_inj same)⟩
    · intro name
      exact ⟨fun parsed => (parseVersion_eq_some_iff.mp parsed).2,
        fun parsed => (parseVersion_eq_some_iff.mp parsed).2⟩

/-- After calls that all succeeded, the names round trip and the listing is that of
the appended versions exactly when every version has at most ten digits. -/
theorem history_round_trips_iff (serde : Serde) (calls : List AppendCall)
    (succeeds : (appendAll serde calls ∅).isOk = true) :
    ((∀ call ∈ calls, NamesRoundTrip call.version) ∧
        ∀ version, version ∈ (historyDirectory (appendAll serde calls ∅).state).listHistoryVersions
          ↔ version ∈ calls.map AppendCall.version) ↔
      ∀ call ∈ calls, call.version < 10 ^ 10 := by
  constructor
  · rintro ⟨roundTrips, _⟩ call listed
    exact (namesRoundTrip_iff call.version).mp (roundTrips call listed)
  · intro small
    refine ⟨fun call listed => (namesRoundTrip_iff call.version).mpr (small call listed), ?_⟩
    intro version
    have nothing : version ∉ listHistoryVersions ∅ := List.not_mem_nil
    rw [mem_listHistoryVersions_iff, listed_appendAll version succeeds, or_iff_left nothing]
    refine and_iff_right_of_imp fun appended => ?_
    obtain ⟨call, listed, rfl⟩ := List.mem_map.mp appended
    exact decide_eq_true (small call listed)

def appendOf (version : Nat) : AppendCall :=
  { plan := .allDone
    version := version
    artifact := literal "artifact"
    metadata := { version := version, publishedAt := 0, checksum := [], size := 8 } }

theorem history_round_trips_small :
    (∀ call ∈ [appendOf 2, appendOf 9999999999, appendOf 2], NamesRoundTrip call.version) ∧
      ∀ version,
        version ∈ (historyDirectory (appendAll smallSerde
          [appendOf 2, appendOf 9999999999, appendOf 2] ∅).state).listHistoryVersions ↔
        version ∈ [appendOf 2, appendOf 9999999999, appendOf 2].map AppendCall.version :=
  (history_round_trips_iff smallSerde [appendOf 2, appendOf 9999999999, appendOf 2]
    (by decide +kernel)).mpr (by decide)

/-- The first version of eleven digits is stored and never listed. -/
theorem eleven_digits_not_listed :
    (appendAll smallSerde [appendOf (10 ^ 10)] ∅).isOk = true ∧
      parseVersion (versionArtifactName (10 ^ 10)) artifactSuffix = none ∧
      (historyDirectory
        (appendAll smallSerde [appendOf (10 ^ 10)] ∅).state).listHistoryVersions = [] := by
  refine ⟨by decide +kernel, by decide +kernel, by decide +kernel⟩

end Pavis.Relay

/-
Programs over a file store whose steps may fail.

Every step carries a verdict: it is done, it reports an error after some
progress, or the process dies in it after some progress. A rename is atomic: it
has happened or it has not.
-/

import Mathlib.Data.List.AList
import Pavis.Library.ByteText

namespace FaultyDisk

open ByteText

variable {σ ε α β κ : Type}

inductive Verdict where
  | done
  | failed (progress : Nat)
  | crashed (progress : Nat)
  deriving DecidableEq

def Verdict.isDone : Verdict → Bool
  | .done => true
  | .failed _ => false
  | .crashed _ => false

/-- An atomic step has happened when it is done, or when the crash came after
it. -/
def Verdict.took : Verdict → Bool
  | .done => true
  | .failed _ => false
  | .crashed progress => decide (0 < progress)

inductive Ending where
  | done
  | failed
  | crashed
  deriving DecidableEq

def Verdict.ending : Verdict → Ending
  | .done => .done
  | .failed _ => .failed
  | .crashed _ => .crashed

def Verdict.avoids (bad : Ending) (verdict : Verdict) : Bool := verdict.ending != bad

def Verdict.returns : Verdict → Bool := avoids .crashed

theorem Verdict.took_of_isDone {verdict : Verdict} (done : verdict.isDone = true) :
    verdict.took = true := by
  cases verdict with
  | done => rfl
  | _ => cases done

inductive Result (σ ε α : Type) where
  | ok (state : σ) (value : α)
  | error (state : σ) (reason : ε)
  | crashed (state : σ)
  deriving DecidableEq

def Result.state : Result σ ε α → σ
  | .ok state _ => state
  | .error state _ => state
  | .crashed state => state

def Result.isOk : Result σ ε α → Bool
  | .ok _ _ => true
  | .error _ _ => false
  | .crashed _ => false

def Result.ending : Result σ ε α → Ending
  | .ok _ _ => .done
  | .error _ _ => .failed
  | .crashed _ => .crashed

def Result.avoids (bad : Ending) (result : Result σ ε α) : Bool := result.ending != bad

@[simp] theorem Result.state_ok (state : σ) (value : α) :
    (ok state value : Result σ ε α).state = state := rfl

@[simp] theorem Result.state_error (state : σ) (reason : ε) :
    (error state reason : Result σ ε α).state = state := rfl

@[simp] theorem Result.state_crashed (state : σ) :
    (crashed state : Result σ ε α).state = state := rfl

/-- Errors and crashes skip what follows. -/
def Result.andThen (result : Result σ ε α) (next : σ → α → Result σ ε β) : Result σ ε β :=
  match result with
  | .ok state value => next state value
  | .error state reason => .error state reason
  | .crashed state => .crashed state

@[simp] theorem Result.andThen_ok (state : σ) (value : α) (next : σ → α → Result σ ε β) :
    (ok state value : Result σ ε α).andThen next = next state value := rfl

@[simp] theorem Result.andThen_error (state : σ) (reason : ε) (next : σ → α → Result σ ε β) :
    (error state reason : Result σ ε α).andThen next = .error state reason := rfl

@[simp] theorem Result.andThen_crashed (state : σ) (next : σ → α → Result σ ε β) :
    (crashed state : Result σ ε α).andThen next = .crashed state := rfl

variable {result : Result σ ε α}

theorem Result.exists_of_isOk (succeeds : result.isOk = true) :
    ∃ value, result = .ok result.state value := by
  cases result with
  | ok state value => exact ⟨value, rfl⟩
  | _ => cases succeeds

theorem Result.andThen_state (result : Result σ ε Unit) (next : σ → Unit → Result σ ε β) :
    (result.andThen next).state =
      if result.isOk then (next result.state ()).state else result.state := by
  cases result <;> rfl

theorem Result.andThen_isOk (result : Result σ ε Unit) (next : σ → Unit → Result σ ε β) :
    (result.andThen next).isOk = (result.isOk && (next result.state ()).isOk) := by
  cases result <;> rfl

theorem Result.error_of_avoids (returned : result.avoids .crashed = true)
    (stopped : result.isOk = false) : ∃ reason, result = .error result.state reason := by
  cases result with
  | ok => cases stopped
  | error state reason => exact ⟨reason, rfl⟩
  | crashed => cases returned

theorem Result.crashed_of_avoids (unfailed : result.avoids .failed = true)
    (stopped : result.isOk = false) : result = .crashed result.state := by
  cases result with
  | ok => cases stopped
  | error => cases unfailed
  | crashed => rfl

theorem Result.andThen_avoids {bad : Ending} {next : σ → α → Result σ ε β}
    (first : result.avoids bad = true)
    (later : ∀ state value, (next state value).avoids bad = true) :
    (result.andThen next).avoids bad = true := by
  cases result with
  | ok state value => exact later state value
  | _ => exact first

theorem Result.andThen_eq_ok {next : σ → α → Result σ ε β} {after : σ} {value : β} :
    result.andThen next = .ok after value ↔
      ∃ state first, result = .ok state first ∧ next state first = .ok after value := by
  cases result <;> simp

theorem Result.andThen_eq_error {next : σ → α → Result σ ε β} {after : σ} {reason : ε} :
    result.andThen next = .error after reason ↔ result = .error after reason ∨
      ∃ state first, result = .ok state first ∧ next state first = .error after reason := by
  cases result <;> simp

theorem Result.andThen_assoc {γ : Type} (result : Result σ ε α) (next : σ → α → Result σ ε β)
    (last : σ → β → Result σ ε γ) :
    (result.andThen next).andThen last =
      result.andThen fun state value => (next state value).andThen last := by
  cases result <;> rfl

/-- An error of this step is dropped and the program goes on; a crash is not. -/
def Result.ignoreError (result : Result σ ε α) : Result σ ε Unit :=
  match result with
  | .ok state _ => .ok state ()
  | .error state _ => .ok state ()
  | .crashed state => .crashed state

@[simp] theorem Result.state_ignoreError (result : Result σ ε α) :
    result.ignoreError.state = result.state := by
  cases result <;> rfl

/-- A step with its whole effect and what it leaves after partial progress,
which may differ between an error and a crash. -/
def perform (verdict : Verdict) (reason : ε) (whole : σ → σ) (part torn : Nat → σ → σ)
    (state : σ) : Result σ ε Unit :=
  match verdict with
  | .done => .ok (whole state) ()
  | .failed progress => .error (part progress state) reason
  | .crashed progress => .crashed (torn progress state)

@[simp] theorem perform_isOk (verdict : Verdict) (reason : ε) (whole : σ → σ)
    (part torn : Nat → σ → σ) (state : σ) :
    (perform verdict reason whole part torn state).isOk = verdict.isDone := by
  cases verdict <;> rfl

@[simp] theorem perform_avoids (bad : Ending) (verdict : Verdict) (reason : ε) (whole : σ → σ)
    (part torn : Nat → σ → σ) (state : σ) :
    (perform verdict reason whole part torn state).avoids bad = verdict.avoids bad := by
  cases verdict <;> rfl

def inert (verdict : Verdict) (reason : ε) : σ → Result σ ε Unit :=
  perform verdict reason (fun state => state) (fun _ state => state) (fun _ state => state)

@[simp] theorem inert_state (verdict : Verdict) (reason : ε) (state : σ) :
    (inert verdict reason state).state = state := by
  cases verdict <;> rfl

@[simp] theorem inert_isOk (verdict : Verdict) (reason : ε) (state : σ) :
    (inert verdict reason state).isOk = verdict.isDone :=
  perform_isOk verdict reason _ _ _ state

abbrev Disk (κ : Type) := AList (fun _ : κ => Bytes)

section
variable [DecidableEq κ]

def Disk.read (disk : Disk κ) (path : κ) : Option Bytes := disk.lookup path

def Disk.write (disk : Disk κ) (path : κ) (contents : Bytes) : Disk κ :=
  AList.insert path contents disk

def Disk.remove (disk : Disk κ) (path : κ) : Disk κ := AList.erase path disk

def Disk.move (disk : Disk κ) (source target : κ) : Disk κ :=
  match disk.read source with
  | some contents => (disk.remove source).write target contents
  | none => disk

@[simp] theorem Disk.read_write_same (disk : Disk κ) (path : κ) (contents : Bytes) :
    (disk.write path contents).read path = some contents :=
  AList.lookup_insert disk

variable {path other source target : κ}

theorem Disk.read_write_other (disk : Disk κ) (contents : Bytes) (different : other ≠ path) :
    (disk.write path contents).read other = disk.read other :=
  AList.lookup_insert_ne different

@[simp] theorem Disk.read_remove_same (disk : Disk κ) (path : κ) :
    (disk.remove path).read path = none :=
  AList.lookup_erase path disk

theorem Disk.read_remove_other (disk : Disk κ) (different : other ≠ path) :
    (disk.remove path).read other = disk.read other :=
  AList.lookup_erase_ne different

theorem Disk.read_move_target (disk : Disk κ) {contents : Bytes}
    (found : disk.read source = some contents) :
    (disk.move source target).read target = some contents := by
  simp [move, found]

theorem Disk.read_move_source (disk : Disk κ) {contents : Bytes}
    (found : disk.read source = some contents) (different : target ≠ source) :
    (disk.move source target).read source = none := by
  simp only [move, found]
  rw [read_write_other _ _ different.symm, read_remove_same]

theorem Disk.read_move_other (disk : Disk κ) (notSource : other ≠ source)
    (notTarget : other ≠ target) : (disk.move source target).read other = disk.read other := by
  unfold move
  cases disk.read source with
  | none => rfl
  | some =>
    simp only
    rw [read_write_other _ _ notTarget, read_remove_other _ notSource]

def createFile (verdict : Verdict) (reason : ε) (path : κ) : Disk κ → Result (Disk κ) ε Unit :=
  let created (progress : Nat) (disk : Disk κ) : Disk κ :=
    if progress = 0 then disk else disk.write path []
  perform verdict reason (fun disk => disk.write path []) created created

/-- The file was created before, so the bytes written so far are its content. -/
def writeAll (verdict : Verdict) (reason : ε) (path : κ) (contents : Bytes) :
    Disk κ → Result (Disk κ) ε Unit :=
  let written (progress : Nat) (disk : Disk κ) : Disk κ :=
    disk.write path (contents.take progress)
  perform verdict reason (fun disk => disk.write path contents) written written

def syncAll (verdict : Verdict) (reason : ε) : Disk κ → Result (Disk κ) ε Unit :=
  inert verdict reason

def renameFile (verdict : Verdict) (reason : ε) (source target : κ) :
    Disk κ → Result (Disk κ) ε Unit :=
  perform verdict reason (fun disk => disk.move source target) (fun _ disk => disk)
    (fun progress disk => if progress = 0 then disk else disk.move source target)

def removeFile (verdict : Verdict) (reason : ε) (path : κ) : Disk κ → Result (Disk κ) ε Unit :=
  perform verdict reason (fun disk => disk.remove path) (fun _ disk => disk)
    (fun progress disk => if progress = 0 then disk else disk.remove path)

/-! ### Writing a file through a temporary one -/

structure WritePlan where
  create : Verdict
  write : Verdict
  sync : Verdict
  rename : Verdict
  deriving DecidableEq

def WritePlan.allDone : WritePlan :=
  { create := .done, write := .done, sync := .done, rename := .done }

def WritePlan.clean (plan : WritePlan) : Bool :=
  plan.create.isDone && plan.write.isDone && plan.sync.isDone && plan.rename.isDone

/-- The new contents are in place, whether or not the writer learnt it. -/
def WritePlan.stored (plan : WritePlan) : Bool :=
  plan.create.isDone && plan.write.isDone && plan.sync.isDone && plan.rename.took

def WritePlan.avoids (bad : Ending) (plan : WritePlan) : Bool :=
  plan.create.avoids bad && plan.write.avoids bad && plan.sync.avoids bad && plan.rename.avoids bad

def WritePlan.returns : WritePlan → Bool := avoids .crashed

variable {plan : WritePlan}

theorem WritePlan.stored_of_clean (clean : plan.clean = true) : plan.stored = true := by
  simp only [WritePlan.clean, WritePlan.stored, Bool.and_eq_true] at clean ⊢
  exact ⟨clean.1, Verdict.took_of_isDone clean.2⟩

def writeAtomic (plan : WritePlan) (reason : ε) (tmpPath path : κ) (contents : Bytes)
    (disk : Disk κ) : Result (Disk κ) ε Unit :=
  (createFile plan.create reason tmpPath disk).andThen fun disk _ =>
    (writeAll plan.write reason tmpPath contents disk).andThen fun disk _ =>
      (syncAll plan.sync reason disk).andThen fun disk _ =>
        renameFile plan.rename reason tmpPath path disk

def Disk.SameExcept (before after : Disk κ) (paths : List κ) : Prop :=
  ∀ path, path ∉ paths → after.read path = before.read path

theorem Disk.SameExcept.refl (disk : Disk κ) (paths : List κ) : disk.SameExcept disk paths :=
  fun _ _ => rfl

theorem Disk.SameExcept.trans {first second third : Disk κ} {paths : List κ}
    (left : first.SameExcept second paths) (right : second.SameExcept third paths) :
    first.SameExcept third paths :=
  fun path outside => (right path outside).trans (left path outside)

theorem Disk.SameExcept.mono {before after : Disk κ} {paths more : List κ}
    (same : before.SameExcept after paths) (subset : paths ⊆ more) : before.SameExcept after more :=
  fun path outside => same path (fun inside => outside (subset inside))

theorem Disk.SameExcept.andThen {disk : Disk κ} {paths : List κ} {result : Result (Disk κ) ε Unit}
    {next : Disk κ → Unit → Result (Disk κ) ε Unit} (first : disk.SameExcept result.state paths)
    (later : ∀ disk : Disk κ, disk.SameExcept (next disk ()).state paths) :
    disk.SameExcept (result.andThen next).state paths := by
  rw [Result.andThen_state]
  split
  · exact first.trans (later _)
  · exact first

theorem inert_sameExcept (verdict : Verdict) (reason : ε) (paths : List κ) (disk : Disk κ) :
    disk.SameExcept (inert verdict reason disk).state paths := by
  rw [inert_state]
  exact .refl disk paths

theorem Disk.sameExcept_write (disk : Disk κ) (path : κ) (contents : Bytes) :
    disk.SameExcept (disk.write path contents) [path] := by
  intro other outside
  exact read_write_other disk contents (by simpa using outside)

theorem Disk.sameExcept_move (disk : Disk κ) (source target : κ) :
    disk.SameExcept (disk.move source target) [target, source] := by
  intro other outside
  simp only [List.mem_cons, List.not_mem_nil, or_false, not_or] at outside
  exact read_move_other disk outside.2 outside.1

theorem createFile_sameExcept (verdict : Verdict) (reason : ε) (path : κ) (disk : Disk κ) :
    disk.SameExcept (createFile verdict reason path disk).state [path] := by
  have created (progress : Nat) :
      disk.SameExcept (if progress = 0 then disk else disk.write path []) [path] := by
    split
    · exact .refl disk [path]
    · exact disk.sameExcept_write path []
  cases verdict with
  | done => exact disk.sameExcept_write path []
  | failed progress | crashed progress => exact created progress

theorem renameFile_state (verdict : Verdict) (reason : ε) (source target : κ) (disk : Disk κ) :
    (renameFile verdict reason source target disk).state =
      if verdict.took then disk.move source target else disk := by
  cases verdict with
  | done | failed => rfl
  | crashed progress =>
    by_cases none : progress = 0
    · simp [renameFile, perform, Verdict.took, none]
    · simp [renameFile, perform, Verdict.took, none, Nat.pos_of_ne_zero none]

def prepareTmp (plan : WritePlan) (reason : ε) (tmpPath : κ) (contents : Bytes) (disk : Disk κ) :
    Result (Disk κ) ε Unit :=
  (createFile plan.create reason tmpPath disk).andThen fun disk _ =>
    (writeAll plan.write reason tmpPath contents disk).andThen fun disk _ =>
      syncAll plan.sync reason disk

section
variable (plan : WritePlan) (reason : ε) (tmpPath path : κ) (contents : Bytes) (disk : Disk κ)

theorem writeAtomic_eq :
    writeAtomic plan reason tmpPath path contents disk =
      (prepareTmp plan reason tmpPath contents disk).andThen fun disk _ =>
        renameFile plan.rename reason tmpPath path disk := by
  simp only [writeAtomic, prepareTmp, Result.andThen_assoc]

theorem prepareTmp_isOk :
    (prepareTmp plan reason tmpPath contents disk).isOk =
      (plan.create.isDone && plan.write.isDone && plan.sync.isDone) := by
  simp [prepareTmp, Result.andThen_isOk, createFile, writeAll, syncAll, Bool.and_assoc]

theorem prepareTmp_sameExcept :
    disk.SameExcept (prepareTmp plan reason tmpPath contents disk).state [tmpPath] := by
  refine (createFile_sameExcept plan.create reason tmpPath disk).andThen fun disk => ?_
  refine Disk.SameExcept.andThen ?_ fun disk => inert_sameExcept plan.sync reason _ disk
  cases plan.write <;> exact disk.sameExcept_write tmpPath _

variable {plan} in
theorem prepareTmp_written
    (reached : (plan.create.isDone && plan.write.isDone && plan.sync.isDone) = true) :
    (prepareTmp plan reason tmpPath contents disk).state.read tmpPath = some contents := by
  obtain ⟨create, write, sync, rename⟩ := plan
  simp only [Bool.and_eq_true] at reached
  cases create with
  | done =>
    cases write with
    | done =>
      have same := inert_state sync reason ((disk.write tmpPath []).write tmpPath contents)
      exact (congrArg (Disk.read · tmpPath) same).trans (Disk.read_write_same _ _ _)
    | _ => cases reached.1.2
  | _ => cases reached.1.1

theorem writeAtomic_isOk :
    (writeAtomic plan reason tmpPath path contents disk).isOk = plan.clean := by
  simp [writeAtomic_eq, Result.andThen_isOk, prepareTmp_isOk, renameFile, WritePlan.clean]

theorem writeAtomic_sameExcept :
    disk.SameExcept (writeAtomic plan reason tmpPath path contents disk).state
      [path, tmpPath] := by
  rw [writeAtomic_eq]
  refine ((prepareTmp_sameExcept plan reason tmpPath contents disk).mono (by simp)).andThen
    fun disk => ?_
  rw [renameFile_state]
  split
  · exact disk.sameExcept_move tmpPath path
  · exact .refl disk _

variable {tmpPath path} in
theorem writeAtomic_target (different : path ≠ tmpPath) :
    (writeAtomic plan reason tmpPath path contents disk).state.read path =
      if plan.stored then some contents else disk.read path := by
  have kept := prepareTmp_sameExcept plan reason tmpPath contents disk path
    (by simpa using different)
  rw [writeAtomic_eq, Result.andThen_state, prepareTmp_isOk, renameFile_state]
  unfold WritePlan.stored
  cases reached : (plan.create.isDone && plan.write.isDone && plan.sync.isDone) with
  | false => simpa using kept
  | true =>
    have written := prepareTmp_written reason tmpPath contents disk reached
    cases plan.rename.took with
    | false => simpa using kept
    | true => simpa using Disk.read_move_target _ written

end

/-- How the write ends: with the first verdict that is not done. -/
def WritePlan.outcome (plan : WritePlan) : Verdict :=
  ([plan.create, plan.write, plan.sync, plan.rename].find? fun verdict => !verdict.isDone).getD
    .done

/-- The temporary file has been created, whether or not the writer learnt it. -/
def WritePlan.created (plan : WritePlan) : Bool :=
  match plan.create with
  | .done => true
  | .failed progress | .crashed progress => decide (0 < progress)

theorem writeAtomic_cases (plan : WritePlan) (reason : ε) {tmpPath : κ} (different : path ≠ tmpPath)
    (contents : Bytes) (disk : Disk κ) :
    (plan.outcome = .done ∧ ∃ after,
      writeAtomic plan reason tmpPath path contents disk = .ok after () ∧
      disk.SameExcept after [path, tmpPath] ∧ after.read path = some contents ∧
      after.read tmpPath = none) ∨
    ((∃ progress, plan.outcome = .failed progress) ∧ ∃ after,
      writeAtomic plan reason tmpPath path contents disk = .error after reason ∧
      disk.SameExcept after [tmpPath] ∧
      (after.read tmpPath).isSome = (plan.created || (disk.read tmpPath).isSome)) ∨
    ((∃ progress, plan.outcome = .crashed progress) ∧ ∃ after,
      writeAtomic plan reason tmpPath path contents disk = .crashed after) := by
  obtain ⟨create, write, sync, rename⟩ := plan
  have opened := disk.sameExcept_write tmpPath []
  have filled (part : Bytes) := opened.trans
    ((disk.write tmpPath []).sameExcept_write tmpPath part)
  have held (part : Bytes) : (((disk.write tmpPath []).write tmpPath part).read tmpPath).isSome =
      (true || (disk.read tmpPath).isSome) := by
    rw [Disk.read_write_same]
    rfl
  cases create with
  | crashed progress => exact .inr (.inr ⟨⟨progress, rfl⟩, _, rfl⟩)
  | failed progress =>
    refine .inr (.inl ⟨⟨progress, rfl⟩, _, rfl, ?_, ?_⟩)
    · exact createFile_sameExcept (.failed progress) reason tmpPath disk
    · cases progress with
      | zero => rfl
      | succ => exact congrArg Option.isSome (Disk.read_write_same disk tmpPath [])
  | done =>
    cases write with
    | crashed progress => exact .inr (.inr ⟨⟨progress, rfl⟩, _, rfl⟩)
    | failed progress =>
      exact .inr (.inl ⟨⟨progress, rfl⟩, _, rfl, filled _, held _⟩)
    | done =>
      cases sync with
      | crashed progress => exact .inr (.inr ⟨⟨progress, rfl⟩, _, rfl⟩)
      | failed progress =>
        exact .inr (.inl ⟨⟨progress, rfl⟩, _, rfl, filled contents, held contents⟩)
      | done =>
        cases rename with
        | crashed progress => exact .inr (.inr ⟨⟨progress, rfl⟩, _, rfl⟩)
        | failed progress =>
          exact .inr (.inl ⟨⟨progress, rfl⟩, _, rfl, filled contents, held contents⟩)
        | done =>
          have found := Disk.read_write_same (disk.write tmpPath []) tmpPath contents
          refine .inl ⟨rfl, _, rfl, ?_, Disk.read_move_target _ found, ?_⟩
          · exact ((filled contents).mono (by simp)).trans
              (Disk.sameExcept_move _ tmpPath path)
          · exact Disk.read_move_source _ found different

theorem writeAtomic_avoids {bad : Ending} (avoids : plan.avoids bad = true) (reason : ε)
    (tmpPath path : κ) (contents : Bytes) (disk : Disk κ) :
    (writeAtomic plan reason tmpPath path contents disk).avoids bad = true := by
  simp only [WritePlan.avoids, Bool.and_eq_true] at avoids
  obtain ⟨⟨⟨create, write⟩, sync⟩, rename⟩ := avoids
  refine Result.andThen_avoids (by simpa [createFile] using create) fun disk _ => ?_
  refine Result.andThen_avoids (by simpa [writeAll] using write) fun disk _ => ?_
  refine Result.andThen_avoids (by simpa [syncAll, inert] using sync) fun disk _ => ?_
  simpa [renameFile] using rename

end

end FaultyDisk

/-
Computations that fail with an error.

A loop that keeps a state and ends well has accepted every item, and the keys it
refuses to see twice are distinct.
-/

import Mathlib.Data.List.Forall2
import Mathlib.Data.Option.Basic

namespace Fallible

variable {ε α β : Type}

variable {first run : Except ε α} {next step : α → Except ε β} {result : β} {failure : ε}
  {items : List α} {results : List β}

theorem bind_eq_ok :
    (first >>= next) = .ok result ↔ ∃ value, first = .ok value ∧ next value = .ok result := by
  cases first with
  | error =>
    constructor
    · intro same
      cases same
    · intro found
      obtain ⟨_, impossible, _⟩ := found
      cases impossible
  | ok value =>
    constructor
    · intro same
      exact ⟨value, rfl, same⟩
    · intro found
      obtain ⟨_, same, rest⟩ := found
      cases same
      exact rest

theorem bind_eq_error :
    (first >>= next) = .error failure ↔
      first = .error failure ∨ ∃ value, first = .ok value ∧ next value = .error failure := by
  cases first with
  | error =>
    constructor
    · intro failed
      cases failed
      exact .inl rfl
    · rintro (failed | ⟨value, ran, _⟩)
      · cases failed
        rfl
      · cases ran
  | ok value =>
    constructor
    · intro failed
      exact .inr ⟨value, rfl, failed⟩
    · rintro (failed | ⟨other, ran, failed⟩)
      · cases failed
      · cases ran
        exact failed

theorem ok_bind (value : α) (next : α → Except ε β) :
    ((.ok value : Except ε α) >>= next) = next value := rfl

theorem bind_succeeds (ran : ∃ value, first = .ok value)
    (later : ∀ value, first = .ok value → ∃ result, next value = .ok result) :
    ∃ result, (first >>= next) = .ok result := by
  obtain ⟨value, same⟩ := ran
  obtain ⟨result, ranNext⟩ := later value same
  exact ⟨result, bind_eq_ok.mpr ⟨value, same, ranNext⟩⟩

theorem bind_succeeds_iff :
    (∃ result, (first >>= next) = .ok result) ↔
      ∃ value, first = .ok value ∧ ∃ result, next value = .ok result := by
  constructor
  · rintro ⟨result, ran⟩
    obtain ⟨value, ranFirst, ranNext⟩ := bind_eq_ok.mp ran
    exact ⟨value, ranFirst, result, ranNext⟩
  · rintro ⟨value, ranFirst, result, ranNext⟩
    exact ⟨result, bind_eq_ok.mpr ⟨value, ranFirst, ranNext⟩⟩

variable {second : Except ε α} {other : α → Except ε β} {condition : Prop}

theorem bind_succeeds_congr
    (each : ∀ value, (∃ result, next value = .ok result) ↔
      (∃ result, other value = .ok result) ∧ condition) :
    (∃ result, (first >>= next) = .ok result) ↔
      (∃ result, (first >>= other) = .ok result) ∧ condition := by
  simp only [bind_succeeds_iff, each, ← and_assoc, exists_and_right]

theorem bind_succeeds_head
    (heads : (∃ value, first = .ok value) ↔ (∃ value, second = .ok value) ∧ condition)
    (alike : ∀ value another, (∃ result, next value = .ok result) →
      ∃ result, next another = .ok result) :
    (∃ result, (first >>= next) = .ok result) ↔
      (∃ result, (second >>= next) = .ok result) ∧ condition := by
  simp only [bind_succeeds_iff]
  constructor
  · rintro ⟨value, ran, found⟩
    obtain ⟨⟨another, ranSecond⟩, holds⟩ := heads.mp ⟨value, ran⟩
    exact ⟨⟨another, ranSecond, alike value another found⟩, holds⟩
  · rintro ⟨⟨another, ranSecond, found⟩, holds⟩
    obtain ⟨value, ran⟩ := heads.mpr ⟨⟨another, ranSecond⟩, holds⟩
    exact ⟨value, ran, alike another value found⟩

theorem exists_of_isOk (succeeds : run.isOk = true) : ∃ value, run = .ok value := by
  cases run with
  | error => cases succeeds
  | ok value => exact ⟨value, rfl⟩

theorem exists_of_map_eq_ok {change : α → β} (ran : run.map change = .ok result) :
    ∃ value, run = .ok value ∧ change value = result := by
  cases run with
  | error => cases ran
  | ok value => exact ⟨value, rfl, Except.ok.inj ran⟩

theorem mapError_eq_ok {δ : Type} {translate : ε → δ} {result : α} :
    run.mapError translate = .ok result ↔ run = .ok result := by
  cases run with
  | error =>
    constructor
    all_goals
      intro same
      cases same
  | ok =>
    constructor
    all_goals
      intro same
      cases same
      rfl

theorem mapM_eq_ok :
    items.mapM step = .ok results ↔
      List.Forall₂ (fun item result => step item = .ok result) items results := by
  induction items generalizing results with
  | nil =>
    constructor
    · intro same
      cases same
      exact .nil
    · intro paired
      cases paired
      rfl
  | cons item rest ih =>
    rw [List.mapM_cons, bind_eq_ok]
    constructor
    · intro found
      obtain ⟨result, ran, later⟩ := found
      obtain ⟨others, ranRest, same⟩ := bind_eq_ok.mp later
      cases same
      exact .cons ran (ih.mp ranRest)
    · intro paired
      cases paired with
      | cons ran later => exact ⟨_, ran, bind_eq_ok.mpr ⟨_, ih.mpr later, rfl⟩⟩

theorem mapM_both {δ γ : Type} {first : α → Except ε β} {second : α → Except δ γ}
    {related : β → γ → Prop} {firsts : List β} {seconds : List γ}
    (each : ∀ item left right, first item = .ok left → second item = .ok right →
      related left right) (ran : items.mapM first = .ok firsts)
    (also : items.mapM second = .ok seconds) : List.Forall₂ related firsts seconds := by
  have lefts := mapM_eq_ok.mp ran
  have rights := mapM_eq_ok.mp also
  clear ran also
  induction lefts generalizing seconds with
  | nil =>
    cases rights
    exact .nil
  | cons read _ ih =>
    cases rights with
    | cons readToo rest => exact .cons (each _ _ _ read readToo) (ih rest)

theorem mapM_succeeds (each : ∀ item ∈ items, ∃ result, step item = .ok result) :
    ∃ results, items.mapM step = .ok results := by
  induction items with
  | nil => exact ⟨[], rfl⟩
  | cons item rest ih =>
    rw [List.mapM_cons]
    apply bind_succeeds (each item List.mem_cons_self)
    intro result _
    apply bind_succeeds (ih fun other member => each other (List.mem_cons_of_mem item member))
    intro results _
    exact ⟨result :: results, rfl⟩

def reject (condition : Prop) [Decidable condition] (failure : ε) : Except ε Unit :=
  if condition then .error failure else .ok ()

variable {condition : Prop}

theorem reject_eq_ok [Decidable condition] {result : Unit} :
    reject condition failure = .ok result ↔ ¬ condition := by
  unfold reject
  split
  · rename_i holds
    constructor
    · intro same
      cases same
    · intro refuted
      exact absurd holds refuted
  · rename_i refuted
    exact ⟨fun _ => refuted, fun _ => rfl⟩

theorem reject_passes [Decidable condition] (refuted : ¬ condition) :
    reject condition failure = .ok () :=
  reject_eq_ok.mpr refuted

theorem reject_eq_error [Decidable condition] {other : ε} :
    reject condition failure = .error other ↔ condition ∧ failure = other := by
  unfold reject
  split
  · rename_i holds
    simp [holds]
  · rename_i refuted
    simp [refuted]

theorem exists_of_forM_eq_error {check : α → Except ε Unit}
    (failed : items.forM check = .error failure) : ∃ item ∈ items, check item = .error failure := by
  induction items with
  | nil => cases failed
  | cons item rest ih =>
    rcases bind_eq_error.mp failed with now | ⟨_, _, later⟩
    · exact ⟨item, List.mem_cons_self, now⟩
    · obtain ⟨found, member, same⟩ := ih later
      exact ⟨found, List.mem_cons_of_mem item member, same⟩

theorem forM_eq_ok {check : α → Except ε Unit} {result : Unit} :
    items.forM check = .ok result ↔ ∀ item ∈ items, check item = .ok () := by
  induction items with
  | nil => exact ⟨fun _ _ member => (List.not_mem_nil member).elim, fun _ => rfl⟩
  | cons item rest ih =>
    change (check item >>= fun _ => rest.forM check) = .ok result ↔ _
    rw [bind_eq_ok, List.forall_mem_cons]
    constructor
    · intro found
      obtain ⟨_, ran, later⟩ := found
      exact ⟨ran, ih.mp later⟩
    · intro all
      exact ⟨(), all.1, ih.mpr all.2⟩

/-! ### Loops with a state -/

section

variable {σ : Type} {step : σ → α → Except ε σ} {items : List α} {state final : σ}

theorem foldlM_forall (good : α → Prop)
    (each : ∀ before item after, step before item = .ok after → good item)
    (ran : items.foldlM step state = .ok final) : ∀ item ∈ items, good item := by
  induction items generalizing state with
  | nil =>
    intro item member
    cases member
  | cons item rest ih =>
    obtain ⟨next, ranFirst, ranRest⟩ := bind_eq_ok.mp ran
    rw [List.forall_mem_cons]
    exact ⟨each state item next ranFirst, ih ranRest⟩

theorem foldlM_kept (property : σ → Prop)
    (each : ∀ before item after, step before item = .ok after → property before → property after)
    (ran : items.foldlM step state = .ok final) (start : property state) : property final := by
  induction items generalizing state with
  | nil =>
    cases ran
    exact start
  | cons item rest ih =>
    obtain ⟨next, ranFirst, ranRest⟩ := bind_eq_ok.mp ran
    exact ih ranRest (each state item next ranFirst start)

theorem foldlM_reached (property : σ → Prop) {item : α} (member : item ∈ items)
    (brings : ∀ before after, step before item = .ok after → property after)
    (each : ∀ before item after, step before item = .ok after → property before → property after)
    (ran : items.foldlM step state = .ok final) : property final := by
  induction items generalizing state with
  | nil => cases member
  | cons first rest ih =>
    obtain ⟨next, ranFirst, ranRest⟩ := bind_eq_ok.mp ran
    rcases List.mem_cons.mp member with rfl | later
    · exact foldlM_kept property each ranRest (brings state next ranFirst)
    · exact ih later ranRest

theorem foldlM_distinct {κ : Type} (key : α → κ) (seen : σ → κ → Prop)
    (fresh : ∀ before item after, step before item = .ok after → ¬ seen before (key item))
    (noted : ∀ before item after, step before item = .ok after → seen after (key item))
    (kept : ∀ before item after, step before item = .ok after →
      ∀ other, seen before other → seen after other)
    (ran : items.foldlM step state = .ok final) :
    (items.map key).Nodup ∧ ∀ item ∈ items, ¬ seen state (key item) := by
  induction items generalizing state with
  | nil => exact ⟨List.nodup_nil, fun _ member => (List.not_mem_nil member).elim⟩
  | cons item rest ih =>
    obtain ⟨next, ranFirst, ranRest⟩ := bind_eq_ok.mp ran
    obtain ⟨distinct, unseen⟩ := ih ranRest
    constructor
    · rw [List.map_cons, List.nodup_cons]
      refine ⟨?_, distinct⟩
      intro repeated
      obtain ⟨other, member, same⟩ := List.mem_map.mp repeated
      exact unseen other member (same ▸ noted state item next ranFirst)
    · rw [List.forall_mem_cons]
      refine ⟨fresh state item next ranFirst, ?_⟩
      intro other member before
      exact unseen other member (kept state item next ranFirst _ before)

theorem foldlM_collects {κ : Type} (collect : α → List κ) (collected : List κ → σ → Prop)
    (each : ∀ seen before item after, step before item = .ok after → collected seen before →
      collected (seen ++ collect item) after)
    (ran : items.foldlM step state = .ok final) {seen : List κ} (start : collected seen state) :
    collected (seen ++ items.flatMap collect) final := by
  induction items generalizing state seen with
  | nil =>
    cases ran
    rw [List.flatMap_nil, List.append_nil]
    exact start
  | cons item rest ih =>
    obtain ⟨next, ranFirst, ranRest⟩ := bind_eq_ok.mp ran
    rw [List.flatMap_cons, ← List.append_assoc]
    exact ih ranRest (each seen state item next ranFirst start)

theorem foldlM_succeeds_keeping (invariant : σ → Prop)
    (each : ∀ before, invariant before →
      ∀ item ∈ items, ∃ after, step before item = .ok after ∧ invariant after)
    (start : invariant state) : ∃ final, items.foldlM step state = .ok final := by
  induction items generalizing state with
  | nil => exact ⟨state, rfl⟩
  | cons item rest ih =>
    obtain ⟨next, ran, holds⟩ := each state start item List.mem_cons_self
    apply bind_succeeds ⟨next, ran⟩
    intro reached same
    cases ran.symm.trans same
    exact ih
      (fun before held other member => each before held other (List.mem_cons_of_mem item member))
      holds

theorem foldlM_succeeds (each : ∀ before, ∀ item ∈ items, ∃ after, step before item = .ok after) :
    ∃ final, items.foldlM step state = .ok final := by
  apply foldlM_succeeds_keeping (fun _ => True) _ trivial
  intro before _ item member
  obtain ⟨after, ran⟩ := each before item member
  exact ⟨after, ran, trivial⟩

end

variable {paired : α → β → Prop}

theorem exists_of_mem_right (pairs : List.Forall₂ paired items results)
    (member : result ∈ results) : ∃ item ∈ items, paired item result := by
  induction pairs with
  | nil => cases member
  | @cons item first items results holds _ ih =>
    rcases List.mem_cons.mp member with rfl | later
    · exact ⟨item, List.mem_cons_self, holds⟩
    · obtain ⟨other, found, holdsOther⟩ := ih later
      exact ⟨other, List.mem_cons_of_mem item found, holdsOther⟩

theorem mapM_forall (good : β → Prop)
    (each : ∀ item ∈ items, ∀ result, step item = .ok result → good result)
    (ran : items.mapM step = .ok results) : ∀ result ∈ results, good result := by
  intro result member
  obtain ⟨item, found, same⟩ := exists_of_mem_right (mapM_eq_ok.mp ran) member
  exact each item found result same

theorem mapM_zipIdx_reached {read : α → Nat → Except ε β} {first : Nat}
    (ran : (items.zipIdx first).mapM (fun entry => read entry.1 entry.2) = .ok results) {item : α}
    (member : item ∈ items) : ∃ index, ∃ result ∈ results, read item index = .ok result := by
  induction items generalizing first results with
  | nil => cases member
  | cons head rest ih =>
    rw [List.zipIdx_cons, List.mapM_cons] at ran
    obtain ⟨result, ranFirst, ran⟩ := bind_eq_ok.mp ran
    obtain ⟨others, ranRest, built⟩ := bind_eq_ok.mp ran
    cases built
    rcases List.mem_cons.mp member with rfl | later
    · exact ⟨first, result, List.mem_cons_self, ranFirst⟩
    · obtain ⟨index, found, listed, same⟩ := ih ranRest later
      exact ⟨index, found, List.mem_cons_of_mem result listed, same⟩

theorem mapM_zipIdx_written (read : α → Nat → Except ε β) (write : β → α) (first : Nat)
    (each : ∀ result ∈ results, ∀ index, read (write result) index = .ok result) :
    ((results.map write).zipIdx first).mapM (fun entry => read entry.1 entry.2) =
      .ok results := by
  induction results generalizing first with
  | nil => rfl
  | cons result rest ih =>
    rw [List.forall_mem_cons] at each
    rw [List.map_cons, List.zipIdx_cons, List.mapM_cons, each.1, ok_bind,
      ih (first + 1) each.2, ok_bind]
    rfl

theorem mapM_written {read : α → Except ε β} {write : β → α}
    (each : ∀ result ∈ results, read (write result) = .ok result) :
    (results.map write).mapM read = .ok results := by
  induction results with
  | nil => rfl
  | cons result rest ih =>
    rw [List.forall_mem_cons] at each
    rw [List.map_cons, List.mapM_cons, each.1, ok_bind, ih each.2, ok_bind]
    rfl

theorem exists_of_mem_left (pairs : List.Forall₂ paired items results) {item : α}
    (member : item ∈ items) : ∃ result ∈ results, paired item result :=
  exists_of_mem_right pairs.flip member

theorem mapM_zipIdx_succeeds_iff {step : α × Nat → Except ε β} :
    (∃ results, items.zipIdx.mapM step = .ok results) ↔
      ∀ position item, items[position]? = some item →
        ∃ result, step (item, position) = .ok result := by
  constructor
  · rintro ⟨results, ran⟩ position item found
    have member : (item, position) ∈ items.zipIdx := List.mem_zipIdx_iff_getElem?.mpr found
    obtain ⟨result, _, stepped⟩ := exists_of_mem_left (mapM_eq_ok.mp ran) member
    exact ⟨result, stepped⟩
  · intro each
    apply mapM_succeeds
    intro entry member
    exact each entry.2 entry.1 (List.mem_zipIdx_iff_getElem?.mp member)

theorem find?_of_forall₂ (pairs : List.Forall₂ paired items results) (test : α → Bool)
    (testResult : β → Bool)
    (alike : ∀ item result, paired item result → test item = testResult result) :
    Option.Rel paired (items.find? test) (results.find? testResult) := by
  induction pairs with
  | nil => exact .none
  | @cons item first items results holds _ ih =>
    rw [List.find?_cons, List.find?_cons, ← alike item first holds]
    cases test item with
    | true => exact .some holds
    | false => exact ih

end Fallible

/-
Texts with quoted parts.

Between two quotes stands an escaped text, in which a quote or an escape occurs only behind
an escape. Of a text with a given number of marks outside of its quotes, no proper part from
a mark to the end is a text with as many.
-/

import Mathlib.Data.List.Basic

namespace QuotedText

structure Quoting (α : Type) where
  quote : α
  escape : α
  distinct : quote ≠ escape

variable {α : Type} {quoting : Quoting α}

def Quoting.Plain (quoting : Quoting α) (item : α) : Prop :=
  item ≠ quoting.quote ∧ item ≠ quoting.escape

instance [DecidableEq α] (item : α) : Decidable (quoting.Plain item) :=
  inferInstanceAs (Decidable (_ ∧ _))

inductive Quoting.Escaped (quoting : Quoting α) : List α → Prop where
  | nil : Quoting.Escaped quoting []
  | plain {item : α} {rest : List α} (ordinary : quoting.Plain item)
      (later : Quoting.Escaped quoting rest) : Quoting.Escaped quoting (item :: rest)
  | pair (item : α) {rest : List α} (later : Quoting.Escaped quoting rest) :
      Quoting.Escaped quoting (quoting.escape :: item :: rest)

variable {first second : List α}

theorem Quoting.Escaped.append_quote_inj {firstRest secondRest : List α}
    (one : quoting.Escaped first) (other : quoting.Escaped second)
    (same : first ++ quoting.quote :: firstRest = second ++ quoting.quote :: secondRest) :
    first = second ∧ firstRest = secondRest := by
  induction one generalizing second with
  | nil =>
    cases other with
    | nil => exact ⟨rfl, (List.cons.inj same).2⟩
    | plain ordinary => exact absurd (List.cons.inj same).1.symm ordinary.1
    | pair => exact absurd (List.cons.inj same).1 quoting.distinct
  | plain ordinary _ ih =>
    cases other with
    | nil => exact absurd (List.cons.inj same).1 ordinary.1
    | plain _ later =>
      obtain ⟨rfl, tails⟩ := List.cons.inj same
      obtain ⟨rfl, rests⟩ := ih later tails
      exact ⟨rfl, rests⟩
    | pair => exact absurd (List.cons.inj same).1 ordinary.2
  | pair item _ ih =>
    cases other with
    | nil => exact absurd (List.cons.inj same).1.symm quoting.distinct
    | plain ordinary => exact absurd (List.cons.inj same).1.symm ordinary.2
    | pair _ later =>
      obtain ⟨rfl, tails⟩ := List.cons.inj (List.cons.inj same).2
      obtain ⟨rfl, rests⟩ := ih later tails
      exact ⟨rfl, rests⟩

/-- A way to escape texts that does not lose any. -/
structure Escaping (quoting : Quoting α) where
  escape : List α → List α
  escaped : ∀ text, quoting.Escaped (escape text)
  injective : Function.Injective escape

def Escaping.quoted (escaping : Escaping quoting) (text : List α) : List α :=
  quoting.quote :: escaping.escape text ++ [quoting.quote]

theorem Escaping.quoted_append (escaping : Escaping quoting) (text rest : List α) :
    escaping.quoted text ++ rest =
      quoting.quote :: (escaping.escape text ++ quoting.quote :: rest) := by
  simp [quoted]

theorem Escaping.quoted_append_inj (escaping : Escaping quoting) {firstRest secondRest : List α}
    (same : escaping.quoted first ++ firstRest = escaping.quoted second ++ secondRest) :
    first = second ∧ firstRest = secondRest := by
  rw [escaping.quoted_append, escaping.quoted_append] at same
  obtain ⟨texts, rests⟩ := (escaping.escaped first).append_quote_inj (escaping.escaped second)
    (List.cons.inj same).2
  exact ⟨escaping.injective texts, rests⟩

/-- A text with the given number of marks outside of its quoted parts. -/
inductive Quoting.Marked (quoting : Quoting α) (mark : α) : Nat → List α → Prop where
  | nil : Quoting.Marked quoting mark 0 []
  | plain {item : α} {count : Nat} {rest : List α} (ordinary : quoting.Plain item)
      (unmarked : item ≠ mark) (later : Quoting.Marked quoting mark count rest) :
      Quoting.Marked quoting mark count (item :: rest)
  | marked {count : Nat} {rest : List α} (later : Quoting.Marked quoting mark count rest) :
      Quoting.Marked quoting mark (count + 1) (mark :: rest)
  | quoted {content : List α} {count : Nat} {rest : List α} (inner : quoting.Escaped content)
      (later : Quoting.Marked quoting mark count rest) :
      Quoting.Marked quoting mark count
        (quoting.quote :: (content ++ quoting.quote :: rest))

variable {mark : α}

variable {text : List α} {count : Nat}

theorem Quoting.Marked.append_plain {rest : List α}
    (plain : ∀ item ∈ text, quoting.Plain item ∧ item ≠ mark)
    (later : quoting.Marked mark count rest) : quoting.Marked mark count (text ++ rest) := by
  induction text with
  | nil => exact later
  | cons item text ih =>
    obtain ⟨ordinary, unmarked⟩ := plain item List.mem_cons_self
    exact .plain ordinary unmarked
      (ih fun other member => plain other (List.mem_cons_of_mem item member))

theorem Escaping.marked_quoted (escaping : Escaping quoting) (text : List α) {rest : List α}
    (later : quoting.Marked mark count rest) :
    quoting.Marked mark count (escaping.quoted text ++ rest) := by
  rw [escaping.quoted_append]
  exact .quoted (escaping.escaped text) later

inductive Mode where
  | outside
  | inside
  | escaped
  deriving DecidableEq

variable [DecidableEq α]

/-- Outside of the quotes an escape is out of place, and the marks are counted. -/
def Quoting.step (quoting : Quoting α) (mark : α) : Mode × Nat → α → Option (Mode × Nat)
  | (.outside, count), item =>
    if item = quoting.quote then some (.inside, count)
    else if item = quoting.escape then none
    else if item = mark then some (.outside, count + 1)
    else some (.outside, count)
  | (.inside, count), item =>
    if item = quoting.quote then some (.outside, count)
    else if item = quoting.escape then some (.escaped, count)
    else some (.inside, count)
  | (.escaped, count), _ => some (.inside, count)

def Quoting.read (quoting : Quoting α) (mark : α) :
    Mode × Nat → List α → Option (Mode × Nat)
  | state, [] => some state
  | state, item :: rest => (quoting.step mark state item).bind (read quoting mark · rest)

theorem read_append (state : Mode × Nat) (front rest : List α) :
    quoting.read mark state (front ++ rest) =
      (quoting.read mark state front).bind (quoting.read mark · rest) := by
  induction front generalizing state with
  | nil => rfl
  | cons item front ih =>
    rw [List.cons_append, Quoting.read, Quoting.read, Option.bind_assoc]
    exact congrArg _ (funext ih)

variable {after : Mode × Nat}

theorem step_count_le {state : Mode × Nat} {item : α}
    (stepped : quoting.step mark state item = some after) : state.2 ≤ after.2 := by
  unfold Quoting.step at stepped
  split at stepped
  · split_ifs at stepped <;> cases stepped
    · exact Nat.le_refl _
    · exact Nat.le_succ _
    · exact Nat.le_refl _
  · split_ifs at stepped <;> cases stepped <;> exact Nat.le_refl _
  · cases stepped
    exact Nat.le_refl _

theorem read_count_le {state : Mode × Nat} (ran : quoting.read mark state text = some after) :
    state.2 ≤ after.2 := by
  induction text generalizing state with
  | nil => exact Nat.le_of_eq (congrArg Prod.snd (Option.some.inj ran))
  | cons item rest ih =>
    obtain ⟨middle, stepped, later⟩ := Option.bind_eq_some_iff.mp ran
    exact Nat.le_trans (step_count_le stepped) (ih later)

theorem Quoting.Escaped.read_inside {content : List α} (inner : quoting.Escaped content)
    (count : Nat) : quoting.read mark (.inside, count) content = some (.inside, count) := by
  induction inner with
  | nil => rfl
  | plain ordinary _ ih =>
    rw [Quoting.read, Quoting.step, if_neg ordinary.1, if_neg ordinary.2]
    exact ih
  | pair item _ ih =>
    rw [Quoting.read, Quoting.step, if_neg quoting.distinct.symm, if_pos rfl]
    exact ih

theorem Quoting.Escaped.read_outside {content : List α} (inner : quoting.Escaped content)
    (ran : quoting.read mark (.outside, count) content = some after) : after.1 = .outside := by
  induction inner generalizing count with
  | nil => exact (congrArg Prod.fst (Option.some.inj ran)).symm
  | plain ordinary _ ih =>
    rw [Quoting.read, Quoting.step, if_neg ordinary.1, if_neg ordinary.2] at ran
    split at ran <;> exact ih ran
  | pair =>
    rw [Quoting.read, Quoting.step, if_neg quoting.distinct.symm, if_pos rfl] at ran
    cases ran

theorem Quoting.Marked.read_outside (ordinary : quoting.Plain mark) {marks : Nat}
    (marked : quoting.Marked mark marks text) (count : Nat) :
    quoting.read mark (.outside, count) text = some (.outside, count + marks) := by
  induction marked generalizing count with
  | nil => rfl
  | plain ordinary unmarked _ ih =>
    rw [Quoting.read, Quoting.step, if_neg ordinary.1, if_neg ordinary.2, if_neg unmarked]
    exact ih count
  | marked _ ih =>
    rw [Quoting.read, Quoting.step, if_neg ordinary.1, if_neg ordinary.2, if_pos rfl,
      Option.bind_some, ih, Nat.add_right_comm, Nat.add_assoc]
  | quoted inner _ ih =>
    rw [Quoting.read, Quoting.step, if_pos rfl, Option.bind_some, read_append,
      inner.read_inside, Option.bind_some, Quoting.read, Quoting.step, if_pos rfl]
    exact ih count

theorem Quoting.Marked.read_inside (ordinary : quoting.Plain mark) {marks : Nat}
    (marked : quoting.Marked mark marks text)
    (ran : quoting.read mark (.inside, count) text = some after) : after.1 = .inside := by
  induction marked generalizing count with
  | nil => exact (congrArg Prod.fst (Option.some.inj ran)).symm
  | plain ordinary _ _ ih | marked _ ih =>
    rw [Quoting.read, Quoting.step, if_neg ordinary.1, if_neg ordinary.2] at ran
    exact ih ran
  | quoted inner _ ih =>
    rw [Quoting.read, Quoting.step, if_pos rfl, Option.bind_some, read_append] at ran
    obtain ⟨⟨mode, middle⟩, content, later⟩ := Option.bind_eq_some_iff.mp ran
    obtain rfl : mode = .outside := inner.read_outside content
    rw [Quoting.read, Quoting.step, if_pos rfl] at later
    exact ih later

theorem Quoting.Marked.front_eq_nil (ordinary : quoting.Plain mark) {front : List α}
    (one : quoting.Marked mark count first) (other : quoting.Marked mark count second)
    (apart : mark :: second = front ++ mark :: first) : front = [] := by
  cases front with
  | nil => rfl
  | cons =>
    obtain ⟨rfl, -⟩ := List.cons.inj apart
    have whole := (marked other).read_outside ordinary 0
    rw [apart, read_append] at whole
    obtain ⟨⟨mode, passed⟩, ranFront, ranRest⟩ := Option.bind_eq_some_iff.mp whole
    have counted : 1 ≤ passed := by
      rw [Quoting.read, Quoting.step, if_neg ordinary.1, if_neg ordinary.2, if_pos rfl]
        at ranFront
      exact read_count_le ranFront
    cases mode with
    | outside =>
      rw [(marked one).read_outside ordinary passed] at ranRest
      have sums := congrArg Prod.snd (Option.some.inj ranRest)
      dsimp only at sums
      omega
    | inside => cases (marked one).read_inside ordinary ranRest
    | escaped => cases one.read_inside ordinary ranRest

theorem Quoting.Marked.append_mark_inj (ordinary : quoting.Plain mark)
    {firstName secondName : List α} (one : quoting.Marked mark count first)
    (other : quoting.Marked mark count second)
    (same : firstName ++ mark :: first = secondName ++ mark :: second) :
    firstName = secondName ∧ first = second := by
  rcases List.append_eq_append_iff.mp same with ⟨front, names, rests⟩ | ⟨front, names, rests⟩
  · obtain rfl := other.front_eq_nil ordinary one rests
    exact ⟨(names.trans (List.append_nil _)).symm, (List.cons.inj rests).2⟩
  · obtain rfl := one.front_eq_nil ordinary other rests
    exact ⟨names.trans (List.append_nil _), (List.cons.inj rests).2.symm⟩

/-- An escape in front of every quote and every escape. -/
def Quoting.guard (quoting : Quoting α) : List α → List α
  | [] => []
  | item :: rest =>
    if item = quoting.quote ∨ item = quoting.escape then
      quoting.escape :: item :: guard quoting rest
    else item :: guard quoting rest

theorem guard_escaped (text : List α) : quoting.Escaped (quoting.guard text) := by
  induction text with
  | nil => exact .nil
  | cons item rest ih =>
    unfold Quoting.guard
    split
    · exact .pair item ih
    · rename_i neither
      exact .plain (not_or.mp neither) ih

theorem guard_injective : Function.Injective quoting.guard := by
  intro first
  induction first with
  | nil =>
    intro second same
    cases second with
    | nil => rfl
    | cons =>
      unfold Quoting.guard at same
      split at same <;> cases same
  | cons item rest ih =>
    intro second same
    cases second with
    | nil =>
      unfold Quoting.guard at same
      split at same <;> cases same
    | cons =>
      rw [Quoting.guard, Quoting.guard] at same
      split at same <;> rename_i special <;> split at same <;> rename_i otherSpecial
      · obtain ⟨rfl, rests⟩ := List.cons.inj (List.cons.inj same).2
        rw [ih rests]
      · exact absurd (Or.inr (List.cons.inj same).1.symm) otherSpecial
      · exact absurd (Or.inr (List.cons.inj same).1) special
      · obtain ⟨rfl, rests⟩ := List.cons.inj same
        rw [ih rests]

def Quoting.guarding (quoting : Quoting α) : Escaping quoting where
  escape := quoting.guard
  escaped := guard_escaped
  injective := guard_injective

end QuotedText

/-
Repeated children in a normalised predicate tree.

The form that normalisation is meant to reach has every argument of a connective
once. Normalisation removes a repeat only where it follows its equal, so it reaches
that form exactly for the trees in which equal arguments of one cost stand together.
-/

import Pavis.Routing.PredicateNormalForm

namespace Pavis.Routing

open ByteText SortedRuns
open PredicateNode (Distinct normalize normalizeNot)

open PredicateNode (Everywhere everywhere_iff everywhere_of_childless costKey)

/-- What is said of a tree without normalising it. -/
structure Reference where
  /-- The value its constants alone give it. -/
  value : Option Bool
  /-- The tree with every argument of a connective once. -/
  form : PredicateNode
  /-- At every connective that no constant decides, no argument occurs again after a
  different argument of the same cost. -/
  gathered : Bool

/-- The value of an absorbing constant. -/
def Junction.decisive : Junction → Bool
  | .and => Bool.false
  | .or => Bool.true

def Junction.reference (junction : Junction) (parts : List Reference) : Reference :=
  if some junction.decisive ∈ parts.map Reference.value then
    ⟨some junction.decisive, junction.absorbing, Bool.true⟩
  else
    let arguments := junction.arguments (parts.map Reference.form)
    { value :=
        if ∀ part ∈ parts, part.value = some (!junction.decisive) then some (!junction.decisive)
        else none
      form := junction.collapse (sortByKey costKey arguments).dedup
      gathered := parts.all Reference.gathered && decide (Gathered costKey arguments) }

def Reference.negate (reference : Reference) : Reference :=
  { reference with
    value := reference.value.map Bool.not, form := normalizeNot reference.form }

mutual

def PredicateNode.reference : PredicateNode → Reference
  | .constTrue => ⟨some Bool.true, .constTrue, Bool.true⟩
  | .constFalse => ⟨some Bool.false, .constFalse, Bool.true⟩
  | .method matcher => ⟨none, .method matcher, Bool.true⟩
  | .header matcher => ⟨none, .header matcher, Bool.true⟩
  | .and children => Junction.reference .and (referenceAll children)
  | .or children => Junction.reference .or (referenceAll children)
  | .not child => (reference child).negate

def PredicateNode.referenceAll : List PredicateNode → List Reference
  | [] => []
  | child :: rest => reference child :: referenceAll rest

end

/-- Equal arguments of a connective stand together among the arguments of their cost. -/
def PredicateNode.repeatsGathered (tree : PredicateNode) : Bool := tree.reference.gathered

private theorem referenceAll_eq_map (children : List PredicateNode) :
    PredicateNode.referenceAll children = children.map PredicateNode.reference := by
  induction children with
  | nil => rfl
  | cons head rest ih =>
    change head.reference :: PredicateNode.referenceAll rest = _
    rw [ih, List.map_cons]

def PredicateNode.ofBool : Bool → PredicateNode
  | Bool.true => .constTrue
  | Bool.false => .constFalse

namespace Junction

variable {junction : Junction} {parts : List PredicateNode}

private theorem absorbing_eq : junction.absorbing = .ofBool junction.decisive := by
  cases junction <;> rfl

private theorem neutral_eq : junction.neutral = .ofBool (!junction.decisive) := by
  cases junction <;> rfl

private theorem ofBool_inj {left right : Bool} :
    PredicateNode.ofBool left = .ofBool right ↔ left = right := by
  cases left <;> cases right <;> simp [PredicateNode.ofBool]

private theorem isConstant_collapse (junction : Junction) {left : List PredicateNode}
    (proper : ∀ node ∈ left, node.isConstant = false) (nonempty : left ≠ []) :
    (junction.collapse left).isConstant = false := by
  match left with
  | [] => exact absurd rfl nonempty
  | [only] => exact proper only List.mem_cons_self
  | _ :: _ :: _ => cases junction <;> rfl

private theorem nodup_iff_gathered {nodes : List PredicateNode} (joined : Joined junction nodes) :
    nodes.Nodup ↔ Gathered costKey nodes := by
  rw [← nodup_dedupAdjacent_sortByKey, sortByKey_of_sorted joined.sorted,
    dedupAdjacent_of_isChain joined.adjacent]

private theorem collapse_distinct (left : List PredicateNode) :
    (junction.collapse left).Everywhere Distinct ↔
      left.Nodup ∧ ∀ node ∈ left, node.Everywhere Distinct := by
  match left with
  | [] =>
    have neutral : junction.neutral.Everywhere Distinct :=
      everywhere_of_childless junction.neutral_children junction.neutral_distinct
    simp [collapse, neutral]
  | [only] => simp [collapse]
  | first :: second :: rest =>
    rw [collapse, everywhere_iff, build_distinct, build_children]

private theorem sublist_arguments {part : PredicateNode} (listed : part ∈ parts) :
    (junction.contribution part).Sublist (junction.arguments parts) := by
  rw [arguments, List.flatMap_def]
  exact List.sublist_flatten_of_mem (List.mem_map_of_mem listed)

section Shaped

variable (shaped : ∀ part ∈ parts, part.Everywhere PredicateNode.Shaped)
include shaped

private theorem settled_eq_nil :
    junction.settled parts = [] ↔ ∀ part ∈ parts, part = junction.neutral := by
  rw [List.eq_nil_iff_forall_not_mem]
  simp only [mem_settled shaped]
  rw [← List.eq_nil_iff_forall_not_mem, arguments, List.flatMap_eq_nil_iff]
  exact forall₂_congr fun part listed =>
    contribution_eq_nil (everywhere_iff.mp (shaped part listed)).1

private theorem collapse_eq_ofBool (unabsorbed : junction.absorbing ∉ parts) (truth : Bool) :
    junction.collapse (junction.settled parts) = .ofBool truth ↔
      truth = (!junction.decisive) ∧ ∀ part ∈ parts, part = junction.neutral := by
  rw [← settled_eq_nil shaped]
  constructor
  · intro same
    have nothing : junction.settled parts = [] := by
      by_contra nonempty
      have proper := isConstant_collapse junction (fun node listed =>
        (of_mem_arguments shaped unabsorbed ((mem_settled shaped).mp listed)).2.1) nonempty
      rw [same] at proper
      cases truth <;> cases proper
    rw [nothing, collapse, neutral_eq, ofBool_inj] at same
    exact ⟨same.symm, nothing⟩
  · rintro ⟨rfl, nothing⟩
    rw [nothing, collapse, neutral_eq]

/-- The children of a part that is spliced in are arguments themselves. -/
private theorem arguments_distinct (gathered : Gathered costKey (junction.arguments parts)) :
    (∀ node ∈ junction.arguments parts, node.Everywhere Distinct) ↔
      ∀ part ∈ parts, part.Everywhere Distinct := by
  constructor
  · intro distinct part listed
    have inside : (junction.contribution part).Sublist (junction.arguments parts) :=
      sublist_arguments listed
    rcases junction.splice_cases part with ⟨inner, rfl, _⟩ | ⟨other, _⟩
    · have joined := (build_shaped junction inner).mp (everywhere_iff.mp (shaped _ listed)).1
      rw [contribution_build] at inside
      rw [everywhere_iff, build_distinct, build_children]
      exact ⟨(nodup_iff_gathered joined).mpr (gathered.of_sublist inside),
        fun child member => distinct child (inside.subset member)⟩
    · by_cases neutral : part = junction.neutral
      · rw [neutral]
        exact everywhere_of_childless junction.neutral_children junction.neutral_distinct
      · apply distinct part (inside.subset _)
        simp [contribution_other other, neutral]
  · intro distinct node listed
    obtain ⟨part, partListed, contributed⟩ := List.mem_flatMap.mp listed
    have partDistinct := distinct part partListed
    rcases junction.splice_cases part with ⟨inner, rfl, _⟩ | ⟨other, _⟩
    · rw [contribution_build] at contributed
      rw [everywhere_iff, build_children] at partDistinct
      exact partDistinct.2 node contributed
    · rw [contribution_other other] at contributed
      rw [List.mem_singleton.mp (List.mem_of_mem_filter contributed)]
      exact partDistinct

private theorem settled_nodup :
    (junction.settled parts).Nodup ↔ Gathered costKey (junction.arguments parts) := by
  rw [settled, ← arguments_eq_operands shaped]
  exact nodup_dedupAdjacent_sortByKey _

private theorem settled_distinct :
    (junction.collapse (junction.settled parts)).Everywhere Distinct ↔
      (∀ part ∈ parts, part.Everywhere Distinct) ∧
        Gathered costKey (junction.arguments parts) := by
  rw [collapse_distinct, settled_nodup shaped, and_comm]
  simp only [mem_settled shaped]
  exact and_congr_left fun gathered => arguments_distinct shaped gathered

private theorem settled_of_gathered (gathered : Gathered costKey (junction.arguments parts)) :
    junction.settled parts = (sortByKey costKey (junction.arguments parts)).dedup := by
  have distinct := (settled_nodup shaped).mpr gathered
  rw [settled, ← arguments_eq_operands shaped] at distinct ⊢
  exact dedupAdjacent_eq_dedup distinct

end Shaped

end Junction

/-- How a normalised tree compares with what is said of the tree. -/
structure Described (node : PredicateNode) (reference : Reference) : Prop where
  value : ∀ truth, node = .ofBool truth ↔ reference.value = some truth
  form : reference.gathered = true → node = reference.form
  distinct : node.Everywhere Distinct ↔ reference.gathered = true

namespace Described

section Children

variable {junction : Junction} {children : List PredicateNode}
  (each : ∀ child ∈ children, Described child.normalize child.reference)
include each

private theorem absorbing_mem :
    junction.absorbing ∈ children.map normalize ↔
      some junction.decisive ∈ (children.map PredicateNode.reference).map Reference.value := by
  rw [List.map_map, List.mem_map, List.mem_map, Junction.absorbing_eq]
  exact exists_congr fun child => and_congr_right fun listed => (each child listed).value _

private theorem neutral_parts :
    (∀ part ∈ children.map normalize, part = junction.neutral) ↔
      ∀ part ∈ children.map PredicateNode.reference, part.value = some (!junction.decisive) := by
  rw [List.forall_mem_map, List.forall_mem_map, Junction.neutral_eq]
  exact forall₂_congr fun child listed => (each child listed).value _

private theorem all_gathered :
    (∀ part ∈ children.map normalize, part.Everywhere Distinct) ↔
      (children.map PredicateNode.reference).all Reference.gathered = true := by
  rw [List.all_eq_true, List.forall_mem_map, List.forall_mem_map]
  exact forall₂_congr fun child listed => (each child listed).distinct

private theorem map_normalize
    (gathered : (children.map PredicateNode.reference).all Reference.gathered = true) :
    children.map normalize =
      (children.map PredicateNode.reference).map Reference.form := by
  rw [List.all_eq_true, List.forall_mem_map] at gathered
  rw [List.map_map]
  exact List.map_congr_left fun child listed => (each child listed).form (gathered child listed)

theorem joined : Described (junction.normalize (children.map normalize))
    (junction.reference (children.map PredicateNode.reference)) := by
  have shaped : ∀ part ∈ children.map normalize,
      part.Everywhere PredicateNode.Shaped :=
    List.forall_mem_map.mpr fun child _ => child.normalize_shaped
  rw [Junction.normalize_eq shaped]
  unfold Junction.reference
  simp only [absorbing_mem each]
  split
  · refine ⟨?_, fun _ => rfl, iff_of_true ?_ rfl⟩
    · intro truth
      rw [Junction.absorbing_eq, Junction.ofBool_inj, Option.some_inj]
    · exact everywhere_of_childless junction.absorbing_children junction.absorbing_distinct
  · rename_i undecided
    have unabsorbed := (absorbing_mem each).not.mpr undecided
    constructor
    · intro truth
      rw [Junction.collapse_eq_ofBool shaped unabsorbed, neutral_parts each]
      split
      · rename_i neutral
        rw [and_iff_left neutral, Option.some_inj, eq_comm]
      · rename_i proper
        exact iff_of_false (fun both => proper both.2) nofun
    · intro gathered
      obtain ⟨members, arguments⟩ := Bool.and_eq_true_iff.mp gathered
      have same := map_normalize each members
      dsimp only
      rw [← same] at arguments ⊢
      rw [Junction.settled_of_gathered shaped (of_decide_eq_true arguments)]
    · rw [Junction.settled_distinct shaped, all_gathered each, Bool.and_eq_true, decide_eq_true_iff]
      exact and_congr_right fun members => by rw [map_normalize each members]

end Children

private theorem not_distinct (child : PredicateNode) :
    (PredicateNode.not child).Everywhere Distinct ↔
      child.Everywhere Distinct := by
  rw [everywhere_iff]
  simp [PredicateNode.children, Distinct]

private theorem normalizeNot_distinct (node : PredicateNode) :
    (normalizeNot node).Everywhere Distinct ↔
      node.Everywhere Distinct := by
  cases node with
  | constTrue | constFalse =>
    exact iff_of_true (everywhere_of_childless rfl trivial) (everywhere_of_childless rfl trivial)
  | not inner => exact (not_distinct inner).symm
  | _ => exact not_distinct _

private theorem normalizeNot_eq_ofBool {node : PredicateNode} (shaped : node.Shaped)
    (truth : Bool) : normalizeNot node = .ofBool truth ↔ node = .ofBool (!truth) := by
  cases node with
  | not inner =>
    refine iff_of_false ?_ (by cases truth <;> exact nofun)
    intro same
    have proper := shaped.1
    rw [show inner = _ from same] at proper
    cases truth <;> cases proper
  | _ => cases truth <;> simp [normalizeNot, PredicateNode.ofBool]

private theorem negate {node : PredicateNode} {reference : Reference}
    (described : Described node reference) (shaped : node.Shaped) :
    Described (normalizeNot node) reference.negate := by
  refine ⟨?_, fun gathered => congrArg normalizeNot (described.form gathered),
    (normalizeNot_distinct node).trans described.distinct⟩
  intro truth
  rw [normalizeNot_eq_ofBool shaped, described.value, Reference.negate]
  cases reference.value with
  | none => exact iff_of_false nofun nofun
  | some value => cases value <;> cases truth <;> simp

end Described

theorem PredicateNode.normalize_described (tree : PredicateNode) :
    Described tree.normalize tree.reference := by
  induction tree with
  | constTrue | constFalse =>
    refine ⟨?_, fun _ => rfl, iff_of_true (everywhere_of_childless rfl trivial) rfl⟩
    intro truth
    cases truth <;> simp [normalize, reference, ofBool]
  | method | header =>
    refine ⟨?_, fun _ => rfl, iff_of_true (everywhere_of_childless rfl trivial) rfl⟩
    intro truth
    cases truth <;> exact iff_of_false nofun nofun
  | and children ih =>
    rw [normalize_and, reference, referenceAll_eq_map]
    exact .joined ih
  | or children ih =>
    rw [normalize_or, reference, referenceAll_eq_map]
    exact .joined ih
  | not child ih => exact ih.negate (everywhere_iff.mp child.normalize_shaped).1

/-- Every node of a normalised tree has the normal shape. Its siblings are pairwise
distinct exactly when equal arguments stood together in the tree. -/
theorem normalized_tree_normal (tree : PredicateNode) :
    tree.normalize.Everywhere PredicateNode.Shaped ∧
      (tree.normalize.Everywhere PredicateNode.Distinct ↔ tree.repeatsGathered = true) :=
  ⟨tree.normalize_shaped, tree.normalize_described.distinct⟩

def interleavedRepeat : PredicateNode :=
  .and
    [.header (.present (literal "a")), .header (.present (literal "b")),
      .header (.present (literal "a"))]

theorem interleaved_repeat_kept :
    ¬interleavedRepeat.normalize.Everywhere PredicateNode.Distinct := by
  have unchanged : interleavedRepeat.normalize = interleavedRepeat := by decide
  intro distinct
  have siblings := distinct _ (.here _)
  rw [unchanged] at siblings
  revert siblings
  change ¬List.Nodup _
  decide

end Pavis.Routing

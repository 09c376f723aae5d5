/-
What normalisation leaves of a predicate tree.

Every node of a normalised tree has the normal shape, and a tree of that shape
is left alone.
-/

import Pavis.Routing.PredicateTree

namespace Pavis.Routing

open ByteText SortedRuns

namespace PredicateNode

def children : PredicateNode → List PredicateNode
  | .and children => children
  | .or children => children
  | .not child => [child]
  | _ => []

inductive Within : PredicateNode → PredicateNode → Prop where
  | here (root : PredicateNode) : Within root root
  | under {root child node : PredicateNode} (listed : child ∈ root.children)
      (inside : Within child node) : Within root node

def Everywhere (property : PredicateNode → Prop) (root : PredicateNode) : Prop :=
  ∀ node, root.Within node → property node

theorem everywhere_iff {property : PredicateNode → Prop} {root : PredicateNode} :
    root.Everywhere property ↔
      property root ∧ ∀ child ∈ root.children, child.Everywhere property := by
  constructor
  · intro all
    exact ⟨all root (.here root), fun child listed node inside => all node (.under listed inside)⟩
  · rintro ⟨here, below⟩ node inside
    cases inside with
    | here => exact here
    | under listed deeper => exact below _ listed node deeper

theorem everywhere_of_childless {property : PredicateNode → Prop} {root : PredicateNode}
    (childless : root.children = []) (here : property root) : root.Everywhere property := by
  rw [everywhere_iff, childless]
  exact ⟨here, fun child listed => absurd listed List.not_mem_nil⟩

def isConstant : PredicateNode → Bool
  | .constTrue => Bool.true
  | .constFalse => Bool.true
  | _ => Bool.false

def isNegation : PredicateNode → Bool
  | .not _ => Bool.true
  | _ => Bool.false

def junction? : PredicateNode → Option Junction
  | .and _ => some .and
  | .or _ => some .or
  | _ => none

end PredicateNode

open PredicateNode (Everywhere everywhere_iff everywhere_of_childless costKey)

/-- The shape of the children of one connective. -/
structure Joined (junction : Junction) (children : List PredicateNode) : Prop where
  several : 2 ≤ children.length
  unnested : ∀ child ∈ children, child.junction? ≠ some junction
  proper : ∀ child ∈ children, child.isConstant = false
  sorted : children.Pairwise (fun left right => left.costKey ≤ right.costKey)
  adjacent : children.IsChain (· ≠ ·)

def PredicateNode.Shaped : PredicateNode → Prop
  | .and children => Joined .and children
  | .or children => Joined .or children
  | .not child => child.isConstant = false ∧ child.isNegation = false
  | _ => True

/-- No two children of one connective are equal. -/
def PredicateNode.Distinct : PredicateNode → Prop
  | .and children => children.Nodup
  | .or children => children.Nodup
  | _ => True

namespace Junction

@[simp] theorem build_children (junction : Junction) (nodes : List PredicateNode) :
    (junction.build nodes).children = nodes := by
  cases junction <;> rfl

@[simp] theorem build_shaped (junction : Junction) (nodes : List PredicateNode) :
    (junction.build nodes).Shaped ↔ Joined junction nodes := by
  cases junction <;> rfl

@[simp] theorem build_distinct (junction : Junction) (nodes : List PredicateNode) :
    (junction.build nodes).Distinct ↔ nodes.Nodup := by
  cases junction <;> rfl

theorem splice_cases (junction : Junction) (node : PredicateNode) :
    (∃ inner, node = junction.build inner ∧ junction.splice node = inner) ∨
      (node.junction? ≠ some junction ∧ junction.splice node = [node]) := by
  cases junction with
  | and =>
    cases node with
    | and inner => exact Or.inl ⟨inner, rfl, rfl⟩
    | _ => exact Or.inr ⟨by simp [PredicateNode.junction?], rfl⟩
  | or =>
    cases node with
    | or inner => exact Or.inl ⟨inner, rfl, rfl⟩
    | _ => exact Or.inr ⟨by simp [PredicateNode.junction?], rfl⟩

variable {node : PredicateNode}

private theorem constant_cases (junction : Junction) (constant : node.isConstant = true) :
    node = junction.absorbing ∨ node = junction.neutral := by
  cases node with
  | constTrue | constFalse => cases junction <;> simp [absorbing, neutral]
  | _ => cases constant

@[simp] theorem absorbing_children (junction : Junction) : junction.absorbing.children = [] := by
  cases junction <;> rfl

@[simp] theorem neutral_children (junction : Junction) : junction.neutral.children = [] := by
  cases junction <;> rfl

private theorem absorbing_shaped (junction : Junction) : junction.absorbing.Shaped := by
  cases junction <;> trivial

private theorem neutral_shaped (junction : Junction) : junction.neutral.Shaped := by
  cases junction <;> trivial

theorem absorbing_distinct (junction : Junction) : junction.absorbing.Distinct := by
  cases junction <;> trivial

theorem neutral_distinct (junction : Junction) : junction.neutral.Distinct := by
  cases junction <;> trivial

/-- What a part adds to the arguments of a connective. -/
def contribution (junction : Junction) (part : PredicateNode) : List PredicateNode :=
  if part = junction.neutral then []
  else if part.junction? = some junction then part.children
  else [part]

/-- The arguments of a connective, where its parts have the normal shape. -/
def arguments (junction : Junction) (parts : List PredicateNode) : List PredicateNode :=
  parts.flatMap junction.contribution

variable {junction : Junction} {parts nodes : List PredicateNode}

theorem contribution_build (inner : List PredicateNode) :
    junction.contribution (junction.build inner) = inner := by
  cases junction <;> simp [contribution, build, neutral, PredicateNode.junction?,
    PredicateNode.children]

theorem contribution_other (other : node.junction? ≠ some junction) :
    junction.contribution node = [node].filter (fun node => node ≠ junction.neutral) := by
  unfold contribution
  by_cases neutral : node = junction.neutral <;> simp [neutral, other]

theorem filter_of_joined (joined : Joined junction nodes) :
    nodes.filter (fun node => node ≠ junction.neutral) = nodes := by
  rw [List.filter_eq_self]
  intro node listed
  apply decide_eq_true
  intro neutral
  have proper := joined.proper node listed
  rw [neutral] at proper
  cases junction <;> cases proper

theorem contribution_eq_nil (shaped : node.Shaped) :
    junction.contribution node = [] ↔ node = junction.neutral := by
  rcases junction.splice_cases node with ⟨inner, rfl, _⟩ | ⟨other, _⟩
  · have several := ((build_shaped junction inner).mp shaped).several
    rw [contribution_build]
    refine iff_of_false ?_ (by cases junction <;> exact nofun)
    rintro rfl
    cases several
  · rw [contribution_other other]
    by_cases neutral : node = junction.neutral <;> simp [neutral]

section

variable (shaped : ∀ part ∈ parts, part.Everywhere PredicateNode.Shaped)

include shaped

theorem arguments_eq_operands : junction.arguments parts = junction.operands parts := by
  unfold arguments operands flatten
  rw [List.filter_flatMap]
  apply List.flatMap_congr
  intro part listed
  rcases junction.splice_cases part with ⟨inner, rfl, spliced⟩ | ⟨other, alone⟩
  · have joined := (build_shaped junction inner).mp (everywhere_iff.mp (shaped _ listed)).1
    rw [contribution_build, spliced, filter_of_joined joined]
  · rw [alone, contribution_other other]

theorem of_mem_arguments (unabsorbed : junction.absorbing ∉ parts)
    (listed : node ∈ junction.arguments parts) :
    node.junction? ≠ some junction ∧ node.isConstant = false ∧
      node.Everywhere PredicateNode.Shaped := by
  obtain ⟨part, partListed, contributed⟩ := List.mem_flatMap.mp listed
  have partShaped := shaped part partListed
  rcases junction.splice_cases part with ⟨inner, rfl, _⟩ | ⟨other, _⟩
  · rw [contribution_build] at contributed
    rw [everywhere_iff, build_shaped, build_children] at partShaped
    exact ⟨partShaped.1.unnested node contributed, partShaped.1.proper node contributed,
      partShaped.2 node contributed⟩
  · rw [contribution_other other, List.mem_filter, List.mem_singleton] at contributed
    obtain ⟨rfl, kept⟩ := contributed
    refine ⟨other, ?_, partShaped⟩
    cases constant : node.isConstant with
    | false => rfl
    | true =>
      rcases junction.constant_cases constant with absorbing | neutral
      · exact absurd (absorbing ▸ partListed) unabsorbed
      · exact absurd neutral (of_decide_eq_true kept)

private theorem absorbing_mem_flatten :
    junction.absorbing ∈ junction.flatten parts ↔ junction.absorbing ∈ parts := by
  constructor
  · intro inside
    obtain ⟨part, listed, spliced⟩ := List.mem_flatMap.mp inside
    rcases junction.splice_cases part with ⟨inner, rfl, fromInner⟩ | ⟨_, alone⟩
    · have joined := (build_shaped junction inner).mp (everywhere_iff.mp (shaped _ listed)).1
      have proper := joined.proper _ (fromInner ▸ spliced)
      cases junction <;> cases proper
    · rw [alone, List.mem_singleton] at spliced
      exact spliced ▸ listed
  · intro listed
    refine List.mem_flatMap.mpr ⟨junction.absorbing, listed, ?_⟩
    cases junction <;> exact List.mem_singleton_self _

end

/-- The children that sorting and removing repeats leave. -/
def settled (junction : Junction) (normalized : List PredicateNode) : List PredicateNode :=
  dedupAdjacent (sortByKey costKey (junction.operands normalized))

section

variable (shaped : ∀ part ∈ parts, part.Everywhere PredicateNode.Shaped)

include shaped

theorem normalize_eq :
    junction.normalize parts =
      if junction.absorbing ∈ parts then junction.absorbing
      else junction.collapse (junction.settled parts) := by
  simp only [normalize, settled, absorbing_mem_flatten shaped]

theorem mem_settled : node ∈ junction.settled parts ↔ node ∈ junction.arguments parts := by
  rw [settled, mem_dedupAdjacent, mem_sortByKey, arguments_eq_operands shaped]

private theorem normalize_shaped : (junction.normalize parts).Everywhere PredicateNode.Shaped := by
  rw [normalize_eq shaped]
  split
  · exact everywhere_of_childless junction.absorbing_children junction.absorbing_shaped
  · rename_i unabsorbed
    have below : ∀ node ∈ junction.settled parts, _ := fun node listed =>
      of_mem_arguments shaped unabsorbed ((mem_settled shaped).mp listed)
    have sorted : (junction.settled parts).Pairwise _ :=
      (sortByKey_sorted costKey _).sublist (dedupAdjacent_sublist _)
    have adjacent : (junction.settled parts).IsChain _ := dedupAdjacent_isChain _
    generalize junction.settled parts = left at below sorted adjacent ⊢
    match left with
    | [] => exact everywhere_of_childless junction.neutral_children junction.neutral_shaped
    | [only] => exact (below only List.mem_cons_self).2.2
    | first :: second :: rest =>
      rw [collapse, everywhere_iff, build_shaped, build_children]
      exact ⟨⟨Nat.le_add_left 2 rest.length, fun node listed => (below node listed).1,
        fun node listed => (below node listed).2.1, sorted, adjacent⟩,
        fun node listed => (below node listed).2.2⟩

end

private theorem splice_of_unnested (unnested : node.junction? ≠ some junction) :
    junction.splice node = [node] := by
  rcases junction.splice_cases node with ⟨inner, built, _⟩ | ⟨_, alone⟩
  · rw [built] at unnested
    cases junction <;> exact absurd rfl unnested
  · exact alone

theorem flatten_of_unnested (unnested : ∀ node ∈ nodes, node.junction? ≠ some junction) :
    junction.flatten nodes = nodes := by
  unfold flatten
  induction nodes with
  | nil => rfl
  | cons head rest ih =>
    rw [List.flatMap_cons, splice_of_unnested (unnested head List.mem_cons_self),
      ih (fun node listed => unnested node (List.mem_cons_of_mem _ listed))]
    rfl

section

variable (joined : Joined junction nodes)

include joined

private theorem operands_of_joined : junction.operands nodes = nodes := by
  rw [operands, flatten_of_unnested joined.unnested, filter_of_joined joined]

private theorem settled_of_joined : junction.settled nodes = nodes := by
  rw [settled, operands_of_joined joined, sortByKey_of_sorted joined.sorted,
    dedupAdjacent_of_isChain joined.adjacent]

theorem unabsorbed_of_joined : junction.absorbing ∉ junction.flatten nodes := by
  rw [flatten_of_unnested joined.unnested]
  intro listed
  have proper := joined.proper _ listed
  cases junction <;> cases proper

private theorem normalize_of_joined : junction.normalize nodes = junction.build nodes := by
  rw [normalize, if_neg (unabsorbed_of_joined joined)]
  change junction.collapse (junction.settled nodes) = _
  rw [settled_of_joined joined]
  match nodes, joined.several with
  | first :: second :: rest, _ => rfl

end

end Junction

variable {node : PredicateNode}

theorem PredicateNode.normalizeNot_shaped (shaped : node.Everywhere Shaped) :
    (normalizeNot node).Everywhere Shaped := by
  cases node with
  | constTrue | constFalse => exact everywhere_of_childless rfl trivial
  | not inner => exact (everywhere_iff.mp shaped).2 inner List.mem_cons_self
  | _ =>
    rw [everywhere_iff]
    exact ⟨⟨rfl, rfl⟩, fun child listed => (List.mem_singleton.mp listed) ▸ shaped⟩

theorem PredicateNode.normalizeNot_of_shaped (proper : node.isConstant = false)
    (positive : node.isNegation = false) : normalizeNot node = .not node := by
  cases node with
  | constTrue | constFalse => cases proper
  | not => cases positive
  | _ => rfl

theorem PredicateNode.normalize_shaped (tree : PredicateNode) :
    tree.normalize.Everywhere Shaped := by
  induction tree with
  | constTrue | constFalse | method | header => exact everywhere_of_childless rfl trivial
  | and children ih =>
    rw [normalize_and]
    exact Junction.normalize_shaped (List.forall_mem_map.mpr ih)
  | or children ih =>
    rw [normalize_or]
    exact Junction.normalize_shaped (List.forall_mem_map.mpr ih)
  | not child ih => exact normalizeNot_shaped ih

private theorem map_normalize_of_shaped {nodes : List PredicateNode}
    (fixed : ∀ node ∈ nodes, node.Everywhere PredicateNode.Shaped → node.normalize = node)
    (shaped : ∀ node ∈ nodes, node.Everywhere PredicateNode.Shaped) :
    nodes.map PredicateNode.normalize = nodes :=
  (List.map_congr_left (fun node listed => fixed node listed (shaped node listed))).trans
    (List.map_id nodes)

theorem PredicateNode.normalize_of_shaped {tree : PredicateNode}
    (shaped : tree.Everywhere Shaped) : tree.normalize = tree := by
  induction tree with
  | constTrue | constFalse | method | header => rfl
  | and children ih =>
    obtain ⟨joined, below⟩ := everywhere_iff.mp shaped
    rw [normalize_and, map_normalize_of_shaped ih below]
    exact Junction.normalize_of_joined joined
  | or children ih =>
    obtain ⟨joined, below⟩ := everywhere_iff.mp shaped
    rw [normalize_or, map_normalize_of_shaped ih below]
    exact Junction.normalize_of_joined joined
  | not child ih =>
    obtain ⟨⟨proper, positive⟩, below⟩ := everywhere_iff.mp shaped
    rw [normalize_not, ih (below child List.mem_cons_self)]
    exact normalizeNot_of_shaped proper positive

/-- Normalising twice is normalising once. -/
theorem normalize_idempotent (tree : PredicateNode) : tree.normalize.normalize = tree.normalize :=
  PredicateNode.normalize_of_shaped tree.normalize_shaped

end Pavis.Routing

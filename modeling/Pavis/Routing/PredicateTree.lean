/-
The predicate tree of advanced route matching and its normalisation.

`normalize` rewrites a tree bottom up; the two connectives run the same steps with
the constants exchanged. Costs are added in sixteen bits, as the optimised build
adds them.
-/

import Pavis.Library.SortedRuns
import Pavis.Routing.Predicates

namespace Pavis.Routing

open ByteText SortedRuns

inductive MethodMatcher where
  | exact (method : HttpMethod)
  | anyOf (methods : List HttpMethod)
  deriving DecidableEq

inductive HeaderMatcher where
  | exact (name value : Text)
  | prefixed (name expected : Text)
  | regex (name pattern : Text)
  | present (name : Text)
  deriving DecidableEq

inductive PredicateNode where
  | constTrue
  | constFalse
  | method (matcher : MethodMatcher)
  | header (matcher : HeaderMatcher)
  | and (children : List PredicateNode)
  | or (children : List PredicateNode)
  | not (child : PredicateNode)

namespace PredicateNode

/-- Induction with the hypothesis for every member of a child list. -/
@[induction_eliminator, elab_as_elim]
theorem memberwise {motive : PredicateNode → Prop} (constTrue : motive .constTrue)
    (constFalse : motive .constFalse) (method : ∀ matcher, motive (.method matcher))
    (header : ∀ matcher, motive (.header matcher))
    (and : ∀ children, (∀ child ∈ children, motive child) → motive (.and children))
    (or : ∀ children, (∀ child ∈ children, motive child) → motive (.or children))
    (not : ∀ child, motive child → motive (.not child)) (node : PredicateNode) : motive node := by
  refine @PredicateNode.rec motive (fun children => ∀ child ∈ children, motive child)
    constTrue constFalse method header and or not ?_ ?_ node
  · intro child listed
    cases listed
  · intro head rest headHolds restHolds child listed
    rcases List.mem_cons.mp listed with same | later
    · rw [same]
      exact headHolds
    · exact restHolds child later

end PredicateNode

mutual

def PredicateNode.same : PredicateNode → PredicateNode → Bool
  | .constTrue, .constTrue => Bool.true
  | .constFalse, .constFalse => Bool.true
  | .method left, .method right => left == right
  | .header left, .header right => left == right
  | .and left, .and right => sameAll left right
  | .or left, .or right => sameAll left right
  | .not left, .not right => same left right
  | _, _ => Bool.false

def PredicateNode.sameAll : List PredicateNode → List PredicateNode → Bool
  | [], [] => Bool.true
  | left :: lefts, right :: rights =>
    same left right && sameAll lefts rights
  | _, _ => Bool.false

end

private theorem sameAll_iff {left : List PredicateNode} (right : List PredicateNode)
    (members : ∀ node ∈ left, ∀ other, node.same other = true ↔ node = other) :
    PredicateNode.sameAll left right = true ↔ left = right := by
  induction left generalizing right with
  | nil => cases right <;> simp [PredicateNode.sameAll]
  | cons head rest ih =>
    cases right with
    | nil => simp [PredicateNode.sameAll]
    | cons other others =>
      have restSame := ih others
        (fun node listed => members node (List.mem_cons_of_mem _ listed))
      have headSame := members head List.mem_cons_self other
      simp only [PredicateNode.sameAll, Bool.and_eq_true, headSame, restSame, List.cons.injEq]

theorem PredicateNode.same_iff (node other : PredicateNode) :
    node.same other = true ↔ node = other := by
  induction node generalizing other with
  | constTrue | constFalse | method | header => cases other <;> simp [same]
  | and children ih | or children ih => cases other <;> simp [same, sameAll_iff _ ih]
  | not child ih => cases other <;> simp [same, ih]

instance PredicateNode.decidableEq : DecidableEq PredicateNode := fun node other =>
  decidable_of_iff (node.same other = true) (node.same_iff other)

structure MatcherCost where
  value : UInt8
  deriving DecidableEq

def MethodMatcher.cost (_ : MethodMatcher) : MatcherCost := ⟨1⟩

def HeaderMatcher.cost : HeaderMatcher → MatcherCost
  | .exact _ _ => ⟨1⟩
  | .present _ => ⟨1⟩
  | .prefixed _ _ => ⟨2⟩
  | .regex _ _ => ⟨10⟩

def MatcherCost.capped (sum : UInt16) : MatcherCost := ⟨UInt8.ofNat (min sum.toNat 255)⟩

mutual

def PredicateNode.cost : PredicateNode → MatcherCost
  | .constTrue => ⟨0⟩
  | .constFalse => ⟨0⟩
  | .method matcher => matcher.cost
  | .header matcher => matcher.cost
  | .and children => MatcherCost.capped (sumCosts 0 children)
  | .or children => MatcherCost.capped (sumCosts 0 children)
  | .not child => child.cost

/-- The running sum starts at `sum` and wraps at sixteen bits. -/
def PredicateNode.sumCosts (sum : UInt16) : List PredicateNode → UInt16
  | [] => sum
  | child :: rest => sumCosts (sum + child.cost.value.toUInt16) rest

end

def PredicateNode.costKey (node : PredicateNode) : Nat := node.cost.value.toNat

inductive Junction where
  | and
  | or
  deriving DecidableEq

namespace Junction

def build : Junction → List PredicateNode → PredicateNode
  | .and => .and
  | .or => .or

def absorbing : Junction → PredicateNode
  | .and => .constFalse
  | .or => .constTrue

def neutral : Junction → PredicateNode
  | .and => .constTrue
  | .or => .constFalse

/-- A child of the same kind is replaced by its own children. -/
def splice : Junction → PredicateNode → List PredicateNode
  | .and, .and inner => inner
  | .or, .or inner => inner
  | _, other => [other]

def flatten (junction : Junction) (normalized : List PredicateNode) : List PredicateNode :=
  normalized.flatMap junction.splice

/-- What is left to sort once the neutral constants are gone. -/
def operands (junction : Junction) (normalized : List PredicateNode) : List PredicateNode :=
  (junction.flatten normalized).filter (fun node => node ≠ junction.neutral)

/-- Nothing left is the neutral constant, and one child stands for itself. -/
def collapse (junction : Junction) : List PredicateNode → PredicateNode
  | [] => junction.neutral
  | [only] => only
  | first :: second :: rest => junction.build (first :: second :: rest)

/-- The steps after the children have been normalised. -/
def normalize (junction : Junction) (normalized : List PredicateNode) : PredicateNode :=
  if junction.absorbing ∈ junction.flatten normalized then junction.absorbing
  else
    junction.collapse
      (dedupAdjacent (sortByKey PredicateNode.costKey (junction.operands normalized)))

end Junction

namespace PredicateNode

def normalizeAnd (normalized : List PredicateNode) : PredicateNode :=
  Junction.normalize .and normalized

def normalizeOr (normalized : List PredicateNode) : PredicateNode :=
  Junction.normalize .or normalized

/-- Constants change places and a double negation goes. -/
def normalizeNot : PredicateNode → PredicateNode
  | .constTrue => .constFalse
  | .constFalse => .constTrue
  | .not inner => inner
  | other => .not other

end PredicateNode

mutual

def PredicateNode.normalize : PredicateNode → PredicateNode
  | .and children => normalizeAnd (normalizeAll children)
  | .or children => normalizeOr (normalizeAll children)
  | .not child => normalizeNot (normalize child)
  | other => other

def PredicateNode.normalizeAll : List PredicateNode → List PredicateNode
  | [] => []
  | child :: rest => normalize child :: normalizeAll rest

end

theorem PredicateNode.normalizeAll_eq_map (children : List PredicateNode) :
    normalizeAll children = children.map normalize := by
  induction children with
  | nil => rfl
  | cons head rest ih =>
    change head.normalize :: normalizeAll rest = _
    rw [ih, List.map_cons]

@[simp] theorem PredicateNode.normalize_and (children : List PredicateNode) :
    (and children).normalize =
      Junction.normalize .and (children.map normalize) := by
  rw [← normalizeAll_eq_map]
  rfl

@[simp] theorem PredicateNode.normalize_or (children : List PredicateNode) :
    (or children).normalize =
      Junction.normalize .or (children.map normalize) := by
  rw [← normalizeAll_eq_map]
  rfl

@[simp] theorem PredicateNode.normalize_not (child : PredicateNode) :
    (not child).normalize = normalizeNot child.normalize := rfl

/-! ### Meaning -/

/-- The outcome of every leaf predicate for one request. -/
structure Assignment where
  method : MethodMatcher → Bool
  header : HeaderMatcher → Bool

mutual

def PredicateNode.holds (assignment : Assignment) : PredicateNode → Bool
  | .constTrue => Bool.true
  | .constFalse => Bool.false
  | .method matcher => assignment.method matcher
  | .header matcher => assignment.header matcher
  | .and children => allHold assignment children
  | .or children => anyHolds assignment children
  | .not child => !holds assignment child

def PredicateNode.allHold (assignment : Assignment) : List PredicateNode → Bool
  | [] => Bool.true
  | child :: rest =>
    holds assignment child && allHold assignment rest

def PredicateNode.anyHolds (assignment : Assignment) : List PredicateNode → Bool
  | [] => Bool.false
  | child :: rest =>
    holds assignment child || anyHolds assignment rest

end

def Junction.holds (junction : Junction) (assignment : Assignment) (nodes : List PredicateNode) :
    Bool :=
  (junction.build nodes).holds assignment

section Meaning

variable (assignment : Assignment)

private theorem and_holds_iff (nodes : List PredicateNode) :
    Junction.holds .and assignment nodes = true ↔
      ∀ node ∈ nodes, node.holds assignment = true := by
  change PredicateNode.allHold assignment nodes = true ↔ _
  induction nodes with
  | nil => simp [PredicateNode.allHold]
  | cons head rest ih => simp [PredicateNode.allHold, ih]

private theorem or_holds_iff (nodes : List PredicateNode) :
    Junction.holds .or assignment nodes = true ↔
      ∃ node ∈ nodes, node.holds assignment = true := by
  change PredicateNode.anyHolds assignment nodes = true ↔ _
  induction nodes with
  | nil => simp [PredicateNode.anyHolds]
  | cons head rest ih => simp [PredicateNode.anyHolds, ih]

variable (junction : Junction)

private theorem holds_congr {left right : List PredicateNode}
    (fromLeft : ∀ node ∈ left, node ∈ right ∨ node = junction.neutral)
    (fromRight : ∀ node ∈ right, node ∈ left) :
    junction.holds assignment left = junction.holds assignment right := by
  rw [Bool.eq_iff_iff]
  cases junction with
  | and =>
    rw [and_holds_iff, and_holds_iff]
    constructor
    · intro all node listed
      exact all node (fromRight node listed)
    · intro all node listed
      rcases fromLeft node listed with kept | constant
      · exact all node kept
      · rw [constant]
        rfl
  | or =>
    rw [or_holds_iff, or_holds_iff]
    constructor
    · rintro ⟨node, listed, met⟩
      rcases fromLeft node listed with kept | constant
      · exact ⟨node, kept, met⟩
      · rw [constant] at met
        cases met
    · rintro ⟨node, listed, met⟩
      exact ⟨node, fromRight node listed, met⟩

private theorem single_holds (node : PredicateNode) :
    junction.holds assignment [node] = node.holds assignment := by
  cases junction with
  | and => exact Bool.and_true _
  | or => exact Bool.or_false _

private theorem splice_holds (node : PredicateNode) :
    junction.holds assignment (junction.splice node) = node.holds assignment := by
  cases junction with
  | and =>
    cases node with
    | and => rfl
    | _ => exact single_holds assignment .and _
  | or =>
    cases node with
    | or => rfl
    | _ => exact single_holds assignment .or _

private theorem flatten_holds (normalized : List PredicateNode) :
    junction.holds assignment (junction.flatten normalized) =
      junction.holds assignment normalized := by
  rw [Bool.eq_iff_iff]
  cases junction with
  | and =>
    rw [and_holds_iff, and_holds_iff, Junction.flatten, List.forall_mem_flatMap]
    apply forall₂_congr
    intro node _
    rw [← and_holds_iff, splice_holds]
  | or =>
    rw [or_holds_iff, or_holds_iff]
    constructor
    · rintro ⟨node, listed, met⟩
      obtain ⟨parent, parentListed, spliced⟩ := List.mem_flatMap.mp listed
      refine ⟨parent, parentListed, ?_⟩
      rw [← splice_holds assignment .or, or_holds_iff]
      exact ⟨node, spliced, met⟩
    · rintro ⟨parent, parentListed, met⟩
      rw [← splice_holds assignment .or, or_holds_iff] at met
      obtain ⟨node, spliced, met⟩ := met
      exact ⟨node, List.mem_flatMap.mpr ⟨parent, parentListed, spliced⟩, met⟩

private theorem absorbed_holds {nodes : List PredicateNode} (absorbs : junction.absorbing ∈ nodes) :
    junction.holds assignment nodes = junction.absorbing.holds assignment := by
  cases junction with
  | and =>
    change _ = Bool.false
    rw [Bool.eq_false_iff, Ne, and_holds_iff]
    intro all
    cases all _ absorbs
  | or =>
    change _ = Bool.true
    rw [or_holds_iff]
    exact ⟨_, absorbs, rfl⟩

private theorem collapse_holds (nodes : List PredicateNode) :
    (junction.collapse nodes).holds assignment = junction.holds assignment nodes := by
  match nodes with
  | [] => cases junction <;> rfl
  | [only] => exact (single_holds assignment junction only).symm
  | first :: second :: rest => rfl

theorem Junction.normalize_holds (normalized : List PredicateNode) :
    (junction.normalize normalized).holds assignment =
      junction.holds assignment normalized := by
  unfold normalize
  split
  · rename_i absorbs
    rw [← flatten_holds, absorbed_holds assignment junction absorbs]
  · rw [collapse_holds, ← flatten_holds assignment junction normalized]
    symm
    apply holds_congr
    · intro node listed
      by_cases neutral : node = junction.neutral
      · exact Or.inr neutral
      · refine Or.inl (mem_dedupAdjacent.mpr (mem_sortByKey.mpr ?_))
        exact List.mem_filter.mpr ⟨listed, decide_eq_true neutral⟩
    · intro node listed
      exact List.mem_of_mem_filter (mem_sortByKey.mp (mem_dedupAdjacent.mp listed))

theorem PredicateNode.normalizeNot_holds (node : PredicateNode) :
    (normalizeNot node).holds assignment = !node.holds assignment := by
  cases node with
  | not => exact (Bool.not_not _).symm
  | _ => rfl

private theorem map_normalize_holds {children : List PredicateNode}
    (same : ∀ child ∈ children, child.normalize.holds assignment = child.holds assignment) :
    junction.holds assignment (children.map PredicateNode.normalize) =
      junction.holds assignment children := by
  rw [Bool.eq_iff_iff]
  cases junction with
  | and =>
    rw [and_holds_iff, and_holds_iff, List.forall_mem_map]
    exact forall₂_congr (fun child listed => by rw [same child listed])
  | or =>
    rw [or_holds_iff, or_holds_iff]
    simp only [List.mem_map, exists_exists_and_eq_and]
    exact exists_congr (fun child => and_congr_right (fun listed => by rw [same child listed]))

end Meaning

/-- Normalisation keeps the meaning of every tree for every request. -/
theorem normalize_preserves_meaning (assignment : Assignment) (tree : PredicateNode) :
    tree.normalize.holds assignment = tree.holds assignment := by
  induction tree with
  | constTrue | constFalse | method | header => rfl
  | and children ih =>
    rw [PredicateNode.normalize_and, Junction.normalize_holds]
    exact map_normalize_holds assignment .and ih
  | or children ih =>
    rw [PredicateNode.normalize_or, Junction.normalize_holds]
    exact map_normalize_holds assignment .or ih
  | not child ih =>
    rw [PredicateNode.normalize_not, PredicateNode.normalizeNot_holds, ih]
    rfl

end Pavis.Routing

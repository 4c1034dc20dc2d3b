import Mathlib.Data.Multiset.Bind
import DuckTypes.Proofs.Source.Nodes

namespace DuckTypes.Source

namespace Node

theorem induction {P : Node → Prop} (h : ∀ n, (∀ m ∈ n.children, P m) → P n) (n : Node) : P n :=
  h n fun m hm =>
    have := n.sizeOf_child m hm
    induction h m
termination_by sizeOf n

theorem visits_eq (depth : Nat) (n : Node) :
    n.visits depth = ⟨depth, n⟩ :: n.children.flatMap (·.visits (depth + 1)) := by
  rw [visits]
  simp

theorem nodesAmong_eq_bind (ns : List Node) : nodesAmong ns = (ns : Multiset Node).bind nodes := by
  simp [nodesAmong, Multiset.bind, Multiset.join]

theorem coe_visits (n : Node) :
    ∀ depth, ((n.visits depth).map Visit.node : Multiset Node) = n.nodes := by
  induction n using induction with
  | h n ih =>
    intro depth
    rw [visits_eq, nodes_eq, List.map_cons, List.map_flatMap, ← Multiset.cons_coe,
      ← Multiset.coe_bind]
    congr 1
    calc (n.children : Multiset Node).bind
          (fun m => ((m.visits (depth + 1)).map Visit.node : Multiset Node))
        = (n.children : Multiset Node).bind nodes :=
          Multiset.bind_congr fun m hm => ih m hm (depth + 1)
      _ = nodesAmong n.children := (nodesAmong_eq_bind n.children).symm

theorem mem_nodes_iff {n m : Node} : m ∈ n.nodes ↔ m = n ∨ ∃ k ∈ n.children, m ∈ k.nodes := by
  rw [nodes_eq, nodesAmong_eq_bind, Multiset.mem_cons, Multiset.mem_bind]
  rfl

theorem mem_nodes_of_mem_children {n m k : Node} (hm : m ∈ n.nodes) (hk : k ∈ m.children) :
    k ∈ n.nodes := by
  induction n using induction with
  | h n ih =>
    obtain rfl | ⟨c, hc, hmc⟩ := mem_nodes_iff.mp hm
    · exact mem_nodes_iff.mpr (.inr ⟨k, hk, mem_nodes_iff.mpr (.inl rfl)⟩)
    · exact mem_nodes_iff.mpr (.inr ⟨c, hc, ih c hc hmc⟩)

def stmt? : Node → Option Stmt
  | stmt s => some s
  | _ => none

def expr? : Node → Option Expr
  | expr e => some e
  | _ => none

def pattern? : Node → Option Pattern
  | pattern p => some p
  | _ => none

def name? : Node → Option Name
  | expr (.name n) => some n
  | _ => none

end Node

namespace Root

theorem coe_visits (r : Root) : (r.visits.map Visit.node : Multiset Node) = r.nodes :=
  Node.coe_visits (.root r) 0

theorem coe_filterMap_visits {α : Type} (kind : Node → Option α) (r : Root) :
    (r.visits.filterMap fun v => kind v.node : Multiset α) = r.nodes.filterMap kind := by
  rw [← r.coe_visits, Multiset.filterMap_coe, List.filterMap_map]
  rfl

theorem names_eq (r : Root) : r.names = r.visits.filterMap fun v => v.node.name? := by
  rw [names]
  congr 1
  funext ⟨depth, n⟩
  cases n with
  | expr e => cases e <;> rfl
  | _ => rfl

structure TraversedOnce (r : Root) : Prop where
  start : r.visits.head? = some ⟨0, .root r⟩
  nodes : (r.visits.map Visit.node : Multiset Node) = r.nodes
  stmts : (r.visits.filterMap (·.node.stmt?) : Multiset Stmt) = r.nodes.filterMap Node.stmt?
  exprs : (r.visits.filterMap (·.node.expr?) : Multiset Expr) = r.nodes.filterMap Node.expr?
  patterns :
    (r.visits.filterMap (·.node.pattern?) : Multiset Pattern) = r.nodes.filterMap Node.pattern?
  names : (r.names : Multiset Name) = r.nodes.filterMap Node.name?

theorem nodes_visited_once (r : Root) : r.TraversedOnce where
  start := by rw [visits, Node.visits_eq, List.head?_cons]
  nodes := r.coe_visits
  stmts := r.coe_filterMap_visits Node.stmt?
  exprs := r.coe_filterMap_visits Node.expr?
  patterns := r.coe_filterMap_visits Node.pattern?
  names := by rw [names_eq, coe_filterMap_visits]

end Root

section Examples

private def loaded (id : String) : Expr := .name ⟨id, .load, ⟨0, 0⟩⟩

private def header : Stmt :=
  .functionDef false "f"
    { positionalOnly := [], positional := [⟨"a", some (loaded "A"), some (loaded "d")⟩]
      keywordOnly := [⟨"k", none, some (loaded "e")⟩], variadic := some ⟨"args", some (loaded "V")⟩
      variadicKeyword := none }
    [.expr (loaded "body")] [loaded "deco"] (some (loaded "R")) [.typeVar "T" (some (loaded "B"))]

example : (Root.module [header]).names.map (·.id) =
    ["deco", "B", "A", "d", "e", "V", "R", "body"] := by cbv

end Examples

end DuckTypes.Source

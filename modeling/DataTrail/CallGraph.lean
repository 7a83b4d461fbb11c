import DataTrail.Program
import DataTrail.Traversal

/-! The call graph of the known program: its nodes are all methods that are registered, called,
implemented or implementors, its edges lead from callers to callees and from interface methods to
their implementors. Nodes and edges have a fixed order, so the same program gives the same graph. -/

namespace DataTrail

/-- Why one method leads to another. -/
inductive EdgeKind where
  | call
  | implementation
deriving DecidableEq, Repr

/-- The word that an exported edge carries. -/
def EdgeKind.label : EdgeKind → String
  | .call => "call"
  | .implementation => "impl"

/-- `source` leads to `target`. -/
structure Edge where
  source : MethodId
  target : MethodId
  kind : EdgeKind
deriving DecidableEq, Repr

/-- The call graph of a program. -/
structure CallGraph where
  /-- The methods, in their order. -/
  nodes : List MethodId
  /-- The calls in the order of callers and callees, then the implementations in the order of the
  interface methods and, for each of them, in the order in which its implementors were found. -/
  edges : List Edge
  /-- The nodes that are neither registered nor implemented. -/
  unresolved : List MethodId

namespace CallGraph

/-- The edges from the registered methods to their callees. -/
def callEdges (p : Program) : List Edge :=
  p.registry.toList.flatMap fun (m, r) => r.callees.toList.map fun n => ⟨m, n, .call⟩

/-- The edges from interface methods to their implementors. -/
def implementationEdges (p : Program) : List Edge :=
  p.dispatch.toList.flatMap fun (m, implementors) =>
    implementors.map fun n => ⟨m, n, .implementation⟩

/-- All methods that the program mentions. -/
def mentioned (p : Program) : MethodSet :=
  .ofList (p.registry.toList.flatMap (fun (m, r) => m :: r.callees.toList) ++
    p.dispatch.toList.flatMap (fun (m, implementors) => m :: implementors))

/-- The call graph of `p`. -/
def ofProgram (p : Program) : CallGraph where
  nodes := (mentioned p).toList
  edges := callEdges p ++ implementationEdges p
  unresolved := (mentioned p).toList.filter p.isMissing

/-- The number of edges of a kind. -/
def countEdges (g : CallGraph) (kind : EdgeKind) : Nat :=
  g.edges.countP (·.kind = kind)

/-- For each method the methods that its edges lead to. -/
def adjacency (g : CallGraph) : Std.ExtTreeMap MethodId (List MethodId) :=
  g.edges.foldl (fun t e => t.insert e.source (t.getD e.source [] ++ [e.target])) ∅

/-- For each node the methods that are reached from it along one edge or more. -/
def descendants (g : CallGraph) : Std.ExtTreeMap MethodId MethodSet :=
  let table := g.adjacency
  let next := fun m => table.getD m []
  .ofList (g.nodes.map fun m =>
    (m, (Std.ExtTreeSet.ofList (explore next (.ofList g.nodes) (next m)) : MethodSet)))

/-- The cycles of the graph: its strongly connected parts with more than one method, and the methods
that lead to themselves. Each part is listed in order, under its first method. -/
def cycles (g : CallGraph) : List (List MethodId) :=
  let below := g.descendants
  let leads := fun m n => (below.getD m ∅).contains n
  g.nodes.filterMap fun m =>
    let part := g.nodes.filter fun n => leads m n && leads n m
    if part.head? = some m then some part else none

/-- A label between quotes: quotes and backslashes are escaped, a line break becomes `\l`. -/
def escapeLabel (label : String) : String :=
  String.join (label.toList.map fun c =>
    if c = '"' || c = '\\' then String.ofList ['\\', c]
    else if c = '\n' then "\\l"
    else String.singleton c)

/-- The graph in the DOT language, with the nodes numbered from zero. -/
def toDot (g : CallGraph) : String :=
  let number := fun m => toString (g.nodes.idxOf m)
  let node := fun m => "    " ++ number m ++ " [ label = \"" ++ escapeLabel m.display ++ "\" ]\n"
  let edge := fun (e : Edge) =>
    "    " ++ number e.source ++ " -> " ++ number e.target ++
      " [ label = \"" ++ e.kind.label ++ "\" ]\n"
  "digraph \x7b\n" ++ String.join (g.nodes.map node) ++ String.join (g.edges.map edge) ++ "\x7d\n"

end CallGraph

end DataTrail

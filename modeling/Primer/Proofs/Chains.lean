import Primer.Proofs.Lowering
import Primer.Proofs.Pruning

/-!
# Links of a chain

Trees that are linked into a chain are read back as they are, be they empty leaves or chains
themselves.  Pruning treats each of them on its own.  A link carries a value, so it stays
where nothing is left of the tree that it held, and the chain goes on behind it.

Main definitions:

- `SyntaxTree.Links` says which links a chain has and what they hold.
- `SyntaxTree.heldBy` is what the links hold into which trees are linked.

Main results:

- Theorem `links_foldr`: there is one link for each tree.
- Theorem `prune_foldr_link`: pruning a chain prunes what its links hold.
- Theorem `chain_read_back`: a chain is read back, before pruning and after.
-/

namespace Primer
namespace SyntaxTree

/-! ## Links -/

/-- Down the right children of the tree stands one link for each of the given trees, which it
holds on the left, and the last link has no right child. -/
structure Links (held : List SyntaxTree) (t : SyntaxTree) : Prop where
  link : ∀ i (hi : i < held.length), ∃ rest,
    t.subtree (List.replicate i .right) = .link held[i] rest
  absent : t.subtree (List.replicate held.length .right) = .absent

/-- What the links hold into which trees are linked.  Without trees there is one link all the
same, which holds nothing. -/
def heldBy (ts : List SyntaxTree) : List SyntaxTree :=
  if ts = [] then [.absent] else ts

/-- The chain is built from its last link on, one link for each tree. -/
theorem ofStatements_eq_foldr (ts : List SyntaxTree) :
    ofStatements ts = (heldBy ts).foldr link .absent := by
  cases ts with
  | nil => rfl
  | cons t ts => rfl

/-- There is one link for each tree. -/
theorem links_foldr (held : List SyntaxTree) : (held.foldr link .absent).Links held := by
  induction held with
  | nil => exact ⟨nofun, rfl⟩
  | cons t held ih =>
      constructor
      · intro i hi
        cases i with
        | zero => exact ⟨held.foldr link .absent, rfl⟩
        | succ i =>
            rw [List.replicate_succ, subtree_cons]
            exact ih.link i (Nat.lt_of_succ_lt_succ hi)
      · rw [List.length_cons, List.replicate_succ, subtree_cons]
        exact ih.absent

/-! ## Pruning -/

/-- Pruning a chain prunes what its links hold, and takes out no link. -/
theorem prune_foldr_link (held : List SyntaxTree) :
    (held.foldr link .absent).prune =
      (held.map fun t => dropEmptyLeaf t.prune).foldr link .absent := by
  cases held with
  | nil => rfl
  | cons t held =>
      rw [List.foldr_cons, link, prune_node, dropEmptyLeaf_prune_chain]
      rfl

/-- Pruning a chain prunes what each link holds and keeps the links. -/
theorem prune_ofStatements (ts : List SyntaxTree) :
    (ofStatements ts).prune =
      ((heldBy ts).map fun t => dropEmptyLeaf t.prune).foldr link .absent := by
  rw [ofStatements_eq_foldr, prune_foldr_link]

/-- The root of a tree is not pruned. -/
theorem isAbsent_prune (t : SyntaxTree) : t.prune.isAbsent = t.isAbsent := by
  cases t with
  | absent => rfl
  | node label left right =>
      rw [prune_node]
      rfl

/-- Of trees that are there, those are dropped of which pruning leaves an empty leaf. -/
theorem filter_map_dropEmptyLeaf {ts : List SyntaxTree} (h : ∀ t ∈ ts, t.isAbsent = false) :
    (ts.map fun t => dropEmptyLeaf t.prune).filter (fun t => !t.isAbsent) =
      (ts.map prune).filter fun t => !t.isEmptyLeaf := by
  induction ts with
  | nil => rfl
  | cons t ts ih =>
      have hthere : t.prune.isAbsent = false := by
        rw [isAbsent_prune]
        exact h t List.mem_cons_self
      have hrest := ih fun u hu => h u (List.mem_cons_of_mem t hu)
      rw [List.map_cons, List.map_cons, List.filter_cons, List.filter_cons, hrest]
      by_cases hempty : t.prune.isEmptyLeaf = true
      · have hdropped : dropEmptyLeaf t.prune = .absent := if_pos hempty
        rw [hdropped, hempty]
        rfl
      · have hkept : dropEmptyLeaf t.prune = t.prune := if_neg hempty
        rw [hkept, hthere, Bool.eq_false_iff.2 hempty]

/-- Reading a pruned chain back yields what is left of the trees that were linked. -/
theorem statements_prune_ofStatements {ts : List SyntaxTree} (h : ∀ t ∈ ts, t.isAbsent = false) :
    (ofStatements ts).prune.statements = (ts.map prune).filter fun t => !t.isEmptyLeaf := by
  rw [prune_ofStatements, statements_foldr_link, ← filter_map_dropEmptyLeaf h]
  cases ts with
  | nil => rfl
  | cons t ts => rfl

/-! ## Reading back -/

/-- Linking trees into a chain and reading it back yields the trees, in order, whatever they
are.  There is one link for each of them, with the value of a link and no attribute, and the
last link has no right child; without trees there is one link that holds nothing.  Pruning
prunes each tree on its own: what is read back then are the pruned trees that are no empty
leaves, and there is a link for each of the others still. -/
theorem chain_read_back {ts : List SyntaxTree} (h : ∀ t ∈ ts, t.isAbsent = false) :
    (ofStatements ts).statements = ts ∧
      (ofStatements ts).Links (heldBy ts) ∧
      (ofStatements ts).prune.statements = (ts.map prune).filter (fun t => !t.isEmptyLeaf) ∧
      (ofStatements ts).prune.Links ((heldBy ts).map fun t => dropEmptyLeaf t.prune) := by
  refine ⟨statements_ofStatements h, ?_, statements_prune_ofStatements h, ?_⟩
  · rw [ofStatements_eq_foldr]
    exact links_foldr _
  · rw [prune_ofStatements]
    exact links_foldr _

/-- Trees of which pruning leaves nothing stand in front of a chain that is linked as one
tree, and between it and a leaf. -/
theorem chain_read_back_of_emptied :
    let blank : Label := .plain ""
    let inner := ofStatements [leaf (.plain "X"), leaf blank]
    let ts := [leaf blank, inner, node blank (leaf blank) .absent, leaf (.plain "Y")]
    (∀ t ∈ ts, t.isAbsent = false) ∧
      (ofStatements ts).statements = ts ∧
      (ofStatements ts).Links ts ∧
      (ofStatements ts).prune.statements =
        [link (leaf (.plain "X")) (link .absent .absent), leaf (.plain "Y")] ∧
      (ofStatements ts).prune.Links
        [.absent, link (leaf (.plain "X")) (link .absent .absent), .absent, leaf (.plain "Y")] := by
  intro blank inner ts
  have hts : ∀ t ∈ ts, t.isAbsent = false := by decide
  exact ⟨hts, chain_read_back hts⟩

end SyntaxTree
end Primer

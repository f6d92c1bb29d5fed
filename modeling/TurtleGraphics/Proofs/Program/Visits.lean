/-
  Visits: how often every statement of a tree is met by a run.

  The statements of a tree are numbered in textual order.  The visits of a run
  are the numbers of the statements that it reports, in the order of the
  reports.

  * `Limits.Allows` says that none of nested blocks is refused;
  * `Node.visits` is how often a statement ought to be visited: the product of
    the counts around it, if no block around it is refused;
  * `Statement.visitsAll` are the visits of a run, and
    `Statement.texts_unrollAll_relabel` says so: if every statement has a text
    of its own, these are the texts that are reported;
  * `Statement.unrollAll_visited`: the visits give the entries of the unrolling,
    and every number is among them as often as it ought to be.
-/
import Mathlib.Algebra.BigOperators.Group.Finset.Basic
import Mathlib.Algebra.Order.BigOperators.Group.Finset
import Mathlib.Data.List.Infix
import TurtleGraphics.Proofs.Program.Nodes
import TurtleGraphics.Proofs.Program.Unrolling

namespace TurtleGraphics

variable {α : Type}

/-! ## Nested blocks -/

/-- How often nested blocks with the given counts run what is in the innermost
    one. -/
def iterations (counts : List UInt32) : Nat := (counts.map UInt32.toNat).prod

@[simp] theorem iterations_concat (counts : List UInt32) (count : UInt32) :
    iterations (counts ++ [count]) = iterations counts * count.toNat := by
  simp [iterations]

/-- Nested blocks, given by their counts with the outermost one first, of which
    none is run too often. -/
def Limits.Allows (limits : Limits) (counts : List UInt32) : Prop :=
  ∀ outer ∈ counts.inits, outer ≠ [] → iterations outer ≤ limits.repeatIterations.toNat

instance (limits : Limits) (counts : List UInt32) : Decidable (limits.Allows counts) :=
  inferInstanceAs (Decidable (∀ _ ∈ _, _ → _))

namespace Limits

theorem allows_nil (limits : Limits) : limits.Allows [] := by
  intro outer houter hne
  rw [List.mem_inits, List.prefix_nil] at houter
  exact absurd houter hne

theorem Allows.of_outer {limits : Limits} {outer counts : List UInt32} (h : limits.Allows counts)
    (hp : outer <+: counts) : limits.Allows outer := fun outermost hmem hne =>
  h outermost ((List.mem_inits ..).2 (((List.mem_inits ..).1 hmem).trans hp)) hne

theorem allows_concat {limits : Limits} {counts : List UInt32} {count : UInt32} :
    limits.Allows (counts ++ [count]) ↔
      limits.Allows counts ∧ iterations (counts ++ [count]) ≤ limits.repeatIterations.toNat := by
  constructor
  · intro h
    have hself : counts ++ [count] ∈ (counts ++ [count]).inits :=
      (List.mem_inits ..).2 List.prefix_rfl
    exact ⟨h.of_outer (List.prefix_append ..), h _ hself (by simp)⟩
  · rintro ⟨h, hlast⟩ outer houter hne
    rcases List.prefix_concat_iff.1 ((List.mem_inits ..).1 houter) with rfl | hp
    · exact hlast
    · exact h outer ((List.mem_inits ..).2 hp) hne

theorem Allows.iterations_le {limits : Limits} {counts : List UInt32} (h : limits.Allows counts) :
    iterations counts ≤ limits.mostRuns := by
  unfold mostRuns
  by_cases hne : counts = []
  · subst hne
    exact Nat.le_max_left ..
  · exact (h counts ((List.mem_inits ..).2 List.prefix_rfl) hne).trans (Nat.le_max_right ..)

theorem Allows.iterations_concat_lt {limits : Limits} {counts : List UInt32}
    (h : limits.Allows counts) (count : UInt32) :
    iterations (counts ++ [count]) < UInt64.size := by
  have hruns : iterations counts < 2 ^ 32 := by
    have := h.iterations_le
    have := limits.repeatIterations.toNat_lt
    unfold mostRuns at *
    omega
  rw [iterations_concat]
  exact Nat.mul_lt_mul'' hruns count.toNat_lt

end Limits

/-! ## What ought to be reported -/

namespace Node

/-- The entry of a statement that is reported: a block is so when it is
    refused. -/
def entry (n : Node α) : Entry α :=
  match n.statement with
  | .command text c => ⟨text, .perform c⟩
  | .loop text count _ => ⟨text, .refuse (iterations (n.counts ++ [count]))⟩
  | .ignored text reason => ⟨text, .ignore reason⟩

/-- A statement that ought to be reported: no block around it is refused, and
    if it is a block, it is refused itself. -/
def Due (limits : Limits) (n : Node α) : Prop :=
  limits.Allows n.counts ∧
    match n.statement with
    | .loop _ count _ => limits.repeatIterations.toNat < iterations (n.counts ++ [count])
    | _ => True

instance (limits : Limits) (n : Node α) : Decidable (n.Due limits) := by
  unfold Due
  cases n.statement <;> infer_instance

/-- How often a statement ought to be reported: as often as the blocks around
    it run it. -/
def visits (limits : Limits) (n : Node α) : Nat :=
  if n.Due limits then iterations n.counts else 0

theorem visits_le (limits : Limits) (n : Node α) : n.visits limits ≤ limits.mostRuns := by
  unfold visits
  by_cases hdue : n.Due limits
  · rw [if_pos hdue]
    exact hdue.1.iterations_le
  · rw [if_neg hdue]
    exact Nat.zero_le _

theorem visits_eq_zero {limits : Limits} {n : Node α} (h : ¬ n.Due limits) :
    n.visits limits = 0 := if_neg h

end Node

/-! ## Visits -/

namespace Statement

mutual

/-- The visits of a statement that the blocks around it run `enclosing` times,
    with `first` as its own number. -/
def visits (limits : Limits) (enclosing first : Nat) : Statement α → List Nat
  | .command .. => [first]
  | .loop _ count body =>
    let iterations := enclosing * count.toNat
    if iterations ≤ limits.repeatIterations.toNat then
      (List.replicate count.toNat (visitsAll limits iterations (first + 1) body)).flatten
    else [first]
  | .ignored .. => [first]

/-- The visits of a tree whose statements are numbered from `first` on. -/
def visitsAll (limits : Limits) (enclosing first : Nat) : List (Statement α) → List Nat
  | [] => []
  | s :: rest =>
    visits limits enclosing first s ++ visitsAll limits enclosing (first + size s) rest

end

end Statement

/-! ## Telling statements apart -/

namespace Statement

mutual

/-- A statement with other texts, one for each number. -/
def relabel (label : Nat → String) (first : Nat) : Statement α → Statement α
  | .command _ c => .command (label first) c
  | .loop _ count body => .loop (label first) count (relabelAll label (first + 1) body)
  | .ignored _ reason => .ignored (label first) reason

/-- A tree with other texts, one for each number. -/
def relabelAll (label : Nat → String) (first : Nat) : List (Statement α) → List (Statement α)
  | [] => []
  | s :: rest => relabel label first s :: relabelAll label (first + size s) rest

end

mutual

theorem texts_unroll_relabel (limits : Limits) (label : Nat → String) :
    ∀ (s : Statement α) (enclosing first : Nat),
      (unroll limits enclosing (relabel label first s)).map Entry.text =
        (visits limits enclosing first s).map label
  | .command .., _, _ => rfl
  | .loop text count body, enclosing, first => by
    have hbody := texts_unrollAll_relabel limits label body (enclosing * count.toNat) (first + 1)
    simp only [relabel, unroll, visits]
    by_cases hrun : enclosing * count.toNat ≤ limits.repeatIterations.toNat
    · simp only [if_pos hrun, List.map_flatten, List.map_replicate, hbody]
    · simp only [if_neg hrun, List.map_cons, List.map_nil]
  | .ignored .., _, _ => rfl

/-- The visits are what is reported when every statement has a text of its
    own. -/
theorem texts_unrollAll_relabel (limits : Limits) (label : Nat → String) :
    ∀ (tree : List (Statement α)) (enclosing first : Nat),
      (unrollAll limits enclosing (relabelAll label first tree)).map Entry.text =
        (visitsAll limits enclosing first tree).map label
  | [], _, _ => rfl
  | s :: rest, enclosing, first => by
    simp only [relabelAll, unrollAll, visitsAll, List.map_append,
      texts_unroll_relabel limits label s enclosing first,
      texts_unrollAll_relabel limits label rest enclosing (first + size s)]

end

end Statement

/-! ## Counting visits -/

/-- What is to be shown of the visits to statements that are numbered from
    `first` on and are run `runs` times by the blocks around them. -/
structure Visited (limits : Limits) (runs first : Nat) (nodes : List (Node α))
    (entries : List (Entry α)) (visits : List Nat) : Prop where
  /-- Only these statements are visited. -/
  bounds : ∀ v ∈ visits, first ≤ v ∧ v < first + nodes.length
  /-- A visit to a statement gives its entry. -/
  entries_eq : visits.map (fun v => nodes[v - first]?.map Node.entry) = entries.map some
  /-- One run of the blocks around them has its share of the visits. -/
  count_eq : ∀ k n, nodes[k]? = some n → runs * visits.count (first + k) = n.visits limits

namespace Visited

variable {limits : Limits} {runs first : Nat}

theorem count_eq_zero {nodes : List (Node α)} {entries : List (Entry α)} {visits : List Nat}
    (h : Visited limits runs first nodes entries visits) {v : Nat}
    (hv : v < first ∨ first + nodes.length ≤ v) : visits.count v = 0 := by
  rw [List.count_eq_zero]
  intro hmem
  have := h.bounds v hmem
  omega

theorem nil : Visited (α := α) limits runs first [] [] [] where
  bounds := by simp
  entries_eq := rfl
  count_eq := by simp

theorem single {n : Node α} (hdue : n.Due limits) (hruns : runs = iterations n.counts) :
    Visited limits runs first [n] [n.entry] [first] where
  bounds := by simp
  entries_eq := by simp
  count_eq k m hm := by
    obtain ⟨rfl, rfl⟩ : k = 0 ∧ n = m := by
      cases k <;> simp_all
    simp [Node.visits, hdue, hruns]

theorem append {nodes₁ nodes₂ : List (Node α)} {entries₁ entries₂ : List (Entry α)}
    {visits₁ visits₂ : List Nat} (h₁ : Visited limits runs first nodes₁ entries₁ visits₁)
    (h₂ : Visited limits runs (first + nodes₁.length) nodes₂ entries₂ visits₂) :
    Visited limits runs first (nodes₁ ++ nodes₂) (entries₁ ++ entries₂) (visits₁ ++ visits₂) where
  bounds v hv := by
    rw [List.length_append]
    rcases List.mem_append.1 hv with hv | hv
    · have := h₁.bounds v hv
      omega
    · have := h₂.bounds v hv
      omega
  entries_eq := by
    rw [List.map_append, List.map_append, ← h₁.entries_eq, ← h₂.entries_eq]
    congr 1
    · apply List.map_congr_left
      intro v hv
      have := h₁.bounds v hv
      rw [List.getElem?_append_left (by omega)]
    · apply List.map_congr_left
      intro v hv
      have := h₂.bounds v hv
      rw [List.getElem?_append_right (by omega), Nat.sub_add_eq]
  count_eq k n hk := by
    rw [List.count_append]
    by_cases hlt : k < nodes₁.length
    · rw [List.getElem?_append_left hlt] at hk
      rw [h₂.count_eq_zero (.inl (by omega)), Nat.add_zero, h₁.count_eq k n hk]
    · rw [List.getElem?_append_right (by omega)] at hk
      have hshift : first + k = first + nodes₁.length + (k - nodes₁.length) := by omega
      rw [h₁.count_eq_zero (.inr (by omega)), Nat.zero_add, hshift, h₂.count_eq _ n hk]

theorem block {outer : Node α} {count : UInt32} {nodes : List (Node α)} {entries : List (Entry α)}
    {visits : List Nat} (hdue : ¬ outer.Due limits)
    (h : Visited limits (runs * count.toNat) (first + 1) nodes entries visits) :
    Visited limits runs first (outer :: nodes) (List.replicate count.toNat entries).flatten
      (List.replicate count.toNat visits).flatten where
  bounds v hv := by
    obtain ⟨pass, hpass, hmem⟩ := List.mem_flatten.1 hv
    rw [List.eq_of_mem_replicate hpass] at hmem
    have := h.bounds v hmem
    rw [List.length_cons]
    omega
  entries_eq := by
    have hpass : visits.map (fun v => (outer :: nodes)[v - first]?.map Node.entry) =
        entries.map some := by
      rw [← h.entries_eq]
      apply List.map_congr_left
      intro v hv
      have := h.bounds v hv
      rw [show v - first = v - (first + 1) + 1 by omega, List.getElem?_cons_succ]
    rw [List.map_flatten, List.map_replicate, hpass, List.map_flatten, List.map_replicate]
  count_eq k n hk := by
    rw [List.count_flatten, List.map_replicate, List.sum_replicate_nat, ← Nat.mul_assoc]
    cases k with
    | zero =>
      obtain rfl : outer = n := by simpa using hk
      rw [h.count_eq_zero (.inl (by omega)), Node.visits_eq_zero hdue, Nat.mul_zero]
    | succ k =>
      rw [show first + (k + 1) = first + 1 + k by omega]
      exact h.count_eq k n hk

theorem refused {outer : Node α} {nodes : List (Node α)} (hdue : outer.Due limits)
    (hruns : runs = iterations outer.counts) (h : ∀ n ∈ nodes, ¬ n.Due limits) :
    Visited limits runs first (outer :: nodes) [outer.entry] [first] where
  bounds := by simp
  entries_eq := by simp
  count_eq k n hk := by
    cases k with
    | zero =>
      obtain rfl : outer = n := by simpa using hk
      simp [Node.visits, hdue, hruns]
    | succ k =>
      have hmem : n ∈ nodes := List.mem_of_getElem? (by simpa using hk)
      rw [Node.visits_eq_zero (h n hmem)]
      simp

/-- A statement that is visited is one that ought to be. -/
theorem due {nodes : List (Node α)} {entries : List (Entry α)} {visits : List Nat}
    (h : Visited limits 1 0 nodes entries visits) {v : Nat} (hv : v ∈ visits) {n : Node α}
    (hn : nodes[v]? = some n) : n.Due limits := by
  by_contra hdue
  have hcount := h.count_eq v n hn
  rw [Node.visits_eq_zero hdue, Nat.zero_add, Nat.one_mul, List.count_eq_zero] at hcount
  exact hcount hv

theorem exists_of_mem {nodes : List (Node α)} {entries : List (Entry α)} {visits : List Nat}
    (h : Visited limits 1 0 nodes entries visits) {e : Entry α} (he : e ∈ entries) :
    ∃ n ∈ nodes, n.Due limits ∧ n.entry = e := by
  have hmem : some e ∈ entries.map some := List.mem_map_of_mem he
  rw [← h.entries_eq] at hmem
  obtain ⟨v, hv, heq⟩ := List.mem_map.1 hmem
  obtain ⟨n, hn, rfl⟩ := Option.map_eq_some_iff.1 heq
  exact ⟨n, List.mem_of_getElem? hn, h.due hv hn, rfl⟩

theorem length_le {nodes : List (Node α)} {entries : List (Entry α)} {visits : List Nat}
    (h : Visited limits 1 0 nodes entries visits) :
    entries.length ≤ limits.mostRuns * nodes.length := by
  have hlength : visits.length = entries.length := by
    simpa using congrArg List.length h.entries_eq
  have hbounds : ∀ v ∈ (visits : Multiset Nat), v ∈ Finset.range nodes.length := by
    intro v hv
    have := h.bounds v hv
    rw [Finset.mem_range]
    omega
  -- each statement is counted as often as it is visited
  calc entries.length = ∑ k ∈ Finset.range nodes.length, (visits : Multiset Nat).count k := by
        rw [Multiset.sum_count_eq_card hbounds, Multiset.coe_card, hlength]
    _ ≤ ∑ _k ∈ Finset.range nodes.length, limits.mostRuns := by
        refine Finset.sum_le_sum ?_
        intro k hk
        have hn := List.getElem?_eq_getElem (Finset.mem_range.1 hk)
        have hcount := h.count_eq k _ hn
        rw [Multiset.coe_count, ← Nat.one_mul (visits.count k), ← Nat.zero_add k, hcount]
        exact Node.visits_le ..
    _ = limits.mostRuns * nodes.length := by
        rw [Finset.sum_const_nat fun _ _ => rfl, Finset.card_range, Nat.mul_comm]

end Visited

namespace Statement

mutual

theorem unroll_visited (limits : Limits) :
    ∀ (s : Statement α) {counts : List UInt32}, limits.Allows counts → ∀ first,
      Visited limits (iterations counts) first (nodes counts s)
        (unroll limits (iterations counts) s) (visits limits (iterations counts) first s)
  | .command .., _, h, _ => Visited.single ⟨h, trivial⟩ rfl
  | .loop text count body, counts, h, first => by
    simp only [nodes, unroll, visits, ← iterations_concat]
    by_cases hrun : iterations (counts ++ [count]) ≤ limits.repeatIterations.toNat
    · have hinside := unrollAll_visited limits body (Limits.allows_concat.2 ⟨h, hrun⟩) (first + 1)
      rw [if_pos hrun, if_pos hrun]
      refine Visited.block (fun hdue => Nat.not_lt.2 hrun hdue.2) ?_
      rwa [iterations_concat] at hinside ⊢
    · rw [if_neg hrun, if_neg hrun]
      refine Visited.refused ⟨h, Nat.not_le.1 hrun⟩ rfl ?_
      intro n hn hdue
      exact hrun (Limits.allows_concat.1 (hdue.1.of_outer (prefix_of_mem_nodesAll hn))).2
  | .ignored .., _, h, _ => Visited.single ⟨h, trivial⟩ rfl

/-- **Every statement is visited as often as it ought to be.** -/
theorem unrollAll_visited (limits : Limits) :
    ∀ (tree : List (Statement α)) {counts : List UInt32}, limits.Allows counts → ∀ first,
      Visited limits (iterations counts) first (nodesAll counts tree)
        (unrollAll limits (iterations counts) tree)
        (visitsAll limits (iterations counts) first tree)
  | [], _, _, _ => Visited.nil
  | s :: rest, counts, h, first => by
    rw [nodesAll, unrollAll, visitsAll, ← length_nodes counts s]
    exact (unroll_visited limits s h first).append (unrollAll_visited limits rest h _)

end

end Statement

end TurtleGraphics

import ClusterReady.Check.Listing
import Mathlib.Data.List.Forall2
import Mathlib.Data.List.Perm.Basic

/-!
# The verdict on nodes

A node is ready when one of its conditions says so.  The nodes that match a selector are as they
should be when the number of those that are ready lies in the range, where a range of one number
also asks that no other node matches.  The verdict depends on two counts alone, so the order of the
nodes and of their conditions does not matter, and a wider range accepts what a narrower one does.
-/

namespace ClusterReady

namespace Node

/-- The node reports a condition which says that it is ready. -/
def ReportsReady (n : Node) : Prop :=
  ∃ status conditions c, n.status = some status ∧ status.conditions = some conditions ∧
    c ∈ conditions ∧ c.type = "Ready" ∧ c.status = "True"

theorem isReady_iff {n : Node} : n.isReady = true ↔ n.ReportsReady := by
  unfold isReady ReportsReady
  cases n.status with
  | none => simp
  | some status => cases hconditions : status.conditions <;> simp [hconditions]

instance : DecidablePred ReportsReady := fun _ => decidable_of_iff _ isReady_iff

/-- The same node but for the order in which it reports its conditions. -/
def SameButOrder (m n : Node) : Prop :=
  m.metadata = n.metadata ∧
    Option.Rel (fun x y => Option.Rel List.Perm x.conditions y.conditions) m.status n.status

theorem SameButOrder.reportsReady_iff {m n : Node} (h : m.SameButOrder n) :
    m.ReportsReady ↔ n.ReportsReady := by
  obtain ⟨-, hstatus⟩ := h
  unfold ReportsReady
  generalize m.status = x at hstatus
  generalize n.status = y at hstatus
  cases hstatus with
  | none => rfl
  | some hconditions =>
      rename_i x y
      cases x with
      | mk u =>
          cases y with
          | mk v =>
              cases hconditions with
              | none => simp
              | some hperm => simp [hperm.mem_iff]

end Node

/-- How many of the nodes are ready. -/
def readyCount (nodes : List Node) : Nat := nodes.countP fun n => n.ReportsReady

/-- The names of the nodes that are not ready, in their order. -/
def notReadyNames (nodes : List Node) : List String :=
  (nodes.filter fun n => ¬n.ReportsReady).map fun n => n.metadata.shownName

/-- What an operator is told of nodes that are not as they should be. -/
def nodesReport (nodes : List Node) (selector : String) (expected : CountRange) : String :=
  s!"{readyCount nodes}/{nodes.length} nodes matching '" ++ selector ++ "' are Ready, expected " ++
    expected.text ++
    (if readyCount nodes < nodes.length then
      " (not ready: " ++ ", ".intercalate (notReadyNames nodes) ++ ")"
    else "")

/-- So many ready nodes of so many are as the range asks for. -/
def CountRange.Accepts (expected : CountRange) (ready total : Nat) : Prop :=
  expected.min.toNat ≤ ready ∧ ready ≤ expected.max.toNat ∧
    (expected.min = expected.max → ready = total)

instance (expected : CountRange) (ready total : Nat) : Decidable (expected.Accepts ready total) :=
  inferInstanceAs (Decidable (_ ∧ _ ∧ (_ → _)))

theorem CountRange.Accepts.widen {narrow wide : CountRange} {ready total : Nat}
    (h : narrow.Accepts ready total) (hmin : wide.min ≤ narrow.min)
    (hmax : narrow.max ≤ wide.max) : wide.Accepts ready total := by
  obtain ⟨hlow, hhigh, hall⟩ := h
  have horder := narrow.min_le_max
  rw [UInt32.le_iff_toNat_le] at hmin hmax horder
  refine ⟨Nat.le_trans hmin hlow, Nat.le_trans hhigh hmax, ?_⟩
  intro hexact
  have hends := congrArg UInt32.toNat hexact
  exact hall (UInt32.toNat_inj.mp (by omega))

/-! ## The counts -/

theorem countOf_of_lt {n : Nat} (h : n < UInt32.size) : countOf n = n :=
  Nat.min_eq_left (Nat.le_sub_one_of_lt h)

theorem length_filter_isReady (nodes : List Node) :
    (nodes.filter Node.isReady).length = readyCount nodes := by
  rw [readyCount, List.countP_eq_length_filter]
  congr 1
  apply List.filter_congr
  intro n _
  exact Bool.eq_iff_iff.mpr (Node.isReady_iff.trans decide_eq_true_iff.symm)

theorem filter_not_isReady (nodes : List Node) :
    nodes.filter (!·.isReady) = nodes.filter fun n => ¬n.ReportsReady := by
  apply List.filter_congr
  intro n _
  rw [Bool.eq_iff_iff]
  simp [← Node.isReady_iff]

theorem readyCount_le (nodes : List Node) : readyCount nodes ≤ nodes.length :=
  List.countP_le_length

theorem notReady_eq_nil_iff (nodes : List Node) :
    (nodes.filter fun n => ¬n.ReportsReady) = [] ↔ ¬readyCount nodes < nodes.length := by
  have hall : nodes.length ≤ readyCount nodes ↔ readyCount nodes = nodes.length :=
    ⟨Nat.le_antisymm (readyCount_le nodes), fun h => Nat.le_of_eq h.symm⟩
  rw [List.filter_eq_nil_iff, Nat.not_lt, hall, readyCount, List.countP_eq_length]
  simp

/-! ## The verdict -/

section Verdict

variable {nodes : List Node} {selector : String} {expected : CountRange}

theorem nodesMismatch_eq (h : nodes.length < UInt32.size) :
    nodesMismatch nodes selector expected = nodesReport nodes selector expected := by
  have hready : readyCount nodes < UInt32.size := Nat.lt_of_le_of_lt (readyCount_le nodes) h
  unfold nodesMismatch nodesReport notReadyNames
  simp only [length_filter_isReady, filter_not_isReady, countOf_of_lt h, countOf_of_lt hready,
    List.isEmpty_iff, notReady_eq_nil_iff, ite_not]

theorem evaluateNodes_eq (h : nodes.length < UInt32.size) :
    evaluateNodes nodes selector expected =
      if expected.Accepts (readyCount nodes) nodes.length then .ok ()
      else .error (.unsatisfied (nodesReport nodes selector expected)) := by
  have hready : readyCount nodes < UInt32.size := Nat.lt_of_le_of_lt (readyCount_le nodes) h
  have haccepts : (expected.contains (readyCount nodes) &&
      (!expected.isExact || readyCount nodes == nodes.length)) = true ↔
      expected.Accepts (readyCount nodes) nodes.length := by
    simp [CountRange.contains, CountRange.isExact, CountRange.Accepts, and_assoc,
      ← imp_iff_not_or]
  unfold evaluateNodes
  simp only [length_filter_isReady, countOf_of_lt h, countOf_of_lt hready, haccepts,
    nodesMismatch_eq h]

theorem evaluateNodes_ok_iff (h : nodes.length < UInt32.size) :
    evaluateNodes nodes selector expected = .ok () ↔
      expected.Accepts (readyCount nodes) nodes.length := by
  rw [evaluateNodes_eq h]
  by_cases haccepts : expected.Accepts (readyCount nodes) nodes.length
  · simp [haccepts]
  · simp [haccepts]

end Verdict

/-! ## Order -/

theorem nodesReport_congr {nodes others : List Node}
    (h : List.Forall₂ Node.SameButOrder nodes others) :
    readyCount others = readyCount nodes ∧ notReadyNames others = notReadyNames nodes := by
  induction h with
  | nil => exact ⟨rfl, rfl⟩
  | @cons m n nodes others hnode _ ih =>
      have hready : n.ReportsReady ↔ m.ReportsReady := hnode.reportsReady_iff.symm
      obtain ⟨hcount, hnames⟩ := ih
      simp only [readyCount, notReadyNames] at hcount hnames ⊢
      by_cases hm : m.ReportsReady
      · simpa [hready, hm] using And.intro hcount hnames
      · simpa [hready, hm, hnode.1] using And.intro hcount hnames

/-- What is said of the nodes that match a selector, and what it depends on: not on the order of the
conditions of a node, and on that of the nodes only in the order of the names.  What a range
accepts, a wider one accepts. -/
structure NodesVerdict (nodes : List Node) (selector : String) (expected : CountRange) : Prop where
  ok_iff : evaluateNodes nodes selector expected = .ok () ↔
    expected.Accepts (readyCount nodes) nodes.length
  otherwise : evaluateNodes nodes selector expected ≠ .ok () →
    evaluateNodes nodes selector expected =
      .error (.unsatisfied (nodesReport nodes selector expected))
  conditionsReordered : ∀ others, List.Forall₂ Node.SameButOrder nodes others →
    evaluateNodes others selector expected = evaluateNodes nodes selector expected
  nodesReordered : ∀ others, others.Perm nodes →
    (evaluateNodes others selector expected = .ok () ↔
      evaluateNodes nodes selector expected = .ok ()) ∧
    (notReadyNames others).Perm (notReadyNames nodes)
  widened : ∀ wide : CountRange, wide.min ≤ expected.min → expected.max ≤ wide.max →
    evaluateNodes nodes selector expected = .ok () → evaluateNodes nodes selector wide = .ok ()

/-- As long as a word of 32 bits can count the nodes, the verdict on them is that on the number of
those that are ready, and tells which are not. -/
theorem evaluateNodes_verdict (nodes : List Node) (selector : String) (expected : CountRange)
    (h : nodes.length < UInt32.size) : NodesVerdict nodes selector expected := by
  constructor
  · exact evaluateNodes_ok_iff h
  · intro hfailed
    rw [evaluateNodes_eq h, if_neg (mt (evaluateNodes_ok_iff h).mpr hfailed)]
  · intro others hothers
    have hlength := hothers.length_eq
    have hshort : others.length < UInt32.size := hlength ▸ h
    obtain ⟨hcount, hnames⟩ := nodesReport_congr hothers
    rw [evaluateNodes_eq h, evaluateNodes_eq hshort, nodesReport, nodesReport, hcount, hnames,
      hlength]
  · intro others hperm
    have hlength := hperm.length_eq
    have hshort : others.length < UInt32.size := hlength ▸ h
    have hcount : readyCount others = readyCount nodes := hperm.countP_eq _
    refine ⟨?_, (hperm.filter _).map _⟩
    rw [evaluateNodes_ok_iff h, evaluateNodes_ok_iff hshort, hcount, hlength]
  · intro wide hmin hmax hok
    rw [evaluateNodes_ok_iff h] at hok ⊢
    exact hok.widen hmin hmax

/-- Workers of which the second has not reported yet, and the third is not ready. -/
def joiningWorkers : List Node :=
  [{ metadata := { name := some "w-0" },
      status := some ⟨some [⟨"MemoryPressure", "False"⟩, ⟨"Ready", "True"⟩]⟩ },
    { metadata := { name := some "w-1" } },
    { metadata := { name := some "w-2" }, status := some ⟨some [⟨"Ready", "False"⟩]⟩ }]

/-- One ready worker is enough for a range of one and more, and is told of where one node has to
be all there is. -/
theorem joiningWorkers_verdict :
    joiningWorkers.length < UInt32.size ∧
      NodesVerdict joiningWorkers "role=worker" (.exact 1) ∧
      evaluateNodes joiningWorkers "role=worker" (.exact 1) = .error (.unsatisfied
        "1/3 nodes matching 'role=worker' are Ready, expected 1 (not ready: w-1, w-2)") ∧
      evaluateNodes joiningWorkers "role=worker" ⟨1, 3, by decide⟩ = .ok () := by
  have hshort : joiningWorkers.length < UInt32.size := by decide
  refine ⟨hshort, evaluateNodes_verdict _ _ _ hshort, ?_, ?_⟩
  · decide +kernel
  · decide +kernel

end ClusterReady

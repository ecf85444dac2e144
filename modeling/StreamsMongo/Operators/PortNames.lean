import StreamsMongo.Library.Numerals
import StreamsMongo.Operators.WritePorts

set_option autoImplicit false

namespace StreamsMongo.Write

section TupleNames

/--
The printed text holds `iport$` nowhere but in the names of the tuples it refers to, and
no name runs on into a digit.
-/
structure Printed (fragments : List Fragment) : Prop where
  ends : ∀ earlier port access later, fragments = earlier ++ .stream port access :: later →
    Numerals.NoLeadingDigit (access ++ getCppExpression tupleName later).toList
  only : ∀ before after,
    (getCppExpression tupleName fragments).toList = before ++ "iport$".toList ++ after →
    ∃ earlier port access later, fragments = earlier ++ .stream port access :: later ∧
      before = (getCppExpression tupleName earlier).toList

theorem tupleName_toList (port : Nat) :
    (tupleName port).toList = "iport$".toList ++ Numerals.digits port := by
  rw [tupleName, String.toList_append, Numerals.toList_toString]

theorem getCppExpression_split (earlier later : List Fragment) (port : Nat) (access : String) :
    (getCppExpression tupleName (earlier ++ .stream port access :: later)).toList =
      (getCppExpression tupleName earlier).toList ++ "iport$".toList ++
        (Numerals.digits port ++ (access ++ getCppExpression tupleName later).toList) := by
  simp [getCppExpression, Fragment.print, tupleName_toList]

variable (fragments : List Fragment) (printed : Printed fragments)

include printed

theorem contains_tupleName_iff (i : Nat) :
    contains (getCppExpression tupleName fragments) (tupleName i) = true ↔
      ∃ port ∈ readPorts fragments, Numerals.digits i <+: Numerals.digits port := by
  constructor
  · intro found
    obtain ⟨before, after, whole⟩ := of_decide_eq_true found
    have marked : (getCppExpression tupleName fragments).toList =
        before ++ "iport$".toList ++ (Numerals.digits i ++ after) := by
      rw [← whole, tupleName_toList]
      simp only [List.append_assoc]
    -- The name is found where a reference to some tuple is printed.
    obtain ⟨earlier, port, access, later, split, rfl⟩ := printed.only before _ marked
    have ends := printed.ends earlier port access later split
    subst split
    rw [getCppExpression_split, List.append_cancel_left_eq] at marked
    refine ⟨port, List.mem_filterMap.mpr ⟨.stream port access, by simp, rfl⟩, ?_⟩
    exact Numerals.prefix_of_followed i port _ ends ⟨after, marked.symm⟩
  · intro begun
    obtain ⟨port, read, starts⟩ := begun
    have named := of_decide_eq_true (reference_contained tupleName fragments port read)
    have shorter : (tupleName i).toList <+: (tupleName port).toList := by
      rw [tupleName_toList, tupleName_toList]
      exact (List.prefix_append_right_inj _).mpr starts
    exact decide_eq_true (shorter.isInfix.trans named)

theorem mem_matchingPorts_iff (numberOfInputPorts i : Nat) :
    i ∈ matchingPorts tupleName numberOfInputPorts (getCppExpression tupleName fragments) ↔
      i < numberOfInputPorts ∧
        ∃ port ∈ readPorts fragments, Numerals.digits i <+: Numerals.digits port := by
  rw [matchingPorts, List.mem_filter, List.mem_range, contains_tupleName_iff fragments printed]

omit printed in
theorem matchingPorts_nodup (numberOfInputPorts : Nat) (cppExpr : String) :
    (matchingPorts tupleName numberOfInputPorts cppExpr).Nodup :=
  List.nodup_range.filter _

omit printed in
theorem portNumber_mixing (numberOfInputPorts : Nat) (cppExpr : String) (i j : Nat)
    (first : i ∈ matchingPorts tupleName numberOfInputPorts cppExpr)
    (second : j ∈ matchingPorts tupleName numberOfInputPorts cppExpr) (differ : i ≠ j) :
    .multiplePorts cppExpr ∈ (portNumber tupleName numberOfInputPorts cppExpr).2 := by
  rw [portNumber_eq]
  cases ports : matchingPorts tupleName numberOfInputPorts cppExpr with
  | nil =>
    rw [ports] at first
    cases first
  | cons port later =>
    rw [ports] at first second
    cases later with
    | nil =>
      have same := (List.mem_singleton.mp first).trans (List.mem_singleton.mp second).symm
      exact (differ same).elim
    | cons other later => simp

theorem portNumber_single (numberOfInputPorts port : Nat) (known : port < numberOfInputPorts)
    (read : port ∈ readPorts fragments) (same : ∀ other ∈ readPorts fragments, other = port)
    (short : port < 10) :
    portNumber tupleName numberOfInputPorts (getCppExpression tupleName fragments) =
      ((port : Int), []) := by
  have members : ∀ i, i ∈ matchingPorts tupleName numberOfInputPorts
      (getCppExpression tupleName fragments) ↔ i = port := by
    intro i
    rw [mem_matchingPorts_iff fragments printed]
    constructor
    · intro found
      obtain ⟨_, other, member, starts⟩ := found
      rw [same other member] at starts
      exact Numerals.eq_of_prefix i port short starts
    · intro here
      rw [here]
      exact ⟨known, port, read, List.prefix_rfl⟩
  have alone : matchingPorts tupleName numberOfInputPorts
      (getCppExpression tupleName fragments) = [port] := by
    refine List.perm_singleton.mp ?_
    refine (List.perm_ext_iff_of_nodup (matchingPorts_nodup _ _)
      (List.nodup_singleton port)).mpr ?_
    intro i
    rw [members, List.mem_singleton]
  rw [portNumber_eq, alone]
  rfl

end TupleNames

def Operation.dataFragments {In : Type} {op : Operator} : Operation In op → List Fragment
  | .insertDocument args | .updateDocument _ args => args.data.fragments
  | .removeDocument .. => []

def MixingReported (errors : List CodeGenError) : Prop :=
  ∃ cppExpr, .multiplePorts cppExpr ∈ errors

def Operation.InfersExactly {In : Type} {op : Operator} (call : Operation In op)
    (numberOfInputPorts : Nat) : Prop :=
  (∀ port ∈ call.dataReads, (∀ other ∈ call.dataReads, other = port) →
    ¬ MixingReported (call.errors tupleName numberOfInputPorts) ∧
      call.guard tupleName numberOfInputPorts = some (port : Int)) ∧
  ∀ port ∈ call.dataReads, ∀ other ∈ call.dataReads, port ≠ other →
    MixingReported (call.errors tupleName numberOfInputPorts)

section Inference

variable {In : Type} {op : Operator} (call : Operation In op) (numberOfInputPorts : Nat)

theorem dataReads_eq : call.dataReads = readPorts call.dataFragments := by
  cases call <;> rfl

theorem checkKey_unmixed (args : WriteArguments In) : ¬ MixingReported (checkKey args) := by
  intro mixing
  obtain ⟨cppExpr, member⟩ := mixing
  unfold checkKey at member
  split at member
  · split_ifs at member with required
    · cases List.mem_singleton.mp member
    · cases member
  · cases member

theorem inferred (several : 2 ≤ numberOfInputPorts) (streams : call.dataReads ≠ []) :
    call.guard tupleName numberOfInputPorts =
        some (portNumber tupleName numberOfInputPorts
          (getCppExpression tupleName call.dataFragments)).1 ∧
      (MixingReported (call.errors tupleName numberOfInputPorts) ↔
        MixingReported (portNumber tupleName numberOfInputPorts
          (getCppExpression tupleName call.dataFragments)).2) := by
  cases call with
  | insertDocument args | updateDocument function args =>
    have guarded := portGuard_streams tupleName numberOfInputPorts several args.data.fragments
      streams
    constructor
    · rw [Operation.guard, guarded]
      rfl
    · rw [Operation.errors, guarded]
      constructor
      · intro mixing
        obtain ⟨cppExpr, member⟩ := mixing
        rcases List.mem_append.mp member with key | ports
        · exact (checkKey_unmixed args ⟨cppExpr, key⟩).elim
        · exact ⟨cppExpr, ports⟩
      · intro mixing
        obtain ⟨cppExpr, ports⟩ := mixing
        exact ⟨cppExpr, List.mem_append_right _ ports⟩
  | removeDocument function db collection => exact (streams rfl).elim

variable (several : 2 ≤ numberOfInputPorts) (streams : call.dataReads ≠ [])
  (known : ∀ port ∈ call.dataReads, port < numberOfInputPorts)
  (printed : Printed call.dataFragments)

include several streams known printed

theorem mixing_reported (port other : Nat) (read : port ∈ call.dataReads)
    (found : other < numberOfInputPorts) (starts : Numerals.digits other <+: Numerals.digits port)
    (second : Nat) (again : second ∈ call.dataReads) (differ : other ≠ second) :
    MixingReported (call.errors tupleName numberOfInputPorts) := by
  rw [(inferred call numberOfInputPorts several streams).2]
  have readHere := read
  have againHere := again
  rw [dataReads_eq] at readHere againHere
  exact ⟨_, portNumber_mixing numberOfInputPorts _ other second
    ((mem_matchingPorts_iff _ printed numberOfInputPorts other).mpr
      ⟨found, port, readHere, starts⟩)
    ((mem_matchingPorts_iff _ printed numberOfInputPorts second).mpr
      ⟨known second again, second, againHere, List.prefix_rfl⟩) differ⟩

theorem infersExactly_iff :
    call.InfersExactly numberOfInputPorts ↔
      (∃ port ∈ call.dataReads, ∃ other ∈ call.dataReads, port ≠ other) ∨
        ∀ port ∈ call.dataReads, port < 10 := by
  constructor
  · intro exact
    by_cases mixed : ∃ port ∈ call.dataReads, ∃ other ∈ call.dataReads, port ≠ other
    · exact Or.inl mixed
    · refine Or.inr fun port read => ?_
      by_contra long
      have same : ∀ other ∈ call.dataReads, other = port := by
        intro other member
        by_contra differ
        exact mixed ⟨other, member, port, read, differ⟩
      have here := known port read
      -- The name of port `port / 10` is found in the one name that is printed.
      exact (exact.1 port read same).1
        (mixing_reported call numberOfInputPorts several streams known printed port (port / 10) read
          (by omega) (Numerals.div_ten_prefix port (by omega)) port read (by omega))
  · intro condition
    constructor
    · intro port read same
      have short : port < 10 := by
        rcases condition with ⟨first, here, second, there, differ⟩ | short
        · exact (differ ((same first here).trans (same second there).symm)).elim
        · exact short port read
      obtain ⟨guard, mixing⟩ := inferred call numberOfInputPorts several streams
      rw [dataReads_eq] at read same
      have single := portNumber_single _ printed numberOfInputPorts port
        (known port (by rwa [dataReads_eq])) read same short
      rw [guard, mixing, single]
      refine ⟨?_, rfl⟩
      intro mixed
      obtain ⟨cppExpr, member⟩ := mixed
      cases member
    · intro port read other again differ
      exact mixing_reported call numberOfInputPorts several streams known printed port port read
        (known port read) List.prefix_rfl other again differ

end Inference

variable {Ext Tup : Type} {op : Operator} {n : Nat}

/-- Inference fails for the one port read when its number has more than one digit. -/
theorem port_inference_exact_iff (spec : Specification Ext Tup op n)
    (several : 2 ≤ spec.numberOfInputPorts) (i : Fin n) (call : Operation (Arrival Ext Tup) op)
    (isCall : (spec.assignment i).operation? = some call) (streams : call.dataReads ≠ [])
    (printed : Printed call.dataFragments) :
    call.InfersExactly spec.numberOfInputPorts ↔
      (∃ port ∈ call.dataReads, ∃ other ∈ call.dataReads, port ≠ other) ∨
        ∀ port ∈ call.dataReads, port < 10 :=
  infersExactly_iff call spec.numberOfInputPorts several streams
    (fun port read => spec.portsExist i call isCall port (dataReads_read call port read)) printed

section Samples

theorem printed_reference (port : Nat) (access : String) (noDollar : '$' ∉ access.toList)
    (ends : Numerals.NoLeadingDigit access.toList) : Printed [.stream port access] where
  ends := by
    intro earlier other access' later split
    obtain ⟨rfl, here⟩ := List.append_eq_singleton_iff.mp split.symm |>.resolve_right (by simp)
    cases here
    simpa [getCppExpression] using ends
  only := by
    intro before after whole
    refine ⟨[], port, access, [], rfl, ?_⟩
    have text : (getCppExpression tupleName [.stream port access]).toList =
        "iport".toList ++ '$' :: (Numerals.digits port ++ access.toList) := by
      simp [getCppExpression, Fragment.print, tupleName_toList]
    have marked : before ++ "iport$".toList ++ after =
        before ++ "iport".toList ++ '$' :: after := by
      simp
    rw [text, marked] at whole
    have noDigit : '$' ∉ Numerals.digits port := by
      intro member
      cases Numerals.isDigit_of_mem port '$' member
    have aligned := (List.append_cons_inj_of_notMem (by decide)
      (by simp [noDigit, noDollar])).mp whole
    have start := List.self_eq_append_left.mp aligned.1
    simpa [getCppExpression] using start

def insertOfCall (port : Nat) : Operation (Arrival Unit String) .insert :=
  .insertDocument ⟨literal "streams", literal "sample", none,
    .asJson ⟨[.stream port ".get_document()"], Arrival.tuple⟩⟩

def insertOf (port numberOfInputPorts : Nat) (known : port < numberOfInputPorts) :
    Specification Unit String .insert 1 where
  numberOfInputPorts := numberOfInputPorts
  attributes _ := .prim .rstring
  assignment _ := .operation (insertOfCall port)
  findQuery := none
  noFindQuery := noFindQuery_none Unit String .insert
  portsExist i call isCall read member := by
    cases isCall
    cases List.mem_singleton.mp member
    exact known
  queryPortsExist := queryPortsExist_none Unit String numberOfInputPorts

theorem insertOf_printed (port : Nat) : Printed (insertOfCall port).dataFragments :=
  printed_reference port ".get_document()" (by decide) (by
    intro c member
    cases member
    rfl)

theorem port_inference_exact_iff_port1 : (insertOfCall 1).InfersExactly 11 :=
  (port_inference_exact_iff (insertOf 1 11 (by decide)) (by decide) 0 (insertOfCall 1) rfl
    (List.cons_ne_nil 1 []) (insertOf_printed 1)).mpr
    (Or.inr fun _ member => by cases List.mem_singleton.mp member; decide)

theorem port_10_taken_for_1 :
    (insertOfCall 10).dataReads = [10] ∧ Printed (insertOfCall 10).dataFragments ∧
      (insertOfCall 10).guard tupleName 11 = some 1 ∧
      (insertOf 10 11 (by decide)).errors tupleName =
        [.multiplePorts "iport$10.get_document()"] ∧
      ¬ (insertOfCall 10).InfersExactly 11 := by
  refine ⟨rfl, insertOf_printed 10, by decide, rfl, ?_⟩
  intro exact
  have unmixed := (exact.1 10 (List.mem_singleton_self 10) fun _ member =>
    List.mem_singleton.mp member).1
  exact unmixed ⟨"iport$10.get_document()", List.mem_singleton_self _⟩

end Samples

end StreamsMongo.Write

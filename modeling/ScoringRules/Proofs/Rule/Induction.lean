import ScoringRules.Rule.Basic

/-!
Induction on rules: what holds of a node whenever it holds of every condition or statement in it
holds of the whole tree.
-/

namespace ScoringRules

@[elab_as_elim]
theorem Condition.induction {P : Condition → Prop}
    (scalar : ∀ left comparison right, P (.scalar left comparison right))
    (list : ∀ left negated members, P (.list left negated members))
    (nested : ∀ clauses : Expression, (∀ clause ∈ clauses, ∀ condition ∈ clause, P condition) →
      P (.nested clauses))
    (condition : Condition) : P condition := by
  refine @Condition.rec P (fun clauses => ∀ clause ∈ clauses, ∀ condition ∈ clause, P condition)
    (fun clause => ∀ condition ∈ clause, P condition) scalar list nested ?_ ?_ ?_ ?_ condition
  · exact List.forall_mem_nil _
  · exact fun _ _ first rest => List.forall_mem_cons.mpr ⟨first, rest⟩
  · exact List.forall_mem_nil _
  · exact fun _ _ first rest => List.forall_mem_cons.mpr ⟨first, rest⟩

@[elab_as_elim]
theorem Statement.induction {P : Statement → Prop}
    (rule : ∀ condition consequences, (∀ statement ∈ consequences, P statement) →
      P (.rule condition consequences))
    (change : ∀ score op amount, P (.change score op amount)) (exit : P .exit)
    (statement : Statement) : P statement := by
  refine @Statement.rec P (fun statements => ∀ statement ∈ statements, P statement)
    rule change exit ?_ ?_ statement
  · exact List.forall_mem_nil _
  · exact fun _ _ first rest => List.forall_mem_cons.mpr ⟨first, rest⟩

end ScoringRules

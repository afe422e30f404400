import MallocLayer.Redirection

/-!
# Names of the primitive and names of the layer

The primitive is linked by names that start with the prefix, and the layer takes over
the symbols of the table. A name of both kinds would bind an operation of the
primitive to the layer that is built on it.

A name in a role is a symbol exactly if the symbol ends in the suffix of the role and
the prefix is what is left of it (`name_eq_iff`). What is left is empty for all
symbols of the table but `vfree`. So the prefix `v` is the only accepted one that
takes a name of the layer, and `vfree` the only name that is taken
(`ofString_names_apart`).
-/

namespace MallocLayer

namespace ExportPrefix

variable {text : String} {p : ExportPrefix}

/-! ## 1. Accepted texts -/

theorem text_of_ofString (accepted : ofString text = .ok p) : p.text = text := by
  unfold ofString at accepted
  split at accepted
  · cases accepted
  · split at accepted
    · cases accepted
    · split at accepted
      · cases accepted
      · cases accepted
        rfl

/-- Every prefix is got from its text. -/
theorem ofString_text (p : ExportPrefix) : ofString p.text = .ok p := by
  obtain ⟨text, nonempty, leading, valid⟩ := p
  unfold ofString
  split
  · next none => exact absurd none nonempty
  · next first rest shape =>
    have letter : ¬ first.isDigit = true := by
      rw [leading first (by rw [shape]; rfl)]
      exact Bool.false_ne_true
    rw [dif_neg letter]
    split
    · next found invalid =>
      have member : found ∈ text.toList := shape ▸ List.mem_of_find?_eq_some invalid
      have test := List.find?_some invalid
      rw [valid found member] at test
      cases test
    · rfl

/-! ## 2. Stems -/

/-- What stands before the suffix of the role in a symbol that ends in it. -/
def stem (role : PrimitiveRole) (symbol : String) : List Char :=
  symbol.toList.take (symbol.toList.length - role.suffix.toList.length)

theorem name_eq_iff (p : ExportPrefix) (role : PrimitiveRole) (symbol : String) :
    p.name role = symbol ↔
      role.suffix.toList <:+ symbol.toList ∧ p.text.toList = stem role symbol := by
  rw [← String.toList_inj, name, String.toList_append, List.suffix_iff_eq_append, stem]
  constructor
  · intro same
    have front : symbol.toList.take (symbol.toList.length - role.suffix.toList.length) =
        p.text.toList := by
      rw [← same, List.length_append, Nat.add_sub_cancel, List.take_left]
    rw [front]
    exact ⟨same, rfl⟩
  · rintro ⟨ends, front⟩
    rw [front]
    exact ends

/-- No symbol of the table but `vfree` has anything before the suffix of a role. -/
theorem stem_cases : ∀ r ∈ Redirection.table, ∀ role ∈ PrimitiveRole.all,
    role.suffix.toList <:+ r.symbol.toList →
      stem role r.symbol = [] ∨ role = .deallocate ∧ r.symbol = "vfree" := by
  decide +kernel

theorem mem_all (role : PrimitiveRole) : role ∈ PrimitiveRole.all := by
  cases role <;> decide

/-! ## 3. Names -/

theorem name_eq_symbol_iff (p : ExportPrefix) (role : PrimitiveRole) {r : Redirection}
    (listed : r ∈ Redirection.table) :
    p.name role = r.symbol ↔ p.text = "v" ∧ role = .deallocate ∧ r.symbol = "vfree" := by
  constructor
  · intro taken
    obtain ⟨ends, front⟩ := (name_eq_iff p role r.symbol).1 taken
    rcases stem_cases r listed role (mem_all role) ends with empty | ⟨rfl, symbol⟩
    · exact absurd (front.trans empty) p.isIdentifier.nonempty
    · rw [symbol] at front
      exact ⟨String.toList_inj.1 front, rfl, symbol⟩
  · rintro ⟨text, rfl, symbol⟩
    rw [name, text, symbol]
    rfl

/-- The names under an accepted prefix are apart from the symbols that the layer takes
over, and in particular from those that it exports. The only exception is the name for
deallocation under the prefix `v`. -/
theorem ofString_names_apart (accepted : ofString text = .ok p) (role : PrimitiveRole) :
    (∀ r ∈ Redirection.table,
      p.name role = r.symbol ↔ text = "v" ∧ role = .deallocate ∧ r.symbol = "vfree") ∧
      (p.name role ∈ Redirection.exported ↔ text = "v" ∧ role = .deallocate) := by
  obtain rfl := text_of_ofString accepted
  refine ⟨fun r listed => p.name_eq_symbol_iff role listed, ?_⟩
  obtain ⟨exported, -⟩ := Redirection.exported_interposed_complete
  rw [← exported]
  constructor
  · intro taken
    obtain ⟨r, live, symbol⟩ := List.mem_map.1 taken
    obtain ⟨listed, -⟩ := List.mem_filter.1 live
    obtain ⟨text, deallocate, -⟩ := (p.name_eq_symbol_iff role listed).1 symbol.symm
    exact ⟨text, deallocate⟩
  · rintro ⟨text, rfl⟩
    rw [name, text]
    decide +kernel

/-- The prefix of one letter that takes a name of the layer. -/
def single : ExportPrefix where
  text := "v"
  isIdentifier := by
    refine ⟨by decide, ?_, List.all_eq_true.1 (by decide)⟩
    rintro c ⟨⟩
    decide

theorem ofString_names_apart_single : ofString single.text = .ok single ∧ ∀ role,
    (∀ r ∈ Redirection.table, single.name role = r.symbol ↔
      single.text = "v" ∧ role = .deallocate ∧ r.symbol = "vfree") ∧
      (single.name role ∈ Redirection.exported ↔ single.text = "v" ∧ role = .deallocate) := by
  have accepted : ofString single.text = .ok single := single.ofString_text
  exact ⟨accepted, fun role => ofString_names_apart accepted role⟩

/-- Not every accepted prefix keeps the names apart. -/
theorem names_apart_false :
    ¬ ∀ text p, ofString text = .ok p → ∀ role, ∀ r ∈ Redirection.table,
      p.name role ≠ r.symbol := by
  intro apart
  have listed : ⟨"vfree", .free, .any⟩ ∈ Redirection.table := by decide +kernel
  exact apart "v" single single.ofString_text .deallocate _ listed rfl

end ExportPrefix

end MallocLayer

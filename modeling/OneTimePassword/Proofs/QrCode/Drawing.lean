/-
Module: OneTimePassword.Proofs.QrCode.Drawing
Purpose: Which matrices can be drawn.
Main exports: QrCode.halfBlockText?_eq_none_iff, QrCode.draw_eq_error_iff
-/
import OneTimePassword.QrCode.Drawing

namespace OneTimePassword.QrCode

variable {α β : Type}

/-- A list is gone through to its end unless one of its members stops it. -/
theorem mapM_eq_none_iff {f : α → Option β} {l : List α} :
    l.mapM f = none ↔ ∃ a ∈ l, f a = none := by
  induction l with
  | nil => simp
  | cons a rest ih =>
      rw [List.mapM_cons]
      cases ha : f a with
      | none => simp [ha]
      | some b =>
          cases hrest : rest.mapM f with
          | none => simpa [ha, hrest] using ih
          | some values => simpa [ha, hrest] using ih

theorem halfBlockCells?_eq_none_iff {width : Nat} {upper : List Bool} {lower? : Option (List Bool)} :
    halfBlockCells? width upper lower? = none ↔
      upper.length < width ∨ ∃ lower, lower? = some lower ∧ lower.length < width := by
  rw [halfBlockCells?, mapM_eq_none_iff]
  cases lower? with
  | none =>
      simp only [List.mem_range, reduceCtorEq, false_and, exists_false, or_false]
      constructor
      · rintro ⟨column, hcolumn, hnone⟩
        cases htop : upper[column]? with
        | none =>
            have := List.getElem?_eq_none_iff.mp htop
            omega
        | some top => simp [htop] at hnone
      · intro hshort
        exact ⟨upper.length, hshort, by simp⟩
  | some lower =>
      simp only [List.mem_range, Option.some.injEq, exists_eq_left']
      constructor
      · rintro ⟨column, hcolumn, hnone⟩
        cases htop : upper[column]? with
        | none =>
            have := List.getElem?_eq_none_iff.mp htop
            omega
        | some top =>
            cases hbottom : lower[column]? with
            | none =>
                have := List.getElem?_eq_none_iff.mp hbottom
                omega
            | some bottom => simp [htop, hbottom] at hnone
      · rintro (hshort | hshort)
        · exact ⟨upper.length, hshort, by simp⟩
        · refine ⟨lower.length, hshort, ?_⟩
          cases upper[lower.length]? <;> simp

/-- The rows of a matrix are those of its pairs. -/
theorem mem_rowPairs_iff {matrix : Matrix} {row : List Bool} :
    row ∈ matrix ↔ ∃ pair ∈ rowPairs matrix, row = pair.1 ∨ pair.2 = some row := by
  fun_induction rowPairs matrix with
  | case1 => simp
  | case2 only => simp
  | case3 upper lower rest ih => simp [ih, eq_comm, or_assoc]

/-- Half blocks are drawn unless a row is too short. -/
theorem halfBlockText?_eq_none_iff (tint : Tint) (matrix : Matrix) :
    halfBlockText? tint matrix = none ↔ ∃ row ∈ matrix, row.length < matrix.length := by
  have hrows : halfBlockText? tint matrix = none ↔
      ∃ pair ∈ rowPairs matrix, halfBlockCells? matrix.length pair.1 pair.2 = none := by
    rw [halfBlockText?, Option.bind_eq_bind, Option.bind_eq_none_iff]
    simp only [Option.pure_def, reduceCtorEq, imp_false, ← Option.eq_none_iff_forall_ne_some]
    rw [mapM_eq_none_iff]
    simp [← Option.eq_none_iff_forall_ne_some]
  rw [hrows]
  simp only [halfBlockCells?_eq_none_iff, mem_rowPairs_iff]
  constructor
  · rintro ⟨pair, hpair, hshort | ⟨lower, hlower, hshort⟩⟩
    · exact ⟨pair.1, ⟨pair, hpair, .inl rfl⟩, hshort⟩
    · exact ⟨lower, ⟨pair, hpair, .inr hlower⟩, hshort⟩
  · rintro ⟨row, ⟨pair, hpair, rfl | hlower⟩, hshort⟩
    · exact ⟨pair, hpair, .inl hshort⟩
    · exact ⟨pair, hpair, .inr ⟨row, hlower, hshort⟩⟩

/-- A drawing fails only where half blocks are asked for and a row is too short. -/
theorem draw_eq_error_iff {style : Style} {matrix : Matrix} {e : DrawingError} :
    draw style matrix = .error e ↔
      style.glyphs = .utf8 ∧ ∃ row ∈ matrix, row.length < matrix.length := by
  rw [← halfBlockText?_eq_none_iff style.tint, draw]
  cases style.glyphs with
  | ansi => simp
  | utf8 =>
      cases e
      cases halfBlockText? style.tint matrix with
      | none => simp
      | some text => simp

end OneTimePassword.QrCode

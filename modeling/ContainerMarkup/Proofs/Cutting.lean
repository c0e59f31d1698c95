/-
ContainerMarkup/Proofs/Cutting.lean

Cutting a text at a separator.  The first piece ends at the first separator
(`cut_append`), and without one the text is its only piece
(`cut_of_not_mem`).  The pieces are those of the library's `List.splitOn`
(`cut_eq_splitOn`), and hold everything but the separators
(`flatten_cutFrom`, `mem_of_mem_cut`).
-/
import ContainerMarkup.Text.Cut

namespace ContainerMarkup

variable {sep : Char} {piece t : List Char}

theorem cutFrom_done (current : List Char) (done : List (List Char)) :
    Text.cutFrom sep current done t = done.reverse ++ Text.cutFrom sep current [] t := by
  induction t generalizing current done with
  | nil => simp [Text.cutFrom]
  | cons c rest ih =>
    rw [Text.cutFrom, Text.cutFrom]
    split
    · rw [ih, ih [] [current.reverse]]
      simp
    · rw [ih]

theorem cutFrom_append (h : sep ∉ piece) (current : List Char) :
    Text.cutFrom sep current [] (piece ++ t) =
      Text.cutFrom sep (piece.reverse ++ current) [] t := by
  induction piece generalizing current with
  | nil => rfl
  | cons c piece ih =>
    have hc : c ≠ sep := fun e => h (e ▸ List.mem_cons_self)
    have hpiece : sep ∉ piece := fun hmem => h (List.mem_cons_of_mem c hmem)
    rw [List.cons_append, Text.cutFrom, if_neg (by simpa using hc), ih hpiece]
    simp

/-- A text without the separator is its only piece. -/
theorem cut_of_not_mem (h : sep ∉ piece) : Text.cut sep piece = [piece] := by
  have happend := cutFrom_append (t := []) h []
  rw [List.append_nil] at happend
  rw [Text.cut, happend]
  simp [Text.cutFrom]

/-- The first piece ends at the first separator. -/
theorem cut_append (h : sep ∉ piece) :
    Text.cut sep (piece ++ sep :: t) = piece :: Text.cut sep t := by
  rw [Text.cut, cutFrom_append h, Text.cutFrom, if_pos (by simp), cutFrom_done]
  simp [Text.cut]

theorem cutFrom_eq_splitOn (current t : List Char) :
    Text.cutFrom sep current [] t = (t.splitOn sep).modifyHead (current.reverse ++ ·) := by
  induction t generalizing current with
  | nil => simp [Text.cutFrom]
  | cons c rest ih =>
    rw [Text.cutFrom, List.splitOn_cons_eq_if_modifyHead]
    split
    · -- the pieces behind the separator start afresh
      have hrest : Text.cutFrom sep [] [] rest = rest.splitOn sep := by
        rw [ih []]
        exact congrFun List.modifyHead_id _
      rw [cutFrom_done, hrest]
      simp
    · rw [ih, List.modifyHead_modifyHead]
      congr 1
      funext piece
      simp

/-- The pieces of a text are those between the separators. -/
theorem cut_eq_splitOn (sep : Char) (t : List Char) : Text.cut sep t = t.splitOn sep := by
  rw [Text.cut, cutFrom_eq_splitOn]
  exact congrFun List.modifyHead_id _

/-- Cutting leaves out the separators and nothing else. -/
theorem flatten_cutFrom (sep : Char) (current : List Char) (done : List (List Char))
    (t : List Char) :
    (Text.cutFrom sep current done t).flatten =
      done.reverse.flatten ++ current.reverse ++ t.filter (· != sep) := by
  induction t generalizing current done with
  | nil => simp [Text.cutFrom]
  | cons c rest ih =>
    rw [Text.cutFrom, List.filter_cons]
    rcases hc : c == sep with - | -
    · simp [ih, bne, hc]
    · simp [ih, bne, hc]

/-- The characters of a piece are characters of the text, and none is the
separator. -/
theorem mem_of_mem_cut {sep c : Char} {t piece : List Char} (hpiece : piece ∈ Text.cut sep t)
    (hc : c ∈ piece) : c ∈ t ∧ c ≠ sep := by
  have hmem : c ∈ (Text.cut sep t).flatten := List.mem_flatten.2 ⟨piece, hpiece, hc⟩
  rw [Text.cut, flatten_cutFrom] at hmem
  simpa using hmem

end ContainerMarkup

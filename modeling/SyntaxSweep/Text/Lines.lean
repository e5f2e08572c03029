namespace SyntaxSweep

variable {α : Type}

def joined (separator : α) : List (List α) → List α
  | [] => []
  | [p] => p
  | p :: ps => p ++ separator :: joined separator ps

theorem joined_cons_cons (s a : α) (p : List α) (ps : List (List α)) :
    joined s ((a :: p) :: ps) = a :: joined s (p :: ps) := by
  cases ps <;> simp [joined]

variable [DecidableEq α]

/-- The pieces between the separators, one more than there are separators. -/
def pieces (separator : α) : List α → List (List α)
  | [] => [[]]
  | a :: rest =>
    if a = separator then [] :: pieces separator rest
    else
      match pieces separator rest with
      | [] => [[a]]
      | p :: ps => (a :: p) :: ps

theorem pieces_ne_nil (s : α) (l : List α) : pieces s l ≠ [] := by
  induction l with
  | nil => simp [pieces]
  | cons a rest ih =>
    unfold pieces
    split
    · simp
    · split <;> simp

theorem joined_pieces (s : α) (l : List α) : joined s (pieces s l) = l := by
  induction l with
  | nil => simp [pieces, joined]
  | cons a rest ih =>
    obtain ⟨p, ps, h⟩ := List.exists_cons_of_ne_nil (pieces_ne_nil s rest)
    rw [h] at ih
    unfold pieces
    split
    · next ha => subst ha; simp [h, joined, ih]
    · simp [h, joined_cons_cons, ih]

theorem not_mem_of_mem_pieces {s : α} {l p : List α} (hp : p ∈ pieces s l) : s ∉ p := by
  induction l generalizing p with
  | nil => simp_all [pieces]
  | cons a rest ih =>
    obtain ⟨q, qs, h⟩ := List.exists_cons_of_ne_nil (pieces_ne_nil s rest)
    rw [pieces, h] at hp
    split at hp
    · rcases List.mem_cons.1 hp with rfl | hp
      · simp
      · exact ih (h ▸ hp)
    · next ha =>
      rcases List.mem_cons.1 hp with rfl | hp
      · have := ih (h ▸ List.mem_cons_self : q ∈ pieces s rest)
        simp [this, Ne.symm ha]
      · exact ih (h ▸ List.mem_cons_of_mem _ hp)

def withoutReturn (line : List Char) : List Char :=
  if line.getLast? = some '\r' then line.dropLast else line

/-- The lines of a text. A line feed ends a line, with the carriage return before it; text after the
last line feed is a line as it stands, unless it is empty. -/
def lines (text : List Char) : List (List Char) :=
  let all := pieces '\n' text
  let last := (all.getLast?.toList).filter (· ≠ [])
  all.dropLast.map withoutReturn ++ last

end SyntaxSweep

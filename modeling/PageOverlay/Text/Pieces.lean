/-!
# Cutting and joining texts

Texts cut at every occurrence of a separator, and the inverse.
-/

set_option autoImplicit false

namespace PageOverlay.Text

def piecesBy (p : Char → Bool) : List Char → List (List Char)
  | [] => [[]]
  | c :: cs =>
    if p c then [] :: piecesBy p cs
    else match piecesBy p cs with
      | [] => [[c]]
      | w :: ws => (c :: w) :: ws

def pieces (sep : Char) : List Char → List (List Char) := piecesBy (· == sep)

def joinWith (sep : List Char) : List (List Char) → List Char
  | [] => []
  | [w] => w
  | w :: ws => w ++ sep ++ joinWith sep ws

theorem piecesBy_ne_nil (p : Char → Bool) (cs : List Char) : piecesBy p cs ≠ [] := by
  cases cs with
  | nil => simp [piecesBy]
  | cons c cs =>
    rw [piecesBy]
    split
    · simp
    · split <;> simp

theorem joinWith_cons (sep w : List Char) {ws : List (List Char)} (h : ws ≠ []) :
    joinWith sep (w :: ws) = w ++ sep ++ joinWith sep ws := by
  cases ws with
  | nil => exact absurd rfl h
  | cons => rfl

theorem joinWith_pieces (sep : Char) (cs : List Char) : joinWith [sep] (pieces sep cs) = cs := by
  unfold pieces
  induction cs with
  | nil => rfl
  | cons c cs ih =>
    have hne := piecesBy_ne_nil (· == sep) cs
    rw [piecesBy]
    split
    · next h => rw [joinWith_cons _ _ hne, ih]; simp [eq_of_beq h]
    · match hp : piecesBy (· == sep) cs, hne with
      | [w], _ => rw [hp] at ih; simpa [joinWith] using ih
      | w :: v :: vs, _ => rw [hp] at ih; simpa [joinWith] using ih

end PageOverlay.Text

import PageOverlay.Change.Undo

/-!
# Outcomes of changes

What a change gives and the world that it leaves, for the steps from which all changes are made.
A change that fails stops there, and its world is the one that it had reached.
-/

set_option autoImplicit false

namespace PageOverlay.Change

section state

variable {ε σ α β : Type}

def continueWith (f : α → ExceptT ε (StateM σ) β) : Except ε α × σ → Except ε β × σ
  | (.ok a, s) => (f a).run s
  | (.error e, s) => (.error e, s)

theorem run_bind (x : ExceptT ε (StateM σ) α) (f : α → ExceptT ε (StateM σ) β) (s : σ) :
    (x >>= f).run s = continueWith f (x.run s) := by
  change (StateT.bind x.run fun r => ExceptT.bindCont f r) s = _
  change (bind (x.run s) fun (r, s') => ExceptT.bindCont f r s' : Id _) = _
  rcases x.run s with ⟨e | a, s'⟩ <;> rfl

@[simp] theorem continueWith_ok (f : α → ExceptT ε (StateM σ) β) (a : α) (s : σ) :
    continueWith f (.ok a, s) = (f a).run s := rfl

@[simp] theorem continueWith_error (f : α → ExceptT ε (StateM σ) β) (e : ε) (s : σ) :
    continueWith f (.error e, s) = (.error e, s) := rfl

end state

variable {α : Type}

@[simp] theorem run_pure (a : α) (w : World) : (pure a : Change α).run w = (.ok a, w) := rfl

@[simp] theorem run_page (w : World) : page.run w = (.ok w.page, w) := rfl

theorem run_page_bind (f : Page → Change α) (w : World) :
    (page >>= f).run w = (f w.page).run w := by
  rw [run_bind, run_page, continueWith_ok]

@[simp] theorem run_ofExcept_ok (a : α) (w : World) :
    (ofExcept (.ok a)).run w = (.ok a, w) := rfl

variable {n : NodeId} {path value : String} {w : World}

theorem run_setProperty :
    (setProperty n path value).run w =
      match w.page.setProperty n path value with
      | .ok p => (.ok (), { w with page := p })
      | .error e => (.error e, w) := by
  rw [setProperty, run_page_bind, run_bind]
  cases w.page.setProperty n path value <;> rfl

theorem run_remove :
    (remove n).run w =
      match w.page.remove n with
      | .ok p => (.ok (), { w with page := p })
      | .error e => (.error e, w) := by
  rw [remove, run_page_bind, run_bind]
  cases w.page.remove n <;> rfl

theorem run_insert (tag : String) (fields : Fields String) :
    (insert n tag fields).run w =
      match w.page.appendElement n tag fields with
      | .ok (made, p) => (.ok (.insertion made), { w with page := p })
      | .error e => (.error e, w) := by
  rw [insert, run_page_bind, run_bind]
  cases w.page.appendElement n tag fields <;> rfl

theorem run_record_of_eq (h : (w.page.property? n path).getD "" = value) :
    (record n path value).run w = (.ok none, w) := by
  rw [record, run_page_bind, if_pos h, run_pure]

theorem run_record_of_ne (h : (w.page.property? n path).getD "" ≠ value) :
    (record n path value).run w =
      match w.page.setProperty n path value with
      | .ok p =>
        (.ok (some (.property n path ((w.page.property? n path).getD "") value)),
          { w with page := p })
      | .error e => (.error e, w) := by
  rw [record, run_page_bind, if_neg h, run_bind, run_setProperty]
  cases w.page.setProperty n path value <;> rfl

theorem run_record_of_set {p : Page} (hne : (w.page.property? n path).getD "" ≠ value)
    (h : w.page.setProperty n path value = .ok p) :
    (record n path value).run w =
      (.ok (some (.property n path ((w.page.property? n path).getD "") value)),
        { w with page := p }) := by
  rw [run_record_of_ne hne, h]

theorem run_revert_property (before after : String) :
    (Undo.property n path before after).revert.run w =
      if w.page.property? n path = some after then (setProperty n path before).run w
      else (.ok (), w) := by
  rw [Undo.revert, run_page_bind]
  split <;> rfl

theorem run_revert_insertion :
    (Undo.insertion n).revert.run w =
      if (w.page.live? n).isSome then (remove n).run w else (.ok (), w) := by
  rw [Undo.revert, run_page_bind]
  cases w.page.live? n <;> rfl

section alike

variable {β γ δ : Type}

inductive SameEnd (world : World → World → Prop) (view : α → β) :
    Except MutationError α × World → Except MutationError α × World → Prop
  | ok {a b : α} {w v : World} (ha : view a = view b) (hw : world w v) :
      SameEnd world view (.ok a, w) (.ok b, v)
  | error (e : MutationError) {w v : World} (hw : world w v) :
      SameEnd world view (.error e, w) (.error e, v)

theorem SameEnd.worlds {world : World → World → Prop} {view : α → β}
    {o o' : Except MutationError α × World} (h : SameEnd world view o o') : world o.2 o'.2 := by
  cases h with
  | ok _ hw => exact hw
  | error _ hw => exact hw

/-- In worlds that are alike the two computations come to ends that are alike. -/
def Matches (world : World → World → Prop) (view : α → β) (x y : Change α) : Prop :=
  ∀ w v, world w v → SameEnd world view (x.run w) (y.run v)

variable {world : World → World → Prop} {view : α → β} {view' : γ → δ}

theorem Matches.pure {a b : α} (h : view a = view b) :
    Matches world view (Pure.pure a) (Pure.pure b) := fun _ _ hw => .ok h hw

theorem Matches.bind {x y : Change α} {f g : α → Change γ} (hx : Matches world view x y)
    (hf : ∀ a b, view a = view b → Matches world view' (f a) (g b)) :
    Matches world view' (x >>= f) (y >>= g) := by
  intro w v h
  have hend := hx w v h
  rw [run_bind, run_bind]
  revert hend
  generalize x.run w = o, y.run v = o'
  intro hend
  cases hend with
  | ok ha hw => exact hf _ _ ha _ _ hw
  | error e hw => exact .error e hw

end alike

end PageOverlay.Change

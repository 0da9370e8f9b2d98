import PageOverlay.Proofs.Change.Outcome
import PageOverlay.Proofs.Page.Loading

/-!
# Recorded changes

A computation that tells its changes answers a record of each, in the order in which they were
made, and made no others. An error keeps the answer back: the world that it leaves still comes from
recorded changes, but nobody is told of them.
-/

set_option autoImplicit false

namespace PageOverlay

/-- A change, the record of it, and the world after it. -/
inductive Edit : World → Undo → World → Prop
  | property {w : World} {n : NodeId} {path value : String} {p : Page}
      (hne : (w.page.property? n path).getD "" ≠ value)
      (h : w.page.setProperty n path value = .ok p) :
      Edit w (.property n path ((w.page.property? n path).getD "") value) { w with page := p }
  | insertion {w : World} {up n : NodeId} {tag : String} {fields : Fields String} {p : Page}
      (h : w.page.appendElement up tag fields = .ok (n, p)) :
      Edit w (.insertion n) { w with page := p }
  | request (w : World) (rule : RequestRule) :
      Edit w (.requestRule (w.requests.add rule).1)
        { w with requests := (w.requests.add rule).2 }
  | response (w : World) (rule : ResponseRule) :
      Edit w (.responseRule (w.responses.add rule).1)
        { w with responses := (w.responses.add rule).2 }

inductive Edits : World → List Undo → World → Prop
  | nil (w : World) : Edits w [] w
  | cons {w w' w'' : World} {u : Undo} {us : List Undo} (h : Edit w u w') (hs : Edits w' us w'') :
      Edits w (u :: us) w''

variable {w w' w'' : World} {u : Undo} {us vs done : List Undo}

theorem Edits.append (h : Edits w us w') (g : Edits w' vs w'') : Edits w (us ++ vs) w'' := by
  induction h with
  | nil => exact g
  | cons h _ ih => exact .cons h (ih g)

theorem Edits.snoc (h : Edits w us w') (g : Edit w' u w'') : Edits w (us ++ [u]) w'' :=
  h.append (.cons g (.nil w''))

theorem Edit.reachable (h : Edit w u w') (hp : w.page.Reachable) : w'.page.Reachable := by
  cases h with
  | property _ h => exact .setProperty hp h
  | insertion h => exact .appendElement hp h
  | request rule => exact hp
  | response rule => exact hp

theorem Edits.reachable (h : Edits w us w') (hp : w.page.Reachable) : w'.page.Reachable := by
  induction h with
  | nil => exact hp
  | cons h _ ih => exact ih (h.reachable hp)

/-- After the changes `done`, the computation makes changes such that `told` names them all. -/
def Tells {α : Type} (done : List Undo) (x : Change α) (told : α → List Undo) : Prop :=
  ∀ w w', Edits w done w' →
    match x.run w' with
    | (.ok a, w'') => Edits w (told a) w''
    | (.error _, w'') => ∃ us, Edits w us w''

namespace Tells

variable {α β : Type} {x : Change α} {f : α → Change β} {mid : α → List Undo}
  {told : β → List Undo}

theorem pure {b : β} (h : told b = done) : Tells done (Pure.pure b) told := by
  intro w w' hw
  subst h
  exact hw

theorem bind (hx : Tells done x mid) (hf : ∀ a, Tells (mid a) (f a) told) :
    Tells done (x >>= f) told := by
  intro w w' hw
  have h := hx w w' hw
  rw [Change.run_bind]
  rcases hr : x.run w' with ⟨e | a, w''⟩
  · rw [hr] at h
    exact h
  · rw [hr] at h
    exact hf a w w'' h

theorem page {f : Page → Change β} (hf : ∀ p, Tells done (f p) told) :
    Tells done (Change.page >>= f) told := by
  intro w w' hw
  rw [Change.run_page_bind]
  exact hf w'.page w w' hw

theorem ofExcept (r : Except MutationError α) : Tells done (Change.ofExcept r) fun _ => done := by
  intro w w' hw
  cases r with
  | ok a => exact hw
  | error e => exact ⟨done, hw⟩

theorem after {done : List Undo} (hx : Tells [] x mid) : Tells done x fun a => done ++ mid a := by
  intro w w' hw
  have h := hx w' w' (.nil w')
  rcases hr : x.run w' with ⟨e | a, w''⟩
  · rw [hr] at h
    obtain ⟨us, hus⟩ := h
    exact ⟨done ++ us, hw.append hus⟩
  · rw [hr] at h
    exact hw.append h

theorem edits {a : α} (hx : Tells [] x mid) (h : x.run w = (.ok a, w')) : Edits w (mid a) w' := by
  have hw := hx w w (.nil w)
  rwa [h] at hw

theorem edits_error {e : MutationError} (hx : Tells [] x mid) (h : x.run w = (.error e, w')) :
    ∃ us, Edits w us w' := by
  have hw := hx w w (.nil w)
  rwa [h] at hw

theorem record (n : NodeId) (path value : String) :
    Tells [] (Change.record n path value) Option.toList := by
  intro w w' hw
  by_cases heq : (w'.page.property? n path).getD "" = value
  · rw [Change.run_record_of_eq heq]
    exact hw
  · rw [Change.run_record_of_ne heq]
    cases hp : w'.page.setProperty n path value with
    | ok p => exact hw.snoc (.property heq hp)
    | error e => exact ⟨[], hw⟩

theorem recordAll (path value : String) (ns : List NodeId) :
    Tells [] (Change.recordAll path value ns) id := by
  induction ns with
  | nil => exact pure rfl
  | cons n ns ih =>
    refine bind (record n path value) fun first => ?_
    exact bind ih.after fun others => pure rfl

theorem insert (up : NodeId) (tag : String) (fields : Fields String) :
    Tells [] (Change.insert up tag fields) fun u => [u] := by
  intro w w' hw
  rw [Change.run_insert]
  cases hp : w'.page.appendElement up tag fields with
  | ok r => exact hw.snoc (.insertion hp)
  | error e => exact ⟨[], hw⟩

theorem addRequest (rule : RequestRule) : Tells [] (Change.addRequest rule) fun u => [u] :=
  fun _ w' hw => hw.snoc (.request w' rule)

theorem addResponse (rule : ResponseRule) : Tells [] (Change.addResponse rule) fun u => [u] :=
  fun _ w' hw => hw.snoc (.response w' rule)

end Tells
end PageOverlay

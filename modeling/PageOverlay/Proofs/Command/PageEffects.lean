import PageOverlay.Configuration.Commands
import PageOverlay.Proofs.Change.Outcome
import PageOverlay.Run.Labels

/-!
# Commands mind the page

What commands do to a page, whether they fail and what they tell depends on the page alone, and not
on the rules that are in the books. Only the numbers of new rules depend on the books.
-/

set_option autoImplicit false

namespace PageOverlay

def World.withBooksOf (w v : World) : World :=
  { w with requests := v.requests, responses := v.responses }

theorem World.withBooksOf_of_page {w v : World} (h : w.page = v.page) : w.withBooksOf v = v := by
  rw [withBooksOf, h]

/-- A computation that does the same with any rule books, and leaves them alone. -/
def KeepsBooks {α : Type} (x : Change α) : Prop :=
  ∀ w v, x.run (w.withBooksOf v) = ((x.run w).1, (x.run w).2.withBooksOf v)

namespace KeepsBooks

variable {α β : Type} {x : Change α}

theorem pure (a : α) : KeepsBooks (Pure.pure a : Change α) := fun _ _ => rfl

theorem bind {f : α → Change β} (hx : KeepsBooks x) (hf : ∀ a, KeepsBooks (f a)) :
    KeepsBooks (x >>= f) := by
  intro w v
  rw [Change.run_bind, Change.run_bind, hx w v]
  rcases x.run w with ⟨e | a, w'⟩
  · rfl
  · exact hf a w' v

theorem page {f : Page → Change β} (hf : ∀ p, KeepsBooks (f p)) :
    KeepsBooks (Change.page >>= f) := fun w v => hf w.page w v

theorem setPage (p : Page) : KeepsBooks (Change.setPage p) := fun _ _ => rfl

theorem ofExcept (r : Except MutationError α) : KeepsBooks (Change.ofExcept r) := by
  intro w v
  cases r <;> rfl

theorem when {b : Bool} {y : Change α} (hx : KeepsBooks x) (hy : KeepsBooks y) :
    KeepsBooks (if b then x else y) := by
  cases b with
  | true => exact hx
  | false => exact hy

theorem record (n : NodeId) (path value : String) : KeepsBooks (Change.record n path value) := by
  refine .page fun p => ?_
  dsimp only
  split
  · exact .pure none
  · refine .bind (.page fun p => ?_) fun _ => .pure _
    exact .bind (.ofExcept _) fun q => .setPage q

theorem recordAll (path value : String) (ns : List NodeId) :
    KeepsBooks (Change.recordAll path value ns) := by
  induction ns with
  | nil => exact .pure []
  | cons n ns ih => exact .bind (.record n path value) fun _ => .bind ih fun _ => .pure _

theorem insert (up : NodeId) (tag : String) (fields : Fields String) :
    KeepsBooks (Change.insert up tag fields) :=
  .page fun _ => .bind (.ofExcept _) fun _ => .bind (.setPage _) fun _ => .pure _

end KeepsBooks

namespace Action

theorem keepsBooks_applyReplace (search : Pattern) (replacement : String) (attr : Option String)
    (n : NodeId) (path : String) : KeepsBooks (applyReplace search replacement attr n path) := by
  refine .page fun p => ?_
  dsimp only
  split
  · exact .pure none
  · split
    · exact .pure none
    · exact .when (.bind (.record _ _ _) fun _ => .pure _) (.pure none)

theorem keepsBooks_applyNode (a : Action) (n : NodeId) (path : String) :
    KeepsBooks (a.applyNode n path) := by
  have hrecord : ∀ n path value, KeepsBooks (do
      pure (single (← Change.record n path value)) : Change Applied) :=
    fun _ _ _ => .bind (.record _ _ _) fun _ => .pure _
  have hall : ∀ path value ns, KeepsBooks (do
      pure (several (← Change.recordAll path value ns)) : Change Applied) :=
    fun _ _ _ => .bind (.recordAll _ _ _) fun _ => .pure _
  have hinsert : ∀ up tag fields, KeepsBooks (do
      pure (some [← Change.insert up tag fields]) : Change Applied) :=
    fun _ _ _ => .bind (.insert _ _ _) fun _ => .pure _
  have hnone : KeepsBooks (pure none : Change Applied) := .pure none
  refine .page fun p => ?_
  cases a with
  | replace search replacement location within attr =>
    exact .when (keepsBooks_applyReplace _ _ _ _ _) hnone
  | protect word location within => exact .when (keepsBooks_applyReplace _ _ _ _ _) hnone
  | replaceNeighbor search replacement level neighbor location within =>
    refine .when ?_ hnone
    split
    · exact hnone
    · refine .when ?_ hnone
      split
      · exact hrecord _ _ _
      · exact hnone
  | hide search level upTo location hash =>
    refine .when ?_ hnone
    split
    · exact hrecord _ _ _
    · exact hnone
  | style search property level value =>
    refine .when ?_ hnone
    split
    · exact hrecord _ _ _
    · exact hnone
  | insert place search html level within =>
    refine .when ?_ hnone
    split
    · exact hnone
    · exact .when (hinsert _ _ _) hnone
  | replaceImage searches replacement => exact .when (hrecord _ _ _) hnone
  | recolorImage search color => exact .when (hrecord _ _ _) hnone
  | stage location title name => exact .when (hrecord _ _ _) hnone
  | querySelector selector property value => exact hall _ _ _
  | overwrite location selector html => exact .when (hall _ _ _) hnone
  | addScript src script => exact .when hnone (hinsert _ _ _)
  | request rule => exact hnone
  | response rule => exact hnone

end Action

namespace Labels

theorem keepsBooks_transform {β : Type} {t : Transformer} {text : List Char}
    {f : List Char → Change β} (hf : ∀ full, KeepsBooks (f full)) :
    KeepsBooks (t.transform text >>= f) :=
  .bind (.page fun _ => .bind (.ofExcept _) fun _ => .pure _) hf

theorem keepsBooks_forAll {α : Type} {step : α → Change (List Undo)}
    (h : ∀ a, KeepsBooks (step a)) (as : List α) : KeepsBooks (forAll step as) := by
  induction as with
  | nil => exact .pure []
  | cons a as ih => exact .bind (h a) fun _ => .bind ih fun _ => .pure _

theorem keepsBooks_write (n : NodeId) (path : String) (text : List Char) :
    KeepsBooks (write n path text) := .bind (.record n path _) fun _ => .pure _

theorem keepsBooks_flowMaps (t : Transformer) : KeepsBooks (flowMaps t) := by
  refine .page fun p => keepsBooks_forAll (fun title => .page fun p => ?_) _
  split
  · exact .pure []
  · refine keepsBooks_transform fun full => keepsBooks_forAll (fun label => .page fun p => ?_) _
    exact .when (keepsBooks_write _ _ _) (.pure [])

theorem keepsBooks_splitLines (t : Transformer) : KeepsBooks (splitLines t) := by
  refine .page fun p => keepsBooks_forAll (fun title => .page fun p => ?_) _
  split
  · exact .pure []
  · dsimp only
    split
    · exact .pure []
    · exact keepsBooks_transform fun full =>
        keepsBooks_forAll (fun line => keepsBooks_write _ _ _) _

theorem keepsBooks_truncatedTitles (t : Transformer) : KeepsBooks (truncatedTitles t) := by
  refine .page fun p => keepsBooks_forAll (fun title => .page fun p => ?_) _
  split
  · exact .pure []
  · split
    · exact .pure []
    · refine .when (keepsBooks_transform fun full => ?_) (.pure [])
      split
      · exact keepsBooks_write _ _ _
      · exact .pure []

theorem keepsBooks_namedSpans (t : Transformer) : KeepsBooks (namedSpans t) :=
  .page fun _ => keepsBooks_forAll (fun _ => .page fun _ =>
    keepsBooks_transform fun _ => keepsBooks_write _ _ _) _

theorem keepsBooks_journeys (t : Transformer) : KeepsBooks (journeys t) := by
  refine .page fun p => keepsBooks_forAll (fun n => .page fun p => ?_) _
  refine keepsBooks_transform fun full => ?_
  split
  · exact .pure []
  · exact .bind (keepsBooks_write _ _ _) fun _ => .bind (keepsBooks_write _ _ _) fun _ => .pure _

theorem keepsBooks_normalize (t : Transformer) : KeepsBooks (normalize t) := by
  have hnone : KeepsBooks (pure [] : Change (List Undo)) := .pure []
  have hcons : ∀ {x y : Change (List Undo)}, KeepsBooks x → KeepsBooks y → KeepsBooks (do
      let first ← x
      let others ← y
      pure (first ++ others)) := fun hx hy => .bind hx fun _ => .bind hy fun _ => .pure _
  exact hcons (keepsBooks_flowMaps t) (hcons (keepsBooks_splitLines t)
    (hcons (keepsBooks_truncatedTitles t) (hcons (keepsBooks_namedSpans t)
      (hcons (keepsBooks_journeys t) hnone))))

end Labels

def Undo.anonymous : Undo → Undo
  | .requestRule _ => .requestRule 0
  | .responseRule _ => .responseRule 0
  | u => u

def samePage (w v : World) : Prop := w.page = v.page

namespace Change.Matches

variable {α β : Type} {view : α → β}

theorem of_keepsBooks {x : Change α} (hx : KeepsBooks x) (view : α → β) :
    Matches samePage view x x := by
  intro w v h
  rw [← World.withBooksOf_of_page h, hx w v]
  rcases x.run w with ⟨e | a, w'⟩
  · exact .error e rfl
  · exact .ok rfl rfl

theorem page {f g : Page → Change α} (hf : ∀ p, Matches samePage view (f p) (g p)) :
    Matches samePage view (Change.page >>= f) (Change.page >>= g) := by
  intro w v h
  have hend := hf w.page w v h
  rw [run_bind, run_bind, run_page, run_page]
  rwa [show w.page = v.page from h] at hend ⊢

end Change.Matches

open Change (Matches)

def Applied.anonymous (a : Applied) : Applied := a.map (List.map Undo.anonymous)

theorem Applied.eq_none {b : Applied} (h : anonymous none = anonymous b) : b = none := by
  simpa [anonymous, eq_comm] using h

theorem Applied.eq_some {us : List Undo} {b : Applied}
    (h : anonymous (some us) = anonymous b) :
    ∃ vs, b = some vs ∧ us.map Undo.anonymous = vs.map Undo.anonymous := by
  cases b with
  | none => simp [anonymous] at h
  | some vs => exact ⟨vs, rfl, by simpa [anonymous] using h⟩

namespace Action

theorem matches_apply (a : Action) (t : Target) :
    Matches samePage Applied.anonymous (a.apply t) (a.apply t) := by
  have hnone : Matches samePage Applied.anonymous (pure none) (pure none) := .pure rfl
  cases t with
  | node n path => exact .of_keepsBooks (keepsBooks_applyNode a n path) _
  | requests =>
    cases a with
    | request rule => exact fun _ _ h => .ok rfl h
    | _ => exact hnone
  | responses =>
    cases a with
    | response rule => exact fun _ _ h => .ok rfl h
    | _ => exact hnone

end Action

namespace Command

mutual

theorem matches_apply (t : Target) : ∀ c : Command,
    Matches samePage Applied.anonymous (apply t c) (apply t c)
  | .action a => by
    rw [apply]
    exact a.matches_apply t
  | .conditional location within inner => by
    rw [apply]
    refine .page fun p => ?_
    split
    · exact matches_apply t inner
    · exact .pure rfl
  | .group commands => by
    rw [apply]
    exact matches_applyAll t commands
  | .faulty _ => by
    rw [apply]
    exact .pure rfl

theorem matches_applyAll (t : Target) : ∀ cs : List Command,
    Matches samePage Applied.anonymous (applyAll t cs) (applyAll t cs)
  | [] => by
    rw [applyAll]
    exact .pure rfl
  | c :: cs => by
    rw [applyAll]
    refine .bind (matches_apply t c) fun a b hfirst => ?_
    refine .bind (matches_applyAll t cs) fun a' b' hothers => ?_
    cases a with
    | none =>
      obtain rfl := Applied.eq_none hfirst
      exact .pure hothers
    | some us =>
      obtain ⟨vs, rfl, hus⟩ := Applied.eq_some hfirst
      cases a' with
      | none =>
        obtain rfl := Applied.eq_none hothers
        exact .pure hfirst
      | some us' =>
        obtain ⟨vs', rfl, hus'⟩ := Applied.eq_some hothers
        exact .pure (by simp [Applied.anonymous, hus, hus'])

end

end Command

namespace Configuration

theorem matches_runCommands (g : TargetGroup) (t : Target) (commands : List Command) :
    Matches samePage (List.map Undo.anonymous) (runCommands g t commands)
      (runCommands g t commands) := by
  induction commands with
  | nil => exact .pure rfl
  | cons command rest ih =>
    rw [runCommands]
    split
    · refine .bind (command.matches_apply t) fun a b hfirst => .bind ih fun us vs hothers => ?_
      refine .pure ?_
      cases a with
      | none =>
        obtain rfl := Applied.eq_none hfirst
        simpa using hothers
      | some us' =>
        obtain ⟨vs', rfl, hus'⟩ := Applied.eq_some hfirst
        simp [hus', hothers]
    · exact ih

/-- What a configuration does to a page, and what it tells of that, depends on the page. -/
theorem matches_applyCommands (c : Configuration) (commands : List Command) (g : TargetGroup)
    (t : Target) : Matches samePage (List.map Undo.anonymous) (c.applyCommands commands g t)
      (c.applyCommands commands g t) := by
  refine .page fun p => ?_
  split
  · exact matches_runCommands g t commands
  · exact .pure rfl

end Configuration

theorem matches_revert {u v : Undo} (h : u.anonymous = v.anonymous) :
    Matches samePage id u.revert v.revert := by
  have hproperty : ∀ n path before after,
      KeepsBooks (Undo.property n path before after).revert := by
    refine fun n path before after => .page fun p => ?_
    split
    · exact .page fun p => .bind (.ofExcept _) fun q => .setPage q
    · exact .pure ()
  have hinsertion : ∀ n, KeepsBooks (Undo.insertion n).revert := by
    refine fun n => .page fun p => ?_
    split
    · exact .page fun p => .bind (.ofExcept _) fun q => .setPage q
    · exact .pure ()
  cases u with
  | property n path before after =>
    cases v <;> cases h
    exact .of_keepsBooks (hproperty n path before after) id
  | insertion n =>
    cases v <;> cases h
    exact .of_keepsBooks (hinsertion n) id
  | requestRule id =>
    cases v <;> cases h
    exact fun _ _ hw => .ok rfl hw
  | responseRule id =>
    cases v <;> cases h
    exact fun _ _ hw => .ok rfl hw

end PageOverlay

import PageOverlay.Configuration.Commands
import PageOverlay.Proofs.Change.Edits
import PageOverlay.Run.Labels

/-!
# Commands tell their changes

Every command, every configuration and the care for shortened labels answer a record of each change
that they made, so that no change is left without its record as long as no error comes up.
-/

set_option autoImplicit false

namespace PageOverlay

def undosOf (a : Applied) : List Undo := a.getD []

namespace Action

theorem tells_none : Tells [] (pure none : Change Applied) undosOf := .pure rfl

theorem tells_single {x : Change (Option Undo)} (hx : Tells [] x Option.toList) :
    Tells [] (x >>= fun u => pure (single u)) undosOf := by
  refine .bind hx fun u => .pure ?_
  cases u with
  | none => rfl
  | some u => rfl

theorem tells_several {x : Change (List Undo)} (hx : Tells [] x id) :
    Tells [] (x >>= fun us => pure (several us)) undosOf := by
  refine .bind hx fun us => .pure ?_
  cases us with
  | nil => rfl
  | cons u us => rfl

theorem tells_some {x : Change Undo} (hx : Tells [] x fun u => [u]) :
    Tells [] (x >>= fun u => pure (some [u])) undosOf :=
  .bind hx fun _ => .pure rfl

theorem tells_when {b : Bool} {x : Change Applied} (hx : Tells [] x undosOf) :
    Tells [] (if b then x else pure none) undosOf := by
  cases b with
  | true => exact hx
  | false => exact tells_none

theorem tells_applyReplace (search : Pattern) (replacement : String) (attr : Option String)
    (n : NodeId) (path : String) :
    Tells [] (applyReplace search replacement attr n path) undosOf := by
  refine .page fun p => ?_
  cases attr with
  | none =>
    dsimp only
    split
    · exact tells_none
    · exact tells_when (tells_single (.record _ _ _))
  | some name =>
    cases p.elementOf n with
    | none => exact tells_none
    | some e =>
      dsimp only [Option.map_some]
      split
      · exact tells_none
      · exact tells_when (tells_single (.record _ _ _))

theorem tells_applyNode (a : Action) (n : NodeId) (path : String) :
    Tells [] (a.applyNode n path) undosOf := by
  refine .page fun p => ?_
  cases a with
  | replace search replacement location within attr =>
    exact tells_when (tells_applyReplace _ _ _ _ _)
  | protect word location within => exact tells_when (tells_applyReplace _ _ _ _ _)
  | replaceNeighbor search replacement level neighbor location within =>
    refine tells_when ?_
    split
    · exact tells_none
    · refine tells_when ?_
      split
      · exact tells_single (.record _ _ _)
      · exact tells_none
  | hide search level upTo location hash =>
    refine tells_when ?_
    split
    · exact tells_single (.record _ _ _)
    · exact tells_none
  | style search property level value =>
    refine tells_when ?_
    split
    · exact tells_single (.record _ _ _)
    · exact tells_none
  | insert place search html level within =>
    refine tells_when ?_
    split
    · exact tells_none
    · exact tells_when (tells_some (.insert _ _ _))
  | replaceImage searches replacement => exact tells_when (tells_single (.record _ _ _))
  | recolorImage search color => exact tells_when (tells_single (.record _ _ _))
  | stage location title name => exact tells_when (tells_single (.record _ _ _))
  | querySelector selector property value => exact tells_several (.recordAll _ _ _)
  | overwrite location selector html => exact tells_when (tells_several (.recordAll _ _ _))
  | addScript src script =>
    dsimp only
    split
    · exact tells_none
    · exact tells_some (.insert _ _ _)
  | request rule => exact tells_none
  | response rule => exact tells_none

theorem tells_apply (a : Action) (t : Target) : Tells [] (a.apply t) undosOf := by
  cases t with
  | node n path => exact tells_applyNode a n path
  | requests =>
    cases a with
    | request rule => exact tells_some (.addRequest rule)
    | _ => exact tells_none
  | responses =>
    cases a with
    | response rule => exact tells_some (.addResponse rule)
    | _ => exact tells_none

end Action

namespace Command

mutual

theorem tells_apply (t : Target) : ∀ c : Command, Tells [] (apply t c) undosOf
  | .action a => by
    rw [apply]
    exact a.tells_apply t
  | .conditional location within inner => by
    rw [apply]
    exact .page fun p => Action.tells_when (tells_apply t inner)
  | .group commands => by
    rw [apply]
    exact tells_applyAll t commands
  | .faulty _ => by
    rw [apply]
    exact Action.tells_none

theorem tells_applyAll (t : Target) : ∀ cs : List Command, Tells [] (applyAll t cs) undosOf
  | [] => by
    rw [applyAll]
    exact Action.tells_none
  | c :: cs => by
    rw [applyAll]
    refine .bind (tells_apply t c) fun first => .bind (tells_applyAll t cs).after fun others => ?_
    cases first with
    | none => exact .pure rfl
    | some us =>
      cases others with
      | none => exact .pure (List.append_nil us).symm
      | some vs => exact .pure rfl

end

end Command

namespace Configuration

theorem tells_runCommands (g : TargetGroup) (t : Target) (commands : List Command) :
    Tells [] (runCommands g t commands) id := by
  induction commands with
  | nil => exact .pure rfl
  | cons command rest ih =>
    rw [runCommands]
    split
    · exact .bind (command.tells_apply t) fun first => .bind ih.after fun others => .pure rfl
    · exact ih

theorem tells_applyCommands (c : Configuration) (commands : List Command) (g : TargetGroup)
    (t : Target) : Tells [] (c.applyCommands commands g t) id := by
  refine .page fun p => ?_
  split
  · exact tells_runCommands g t commands
  · exact .pure rfl

end Configuration

namespace Labels

theorem tells_transform {β : Type} {t : Transformer} {text : List Char} {f : List Char → Change β}
    {done : List Undo} {told : β → List Undo} (hf : ∀ full, Tells done (f full) told) :
    Tells done (t.transform text >>= f) told := by
  have htransform : Tells done (t.transform text) fun _ => done :=
    .page fun p => .bind (.ofExcept _) fun s => .pure rfl
  exact htransform.bind hf

theorem tells_forAll {α : Type} {step : α → Change (List Undo)} {as : List α}
    (h : ∀ a ∈ as, Tells [] (step a) id) : Tells [] (forAll step as) id := by
  induction as with
  | nil => exact .pure rfl
  | cons a as ih =>
    have hrest := ih fun b hb => h b (by simp [hb])
    exact .bind (h a (by simp)) fun first => .bind hrest.after fun others => .pure rfl

theorem tells_write (n : NodeId) (path : String) (text : List Char) :
    Tells [] (write n path text) id :=
  .bind (.record n path _) fun _ => .pure rfl

theorem tells_flowMapStep (node : NodeId) (text : List Char) (label : NodeId) :
    Tells [] (flowMapStep node text label) id := by
  refine .page fun p => ?_
  split
  · exact tells_write _ _ _
  · exact .pure rfl

theorem tells_flowMap (t : Transformer) (labels : List NodeId) (title : NodeId) :
    Tells [] (flowMap t labels title) id := by
  refine .page fun p => ?_
  split
  · exact .pure rfl
  · exact tells_transform fun full => tells_forAll fun label _ => tells_flowMapStep _ _ label

theorem tells_flowMaps (t : Transformer) : Tells [] (flowMaps t) id :=
  .page fun _ => tells_forAll fun title _ => tells_flowMap t _ title

theorem tells_splitLine (t : Transformer) (title : NodeId) : Tells [] (splitLine t title) id := by
  refine .page fun p => ?_
  split
  · exact .pure rfl
  · dsimp only
    split
    · exact .pure rfl
    · exact tells_transform fun full => tells_forAll fun line _ => tells_write _ _ _

theorem tells_splitLines (t : Transformer) : Tells [] (splitLines t) id :=
  .page fun _ => tells_forAll fun title _ => tells_splitLine t title

theorem tells_truncatedTitle (t : Transformer) (title : NodeId) :
    Tells [] (truncatedTitle t title) id := by
  refine .page fun p => ?_
  split
  · exact .pure rfl
  · split
    · exact .pure rfl
    · split
      · refine tells_transform fun full => ?_
        split
        · exact tells_write _ _ _
        · exact .pure rfl
      · exact .pure rfl

theorem tells_truncatedTitles (t : Transformer) : Tells [] (truncatedTitles t) id :=
  .page fun _ => tells_forAll fun title _ => tells_truncatedTitle t title

theorem tells_named (t : Transformer) (span : NodeId) : Tells [] (named t span) id :=
  .page fun _ => tells_transform fun _ => tells_write _ _ _

theorem tells_namedSpans (t : Transformer) : Tells [] (namedSpans t) id :=
  .page fun _ => tells_forAll fun span _ => tells_named t span

theorem tells_journey (t : Transformer) (n : NodeId) : Tells [] (journey t n) id := by
  refine .page fun p => tells_transform fun full => ?_
  split
  · exact .pure rfl
  · exact .bind (tells_write _ _ _) fun first =>
      .bind (tells_write _ _ _).after fun others => .pure rfl

theorem tells_journeys (t : Transformer) : Tells [] (journeys t) id :=
  .page fun _ => tells_forAll fun n _ => tells_journey t n

theorem tells_normalize (t : Transformer) : Tells [] (normalize t) id := by
  apply tells_forAll
  simp only [List.mem_cons, List.not_mem_nil, or_false, forall_eq_or_imp, forall_eq]
  exact ⟨tells_flowMaps t, tells_splitLines t, tells_truncatedTitles t, tells_namedSpans t,
    tells_journeys t⟩

end Labels
end PageOverlay

import PageOverlay.Proofs.Change.ElementSweep
import PageOverlay.Proofs.Command.ChangeRecords

/-!
# Commands that fail

On a page that was made by its own operations few commands can fail. A command fails that sets a
property without a name, before it has changed anything. And setting the text of all nodes that a
selector names fails if a text clears an element above another one that gets it, which is then gone.
Every other command finds the nodes that it needs.
-/

set_option autoImplicit false

namespace PageOverlay

namespace Action

open Change (Succeeds Outcome)

/-- The nodes of a selector with the text that each is to get. -/
def texts (p : Page) (s : Selector) (value : String) : List (NodeId × String) :=
  (p.query s).map fun n => (n, value)

def RefusesReplace (p : Page) (search : Pattern) (replacement : String)
    (cell : Option (NodeId × String)) : Prop :=
  ∃ n path current, cell = some (n, path) ∧ p.property? n path = some current ∧
    search.isMatch current.toList ∧
    Change.Refuses p n path (String.ofList (search.replaceAll current.toList replacement.toList))

/-- The action fails on the page before it has changed anything. -/
def Refused (p : Page) (n : NodeId) (path : String) : Action → Prop
  | .replace search replacement location within attr =>
    (locationAllows location p && standsWithin within p n) ∧
      RefusesReplace p search replacement (match attr with
        | some name => (p.elementOf n).map fun e => (e, name)
        | none => some (n, path))
  | .protect word location within =>
    (locationAllows location p && standsWithin within p n) ∧
      RefusesReplace p (.literal word.toList) (String.ofList (guarded word.toList))
        (some (n, path))
  | .replaceImage searches replacement =>
    (searches.any fun search => valueMatches search p n path) ∧ Change.Refuses p n path replacement
  | .querySelector selector property value =>
    ∃ m ∈ p.query selector, Change.Refuses p m property value
  | _ => False

/-- The action fails on the page after it has changed something. -/
def Clashes (p : Page) : Action → Prop
  | .querySelector selector property value =>
    property = Page.contentPath ∧ Change.TextClash p (texts p selector value)
  | _ => False

variable {w : World} {n : NodeId} {path : String}

theorem live_of_valueMatches {p : Page} {search : Pattern} (h : valueMatches search p n path) :
    ∃ node, p.live? n = some node := by
  cases hp : p.property? n path with
  | some value => exact Page.live_of_property? hp
  | none => simp [valueMatches, hp] at h

theorem live_of_pick {p : Page} (hw : p.WellFormed) {level : Nat} {upTo : Option Selector}
    {e m : NodeId} (he : ∃ node, p.live? e = some node) (h : pick p level upTo e = some m) :
    ∃ node, p.live? m = some node := by
  cases upTo with
  | none =>
    cases h
    exact hw.live_ancestor he _
  | some s =>
    rcases List.mem_cons.mp (List.mem_of_mem_take (List.mem_of_find?_eq_some h)) with rfl | hm
    · exact he
    · exact hw.live_of_mem_ancestors hm

theorem live_of_neighbor {p : Page} (hw : p.WellFormed) {level : Nat} {s : Selector}
    {e m : NodeId} (he : ∃ node, p.live? e = some node) (h : neighbor? p level s e = some m) :
    ∃ node, p.live? m = some node :=
  hw.live_of_mem_descendants (hw.live_ancestor he _)
    (List.mem_of_mem_drop (List.mem_of_find?_eq_some h))

theorem live_scriptPlace {p : Page} (hw : p.WellFormed) :
    ∃ node, p.live? (scriptPlace p) = some node := by
  rw [scriptPlace]
  cases h : (p.children Page.root).find? fun child => p.tag? child == some "HEAD" with
  | none => exact hw.live_root
  | some child =>
    obtain ⟨-, node, hl, -⟩ := hw.child (List.mem_of_find?_eq_some h)
    exact ⟨node, hl⟩

theorem outcome_single {x : Change (Option Undo)} {refused clashes : Prop}
    (h : Outcome x w refused clashes) :
    Outcome (x >>= fun u => pure (single u)) w refused clashes := h.map single

theorem outcome_replaceAt (search : Pattern) (replacement : String) (n : NodeId) (path : String) :
    Outcome (match w.page.property? n path with
      | none => pure none
      | some current =>
        if search.isMatch current.toList then do
          let replaced := search.replaceAll current.toList replacement.toList
          pure (single (← Change.record n path (String.ofList replaced)))
        else pure none) w
      (RefusesReplace w.page search replacement (some (n, path))) False := by
  cases hp : w.page.property? n path with
  | none =>
    refine Succeeds.outcome ⟨none, w, rfl⟩ |>.congr ⟨False.elim, ?_⟩ .rfl
    rintro ⟨_, _, current, hcell, hcurrent, -⟩
    cases hcell
    rw [hp] at hcurrent
    cases hcurrent
  | some current =>
    refine (Outcome.when fun _ =>
      outcome_single (.record (Page.live_of_property? hp) _)).congr ?_ (by simp)
    constructor
    · rintro ⟨hm, hr⟩
      exact ⟨n, path, current, rfl, hp, hm, hr⟩
    · rintro ⟨_, _, _, hcell, hcurrent, hm, hr⟩
      cases hcell
      rw [hp] at hcurrent
      cases hcurrent
      exact ⟨hm, hr⟩

theorem outcome_applyReplace (search : Pattern) (replacement : String) (attr : Option String)
    (n : NodeId) (path : String) :
    Outcome (applyReplace search replacement attr n path) w
      (RefusesReplace w.page search replacement (match attr with
        | some name => (w.page.elementOf n).map fun e => (e, name)
        | none => some (n, path))) False := by
  refine .page ?_
  cases attr with
  | none => exact outcome_replaceAt search replacement n path
  | some name =>
    cases w.page.elementOf n with
    | none =>
      refine Succeeds.outcome ⟨none, w, rfl⟩ |>.congr ⟨False.elim, ?_⟩ .rfl
      rintro ⟨_, _, _, hcell, -⟩
      cases hcell
    | some e => exact outcome_replaceAt search replacement e name

theorem outcome_querySelector_plain (hw : w.page.WellFormed) {s : Selector} {path : String}
    (h : ∀ m ∈ w.page.query s, w.page.isElement m → path ≠ "" ∧ path ≠ Page.contentPath)
    (value : String) :
    Outcome (Change.recordAll path value (w.page.query s)) w
      (∃ m ∈ w.page.query s, Change.Refuses w.page m path value)
      (path = Page.contentPath ∧ Change.TextClash w.page (texts w.page s value)) := by
  refine .inr (.inr ⟨?_, ?_, ?_⟩)
  · rintro ⟨m, hm, he, hp, -⟩
    exact (h m hm he).1 hp
  · rintro ⟨hp, t, ht, u, -, ⟨he, -⟩, -⟩
    obtain ⟨m, hm, rfl⟩ := List.mem_map.mp ht
    exact (h m hm he).2 hp
  · exact Change.succeeds_recordAll
      (fun m hm => ⟨hw.live_of_mem_query hm, fun he => (h m hm he).1⟩)
      (fun m hm ⟨he, hp⟩ => (h m hm he).2 hp) value

theorem outcome_querySelector (hw : w.page.WellFormed) (s : Selector) (path value : String) :
    Outcome (Change.recordAll path value (w.page.query s)) w
      (∃ m ∈ w.page.query s, Change.Refuses w.page m path value)
      (path = Page.contentPath ∧ Change.TextClash w.page (texts w.page s value)) := by
  -- Text nodes keep their places whatever is set; for elements the path decides.
  cases s with
  | bodyText =>
    refine outcome_querySelector_plain hw (fun m hm he => ?_) value
    have haccepts := (List.mem_filter.mp hm).2
    rw [Selector.accepts, Bool.and_eq_true, Bool.and_eq_true] at haccepts
    exact absurd he (Page.not_isElement_of_isText haccepts.1.1)
  | css alternatives =>
    have helement : ∀ m ∈ w.page.query (.css alternatives), w.page.isElement m :=
      fun m hm => isElement_of_accepts (List.mem_filter.mp hm).2
    by_cases hp : path = ""
    · subst hp
      have hno : ¬ ("" = Page.contentPath ∧
          Change.TextClash w.page (texts w.page (.css alternatives) value)) :=
        fun h => absurd h.1 (by decide)
      exact (Change.outcome_recordAll_nameless helement value).congr .rfl ⟨False.elim, hno⟩
    · by_cases hc : path = Page.contentPath
      · subst hc
        have hno : ¬ ∃ m ∈ w.page.query (.css alternatives),
            Change.Refuses w.page m Page.contentPath value := by
          rintro ⟨m, -, -, hpath, -⟩
          exact hp hpath
        have he : ∀ t ∈ texts w.page (.css alternatives) value, w.page.isElement t.1 :=
          List.forall_mem_map.mpr helement
        have hnodes : (texts w.page (.css alternatives) value).map Prod.fst =
            w.page.query (.css alternatives) := List.map_map.trans (List.map_id _)
        have htexts := Change.outcome_writeTexts hw he (hnodes ▸ hw.query_pairwise _)
        rw [texts, Change.forAll_map] at htexts
        rw [Change.recordAll_eq_forAll]
        exact htexts.congr ⟨False.elim, hno⟩ ⟨fun h => ⟨rfl, h⟩, And.right⟩
      · exact outcome_querySelector_plain hw (fun m _ _ => ⟨hp, hc⟩) value

theorem outcome_applyNode (hw : w.page.WellFormed) (a : Action) (n : NodeId) (path : String) :
    Outcome (a.applyNode n path) w (a.Refused w.page n path) (a.Clashes w.page) := by
  have hnone : Succeeds (pure none : Change Applied) w := ⟨none, w, rfl⟩
  refine .page ?_
  cases a with
  | replace search replacement location within attr =>
    refine (Outcome.when fun _ => outcome_applyReplace _ _ _ _ _).congr .rfl ?_
    simp [Clashes]
  | protect word location within =>
    refine (Outcome.when fun _ => outcome_applyReplace _ _ _ _ _).congr .rfl ?_
    simp [Clashes]
  | replaceNeighbor search replacement level neighbor location within =>
    refine Succeeds.outcome (.when fun _ => ?_)
    split
    · exact hnone
    · next e he =>
      refine .when fun _ => ?_
      split
      · next m hm =>
        exact Succeeds.map (.record (live_of_neighbor hw (hw.live_elementOf he) hm) (by decide) _) _
      · exact hnone
  | hide search level upTo location hash =>
    refine Succeeds.outcome (.when fun _ => ?_)
    split
    · next m hm =>
      obtain ⟨e, he, hpick⟩ := Option.bind_eq_some_iff.mp hm
      exact Succeeds.map (.record (live_of_pick hw (hw.live_elementOf he) hpick) (by decide) _) _
    · exact hnone
  | style search property level value =>
    refine Succeeds.outcome (.when fun _ => ?_)
    split
    · next e he =>
      have hpath : "style." ++ property ≠ "" := by simp
      exact Succeeds.map (.record (hw.live_ancestor (hw.live_elementOf he) _) hpath _) _
    · exact hnone
  | insert place search html level within =>
    refine Succeeds.outcome (.when fun _ => ?_)
    split
    · exact hnone
    · next e he =>
      exact .when fun _ => .map (.insert (hw.live_ancestor (hw.live_elementOf he) _) _ _) _
  | replaceImage searches replacement =>
    refine (Outcome.when fun hm => outcome_single (.record ?_ _)).congr ?_ (by simp [Clashes])
    · obtain ⟨search, -, hsearch⟩ := List.any_eq_true.mp hm
      exact live_of_valueMatches hsearch
    · refine and_congr_right fun _ => ?_
      by_cases hpath : path = backgroundPath
      · subst hpath
        have hname : ¬ backgroundPath = "" := by decide
        exact ⟨fun h => absurd h.2.1 hname, fun h => absurd h.2.1 hname⟩
      · rw [if_neg hpath]
  | recolorImage search color =>
    refine Succeeds.outcome (.when fun hm => ?_)
    exact .map (.record (live_of_valueMatches hm) (by decide) _) _
  | stage location title name =>
    exact Succeeds.outcome (.when fun _ => .map (.record hw.live_root (by decide) _) _)
  | querySelector selector property value =>
    exact (outcome_querySelector hw selector property value).map several
  | overwrite location selector html =>
    refine Succeeds.outcome (.when fun _ => .map (Change.succeeds_recordAll ?_ ?_ html) several)
    · intro m hm
      refine ⟨?_, fun _ => by decide⟩
      cases selector with
      | some s => exact hw.live_of_mem_query hm
      | none =>
        rw [List.mem_singleton.mp hm]
        exact hw.live_root
    · exact fun m hm h => absurd h.2 (by decide)
  | addScript src script =>
    refine Succeeds.outcome ?_
    dsimp only
    split
    · exact hnone
    · exact .map (.insert (live_scriptPlace hw) _ _) _
  | request rule => exact hnone.outcome
  | response rule => exact hnone.outcome

end Action

end PageOverlay

import PageOverlay.Proofs.Run.History

/-!
# Stopping leaves nothing behind

A run whose changes were all recorded is undone when it stops. The nodes that it inserted are gone,
the others are in their places, and each property has its value from before the run or one that was
written from outside meanwhile.
-/

set_option autoImplicit false

namespace PageOverlay

namespace Page

variable {p q : Page} {n : Nat} {node : Node} {path : String}

theorem cell_of_kind (h : ¬ (p.isElement n ∧ path = contentPath)) :
    p.cell n path = (n, if p.kind? n = some .text then textPath path else path) := by
  rw [cell]
  rw [isElement, tag?] at h
  cases hk : p.kind? n with
  | none => simp
  | some kind =>
    cases kind with
    | text => simp
    | other => simp
    | element tag =>
      have hpath : path ≠ contentPath := by simpa [hk] using h
      simp [hpath]

theorem isElement_of_kind (h : q.kind? n = p.kind? n) : q.isElement n = p.isElement n := by
  rw [isElement, isElement, tag?, tag?, h]

end Page

theorem Edit.kind? {w w' : World} {u : Undo} (h : Edit w u w')
    (hd : Step.Direct w.page (.made u)) :
    w.page.nodes.size ≤ w'.page.nodes.size ∧
      ∀ n, n < w.page.nodes.size → w'.page.kind? n = w.page.kind? n := by
  cases h with
  | property hne hset =>
    rw [Page.setProperty_of_direct (Page.setProperty_isOk_iff.mp ⟨_, hset⟩) hd] at hset
    cases hset
    exact ⟨Nat.le_of_eq Page.size_putRaw.symm, fun n _ => Page.kind?_congr Page.shape?_putRaw⟩
  | insertion happend =>
    rw [Page.appendElement, Page.appendNode] at happend
    split at happend
    · cases happend
    · next up hup =>
      cases happend
      have hlt := Page.lt_size_of_live hup
      refine ⟨by simp [Page.size_adopt], fun n hn => ?_⟩
      rw [Page.kind?, Page.live?_adopt hlt rfl, if_neg (Nat.ne_of_lt hn), Page.kind?]
      split
      · cases w.page.live? n <;> rfl
      · rfl
  | request rule => exact ⟨Nat.le_refl _, fun _ _ => rfl⟩
  | response rule => exact ⟨Nat.le_refl _, fun _ _ => rfl⟩

def Outside (p : Page) (writes : List (NodeId × String × String)) (n : NodeId)
    (key value : String) : Prop :=
  n < p.nodes.size → ∃ path, (n, path, value) ∈ writes ∧ p.cell n path = (n, key)

theorem Course.reversible {p : Page} {writes : List (NodeId × String × String)} {w w' : World}
    {steps : List Step} (h : Course (fun p s => s.Direct p) w steps w')
    (hsize : p.nodes.size ≤ w.page.nodes.size)
    (hkind : ∀ n, n < p.nodes.size → w.page.kind? n = p.kind? n)
    (hw : ∀ x ∈ steps.filterMap Step.write?, x ∈ writes) :
    Course (Step.Reversible (Outside p writes)) w steps w' := by
  induction h with
  | nil w => exact .nil w
  | made h hd _ ih =>
    obtain ⟨hle, hkinds⟩ := h.kind? hd
    refine .made h ⟨hd, by simp⟩ (ih (Nat.le_trans hsize hle) (fun n hn => ?_) hw)
    rw [hkinds n (Nat.lt_of_lt_of_le hn hsize), hkind n hn]
  | @written w w' n path value q steps h hd _ ih =>
    have hdirect : w.page.Direct n path := fun he hp => absurd ⟨he, hp⟩ hd
    have hq := Page.setProperty_of_direct (Page.setProperty_isOk_iff.mp ⟨q, h⟩) hdirect value
    rw [h] at hq
    cases hq
    refine .written h ⟨hd, ?_⟩ (ih (by simpa using hsize) (fun m hm => ?_) fun x hx => hw x ?_)
    · intro m path' value' hs hm
      cases hs
      rw [Page.cell_of_kind hd] at hm ⊢
      have hk := hkind n hm
      refine ⟨path, hw _ (by simp [Step.write?]), ?_⟩
      rw [Page.cell_of_kind, hk]
      rwa [← Page.isElement_of_kind hk]
    · rw [← hkind m hm]
      exact Page.kind?_congr Page.shape?_putRaw
    · rw [List.filterMap_cons, Step.write?]
      exact List.mem_cons_of_mem _ hx

namespace Runner

/-- Nothing of a run is left: the second runner is the first one but for what was written from
outside. -/
structure Restored (r r' : Runner) (writes : List (NodeId × String × String)) : Prop where
  places : ∀ n, n < r.world.page.nodes.size → r'.world.page.shape? n = r.world.page.shape? n
  inserted : ∀ n, r.world.page.nodes.size ≤ n → r'.world.page.live? n = none
  property : ∀ n path, n < r.world.page.nodes.size →
    ¬ (r.world.page.isElement n ∧ path = Page.contentPath) →
    (r'.world.page.property? n path).getD "" = (r.world.page.property? n path).getD "" ∨
      ∃ path', (n, path', (r'.world.page.property? n path).getD "") ∈ writes ∧
        r.world.page.cell n path' = r.world.page.cell n path
  undo : r'.undo = #[]
  requests : r'.world.requests.rules = []
  responses : r'.world.responses.rules = []

theorem Restored.of_echo {r r' : Runner} {writes : List (NodeId × String × String)}
    (h : Echo (Outside r.world.page writes) r.world.page r'.world.page) (hu : r'.undo = #[])
    (hrequests : r'.world.requests.rules = []) (hresponses : r'.world.responses.rules = []) :
    Restored r r' writes where
  places := h.shape
  inserted := h.gone
  undo := hu
  requests := hrequests
  responses := hresponses
  property n path hn hpath := by
    have hshape := h.shape n hn
    have hpath' : ¬ (r'.world.page.isElement n ∧ path = Page.contentPath) := by
      rwa [Page.isElement_congr hshape]
    cases hl : r.world.page.live? n with
    | none =>
      rw [Page.property?, Page.property?, hl, Page.dead_of_shape hshape hl]
      exact .inl rfl
    | some node =>
      obtain ⟨node', hl', -⟩ := Page.live_of_shape hshape hl
      have hd : r.world.page.Direct n path := fun he hp => absurd ⟨he, hp⟩ hpath
      have hd' : r'.world.page.Direct n path := fun he hp => absurd ⟨he, hp⟩ hpath'
      have hcell := Page.cell_of_kind hpath
      rw [Page.property?_getD_of_direct hl hd, Page.property?_getD_of_direct hl' hd',
        Page.cell_congr hshape, hcell]
      rcases h.value n _ hn with hv | hv
      · exact .inl hv
      · exact .inr (hv hn)

/-- What a run leaves behind when it stops. -/
theorem stop_restores {r : Runner} (hp : r.world.page.Reachable) (hu : r.undo = #[])
    (acts : List Act) (hf : (r.start.2.runActs acts).failures = r.failures)
    (ht : (r.start.2.runActs acts).tracking) :
    let started := r.start.2
    let ended := started.runActs acts
    (∃ steps, History (fun _ _ => True) started ended (started.written acts) steps) ∧
      ((∃ steps, History (fun p s => s.Direct p) started ended (started.written acts) steps) →
        Restored r ended.stop (started.written acts)) := by
  intro started ended
  obtain ⟨hevents, -, hundo, hworld⟩ := r.start_same
  constructor
  · have hsame : started.failures = r.failures := by rw [failures, failures, hevents]
    exact ((told_runActs acts started).history (hf.trans hsame.symm) ht).2
  · rintro ⟨steps, h⟩
    have hpage : started.world.page = r.world.page := by rw [hworld]
    have hcourse := h.course.reversible (p := r.world.page) (Nat.le_of_eq (by rw [hpage]))
      (fun n _ => by rw [hpage]) (fun x hx => by rwa [h.writes] at hx)
    have hsteps : ended.undo.toList = steps.filterMap Step.undo? := by
      rw [h.undos, hundo, hu]
      simp
    have hecho := Echo.revertAll (by rwa [hpage]) hcourse (Echo.refl ended.world.page)
    refine .of_echo ?_ rfl rfl rfl
    rw [stop, if_pos ht, hsteps]
    rwa [hpage] at hecho

def replacing : Runner :=
  create
    (Page.ofSnapshot {
      location := "x"
      root := .node (some "html") none []
        [.node (some "body") none [] [.node none (some "a") [] []]] })
    [("C", .ofText "@include = x\na = b")] {} false

def overwritten : List Act :=
  [.advance (milliseconds 100), .write 2 Page.dataPath "c", .advance (milliseconds 100)]

theorem overwritten_course :
    Course (fun p s => s.Direct p) replacing.start.2.world
      [.made (.property 2 Page.dataPath "a" "b"), .written 2 Page.dataPath "c"]
      (replacing.start.2.runActs overwritten).world := by
  let w := replacing.start.2.world
  let p := w.page.putRaw 2 Page.dataPath "b"
  let q := p.putRaw 2 Page.dataPath "c"
  have hread : (w.page.property? 2 Page.dataPath).getD "" = "a" := by decide +kernel
  have hset : w.page.setProperty 2 Page.dataPath "b" = .ok p :=
    Page.setProperty_data (by decide +kernel)
  have hset' : p.setProperty 2 Page.dataPath "c" = .ok q :=
    Page.setProperty_data (by decide +kernel)
  have hmade : Edit w (.property 2 Page.dataPath "a" "b") { w with page := p } :=
    hread ▸ .property (by decide +kernel) hset
  have hended : (replacing.start.2.runActs overwritten).world = { w with page := q } := by
    decide +kernel
  have htext : w.page.isElement 2 = false := by decide +kernel
  have htext' : p.isElement 2 = false := by decide +kernel
  rw [hended]
  refine .made hmade (fun he => ?_) (.written hset' (fun h => ?_) (.nil _))
  · rw [htext] at he
    cases he
  · have he : p.isElement 2 := h.1
    rw [htext'] at he
    cases he

theorem stop_restores_overwritten :
    (replacing.start.2.runActs overwritten).undo = #[.property 2 Page.dataPath "a" "b"] ∧
      Restored replacing (replacing.start.2.runActs overwritten).stop
        [(2, Page.dataPath, "c")] := by
  have hundo : (replacing.start.2.runActs overwritten).undo =
      #[.property 2 Page.dataPath "a" "b"] := by decide +kernel
  have hwritten : replacing.start.2.written overwritten = [(2, Page.dataPath, "c")] := by
    decide +kernel
  have hrun := stop_restores (.ofSnapshot _) (by decide +kernel : replacing.undo = #[]) overwritten
    (by decide +kernel) (by decide +kernel)
  have hrestored := hrun.2 ⟨_, overwritten_course, by rw [hundo]; decide +kernel, by
    rw [hwritten]
    rfl⟩
  rw [hwritten] at hrestored
  exact ⟨hundo, hrestored⟩

end Runner
end PageOverlay

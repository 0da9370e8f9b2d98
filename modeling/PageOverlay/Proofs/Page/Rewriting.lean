import PageOverlay.Proofs.Page.Content

/-!
# Rewritten elements

Setting a property of a node changes nothing outside of it. Setting the text of an element removes
all that stands below it, unless a single text node stands there, which then takes the text.
-/

set_option autoImplicit false

namespace PageOverlay.Page

variable {p q r : Page} {c m n up : Nat} {node : Node} {path value : String}

@[simp] theorem location_adopt : (p.adopt up node).location = p.location := rfl

@[simp] theorem location_detach : (p.detach up n).location = p.location := by
  have hmark : ∀ (ns : List NodeId) (q : Page), (q.markRemoved ns).location = q.location := by
    intro ns
    induction ns with
    | nil =>
      intro q
      rfl
    | cons k ns ih =>
      intro q
      exact ih _
  rw [detach, hmark]
  rfl

theorem location_detachAll (cs : List NodeId) :
    (cs.foldl (fun p c => p.detach n c) p).location = p.location := by
  induction cs generalizing p with
  | nil => rfl
  | cons c cs ih => rw [List.foldl_cons, ih, location_detach]

theorem location_replaceContent : (p.replaceContent n value).location = p.location := by
  rw [replaceContent, location_adopt, clear, location_detachAll]

theorem nodes_putRaw_of_ne (h : m ≠ n) : (p.putRaw n path value).nodes[m]? = p.nodes[m]? := by
  rw [putRaw, nodes_modify, if_neg (Ne.symm h)]

theorem Under.mono (hc : ∀ k c, c ∈ q.children k → c ∈ p.children k) {a : Nat}
    (h : Under q a m) : Under p a m := by
  induction h with
  | refl a => exact .refl a
  | step hmem _ ih => exact .step (hc _ _ hmem) ih

/-- The children `cs` of a node are gone from `q`, and nothing has changed outside of the node. -/
structure Pruned (p q : Page) (n : NodeId) (cs : List NodeId) : Prop where
  size : q.nodes.size = p.nodes.size
  children : ∀ k c, c ∈ q.children k → c ∈ p.children k
  gone : ∀ c ∈ cs, c ∉ q.children n
  outside : ∀ m, ¬ Under p n m → q.nodes[m]? = p.nodes[m]?
  elements : ∀ m, q.isElement m → p.isElement m

theorem isElement_of_detach (h : (p.detach up n).isElement m) : p.isElement m := by
  obtain ⟨node, tag, hl, hk⟩ := isElement_iff.mp h
  rw [live?_detach] at hl
  split at hl
  · cases hl
  · rw [live?_unlink] at hl
    split at hl
    · obtain ⟨found, hfound, rfl⟩ := Option.map_eq_some_iff.mp hl
      exact isElement_iff.mpr ⟨found, tag, hfound, hk⟩
    · exact isElement_iff.mpr ⟨node, tag, hl, hk⟩

theorem isElement_of_adopt {leaf : Node} (hup : up < p.nodes.size) (hr : leaf.removed = false)
    (hk : leaf.kind = .text) (h : (p.adopt up leaf).isElement m) : p.isElement m := by
  obtain ⟨node, tag, hl, htag⟩ := isElement_iff.mp h
  rw [live?_adopt hup hr] at hl
  split at hl
  · cases hl
    rw [hk] at htag
    cases htag
  · split at hl
    · obtain ⟨found, hfound, rfl⟩ := Option.map_eq_some_iff.mp hl
      exact isElement_iff.mpr ⟨found, tag, hfound, htag⟩
    · exact isElement_iff.mpr ⟨node, tag, hl, htag⟩

namespace WellFormed

theorem pruned (hw : WellFormed p) (hl : p.live? n = some node) {cs : List NodeId}
    (hcs : ∀ c ∈ cs, c ∈ p.children n) (hd : cs.Nodup) :
    Pruned p (cs.foldl (fun p c => p.detach n c) p) n cs := by
  induction cs generalizing p node with
  | nil =>
    exact ⟨rfl, fun _ _ h => h, fun _ h => (List.not_mem_nil h).elim, fun _ _ => rfl, fun _ h => h⟩
  | cons c cs ih =>
    obtain ⟨hc, hd⟩ := List.nodup_cons.mp hd
    have hmem := hcs c (by simp)
    obtain ⟨node', hl', -⟩ := hw.live_detach hmem (hw.not_under_self hmem) hl
    have hleft : ∀ k b, b ∈ (p.detach n c).children k → b ∈ p.children k :=
      fun k b hb => ((hw.mem_children_detach hmem).mp hb).1
    have hcs' : ∀ b ∈ cs, b ∈ (p.detach n c).children n := by
      intro b hb
      exact hw.mem_children_detach_sibling hmem (hcs b (by simp [hb])) fun h => hc (h ▸ hb)
    have hrest := ih (hw.detach hmem) hl' hcs' hd
    rw [List.foldl_cons]
    refine ⟨hrest.size.trans size_detach, fun k b hb => hleft k b (hrest.children k b hb), ?_, ?_,
      fun m hm => isElement_of_detach (hrest.elements m hm)⟩
    · intro b hb hbn
      rcases List.mem_cons.mp hb with rfl | hb
      · exact ((hw.mem_children_detach hmem).mp (hrest.children n b hbn)).2 (.refl b)
      · exact hrest.gone b hb hbn
    · intro m hm
      have hne : n ≠ m := fun h => hm (h ▸ .refl n)
      rw [hrest.outside m fun h => hm (h.mono hleft), nodes_detach, if_neg, unlink, nodes_modify,
        if_neg hne]
      intro hmc
      exact hm (.step hmem ((hw.mem_descendants_unlink hmem).mp hmc))

theorem dead_of_pruned (hw : WellFormed p) (hq : WellFormed q)
    (h : Pruned p q n (p.children n)) (hm : Under p n m) (hne : m ≠ n) : q.live? m = none := by
  induction m using Nat.strongRecOn with
  | ind m ih =>
    cases hl : q.live? m with
    | none => rfl
    | some node =>
      rcases hm.last with he | ⟨up, hup, hmem⟩
      · exact absurd he hne
      · have hroot : m ≠ root := by
          rintro rfl
          exact absurd (hw.child hmem).1 (Nat.not_lt_zero _)
        obtain ⟨k, -, hk⟩ := hq.parent hl hroot
        rw [hw.parent_of_child hmem (h.children k m hk)] at hup hmem
        by_cases hkn : k = n
        · subst hkn
          exact absurd hk (h.gone m hmem)
        · obtain ⟨found, hfound⟩ := live_of_mem_children hk
          rw [ih k (hw.child hmem).1 hup hkn] at hfound
          cases hfound

end WellFormed

/-- What a write at a node leaves alone. If it clears the node, all that stood below is removed;
else the elements below are as they were. -/
structure Rewrites (p q : Page) (n : NodeId) (clears : Prop) : Prop where
  wellFormed : WellFormed q
  live : ∃ node, q.live? n = some node
  location : q.location = p.location
  size : p.nodes.size ≤ q.nodes.size
  outside : ∀ m, m < p.nodes.size → ¬ Under p n m → q.nodes[m]? = p.nodes[m]?
  gone : clears → ∀ m, Under p n m → m ≠ n → q.live? m = none
  kept : ¬ clears → ∀ m, Under p n m → m ≠ n → p.isElement m → SameBelow p q m
  elements : ∀ m, q.isElement m → p.isElement m

theorem isElement_putRaw : (p.putRaw n path value).isElement m = p.isElement m :=
  isElement_congr shape?_putRaw

theorem live_putRaw (hl : p.live? m = some node) :
    ∃ node, (p.putRaw n path value).live? m = some node := by
  rw [live?_putRaw, hl]
  by_cases h : n = m
  · rw [if_pos h]
    exact ⟨_, rfl⟩
  · rw [if_neg h]
    exact ⟨node, rfl⟩

theorem not_isElement_of_isText (h : p.isText n) : ¬ p.isElement n := by
  rw [isElement_iff]
  rintro ⟨node, tag, hl, hk⟩
  obtain ⟨node', hl', hk'⟩ := isText_iff.mp h
  rw [hl, Option.some.injEq] at hl'
  rw [hl', hk'] at hk
  cases hk

theorem under_putRaw {a : Nat} : Under (p.putRaw n path value) a m ↔ Under p a m :=
  ⟨fun h => h.mono fun _ _ hc => by rwa [children_putRaw] at hc,
    fun h => h.mono fun _ _ hc => by rwa [children_putRaw]⟩

namespace WellFormed

variable (hw : WellFormed p) (hl : p.live? n = some node)

include hw hl

theorem rewrites_self : Rewrites p p n False where
  wellFormed := hw
  live := ⟨node, hl⟩
  location := rfl
  size := Nat.le_refl _
  outside _ _ _ := rfl
  gone h := h.elim
  kept _ _ _ _ _ _ _ := rfl
  elements _ h := h

theorem rewrites_putRaw (path value : String) : Rewrites p (p.putRaw n path value) n False where
  wellFormed := hw.putRaw n path value
  live := live_putRaw hl
  location := rfl
  size := Nat.le_of_eq size_putRaw.symm
  outside m _ hm := nodes_putRaw_of_ne fun h => hm (h ▸ .refl m)
  gone h := h.elim
  kept _ _ hm hne _ _ hk := nodes_putRaw_of_ne fun h => hne (hw.under_antisymm (h ▸ hk) hm)
  elements _ h := isElement_putRaw.symm.trans h

theorem rewrites_text {t : Nat} (hc : p.children n = [t]) (ht : p.isText t) (value : String) :
    Rewrites p (p.putRaw t dataPath value) n False where
  wellFormed := hw.putRaw t dataPath value
  live := live_putRaw hl
  location := rfl
  size := Nat.le_of_eq size_putRaw.symm
  outside m _ hm := by
    apply nodes_putRaw_of_ne
    rintro rfl
    exact hm (.step (by simp [hc]) (.refl m))
  gone h := h.elim
  kept _ m hm hne he k hk := by
    apply nodes_putRaw_of_ne
    rintro rfl
    -- Below the element stands its text alone, so an element cannot be there.
    cases hm with
    | refl => exact hne rfl
    | @step _ c _ hmem hm =>
      rw [hc, List.mem_singleton] at hmem
      subst hmem
      rw [hw.under_antisymm hk hm] at he
      exact not_isElement_of_isText ht he
  elements _ h := isElement_putRaw.symm.trans h

theorem rewrites_replaceContent (value : String) :
    Rewrites p (p.replaceContent n value) n True := by
  obtain ⟨hclear, node', hl'⟩ : WellFormed (p.clear n) ∧ ∃ node, (p.clear n).live? n = some node :=
    hw.detachAll hl (fun c hc => hc) (hw.nodup n)
  have hpruned : Pruned p (p.clear n) n (p.children n) :=
    hw.pruned hl (fun c hc => hc) (hw.nodup n)
  have hne : ∀ {m : Nat}, m < p.nodes.size → m ≠ (p.clear n).nodes.size := by
    intro m hm
    rw [hpruned.size]
    exact Nat.ne_of_lt hm
  have hr : ({ kind := .text, properties := [(dataPath, value)] } : Node).removed = false := rfl
  constructor
  · exact hclear.adopt hl' hr rfl
  · obtain ⟨node'', hl'', -⟩ := live_adopt hl' hr hl'
    exact ⟨node'', hl''⟩
  · exact location_replaceContent
  · rw [Page.replaceContent, size_adopt, hpruned.size]
    exact Nat.le_succ _
  · intro m hm hu
    have hnm : m ≠ n := fun h => hu (h ▸ .refl m)
    rw [Page.replaceContent, nodes_adopt (lt_size_of_live hl'), if_neg (hne hm), if_neg hnm]
    exact hpruned.outside m hu
  · intro _ m hm hnm
    obtain ⟨found, hfound⟩ := hw.live_of_under hm ⟨node, hl⟩
    rw [Page.replaceContent, live?_adopt (lt_size_of_live hl') hr,
      if_neg (hne (lt_size_of_live hfound)), if_neg hnm]
    exact hw.dead_of_pruned hclear hpruned hm hnm
  · intro h
    exact (h trivial).elim
  · intro m hm
    exact hpruned.elements m (isElement_of_adopt (lt_size_of_live hl') hr rfl hm)

theorem rewrites_setContent (value : String) :
    Rewrites p (p.setContent n value) n (¬ OneText p n) := by
  rw [Page.setContent]
  split
  · next only hc =>
    split
    · next ht =>
      have hone : OneText p n := ⟨only, hc, ht⟩
      have h := hw.rewrites_text hl hc ht value
      rwa [← eq_false (not_not_intro hone)] at h
    · next ht =>
      have hone : ¬ OneText p n := by
        rintro ⟨t, hc', ht'⟩
        rw [hc, List.singleton_inj] at hc'
        exact ht (hc' ▸ ht')
      have h := hw.rewrites_replaceContent hl value
      rwa [← eq_true hone] at h
  · next hc =>
    have hone : ¬ OneText p n := by
      rintro ⟨t, hc', -⟩
      exact hc t hc'
    have h := hw.rewrites_replaceContent hl value
    rwa [← eq_true hone] at h

end WellFormed

theorem Rewrites.after_putRaw {clears : Prop} (hw : WellFormed p) (hl : p.live? n = some node)
    (h : Rewrites (p.putRaw n path value) r n clears) : Rewrites p r n clears where
  wellFormed := h.wellFormed
  live := h.live
  location := h.location
  size := by
    rw [← @size_putRaw p n path value]
    exact h.size
  outside m hm hu := by
    have hne : m ≠ n := fun he => hu (he ▸ .refl m)
    rw [h.outside m (by rwa [size_putRaw]) (fun hp => hu (under_putRaw.mp hp)),
      nodes_putRaw_of_ne hne]
  gone hc m hm := h.gone hc m (under_putRaw.mpr hm)
  kept hc m hm hne he k hk := by
    rw [h.kept hc m (under_putRaw.mpr hm) hne (isElement_putRaw.trans he) k (under_putRaw.mpr hk),
      (hw.rewrites_putRaw hl path value).kept not_false m hm hne he k hk]
  elements m hm := isElement_putRaw.symm.trans (h.elements m hm)

/-- Setting the property removes all that stands below the node. -/
def Clears (p : Page) (n : NodeId) (path value : String) : Prop :=
  p.isElement n ∧ path = contentPath ∧ (p.property? n path).getD "" ≠ value ∧ ¬ OneText p n

theorem WellFormed.rewrites_setProperty (hw : WellFormed p)
    (hne : (p.property? n path).getD "" ≠ value) (h : p.setProperty n path value = .ok q) :
    Rewrites p q n (p.Clears n path value) := by
  obtain ⟨⟨node, hl⟩, -⟩ := setProperty_isOk_iff.mp ⟨q, h⟩
  have hplain : (p.isElement n → path ≠ contentPath) → p.Clears n path value = False :=
    fun hpath => eq_false fun hc => hpath hc.1 hc.2.1
  cases hk : node.kind with
  | text =>
    rw [setProperty_of_text hl hk, Except.ok.injEq] at h
    rw [hplain fun he => absurd he (by simp [isElement_of_live hl, hk]), ← h]
    exact hw.rewrites_putRaw hl _ _
  | other =>
    rw [setProperty_of_other hl hk, Except.ok.injEq] at h
    rw [hplain fun he => absurd he (by simp [isElement_of_live hl, hk]), ← h]
    exact hw.rewrites_putRaw hl _ _
  | element tag =>
    rw [setProperty_of_element hl hk] at h
    by_cases hpath : path = contentPath
    · rw [if_pos hpath, Except.ok.injEq] at h
      have hclears : p.Clears n path value = ¬ OneText p n :=
        propext ⟨fun hc => hc.2.2.2,
          fun ho => ⟨(isElement_of_live hl).mpr ⟨tag, hk⟩, hpath, hne, ho⟩⟩
      rw [hclears, ← h]
      exact hw.rewrites_setContent hl value
    · rw [if_neg hpath] at h
      split at h
      · cases h
      · rw [Except.ok.injEq] at h
        rw [hplain fun _ => hpath, ← h]
        exact hw.rewrites_putRaw hl path value

theorem SameBelow.clears_iff (h : SameBelow p q n) (hw : WellFormed p)
    (hsize : p.nodes.size ≤ q.nodes.size) (hl : p.live? n = some node) :
    q.Clears n path value ↔ p.Clears n path value := by
  rw [Clears, Clears, isElement_congr (h.shape? (.refl n)), h.property? hw hsize hl, h.oneText_iff]

theorem WellFormed.property?_putRaw_content (hw : WellFormed p) (he : p.isElement n)
    (hp : path ≠ contentPath) :
    (p.putRaw n path value).property? n contentPath = p.property? n contentPath := by
  obtain ⟨node, tag, hl, hk⟩ := isElement_iff.mp he
  obtain ⟨node', hl', hk', -⟩ := live_of_shape (@shape?_putRaw p n n path value) hl
  have hstored : (p.putRaw n path value).stored? n contentPath = p.stored? n contentPath := by
    rw [stored?_putRaw (lt_size_of_live hl), if_neg fun h => hp h.2]
  have htext : (p.putRaw n path value).textContent n = p.textContent n := by
    refine hw.textContent_congr ⟨node, hl⟩ (Nat.le_of_eq size_putRaw.symm)
      (fun m _ => shape?_putRaw) fun m _ ht => ?_
    rw [stored?_putRaw (lt_size_of_live hl), if_neg]
    rintro ⟨rfl, -⟩
    exact not_isElement_of_isText ht he
  rw [property?_of_element hl' (hk'.trans hk), property?_of_element hl hk, hstored, htext]

theorem WellFormed.clears_putRaw (hw : WellFormed p) (he : p.isElement n)
    (hp : path ≠ contentPath) (text : String) :
    (p.putRaw n path value).Clears n contentPath text ↔ p.Clears n contentPath text := by
  have hshape : ∀ m, (p.putRaw n path value).shape? m = p.shape? m := fun _ => shape?_putRaw
  have hone : OneText (p.putRaw n path value) n ↔ OneText p n := by
    rw [OneText, OneText, children_putRaw]
    exact exists_congr fun t => by rw [isText_congr (hshape t)]
  rw [Clears, Clears, isElement_congr (hshape n), hw.property?_putRaw_content he hp, hone]

/-- Each of the nodes is as it was, with all below it, or it is gone. -/
structure Spares (p q : Page) (ns : List NodeId) : Prop where
  wellFormed : WellFormed q
  location : q.location = p.location
  size : p.nodes.size ≤ q.nodes.size
  each : ∀ n ∈ ns, q.live? n = none ∨ SameBelow p q n
  elements : ∀ m, q.isElement m → p.isElement m

theorem WellFormed.spares_self (hw : WellFormed p) (ns : List NodeId) : Spares p p ns :=
  ⟨hw, rfl, Nat.le_refl _, fun _ _ => .inr fun _ _ => rfl, fun _ h => h⟩

theorem Spares.mono {ns ms : List NodeId} (h : Spares p q ns) (hm : ∀ m ∈ ms, m ∈ ns) :
    Spares p q ms :=
  ⟨h.wellFormed, h.location, h.size, fun m hmem => h.each m (hm m hmem), h.elements⟩

theorem SameBelow.below (h : SameBelow p q n) (hm : Under p n m) : SameBelow p q m :=
  fun k hk => h k (hm.trans hk)

theorem SameBelow.trans (h : SameBelow p q n) (g : SameBelow q r n) : SameBelow p r n :=
  fun k hk => (g k (h.under_iff.mpr hk)).trans (h k hk)

section step

variable {d : Nat} {clears : Prop} (hw : WellFormed p) (hd : SameBelow p q d)
  (hr : Rewrites q r d clears) (hlt : n < q.nodes.size) (hnd : ¬ Under p n d)

include hd hr hnd

theorem Rewrites.below (he : p.isElement n) (hu : Under p d n) :
    (clears ∧ r.live? n = none) ∨ (¬ clears ∧ SameBelow q r n) := by
  have hne : n ≠ d := fun h => hnd (h ▸ .refl n)
  by_cases hc : clears
  · exact .inl ⟨hc, hr.gone hc n (hd.under_iff.mpr hu) hne⟩
  · have heq : q.isElement n := (isElement_congr (hd.shape? hu)).trans he
    exact .inr ⟨hc, hr.kept hc n (hd.under_iff.mpr hu) hne heq⟩

include hw hlt

theorem Rewrites.apart (hsize : p.nodes.size ≤ q.nodes.size) (hu : ¬ Under p d n)
    (hlive : ∃ node, p.live? n = some node) :
    r.live? n = q.live? n ∧ (SameBelow p q n → SameBelow p r n) := by
  constructor
  · exact live?_congr (hr.outside n hlt fun h => hu (hd.under_iff.mp h))
  · intro hn m hm
    have hmd : ¬ Under q d m := by
      intro h
      rcases hw.comparable (hd.under_iff.mp h) hm with h | h
      · exact hu h
      · exact hnd h
    obtain ⟨node, hl⟩ := hw.live_of_under hm hlive
    rw [hr.outside m (Nat.lt_of_lt_of_le (lt_size_of_live hl) hsize) hmd, hn m hm]

end step

/-- After a node was rewritten, those that come later are spared, and of those that were live just
the ones below a cleared node are gone. -/
theorem Spares.rewrite {d : Nat} {ns : List NodeId} {clears : Prop} (hw : WellFormed p)
    (hs : Spares p q (d :: ns)) (hd : SameBelow p q d) (hr : Rewrites q r d clears)
    (he : ∀ n ∈ ns, p.isElement n) (hnd : ∀ n ∈ ns, ¬ Under p n d) :
    Spares p r ns ∧ ∀ n ∈ ns, r.live? n = none ↔ q.live? n = none ∨ clears ∧ Under p d n := by
  have hboth : ∀ n ∈ ns, (r.live? n = none ∨ SameBelow p r n) ∧
      (r.live? n = none ↔ q.live? n = none ∨ clears ∧ Under p d n) := by
    intro n hn
    obtain ⟨node, tag, hl, -⟩ := isElement_iff.mp (he n hn)
    have hlt : n < q.nodes.size := Nat.lt_of_lt_of_le (lt_size_of_live hl) hs.size
    -- A later node stands below the rewritten one or apart from it, never above it.
    by_cases hu : Under p d n
    · have hq : q.live? n = some node := by rwa [hd.live? hu]
      rcases hr.below hd (hnd n hn) (he n hn) hu with ⟨hc, hgone⟩ | ⟨hc, hsame⟩
      · exact ⟨.inl hgone, by simp [hgone, hc, hu]⟩
      · have hlr : r.live? n = some node := by rwa [hsame.live? (.refl n)]
        exact ⟨.inr ((hd.below hu).trans hsame), by simp [hlr, hq, hc]⟩
    · obtain ⟨hlive, hsame⟩ := hr.apart hw hd hlt (hnd n hn) hs.size hu ⟨node, hl⟩
      constructor
      · rcases hs.each n (by simp [hn]) with hdead | hn'
        · exact .inl (hlive.trans hdead)
        · exact .inr (hsame hn')
      · simp [hlive, hu]
  refine ⟨⟨hr.wellFormed, hr.location.trans hs.location, Nat.le_trans hs.size hr.size, ?_,
    fun m hm => hs.elements m (hr.elements m hm)⟩, ?_⟩
  · exact fun n hn => (hboth n hn).1
  · exact fun n hn => (hboth n hn).2

end PageOverlay.Page

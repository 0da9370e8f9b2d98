import PageOverlay.Proofs.Change.Edits
import PageOverlay.Proofs.Page.Elements
import PageOverlay.Proofs.Page.Rewriting

/-!
# Changes that fail

A computation fails at the first of its parts that fails, and leaves the world that this part left.
It may be refused, which changes nothing, or clash with what it did itself, which leaves a page that
has lost an element. Recording a property of a live node is refused at elements only, for a property
without a name.
-/

set_option autoImplicit false

namespace PageOverlay.Change

variable {α β : Type} {x : Change α} {f : α → Change β} {w w' : World} {n : NodeId}
  {path value : String} {e : MutationError} {b : β}

theorem run_bind_eq_error :
    (x >>= f).run w = (.error e, w') ↔
      x.run w = (.error e, w') ∨ ∃ a v, x.run w = (.ok a, v) ∧ (f a).run v = (.error e, w') := by
  rw [run_bind]
  rcases hx : x.run w with ⟨d | a, v⟩
  · constructor
    · intro h
      cases h
      exact .inl rfl
    · rintro (h | ⟨a, v', h, -⟩)
      · cases h
        rfl
      · cases h
  · constructor
    · exact fun h => .inr ⟨a, v, rfl, h⟩
    · rintro (h | ⟨a', v', h, hf⟩)
      · cases h
      · cases h
        exact hf

theorem run_bind_eq_ok :
    (x >>= f).run w = (.ok b, w') ↔
      ∃ a v, x.run w = (.ok a, v) ∧ (f a).run v = (.ok b, w') := by
  rw [run_bind]
  rcases hx : x.run w with ⟨d | a, v⟩
  · constructor
    · intro h
      cases h
    · rintro ⟨a, v', h, -⟩
      cases h
  · constructor
    · exact fun h => ⟨a, v, rfl, h⟩
    · rintro ⟨a', v', h, hf⟩
      cases h
      exact hf

def Fails (x : Change α) (w : World) : Prop := ∃ e w', x.run w = (.error e, w')

def Succeeds (x : Change α) (w : World) : Prop := ∃ a w', x.run w = (.ok a, w')

/-- A computation that is refused fails at once; one that clashes fails on a page that has lost an
element. -/
def Outcome (x : Change α) (w : World) (refused clashes : Prop) : Prop :=
  (refused ∧ ∃ e, x.run w = (.error e, w)) ∨
    (clashes ∧ ∃ e w', x.run w = (.error e, w') ∧ w.page.Thinned w'.page) ∨
    (¬ refused ∧ ¬ clashes ∧ Succeeds x w)

variable {refused clashes : Prop}

theorem not_fails_of_ok {a : α} (h : x.run w = (.ok a, w')) : ¬ Fails x w := by
  rintro ⟨e, v, he⟩
  rw [h] at he
  cases he

theorem Succeeds.ne_error (h : Succeeds x w) : x.run w ≠ (.error e, w') := by
  obtain ⟨a, v, hrun⟩ := h
  intro herror
  exact not_fails_of_ok hrun ⟨e, w', herror⟩

theorem Succeeds.page {f : Page → Change α} (h : Succeeds (f w.page) w) :
    Succeeds (Change.page >>= f) w := by
  rwa [Succeeds, run_page_bind]

theorem Succeeds.map (h : Succeeds x w) (f : α → β) : Succeeds (x >>= fun a => pure (f a)) w := by
  obtain ⟨a, w', hrun⟩ := h
  refine ⟨f a, w', ?_⟩
  rw [run_bind, hrun]
  rfl

theorem Succeeds.when {b : Bool} {x : Change (Option α)} (h : b → Succeeds x w) :
    Succeeds (if b then x else pure none) w := by
  cases b with
  | true => exact h rfl
  | false => exact ⟨none, w, rfl⟩

theorem Succeeds.outcome (h : Succeeds x w) : Outcome x w False False :=
  .inr (.inr ⟨not_false, not_false, h⟩)

theorem Outcome.congr {refused' clashes' : Prop} (h : Outcome x w refused clashes)
    (hr : refused ↔ refused') (hc : clashes ↔ clashes') : Outcome x w refused' clashes' := by
  rwa [← propext hr, ← propext hc]

theorem Outcome.of_error (h : Outcome x w refused clashes) (hrun : x.run w = (.error e, w')) :
    (refused ∧ w' = w) ∨ (clashes ∧ w.page.Thinned w'.page) := by
  rcases h with ⟨hr, e', hrun'⟩ | ⟨hc, e', v, hrun', hthinned⟩ | ⟨-, -, h⟩
  · rw [hrun] at hrun'
    cases hrun'
    exact .inl ⟨hr, rfl⟩
  · rw [hrun] at hrun'
    cases hrun'
    exact .inr ⟨hc, hthinned⟩
  · exact absurd hrun h.ne_error

theorem Outcome.fails (h : Outcome x w refused clashes) (hf : refused ∨ clashes) : Fails x w := by
  rcases h with ⟨-, e, hrun⟩ | ⟨-, e, v, hrun, -⟩ | ⟨hr, hc, -⟩
  · exact ⟨e, w, hrun⟩
  · exact ⟨e, v, hrun⟩
  · exact absurd hf (not_or.mpr ⟨hr, hc⟩)

theorem Outcome.page {f : Page → Change α} (h : Outcome (f w.page) w refused clashes) :
    Outcome (Change.page >>= f) w refused clashes := by
  rwa [Outcome, Succeeds, run_page_bind]

theorem Outcome.map (h : Outcome x w refused clashes) (f : α → β) :
    Outcome (x >>= fun a => pure (f a)) w refused clashes := by
  rcases h with ⟨hr, e, hrun⟩ | ⟨hc, e, w', hrun, hthinned⟩ | ⟨hr, hc, h⟩
  · refine .inl ⟨hr, e, ?_⟩
    rw [run_bind, hrun, continueWith_error]
  · refine .inr (.inl ⟨hc, e, w', ?_, hthinned⟩)
    rw [run_bind, hrun, continueWith_error]
  · exact .inr (.inr ⟨hr, hc, h.map f⟩)

theorem Outcome.when {b : Bool} {x : Change (Option α)} (h : b → Outcome x w refused clashes) :
    Outcome (if b then x else pure none) w (b ∧ refused) (b ∧ clashes) := by
  cases b with
  | true => simpa using h rfl
  | false => exact .inr (.inr ⟨by simp, by simp, none, w, rfl⟩)

def Shrinks (w w' : World) : Prop :=
  (∃ us, Edits w us w') ∧ w'.page.snapshot.root.elements < w.page.snapshot.root.elements

theorem Shrinks.of_error {told : α → List Undo} (hw : w.page.Reachable) (hx : Tells [] x told)
    (h : x.run w = (.error e, w')) (ht : w.page.Thinned w'.page) : Shrinks w w' := by
  obtain ⟨us, hus⟩ := hx.edits_error h
  exact ⟨⟨us, hus⟩, ht.fewer hw.wellFormed (hus.reachable hw).wellFormed⟩

theorem run_record_accepted (hw : w.page.WellFormed) (ha : w.page.Accepts n path)
    (value : String) :
    ∃ u w', (record n path value).run w = (.ok u, w') ∧
      w.page.Rewrites w'.page n (w.page.Clears n path value) := by
  by_cases heq : (w.page.property? n path).getD "" = value
  · obtain ⟨node, hl⟩ := ha.1
    have hclears : w.page.Clears n path value = False := eq_false fun h => h.2.2.1 heq
    rw [hclears]
    exact ⟨none, w, run_record_of_eq heq, hw.rewrites_self hl⟩
  · obtain ⟨q, hq⟩ := Page.setProperty_isOk_iff.mpr ha
    exact ⟨_, _, run_record_of_set heq hq, hw.rewrites_setProperty heq hq⟩

theorem run_record_refused (ha : ¬ w.page.Accepts n path)
    (hne : (w.page.property? n path).getD "" ≠ value) :
    ∃ e, (record n path value).run w = (.error e, w) := by
  rw [run_record_of_ne hne]
  cases hq : w.page.setProperty n path value with
  | ok q => exact absurd (Page.setProperty_isOk_iff.mp ⟨q, hq⟩) ha
  | error e => exact ⟨e, rfl⟩

def Refuses (p : Page) (n : NodeId) (path value : String) : Prop :=
  p.isElement n ∧ path = "" ∧ (p.property? n path).getD "" ≠ value

theorem Outcome.record (hl : ∃ node, w.page.live? n = some node) (value : String) :
    Outcome (record n path value) w (Refuses w.page n path value) False := by
  by_cases hr : Refuses w.page n path value
  · have ha : ¬ w.page.Accepts n path := fun h => h.2 hr.1 hr.2.1
    exact .inl ⟨hr, run_record_refused ha hr.2.2⟩
  · refine .inr (.inr ⟨hr, not_false, ?_⟩)
    by_cases heq : (w.page.property? n path).getD "" = value
    · exact ⟨none, w, run_record_of_eq heq⟩
    · obtain ⟨q, hq⟩ := Page.setProperty_isOk_iff.mpr ⟨hl, fun he hp => hr ⟨he, hp, heq⟩⟩
      exact ⟨_, _, run_record_of_set heq hq⟩

theorem Succeeds.record (hl : ∃ node, w.page.live? n = some node) (hp : path ≠ "")
    (value : String) : Succeeds (record n path value) w := by
  rcases Outcome.record hl value with ⟨hr, -⟩ | ⟨hfalse, -⟩ | ⟨-, -, h⟩
  · exact absurd hr.2.1 hp
  · exact hfalse.elim
  · exact h

theorem Succeeds.insert (hl : ∃ node, w.page.live? n = some node) (tag : String)
    (fields : Fields String) : Succeeds (insert n tag fields) w := by
  obtain ⟨node, hl⟩ := hl
  rw [Succeeds, run_insert, Page.appendElement, Page.appendNode, hl]
  exact ⟨_, _, rfl⟩

def recorded (n : NodeId) (path value : String) : Change (List Undo) := do
  pure (← record n path value).toList

theorem run_recorded_gone (hgone : w.page.live? n = none) :
    (value ≠ "" ∧ ∃ e, (recorded n path value).run w = (.error e, w)) ∨
      (¬ value ≠ "" ∧ (recorded n path value).run w = (.ok [], w)) := by
  have hread : (w.page.property? n path).getD "" = "" := by
    rw [Page.property?, hgone, Option.getD_none]
  by_cases hv : value = ""
  · refine .inr ⟨not_not_intro hv, ?_⟩
    rw [recorded, run_bind, run_record_of_eq (hread.trans hv.symm)]
    rfl
  · have ha : ¬ w.page.Accepts n path := by
      rintro ⟨⟨node, hl⟩, -⟩
      rw [hgone] at hl
      cases hl
    obtain ⟨e, hrun⟩ := run_record_refused ha (hread ▸ Ne.symm hv)
    refine .inl ⟨hv, e, ?_⟩
    rw [recorded, run_bind, hrun, continueWith_error]

theorem run_recorded_accepted (hw : w.page.WellFormed)
    (ha : w.page.Accepts n path) (value : String) :
    ∃ us w', (recorded n path value).run w = (.ok us, w') ∧
      w.page.Rewrites w'.page n (w.page.Clears n path value) := by
  obtain ⟨u, w', hrun, hr⟩ := run_record_accepted hw ha value
  refine ⟨u.toList, w', ?_, hr⟩
  rw [recorded, run_bind, hrun]
  rfl

theorem run_record_plain (ha : w.page.Accepts n path)
    (hp : ¬ (w.page.isElement n ∧ path = Page.contentPath)) (value : String) :
    ∃ u w', (record n path value).run w = (.ok u, w') ∧
      ∀ m, w'.page.shape? m = w.page.shape? m := by
  by_cases heq : (w.page.property? n path).getD "" = value
  · exact ⟨none, w, run_record_of_eq heq, fun _ => rfl⟩
  · have hset := Page.setProperty_of_direct ha (fun he hc => absurd ⟨he, hc⟩ hp) value
    exact ⟨_, _, run_record_of_set heq hset, fun m => Page.shape?_putRaw⟩

theorem succeeds_recordAll {ns : List NodeId} (ha : ∀ n ∈ ns, w.page.Accepts n path)
    (hp : ∀ n ∈ ns, ¬ (w.page.isElement n ∧ path = Page.contentPath)) (value : String) :
    Succeeds (recordAll path value ns) w := by
  induction ns generalizing w with
  | nil => exact ⟨[], w, rfl⟩
  | cons n ns ih =>
    obtain ⟨u, v, hrun, hshape⟩ := run_record_plain (ha n (by simp)) (hp n (by simp)) value
    obtain ⟨us, w', hrest⟩ := ih
      (fun m hm => Page.accepts_congr (hshape m) (ha m (by simp [hm])))
      (fun m hm => by rw [Page.isElement_congr (hshape m)]; exact hp m (by simp [hm]))
    refine ⟨u.toList ++ us, w', ?_⟩
    rw [recordAll, run_bind, hrun, continueWith_ok, run_bind, hrest]
    rfl

theorem outcome_recordAll_nameless {ns : List NodeId} (he : ∀ n ∈ ns, w.page.isElement n)
    (value : String) :
    Outcome (recordAll "" value ns) w (∃ n ∈ ns, Refuses w.page n "" value) False := by
  induction ns with
  | nil => exact .inr (.inr ⟨by simp, not_false, [], w, rfl⟩)
  | cons n ns ih =>
    by_cases heq : (w.page.property? n "").getD "" = value
    · have hn : ¬ Refuses w.page n "" value := fun h => h.2.2 heq
      have hcons : (recordAll "" value (n :: ns)) = (record n "" value >>= fun first =>
          recordAll "" value ns >>= fun others => pure (first.toList ++ others)) := rfl
      rw [hcons, Outcome, Succeeds, run_bind, run_record_of_eq heq, continueWith_ok]
      refine ((ih fun m hm => he m (by simp [hm])).map _).congr ?_ .rfl
      simp [hn]
    · have hn : Refuses w.page n "" value := ⟨he n (by simp), rfl, heq⟩
      have ha : ¬ w.page.Accepts n "" := fun h => h.2 hn.1 rfl
      obtain ⟨e, hrun⟩ := run_record_refused ha heq
      refine .inl ⟨⟨n, by simp, hn⟩, e, ?_⟩
      rw [recordAll, run_bind, hrun, continueWith_error]

end PageOverlay.Change

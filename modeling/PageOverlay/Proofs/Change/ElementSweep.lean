import PageOverlay.Proofs.Change.Failing
import PageOverlay.Run.Labels

/-!
# Elements written in document order

One step writes one element, and the steps run in document order. A step that clears its element
takes away the elements of later steps, and such a step fails if it has something to write. So the
whole run fails just if an element is cleared above another one for which there is something to
write.
-/

set_option autoImplicit false

namespace PageOverlay.Change

open Labels (forAll)
open Page (Under SameBelow Spares)

variable {ι : Type} {step : ι → Change (List Undo)} {node : ι → NodeId}
  {bad clears : ι → Prop} {p q r : Page} {steps : List ι} {w w' : World}

structure Sweep (p : Page) (step : ι → Change (List Undo)) (node : ι → NodeId)
    (bad clears : ι → Prop) (steps : List ι) : Prop where
  gone : ∀ i ∈ steps, ∀ w : World, w.page.location = p.location →
    w.page.live? (node i) = none →
      (bad i ∧ ∃ e, (step i).run w = (.error e, w)) ∨
        (¬ bad i ∧ ∃ us, (step i).run w = (.ok us, w))
  there : ∀ i ∈ steps, ∀ w : World, Spares p w.page [node i] → SameBelow p w.page (node i) →
    ∃ us w', (step i).run w = (.ok us, w') ∧ w.page.Rewrites w'.page (node i) (clears i)
  element : ∀ i ∈ steps, p.isElement (node i)
  order : (steps.map node).Pairwise fun m n => ¬ Under p n m

theorem Sweep.tail {i : ι} (h : Sweep p step node bad clears (i :: steps)) :
    Sweep p step node bad clears steps where
  gone j hj := h.gone j (by simp [hj])
  there j hj := h.there j (by simp [hj])
  element j hj := h.element j (by simp [hj])
  order := (List.pairwise_cons.mp h.order).2

def Doomed (p q : Page) (node : ι → NodeId) (bad clears : ι → Prop) (steps : List ι) : Prop :=
  (∃ j ∈ steps, bad j ∧ q.live? (node j) = none) ∨
    ∃ i ∈ steps, ∃ j ∈ steps, clears i ∧ bad j ∧ node i ≠ node j ∧ Under p (node i) (node j) ∧
      q.live? (node i) ≠ none

theorem doomed_cons_gone {i : ι} (hb : ¬ bad i) (hi : q.live? (node i) = none) :
    Doomed p q node bad clears (i :: steps) ↔ Doomed p q node bad clears steps := by
  constructor
  · rintro (⟨j, hj, hbj, hq⟩ | ⟨k, hk, j, hj, hc, hbj, hne, hu, hq⟩)
    · rcases List.mem_cons.mp hj with rfl | hj
      · exact absurd hbj hb
      · exact .inl ⟨j, hj, hbj, hq⟩
    · rcases List.mem_cons.mp hk with rfl | hk
      · exact absurd hi hq
      · rcases List.mem_cons.mp hj with rfl | hj
        · exact absurd hbj hb
        · exact .inr ⟨k, hk, j, hj, hc, hbj, hne, hu, hq⟩
  · rintro (⟨j, hj, h⟩ | ⟨k, hk, j, hj, h⟩)
    · exact .inl ⟨j, by simp [hj], h⟩
    · exact .inr ⟨k, by simp [hk], j, by simp [hj], h⟩

theorem doomed_cons_there {i : ι} (hi : q.live? (node i) ≠ none)
    (hnd : ∀ j ∈ steps, ¬ Under p (node j) (node i))
    (hr : ∀ j ∈ steps, r.live? (node j) = none ↔
      q.live? (node j) = none ∨ clears i ∧ Under p (node i) (node j)) :
    Doomed p q node bad clears (i :: steps) ↔ Doomed p r node bad clears steps := by
  constructor
  · rintro (⟨j, hj, hbj, hq⟩ | ⟨k, hk, j, hj, hc, hbj, hne, hu, hq⟩)
    · rcases List.mem_cons.mp hj with rfl | hj
      · exact absurd hq hi
      · exact .inl ⟨j, hj, hbj, (hr j hj).mpr (.inl hq)⟩
    · rcases List.mem_cons.mp hj with rfl | hj
      · rcases List.mem_cons.mp hk with rfl | hk
        · exact absurd rfl hne
        · exact absurd hu (hnd k hk)
      · have hmem := hj
        rcases List.mem_cons.mp hk with rfl | hk
        · exact .inl ⟨j, hmem, hbj, (hr j hmem).mpr (.inr ⟨hc, hu⟩)⟩
        -- If the clearing element `k` goes itself, what cleared it stands above `j` as well.
        · by_cases hgone : r.live? (node k) = none
          · obtain ⟨hci, hui⟩ := ((hr k hk).mp hgone).resolve_left hq
            exact .inl ⟨j, hj, hbj, (hr j hj).mpr (.inr ⟨hci, hui.trans hu⟩)⟩
          · exact .inr ⟨k, hk, j, hj, hc, hbj, hne, hu, hgone⟩
  · rintro (⟨j, hj, hbj, hgone⟩ | ⟨k, hk, j, hj, hc, hbj, hne, hu, hlive⟩)
    · rcases (hr j hj).mp hgone with hq | ⟨hci, hui⟩
      · exact .inl ⟨j, by simp [hj], hbj, hq⟩
      · have hne : node i ≠ node j := fun h => hnd j hj (h ▸ .refl (node i))
        exact .inr ⟨i, by simp, j, by simp [hj], hci, hbj, hne, hui, hi⟩
    · refine .inr ⟨k, by simp [hk], j, by simp [hj], hc, hbj, hne, hu, fun hq => ?_⟩
      exact hlive ((hr k hk).mpr (.inl hq))

/-- The run fails just if an element with something to write goes before its turn, and then the page
has lost an element. -/
def Ends (p : Page) (step : ι → Change (List Undo)) (node : ι → NodeId) (bad clears : ι → Prop)
    (steps : List ι) (w : World) : Prop :=
  (Doomed p w.page node bad clears steps ∧
    ∃ e w', (forAll step steps).run w = (.error e, w') ∧ p.Thinned w'.page) ∨
  (¬ Doomed p w.page node bad clears steps ∧ Succeeds (forAll step steps) w)

theorem Ends.cons {i : ι} {us : List Undo} (hstep : (step i).run w = (.ok us, w'))
    (hiff : Doomed p w.page node bad clears (i :: steps) ↔
      Doomed p w'.page node bad clears steps)
    (h : Ends p step node bad clears steps w') : Ends p step node bad clears (i :: steps) w := by
  rw [Ends, Succeeds, hiff, forAll, run_bind, hstep, continueWith_ok, run_bind]
  rcases h with ⟨hdoomed, e, v, hrun, hthinned⟩ | ⟨hdoomed, vs, v, hrun⟩
  · rw [hrun]
    exact .inl ⟨hdoomed, e, v, rfl, hthinned⟩
  · rw [hrun]
    exact .inr ⟨hdoomed, us ++ vs, v, rfl⟩

theorem Sweep.ends (hw : p.WellFormed) (h : Sweep p step node bad clears steps)
    (hs : Spares p w.page (steps.map node)) : Ends p step node bad clears steps w := by
  induction steps generalizing w with
  | nil =>
    refine .inr ⟨?_, [], w, rfl⟩
    rintro (⟨j, hj, -⟩ | ⟨i, hi, -⟩)
    · cases hj
    · cases hi
  | cons i rest ih =>
    have hlater : ∀ j ∈ rest, ¬ Under p (node j) (node i) := by
      intro j hj
      exact (List.pairwise_cons.mp h.order).1 (node j) (List.mem_map_of_mem hj)
    -- Either an earlier step has removed the element, or none has changed anything below it.
    rcases hs.each (node i) (by simp) with hgone | hsame
    · rcases h.gone i (by simp) w hs.location hgone with ⟨hb, e, hstep⟩ | ⟨hb, us, hstep⟩
      · left
        have hnot : ¬ w.page.isElement (node i) := by
          rw [Page.isElement_iff]
          rintro ⟨found, tag, hl, -⟩
          rw [hgone] at hl
          cases hl
        refine ⟨.inl ⟨i, by simp, hb, hgone⟩, e, w, ?_,
          ⟨hs.elements, node i, h.element i (by simp), hnot⟩⟩
        rw [forAll, run_bind, hstep, continueWith_error]
      · have hrest := ih h.tail (hs.mono fun _ hn => List.mem_cons_of_mem _ hn)
        exact .cons hstep (doomed_cons_gone hb hgone) hrest
    · obtain ⟨us, w', hstep, hr⟩ := h.there i (by simp) w (hs.mono (by simp)) hsame
      obtain ⟨found, tag, hl, -⟩ := Page.isElement_iff.mp (h.element i (by simp))
      have hlive : w.page.live? (node i) ≠ none := by simp [hsame.live? (.refl (node i)), hl]
      obtain ⟨hspares, hdead⟩ := Spares.rewrite hw hs hsame hr
        (List.forall_mem_map.mpr fun j hj => h.element j (by simp [hj]))
        (List.forall_mem_map.mpr hlater)
      refine .cons hstep ?_ (ih h.tail hspares)
      exact doomed_cons_there hlive hlater fun j hj => hdead (node j) (List.mem_map_of_mem hj)

/-- Some element is cleared above another one with something to write. -/
def Clash (p : Page) (node : ι → NodeId) (bad clears : ι → Prop) (steps : List ι) : Prop :=
  ∃ i ∈ steps, ∃ j ∈ steps, clears i ∧ bad j ∧ node i ≠ node j ∧ Under p (node i) (node j)

theorem Sweep.outcome (hw : w.page.WellFormed) (h : Sweep w.page step node bad clears steps) :
    Outcome (forAll step steps) w False (Clash w.page node bad clears steps) := by
  have hlive : ∀ i ∈ steps, w.page.live? (node i) ≠ none := by
    intro i hi
    obtain ⟨found, tag, hl, -⟩ := Page.isElement_iff.mp (h.element i hi)
    simp [hl]
  have hdoomed : Doomed w.page w.page node bad clears steps ↔
      Clash w.page node bad clears steps := by
    constructor
    · rintro (⟨j, hj, -, hgone⟩ | ⟨i, hi, j, hj, hc, hb, hne, hu, -⟩)
      · exact absurd hgone (hlive j hj)
      · exact ⟨i, hi, j, hj, hc, hb, hne, hu⟩
    · rintro ⟨i, hi, j, hj, hc, hb, hne, hu⟩
      exact .inr ⟨i, hi, j, hj, hc, hb, hne, hu, hlive i hi⟩
  rcases h.ends hw (hw.spares_self _) with ⟨hd, hfails⟩ | ⟨hd, hsucceeds⟩
  · exact .inr (.inl ⟨hdoomed.mp hd, hfails⟩)
  · exact .inr (.inr ⟨not_false, fun hc => hd (hdoomed.mpr hc), hsucceeds⟩)

def TextClash (p : Page) (texts : List (NodeId × String)) : Prop :=
  Clash p Prod.fst (fun t => t.2 ≠ "") (fun t => p.Clears t.1 Page.contentPath t.2) texts

def writeText (text : NodeId × String) : Change (List Undo) :=
  recorded text.1 Page.contentPath text.2

theorem recordAll_eq_forAll (path value : String) (ns : List NodeId) :
    recordAll path value ns = forAll (fun n => recorded n path value) ns := by
  induction ns with
  | nil => rfl
  | cons n ns ih => simp only [recordAll, forAll, recorded, bind_assoc, pure_bind, ih]

theorem forAll_map {κ : Type} (f : κ → ι) (as : List κ) :
    forAll step (as.map f) = forAll (fun a => step (f a)) as := by
  induction as with
  | nil => rfl
  | cons a as ih => simp only [List.map_cons, forAll, ih]

theorem sweep_texts (hw : p.WellFormed) {texts : List (NodeId × String)}
    (he : ∀ t ∈ texts, p.isElement t.1)
    (ho : (texts.map Prod.fst).Pairwise fun m n => ¬ Under p n m) :
    Sweep p writeText Prod.fst (fun t => t.2 ≠ "")
      (fun t => p.Clears t.1 Page.contentPath t.2) texts where
  gone t _ w _ hgone := by
    rcases run_recorded_gone hgone with h | ⟨ht, hrun⟩
    · exact .inl h
    · exact .inr ⟨ht, [], hrun⟩
  there t ht w hs hsame := by
    obtain ⟨node, tag, hl, -⟩ := Page.isElement_iff.mp (he t ht)
    have ha : w.page.Accepts t.1 Page.contentPath :=
      ⟨⟨node, (hsame.live? (.refl t.1)).trans hl⟩, fun _ => by decide⟩
    obtain ⟨us, w', hrun, hr⟩ := run_recorded_accepted hs.wellFormed ha t.2
    rw [propext (hsame.clears_iff hw hs.size hl)] at hr
    exact ⟨us, w', hrun, hr⟩
  element := he
  order := ho

theorem outcome_writeTexts (hw : w.page.WellFormed) {texts : List (NodeId × String)}
    (he : ∀ t ∈ texts, w.page.isElement t.1)
    (ho : (texts.map Prod.fst).Pairwise fun m n => ¬ Under w.page n m) :
    Outcome (forAll writeText texts) w False (TextClash w.page texts) :=
  (sweep_texts hw he ho).outcome hw

end PageOverlay.Change

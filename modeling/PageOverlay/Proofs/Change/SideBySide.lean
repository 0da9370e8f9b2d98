import PageOverlay.Proofs.Change.ElementSweep
import PageOverlay.Proofs.Change.RevertingAgain

/-!
# Texts written side by side

Of several elements none stands inside of another. Their texts are written one after the other, and
no write is seen by the elements that come later or have had their turn. So each of them holds its
own text in the end, and nothing has changed outside of them.
-/

set_option autoImplicit false

namespace PageOverlay

namespace Page

variable {p q r : Page} {m n : Nat} {node : Node} {value : String}

def Aside (p : Page) (m n : NodeId) : Prop := ¬ Under p m n ∧ ¬ Under p n m

/-- The element has the text for its content. If it had it before, nothing has changed below it. -/
structure Shows (p q : Page) (n : NodeId) (value : String) : Prop where
  same : (p.property? n contentPath).getD "" = value → SameBelow p q n
  text : (p.property? n contentPath).getD "" ≠ value →
    ∃ t, q.children n = [t] ∧ q.isText t ∧ q.stored? t dataPath = some value
  kind : q.kind? n = p.kind? n
  stored : ∀ key, q.stored? n key = p.stored? n key

structure ShowsAll (p q : Page) (texts : List (NodeId × String)) : Prop where
  location : q.location = p.location
  each : ∀ t ∈ texts, Shows p q t.1 t.2
  outside : ∀ m, m < p.nodes.size → (∀ t ∈ texts, ¬ Under p t.1 m) → q.nodes[m]? = p.nodes[m]?

theorem SameBelow.kind? (h : SameBelow p q n) : q.kind? n = p.kind? n := by
  rw [Page.kind?, Page.kind?, h.live? (.refl n)]

theorem SameBelow.isElement (h : SameBelow p q n) : q.isElement n = p.isElement n :=
  isElement_congr (h.shape? (.refl n))

theorem SameBelow.aside_iff (hm : SameBelow p q m) (hn : SameBelow p q n) :
    Aside q m n ↔ Aside p m n := by
  rw [Aside, Aside, hm.under_iff, hn.under_iff]

theorem Shows.of_sameBelow (h : Shows r q n value) (hr : SameBelow p r n) (hw : p.WellFormed)
    (hsize : p.nodes.size ≤ r.nodes.size) (hn : p.live? n = some node) : Shows p q n value where
  same hsame := hr.trans (h.same (by rwa [hr.property? hw hsize hn]))
  text hne := h.text (by rwa [hr.property? hw hsize hn])
  kind := h.kind.trans hr.kind?
  stored key := (h.stored key).trans (hr.stored? (.refl n))

namespace WellFormed

theorem not_under_of_aside (hw : WellFormed p) (h : Aside p m n) {k : Nat} (hk : Under p m k) :
    ¬ Under p n k := by
  intro hnk
  rcases hw.comparable hk hnk with hle | hle
  · exact h.1 hle
  · exact h.2 hle

theorem not_under_text (hw : WellFormed p) {t : Nat} (hc : t ∈ p.children n) (ht : p.isText t)
    (hm : p.isElement m) (hu : ¬ Under p m n) : ¬ Under p m t := by
  intro h
  rcases h.last with rfl | ⟨up, hup, hmem⟩
  · exact not_isElement_of_isText ht hm
  · rw [hw.parent_of_child hmem hc] at hup
    exact hu hup

end WellFormed

variable {texts : List (NodeId × String)}

theorem SetsContent.sameBelow (h : SetsContent p r n value) (hw : p.WellFormed)
    (hm : p.isElement m) (ha : Aside p n m) : SameBelow p r m := by
  intro k hk
  obtain ⟨found, tag, hl, -⟩ := isElement_iff.mp hm
  obtain ⟨node, hlive⟩ := hw.live_of_under hk ⟨found, hl⟩
  exact h.outside k (lt_size_of_live hlive) (hw.not_under_of_aside ⟨ha.2, ha.1⟩ hk)

theorem ShowsAll.cons_same (h : ShowsAll p q texts) (hw : p.WellFormed) (hn : p.isElement n)
    (hsame : (p.property? n contentPath).getD "" = value) (ha : ∀ t ∈ texts, Aside p n t.1) :
    ShowsAll p q ((n, value) :: texts) where
  location := h.location
  each := by
    have hbelow : SameBelow p q n := by
      intro m hm
      obtain ⟨found, tag, hl, -⟩ := isElement_iff.mp hn
      obtain ⟨node, hlive⟩ := hw.live_of_under hm ⟨found, hl⟩
      exact h.outside m (lt_size_of_live hlive) fun t ht => hw.not_under_of_aside (ha t ht) hm
    refine List.forall_mem_cons.mpr ⟨⟨fun _ => hbelow, fun hne => absurd hsame hne, hbelow.kind?,
      fun key => hbelow.stored? (.refl n)⟩, h.each⟩
  outside m hm hu := h.outside m hm fun t ht => hu t (List.mem_cons_of_mem _ ht)

theorem ShowsAll.cons_new (h : ShowsAll r q texts) (hw : p.WellFormed) (hr : r.WellFormed)
    (hset : SetsContent p r n value) (hsize : p.nodes.size ≤ r.nodes.size) (hn : p.isElement n)
    (hne : (p.property? n contentPath).getD "" ≠ value) (he : ∀ t ∈ texts, p.isElement t.1)
    (ha : ∀ t ∈ texts, Aside p n t.1) : ShowsAll p q ((n, value) :: texts) := by
  have hsame : ∀ t ∈ texts, SameBelow p r t.1 :=
    fun t ht => hset.sameBelow hw (he t ht) (ha t ht)
  have hapart : ∀ t ∈ texts, ¬ Under r t.1 n := by
    intro t ht hu
    exact (ha t ht).2 ((hsame t ht).under_iff.mp hu)
  obtain ⟨found, tag, hl, hk⟩ := isElement_iff.mp hn
  have hkept : q.nodes[n]? = r.nodes[n]? :=
    h.outside n (Nat.lt_of_lt_of_le (lt_size_of_live hl) hsize) hapart
  refine ⟨h.location.trans hset.location, List.forall_mem_cons.mpr ⟨⟨fun hs => absurd hs hne,
    fun _ => ?_, ?_, ?_⟩, fun t ht => ?_⟩, fun m hm hu => ?_⟩
  · -- the new text stands below none of the later elements
    obtain ⟨t, hc, htext, hdata⟩ := hset.text
    obtain ⟨only, hlive, -⟩ := isText_iff.mp htext
    have hmem : t ∈ r.children n := hc ▸ List.mem_singleton_self t
    have htkept : q.nodes[t]? = r.nodes[t]? := by
      refine h.outside t (lt_size_of_live hlive) fun s hs => ?_
      exact hr.not_under_text hmem htext ((hsame s hs).isElement.trans (he s hs)) (hapart s hs)
    refine ⟨t, ?_, ?_, ?_⟩
    · rw [← hc, Page.children, Page.children, live?_congr hkept]
    · rwa [isText, Page.kind?, live?_congr htkept]
    · rw [← hdata, Page.stored?, Page.stored?, htkept]
  · rw [← hset.kind, Page.kind?, Page.kind?, live?_congr hkept]
  · intro key
    rw [← hset.stored key, Page.stored?, Page.stored?, hkept]
  · obtain ⟨node, tag, hl, -⟩ := isElement_iff.mp (he t ht)
    exact (h.each t ht).of_sameBelow (hsame t ht) hw hsize hl
  · rw [h.outside m (Nat.lt_of_lt_of_le hm hsize) fun t ht hr =>
        hu t (List.mem_cons_of_mem _ ht) ((hsame t ht).under_iff.mp hr),
      hset.outside m hm (hu (n, value) List.mem_cons_self)]

end Page

namespace Change

open Labels (forAll)
open Page (Aside SetsContent ShowsAll)

variable {w : World} {texts : List (NodeId × String)}

/-- The record of a value that is set, unless the property has that value already. -/
def undo? (p : Page) (n : NodeId) (path value : String) : Option Undo :=
  let before := (p.property? n path).getD ""
  if before = value then none else some (.property n path before value)

def textUndo? (p : Page) (text : NodeId × String) : Option Undo :=
  undo? p text.1 Page.contentPath text.2

theorem run_writeText_same {text : NodeId × String}
    (h : (w.page.property? text.1 Page.contentPath).getD "" = text.2) :
    (writeText text).run w = (.ok [], w) := by
  rw [writeText, recorded, run_bind, run_record_of_eq h]
  rfl

theorem run_writeText_new {text : NodeId × String} (hw : w.page.WellFormed)
    (he : w.page.isElement text.1)
    (hne : (w.page.property? text.1 Page.contentPath).getD "" ≠ text.2) :
    ∃ q, (writeText text).run w = (.ok (textUndo? w.page text).toList, { w with page := q }) ∧
      q.WellFormed ∧ w.page.nodes.size ≤ q.nodes.size ∧ SetsContent w.page q text.1 text.2 := by
  obtain ⟨node, tag, hn, hk⟩ := Page.isElement_iff.mp he
  have hset : w.page.setProperty text.1 Page.contentPath text.2 =
      .ok (w.page.setContent text.1 text.2) := by
    rw [Page.setProperty_of_element hn hk, if_pos rfl]
  refine ⟨w.page.setContent text.1 text.2, ?_, hw.setContent hn _,
    (hw.rewrites_setContent hn text.2).size, Page.setsContent_setContent hw hn he _⟩
  rw [writeText, recorded, run_bind, run_record_of_set hne hset, textUndo?, undo?, if_neg hne]
  rfl

theorem run_writeTexts_same
    (h : ∀ t ∈ texts, (w.page.property? t.1 Page.contentPath).getD "" = t.2) :
    (forAll writeText texts).run w = (.ok [], w) := by
  induction texts with
  | nil => rfl
  | cons t texts ih =>
    obtain ⟨ht, hrest⟩ := List.forall_mem_cons.mp h
    rw [forAll, run_bind, run_writeText_same ht, continueWith_ok, run_bind, ih hrest]
    rfl

/-- All texts get into their elements, and the answer tells those that were not there before. -/
theorem run_writeTexts_aside (hw : w.page.WellFormed) (he : ∀ t ∈ texts, w.page.isElement t.1)
    (ha : texts.Pairwise fun s t => Aside w.page s.1 t.1) :
    ∃ q, (forAll writeText texts).run w =
        (.ok (texts.filterMap (textUndo? w.page)), { w with page := q }) ∧
      w.page.nodes.size ≤ q.nodes.size ∧ ShowsAll w.page q texts := by
  induction texts generalizing w with
  | nil => exact ⟨w.page, rfl, Nat.le_refl _, rfl, fun t ht => absurd ht List.not_mem_nil,
      fun _ _ _ => rfl⟩
  | cons t texts ih =>
    obtain ⟨hte, hrest⟩ := List.forall_mem_cons.mp he
    obtain ⟨hta, hpairs⟩ := List.pairwise_cons.mp ha
    by_cases hsame : (w.page.property? t.1 Page.contentPath).getD "" = t.2
    · obtain ⟨q, hrun, hsize, hall⟩ := ih hw hrest hpairs
      refine ⟨q, ?_, hsize, hall.cons_same hw hte hsame hta⟩
      rw [forAll, run_bind, run_writeText_same hsame, continueWith_ok, run_bind, hrun,
        List.filterMap_cons_none (by rw [textUndo?, undo?, if_pos hsame])]
      rfl
    · obtain ⟨r, hstep, hr, hle, hset⟩ := run_writeText_new hw hte hsame
      have hbelow : ∀ s ∈ texts, w.page.SameBelow r s.1 :=
        fun s hs => hset.sameBelow hw (hrest s hs) (hta s hs)
      have hread : ∀ s ∈ texts, textUndo? r s = textUndo? w.page s := by
        intro s hs
        obtain ⟨node, tag, hn, -⟩ := Page.isElement_iff.mp (hrest s hs)
        rw [textUndo?, textUndo?, undo?, undo?, (hbelow s hs).property? hw hle hn]
      obtain ⟨q, hrun, hsize, hall⟩ := @ih { w with page := r } hr
        (fun s hs => (hbelow s hs).isElement.trans (hrest s hs))
        (hpairs.imp_of_mem fun hs hs' h => ((hbelow _ hs).aside_iff (hbelow _ hs')).mpr h)
      refine ⟨q, ?_, Nat.le_trans hle hsize, hall.cons_new hw hr hset hle hte hsame hrest hta⟩
      have hundo : textUndo? w.page t = some (.property t.1 Page.contentPath
          ((w.page.property? t.1 Page.contentPath).getD "") t.2) := by
        rw [textUndo?, undo?, if_neg hsame]
      rw [forAll, run_bind, hstep, continueWith_ok, run_bind, hrun, hundo,
        List.filterMap_cons_some hundo, List.filterMap_congr hread]
      rfl

end Change
end PageOverlay

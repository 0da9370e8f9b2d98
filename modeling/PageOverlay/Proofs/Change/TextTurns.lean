import PageOverlay.Proofs.Change.Outcome
import PageOverlay.Proofs.Page.Cells

/-!
# Turning one text into another

A text stands in a property of its own. Some computations never fail and change nothing but this
text, and they are put together from others of this kind.
-/

set_option autoImplicit false

namespace PageOverlay

namespace Page

variable {p q r : Page} {n : NodeId} {path old new : String}

structure Sets (p q : Page) (n : NodeId) (path value : String) : Prop where
  location : q.location = p.location
  shape : ∀ m, q.shape? m = p.shape? m
  others : ∀ m key, (m, key) ≠ (n, path) → q.stored? m key = p.stored? m key
  value : q.stored? n path = some value

theorem Sets.refl (h : p.stored? n path = some old) : Sets p p n path old :=
  ⟨rfl, fun _ => rfl, fun _ _ _ => rfl, h⟩

theorem Sets.trans (h : Sets p q n path old) (g : Sets q r n path new) : Sets p r n path new where
  location := g.location.trans h.location
  shape m := (g.shape m).trans (h.shape m)
  others m key hm := (g.others m key hm).trans (h.others m key hm)
  value := g.value

theorem Sets.elementOf (h : Sets p q n path new) (m : NodeId) : q.elementOf m = p.elementOf m :=
  elementOf_congr (h.shape m)

theorem sets_putRaw (hn : n < p.nodes.size) : Sets p (p.putRaw n path new) n path new where
  location := rfl
  shape _ := shape?_putRaw
  others m key hm := by
    rw [stored?_putRaw hn, if_neg]
    rintro ⟨rfl, rfl⟩
    exact hm rfl
  value := by rw [stored?_putRaw hn, if_pos ⟨rfl, rfl⟩]

def Keeps (p : Page) (n : NodeId) (path : String) : Prop :=
  ∃ node, p.live? n = some node ∧
    match node.kind with
    | .element _ => path ≠ "" ∧ path ≠ contentPath
    | .text => textPath path = path
    | .other => True

theorem keeps_data (h : p.isText n) : p.Keeps n dataPath := by
  obtain ⟨node, hn, hk⟩ := isText_iff.mp h
  refine ⟨node, hn, ?_⟩
  rw [hk]
  decide

theorem keeps_of_element (h : p.isElement n) (he : path ≠ "") (hc : path ≠ contentPath) :
    p.Keeps n path := by
  obtain ⟨node, tag, hn, hk⟩ := isElement_iff.mp h
  refine ⟨node, hn, ?_⟩
  rw [hk]
  exact ⟨he, hc⟩

theorem Keeps.congr (h : p.Keeps n path) (hq : q.shape? n = p.shape? n) : q.Keeps n path := by
  obtain ⟨node, hn, hpath⟩ := h
  obtain ⟨node', hn', hk, -⟩ := live_of_shape hq hn
  refine ⟨node', hn', ?_⟩
  rwa [hk]

theorem Keeps.property? (h : p.Keeps n path) : p.property? n path = p.stored? n path := by
  obtain ⟨node, hn, hpath⟩ := h
  cases hk : node.kind with
  | element tag =>
    rw [hk] at hpath
    rw [property?_of_element hn hk, if_neg hpath.2, Option.or_none]
  | text =>
    rw [hk] at hpath
    rw [property?_of_text hn hk, hpath]
  | other => exact property?_of_other hn hk

theorem Keeps.exists_setProperty (h : p.Keeps n path) (value : String) :
    ∃ q, p.setProperty n path value = .ok q ∧ Sets p q n path value := by
  obtain ⟨node, hn, hpath⟩ := h
  refine ⟨p.putRaw n path value, ?_, sets_putRaw (lt_size_of_live hn)⟩
  cases hk : node.kind with
  | element tag =>
    rw [hk] at hpath
    rw [setProperty_of_element hn hk, if_neg hpath.2, if_neg hpath.1]
  | text =>
    rw [hk] at hpath
    rw [setProperty_of_text hn hk, hpath]
  | other => exact setProperty_of_other hn hk

end Page

/-- The computation comes to its end, and all that it does is to set the text. -/
def Turns {α : Type} (x : Change α) (w : World) (n : NodeId) (path : String) (new : List Char) :
    Prop :=
  ∃ a q, x.run w = (.ok a, { w with page := q }) ∧ w.page.Sets q n path (String.ofList new)

structure TextAt (p : Page) (n : NodeId) (path : String) (text : List Char) : Prop where
  keeps : p.Keeps n path
  stored : p.stored? n path = some (String.ofList text)

theorem TextAt.property? {p : Page} {n : NodeId} {path : String} {text : List Char}
    (h : TextAt p n path text) : p.property? n path = some (String.ofList text) :=
  h.keeps.property?.trans h.stored

theorem TextAt.of_sets {p q : Page} {n : NodeId} {path : String} {text new : List Char}
    (h : TextAt p n path text) (hq : p.Sets q n path (String.ofList new)) : TextAt q n path new :=
  ⟨h.keeps.congr (hq.shape n), hq.value⟩

namespace Turns

variable {α β : Type} {x : Change α} {w : World} {n : NodeId} {path : String}
  {text mid new : List Char}

theorem pure (h : TextAt w.page n path text) (a : α) : Turns (pure a : Change α) w n path text :=
  ⟨a, w.page, rfl, .refl h.stored⟩

/-- What follows may count on the text that the first part left, and on all else being the same. -/
theorem bind {f : α → Change β} (h : TextAt w.page n path text) (hx : Turns x w n path mid)
    (hf : ∀ a (v : World), TextAt v.page n path mid →
      w.page.Sets v.page n path (String.ofList mid) → Turns (f a) v n path new) :
    Turns (x >>= f) w n path new := by
  obtain ⟨a, q, hrun, hq⟩ := hx
  obtain ⟨b, r, hrest, hr⟩ := hf a { w with page := q } (h.of_sets hq) hq
  exact ⟨b, r, by rw [Change.run_bind, hrun, Change.continueWith_ok, hrest], hq.trans hr⟩

theorem page {f : Page → Change α} (hf : Turns (f w.page) w n path new) :
    Turns (Change.page >>= f) w n path new := by
  obtain ⟨a, q, hrun, hq⟩ := hf
  exact ⟨a, q, by rw [Change.run_page_bind, hrun], hq⟩

theorem when {b : Bool} {x : Change (Option α)} (h : TextAt w.page n path text)
    (hx : Turns x w n path new) :
    Turns (if b then x else Pure.pure none) w n path (if b then new else text) := by
  cases b with
  | true => exact hx
  | false => exact pure h none

theorem record (h : TextAt w.page n path text) (new : List Char) :
    Turns (Change.record n path (String.ofList new)) w n path new := by
  by_cases hnew : text = new
  · subst hnew
    have heq : (w.page.property? n path).getD "" = String.ofList text := by
      rw [h.property?, Option.getD_some]
    exact ⟨none, w.page, Change.run_record_of_eq heq, .refl h.stored⟩
  · have hne : (w.page.property? n path).getD "" ≠ String.ofList new := by
      rw [h.property?, Option.getD_some]
      exact fun hs => hnew (String.ofList_injective hs)
    obtain ⟨q, hset, hq⟩ := h.keeps.exists_setProperty (String.ofList new)
    exact ⟨_, q, Change.run_record_of_set hne hset, hq⟩

end Turns
end PageOverlay

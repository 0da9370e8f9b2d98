import PageOverlay.Proofs.Change.Reverting
import PageOverlay.Proofs.Page.ReadingBack
import PageOverlay.Proofs.Page.Refilling

/-!
# Taking a change back at once

A recorded change that is taken back before anything else happens leaves the page as it was, up to
empty properties, unless the text of an element was changed. A record of that knows the text alone:
the nodes that stood below the element do not come back, and a text that is stored in the element
keeps the one below it from being taken back.
-/

set_option autoImplicit false

namespace PageOverlay

namespace Page

variable {p q r : Page} {n : Nat} {node : Node} {path value : String}

/-- Setting the property loses what stands below an element, since the record of it does not say
what that was: not just one text, or one that a stored text hides and that is not the one set. -/
def LosesContent (p : Page) (n : NodeId) (path value : String) : Prop :=
  p.isElement n ∧ path = contentPath ∧
    (¬ OneText p n ∨ p.stored? n contentPath ≠ none ∧ p.textContent n ≠ value)

inductive Reset (p : Page) (n : NodeId) (path value : String) : Page → Prop
  | back {q r : Page} (hq : p.setProperty n path value = .ok q)
      (hread : q.property? n path = some value)
      (hr : q.setProperty n path ((p.property? n path).getD "") = .ok r) : Reset p n path value r
  | kept {q : Page} (hq : p.setProperty n path value = .ok q)
      (hread : q.property? n path ≠ some value) : Reset p n path value q

structure Onward (p q : Page) (n : NodeId) : Prop where
  wellFormed : WellFormed q
  location : q.location = p.location
  before : ∀ m, m < n → q.nodes[m]? = p.nodes[m]?

theorem Onward.trans (h : Onward p q n) (g : Onward q r n) : Onward p r n where
  wellFormed := g.wellFormed
  location := g.location.trans h.location
  before m hm := (g.before m hm).trans (h.before m hm)

namespace WellFormed

variable (hw : WellFormed p)

include hw

theorem onward (hne : (p.property? n path).getD "" ≠ value)
    (h : p.setProperty n path value = .ok q) : Onward p q n := by
  obtain ⟨⟨node, hn⟩, -⟩ := setProperty_isOk_iff.mp ⟨q, h⟩
  have hr := hw.rewrites_setProperty hne h
  refine ⟨hr.wellFormed, hr.location, fun m hm => ?_⟩
  exact hr.outside m (Nat.lt_trans hm (lt_size_of_live hn)) fun hu =>
    absurd (hw.le_of_under hu) (Nat.not_le_of_lt hm)

theorem accepts_setProperty (hne : (p.property? n path).getD "" ≠ value)
    (h : p.setProperty n path value = .ok q) : q.Accepts n path := by
  have hr := hw.rewrites_setProperty hne h
  have ha := setProperty_isOk_iff.mp ⟨q, h⟩
  exact ⟨hr.live, fun he => ha.2 (hr.elements n he)⟩

theorem content_setProperty (he : p.isElement n) (h : p.setProperty n contentPath value = .ok q) :
    q.isElement n ∧ (∀ key, q.stored? n key = p.stored? n key) ∧
      ∃ t, q.children n = [t] ∧ q.isText t ∧ q.stored? t dataPath = some value := by
  obtain ⟨node, tag, hn, hk⟩ := isElement_iff.mp he
  rw [setProperty_of_element hn hk, if_pos rfl, Except.ok.injEq] at h
  obtain ⟨node', hn', hk'⟩ := hw.live_setContent hn value
  obtain ⟨t, hc, ht, hdata, hstored⟩ := hw.setContent_spec hn he value
  rw [← h]
  exact ⟨isElement_iff.mpr ⟨node', tag, hn', hk'.trans hk⟩, hstored, t, hc, ht, hdata⟩

end WellFormed

namespace Reset

variable (hw : WellFormed p) (hne : (p.property? n path).getD "" ≠ value)
  (h : Reset p n path value q)

include hw hne h

theorem onward : Onward p q n := by
  cases h with
  | kept hq => exact hw.onward hne hq
  | back hq hread hr =>
    have hfirst := hw.onward hne hq
    refine hfirst.trans (hfirst.wellFormed.onward ?_ hr)
    rw [hread]
    exact Ne.symm hne

theorem property?_getD : (q.property? n path).getD "" = (p.property? n path).getD "" := by
  cases h with
  | kept hq hread =>
    obtain ⟨hhidden, hshown⟩ := property?_setProperty hw hq
    by_cases hh : p.Hides n path value
    · rw [hhidden hh]
    · exact absurd (hshown hh) hread
  | @back s _ hq hread hr =>
    obtain ⟨hhidden, hshown⟩ := property?_setProperty (hw.onward hne hq).wellFormed hr
    by_cases hh : s.Hides n path ((p.property? n path).getD "")
    · -- the text that was read would be the stored one, which no write changes
      obtain ⟨hes, rfl, stored, hstored, -⟩ := hh
      have he : p.isElement n := (hw.rewrites_setProperty hne hq).elements n hes
      obtain ⟨node, tag, hn, hk⟩ := isElement_iff.mp he
      obtain ⟨node', tag', hn', hk'⟩ := isElement_iff.mp hes
      rw [property?_of_element hn' hk', hstored, Option.some_or] at hread
      rw [(hw.content_setProperty he hq).2.1, hread] at hstored
      rw [property?_of_element hn hk, hstored] at hne
      exact absurd rfl hne
    · rw [hshown hh, Option.getD_some]

end Reset

theorem Reset.content (hw : WellFormed p) (hne : (p.property? n contentPath).getD "" ≠ value)
    (he : p.isElement n) (h : Reset p n contentPath value q) :
    ∃ t data, q.children n = [t] ∧ q.isText t ∧ q.stored? t dataPath = some data := by
  cases h with
  | kept hq =>
    obtain ⟨-, -, t, hc, ht, hdata⟩ := hw.content_setProperty he hq
    exact ⟨t, value, hc, ht, hdata⟩
  | back hq _ hr =>
    have hes := (hw.content_setProperty he hq).1
    obtain ⟨-, -, t, hc, ht, hdata⟩ :=
      (hw.onward hne hq).wellFormed.content_setProperty hes hr
    exact ⟨t, _, hc, ht, hdata⟩

theorem Reset.of_stored (hw : WellFormed p) (hne : (p.property? n contentPath).getD "" ≠ value)
    (he : p.isElement n) (hs : p.stored? n contentPath ≠ none)
    (h : Reset p n contentPath value q) : p.setProperty n contentPath value = .ok q := by
  obtain ⟨stored, hstored⟩ := Option.ne_none_iff_exists'.mp hs
  obtain ⟨node, tag, hn, hk⟩ := isElement_iff.mp he
  have hread : p.property? n contentPath = some stored := by
    rw [property?_of_element hn hk, hstored, Option.some_or]
  rw [hread, Option.getD_some] at hne
  cases h with
  | kept hq => exact hq
  | back hq hback =>
    rw [(property?_setProperty hw hq).1 ⟨he, rfl, stored, hstored, hne⟩, hread] at hback
    exact absurd (Option.some.inj hback) hne

theorem Reset.not_refilled (hw : WellFormed p) (hne : (p.property? n path).getD "" ≠ value)
    (hl : p.LosesContent n path value) (h : Reset p n path value q) :
    ¬ p.snapshot.Refilled q.snapshot := by
  intro hsame
  obtain ⟨he, rfl, hlost⟩ := hl
  obtain ⟨node, tag, hn, hk⟩ := isElement_iff.mp he
  have ho := h.onward hw hne
  obtain ⟨t, data, hc, ht, hdata⟩ := h.content hw hne he
  obtain ⟨s, hs, htext, hold⟩ := hw.oneText_of_refilled ho.wellFormed hn ho.before hc ht hdata hsame
  rcases hlost with hmore | ⟨hstored, hother⟩
  · exact hmore ⟨s, hs, htext⟩
  · obtain ⟨-, -, u, hcu, -, hvalue⟩ :=
      hw.content_setProperty he (h.of_stored hw hne he hstored)
    rw [hc, List.singleton_inj] at hcu
    rw [← hcu, hdata] at hvalue
    rw [textContent_single hn hk hs htext, hold, hvalue] at hother
    exact hother rfl

theorem refilled_putRaw {key : String} (hn : n < p.nodes.size)
    (h : p.stored? n key = some value) : Refilled p (p.putRaw n key value) where
  shape _ _ := shape?_putRaw
  stored m other _ := by
    rw [stored?_putRaw hn]
    by_cases hcell : n = m ∧ key = other
    · obtain ⟨rfl, rfl⟩ := hcell
      rw [if_pos ⟨rfl, rfl⟩]
      exact .inl h.symm
    · rw [if_neg hcell]
      exact .inl rfl

theorem Reset.refilled_of_stored (hp : p.Reachable)
    (hne : (p.property? n contentPath).getD "" ≠ value) (he : p.isElement n)
    (hl : ¬ p.LosesContent n contentPath value) (hs : p.stored? n contentPath ≠ none)
    (h : Reset p n contentPath value q) : Refilled p q := by
  have hone : OneText p n := by
    by_contra hmore
    exact hl ⟨he, rfl, .inl hmore⟩
  have hvalue : p.textContent n = value := by
    by_contra hother
    exact hl ⟨he, rfl, .inr ⟨hs, hother⟩⟩
  obtain ⟨node, tag, hn, hk⟩ := isElement_iff.mp he
  obtain ⟨t, hc, ht⟩ := hone
  obtain ⟨text, htext, hkind⟩ := isText_iff.mp ht
  have hproper := hp.proper t text (live?_eq_some.mp htext).1
  rw [Node.IsProper, hkind] at hproper
  obtain ⟨data, hdata⟩ := hproper
  rw [← stored?_of_live htext] at hdata
  rw [textContent_single hn hk hc ht, hdata, Option.getD_some] at hvalue
  have hset := h.of_stored hp.wellFormed hne he hs
  rw [setProperty_of_element hn hk, if_pos rfl, setContent_of_oneText hc ht,
    Except.ok.injEq] at hset
  rw [← hset]
  exact refilled_putRaw (lt_size_of_live htext) (hvalue ▸ hdata)

end Page

/-- Where nothing comes from outside, an echo differs in empty properties only. -/
theorem Echo.refilled {p q : Page} (h : Echo (fun _ _ _ => False) p q) : p.Refilled q where
  shape := h.shape
  stored n key hn := by
    have hvalue := (h.value n key hn).resolve_right id
    cases hq : q.stored? n key with
    | none =>
      cases hp : p.stored? n key with
      | none => exact .inl rfl
      | some before => exact absurd hq (h.present n key hn (by simp [hp]))
    | some after =>
      cases hp : p.stored? n key with
      | none =>
        rw [hq, hp] at hvalue
        exact .inr ⟨rfl, congrArg some hvalue⟩
      | some before =>
        rw [hq, hp] at hvalue
        exact .inl (congrArg some hvalue)

section recorded

variable {w w' : World} {u : Undo} {n : NodeId} {path value : String}

theorem edit_of_record (h : (Change.record n path value).run w = (.ok (some u), w')) :
    Edit w u w' ∧ (w.page.property? n path).getD "" ≠ value ∧
      u = .property n path ((w.page.property? n path).getD "") value ∧
      ∃ p, w.page.setProperty n path value = .ok p ∧ w' = { w with page := p } := by
  by_cases hne : (w.page.property? n path).getD "" = value
  · rw [Change.run_record_of_eq hne] at h
    cases h
  · rw [Change.run_record_of_ne hne] at h
    cases hset : w.page.setProperty n path value with
    | error e =>
      rw [hset] at h
      cases h
    | ok p =>
      rw [hset] at h
      cases h
      exact ⟨.property hne hset, hne, rfl, p, rfl, rfl⟩

theorem exists_reset (hw : w.page.WellFormed)
    (h : (Change.record n path value).run w = (.ok (some u), w')) :
    ∃ q, u.revert.run w' = (.ok (), { w with page := q }) ∧ w.page.Reset n path value q := by
  obtain ⟨-, hne, rfl, p, hset, rfl⟩ := edit_of_record h
  rw [Change.run_revert_property]
  by_cases hread : p.property? n path = some value
  · obtain ⟨q, hq⟩ := Page.setProperty_isOk_iff.mpr (hw.accepts_setProperty hne hset)
    rw [if_pos hread, Change.run_setProperty, hq]
    exact ⟨q, rfl, .back hset hread hq⟩
  · rw [if_neg hread]
    exact ⟨p, rfl, .kept hset hread⟩

theorem refilled_of_direct {q : Page} (hp : w.page.Reachable)
    (h : (Change.record n path value).run w = (.ok (some u), w'))
    (hq : u.revert.run w' = (.ok (), { w with page := q })) (hd : w.page.Direct n path) :
    w.page.Refilled q := by
  obtain ⟨hedit, -, rfl, -⟩ := edit_of_record h
  have hecho : Echo (fun _ _ _ => False) w.page _ :=
    Echo.revert hp.wellFormed hedit hd (Echo.refl w'.page)
  rw [hq] at hecho
  exact hecho.refilled

/-- A recorded change that is taken back at once leaves the property as it was read, and it leaves
the whole snapshot as it was, up to empty properties, unless content of an element is lost. -/
theorem revert_at_once (hp : w.page.Reachable)
    (h : (Change.record n path value).run w = (.ok (some u), w')) :
    ∃ q, u.revert.run w' = (.ok (), { w with page := q }) ∧
      (q.property? n path).getD "" = (w.page.property? n path).getD "" ∧
      (w.page.snapshot.Refilled q.snapshot ↔ ¬ w.page.LosesContent n path value) := by
  have hw := hp.wellFormed
  obtain ⟨q, hq, hreset⟩ := exists_reset hw h
  obtain ⟨-, hne, -⟩ := edit_of_record h
  have ho := hreset.onward hw hne
  refine ⟨q, hq, hreset.property?_getD hw hne,
    fun hsame hl => hreset.not_refilled hw hne hl hsame, fun hl => ?_⟩
  have hrefilled : w.page.Refilled q := by
    by_cases hs : w.page.isElement n ∧ path = Page.contentPath ∧
        w.page.stored? n Page.contentPath ≠ none
    · obtain ⟨he, rfl, hs⟩ := hs
      exact hreset.refilled_of_stored hp hne he hl hs
    · refine refilled_of_direct hp h hq fun he hpath => ?_
      -- no text is stored in the element, and it holds one text
      subst hpath
      refine ⟨?_, ?_⟩
      · by_contra hstored
        exact hs ⟨he, rfl, hstored⟩
      · by_contra hmore
        exact hl ⟨he, rfl, .inl hmore⟩
  exact hrefilled.snapshot hp ho.wellFormed ho.location

end recorded

def paragraphPage : Page :=
  .ofSnapshot {
    location := "x"
    root := .node (some "html") none [] [.node (some "p") none [] [
      .node none (some "a") [] [], .node (some "b") none [] [.node none (some "c") [] []]]] }

def emboldened : Page := paragraphPage.perform (.setProperty 3 Page.contentPath "d")

def flattened : Page := paragraphPage.perform (.setProperty 1 Page.contentPath "d")

/-- The text of the inner element comes back, the paragraph does not. -/
theorem revert_at_once_paragraph :
    (Change.record 3 Page.contentPath "d").run { page := paragraphPage } =
        (.ok (some (.property 3 Page.contentPath "c" "d")), { page := emboldened }) ∧
      (∃ q, (Undo.property 3 Page.contentPath "c" "d").revert.run { page := emboldened } =
        (.ok (), { page := q }) ∧ paragraphPage.snapshot.Refilled q.snapshot) ∧
      (Change.record 1 Page.contentPath "d").run { page := paragraphPage } =
        (.ok (some (.property 1 Page.contentPath "ac" "d")), { page := flattened }) ∧
      ∃ q, (Undo.property 1 Page.contentPath "ac" "d").revert.run { page := flattened } =
        (.ok (), { page := q }) ∧ ¬ paragraphPage.snapshot.Refilled q.snapshot := by
  have hp : paragraphPage.Reachable := .ofSnapshot _
  have hinner : (Change.record 3 Page.contentPath "d").run { page := paragraphPage } =
      (.ok (some (.property 3 Page.contentPath "c" "d")), { page := emboldened }) :=
    Change.run_record_of_set (by decide +kernel) (by decide +kernel)
  have houter : (Change.record 1 Page.contentPath "d").run { page := paragraphPage } =
      (.ok (some (.property 1 Page.contentPath "ac" "d")), { page := flattened }) :=
    Change.run_record_of_set (by decide +kernel) (by decide +kernel)
  refine ⟨hinner, ?_, houter, ?_⟩
  · obtain ⟨q, hq, -, hsame⟩ := revert_at_once hp hinner
    refine ⟨q, hq, hsame.mpr ?_⟩
    rintro ⟨-, -, hmore | ⟨hstored, -⟩⟩
    · exact hmore ⟨4, by decide +kernel, by decide +kernel⟩
    · exact hstored (by decide +kernel)
  · obtain ⟨q, hq, -, hsame⟩ := revert_at_once hp houter
    have hlost : paragraphPage.LosesContent 1 Page.contentPath "d" := by
      refine ⟨by decide +kernel, rfl, .inl ?_⟩
      rintro ⟨t, hc, -⟩
      have hchildren : paragraphPage.children 1 = [2, 3] := by decide +kernel
      rw [hchildren] at hc
      cases hc
    exact ⟨q, hq, fun h => hsame.mp h hlost⟩

theorem exists_unrestored :
    ¬ ∀ (w w' w'' : World) (n : NodeId) (path value : String) (u : Undo), w.page.Reachable →
      (Change.record n path value).run w = (.ok (some u), w') →
      u.revert.run w' = (.ok (), w'') → w.page.snapshot.Refilled w''.page.snapshot := by
  intro h
  have hset : paragraphPage.setProperty 1 Page.contentPath "d" = .ok flattened := by decide +kernel
  let back : Page := flattened.perform (.setProperty 1 Page.contentPath "ac")
  have hback : flattened.setProperty 1 Page.contentPath "ac" = .ok back := by decide +kernel
  have hread : (paragraphPage.property? 1 Page.contentPath).getD "" = "ac" := by decide +kernel
  have hrevert : (Undo.property 1 Page.contentPath "ac" "d").revert.run { page := flattened } =
      (.ok (), { page := back }) := by
    have hthere : flattened.property? 1 Page.contentPath = some "d" := by decide +kernel
    rw [Change.run_revert_property, if_pos hthere, Change.run_setProperty, hback]
  have hrecord := Change.run_record_of_set (w := { page := paragraphPage })
    (by rw [hread]; decide) hset
  rw [hread] at hrecord
  obtain ⟨-, hroot⟩ := h _ _ _ 1 Page.contentPath "d" _ (.ofSnapshot _) hrecord hrevert
  have hbefore : paragraphPage.snapshot.root = .node (some "html") none [] [
      .node (some "p") none [] [.node none (some "a") [] [],
        .node (some "b") none [] [.node none (some "c") [] []]]] := by rfl
  have hafter : back.snapshot.root = .node (some "html") none [] [
      .node (some "p") none [] [.node none (some "ac") [] []]] := by rfl
  -- two nodes stood below the paragraph, and one stands there now
  rw [hbefore, hafter] at hroot
  cases hroot with
  | node _ hs =>
    cases hs with
    | cons hparagraph _ =>
      cases hparagraph with
      | node _ hbelow =>
        cases hbelow with
        | cons _ hrest => cases hrest

end PageOverlay

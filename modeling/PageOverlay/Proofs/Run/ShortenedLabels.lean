import PageOverlay.Proofs.Change.ElementSweep
import PageOverlay.Proofs.Command.Failing
import PageOverlay.Proofs.Configuration.Scratch

/-!
# Shortened labels that fail

Bringing shortened labels up to date fails in two cases only. In a label of several lines a line
can stand inside of another one, and a label of a journey map inside of another one. The outer one
is then cleared when it gets its text, and the inner one is gone.
-/

set_option autoImplicit false

namespace PageOverlay.Labels

open Change (Succeeds Outcome Fails)

def Transformer.result (t : Transformer) (location : String) (text : List Char) : List Char :=
  match t.configuration.transformWith t.commands location (String.ofList text) with
  | .ok new => new.toList
  | .error _ => []

variable {t : Transformer} {w w' v : World} {p : Page} {n : NodeId} {e : MutationError}

theorem run_transform (t : Transformer) (text : List Char) (w : World) :
    (t.transform text).run w = (.ok (t.result w.page.location text), w) := by
  obtain ⟨new, h⟩ := t.configuration.transformWith_ok t.commands w.page.location (.ofList text)
  rw [Transformer.transform, Change.run_page_bind,
    Change.run_bind, h, Change.run_ofExcept_ok, Change.continueWith_ok, Transformer.result, h]
  rfl

section forAll

variable {α : Type} {step : α → Change (List Undo)} {a : α} {as : List α}

theorem run_forAll_cons_error :
    (forAll step (a :: as)).run w = (.error e, w') ↔
      (step a).run w = (.error e, w') ∨
        ∃ us v, (step a).run w = (.ok us, v) ∧ (forAll step as).run v = (.error e, w') := by
  rw [forAll, Change.run_bind_eq_error]
  refine or_congr .rfl (exists_congr fun us => exists_congr fun v => and_congr_right fun _ => ?_)
  rw [Change.run_bind_eq_error]
  constructor
  · rintro (h | ⟨_, _, -, h⟩)
    · exact h
    · cases h
  · exact .inl

theorem run_forAll_cons_ok {us vs : List Undo} {u : World} (hstep : (step a).run w = (.ok us, u))
    (hrest : (forAll step as).run u = (.ok vs, v)) :
    (forAll step (a :: as)).run w = (.ok (us ++ vs), v) := by
  rw [forAll, Change.run_bind, hstep, Change.continueWith_ok, Change.run_bind, hrest]
  rfl

/-- A run over several things stops at the first one whose step fails. -/
theorem run_forAll_error (as : List α) :
    (forAll step as).run w = (.error e, w') ↔
      ∃ before a after us v, as = before ++ a :: after ∧
        (forAll step before).run w = (.ok us, v) ∧ (step a).run v = (.error e, w') := by
  induction as generalizing w with
  | nil =>
    constructor
    · intro h
      cases h
    · rintro ⟨before, a, after, _, _, h, -⟩
      cases before <;> cases h
  | cons a as ih =>
    rw [run_forAll_cons_error]
    constructor
    · rintro (h | ⟨us, u, hstep, h⟩)
      · exact ⟨[], a, as, [], w, rfl, rfl, h⟩
      · obtain ⟨before, b, after, vs, v, rfl, hbefore, hfail⟩ := ih.mp h
        exact ⟨a :: before, b, after, us ++ vs, v, rfl, run_forAll_cons_ok hstep hbefore, hfail⟩
    · rintro ⟨before, b, after, us, v, has, hbefore, hfail⟩
      cases before with
      | nil =>
        cases has
        cases hbefore
        exact .inl hfail
      | cons c before =>
        cases has
        rw [forAll, Change.run_bind_eq_ok] at hbefore
        obtain ⟨first, u, hstep, h⟩ := hbefore
        obtain ⟨others, u', hothers, hpure⟩ := Change.run_bind_eq_ok.mp h
        cases hpure
        exact .inr ⟨first, u, hstep, ih.mpr ⟨before, b, after, others, _, rfl, hothers, hfail⟩⟩

theorem succeeds_forAll (ht : ∀ a ∈ as, Tells [] (step a) id)
    (hs : ∀ a ∈ as, ∀ v : World, v.page.Reachable → Succeeds (step a) v)
    (hw : w.page.Reachable) : Succeeds (forAll step as) w := by
  induction as generalizing w with
  | nil => exact ⟨[], w, rfl⟩
  | cons a as ih =>
    obtain ⟨us, u, hstep⟩ := hs a (by simp) w hw
    obtain ⟨vs, v, hrest⟩ := ih (fun b hb => ht b (by simp [hb])) (fun b hb => hs b (by simp [hb]))
      (((ht a (by simp)).edits hstep).reachable hw)
    exact ⟨us ++ vs, v, run_forAll_cons_ok hstep hrest⟩

end forAll

theorem succeeds_transform {α : Type} {text : List Char} {f : List Char → Change α}
    (h : Succeeds (f (t.result w.page.location text)) w) :
    Succeeds (t.transform text >>= f) w := by
  rwa [Succeeds, Change.run_bind, run_transform, Change.continueWith_ok]

theorem outcome_transform {α : Type} {text : List Char} {f : List Char → Change α}
    {refused clashes : Prop}
    (h : Outcome (f (t.result w.page.location text)) w refused clashes) :
    Outcome (t.transform text >>= f) w refused clashes := by
  rwa [Outcome, Succeeds, Change.run_bind, run_transform, Change.continueWith_ok]

theorem write_eq_recorded (n : NodeId) (path : String) (text : List Char) :
    write n path text = Change.recorded n path (String.ofList text) := rfl

theorem succeeds_write {path : String} (hl : ∃ node, w.page.live? n = some node)
    (hp : path ≠ "") (text : List Char) : Succeeds (write n path text) w :=
  .map (.record hl hp _) Option.toList

theorem live_of_parent {up : Nat} (h : p.parent? n = some up) : ∃ node, p.live? n = some node := by
  obtain ⟨node, hl, -⟩ := Option.bind_eq_some_iff.mp h
  exact ⟨node, hl⟩

theorem succeeds_flowMapStep (node : NodeId) (text : List Char) (label : NodeId) (w : World) :
    Succeeds (flowMapStep node text label) w := by
  refine .page ?_
  split
  · next h =>
    rw [Bool.and_eq_true, List.contains_iff_mem, Page.ancestors] at h
    refine succeeds_write ?_ (by decide) text
    cases hp : w.page.parent? label with
    | some up => exact live_of_parent hp
    | none =>
      cases hsize : w.page.nodes.size with
      | zero => simp [hsize, Page.ancestorsUpTo] at h
      | succ size => simp [hsize, Page.ancestorsUpTo, hp] at h
  · exact ⟨[], w, rfl⟩

theorem succeeds_flowMaps (t : Transformer) (hw : w.page.Reachable) :
    Succeeds (flowMaps t) w := by
  refine .page (succeeds_forAll (fun title _ => tells_flowMap t _ title) ?_ hw)
  intro title _ v hv
  refine .page ?_
  split
  · exact ⟨[], v, rfl⟩
  · refine succeeds_transform (succeeds_forAll (fun label _ => tells_flowMapStep _ _ label) ?_ hv)
    exact fun label _ u _ => succeeds_flowMapStep _ _ label u

theorem succeeds_truncatedTitles (t : Transformer) (hw : w.page.Reachable) :
    Succeeds (truncatedTitles t) w := by
  refine .page (succeeds_forAll (fun title _ => tells_truncatedTitle t title) ?_ hw)
  intro title _ v hv
  have hnone : Succeeds (pure [] : Change (List Undo)) v := ⟨[], v, rfl⟩
  refine .page ?_
  split
  · exact hnone
  · split
    · exact hnone
    · split
      · refine succeeds_transform ?_
        split
        · next m hm =>
          obtain ⟨-, node, hl, -⟩ := hv.wellFormed.child (List.mem_of_find?_eq_some hm)
          exact succeeds_write ⟨node, hl⟩ (by decide) _
        · exact hnone
      · exact hnone

theorem succeeds_namedSpans (t : Transformer) (hw : w.page.Reachable) :
    Succeeds (namedSpans t) w := by
  refine .page (succeeds_forAll (fun span _ => tells_named t span) ?_ hw)
  intro span _ v _
  refine .page (succeeds_transform ?_)
  cases hl : v.page.live? span with
  | some node => exact succeeds_write ⟨node, hl⟩ (by decide) _
  | none =>
    -- A span that is gone shows nothing, so it is to show nothing again.
    have hshown : contentOf v.page span = [] := by
      rw [contentOf, Page.property?, hl]
      rfl
    rw [hshown]
    rcases Change.run_recorded_gone hl with ⟨hne, -⟩ | ⟨-, hrun⟩
    · exact absurd rfl hne
    · exact ⟨[], v, hrun⟩

theorem known_css (source : String) :
    ∃ alternatives, Selector.known source = .css alternatives := by
  rw [Selector.known, Selector.parse]
  split
  · next chains h =>
    split at h
    · cases h
      exact ⟨_, rfl⟩
    · cases h
  · exact ⟨[], rfl⟩

theorem isElement_of_known {source : String} (h : (Selector.known source).accepts p n) :
    p.isElement n := by
  obtain ⟨alternatives, hs⟩ := known_css source
  rw [hs] at h
  exact isElement_of_accepts h

def lineSpans (p : Page) (text : NodeId) : List NodeId :=
  (p.descendants text).filter (lineSpan.accepts p)

def lineChanges (t : Transformer) (p : Page) (text : NodeId) : List (NodeId × String) :=
  let spans := lineSpans p text
  let full := t.result p.location (Text.joinWith [' '] (spans.map (contentOf p)))
  (newLines p spans full).map fun line => (line.1, String.ofList line.2)

/-- Among several lines one is cleared that stands above another one which gets words. -/
def LineClash (t : Transformer) (p : Page) (title : NodeId) : Prop :=
  ∃ text, p.parent? title = some text ∧ 2 ≤ (lineSpans p text).length ∧
    Change.TextClash p (lineChanges t p text)

theorem map_fst_lineTexts (lines : List (NodeId × Nat)) (words : List (List Char)) :
    (lineTexts lines words).map Prod.fst = lines.map Prod.fst := by
  induction lines generalizing words with
  | nil => rfl
  | cons line lines ih => rw [lineTexts, List.map_cons, List.map_cons, ih]

theorem map_fst_lineChanges (t : Transformer) (p : Page) (text : NodeId) :
    (lineChanges t p text).map Prod.fst = lineSpans p text := by
  have hfst : ∀ lines : List (NodeId × List Char),
      (lines.map fun line => (line.1, String.ofList line.2)).map Prod.fst =
        lines.map Prod.fst := by
    intro lines
    rw [List.map_map]
    rfl
  rw [lineChanges, hfst, newLines, map_fst_lineTexts, List.map_fst_zip]
  simp

theorem outcome_splitLine (t : Transformer) (title : NodeId) (hw : w.page.WellFormed) :
    Outcome (splitLine t title) w False (LineClash t w.page title) := by
  refine .page ?_
  cases hp : w.page.parent? title with
  | none =>
    refine Succeeds.outcome ⟨[], w, rfl⟩ |>.congr .rfl ⟨False.elim, ?_⟩
    rintro ⟨text, h, -⟩
    rw [hp] at h
    cases h
  | some text =>
    have hclash : LineClash t w.page title ↔
        2 ≤ (lineSpans w.page text).length ∧
          Change.TextClash w.page (lineChanges t w.page text) := by
      constructor
      · rintro ⟨text', h, hlen, hc⟩
        rw [hp] at h
        cases h
        exact ⟨hlen, hc⟩
      · rintro ⟨hlen, hc⟩
        exact ⟨text, hp, hlen, hc⟩
    change Outcome (if (lineSpans w.page text).length < 2 then pure []
      else t.transform (Text.joinWith [' '] ((lineSpans w.page text).map (contentOf w.page))) >>=
        fun full => forAll writeLine (newLines w.page (lineSpans w.page text) full)) w False _
    by_cases hlen : (lineSpans w.page text).length < 2
    · rw [if_pos hlen]
      refine Succeeds.outcome ⟨[], w, rfl⟩ |>.congr .rfl ⟨False.elim, fun h => ?_⟩
      exact absurd (hclash.mp h).1 (Nat.not_le_of_lt hlen)
    · rw [if_neg hlen]
      have helement : ∀ c ∈ lineChanges t w.page text, w.page.isElement c.1 := by
        intro c hc
        have hspan : c.1 ∈ lineSpans w.page text :=
          map_fst_lineChanges t w.page text ▸ List.mem_map_of_mem hc
        exact isElement_of_known (List.mem_filter.mp hspan).2
      have horder : ((lineChanges t w.page text).map Prod.fst).Pairwise
          fun m n => ¬ Page.Under w.page n m := by
        rw [map_fst_lineChanges]
        exact (hw.descendants_pairwise text).filter _
      refine outcome_transform ?_
      have htexts := Change.outcome_writeTexts hw helement horder
      rw [lineChanges, Change.forAll_map] at htexts
      refine htexts.congr .rfl ⟨fun h => ?_, fun h => (hclash.mp h).2⟩
      exact hclash.mpr ⟨Nat.le_of_not_lt hlen, h⟩

def journeyText (t : Transformer) (p : Page) (n : NodeId) : List Char :=
  t.result p.location ((p.property? n fullPath).getD "").toList

/-- The full text of the label changes, and the label is cleared for what it shows of it. -/
def ClearsJourney (t : Transformer) (p : Page) (n : NodeId) : Prop :=
  journeyText t p n ≠ ((p.property? n fullPath).getD "").toList ∧
    p.Clears n Page.contentPath
      (String.ofList (cutAtStart (contentOf p n).length (journeyText t p n)))

/-- Of two labels one inside of the other the outer one is cleared. A label that is gone counts as
one without a text, and the configuration makes something of that. -/
def JourneyClash (t : Transformer) (p : Page) : Prop :=
  Change.Clash p id (fun _ => t.result p.location [] ≠ []) (ClearsJourney t p)
    (p.query journeyLabel)

theorem run_journey_same
    (h : journeyText t w.page n = ((w.page.property? n fullPath).getD "").toList) :
    (journey t n).run w = (.ok [], w) := by
  rw [journey, Change.run_page_bind, Change.run_bind,
    run_transform, Change.continueWith_ok, ← journeyText, if_pos h]
  rfl

theorem run_journey_changed
    (h : journeyText t w.page n ≠ ((w.page.property? n fullPath).getD "").toList) :
    (journey t n).run w =
      (do
        let first ← write n fullPath (journeyText t w.page n)
        let others ← write n Page.contentPath
          (cutAtStart (contentOf w.page n).length (journeyText t w.page n))
        pure (first ++ others) : Change (List Undo)).run w := by
  rw [journey, Change.run_page_bind, Change.run_bind,
    run_transform, Change.continueWith_ok, ← journeyText, if_neg h]

theorem run_write_full (he : w.page.isElement n) {text : List Char}
    (hne : text ≠ ((w.page.property? n fullPath).getD "").toList) :
    ∃ us v, (write n fullPath text).run w = (.ok us, v) ∧
      v.page = w.page.putRaw n fullPath (String.ofList text) := by
  obtain ⟨node, tag, hl, hk⟩ := Page.isElement_iff.mp he
  have hbefore : (w.page.property? n fullPath).getD "" ≠ String.ofList text := by
    intro h
    rw [h, String.toList_ofList] at hne
    exact hne rfl
  have hset : w.page.setProperty n fullPath (String.ofList text) =
      .ok (w.page.putRaw n fullPath (String.ofList text)) := by
    rw [Page.setProperty_of_element hl hk, if_neg (by decide), if_neg (by decide)]
  refine ⟨[.property n fullPath ((w.page.property? n fullPath).getD "") (String.ofList text)],
    { w with page := w.page.putRaw n fullPath (String.ofList text) }, ?_, rfl⟩
  rw [write, Change.run_bind, Change.run_record_of_set hbefore hset]
  rfl

theorem run_journey_there (hw : w.page.WellFormed) (he : w.page.isElement n) :
    ∃ us w', (journey t n).run w = (.ok us, w') ∧
      w.page.Rewrites w'.page n (ClearsJourney t w.page n) := by
  obtain ⟨node, tag, hl, -⟩ := Page.isElement_iff.mp he
  by_cases hsame : journeyText t w.page n = ((w.page.property? n fullPath).getD "").toList
  · have hclears : ClearsJourney t w.page n = False := eq_false fun h => h.1 hsame
    rw [hclears]
    exact ⟨[], w, run_journey_same hsame, hw.rewrites_self hl⟩
  · obtain ⟨first, v, hfirst, hv⟩ := run_write_full he hsame
    have ha : v.page.Accepts n Page.contentPath := by
      rw [hv]
      exact ⟨Page.live_putRaw hl, fun _ => by decide⟩
    have hwv : v.page.WellFormed := by
      rw [hv]
      exact hw.putRaw _ _ _
    obtain ⟨others, w', hothers, hr⟩ := Change.run_recorded_accepted hwv ha
      (String.ofList (cutAtStart (contentOf w.page n).length (journeyText t w.page n)))
    have hclears : ClearsJourney t w.page n ↔ w.page.Clears n Page.contentPath
        (String.ofList (cutAtStart (contentOf w.page n).length (journeyText t w.page n))) :=
      and_iff_right hsame
    refine ⟨first ++ others, w', ?_, ?_⟩
    · rw [run_journey_changed hsame, Change.run_bind, hfirst, Change.continueWith_ok,
        Change.run_bind, write_eq_recorded, hothers]
      rfl
    · rw [hv, propext (hw.clears_putRaw he (by decide) _)] at hr
      rw [propext hclears]
      exact hr.after_putRaw hw hl

theorem run_journey_gone (hgone : w.page.live? n = none) :
    (t.result w.page.location [] ≠ [] ∧ ∃ e, (journey t n).run w = (.error e, w)) ∨
      (¬ t.result w.page.location [] ≠ [] ∧ ∃ us, (journey t n).run w = (.ok us, w)) := by
  have hread : ((w.page.property? n fullPath).getD "").toList = [] := by
    rw [Page.property?, hgone]
    rfl
  have htext : journeyText t w.page n = t.result w.page.location [] := by
    rw [journeyText, hread]
  by_cases hresult : t.result w.page.location [] = []
  · refine .inr ⟨not_not_intro hresult, [], run_journey_same ?_⟩
    rw [htext, hread, hresult]
  · have hchanged : journeyText t w.page n ≠ ((w.page.property? n fullPath).getD "").toList := by
      rwa [htext, hread]
    have hne : String.ofList (t.result w.page.location []) ≠ "" := by
      intro h
      have htoList := congrArg String.toList h
      rw [String.toList_ofList] at htoList
      exact hresult htoList
    obtain ⟨-, e, hrun⟩ := (@Change.run_recorded_gone w n fullPath _ hgone).resolve_right
      fun h => h.1 hne
    refine .inl ⟨hresult, e, ?_⟩
    rw [run_journey_changed hchanged, htext, Change.run_bind, write_eq_recorded n fullPath, hrun]
    rfl

theorem sweep_journeys (t : Transformer) (hw : p.WellFormed) :
    Change.Sweep p (journey t) id (fun _ => t.result p.location [] ≠ []) (ClearsJourney t p)
      (p.query journeyLabel) where
  gone n _ w hlocation hgone := by
    rw [← hlocation]
    exact run_journey_gone hgone
  there n hn w hs hsame := by
    replace hsame : Page.SameBelow p w.page n := hsame
    have he : p.isElement n := isElement_of_known (List.mem_filter.mp hn).2
    obtain ⟨node, tag, hl, -⟩ := Page.isElement_iff.mp he
    have hread : ∀ path, w.page.property? n path = p.property? n path :=
      fun path => hsame.property? hw hs.size hl
    have hclears : ClearsJourney t w.page n ↔ ClearsJourney t p n := by
      rw [ClearsJourney, ClearsJourney, journeyText, journeyText, contentOf, contentOf, hread,
        hread, hs.location, hsame.clears_iff hw hs.size hl]
    rw [← propext hclears]
    apply run_journey_there hs.wellFormed
    rwa [Page.isElement_congr (hsame.shape? (.refl n))]
  element n hn := isElement_of_known (List.mem_filter.mp hn).2
  order := by
    rw [List.map_id]
    exact hw.query_pairwise journeyLabel

inductive Clashes (t : Transformer) (w : World) : Prop
  | lines {us vs : List Undo} {v u : World} {before after : List NodeId} {title : NodeId}
      (hmaps : (flowMaps t).run w = (.ok us, v))
      (htitles : v.page.query textTitle = before ++ title :: after)
      (hbefore : (forAll (splitLine t) before).run v = (.ok vs, u))
      (h : LineClash t u.page title)
  | journeys {us : List Undo} {v : World}
      (hbefore : (forAll (fun step => step t)
        [flowMaps, splitLines, truncatedTitles, namedSpans]).run w = (.ok us, v))
      (h : JourneyClash t v.page)

theorem outcome_journeys (t : Transformer) (hw : w.page.WellFormed) :
    Outcome (journeys t) w False (JourneyClash t w.page) :=
  .page ((sweep_journeys t hw).outcome hw)

theorem run_normalize_error (hw : w.page.Reachable) (h : (normalize t).run w = (.error e, w')) :
    Clashes t w ∧ ∃ done v, Edits w done v ∧ Change.Shrinks v w' := by
  obtain ⟨us₁, w₁, hmaps, h⟩ :=
    (run_forAll_cons_error.mp h).resolve_left (succeeds_flowMaps t hw).ne_error
  have hedits₁ := (tells_flowMaps t).edits hmaps
  have hw₁ := hedits₁.reachable hw
  rcases run_forAll_cons_error.mp h with hlines | ⟨us₂, w₂, hlines, h⟩
  · rw [splitLines, Change.run_page_bind,
      run_forAll_error] at hlines
    obtain ⟨before, title, after, vs, u, htitles, hbefore, hfail⟩ := hlines
    have hedits := (tells_forAll fun title _ => tells_splitLine t title).edits hbefore
    rcases (outcome_splitLine t title (hedits.reachable hw₁).wellFormed).of_error hfail with
      ⟨hfalse, -⟩ | ⟨hc, hthinned⟩
    · exact hfalse.elim
    · exact ⟨.lines hmaps htitles hbefore hc, us₁ ++ vs, u, hedits₁.append hedits,
        .of_error (hedits.reachable hw₁) (tells_splitLine t title) hfail hthinned⟩
  · have hedits₂ := (tells_splitLines t).edits hlines
    have hw₂ := hedits₂.reachable hw₁
    obtain ⟨us₃, w₃, htitles, h⟩ :=
      (run_forAll_cons_error.mp h).resolve_left (succeeds_truncatedTitles t hw₂).ne_error
    have hedits₃ := (tells_truncatedTitles t).edits htitles
    have hw₃ := hedits₃.reachable hw₂
    obtain ⟨us₄, w₄, hspans, h⟩ :=
      (run_forAll_cons_error.mp h).resolve_left (succeeds_namedSpans t hw₃).ne_error
    have hedits₄ := (tells_namedSpans t).edits hspans
    have hbefore : (forAll (fun step => step t)
        [flowMaps, splitLines, truncatedTitles, namedSpans]).run w =
        (.ok (us₁ ++ (us₂ ++ (us₃ ++ (us₄ ++ [])))), w₄) :=
      run_forAll_cons_ok hmaps (run_forAll_cons_ok hlines
        (run_forAll_cons_ok htitles (run_forAll_cons_ok hspans rfl)))
    rcases run_forAll_cons_error.mp h with hjourneys | ⟨_, _, -, h⟩
    · rcases (outcome_journeys t (hedits₄.reachable hw₃).wellFormed).of_error hjourneys with
        ⟨hfalse, -⟩ | ⟨hc, hthinned⟩
      · exact hfalse.elim
      · exact ⟨.journeys hbefore hc, _, w₄,
          ((hedits₁.append hedits₂).append hedits₃).append hedits₄,
          .of_error (hedits₄.reachable hw₃) (tells_journeys t) hjourneys hthinned⟩
    · cases h

theorem fails_normalize (hw : w.page.Reachable) (h : Clashes t w) : Fails (normalize t) w := by
  cases h with
  | @lines us vs v u before after title hmaps htitles hbefore h =>
    have hv := ((tells_flowMaps t).edits hmaps).reachable hw
    have hu := ((tells_forAll fun title _ => tells_splitLine t title).edits hbefore).reachable hv
    obtain ⟨e, w', hfail⟩ := (outcome_splitLine t title hu.wellFormed).fails (.inr h)
    have hlines : (splitLines t).run v = (.error e, w') := by
      rw [splitLines, Change.run_page_bind, run_forAll_error]
      exact ⟨before, title, after, vs, u, htitles, hbefore, hfail⟩
    exact ⟨e, w', run_forAll_cons_error.mpr
      (.inr ⟨us, v, hmaps, run_forAll_cons_error.mpr (.inl hlines)⟩)⟩
  | @journeys us v hbefore h =>
    have htells : Tells [] (forAll (fun step => step t)
        [flowMaps, splitLines, truncatedTitles, namedSpans]) id := by
      apply tells_forAll
      simp only [List.mem_cons, List.not_mem_nil, or_false, forall_eq_or_imp, forall_eq]
      exact ⟨tells_flowMaps t, tells_splitLines t, tells_truncatedTitles t, tells_namedSpans t⟩
    have hv := (htells.edits hbefore).reachable hw
    obtain ⟨e, w', hfail⟩ := (outcome_journeys t hv.wellFormed).fails (.inr h)
    exact ⟨e, w', (run_forAll_error _).mpr ⟨_, journeys, [], us, v, rfl, hbefore, hfail⟩⟩

end PageOverlay.Labels

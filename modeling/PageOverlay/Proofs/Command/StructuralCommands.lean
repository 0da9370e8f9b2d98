import Mathlib.Data.List.Find
import PageOverlay.Proofs.Command.Building
import PageOverlay.Proofs.Command.PropertyNames
import PageOverlay.Proofs.Page.AddedLeaf
import PageOverlay.Proofs.Page.ReadingBack

/-!
# Commands that settle

Some commands set one property of one node, or add one element that they know again. Applied once
more to the same target they find nothing to do, whatever the first time did to the page.
-/

set_option autoImplicit false

namespace PageOverlay

variable {w w' : World} {m n : NodeId} {path key value : String}

/-- Applied again to what it left, it does nothing. -/
def Change.Settles {α : Type} (x : Change (Option α)) (w : World) : Prop :=
  ∀ r w', x.run w = (.ok r, w') → x.run w' = (.ok none, w')

namespace Action

open Change (Settles)

inductive Structural : Action → Prop
  | style (search : Pattern) (property : String) (level : Nat) (value : String) :
      Structural (.style search property level value)
  | hide (search : Pattern) (level : Nat) (location hash : String) :
      Structural (.hide search level none location hash)
  | recolorImage (search : Pattern) (color : String) : Structural (.recolorImage search color)
  | replaceImage (searches : List Pattern) (replacement : String) :
      Structural (.replaceImage searches replacement)
  | stage (location title name : String) : Structural (.stage location title name)
  | overwrite (location html : String) : Structural (.overwrite location none html)
  | insert (place : InsertPlace) (search : Pattern) (html : String) (level : Nat)
      (within : Option Selector) : Structural (.insert place search html level within)
  | addScript (src : Option String) (script : String) : Structural (.addScript src script)

/-- What was recorded is there, so recording it again does nothing. -/
theorem run_record_again {u : Option Undo} (hw : w.page.WellFormed) (hkey : key ≠ Page.contentPath)
    (h : (Change.record m key value).run w = (.ok u, w')) :
    (∀ k, w'.page.shape? k = w.page.shape? k) ∧
      (Change.record m key value).run w' = (.ok none, w') := by
  by_cases heq : (w.page.property? m key).getD "" = value
  · rw [Change.run_record_of_eq heq] at h
    cases h
    exact ⟨fun _ => rfl, Change.run_record_of_eq heq⟩
  · rw [Change.run_record_of_ne heq] at h
    cases hset : w.page.setProperty m key value with
    | error e =>
      rw [hset] at h
      cases h
    | ok q =>
      rw [hset] at h
      cases h
      have hread : q.property? m key = some value :=
        (Page.property?_setProperty hw hset).2 fun hh => hkey hh.2.1
      refine ⟨(Page.sets_setProperty hset fun hc => hkey hc.2).shape,
        Change.run_record_of_eq ?_⟩
      rw [hread, Option.getD_some]

/-- On pages whose nodes stand alike the same node is chosen, if any. -/
theorem settles_of_record {f : Page → Change Applied} (key value : String)
    (place : Page → Option NodeId) (hw : w.page.WellFormed) (hkey : key ≠ Page.contentPath)
    (hplace : ∀ q : Page, (∀ k, q.shape? k = w.page.shape? k) → place q = place w.page)
    (hf : ∀ q, f q = pure none ∨ ∃ m, place q = some m ∧
      f q = Change.record m key value >>= fun u => pure (single u)) :
    Settles (Change.page >>= f) w := by
  intro r w' h
  rw [Change.run_page_bind] at h ⊢
  rcases hf w.page with hnone | ⟨m, hm, hrecord⟩
  · rw [hnone, Change.run_pure] at h
    cases h
    rw [hnone, Change.run_pure]
  · rw [hrecord] at h
    obtain ⟨u, v, hrun, hend⟩ := Change.run_bind_eq_ok.mp h
    cases hend
    obtain ⟨hshape, hagain⟩ := run_record_again hw hkey hrun
    rcases hf w'.page with hnone | ⟨m', hm', hrecord'⟩
    · rw [hnone, Change.run_pure]
    · rw [hplace _ hshape, hm, Option.some.injEq] at hm'
      subst hm'
      rw [hrecord', Change.run_bind, hagain, Change.continueWith_ok, Change.run_pure]
      rfl

theorem settles_at {f : Page → Change Applied} (m : NodeId) (key value : String)
    (hw : w.page.WellFormed) (hkey : key ≠ Page.contentPath)
    (hf : ∀ q, f q = pure none ∨ f q = Change.record m key value >>= fun u => pure (single u)) :
    Settles (Change.page >>= f) w :=
  settles_of_record key value (fun _ => some m) hw hkey (fun _ _ => rfl)
    fun q => (hf q).imp_right fun hq => ⟨m, rfl, hq⟩

theorem settles_above {f : Page → Change Applied} (n : NodeId) (levels : Nat) (key value : String)
    (hw : w.page.WellFormed) (hkey : key ≠ Page.contentPath)
    (hf : ∀ q, f q = pure none ∨ ∃ e, q.elementOf n = some e ∧
      f q = Change.record (q.ancestor e levels) key value >>= fun u => pure (single u)) :
    Settles (Change.page >>= f) w := by
  refine settles_of_record key value (fun p => (p.elementOf n).map fun e => p.ancestor e levels)
    hw hkey (fun q hq => ?_) fun q => (hf q).imp_right ?_
  · simp only [Page.elementOf_congr (hq n), Page.ancestor_congr hq]
  · rintro ⟨e, he, hq⟩
    exact ⟨_, by rw [he, Option.map_some], hq⟩

theorem several_recordAll (n : NodeId) (path value : String) :
    (Change.recordAll path value [n] >>= fun us => pure (several us)) =
      (Change.record n path value >>= fun u => pure (single u)) := by
  funext w
  change (Change.recordAll path value [n] >>= fun us => pure (several us) : Change Applied).run w =
    (Change.record n path value >>= fun u => pure (single u) : Change Applied).run w
  rw [Change.recordAll, Change.run_bind, Change.run_bind, Change.run_bind]
  rcases (Change.record n path value).run w with ⟨e | _ | u, v⟩ <;> rfl

def newElement (tag : String) (properties : Fields String) : Node :=
  { kind := .element (Text.toUpper tag), properties := Fields.ofList properties }

theorem eq_of_run_insert {u : Undo} {tag : String} {properties : Fields String}
    (h : (Change.insert m tag properties).run w = (.ok u, w')) :
    (∃ node, w.page.live? m = some node) ∧
      w' = { w with page := w.page.adopt m (newElement tag properties) } := by
  rw [Change.run_insert, Page.appendElement, Page.appendNode] at h
  cases hl : w.page.live? m with
  | none =>
    rw [hl] at h
    cases h
  | some node =>
    rw [hl] at h
    cases h
    exact ⟨⟨node, rfl⟩, rfl⟩

theorem settles_of_insert {f : Page → Change Applied} (tag : String) (properties : Fields String)
    (hf : f w.page = pure none ∨ ∃ e,
      f w.page = (Change.insert e tag properties >>= fun u => pure (some [u])) ∧
        ∀ node, w.page.live? e = some node →
          f (w.page.adopt e (newElement tag properties)) = pure none) :
    Settles (Change.page >>= f) w := by
  intro r w' h
  rw [Change.run_page_bind] at h ⊢
  rcases hf with hnone | ⟨e, hinsert, hagain⟩
  · rw [hnone, Change.run_pure] at h
    cases h
    rw [hnone, Change.run_pure]
  · rw [hinsert] at h
    obtain ⟨u, v, hrun, hend⟩ := Change.run_bind_eq_ok.mp h
    cases hend
    obtain ⟨⟨node, hl⟩, rfl⟩ := eq_of_run_insert hrun
    rw [hagain node hl, Change.run_pure]

variable {p : Page} {e : NodeId} {node : Node} {place : InsertPlace} {html script : String}
  {src : Option String}

theorem property?_newElement (hl : p.live? e = some node) (tag : String)
    (properties : Fields String) (key : String) :
    (p.adopt e (newElement tag properties)).property? p.nodes.size key =
      (Fields.get? key (Fields.ofList properties)).or
        (if key = Page.contentPath then
          some ((p.adopt e (newElement tag properties)).textContent p.nodes.size) else none) := by
  have hnew : (p.adopt e (newElement tag properties)).live? p.nodes.size =
      some { newElement tag properties with parent := some e } := Page.live?_adopt_new hl rfl
  rw [Page.property?_of_element hnew rfl, Page.stored?_of_live hnew]
  rfl

theorem tag?_newElement (hl : p.live? e = some node) (tag : String) (properties : Fields String) :
    (p.adopt e (newElement tag properties)).tag? p.nodes.size = some (Text.toUpper tag) := by
  rw [Page.tag?, Page.kind?_of_live (Page.live?_adopt_new hl rfl)]
  rfl

theorem size_mem_children (hl : p.live? e = some node) (tag : String) (properties : Fields String) :
    p.nodes.size ∈ (p.adopt e (newElement tag properties)).children e := by
  rw [Page.WellFormed.children_adopt hl rfl rfl, if_pos rfl]
  exact List.mem_append_right _ (List.mem_singleton_self _)

theorem holdsFragment_adopt (hl : p.live? e = some node) (place : InsertPlace) (html : String) :
    holdsFragment (p.adopt e (newElement fragmentTag [(markupPath, html), (placePath, place.text)]))
      place html e := by
  rw [holdsFragment, List.any_eq_true]
  refine ⟨p.nodes.size, size_mem_children hl _ _, ?_⟩
  have hmarkup : Fields.get? markupPath
      (Fields.ofList [(markupPath, html), (placePath, place.text)]) = some html := by
    simp +decide [Fields.ofList, Fields.get?_put_of_ne, Fields.get?_put_self]
  have hplace : Fields.get? placePath
      (Fields.ofList [(markupPath, html), (placePath, place.text)]) = some place.text := by
    simp +decide [Fields.ofList, Fields.get?_put_self]
  have htag : (Text.toUpper fragmentTag).toList.map Char.toLower = fragmentTag.toList := by decide
  rw [tag?_newElement hl, property?_newElement hl, property?_newElement hl, hmarkup, hplace]
  simp [htag]

def scriptFields (src : Option String) (script : String) : Fields String :=
  [("type", "text/javascript"), (Page.contentPath, script)] ++
    (src.map fun s => ("src", s)).toList

def newScript (src : Option String) (script : String) : Node :=
  newElement scriptTag (scriptFields src script)

def HasScript (p : Page) (src : Option String) (script : String) : Prop :=
  holdsScript p src script (scriptPlace p)

theorem get?_scriptFields (src : Option String) (script : String) :
    Fields.get? "src" (Fields.ofList (scriptFields src script)) = src ∧
      Fields.get? Page.contentPath (Fields.ofList (scriptFields src script)) = some script := by
  cases src with
  | none =>
    simp +decide [scriptFields, Fields.ofList, Fields.get?_put_of_ne, Fields.get?_put_self,
      Fields.get?]
  | some s =>
    simp +decide [scriptFields, Fields.ofList, Fields.get?_put_of_ne, Fields.get?_put_self]

theorem holdsScript_new (hl : p.live? e = some node) (src : Option String) (script : String) :
    holdsScript (p.adopt e (newScript src script)) src script e := by
  obtain ⟨hsrc, hscript⟩ := get?_scriptFields src script
  have htag : Text.toUpper scriptTag = "SCRIPT" := by decide
  have hne : "src" ≠ Page.contentPath := by decide
  rw [holdsScript, List.any_eq_true]
  refine ⟨p.nodes.size, size_mem_children hl _ _, ?_⟩
  rw [newScript, tag?_newElement hl, property?_newElement hl, property?_newElement hl, hsrc,
    hscript, htag, if_neg hne]
  simp

theorem holdsScript_adopt (hw : p.WellFormed) (hl : p.live? e = some node) {leaf : Node}
    (hr : leaf.removed = false) (hc : leaf.children = []) (h : holdsScript p src script e) :
    holdsScript (p.adopt e leaf) src script e := by
  rw [holdsScript, List.any_eq_true] at h ⊢
  obtain ⟨c, hchild, htest⟩ := h
  obtain ⟨-, found, hfound, -⟩ := hw.child hchild
  have hsame : p.SameBelow (p.adopt e leaf) c :=
    Page.sameBelow_adopt hw hl ⟨found, hfound⟩ (hw.not_under_self hchild)
  have hsize : p.nodes.size ≤ (p.adopt e leaf).nodes.size := by rw [Page.size_adopt]; omega
  refine ⟨c, ?_, ?_⟩
  · rw [Page.WellFormed.children_adopt hl hr hc, if_pos rfl]
    exact List.mem_append_left _ hchild
  · rwa [Page.tag?_adopt hl hr hfound, hsame.property? hw hsize hfound,
      hsame.property? hw hsize hfound]

theorem scriptPlace_adopt (hw : p.WellFormed) (hl : p.live? e = some node) {leaf : Node}
    (hr : leaf.removed = false) (hc : leaf.children = []) (hk : leaf.kind ≠ .element "HEAD") :
    scriptPlace (p.adopt e leaf) = scriptPlace p := by
  have hold : ∀ c ∈ p.children Page.root,
      ((p.adopt e leaf).tag? c == some "HEAD") = (p.tag? c == some "HEAD") := by
    intro c hchild
    obtain ⟨-, found, hfound, -⟩ := hw.child hchild
    rw [Page.tag?_adopt hl hr hfound]
  have hnew : ((p.adopt e leaf).tag? p.nodes.size == some "HEAD") = false := by
    rw [Page.tag?, Page.kind?_of_live (Page.live?_adopt_new hl hr)]
    cases hleaf : leaf.kind with
    | element tag =>
      have hne : tag ≠ "HEAD" := fun he => hk (he ▸ hleaf)
      simpa using hne
    | text => rfl
    | other => rfl
  have hfind : (p.children Page.root).find? (fun c => (p.adopt e leaf).tag? c == some "HEAD") =
      (p.children Page.root).find? fun c => p.tag? c == some "HEAD" :=
    List.find?_congr hold
  rw [scriptPlace, scriptPlace, Page.WellFormed.children_adopt hl hr hc]
  split
  · rw [List.find?_append, hfind, List.find?_singleton, hnew]
    simp
  · rw [hfind]

theorem run_addScript_of_has (h : HasScript w.page src script) (n : NodeId) (path : String) :
    ((Action.addScript src script).applyNode n path).run w = (.ok none, w) := by
  have hholds : holdsScript w.page src script (scriptPlace w.page) = true := h
  rw [applyNode, Change.run_page_bind]
  dsimp only
  rw [if_pos hholds, Change.run_pure]

theorem addScript_spec {r : Applied} (hw : w.page.WellFormed)
    (h : ((Action.addScript src script).applyNode n path).run w = (.ok r, w')) :
    w'.page.WellFormed ∧ HasScript w'.page src script ∧
      ∀ src' script', HasScript w.page src' script' → HasScript w'.page src' script' := by
  by_cases hhas : HasScript w.page src script
  · rw [run_addScript_of_has hhas] at h
    cases h
    exact ⟨hw, hhas, fun _ _ => id⟩
  · have hholds : ¬ holdsScript w.page src script (scriptPlace w.page) = true := hhas
    rw [applyNode, Change.run_page_bind] at h
    dsimp only at h
    rw [if_neg hholds] at h
    obtain ⟨u, v, hrun, hend⟩ := Change.run_bind_eq_ok.mp h
    cases hend
    obtain ⟨⟨node, hl⟩, rfl⟩ := eq_of_run_insert hrun
    have hkind : (newScript src script).kind ≠ .element "HEAD" :=
      fun h => absurd (NodeKind.element.inj h) (by decide)
    have hplace : scriptPlace (w.page.adopt (scriptPlace w.page) (newScript src script)) =
        scriptPlace w.page := scriptPlace_adopt hw hl rfl rfl hkind
    have hhas (src' : Option String) (script' : String)
        (h : holdsScript (w.page.adopt (scriptPlace w.page) (newScript src script)) src' script'
          (scriptPlace w.page)) :
        HasScript (w.page.adopt (scriptPlace w.page) (newScript src script)) src' script' := by
      rwa [HasScript, hplace]
    exact ⟨hw.adopt hl rfl rfl, hhas _ _ (holdsScript_new hl src script),
      fun _ _ hold => hhas _ _ (holdsScript_adopt hw hl rfl rfl hold)⟩

theorem settles_insert (hw : w.page.WellFormed) (place : InsertPlace) (search : Pattern)
    (html : String) (level : Nat) (within : Option Selector) (n : NodeId) (path : String) :
    Settles ((Action.insert place search html level within).applyNode n path) w := by
  refine settles_of_insert fragmentTag [(markupPath, html), (placePath, place.text)] ?_
  dsimp only
  split
  · next hmatch =>
    obtain ⟨node, hn⟩ := live_of_valueMatches hmatch
    cases he : w.page.elementOf n with
    | none => exact .inl rfl
    | some e =>
      dsimp only
      split
      · refine .inr ⟨_, rfl, fun up hup => ?_⟩
        -- the same element is found again, and it holds the fragment now
        rw [Page.elementOf_adopt hup rfl hn, he]
        dsimp only
        rw [Page.ancestor_adopt hup rfl hw (hw.live_elementOf he), holdsFragment_adopt hup]
        simp
      · exact .inl rfl
  · exact .inl rfl

theorem Structural.settles {a : Action} (ha : a.Structural) (hw : w.page.WellFormed)
    (hpath : path ≠ Page.contentPath) : Settles (a.applyNode n path) w := by
  cases ha with
  | style search property level value =>
    have hkey : "style." ++ property ≠ Page.contentPath := by
      intro h
      have hfirst := congrArg (fun s => s.toList.head?) h
      simp [Page.contentPath] at hfirst
    refine settles_above n (level - 1) ("style." ++ property) value hw hkey fun q => ?_
    dsimp only
    split
    · cases he : q.elementOf n with
      | none => exact .inl rfl
      | some e => exact .inr ⟨e, rfl, rfl⟩
    · exact .inl rfl
  | hide search level location hash =>
    refine settles_above n (level - 1) displayPath "none" hw (by decide) fun q => ?_
    dsimp only
    split
    · cases he : q.elementOf n with
      | none => exact .inl rfl
      | some e => exact .inr ⟨e, rfl, rfl⟩
    · exact .inl rfl
  | recolorImage search color =>
    refine settles_at n filterPath ("drop-shadow(0 0 0 " ++ color ++ ") saturate(300%)") hw
      (by decide) fun q => ?_
    dsimp only
    split
    · exact .inr rfl
    · exact .inl rfl
  | replaceImage searches replacement =>
    refine settles_at n path
      (if path = backgroundPath then "url(\"" ++ replacement ++ "\")" else replacement) hw hpath
      fun q => ?_
    dsimp only
    split
    · exact .inr rfl
    · exact .inl rfl
  | stage location title name =>
    refine settles_at Page.root stageProperty name hw (by decide) fun q => ?_
    dsimp only
    split
    · exact .inr rfl
    · exact .inl rfl
  | overwrite location html =>
    refine settles_at Page.root markupPath html hw (by decide) fun q => ?_
    dsimp only
    split
    · exact .inr (several_recordAll Page.root markupPath html)
    · exact .inl rfl
  | insert place search html level within =>
    exact settles_insert hw place search html level within n path
  | addScript src script =>
    intro r w' h
    exact run_addScript_of_has (addScript_spec hw h).2.1 n path

end Action

/-- A structural action, or several scripts that are added as one. -/
inductive Command.Structural : Command → Prop
  | action {a : Action} (ha : a.Structural) : Command.Structural (.action a)
  | scripts (scripts : List (Option String × String)) :
      Command.Structural (.group (scripts.map fun s => .action (.addScript s.1 s.2)))

namespace Verb

/-- The verb makes structural commands; where it may take a selector none is given. -/
def IsStructural (i : Invocation) : Verb → Prop
  | .style | .recolorImage | .replaceImage | .stage | .insert _ | .addScript | .overwritePage
  | .analyticsLoad | .analyticsIdentify | .analyticsTrack => True
  | .hide => i.selector 2 = .ok none
  | .overwriteMarkup => i.selector 1 = .ok none
  | _ => False

theorem IsStructural.wrapsFrom {v : Verb} {i : Invocation} (hv : v.IsStructural i) :
    v.wrapsFrom = none := by
  cases v with
  | whenBoth => exact hv.elim
  | whenLocation => exact hv.elim
  | whenSelector => exact hv.elim
  | _ => rfl

theorem yields_structural {v : Verb} {i : Invocation} (hv : v.IsStructural i)
    (includeRules excludeRules : List String) :
    Yields Command.Structural (v.command includeRules excludeRules i) := by
  have hsingle (h : Yields Action.Structural (v.action includeRules excludeRules i)) :
      Yields Command.Structural ((v.action includeRules excludeRules i).map .action) :=
    .map fun a ha => .action (h a ha)
  have hhide : IsStructural i .hide → ∀ search level hash, Yields Action.Structural
      (i.selector 2 >>= fun upTo => .ok (.hide search level upTo (i.text 3) hash)) := by
    intro hnone search level hash
    have hnone : i.selector 2 = .ok none := hnone
    rw [hnone]
    exact .ok (.hide _ _ _ _)
  cases v with
  | style =>
    exact hsingle (.andThen fun _ => .andThen fun _ => .andThen fun _ => .ok (.style _ _ _ _))
  | recolorImage => exact hsingle (.andThen fun _ => .ok (.recolorImage _ _))
  | replaceImage => exact hsingle (.andThen fun _ => .andThen fun _ => .ok (.replaceImage _ _))
  | stage => exact hsingle (.ok (.stage _ _ _))
  | insert place =>
    exact hsingle (.andThen fun _ => .andThen fun _ => .andThen fun _ => .ok (.insert _ _ _ _ _))
  | addScript => exact hsingle (.ok (.addScript _ _))
  | overwritePage => exact hsingle (.ok (.overwrite _ _))
  | hide => exact hsingle (.andThen fun _ => .andThen fun _ => hhide hv _ _ _)
  | overwriteMarkup =>
    have hnone : i.selector 1 = .ok none := hv
    refine hsingle ?_
    rw [action, hnone]
    exact .ok (.overwrite _ _)
  | analyticsIdentify => exact hsingle (.andThen fun _ => .ok (.addScript _ _))
  | analyticsTrack => exact hsingle (.andThen fun _ => .ok (.addScript _ _))
  | analyticsLoad =>
    have hload (load : String) : Command.Structural (.group
        [.action (.addScript none analyticsLoader), .action (.addScript none load)]) :=
      .scripts [(none, analyticsLoader), (none, load)]
    rw [command]
    split
    · exact .andThen fun key => .ok (hload _)
    · exact .andThen fun key => .ok (hload _)
  | _ => exact hv.elim

end Verb

namespace Command

open Change (Settles)

variable {t : Target} {c : Command} {cs : List Command} {r : Applied}

def IsStructuralCall (c : Command) : Prop :=
  ∃ (b : Builder) (key : List Char) (e : Entry) (parameters : List (List Char)) (value : String),
    b.Calls key e parameters ∧ e.verb.IsStructural ⟨e.name, parameters, value⟩ ∧
      b.tryBuild value key = .ok c

theorem IsStructuralCall.structural (h : c.IsStructuralCall) : c.Structural := by
  obtain ⟨b, key, e, parameters, value, hcalls, hverb, hbuild⟩ := h
  rw [Builder.tryBuild_of_calls hcalls, Builder.construct, hverb.wrapsFrom] at hbuild
  exact Verb.yields_structural hverb _ _ c hbuild

theorem run_applyAll_of_none (hc : (c.apply t).run w = (.ok r, w'))
    (hcs : (applyAll t cs).run w' = (.ok none, w')) :
    (applyAll t (c :: cs)).run w = (.ok r, w') := by
  rw [applyAll, Change.run_bind, hc, Change.continueWith_ok, Change.run_bind, hcs,
    Change.continueWith_ok]
  cases r <;> rfl

theorem run_scripts_of_has {scripts : List (Option String × String)}
    (h : ∀ s ∈ scripts, Action.HasScript w.page s.1 s.2) (n : NodeId) (path : String) :
    (applyAll (.node n path) (scripts.map fun s => .action (.addScript s.1 s.2))).run w =
      (.ok none, w) := by
  induction scripts with
  | nil => rw [List.map_nil, applyAll, Change.run_pure]
  | cons s scripts ih =>
    obtain ⟨hs, hrest⟩ := List.forall_mem_cons.mp h
    rw [List.map_cons]
    refine run_applyAll_of_none ?_ (ih hrest)
    rw [apply, Action.apply]
    exact Action.run_addScript_of_has hs n path

theorem scripts_spec {scripts : List (Option String × String)} (hw : w.page.WellFormed)
    (h : (applyAll (.node n path) (scripts.map fun s => .action (.addScript s.1 s.2))).run w =
      (.ok r, w')) :
    (∀ s ∈ scripts, Action.HasScript w'.page s.1 s.2) ∧
      ∀ src script, Action.HasScript w.page src script → Action.HasScript w'.page src script := by
  induction scripts generalizing w r with
  | nil =>
    rw [List.map_nil, applyAll, Change.run_pure] at h
    cases h
    exact ⟨fun s hs => absurd hs List.not_mem_nil, fun _ _ => id⟩
  | cons s scripts ih =>
    rw [List.map_cons, applyAll] at h
    obtain ⟨first, v, hfirst, h⟩ := Change.run_bind_eq_ok.mp h
    obtain ⟨others, v', hothers, hend⟩ := Change.run_bind_eq_ok.mp h
    obtain rfl : v' = w' := by
      cases first <;> cases others <;> exact congrArg Prod.snd hend
    rw [apply, Action.apply] at hfirst
    obtain ⟨hv, hhas, hkept⟩ := Action.addScript_spec hw hfirst
    obtain ⟨hall, hkept'⟩ := ih hv hothers
    exact ⟨List.forall_mem_cons.mpr ⟨hkept' _ _ hhas, hall⟩,
      fun src script hold => hkept' _ _ (hkept _ _ hold)⟩

/-- A structural command, or one that is built from a structural call, finds nothing to do when it
is applied to the same target again, and applying it any number of times as one gives what
applying it once gives. -/
theorem structural_settles (hc : c.Structural ∨ c.IsStructuralCall) (hp : w.page.Reachable)
    (hpath : path ≠ Page.contentPath) (h : (c.apply (.node n path)).run w = (.ok r, w')) :
    (c.apply (.node n path)).run w' = (.ok none, w') ∧
      ∀ k, (applyAll (.node n path) (List.replicate (k + 1) c)).run w = (.ok r, w') := by
  have hc : c.Structural := hc.elim id IsStructuralCall.structural
  have hagain : (c.apply (.node n path)).run w' = (.ok none, w') := by
    cases hc with
    | action ha =>
      rw [apply, Action.apply] at h ⊢
      exact ha.settles hp.wellFormed hpath r w' h
    | scripts scripts =>
      rw [apply] at h ⊢
      exact run_scripts_of_has (scripts_spec hp.wellFormed h).1 n path
  have hidle : ∀ k, (applyAll (.node n path) (List.replicate k c)).run w' = (.ok none, w') := by
    intro k
    induction k with
    | zero => rw [List.replicate_zero, applyAll, Change.run_pure]
    | succ k ih => exact run_applyAll_of_none hagain ih
  exact ⟨hagain, fun k => run_applyAll_of_none h (hidle k)⟩

def headPage : Page :=
  .ofSnapshot {
    location := "x"
    root := .node (some "html") none [] [.node (some "head") none [] []] }

def twoScripts : Command :=
  .group [.action (.addScript none "a"), .action (.addScript (some "b") "c")]

def scriptedWorld : World :=
  ((twoScripts.apply (.node Page.root "title")).run { page := headPage }).2

theorem structural_settles_scripts :
    headPage.Reachable ∧ "title" ≠ Page.contentPath ∧
      (twoScripts.apply (.node Page.root "title")).run { page := headPage } =
        (.ok (some [.insertion 2, .insertion 3]), scriptedWorld) ∧
      (twoScripts.apply (.node Page.root "title")).run scriptedWorld = (.ok none, scriptedWorld) ∧
      scriptedWorld.page.children 1 = [2, 3] := by
  have hp : headPage.Reachable := .ofSnapshot _
  have hpath : "title" ≠ Page.contentPath := by decide
  have hc : twoScripts.Structural := .scripts [(none, "a"), (some "b", "c")]
  have hrun : (twoScripts.apply (.node Page.root "title")).run { page := headPage } =
      (.ok (some [.insertion 2, .insertion 3]), scriptedWorld) :=
    Prod.ext (by rfl) rfl
  exact ⟨hp, hpath, hrun, (structural_settles (.inl hc) hp hpath hrun).1, by decide +kernel⟩

end Command
end PageOverlay
